import Rips.Interface

/-!
# The interface worker's loop

`StackInterfaceThread::run` hands the messages of its queue, in order, to `process_msg` until
that answers `false`, which only `Shutdown` does, or until the queue's senders are gone.  Over
any queue the worker therefore does what the messages before the first `Shutdown` ask and
nothing more.  It writes only the ARP table and the barrier: the table ends as the table it
started with after the inserts of the processed `UpdateArpTable`s in order, the barrier's
version moves by one for each of those inserts that changed a binding, and the datalink
receives one ARP reply, to the broadcast MAC, for each processed `ArpRequest` whose target is
a local address.
-/

namespace Rips

def StackInterfaceMsg.arpUpdate : StackInterfaceMsg → Option (Ipv4Addr × MacAddr)
  | .updateArpTable ip mac => some (ip, mac)
  | _ => none

/-- The reply the worker of `iface` sends for a message: an `ArpRequest` for one of its
addresses is answered from its MAC, through its broadcast transmitter. -/
def StackInterfaceMsg.arpReplyOf (iface : StackInterface) : StackInterfaceMsg → Option DatalinkSend
  | .arpRequest senderIp senderMac targetIp =>
    if targetIp ∈ iface.data.ipv4Addresses then
      some ⟨iface.data.interface.mac, MacAddr.new 0xff 0xff 0xff 0xff 0xff 0xff,
        .arpReply targetIp senderMac senderIp⟩
    else none
  | _ => none

namespace StackInterfaceThread

abbrev QueuedMsg := StackInterfaceMsg × Option (Except IoError Unit)

/-- `run`: `process_msg` on each message until one answers `false`; the loop also ends with
the queue, as `recv` fails once every sender is gone. -/
def run (iface : StackInterface) : List QueuedMsg → StackInterface
  | [] => iface
  | (msg, answer) :: queue =>
    match processMsg iface msg answer with
    | (true, iface) => run iface queue
    | (false, iface) => iface

def processed (queue : List QueuedMsg) : List QueuedMsg :=
  queue.takeWhile fun m => m.1 != .shutdown

def processAll (iface : StackInterface) (msgs : List QueuedMsg) : StackInterface :=
  msgs.foldl (fun iface m => (processMsg iface m.1 m.2).2) iface

/-- The inserts of `updates`, in order, that change a binding of the table they write. -/
def changingInserts :
    AList (fun _ : Ipv4Addr => MacAddr) → List (Ipv4Addr × MacAddr) → Nat
  | _, [] => 0
  | table, (ip, mac) :: updates =>
    (if table.lookup ip = some mac then 0 else 1) + changingInserts (table.insert ip mac) updates

/-! ## One message -/

theorem processMsg_frame (iface : StackInterface) (msg : StackInterfaceMsg)
    (answer : Option (Except IoError Unit)) :
    ∃ table barrier, (processMsg iface msg answer).2 =
      { iface with arpTable := table, data := { iface.data with barrier := barrier } } := by
  cases msg with
  | updateArpTable ip mac =>
    unfold processMsg updateArp
    dsimp only
    split <;> exact ⟨_, _, rfl⟩
  | arpRequest senderIp senderMac targetIp =>
    dsimp only [processMsg, handleArpRequest]
    split_ifs <;> exact ⟨_, _, rfl⟩
  | shutdown => exact ⟨_, _, rfl⟩

theorem processMsg_table (iface : StackInterface) (msg : StackInterfaceMsg)
    (answer : Option (Except IoError Unit)) :
    (processMsg iface msg answer).2.arpTable.table =
      (msg.arpUpdate.map fun u => iface.arpTable.table.insert u.1 u.2).getD
        iface.arpTable.table := by
  cases msg with
  | updateArpTable ip mac =>
    unfold processMsg updateArp
    dsimp only
    split <;> rfl
  | arpRequest senderIp senderMac targetIp =>
    dsimp only [processMsg, handleArpRequest]
    split_ifs <;> rfl
  | shutdown => rfl

theorem processMsg_sent (iface : StackInterface) (msg : StackInterfaceMsg)
    (answer : Option (Except IoError Unit)) :
    (processMsg iface msg answer).2.data.barrier.sent =
      iface.data.barrier.sent ++ (msg.arpReplyOf iface).toList := by
  cases msg with
  | updateArpTable ip mac =>
    unfold processMsg updateArp
    dsimp only
    split <;> simp [StackInterfaceMsg.arpReplyOf]
  | arpRequest senderIp senderMac targetIp =>
    rw [processMsg, handleArpRequest_sent, StackInterfaceMsg.arpReplyOf]
    split_ifs <;> simp
  | shutdown => simp [processMsg, StackInterfaceMsg.arpReplyOf]

theorem processMsg_version (iface : StackInterface) (msg : StackInterfaceMsg)
    (answer : Option (Except IoError Unit)) :
    (processMsg iface msg answer).2.data.barrier.version.toNat =
      (iface.data.barrier.version.toNat +
        changingInserts iface.arpTable.table msg.arpUpdate.toList) % 2 ^ 64 := by
  have hlt : iface.data.barrier.version.toNat < 2 ^ 64 := iface.data.barrier.version.toNat_lt_size
  cases msg with
  | updateArpTable ip mac =>
    unfold processMsg updateArp
    dsimp only
    split <;> rename_i hchanged <;> simp only [ArpTable.insert_changed, not_not] at hchanged
    · simp [StackInterfaceMsg.arpUpdate, changingInserts, hchanged, TxBarrier.inc_version_toNat]
    · simp [StackInterfaceMsg.arpUpdate, changingInserts, hchanged]
      omega
  | arpRequest senderIp senderMac targetIp =>
    dsimp only [processMsg, handleArpRequest]
    split_ifs
    · simp [StackInterfaceMsg.arpUpdate, changingInserts, StackInterfaceData.txSend,
        StackInterfaceData.arpReplyTx, ArpReplyTx.send, StackInterfaceData.transmit_ethernetTx]
      omega
    · simp [StackInterfaceMsg.arpUpdate, changingInserts]
      omega
  | shutdown =>
    simp [processMsg, StackInterfaceMsg.arpUpdate, changingInserts]
    omega

/-- Rewriting the table or the barrier changes no reply the worker would send. -/
theorem arpReplyOf_processMsg (iface : StackInterface) (msg : StackInterfaceMsg)
    (answer : Option (Except IoError Unit)) (m : StackInterfaceMsg) :
    m.arpReplyOf (processMsg iface msg answer).2 = m.arpReplyOf iface := by
  obtain ⟨table, barrier, h⟩ := processMsg_frame iface msg answer
  rw [h]
  rfl

/-! ## Whole runs -/

@[simp] theorem processAll_cons (iface : StackInterface) (m : QueuedMsg) (msgs : List QueuedMsg) :
    processAll iface (m :: msgs) = processAll (processMsg iface m.1 m.2).2 msgs := rfl

/-- The loop, `break` included, acts on exactly the messages before the first `Shutdown`. -/
theorem run_eq_processAll (iface : StackInterface) :
    ∀ queue, run iface queue = processAll iface (processed queue)
  | [] => rfl
  | (msg, answer) :: queue => by
    cases msg with
    | shutdown => rfl
    | updateArpTable ip mac => exact run_eq_processAll _ queue
    | arpRequest senderIp senderMac targetIp => exact run_eq_processAll _ queue

/-- Nothing queued after a `Shutdown` is ever processed. -/
theorem run_append_shutdown (iface : StackInterface) (answer : Option (Except IoError Unit))
    (post : List QueuedMsg) : ∀ pre, run iface (pre ++ (.shutdown, answer) :: post) = run iface pre
  | [] => rfl
  | (msg, answer') :: pre => by
    cases msg with
    | shutdown => rfl
    | updateArpTable ip mac => exact run_append_shutdown _ answer post pre
    | arpRequest senderIp senderMac targetIp => exact run_append_shutdown _ answer post pre

variable (iface : StackInterface) (msgs : List QueuedMsg)

theorem processAll_frame :
    ∃ table barrier, processAll iface msgs =
      { iface with arpTable := table, data := { iface.data with barrier := barrier } } := by
  induction msgs generalizing iface with
  | nil => exact ⟨_, _, rfl⟩
  | cons m msgs ih =>
    obtain ⟨table, barrier, hstep⟩ := processMsg_frame iface m.1 m.2
    obtain ⟨table', barrier', hrest⟩ := ih (processMsg iface m.1 m.2).2
    rw [processAll_cons, hrest, hstep]
    exact ⟨table', barrier', rfl⟩

theorem processAll_table :
    (processAll iface msgs).arpTable.table =
      (msgs.filterMap (·.1.arpUpdate)).foldl (fun t u => t.insert u.1 u.2)
        iface.arpTable.table := by
  induction msgs generalizing iface with
  | nil => rfl
  | cons m msgs ih =>
    rw [processAll_cons, ih, processMsg_table, List.filterMap_cons]
    cases m.1.arpUpdate <;> rfl

theorem processAll_sent :
    (processAll iface msgs).data.barrier.sent =
      iface.data.barrier.sent ++ msgs.filterMap (·.1.arpReplyOf iface) := by
  induction msgs generalizing iface with
  | nil => simp [processAll]
  | cons m msgs ih =>
    rw [processAll_cons, ih, processMsg_sent, List.filterMap_cons]
    simp only [arpReplyOf_processMsg]
    cases m.1.arpReplyOf iface <;> simp

theorem processAll_version :
    (processAll iface msgs).data.barrier.version.toNat =
      (iface.data.barrier.version.toNat +
        changingInserts iface.arpTable.table (msgs.filterMap (·.1.arpUpdate))) % 2 ^ 64 := by
  induction msgs generalizing iface with
  | nil => simpa [processAll, changingInserts] using
      (Nat.mod_eq_of_lt iface.data.barrier.version.toNat_lt_size).symm
  | cons m msgs ih =>
    rw [processAll_cons, ih, processMsg_version, processMsg_table, Nat.mod_add_mod,
      List.filterMap_cons]
    rcases m.1.arpUpdate with _ | ⟨ip, mac⟩
    · simp [changingInserts]
    · simp only [changingInserts, Option.toList_some, Option.map_some', Option.getD_some]
      omega

/-- Every run of the worker over any queue: it writes only the ARP table and the barrier; the
table is the one it started with after the inserts of the updates before the first
`Shutdown`, in order; the datalink receives exactly the replies to the requests among those
messages for local addresses; and the version has moved once per insert that changed a
binding, round the 64-bit circle. -/
theorem run_spec (queue : List QueuedMsg) :
    (∃ table barrier, run iface queue =
      { iface with arpTable := table, data := { iface.data with barrier := barrier } }) ∧
    (run iface queue).arpTable.table =
      ((processed queue).filterMap (·.1.arpUpdate)).foldl (fun t u => t.insert u.1 u.2)
        iface.arpTable.table ∧
    (run iface queue).data.barrier.sent =
      iface.data.barrier.sent ++ (processed queue).filterMap (·.1.arpReplyOf iface) ∧
    (run iface queue).data.barrier.version.toNat =
      (iface.data.barrier.version.toNat +
        changingInserts iface.arpTable.table ((processed queue).filterMap (·.1.arpUpdate))) %
          2 ^ 64 := by
  rw [run_eq_processAll]
  exact ⟨processAll_frame _ _, processAll_table _ _, processAll_sent _ _, processAll_version _ _⟩

end StackInterfaceThread

end Rips
