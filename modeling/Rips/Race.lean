import Rips.Invalidation

/-!
# An `ipv4_tx` racing the worker's ARP updates

`StackInterface::ipv4_tx` reads the next hop's MAC from the ARP table, and only afterwards does
`ethernet_tx` copy the barrier's version into the handle it returns.  The worker applies an
`UpdateArpTable` as an insert under the table's lock and then, if the binding changed, an
`inc` under the barrier's.  Here the application thread inside one `ipv4_tx` call and the
worker run side by side, one event per lock-protected step.  The barrier, the table and the
handles are an `InterfaceRun`, and every event that touches the barrier or the handles is
one or two of its events, so the invariant of `Invalidation` holds along every schedule.

A ghost list records each binding that an update fully processed by the worker replaced,
with the `inc` count after the update's `inc`.  A send of the returned handle is refused
whenever such an `inc` came after the handle's making; when it came between the lookup and
the making, the handle carries the replaced MAC and a version that is already current.
-/

namespace Rips

/-- The application's `ipv4_tx(dst, gw)` call, past `closest_local_ip`: `hop` is
`gw.unwrap_or(dst)` and `src` the local address chosen for it. -/
structure Ipv4TxCall where
  dst : Ipv4Addr
  hop : Ipv4Addr
  src : Ipv4Addr
  deriving DecidableEq, Repr

/-- Where the application thread stands in `ipv4_tx`. -/
inductive AppPc where
  /-- `arp_table.get(local_dst)` is next. -/
  | lookup
  /-- `get` handed out `waiter`; the ARP request is next. -/
  | request (waiter : Nat)
  /-- Blocked in `rx.recv()` on `waiter`. -/
  | waiting (waiter : Nat)
  /-- `dst_mac` is known; `self.ethernet_tx(dst_mac)` is next. -/
  | resolved (mac : MacAddr)
  /-- `ipv4_tx` returned `tx`, over the `index`-th handle made. -/
  | returned (index : Nat) (tx : Ipv4TxImpl)
  /-- The ARP request failed and `ipv4_tx` returned the error. -/
  | failed (e : StackError)
  deriving DecidableEq, Repr

/-- The binding of `ip` that binding it to `mac` replaces, if any. -/
def ArpTable.replacedBy (self : ArpTable) (ip : Ipv4Addr) (mac : MacAddr) : Option MacAddr :=
  match self.table.lookup ip with
  | some old => if old = mac then none else some old
  | none => none

/-- The two threads' state: the call being made, the interface's state that the locks guard,
the application's place in the call, and the worker's queue. -/
structure RaceState where
  call : Ipv4TxCall
  shared : InterfaceRun
  app : AppPc
  /-- The `UpdateArpTable` messages in the worker's queue, oldest first. -/
  queue : List (Ipv4Addr × MacAddr)
  /-- What the table's inserts sent on the waiters' channels. -/
  mailbox : List (Nat × MacAddr)
  /-- The binding the worker's last insert replaced, while its `inc` is owed. -/
  replacing : Option (Ipv4Addr × MacAddr)
  /-- The bindings replaced by fully processed updates, each with the `inc` count after the
  update's `inc`. -/
  replaced : List (Ipv4Addr × MacAddr × Nat)

/-- One lock-protected step of the application thread, of the worker, or of the receive
thread queueing an update for the worker. -/
inductive RaceEvent where
  /-- `arp_table.get(local_dst)`. -/
  | get
  /-- `tx_send!` of the ARP request; the datalink answers `answer`. -/
  | request (answer : Option (Except IoError Unit))
  /-- `rx.recv()` returning. -/
  | recv
  /-- `self.ethernet_tx(dst_mac)`: the version read, and `ipv4_tx` returning. -/
  | ethernetTx
  /-- A send of the returned transmitter; the datalink answers `answer`. -/
  | send (answer : Option (Except IoError Unit))
  /-- The receive thread queues `UpdateArpTable(ip, mac)` for an ARP reply. -/
  | arpReply (ip : Ipv4Addr) (mac : MacAddr)
  /-- The worker's `arp_table.insert` for the oldest queued update. -/
  | insert
  /-- The worker's `inc` after an insert that returned `true`. -/
  | inc

namespace RaceState

def start (iface : StackInterface) (call : Ipv4TxCall) (queue : List (Ipv4Addr × MacAddr)) :
    RaceState :=
  ⟨call, InterfaceRun.start iface, .lookup, queue, [], none, []⟩

def withArpTable (s : RaceState) (table : ArpTable) : InterfaceRun :=
  { s.shared with iface := { s.shared.iface with arpTable := table } }

/-- The request's `tx_send!` makes a fresh handle and sends on it, again while the send fails
with `InvalidTx`; a try that fails so changes nothing, and the last try is a handle made and
sent on with no `inc` between, so the datalink's answer is the result. -/
def step (s : RaceState) : RaceEvent → RaceState
  | .get =>
    match s.app with
    | .lookup =>
      match s.shared.iface.arpTable.get s.call.hop with
      | (.ok mac, table) => { s with shared := s.withArpTable table, app := .resolved mac }
      | (.error waiter, table) => { s with shared := s.withArpTable table, app := .request waiter }
    | _ => s
  | .request answer =>
    match s.app with
    | .request waiter =>
      let shared := s.shared.run [.tx (MacAddr.new 0xff 0xff 0xff 0xff 0xff 0xff),
        .send s.shared.handles.length (.arpRequest s.call.src s.call.hop) answer]
      match TxBarrier.ioResultToTxResult answer with
      | .error e => { s with shared := shared, app := .failed (.txError e) }
      | .ok () => { s with shared := shared, app := .waiting waiter }
    | _ => s
  | .recv =>
    match s.app with
    | .waiting waiter =>
      match s.mailbox.lookup waiter with
      | some mac => { s with app := .resolved mac }
      | none => s
    | _ => s
  | .ethernetTx =>
    match s.app with
    | .resolved mac =>
      { s with
        shared := s.shared.step (.tx mac)
        app := .returned s.shared.handles.length
          (Ipv4TxImpl.new (s.shared.iface.ethernetTx mac) s.call.src s.call.dst
            s.shared.iface.mtu) }
    | _ => s
  | .send answer =>
    match s.app with
    | .returned index tx =>
      { s with shared := s.shared.step (.send index (.ipv4 tx.src tx.dst) answer) }
    | _ => s
  | .arpReply ip mac => { s with queue := s.queue ++ [(ip, mac)] }
  | .insert =>
    match s.shared.worker, s.queue with
    | .idle, (ip, mac) :: rest =>
      { s with
        shared := s.shared.step (.updateArpTable ip mac)
        queue := rest
        mailbox :=
          s.mailbox ++ ((s.shared.iface.arpTable.insert ip mac).2.1.map fun w => (w, mac))
        replacing := (s.shared.iface.arpTable.replacedBy ip mac).map fun old => (ip, old) }
    | _, _ => s
  | .inc =>
    match s.shared.worker with
    | .incPending =>
      { s with
        shared := s.shared.step .arpInc
        replacing := none
        replaced :=
          s.replaced ++ (s.replacing.map fun b => (b.1, b.2, s.shared.incs + 1)).toList }
    | .idle => s

def run (s : RaceState) (events : List RaceEvent) : RaceState := events.foldl step s

@[simp] theorem run_cons (s : RaceState) (e : RaceEvent) (events : List RaceEvent) :
    run s (e :: events) = run (step s e) events := rfl

/-! ## What one step can do -/

/-- A step moves the shared state by events of the barrier run, or only rewrites the ARP
table. -/
theorem step_shared (s : RaceState) (e : RaceEvent) :
    (∃ events, (step s e).shared = s.shared.run events) ∨
      ∃ table, (step s e).shared = s.withArpTable table := by
  cases e <;> simp only [step] <;> repeat' split
  all_goals try dsimp only
  all_goals first
    | exact .inr ⟨_, rfl⟩
    | exact .inl ⟨_, rfl⟩
    | exact .inl ⟨[], rfl⟩
    | exact .inl ⟨[_], (InterfaceRun.run_singleton _ _).symm⟩

/-- Only the worker's `inc` adds a replaced binding, stamped with the `inc` count it leaves. -/
theorem step_replaced (s : RaceState) (e : RaceEvent) :
    (step s e).replaced = s.replaced ∨
      ∃ b, (step s e).replaced = s.replaced ++ [b] ∧ b.2.2 = (step s e).shared.incs := by
  cases e with
  | inc =>
    cases hw : s.shared.worker
    · exact .inl (by simp [step, hw])
    · have hincs := (InterfaceRun.step_barrier_of_callsInc
        (InterfaceRun.callsInc_arpInc_of_incPending hw)).2
      cases hb : s.replacing with
      | none => exact .inl (by simp [step, hw, hb])
      | some b =>
        exact .inr ⟨(b.1, b.2, s.shared.incs + 1), by simp [step, hw, hb],
          by simp [step, hw, hincs]⟩
  | _ =>
    refine .inl ?_
    simp only [step]
    all_goals (repeat' split) <;> rfl

/-- `ipv4_tx` returns only at `ethernet_tx`, with the handle that step makes. -/
theorem step_returned {s : RaceState} {e : RaceEvent} {index : Nat} {tx : Ipv4TxImpl}
    (h : (step s e).app = .returned index tx) :
    s.app = .returned index tx ∨ ∃ mac, index = s.shared.handles.length ∧
      (step s e).shared = s.shared.step (.tx mac) ∧
        tx.ethernet = s.shared.iface.ethernetTx mac := by
  cases e with
  | ethernetTx =>
    simp only [step] at h ⊢
    split at h
    · cases h
      exact .inr ⟨_, rfl, rfl, rfl⟩
    · exact .inl h
  | _ =>
    refine .inl ?_
    simp only [step] at h
    (repeat' split at h) <;> first | exact h | cases h

theorem step_incs_le (s : RaceState) (e : RaceEvent) :
    s.shared.incs ≤ (step s e).shared.incs := by
  rcases step_shared s e with ⟨events, h⟩ | ⟨table, h⟩
  · exact h ▸ InterfaceRun.run_incs_le _ events
  · exact h ▸ le_refl _

theorem step_handles_getElem? {s : RaceState} {index : Nat} {held : HeldTx}
    (hheld : s.shared.handles[index]? = some held) (e : RaceEvent) :
    (step s e).shared.handles[index]? = some held := by
  rcases step_shared s e with ⟨events, h⟩ | ⟨table, h⟩
  · exact h ▸ InterfaceRun.run_handles_getElem? hheld events
  · exact h ▸ hheld

/-! ## The invariant -/

/-- What holds along every schedule: the handles stay current up to the `inc` calls since
their making, every replacement was stamped with an `inc` count already reached, and the
returned transmitter is over the handle its index names. -/
structure Inv (s : RaceState) : Prop where
  handlesCurrent : s.shared.HandlesCurrent
  replaced_le : ∀ b ∈ s.replaced, b.2.2 ≤ s.shared.incs
  returned : ∀ index tx, s.app = .returned index tx →
    ∃ held, s.shared.handles[index]? = some held ∧ held.ethernet = tx.ethernet

theorem start_inv (iface : StackInterface) (call : Ipv4TxCall)
    (queue : List (Ipv4Addr × MacAddr)) : (start iface call queue).Inv where
  handlesCurrent := InterfaceRun.start_handlesCurrent iface
  replaced_le := by simp [start]
  returned := by simp [start]

theorem step_inv {s : RaceState} (hs : s.Inv) (e : RaceEvent) : (step s e).Inv where
  handlesCurrent := by
    rcases step_shared s e with ⟨events, h⟩ | ⟨table, h⟩
    · exact h ▸ InterfaceRun.run_handlesCurrent hs.handlesCurrent events
    · exact h ▸ hs.handlesCurrent
  replaced_le := by
    have hle := step_incs_le s e
    rcases step_replaced s e with h | ⟨b, h, hb⟩
    · exact h ▸ fun b hmem => (hs.replaced_le b hmem).trans hle
    · rw [h]
      intro b' hmem
      rcases List.mem_append.mp hmem with hold | hnew
      · exact (hs.replaced_le b' hold).trans hle
      · exact (List.mem_singleton.mp hnew) ▸ hb.le
  returned := by
    intro index tx happ
    rcases step_returned happ with hold | ⟨mac, rfl, hshared, htx⟩
    · obtain ⟨held, hheld, hethernet⟩ := hs.returned index tx hold
      exact ⟨held, step_handles_getElem? hheld e, hethernet⟩
    · exact ⟨⟨s.shared.iface.ethernetTx mac, s.shared.incs⟩, by simp [hshared, InterfaceRun.step],
        htx.symm⟩

theorem run_inv {s : RaceState} (hs : s.Inv) : ∀ events, (run s events).Inv
  | [] => hs
  | e :: events => run_inv (step_inv hs e) events

/-- Along every schedule, a send of the returned transmitter fails with `InvalidTx`, nothing sent
and nothing changed, once an update that replaced a binding has done its `inc` after the
transmitter's making, while fewer than `2^64` calls of `inc` have followed the making. -/
theorem send_refused_of_replaced_after_ethernetTx {s : RaceState} (hs : s.Inv) {index : Nat}
    {tx : Ipv4TxImpl} (happ : s.app = .returned index tx) {held : HeldTx}
    (hheld : s.shared.handles[index]? = some held) {b : Ipv4Addr × MacAddr × Nat}
    (hreplaced : b ∈ s.replaced) (hafter : held.incsAtCreation < b.2.2)
    (hwrap : s.shared.incs - held.incsAtCreation < 2 ^ 64)
    (answer : Option (Except IoError Unit)) :
    tx.ethernet.transmit s.shared.iface.data.barrier (.ipv4 tx.src tx.dst) answer =
        (s.shared.iface.data.barrier, .error .invalidTx) ∧
      step s (.send answer) = s := by
  have hstale : held.incsAtCreation < s.shared.incs :=
    lt_of_lt_of_le hafter (hs.replaced_le b hreplaced)
  have hrefused := InterfaceRun.transmit_of_stale hs.handlesCurrent
    (List.getElem?_mem hheld) hstale hwrap (.ipv4 tx.src tx.dst) answer
  obtain ⟨held', hheld', hethernet⟩ := hs.returned index tx happ
  obtain rfl : held' = held := Option.some.inj (hheld'.symm.trans hheld)
  refine ⟨hethernet ▸ hrefused, ?_⟩
  simp only [step, happ, InterfaceRun.step, hheld, hrefused, InterfaceRun.withBarrier]
  rw [← happ]

end RaceState

/-! ## The race -/

def eth0Resolved : StackInterface :=
  StackInterfaceThread.updateArp eth0 ⟨10, 0, 0, 2⟩ (MacAddr.new 0 0x11 0x22 0x33 0x44 0x55)

/-- The neighbour `10.0.0.2` moves to `00:11:22:33:44:66`.  The application looks up the old
MAC, the worker inserts the new one and bumps the barrier, and only then does `ethernet_tx`
read the version: the returned handle is current, and its frame goes past the barrier to the
replaced MAC. -/
theorem ipv4Tx_race_sends_to_replaced_mac :
    (RaceState.run (RaceState.start eth0Resolved ⟨⟨10, 0, 0, 2⟩, ⟨10, 0, 0, 2⟩, ⟨10, 0, 0, 1⟩⟩
        [(⟨10, 0, 0, 2⟩, MacAddr.new 0 0x11 0x22 0x33 0x44 0x66)])
      [.get, .insert, .inc, .ethernetTx, .send (some (.ok ()))]).replaced =
      [(⟨10, 0, 0, 2⟩, MacAddr.new 0 0x11 0x22 0x33 0x44 0x55, 1)] ∧
    (RaceState.run (RaceState.start eth0Resolved ⟨⟨10, 0, 0, 2⟩, ⟨10, 0, 0, 2⟩, ⟨10, 0, 0, 1⟩⟩
        [(⟨10, 0, 0, 2⟩, MacAddr.new 0 0x11 0x22 0x33 0x44 0x66)])
      [.get, .insert, .inc, .ethernetTx, .send (some (.ok ()))]).shared.iface.data.barrier.sent =
      [⟨MacAddr.new 2 0 0 0 0 1, MacAddr.new 0 0x11 0x22 0x33 0x44 0x55,
        .ipv4 ⟨10, 0, 0, 1⟩ ⟨10, 0, 0, 2⟩⟩] := by
  decide

/-! ## Every reachable state -/

namespace RaceState

/-- The states that some schedule reaches from the start of a call. -/
def Reachable (s : RaceState) : Prop :=
  ∃ iface call queue events, s = run (start iface call queue) events

theorem Reachable.inv {s : RaceState} (h : s.Reachable) : s.Inv := by
  obtain ⟨iface, call, queue, events, rfl⟩ := h
  exact run_inv (start_inv iface call queue) events

/-- In every state a schedule reaches, a send of the returned transmitter fails with
`InvalidTx`, nothing sent and nothing changed, once an update that replaced a binding has done
its `inc` after the transmitter's making, while fewer than `2^64` calls of `inc` have followed
the making. -/
theorem send_refused_of_reachable {s : RaceState} (hs : s.Reachable) {index : Nat}
    {tx : Ipv4TxImpl} (happ : s.app = .returned index tx) {held : HeldTx}
    (hheld : s.shared.handles[index]? = some held) {b : Ipv4Addr × MacAddr × Nat}
    (hreplaced : b ∈ s.replaced) (hafter : held.incsAtCreation < b.2.2)
    (hwrap : s.shared.incs - held.incsAtCreation < 2 ^ 64)
    (answer : Option (Except IoError Unit)) :
    tx.ethernet.transmit s.shared.iface.data.barrier (.ipv4 tx.src tx.dst) answer =
        (s.shared.iface.data.barrier, .error .invalidTx) ∧
      step s (.send answer) = s :=
  send_refused_of_replaced_after_ethernetTx hs.inv happ hheld hreplaced hafter hwrap answer

/-- The application returns its transmitter to `00:11:22:33:44:55` before the worker
processes the update of `10.0.0.2` to `00:11:22:33:44:66`. -/
def eth0StaleReturn : RaceState :=
  run (start eth0Resolved ⟨⟨10, 0, 0, 2⟩, ⟨10, 0, 0, 2⟩, ⟨10, 0, 0, 1⟩⟩
      [(⟨10, 0, 0, 2⟩, MacAddr.new 0 0x11 0x22 0x33 0x44 0x66)])
    [.get, .ethernetTx, .insert, .inc]

theorem send_refused_eth0StaleReturn :
    eth0StaleReturn.Reachable ∧
    eth0StaleReturn.app = .returned 0 ⟨eth0Resolved.ethernetTx
      (MacAddr.new 0 0x11 0x22 0x33 0x44 0x55), ⟨10, 0, 0, 1⟩, ⟨10, 0, 0, 2⟩, eth0Resolved.mtu⟩ ∧
    eth0StaleReturn.shared.handles[0]? =
      some ⟨eth0Resolved.ethernetTx (MacAddr.new 0 0x11 0x22 0x33 0x44 0x55), 0⟩ ∧
    (⟨10, 0, 0, 2⟩, MacAddr.new 0 0x11 0x22 0x33 0x44 0x55, 1) ∈ eth0StaleReturn.replaced ∧
    0 < 1 ∧ eth0StaleReturn.shared.incs - 0 < 2 ^ 64 ∧
    (eth0Resolved.ethernetTx (MacAddr.new 0 0x11 0x22 0x33 0x44 0x55)).transmit
        eth0StaleReturn.shared.iface.data.barrier (.ipv4 ⟨10, 0, 0, 1⟩ ⟨10, 0, 0, 2⟩)
        (some (.ok ())) =
      (eth0StaleReturn.shared.iface.data.barrier, .error .invalidTx) ∧
    step eth0StaleReturn (.send (some (.ok ()))) = eth0StaleReturn :=
  have hs : eth0StaleReturn.Reachable := ⟨_, _, _, _, rfl⟩
  have happ : eth0StaleReturn.app = .returned 0 ⟨eth0Resolved.ethernetTx
      (MacAddr.new 0 0x11 0x22 0x33 0x44 0x55), ⟨10, 0, 0, 1⟩, ⟨10, 0, 0, 2⟩,
      eth0Resolved.mtu⟩ := by decide
  have hheld : eth0StaleReturn.shared.handles[0]? =
      some ⟨eth0Resolved.ethernetTx (MacAddr.new 0 0x11 0x22 0x33 0x44 0x55), 0⟩ := by decide
  have hreplaced : (⟨10, 0, 0, 2⟩, MacAddr.new 0 0x11 0x22 0x33 0x44 0x55, 1) ∈
      eth0StaleReturn.replaced := by decide
  have hwrap : eth0StaleReturn.shared.incs - 0 < 2 ^ 64 := by decide
  ⟨hs, happ, hheld, hreplaced, by decide, hwrap,
    send_refused_of_reachable hs happ hheld hreplaced (by decide) hwrap (some (.ok ()))⟩

end RaceState

end Rips
