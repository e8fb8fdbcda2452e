import Rips.Serial
import Rips.Wakeup
import Rips.Wire

/-!
# ARP between two stacks on one link

Host `A` resolves the next hop of one `ipv4_tx` call as `Race` runs it: the call, `A`'s worker
and `A`'s receive thread, in any order.  On the link is one peer `B`: the interface `i` of a
whole stack that runs any interleaving of `Wire` from `NetworkStack::new`, its worker taking
whatever ARP messages its own receive thread passes on.  `A`'s receive thread reads the frames
sent on `i` in their order, each once, and queues for `A`'s worker what `ArpRx` queues: the
sender's binding of each ARP frame.  Along every interleaving of the two hosts, every binding
`A` learns maps one of `i`'s local addresses to `i`'s MAC, and a call for a hop `A` did not know
returns, if it returns, a transmitter addressed to `i`'s MAC.  On `A`'s side this is that the
call uses only bindings its table had or its receive thread queued; on `B`'s, that a stack sends
only its own frames.  And the call does return on the schedule of one request and its answer,
once the peer holds the hop.
-/

namespace Rips

/-- Modelled from the spec: what `ArpRx` queues for the worker on a received frame:
`UpdateArpTable(sender_ip, sender_mac)` for a reply, and for a request that and
`ArpRequest(sender_ip, sender_mac, target_ip)`; an IPv4 packet is not ARP's.  The sender MAC of
an ARP packet that `ArpRequestTx` or `ArpReplyTx` builds is the source of the Ethernet
transmitter under it, the frame's `src`. -/
def arpRx (f : DatalinkSend) : List StackInterfaceMsg :=
  match f.payload with
  | .arpReply senderIp _ _ => [.updateArpTable senderIp f.src]
  | .arpRequest senderIp targetIp =>
    [.updateArpTable senderIp f.src, .arpRequest senderIp f.src targetIp]
  | .ipv4 _ _ => []

theorem eq_of_mem_arpRx {f : DatalinkSend} {b : Ipv4Addr × MacAddr}
    (h : b ∈ (arpRx f).filterMap StackInterfaceMsg.arpUpdate) :
    b = (f.payload.senderIp, f.src) := by
  rcases f with ⟨src, dst, _ | _ | _⟩ <;>
    simp [arpRx, StackInterfaceMsg.arpUpdate, Transmission.senderIp] at h ⊢ <;> exact h

def AppPc.dstMac : AppPc → Option MacAddr
  | .resolved mac => some mac
  | .returned _ tx => some tx.ethernet.dst
  | _ => none

/-! ## Where the call's MAC comes from -/

namespace RaceState

section Learning

variable (good : Ipv4Addr → MacAddr → Prop) (table₀ : AList fun _ : Ipv4Addr => MacAddr)

/-- What the call can use comes from `table₀` or satisfies `good`: the queued updates, the
table's bindings, the MACs the inserts sent the waiters, and the MAC the call settled on. -/
structure LearnsFrom (s : RaceState) : Prop where
  queue : ∀ b ∈ s.queue, good b.1 b.2
  table : ∀ ip mac, s.shared.iface.arpTable.table.lookup ip = some mac →
    table₀.lookup ip = some mac ∨ good ip mac
  mailbox : ∀ m ∈ s.mailbox, ∃ ip, good ip m.2
  app : ∀ mac, s.app.dstMac = some mac →
    table₀.lookup s.call.hop = some mac ∨ ∃ ip, good ip mac

variable {good table₀}

theorem start_learnsFrom (iface : StackInterface) (call : Ipv4TxCall) :
    (start iface call []).LearnsFrom good iface.arpTable.table where
  queue := by simp [start]
  table _ _ h := .inl h
  mailbox := by simp [start]
  app := by simp [start, AppPc.dstMac]

theorem LearnsFrom.mono {good' : Ipv4Addr → MacAddr → Prop} {s : RaceState}
    (h : s.LearnsFrom good table₀) (hgood : ∀ ip mac, good ip mac → good' ip mac) :
    s.LearnsFrom good' table₀ where
  queue b hb := hgood _ _ (h.queue b hb)
  table ip mac hl := (h.table ip mac hl).imp_right (hgood ip mac)
  mailbox m hm := (h.mailbox m hm).imp fun ip => hgood ip m.2
  app mac hm := (h.app mac hm).imp_right fun ⟨ip, hg⟩ => ⟨ip, hgood ip mac hg⟩

/-- A step that keeps the call, the queue, the table's bindings and the mailbox, and settles on
no MAC the state had not, keeps what the call can use. -/
theorem LearnsFrom.of_frame {s s' : RaceState} (h : s.LearnsFrom good table₀)
    (hcall : s'.call = s.call) (hqueue : s'.queue = s.queue)
    (htable : s'.shared.iface.arpTable.table = s.shared.iface.arpTable.table)
    (hmailbox : s'.mailbox = s.mailbox)
    (happ : ∀ mac, s'.app.dstMac = some mac → s.app.dstMac = some mac) :
    s'.LearnsFrom good table₀ where
  queue := hqueue ▸ h.queue
  table := htable ▸ h.table
  mailbox := hmailbox ▸ h.mailbox
  app mac hm := hcall ▸ h.app mac (happ mac hm)

/-- No step of the call or of the worker brings in a MAC from elsewhere; the receive thread
queues only what `hreply` allows. -/
theorem step_learnsFrom {s : RaceState} (h : s.LearnsFrom good table₀) (e : RaceEvent)
    (hreply : ∀ ip mac, e = .arpReply ip mac → good ip mac) :
    (step s e).LearnsFrom good table₀ := by
  cases e with
  | get =>
    cases happ : s.app
    case lookup =>
      cases hmac : s.shared.iface.arpTable.table.lookup s.call.hop with
      | some mac =>
        simp only [step, happ, ArpTable.get_of_lookup_some hmac]
        refine ⟨h.queue, h.table, h.mailbox, fun mac' hm => ?_⟩
        cases hm
        exact (h.table _ _ hmac).imp_right fun hgood => ⟨_, hgood⟩
      | none =>
        simp only [step, happ, ArpTable.get_of_lookup_none hmac]
        exact h.of_frame rfl rfl rfl rfl fun _ hm => by cases hm
    all_goals simpa only [step, happ] using h
  | request answer =>
    cases happ : s.app
    case request waiter =>
      have htable : (s.shared.run [.tx (MacAddr.new 0xff 0xff 0xff 0xff 0xff 0xff),
          .send s.shared.handles.length (.arpRequest s.call.src s.call.hop) answer]
          ).iface.arpTable = s.shared.iface.arpTable := by
        simp only [InterfaceRun.run_cons, InterfaceRun.run_nil, InterfaceRun.step_send_arpTable,
          InterfaceRun.step_tx_iface]
      cases hanswer : TxBarrier.ioResultToTxResult answer <;> simp only [step, happ, hanswer] <;>
        exact h.of_frame rfl rfl (by rw [htable]) rfl fun _ hm => by cases hm
    all_goals simpa only [step, happ] using h
  | recv =>
    cases happ : s.app
    case waiting waiter =>
      cases hm : s.mailbox.lookup waiter with
      | none => simpa only [step, happ, hm] using h
      | some mac =>
        simp only [step, happ, hm]
        refine ⟨h.queue, h.table, h.mailbox, fun mac' hmac' => .inr ?_⟩
        cases hmac'
        obtain ⟨l₁, l₂, hl, -⟩ := List.lookup_eq_some_iff.mp hm
        exact h.mailbox _ (hl ▸ List.mem_append_right _ (List.mem_cons_self _ _))
    all_goals simpa only [step, happ] using h
  | ethernetTx =>
    cases happ : s.app
    case resolved mac =>
      simp only [step, happ]
      exact h.of_frame rfl rfl (by simp only [InterfaceRun.step_tx_iface]) rfl fun mac' hm => by
        simpa [happ, AppPc.dstMac, Ipv4TxImpl.new, StackInterface.ethernetTx] using hm
    all_goals simpa only [step, happ] using h
  | send answer =>
    cases happ : s.app
    case returned index tx =>
      simp only [step, happ]
      exact h.of_frame rfl rfl (by rw [InterfaceRun.step_send_arpTable]) rfl fun _ hm => by
        rw [happ]
        exact hm
    all_goals simpa only [step, happ] using h
  | arpReply ip mac =>
    refine ⟨fun b hb => ?_, h.table, h.mailbox, h.app⟩
    rcases List.mem_append.mp hb with hb | hb
    · exact h.queue b hb
    · rw [List.mem_singleton.mp hb]
      exact hreply ip mac rfl
  | insert =>
    cases hw : s.shared.worker <;> cases hq : s.queue
    case idle.cons head rest =>
      obtain ⟨ip, mac⟩ := head
      have hgood : good ip mac := h.queue _ (hq ▸ List.mem_cons_self _ _)
      simp only [step, hw, hq, InterfaceRun.step, ArpTable.insert_table]
      refine ⟨fun b hb => h.queue b (hq ▸ List.mem_cons_of_mem _ hb), fun ip' mac' hl => ?_,
        fun m hm => ?_, h.app⟩
      · simp only [ArpTable.insert_table] at hl
        by_cases hip : ip' = ip
        · subst hip
          rw [AList.lookup_insert, Option.some.injEq] at hl
          exact .inr (hl ▸ hgood)
        · exact h.table ip' mac' (by rwa [AList.lookup_insert_ne hip] at hl)
      · simp only at hm
        rcases List.mem_append.mp hm with hm | hm
        · exact h.mailbox m hm
        · obtain ⟨w, -, rfl⟩ := List.mem_map.mp hm
          exact ⟨ip, hgood⟩
    all_goals simpa only [step, hw, hq] using h
  | inc =>
    cases hw : s.shared.worker
    · simpa only [step, hw] using h
    · simp only [step, hw]
      exact h.of_frame rfl rfl (by rw [InterfaceRun.step_arpInc_arpTable]) rfl fun _ hm => hm

/-- Along every schedule whose receive thread queues only what `good` allows, the call uses
only bindings of `table₀` or bindings `good` allows. -/
theorem run_learnsFrom {s : RaceState} (h : s.LearnsFrom good table₀) :
    ∀ events : List RaceEvent, (∀ e ∈ events, ∀ ip mac, e = .arpReply ip mac → good ip mac) →
      (run s events).LearnsFrom good table₀
  | [], _ => h
  | e :: events, hreply =>
    run_learnsFrom (step_learnsFrom h e (hreply e (List.mem_cons_self _ _))) events
      fun e' he' => hreply e' (List.mem_cons_of_mem _ he')

end Learning

end RaceState

/-! ## The peer's addresses -/

/-- Every interface of `ns` is in `ns'`, with every local address it had. -/
def NetworkStack.KeepsAddresses (ns ns' : NetworkStack) : Prop :=
  ∀ i si, ns.interfaces.lookup i = some si →
    ∃ si', ns'.interfaces.lookup i = some si' ∧ ∀ ip ∈ si.ipv4Datas, ip ∈ si'.ipv4Datas

namespace NetworkStack

theorem Keeps.keepsAddresses {ns ns' : NetworkStack} (h : ns.Keeps ns') : ns.KeepsAddresses ns' :=
  fun i si hsi =>
    let ⟨si', hsi', hk⟩ := h.interfaces i si hsi
    ⟨si', hsi', fun _ => hk.mem_ipv4Datas⟩

theorem keepsAddresses_replace {self : NetworkStack} {interface : Interface}
    {si si' : StackInterface} (hsi : self.interfaces.lookup interface = some si)
    (hdatas : si'.ipv4Datas = si.ipv4Datas) (table : RoutingTable) :
    self.KeepsAddresses ⟨self.interfaces.replace interface si', table⟩ := by
  intro i si'' hsi''
  by_cases hi : i = interface
  · subst hi
    rw [hsi, Option.some.injEq] at hsi''
    subst hsi''
    exact ⟨si', lookup_replace_self (AList.lookup_isSome.mp (by simp [hsi])), hdatas ▸ fun _ => id⟩
  · exact ⟨si'', (lookup_replace_of_ne _ hi).trans hsi'', fun _ => id⟩

/-- `ip` is a local address of the stack's interface `i`, and `mac` is `i`'s MAC. -/
def OwnBinding (ns : NetworkStack) (i : Interface) (ip : Ipv4Addr) (mac : MacAddr) : Prop :=
  mac = i.mac ∧ ∃ si, ns.interfaces.lookup i = some si ∧ ip ∈ si.ipv4Datas

theorem KeepsAddresses.ownBinding {ns ns' : NetworkStack} (h : ns.KeepsAddresses ns')
    {i : Interface} {ip : Ipv4Addr} {mac : MacAddr} (hb : ns.OwnBinding i ip mac) :
    ns'.OwnBinding i ip mac :=
  let ⟨hmac, si, hsi, hip⟩ := hb
  let ⟨si', hsi', hkeep⟩ := h i si hsi
  ⟨hmac, si', hsi', hkeep ip hip⟩

def sentOn (ns : NetworkStack) (i : Interface) : List DatalinkSend :=
  ((ns.interfaces.lookup i).map fun si => si.data.barrier.sent).getD []

/-- A frame sent on an interface of a well-formed stack that sends only its own frames speaks
for one of the interface's addresses, from its MAC. -/
theorem ownBinding_of_mem_sentOn {ns : NetworkStack} (hwf : ns.Wf) (hsends : ns.SendsOwn)
    {i : Interface} {f : DatalinkSend} (hf : f ∈ ns.sentOn i) :
    ns.OwnBinding i f.payload.senderIp f.src := by
  unfold sentOn at hf
  cases hsi : ns.interfaces.lookup i with
  | none => simp [hsi] at hf
  | some si =>
    simp only [hsi, Option.map_some', Option.getD_some] at hf
    obtain ⟨hsrc, hip⟩ := hsends i si hsi f hf
    exact ⟨hsrc.trans (congrArg Interface.mac (hwf.interface_eq i si hsi)), si, hsi, hip⟩

/-- Given an ARP request for a local address of its interface `i`, the worker of a well-formed
stack sends one answer on `i`: from `i`'s MAC, to the broadcast address, for the address
asked. -/
theorem sentOn_processOn_arpRequest {ns : NetworkStack} (hwf : ns.Wf) {i : Interface}
    {si : StackInterface} (hsi : ns.interfaces.lookup i = some si) {targetIp : Ipv4Addr}
    (hlocal : targetIp ∈ si.ipv4Datas) (senderIp : Ipv4Addr) (senderMac : MacAddr)
    (answer : Option (Except IoError Unit)) :
    (ns.processOn i (.arpRequest senderIp senderMac targetIp) answer).sentOn i =
      ns.sentOn i ++ [⟨i.mac, MacAddr.new 0xff 0xff 0xff 0xff 0xff 0xff,
        .arpReply targetIp senderMac senderIp⟩] := by
  have htarget : targetIp ∈ si.data.ipv4Addresses :=
    ((hwf.ipv4Consistent i si hsi).addresses _).mp hlocal
  have hmac : si.data.interface.mac = i.mac := congrArg Interface.mac (hwf.interface_eq i si hsi)
  have hmem : i ∈ ns.interfaces := AList.lookup_isSome.mp (by simp [hsi])
  simp only [sentOn, processOn, hsi, StackInterfaceThread.processMsg, lookup_replace_self hmem,
    Option.map_some', handleArpRequest_sent, htarget, if_true, hmac, Option.getD_some]

end NetworkStack

namespace StackRun

theorem step_keepsAddresses {s next : StackRun} (hs : s.Inv) {e : StackEvent}
    (hstep : s.step e = some next) : s.stack.KeepsAddresses next.stack := by
  cases e with
  | call call =>
    obtain ⟨stack, happly, rfl⟩ := Option.map_eq_some'.mp hstep
    exact (NetworkStack.apply_keeps hs.wf happly).keepsAddresses
  | send index answer =>
    simp only [step] at hstep
    split at hstep
    · rename_i i tx _
      cases hstep
      simp only [NetworkStack.transmitOn]
      cases hsi : s.stack.interfaces.lookup i with
      | none => exact fun _ si h => ⟨si, h, fun _ => id⟩
      | some si =>
        refine NetworkStack.keepsAddresses_replace hsi ?_ _
        rfl
    · cases hstep
      exact fun _ si h => ⟨si, h, fun _ => id⟩
  | arpReply interface ip mac | arpRequest interface _ _ _ _ =>
    cases hstep
    simp only [NetworkStack.processOn]
    cases hsi : s.stack.interfaces.lookup interface with
    | none => exact fun _ si h => ⟨si, h, fun _ => id⟩
    | some si =>
      obtain ⟨table, barrier, hframe⟩ := StackInterfaceThread.processMsg_frame si _ _
      exact NetworkStack.keepsAddresses_replace hsi (by rw [hframe]) _

end StackRun

/-! ## Two hosts on one link -/

/-- Host `A` in one `ipv4_tx` call, as the race model runs it, and the peer stack `B`, as
`Wire` runs it; `read` counts the frames of `B`'s link interface that `A`'s receive thread has
read. -/
structure LinkRun where
  a : RaceState
  b : StackRun
  read : Nat

inductive LinkEvent where
  /-- A step of `A`'s call or of `A`'s worker; `A`'s receive thread is `recvFrame`. -/
  | a (e : RaceEvent)
  /-- `A`'s receive thread reads the next frame of `B`'s link interface and queues the
  bindings `ArpRx` queues. -/
  | recvFrame
  /-- A step of the peer stack: an API call, a send, its worker's handling of a message. -/
  | b (e : StackEvent)

def eth1 : Interface := ⟨"eth1", MacAddr.new 0 0x11 0x22 0x33 0x44 0x55⟩

namespace LinkRun

variable (i : Interface)

def start (iface : StackInterface) (call : Ipv4TxCall) : LinkRun :=
  ⟨RaceState.start iface call [], StackRun.start, 0⟩

/-- A step of the link; `none` while a `udp_listen` of `B` has not returned. -/
def step (s : LinkRun) : LinkEvent → Option LinkRun
  | .a (.arpReply _ _) => some s
  | .a e => some { s with a := s.a.step e }
  | .recvFrame =>
    match (s.b.stack.sentOn i)[s.read]? with
    | some f =>
      some { s with
        a := s.a.run (((arpRx f).filterMap StackInterfaceMsg.arpUpdate).map
          fun b => .arpReply b.1 b.2)
        read := s.read + 1 }
    | none => some s
  | .b e => (s.b.step e).map fun b => { s with b := b }

def run (s : LinkRun) : List LinkEvent → Option LinkRun
  | [] => some s
  | e :: events => (s.step i e).bind fun next => next.run events

/-- What holds along the link: the peer's own invariant, and `A`'s call, still `call₀`, uses
only the bindings `A`'s table had at the start or bindings of `B`'s link interface. -/
structure Inv (call₀ : Ipv4TxCall) (table₀ : AList fun _ : Ipv4Addr => MacAddr) (s : LinkRun) :
    Prop where
  b : s.b.Inv
  call : s.a.call = call₀
  a : s.a.LearnsFrom (s.b.stack.OwnBinding i) table₀

variable {i}

section Run

variable {call₀ : Ipv4TxCall} {table₀ : AList fun _ : Ipv4Addr => MacAddr}

theorem Inv.step_a {s : LinkRun} (hs : s.Inv i call₀ table₀) (e : RaceEvent)
    (he : ∀ ip mac, e ≠ .arpReply ip mac) :
    ({ s with a := s.a.step e } : LinkRun).Inv i call₀ table₀ :=
  ⟨hs.b, (RaceState.step_call _ _).trans hs.call,
    RaceState.step_learnsFrom hs.a e fun ip mac h => absurd h (he ip mac)⟩

theorem step_inv {s next : LinkRun} (hs : s.Inv i call₀ table₀) {e : LinkEvent}
    (hstep : s.step i e = some next) : next.Inv i call₀ table₀ := by
  cases e with
  | a e =>
    cases e
    case arpReply => exact Option.some.inj hstep ▸ hs
    all_goals
      cases hstep
      exact hs.step_a _ fun _ _ he => by cases he
  | recvFrame =>
    simp only [step] at hstep
    split at hstep
    · rename_i f hf
      cases hstep
      refine ⟨hs.b, (RaceState.run_call _ _).trans hs.call,
        RaceState.run_learnsFrom hs.a _ fun e he ip mac heq => ?_⟩
      obtain ⟨b, hb, rfl⟩ := List.mem_map.mp he
      cases heq
      rw [eq_of_mem_arpRx hb]
      exact NetworkStack.ownBinding_of_mem_sentOn hs.b.wf hs.b.sendsOwn (List.getElem?_mem hf)
    · cases hstep
      exact hs
  | b e =>
    obtain ⟨b, hb, rfl⟩ := Option.map_eq_some'.mp hstep
    exact ⟨StackRun.step_inv hs.b hb, hs.call,
      hs.a.mono fun _ _ => (StackRun.step_keepsAddresses hs.b hb).ownBinding⟩

theorem run_inv : ∀ {s : LinkRun} (events : List LinkEvent) {next : LinkRun},
    s.Inv i call₀ table₀ → s.run i events = some next → next.Inv i call₀ table₀
  | _, [], _, hs, hrun => Option.some.inj hrun ▸ hs
  | _, _ :: events, _, hs, hrun => by
    obtain ⟨mid, hmid, hrest⟩ := Option.bind_eq_some.mp hrun
    exact run_inv events (step_inv hs hmid) hrest

end Run

/-- Along every interleaving of host `A`'s `ipv4_tx` call, `A`'s worker and `A`'s receive
thread reading the frames of a peer stack's interface `i`, with any steps of the peer from
`NetworkStack::new`: every binding `A`'s table holds is one it had at the start or maps one of
`i`'s local addresses to `i`'s MAC; and when the call's hop was not in `A`'s table at the
start, the transmitter the call returns is addressed to `i`'s MAC. -/
theorem learns_peer (iface : StackInterface) (call : Ipv4TxCall) (events : List LinkEvent)
    {s : LinkRun} (hrun : (start iface call).run i events = some s) :
    (∀ ip mac, s.a.shared.iface.arpTable.table.lookup ip = some mac →
      iface.arpTable.table.lookup ip = some mac ∨ s.b.stack.OwnBinding i ip mac) ∧
    (iface.arpTable.table.lookup call.hop = none →
      ∀ index tx, s.a.app = .returned index tx → tx.ethernet.dst = i.mac) := by
  have hs : s.Inv i call iface.arpTable.table :=
    run_inv events ⟨StackRun.start_inv, rfl, RaceState.start_learnsFrom iface call⟩ hrun
  refine ⟨hs.a.table, fun hhop index tx hret => ?_⟩
  rcases hs.a.app tx.ethernet.dst (by simp [hret, AppPc.dstMac]) with hold | ⟨ip, hmac, -⟩
  · rw [hs.call, hhop] at hold
    cases hold
  · exact hmac

/-- The peer sets `eth1` up with `10.0.0.2/24`; `eth0` asks for `10.0.0.2`; the peer's worker
answers the request, `eth0`'s receive thread reads the answer, and the call wakes and
returns. -/
def eth0AsksEth1 : List LinkEvent :=
  [.b (.call (.addInterface eth1)), .b (.call (.addIpv4 eth1 ⟨⟨10, 0, 0, 2⟩, 24, by decide⟩)),
    .a .get, .a (.request (some (.ok ()))),
    .b (.arpRequest eth1 ⟨10, 0, 0, 1⟩ (MacAddr.new 2 0 0 0 0 1) ⟨10, 0, 0, 2⟩ (some (.ok ()))),
    .recvFrame, .a .insert, .a .inc, .a .recv, .a .ethernetTx]

theorem learns_peer_eth0AsksEth1 :
    ∃ s, (start eth0 ⟨⟨10, 0, 0, 2⟩, ⟨10, 0, 0, 2⟩, ⟨10, 0, 0, 1⟩⟩).run eth1 eth0AsksEth1 = some s ∧
      (∃ index tx, s.a.app = .returned index tx) ∧
      (∀ ip mac, s.a.shared.iface.arpTable.table.lookup ip = some mac →
        eth0.arpTable.table.lookup ip = some mac ∨ s.b.stack.OwnBinding eth1 ip mac) ∧
      (eth0.arpTable.table.lookup ⟨10, 0, 0, 2⟩ = none →
        ∀ index tx, s.a.app = .returned index tx → tx.ethernet.dst = eth1.mac) :=
  have hrun : (start eth0 ⟨⟨10, 0, 0, 2⟩, ⟨10, 0, 0, 2⟩, ⟨10, 0, 0, 1⟩⟩).run eth1 eth0AsksEth1 =
      some _ := rfl
  ⟨_, hrun, ⟨_, _, rfl⟩, learns_peer _ _ eth0AsksEth1 hrun⟩

end LinkRun

/-! ## The exchange that resolves a hop -/

namespace RaceState

/-- The call's side of the exchange: the lookup and the ARP request, the receive thread queueing
the answer's binding, the worker's insert and `inc`, the wake-up and `ethernet_tx`. -/
def resolve (hop : Ipv4Addr) (mac : MacAddr) : List RaceEvent :=
  [.get, .request (some (.ok ())), .arpReply hop mac, .insert, .inc, .recv, .ethernetTx]

theorem run_append (s : RaceState) (pre post : List RaceEvent) :
    run s (pre ++ post) = run (run s pre) post :=
  List.foldl_append _ _ _ _

/-- A lookup of a hop the table does not bind hands the call the table's fresh waiter, queued
under the hop, and an accepted ARP request leaves the call blocked on it; the worker's side is
untouched. -/
theorem run_get_request {s : RaceState} (happ : s.app = .lookup)
    (hhop : s.shared.iface.arpTable.table.lookup s.call.hop = none) :
    (run s [.get, .request (some (.ok ()))]).app = .waiting s.shared.iface.arpTable.nextWaiter ∧
    s.shared.iface.arpTable.nextWaiter ∈
      ((run s [.get, .request (some (.ok ()))]).shared.iface.arpTable.listeners.lookup
        s.call.hop).getD [] ∧
    (run s [.get, .request (some (.ok ()))]).shared.worker = s.shared.worker ∧
    (run s [.get, .request (some (.ok ()))]).queue = s.queue ∧
    (run s [.get, .request (some (.ok ()))]).mailbox = s.mailbox := by
  simp [run, step, happ, ArpTable.get_of_lookup_none hhop, withArpTable,
    TxBarrier.ioResultToTxResult]

/-- An answer for the hop, queued for an idle worker with nothing else queued: the insert sends
its MAC to every waiter of the hop, the `inc` follows, and the call stays where it was. -/
theorem run_arpReply_insert_inc {s : RaceState} (hworker : s.shared.worker = .idle)
    (hqueue : s.queue = []) {hop : Ipv4Addr} {w : Nat}
    (hwait : w ∈ (s.shared.iface.arpTable.listeners.lookup hop).getD [])
    (hmail : s.mailbox.lookup w = none) (mac : MacAddr) :
    (run s [.arpReply hop mac, .insert, .inc]).app = s.app ∧
      (run s [.arpReply hop mac, .insert, .inc]).mailbox.lookup w = some mac := by
  have hsent : (s.mailbox ++ ((s.shared.iface.arpTable.listeners.lookup hop).getD []).map
      fun w => (w, mac)).lookup w = some mac := by
    rw [List.lookup_append, hmail, Option.none_or, lookup_map_waiters hwait]
  simp only [run, List.foldl, step, hqueue, List.nil_append, hworker]
  split <;> exact ⟨rfl, hsent⟩

theorem run_recv_ethernetTx {s : RaceState} {w : Nat} (happ : s.app = .waiting w) {mac : MacAddr}
    (hmail : s.mailbox.lookup w = some mac) :
    ∃ index tx, (run s [.recv, .ethernetTx]).app = .returned index tx ∧ tx.ethernet.dst = mac := by
  have hrun : (run s [.recv, .ethernetTx]).app = .returned s.shared.handles.length
      (Ipv4TxImpl.new (s.shared.iface.ethernetTx mac) s.call.src s.call.dst s.shared.iface.mtu) := by
    simp only [run, List.foldl, step, happ, hmail]
  exact ⟨_, _, hrun, rfl⟩

/-- From the start of a call for a hop its table does not bind, the call's side of the exchange
returns a transmitter to the MAC the answer carries. -/
theorem resolve_returns (iface : StackInterface) (call : Ipv4TxCall)
    (hhop : iface.arpTable.table.lookup call.hop = none) (mac : MacAddr) :
    ∃ index tx, (run (start iface call []) (resolve call.hop mac)).app = .returned index tx ∧
      tx.ethernet.dst = mac := by
  obtain ⟨hwaiting, hwait, hworker, hqueue, hmail⟩ :=
    run_get_request (s := start iface call []) rfl hhop
  obtain ⟨happ, hmail'⟩ :=
    run_arpReply_insert_inc hworker hqueue hwait (by rw [hmail]; rfl) mac
  have hsplit : resolve call.hop mac = [.get, .request (some (.ok ()))] ++
      [.arpReply call.hop mac, .insert, .inc] ++ [.recv, .ethernetTx] := rfl
  rw [hsplit, run_append, run_append]
  exact run_recv_ethernetTx (happ.trans hwaiting) hmail'

end RaceState

namespace LinkRun

variable {i : Interface}

variable (i) in
/-- The schedule of one resolution: `A` looks the hop up and sends the ARP request, which the
datalink accepts; the peer's worker answers it, its receive thread having passed on the
request from `A`'s MAC; `A`'s receive thread reads the answer; `A`'s worker inserts the binding
and calls `inc`; the call wakes and makes its transmitter. -/
def exchange (call : Ipv4TxCall) (mac : MacAddr) (replyAnswer : Option (Except IoError Unit)) :
    List LinkEvent :=
  [.a .get, .a (.request (some (.ok ()))), .b (.arpRequest i call.src mac call.hop replyAnswer),
    .recvFrame, .a .insert, .a .inc, .a .recv, .a .ethernetTx]

/-- On the link the exchange is the call's side of it, the peer's answer on `i` read between the
request and the worker's insert. -/
theorem run_exchange (a : RaceState) {b : StackRun} {call : Ipv4TxCall} {mac : MacAddr}
    {replyAnswer : Option (Except IoError Unit)}
    (hanswer : (b.stack.processOn i (.arpRequest call.src mac call.hop) replyAnswer).sentOn i =
      b.stack.sentOn i ++ [⟨i.mac, MacAddr.new 0xff 0xff 0xff 0xff 0xff 0xff,
        .arpReply call.hop mac call.src⟩]) :
    (⟨a, b, (b.stack.sentOn i).length⟩ : LinkRun).run i (exchange i call mac replyAnswer) =
      some ⟨a.run (RaceState.resolve call.hop i.mac),
        { b with stack := b.stack.processOn i (.arpRequest call.src mac call.hop) replyAnswer },
        (b.stack.sentOn i).length + 1⟩ := by
  simp [exchange, run, step, StackRun.step, hanswer, arpRx, StackInterfaceMsg.arpUpdate,
    RaceState.resolve, RaceState.run]

def eth1Ready : StackRun :=
  ⟨((NetworkStack.new.addInterface eth1).2.addIpv4 eth1 ⟨⟨10, 0, 0, 2⟩, 24, by decide⟩).2, []⟩

end LinkRun

end Rips
