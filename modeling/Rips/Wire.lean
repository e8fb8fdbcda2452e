import Rips.Persist
import Rips.Worker

/-!
# What the stack puts on the wire is its own

Three kinds of thread write an interface's datalink: the application, through the ARP request
of `ipv4_tx` and through the transmitters that `ipv4_tx`, `icmp_tx` and `udp_tx` hand it; and the
interface's worker, answering ARP requests that its receive thread queued.  Here they run in
any interleaving, each API call, each send and each processed message one step.  Along every
such run from a new stack, every frame on an interface's datalink leaves from that interface's
own MAC and speaks for one of its own local addresses: the sender of an ARP request or reply,
the source of an IPv4 packet.  The stack never answers ARP for an address it does not hold.
-/

namespace Rips

def Transmission.senderIp : Transmission → Ipv4Addr
  | .arpRequest senderIp _ => senderIp
  | .arpReply senderIp _ _ => senderIp
  | .ipv4 src _ => src

/-- Every frame on the interface's datalink leaves from its MAC and speaks for one of its local
addresses. -/
def StackInterface.SendsOwn (si : StackInterface) : Prop :=
  ∀ f ∈ si.data.barrier.sent,
    f.src = si.data.interface.mac ∧ f.payload.senderIp ∈ si.ipv4Datas

/-! ## One interface -/

namespace StackInterface

theorem new_sendsOwn (interface : Interface) : (new interface).SendsOwn := by
  simp [SendsOwn, new, TxBarrier.new]

theorem Keeps.mem_ipv4Datas {si si' : StackInterface} (hk : si.Keeps si') {ip : Ipv4Addr}
    (h : ip ∈ si.ipv4Datas) : ip ∈ si'.ipv4Datas := by
  obtain ⟨d, hd⟩ := Option.isSome_iff_exists.mp (AList.lookup_isSome.mpr h)
  obtain ⟨d', hd', -⟩ := hk.ipv4Datas ip d hd
  exact AList.lookup_isSome.mp (by simp [hd'])

theorem SendsOwn.append {si si' : StackInterface} (h : si.SendsOwn)
    (hinterface : si'.data.interface = si.data.interface)
    (hmem : ∀ ip, ip ∈ si.ipv4Datas → ip ∈ si'.ipv4Datas) {frames : List DatalinkSend}
    (hsent : si'.data.barrier.sent = si.data.barrier.sent ++ frames)
    (hframes : ∀ f ∈ frames,
      f.src = si.data.interface.mac ∧ f.payload.senderIp ∈ si'.ipv4Datas) :
    si'.SendsOwn := by
  intro f hf
  rw [hsent, List.mem_append] at hf
  rw [hinterface]
  rcases hf with hold | hnew
  · exact (h f hold).imp_right (hmem _)
  · exact hframes f hnew

theorem SendsOwn.of_keeps {si si' : StackInterface} (h : si.SendsOwn) (hk : si.Keeps si')
    (hsent : si'.data.barrier.sent = si.data.barrier.sent) : si'.SendsOwn :=
  h.append hk.interface (fun _ => hk.mem_ipv4Datas) (hsent.trans (List.append_nil _).symm)
    (by simp)

/-- `ipv4_tx` sends nothing, or the ARP request for the hop from the local address it chose. -/
theorem ipv4Tx_sent (si : StackInterface) (dst : Ipv4Addr) (gw : Option Ipv4Addr)
    (requestAnswer : Option (Except IoError Unit)) (reply : MacAddr) :
    (si.ipv4Tx dst gw requestAnswer reply).2.data.barrier.sent = si.data.barrier.sent ∨
      ∃ src, si.closestLocalIp (gw.getD dst) = some src ∧
        (si.ipv4Tx dst gw requestAnswer reply).2.data.barrier.sent = si.data.barrier.sent ++
          [⟨si.data.interface.mac, MacAddr.new 0xff 0xff 0xff 0xff 0xff 0xff,
            .arpRequest src (gw.getD dst)⟩] := by
  cases hsrc : si.closestLocalIp (gw.getD dst) with
  | none => exact .inl (by rw [ipv4Tx_of_closestLocalIp_none _ _ _ _ _ hsrc])
  | some src =>
    cases hmac : si.arpTable.table.lookup (gw.getD dst) with
    | some mac => exact .inl (by rw [ipv4Tx_of_lookup_some _ _ _ _ _ hsrc hmac])
    | none =>
      refine .inr ⟨src, rfl, ?_⟩
      rw [ipv4Tx_of_lookup_none _ _ _ _ _ hsrc hmac]
      split <;> simp

theorem ipv4Tx_sendsOwn {si : StackInterface} (h : si.SendsOwn) (dst : Ipv4Addr)
    (gw : Option Ipv4Addr) (requestAnswer : Option (Except IoError Unit)) (reply : MacAddr) :
    (si.ipv4Tx dst gw requestAnswer reply).2.SendsOwn := by
  have hk := si.keeps_ipv4Tx dst gw requestAnswer reply
  rcases si.ipv4Tx_sent dst gw requestAnswer reply with hsent | ⟨src, hsrc, hsent⟩
  · exact h.of_keeps hk hsent
  · refine h.append hk.interface (fun _ => hk.mem_ipv4Datas) hsent fun f hf => ?_
    rw [List.mem_singleton] at hf
    subst hf
    obtain ⟨d, hd, -⟩ := closestLocalIp_spec hsrc
    exact ⟨rfl, hk.mem_ipv4Datas (AList.lookup_isSome.mp (by simp [Transmission.senderIp, hd]))⟩

/-- The worker's reply speaks for the address it was asked about, which is local. -/
theorem processMsg_sendsOwn {si : StackInterface} (hc : si.Ipv4Consistent) (h : si.SendsOwn)
    (msg : StackInterfaceMsg) (answer : Option (Except IoError Unit)) :
    (StackInterfaceThread.processMsg si msg answer).2.SendsOwn := by
  obtain ⟨table, barrier, hframe⟩ := StackInterfaceThread.processMsg_frame si msg answer
  refine h.append (by rw [hframe]) (fun _ hip => by rwa [hframe])
    (StackInterfaceThread.processMsg_sent si msg answer) fun f hf => ?_
  rw [hframe]
  cases msg with
  | arpRequest senderIp senderMac targetIp =>
    simp only [StackInterfaceMsg.arpReplyOf] at hf
    split_ifs at hf with htarget
    · simp only [Option.toList_some, List.mem_singleton] at hf
      subst hf
      exact ⟨rfl, (hc.addresses targetIp).mpr htarget⟩
    · cases hf
  | updateArpTable | shutdown => cases hf

@[simp] theorem addIpv4_barrier (si : StackInterface) (ipNet : Ipv4Network) :
    (si.addIpv4 ipNet).2.data.barrier = si.data.barrier := by
  unfold addIpv4
  dsimp only
  split_ifs <;> rfl

@[simp] theorem addIpv4_mtu (si : StackInterface) (ipNet : Ipv4Network) :
    (si.addIpv4 ipNet).2.mtu = si.mtu := by
  unfold addIpv4
  dsimp only
  split_ifs <;> rfl

theorem icmpListen_sendsOwn {si : StackInterface} (h : si.SendsOwn) (localIp : Ipv4Addr)
    (icmpType : IcmpType) (listener : IcmpListener) :
    (si.icmpListen localIp icmpType listener).2.SendsOwn := by
  refine h.of_keeps (si.keeps_icmpListen localIp icmpType listener) ?_
  rcases si.icmpListen_cases localIp icmpType listener with ⟨-, h⟩ | ⟨d, -, h⟩ <;> rw [h]

theorem transmit_sendsOwn {si : StackInterface} (h : si.SendsOwn) {tx : Ipv4TxImpl}
    (hsrc : tx.ethernet.src = si.data.interface.mac) (hip : tx.src ∈ si.ipv4Datas)
    (answer : Option (Except IoError Unit)) :
    SendsOwn { si with
      data := { si.data with
        barrier := (tx.ethernet.transmit si.data.barrier (.ipv4 tx.src tx.dst) answer).1 } } := by
  have hsent : (tx.ethernet.transmit si.data.barrier (.ipv4 tx.src tx.dst) answer).1.sent =
      si.data.barrier.sent ++ if tx.ethernet.tx.version = si.data.barrier.version then
        [⟨tx.ethernet.src, tx.ethernet.dst, .ipv4 tx.src tx.dst⟩] else [] := by
    simp only [EthernetTxImpl.transmit, TxImpl.send_sent]
    split_ifs <;> simp
  refine h.append rfl (fun _ hip => hip) hsent fun f hf => ?_
  split_ifs at hf
  · rw [List.mem_singleton] at hf
    subst hf
    exact ⟨hsrc, hip⟩
  · cases hf

end StackInterface

/-! ## The stack's API -/

namespace NetworkStack

def SendsOwn (ns : NetworkStack) : Prop :=
  ∀ i si, ns.interfaces.lookup i = some si → si.SendsOwn

theorem new_sendsOwn : new.SendsOwn := by simp [SendsOwn, new]

theorem sendsOwn_replace {self : NetworkStack} (h : self.SendsOwn) {interface : Interface}
    {si' : StackInterface} (hsi' : si'.SendsOwn) (table : RoutingTable) :
    (⟨self.interfaces.replace interface si', table⟩ : NetworkStack).SendsOwn := by
  intro i si hsi
  by_cases hi : i = interface
  · subst hi
    by_cases hmem : i ∈ self.interfaces
    · rw [lookup_replace_self hmem, Option.some.injEq] at hsi
      exact hsi ▸ hsi'
    · rw [AList.lookup_eq_none.mpr (by simpa using hmem)] at hsi
      cases hsi
  · exact h i si (by rwa [lookup_replace_of_ne _ hi] at hsi)

theorem ipv4Tx_sendsOwn {self : NetworkStack} (h : self.SendsOwn) (dst : Ipv4Addr)
    (requestAnswer : Option (Except IoError Unit)) (reply : MacAddr) :
    (self.ipv4Tx dst requestAnswer reply).2.SendsOwn := by
  rcases ipv4Tx_cases self dst requestAnswer reply with ⟨-, hc⟩ | ⟨-, -, -, -, hc⟩ |
    ⟨gw, interface, si, -, hsi, hc⟩ <;> rw [hc]
  · exact h
  · exact h
  · exact sendsOwn_replace h (StackInterface.ipv4Tx_sendsOwn (h _ _ hsi) dst gw requestAnswer
      reply) _

theorem udpListen_sendsOwn {self : NetworkStack} (h : self.SendsOwn)
    {addr : Except IoError SocketAddr} {listener : UdpListener} {draws : PortDraws} {fuel : Nat}
    {r : Except IoError SocketAddr} {self' : NetworkStack}
    (hcall : self.udpListen addr listener draws fuel = some (r, self')) : self'.SendsOwn := by
  rcases addr with e | requested | _
  · cases hcall
    exact h
  · rcases udpListenIpv4_cases hcall with ⟨e, -, rfl⟩ |
      ⟨interface, si, d, port, hsi, hd, hfree, -, rfl, -⟩
    · exact h
    · exact sendsOwn_replace h ((h _ _ hsi).of_keeps
        (si.keeps_replace_ipv4Data hd (d.keeps_bind hfree listener)) rfl) _
  · cases hcall
    exact h

theorem icmpListen_sendsOwn {self : NetworkStack} (h : self.SendsOwn) (localIp : Ipv4Addr)
    (icmpType : IcmpType) (listener : IcmpListener) :
    (self.icmpListen localIp icmpType listener).2.SendsOwn := by
  by_cases h0 : localIp = ⟨0, 0, 0, 0⟩
  · simp only [icmpListen, if_pos h0]
    exact h
  · intro i si' hsi'
    rw [icmpListen_lookup self localIp icmpType listener h0] at hsi'
    obtain ⟨si, hsi, rfl⟩ := Option.map_eq_some'.mp hsi'
    exact StackInterface.icmpListen_sendsOwn (h i si hsi) localIp icmpType listener

theorem apply_sendsOwn {self next : NetworkStack} (hwf : self.Wf) (h : self.SendsOwn)
    {call : ApiCall} (happly : self.apply call = some next) : next.SendsOwn := by
  cases call with
  | addInterface interface =>
    rw [← Option.some.inj happly]
    rcases self.addInterface_spec interface with ⟨-, hc⟩ | ⟨-, hc⟩ <;> rw [hc]
    · exact h
    · intro i si hsi
      by_cases hi : i = interface
      · subst hi
        rw [AList.lookup_insert, Option.some.injEq] at hsi
        exact hsi ▸ StackInterface.new_sendsOwn i
      · exact h i si (by rwa [AList.lookup_insert_ne hi] at hsi)
  | addIpv4 interface ipNet =>
    rw [← Option.some.inj happly]
    rcases self.addIpv4_spec interface ipNet with ⟨-, e, hc⟩ | ⟨si, hsi, -, hc⟩ <;> rw [hc]
    · exact h
    · exact sendsOwn_replace h ((h _ _ hsi).of_keeps
        (StackInterface.keeps_addIpv4 (hwf.ipv4Consistent _ _ hsi) ipNet)
        (by rw [si.addIpv4_barrier ipNet])) _
  | ipv4Tx dst requestAnswer reply | icmpTx dst requestAnswer reply
  | udpTx dst _ _ requestAnswer reply =>
    exact Option.some.inj happly ▸ ipv4Tx_sendsOwn h dst requestAnswer reply
  | udpListen call =>
    obtain ⟨⟨r, next'⟩, hcall, rfl⟩ := Option.map_eq_some'.mp happly
    exact udpListen_sendsOwn h hcall
  | icmpListen localIp icmpType listener =>
    exact Option.some.inj happly ▸ icmpListen_sendsOwn h localIp icmpType listener
  | setMtu interface mtu =>
    rw [← Option.some.inj happly]
    unfold setMtu
    cases hsi : self.interfaces.lookup interface with
    | none => exact h
    | some si => exact sendsOwn_replace h ((h _ _ hsi).of_keeps (si.keeps_setMtu mtu) rfl) _

/-! ## The whole stack -/

/-- The transmitter an `ipv4_tx(dst)` hands the application, with the interface of the route it
took, whose datalink the transmitter sends on. -/
def ipv4TxHeld (self : NetworkStack) (dst : Ipv4Addr)
    (requestAnswer : Option (Except IoError Unit)) (reply : MacAddr) :
    Option (Interface × Ipv4TxImpl) :=
  match self.routingTable.route dst, (self.ipv4Tx dst requestAnswer reply).1 with
  | some (_, interface), .ok tx => some (interface, tx)
  | _, _ => none

/-- The IPv4 transmitter a call hands the application, inside its `IcmpTx` or `UdpTx` for
`icmp_tx` and `udp_tx`. -/
def heldOf (self : NetworkStack) : ApiCall → Option (Interface × Ipv4TxImpl)
  | .ipv4Tx dst requestAnswer reply | .icmpTx dst requestAnswer reply
  | .udpTx dst _ _ requestAnswer reply => self.ipv4TxHeld dst requestAnswer reply
  | _ => none

def transmitOn (self : NetworkStack) (interface : Interface) (tx : Ipv4TxImpl)
    (answer : Option (Except IoError Unit)) : NetworkStack :=
  match self.interfaces.lookup interface with
  | some si =>
    { self with
      interfaces := self.interfaces.replace interface
        { si with data := { si.data with
          barrier := (tx.ethernet.transmit si.data.barrier (.ipv4 tx.src tx.dst) answer).1 } } }
  | none => self

def processOn (self : NetworkStack) (interface : Interface) (msg : StackInterfaceMsg)
    (answer : Option (Except IoError Unit)) : NetworkStack :=
  match self.interfaces.lookup interface with
  | some si =>
    { self with
      interfaces := self.interfaces.replace interface
        (StackInterfaceThread.processMsg si msg answer).2 }
  | none => self

/-- A transmitter is handed out by the `ipv4_tx` of its route's interface, which the call
writes back in place. -/
theorem ipv4TxHeld_some {self : NetworkStack} {dst : Ipv4Addr}
    {requestAnswer : Option (Except IoError Unit)} {reply : MacAddr} {i : Interface}
    {tx : Ipv4TxImpl} (h : self.ipv4TxHeld dst requestAnswer reply = some (i, tx)) :
    ∃ gw si, self.interfaces.lookup i = some si ∧
      (si.ipv4Tx dst gw requestAnswer reply).1 = .ok tx ∧
      (self.ipv4Tx dst requestAnswer reply).2 =
        { self with
          interfaces := self.interfaces.replace i (si.ipv4Tx dst gw requestAnswer reply).2 } := by
  unfold ipv4TxHeld at h
  split at h
  · rename_i gw i' tx' hroute hres
    cases h
    rcases ipv4Tx_cases self dst requestAnswer reply with ⟨hnone, -⟩ | ⟨-, -, -, -, hc⟩ |
      ⟨gw', i', si, hr, hsi, hc⟩
    · rw [hnone] at hroute
      cases hroute
    · rw [hc] at hres
      cases hres
    · rw [hroute, Option.some.injEq, Prod.mk.injEq] at hr
      obtain ⟨rfl, rfl⟩ := hr
      rw [hc] at hres
      exact ⟨gw, si, hsi, hres, by rw [hc]⟩
  · cases h

/-- A transmitter that `ipv4_tx` hands out sends from the MAC of its route's interface and from
one of that interface's local addresses. -/
theorem ipv4TxHeld_spec {self : NetworkStack} (hwf : self.Wf) {dst : Ipv4Addr}
    {requestAnswer : Option (Except IoError Unit)} {reply : MacAddr} {i : Interface}
    {tx : Ipv4TxImpl} (h : self.ipv4TxHeld dst requestAnswer reply = some (i, tx)) :
    tx.ethernet.src = i.mac ∧
      ∃ si, (self.ipv4Tx dst requestAnswer reply).2.interfaces.lookup i = some si ∧
        tx.src ∈ si.ipv4Datas := by
  obtain ⟨gw, si, hsi, hres, hc⟩ := ipv4TxHeld_some h
  obtain ⟨⟨data, hdata, -⟩, -, hsrc, -⟩ :=
    si.ipv4Tx_ok_spec dst gw requestAnswer reply (Prod.ext hres rfl)
  rw [hc]
  refine ⟨hsrc.trans (congrArg Interface.mac (hwf.interface_eq _ _ hsi)), _,
    lookup_replace_self (AList.lookup_isSome.mp (by simp [hsi])), ?_⟩
  exact (si.keeps_ipv4Tx dst gw requestAnswer reply).mem_ipv4Datas
    (AList.lookup_isSome.mp (by simp [hdata]))

end NetworkStack

/-- The stack and the IPv4 transmitters the application holds, each with the interface whose
datalink it sends on. -/
structure StackRun where
  stack : NetworkStack
  held : List (Interface × Ipv4TxImpl)

/-- One step of the whole stack: an API call, the application's send on a transmitter it holds,
or a worker's processing of a message that its interface's receive thread queued for an ARP
reply or request. -/
inductive StackEvent where
  | call (call : NetworkStack.ApiCall)
  | send (index : Nat) (answer : Option (Except IoError Unit))
  | arpReply (interface : Interface) (ip : Ipv4Addr) (mac : MacAddr)
  | arpRequest (interface : Interface) (senderIp : Ipv4Addr) (senderMac : MacAddr)
    (targetIp : Ipv4Addr) (answer : Option (Except IoError Unit))

namespace StackRun

def start : StackRun := ⟨NetworkStack.new, []⟩

/-- The state after a step; `none` while a `udp_listen` has not returned. -/
def step (s : StackRun) : StackEvent → Option StackRun
  | .call call =>
    (s.stack.apply call).map fun stack => ⟨stack, s.held ++ (s.stack.heldOf call).toList⟩
  | .send index answer =>
    match s.held[index]? with
    | some (interface, tx) => some { s with stack := s.stack.transmitOn interface tx answer }
    | none => some s
  | .arpReply interface ip mac =>
    some { s with stack := s.stack.processOn interface (.updateArpTable ip mac) none }
  | .arpRequest interface senderIp senderMac targetIp answer =>
    some { s with
      stack := s.stack.processOn interface (.arpRequest senderIp senderMac targetIp) answer }

def run (s : StackRun) : List StackEvent → Option StackRun
  | [] => some s
  | e :: events => (s.step e).bind fun next => next.run events

/-- What holds of every state: the stack is well formed, every interface sends only its own
frames, and every held transmitter sends from its interface's MAC and one of its local
addresses. -/
structure Inv (s : StackRun) : Prop where
  wf : s.stack.Wf
  sendsOwn : s.stack.SendsOwn
  held : ∀ i tx, (i, tx) ∈ s.held → tx.ethernet.src = i.mac ∧
    ∃ si, s.stack.interfaces.lookup i = some si ∧ tx.src ∈ si.ipv4Datas

theorem start_inv : start.Inv where
  wf := NetworkStack.new_wf
  sendsOwn := NetworkStack.new_sendsOwn
  held := by simp [start]

theorem Inv.replace {s : StackRun} (hs : s.Inv) {i : Interface} {si si' : StackInterface}
    (hsi : s.stack.interfaces.lookup i = some si)
    (hinterface : si'.data.interface = si.data.interface) (hdatas : si'.ipv4Datas = si.ipv4Datas)
    (haddresses : si'.data.ipv4Addresses = si.data.ipv4Addresses)
    (hlisteners : si'.ipv4Listeners = si.ipv4Listeners) (hsends : si'.SendsOwn) :
    (⟨{ s.stack with interfaces := s.stack.interfaces.replace i si' }, s.held⟩ : StackRun).Inv
    where
  wf := NetworkStack.wf_replace_of_same hs.wf hsi hinterface hdatas haddresses hlisteners
  sendsOwn := NetworkStack.sendsOwn_replace hs.sendsOwn hsends _
  held i' tx hmem := by
    obtain ⟨hsrc, si'', hsi'', hip⟩ := hs.held i' tx hmem
    refine ⟨hsrc, ?_⟩
    by_cases hi : i' = i
    · subst hi
      rw [hsi, Option.some.injEq] at hsi''
      subst hsi''
      exact ⟨si', lookup_replace_self (AList.lookup_isSome.mp (by simp [hsi])), hdatas ▸ hip⟩
    · exact ⟨si'', (lookup_replace_of_ne _ hi).trans hsi'', hip⟩

theorem processOn_inv {s : StackRun} (hs : s.Inv) (interface : Interface)
    (msg : StackInterfaceMsg) (answer : Option (Except IoError Unit)) :
    (⟨s.stack.processOn interface msg answer, s.held⟩ : StackRun).Inv := by
  unfold NetworkStack.processOn
  cases hsi : s.stack.interfaces.lookup interface with
  | none => exact hs
  | some si =>
    obtain ⟨table, barrier, hframe⟩ := StackInterfaceThread.processMsg_frame si msg answer
    exact hs.replace hsi (by rw [hframe]) (by rw [hframe]) (by rw [hframe]) (by rw [hframe])
      (StackInterface.processMsg_sendsOwn (hs.wf.ipv4Consistent _ _ hsi) (hs.sendsOwn _ _ hsi)
        msg answer)

theorem step_inv {s next : StackRun} (hs : s.Inv) {e : StackEvent}
    (hstep : s.step e = some next) : next.Inv := by
  cases e with
  | call call =>
    obtain ⟨stack, happly, rfl⟩ := Option.map_eq_some'.mp hstep
    refine ⟨NetworkStack.apply_wf hs.wf happly,
      NetworkStack.apply_sendsOwn hs.wf hs.sendsOwn happly, fun i tx hmem => ?_⟩
    rcases List.mem_append.mp hmem with hold | hnew
    · obtain ⟨hsrc, si, hsi, hip⟩ := hs.held i tx hold
      obtain ⟨si', hsi', hk⟩ := (NetworkStack.apply_keeps hs.wf happly).interfaces i si hsi
      exact ⟨hsrc, si', hsi', hk.mem_ipv4Datas hip⟩
    · have hheld : s.stack.heldOf call = some (i, tx) := Option.mem_toList.mp hnew
      cases call with
      | ipv4Tx dst requestAnswer reply | icmpTx dst requestAnswer reply
      | udpTx dst _ _ requestAnswer reply =>
        exact Option.some.inj happly ▸ NetworkStack.ipv4TxHeld_spec hs.wf hheld
      | _ => cases hheld
  | send index answer =>
    simp only [step] at hstep
    split at hstep
    · rename_i i tx hheld
      cases hstep
      obtain ⟨hsrc, si, hsi, hip⟩ := hs.held i tx (List.getElem?_mem hheld)
      simp only [NetworkStack.transmitOn, hsi]
      exact hs.replace hsi rfl rfl rfl rfl (StackInterface.transmit_sendsOwn (hs.sendsOwn i si hsi)
        (hsrc.trans (congrArg Interface.mac (hs.wf.interface_eq i si hsi)).symm) hip answer)
    · cases hstep
      exact hs
  | arpReply interface ip mac =>
    cases hstep
    exact processOn_inv hs interface _ none
  | arpRequest interface senderIp senderMac targetIp answer =>
    cases hstep
    exact processOn_inv hs interface _ answer

theorem run_inv : ∀ {s : StackRun} (events : List StackEvent) {next : StackRun},
    s.Inv → s.run events = some next → next.Inv
  | _, [], _, hs, hrun => Option.some.inj hrun ▸ hs
  | _, _ :: events, _, hs, hrun => by
    obtain ⟨mid, hmid, hrest⟩ := Option.bind_eq_some.mp hrun
    exact run_inv events (step_inv hs hmid) hrest

/-- Along every interleaving of API calls, the application's sends on the transmitters they
returned, and the workers' handling of ARP replies and requests, from a new stack: the stack
stays well formed, and every frame on an interface's datalink leaves from the interface's own
MAC and speaks for one of its own local addresses, as ARP sender or IPv4 source. -/
theorem run_sendsOwn (events : List StackEvent) {s : StackRun}
    (hrun : start.run events = some s) : s.stack.Wf ∧ s.stack.SendsOwn :=
  have hs := run_inv events start_inv hrun
  ⟨hs.wf, hs.sendsOwn⟩

/-- `eth0` set up with `10.0.0.1/24`; a UDP transmitter to `10.0.0.2` sends once, and the
worker answers an ARP request for `10.0.0.1`. -/
def eth0Traffic : List StackEvent :=
  [.call (.addInterface eth0.data.interface),
    .call (.addIpv4 eth0.data.interface ⟨⟨10, 0, 0, 1⟩, 24, by decide⟩),
    .call (.udpTx ⟨10, 0, 0, 2⟩ 5000 53 (some (.ok ()))
      (MacAddr.new 0 0x11 0x22 0x33 0x44 0x55)),
    .send 0 (some (.ok ())),
    .arpRequest eth0.data.interface ⟨10, 0, 0, 2⟩ (MacAddr.new 0 0x11 0x22 0x33 0x44 0x55)
      ⟨10, 0, 0, 1⟩ (some (.ok ()))]

theorem run_sendsOwn_eth0Traffic :
    ∃ s, start.run eth0Traffic = some s ∧ s.stack.Wf ∧ s.stack.SendsOwn :=
  have hrun : start.run eth0Traffic = some _ := rfl
  ⟨_, hrun, run_sendsOwn eth0Traffic hrun⟩

end StackRun

end Rips
