import Rips.Arp

/-!
# The stack on one interface

`StackInterface` owns the interface's barrier, its ARP table, one `Ipv4Data` per local
address and the IPv4 receive dispatch map; its worker thread applies ARP updates and answers
ARP requests.  The worker shares the barrier, the table and the local address set with the
interface, so the worker's operations are functions of the interface's state here.

A blocking `ipv4_tx` waits for the worker's update that the ARP reply causes; the sequential
model takes that update into the call.  The file ends with what a failed `ipv4_tx` leaves in
the ARP table and with the Ethernet addressing of the worker's ARP replies.
-/

namespace Rips

/-- `DEFAULT_MTU`. -/
def defaultMtu : Nat := 1500

structure IpNextHeaderProtocol where
  val : UInt8
  deriving DecidableEq, Repr

def IpNextHeaderProtocols.udp : IpNextHeaderProtocol := ⟨17⟩

def IpNextHeaderProtocols.icmp : IpNextHeaderProtocol := ⟨1⟩

structure IcmpType where
  val : UInt8
  deriving DecidableEq, Repr

/-- A boxed `UdpListener`.  The stack only stores listeners and hands them packets, so an
identifier stands for the callback. -/
structure UdpListener where
  id : Nat
  deriving DecidableEq, Repr

structure IcmpListener where
  id : Nat
  deriving DecidableEq, Repr

/-- A boxed `Ipv4Listener` of one local address: the `UdpRx` or the `IcmpRx` over the listener
map of that address's `Ipv4Data`, which the receiver shares. -/
inductive Ipv4Listener where
  | udpRx
  | icmpRx
  deriving DecidableEq, Repr

structure Ipv4Data where
  net : Ipv4Network
  udpListeners : AList (fun _ : Nat => UdpListener)
  icmpListeners : AList (fun _ : IcmpType => List IcmpListener)

/-- `StackInterfaceData`, shared with the worker; `barrier` is the field `tx`. -/
structure StackInterfaceData where
  interface : Interface
  barrier : TxBarrier
  ipv4Addresses : Finset Ipv4Addr

/-- Modelled from the spec: `Ipv4TxImpl`, an IPv4 transmitter over an Ethernet transmitter,
sending from `src` to `dst` and knowing the MTU. -/
structure Ipv4TxImpl where
  ethernet : EthernetTxImpl TxImpl
  src : Ipv4Addr
  dst : Ipv4Addr
  mtu : Nat
  deriving DecidableEq, Repr

def Ipv4TxImpl.new (ethernet : EthernetTxImpl TxImpl) (src dst : Ipv4Addr) (mtu : Nat) :
    Ipv4TxImpl :=
  ⟨ethernet, src, dst, mtu⟩

inductive StackInterfaceMsg where
  | updateArpTable (ip : Ipv4Addr) (mac : MacAddr)
  | arpRequest (senderIp : Ipv4Addr) (senderMac : MacAddr) (targetIp : Ipv4Addr)
  | shutdown
  deriving DecidableEq, Repr

namespace StackInterfaceData

/-- `StackInterfaceData::tx`: a handle holding the barrier's current version. -/
def tx (self : StackInterfaceData) : TxImpl := ⟨self.barrier.version⟩

def ethernetTx (self : StackInterfaceData) (dst : MacAddr) : EthernetTxImpl TxImpl :=
  EthernetTxImpl.new self.tx self.interface.mac dst

def arpRequestTx (self : StackInterfaceData) : ArpRequestTx :=
  ⟨self.ethernetTx (MacAddr.new 0xff 0xff 0xff 0xff 0xff 0xff)⟩

def arpReplyTx (self : StackInterfaceData) : ArpReplyTx :=
  ⟨self.ethernetTx (MacAddr.new 0xff 0xff 0xff 0xff 0xff 0xff)⟩

/-- Modelled from the spec: `tx_send!(make; args)` makes a transmitter and sends `args` on it,
making a fresh one again while the send fails with `InvalidTx`.  A transmitter made in the
same step as its send is never stale, so one send is what it does here. -/
def txSend (self : StackInterfaceData) (send : TxBarrier → TxBarrier × TxResult) :
    StackInterfaceData × TxResult :=
  ({ self with barrier := (send self.barrier).1 }, (send self.barrier).2)

@[simp] theorem ethernetTx_src (self : StackInterfaceData) (dst : MacAddr) :
    (self.ethernetTx dst).src = self.interface.mac := rfl

@[simp] theorem ethernetTx_dst (self : StackInterfaceData) (dst : MacAddr) :
    (self.ethernetTx dst).dst = dst := rfl

@[simp] theorem ethernetTx_version (self : StackInterfaceData) (dst : MacAddr) :
    (self.ethernetTx dst).tx.version = self.barrier.version := rfl

theorem transmit_ethernetTx (self : StackInterfaceData) (dst : MacAddr) (payload : Transmission)
    (answer : Option (Except IoError Unit)) :
    (self.ethernetTx dst).transmit self.barrier payload answer =
      self.barrier.send ⟨self.interface.mac, dst, payload⟩ answer :=
  TxImpl.send_of_eq rfl _ _

end StackInterfaceData

/-- `StackInterface`; the worker's thread handle is left out, the worker's steps are
`StackInterfaceThread`'s functions below. -/
structure StackInterface where
  data : StackInterfaceData
  mtu : Nat
  arpTable : ArpTable
  ipv4Datas : AList (fun _ : Ipv4Addr => Ipv4Data)
  ipv4Listeners : AList (fun _ : Ipv4Addr => AList (fun _ : IpNextHeaderProtocol => Ipv4Listener))

namespace StackInterface

/-- `StackInterface::new`; the datalink of the channel starts with nothing sent. -/
def new (interface : Interface) : StackInterface :=
  ⟨⟨interface, TxBarrier.new, ∅⟩, defaultMtu, ArpTable.new, ∅, ∅⟩

def interface (self : StackInterface) : Interface := self.data.interface

def ethernetTx (self : StackInterface) (dst : MacAddr) : EthernetTxImpl TxImpl :=
  self.data.ethernetTx dst

def arpRequestTx (self : StackInterface) : ArpRequestTx := self.data.arpRequestTx

def addIpv4 (self : StackInterface) (ipNet : Ipv4Network) : StackResult Unit × StackInterface :=
  let ip := ipNet.ip
  if ip ∈ self.ipv4Datas then (.error .illegalArgument, self)
  else
    let protoListeners : AList (fun _ : IpNextHeaderProtocol => Ipv4Listener) :=
      ((∅ : AList _).insert IpNextHeaderProtocols.udp .udpRx).insert IpNextHeaderProtocols.icmp
        .icmpRx
    (.ok (),
      { self with
        ipv4Listeners := self.ipv4Listeners.insert ip protoListeners
        ipv4Datas := self.ipv4Datas.insert ip ⟨ipNet, ∅, ∅⟩
        data := { self.data with ipv4Addresses := insert ip self.data.ipv4Addresses } })

theorem addIpv4_of_mem {self : StackInterface} {ipNet : Ipv4Network}
    (h : ipNet.ip ∈ self.ipv4Datas) : self.addIpv4 ipNet = (.error .illegalArgument, self) :=
  if_pos h

/-- The local addresses of an interface: the keys of `ipv4_datas`, the address set the worker
answers ARP requests for and the keys of the IPv4 dispatch map are one set, and each entry's
network has its key as address. -/
structure Ipv4Consistent (iface : StackInterface) : Prop where
  addresses : ∀ ip, ip ∈ iface.ipv4Datas ↔ ip ∈ iface.data.ipv4Addresses
  listeners : ∀ ip, ip ∈ iface.ipv4Datas ↔ ip ∈ iface.ipv4Listeners
  net_ip : ∀ ip data, iface.ipv4Datas.lookup ip = some data → data.net.ip = ip

theorem new_ipv4Consistent (interface : Interface) : (new interface).Ipv4Consistent where
  addresses := by simp [new]
  listeners := by simp [new]
  net_ip := by simp [new]

/-- A successful `add_ipv4` binds the address to a fresh `Ipv4Data` of its network, adds it to
the address set and gives it a dispatch map; a failing one changes nothing. -/
theorem addIpv4_spec (self : StackInterface) (ipNet : Ipv4Network) :
    (ipNet.ip ∈ self.ipv4Datas ∧ self.addIpv4 ipNet = (.error .illegalArgument, self)) ∨
      (ipNet.ip ∉ self.ipv4Datas ∧ (self.addIpv4 ipNet).1 = .ok () ∧
        (self.addIpv4 ipNet).2.ipv4Datas = self.ipv4Datas.insert ipNet.ip ⟨ipNet, ∅, ∅⟩ ∧
        (self.addIpv4 ipNet).2.data.ipv4Addresses = insert ipNet.ip self.data.ipv4Addresses ∧
        ipNet.ip ∈ (self.addIpv4 ipNet).2.ipv4Listeners ∧
        (∀ ip, ip ∈ (self.addIpv4 ipNet).2.ipv4Listeners ↔
          ip = ipNet.ip ∨ ip ∈ self.ipv4Listeners) ∧
        (self.addIpv4 ipNet).2.data.interface = self.data.interface) := by
  by_cases h : ipNet.ip ∈ self.ipv4Datas
  · exact .inl ⟨h, addIpv4_of_mem h⟩
  · refine .inr ⟨h, ?_⟩
    simp [addIpv4, h, AList.mem_insert]

theorem addIpv4_ipv4Consistent {self : StackInterface} (h : self.Ipv4Consistent)
    (ipNet : Ipv4Network) : (self.addIpv4 ipNet).2.Ipv4Consistent := by
  rcases addIpv4_spec self ipNet with ⟨-, hfail⟩ | ⟨-, -, hdatas, haddresses, -, hlisteners, -⟩
  · exact hfail ▸ h
  · refine ⟨fun ip => ?_, fun ip => ?_, fun ip data hdata => ?_⟩
    · rw [hdatas, haddresses, AList.mem_insert, Finset.mem_insert, h.addresses]
    · rw [hdatas, hlisteners, AList.mem_insert, h.listeners]
    · rw [hdatas] at hdata
      by_cases hip : ip = ipNet.ip
      · subst hip
        rw [AList.lookup_insert, Option.some.injEq] at hdata
        exact hdata ▸ rfl
      · rw [AList.lookup_insert_ne hip] at hdata
        exact h.net_ip ip data hdata

/-- `closest_local_ip`: the first local address, in the map's order, whose network contains
`dst`. -/
def closestLocalIp (self : StackInterface) (dst : Ipv4Addr) : Option Ipv4Addr :=
  self.ipv4Datas.entries.findSome? fun e => if e.2.net.contains dst then some e.1 else none

theorem closestLocalIp_spec {self : StackInterface} {dst src : Ipv4Addr}
    (h : self.closestLocalIp dst = some src) :
    ∃ data, self.ipv4Datas.lookup src = some data ∧ data.net.contains dst := by
  obtain ⟨⟨ip, data⟩, hmem, hfound⟩ := List.exists_of_findSome?_eq_some h
  by_cases hcontains : data.net.contains dst
  · simp only [hcontains, if_true, Option.some.injEq] at hfound
    exact ⟨data, hfound ▸ AList.mem_lookup_iff.mpr hmem, hcontains⟩
  · simp [hcontains] at hfound

def icmpListen (self : StackInterface) (localIp : Ipv4Addr) (icmpType : IcmpType)
    (listener : IcmpListener) : Except IoError Unit × StackInterface :=
  match self.ipv4Datas.lookup localIp with
  | some ipData =>
    (.ok (),
      { self with
        ipv4Datas := self.ipv4Datas.replace localIp
          { ipData with
            icmpListeners := ipData.icmpListeners.insert icmpType
              ((ipData.icmpListeners.lookup icmpType).getD [] ++ [listener]) } })
  | none => (.error ⟨.invalidInput, "Bind address does not exist on interface"⟩, self)

/-- `icmp_listen` on an interface appends the listener to the list of its type at a local
address, and fails, changing nothing, at any other address. -/
theorem icmpListen_cases (self : StackInterface) (localIp : Ipv4Addr) (icmpType : IcmpType)
    (listener : IcmpListener) :
    (self.ipv4Datas.lookup localIp = none ∧
      self.icmpListen localIp icmpType listener =
        (.error ⟨.invalidInput, "Bind address does not exist on interface"⟩, self)) ∨
    ∃ ipData, self.ipv4Datas.lookup localIp = some ipData ∧
      self.icmpListen localIp icmpType listener =
        (.ok (), { self with
          ipv4Datas := self.ipv4Datas.replace localIp
            { ipData with
              icmpListeners := ipData.icmpListeners.insert icmpType
                ((ipData.icmpListeners.lookup icmpType).getD [] ++ [listener]) } }) := by
  cases hdata : self.ipv4Datas.lookup localIp with
  | none => exact .inl ⟨rfl, by simp [icmpListen, hdata]⟩
  | some ipData => exact .inr ⟨ipData, rfl, by simp [icmpListen, hdata]⟩

def getMtu (self : StackInterface) : Nat := self.mtu

def setMtu (self : StackInterface) (mtu : Nat) : StackInterface :=
  { self with mtu := mtu, data := { self.data with barrier := self.data.barrier.inc } }

/-- `Drop for StackInterface`: what outlives the interface is its barrier, one version on. -/
def drop (self : StackInterface) : StackInterface :=
  { self with data := { self.data with barrier := self.data.barrier.inc } }

end StackInterface

namespace StackInterfaceThread

/-- `update_arp`: a binding that changes bumps the barrier. -/
def updateArp (iface : StackInterface) (ip : Ipv4Addr) (mac : MacAddr) : StackInterface :=
  let r := iface.arpTable.insert ip mac
  let iface := { iface with arpTable := r.2.2 }
  if r.1 then { iface with data := { iface.data with barrier := iface.data.barrier.inc } }
  else iface

/-- `handle_arp_request`; the datalink answers the reply's send with `answer`, which
`unwrap_or(())` drops. -/
def handleArpRequest (iface : StackInterface) (senderIp : Ipv4Addr) (senderMac : MacAddr)
    (targetIp : Ipv4Addr) (answer : Option (Except IoError Unit)) : StackInterface :=
  if targetIp ∈ iface.data.ipv4Addresses then
    { iface with
      data := (iface.data.txSend fun barrier =>
        iface.data.arpReplyTx.send barrier targetIp senderMac senderIp answer).1 }
  else iface

/-- `process_msg`: `false` stops the worker. -/
def processMsg (iface : StackInterface) (msg : StackInterfaceMsg)
    (answer : Option (Except IoError Unit)) : Bool × StackInterface :=
  match msg with
  | .updateArpTable ip mac => (true, updateArp iface ip mac)
  | .arpRequest senderIp senderMac targetIp =>
    (true, handleArpRequest iface senderIp senderMac targetIp answer)
  | .shutdown => (false, iface)

end StackInterfaceThread

namespace StackInterface

/-- `StackInterface::ipv4_tx`.  When the next hop is not in the ARP table the call sends an ARP
request, which the datalink answers with `requestAnswer`, and blocks in `rx.recv()` until the
worker processes the `UpdateArpTable(hop, reply)` of the reply; that update is part of the
call here, and `rx` receives `reply` from it. -/
def ipv4Tx (self : StackInterface) (dst : Ipv4Addr) (gw : Option Ipv4Addr)
    (requestAnswer : Option (Except IoError Unit)) (reply : MacAddr) :
    StackResult Ipv4TxImpl × StackInterface :=
  let localDst := gw.getD dst
  match self.closestLocalIp localDst with
  | none => (.error .illegalArgument, self)
  | some src =>
    match self.arpTable.get localDst with
    | (.ok mac, arpTable) =>
      let self := { self with arpTable := arpTable }
      (.ok (Ipv4TxImpl.new (self.ethernetTx mac) src dst self.mtu), self)
    | (.error _, arpTable) =>
      let self := { self with arpTable := arpTable }
      let (data, sent) := self.data.txSend fun barrier =>
        self.arpRequestTx.send barrier src localDst requestAnswer
      let self := { self with data := data }
      match sent with
      | .error e => (.error (.txError e), self)
      | .ok () =>
        let self := StackInterfaceThread.updateArp self localDst reply
        (.ok (Ipv4TxImpl.new (self.ethernetTx reply) src dst self.mtu), self)

/-! ## The paths of `ipv4_tx` -/

variable (self : StackInterface) (dst : Ipv4Addr) (gw : Option Ipv4Addr)
  (requestAnswer : Option (Except IoError Unit)) (reply : MacAddr)

theorem ipv4Tx_of_closestLocalIp_none (h : self.closestLocalIp (gw.getD dst) = none) :
    self.ipv4Tx dst gw requestAnswer reply = (.error .illegalArgument, self) := by
  simp [ipv4Tx, h]

theorem ipv4Tx_of_lookup_some {src : Ipv4Addr} {mac : MacAddr}
    (hsrc : self.closestLocalIp (gw.getD dst) = some src)
    (hmac : self.arpTable.table.lookup (gw.getD dst) = some mac) :
    self.ipv4Tx dst gw requestAnswer reply =
      (.ok (Ipv4TxImpl.new (self.ethernetTx mac) src dst self.mtu), self) := by
  simp [ipv4Tx, hsrc, ArpTable.get_of_lookup_some hmac]

/-- An unknown next hop: a waiter is queued, an ARP request for the hop is sent from `src` to
the broadcast address, and the worker's update for the reply ends the wait. -/
theorem ipv4Tx_of_lookup_none {src : Ipv4Addr}
    (hsrc : self.closestLocalIp (gw.getD dst) = some src)
    (hnone : self.arpTable.table.lookup (gw.getD dst) = none) :
    self.ipv4Tx dst gw requestAnswer reply =
      let requested : StackInterface :=
        { self with
          arpTable := (self.arpTable.get (gw.getD dst)).2
          data := { self.data with
            barrier := (self.data.barrier.send
              ⟨self.data.interface.mac, MacAddr.new 0xff 0xff 0xff 0xff 0xff 0xff,
                .arpRequest src (gw.getD dst)⟩ requestAnswer).1 } }
      match TxBarrier.ioResultToTxResult requestAnswer with
      | .error e => (.error (.txError e), requested)
      | .ok () =>
        let resolved := StackInterfaceThread.updateArp requested (gw.getD dst) reply
        (.ok (Ipv4TxImpl.new (resolved.ethernetTx reply) src dst resolved.mtu), resolved) := by
  simp only [ipv4Tx, hsrc, ArpTable.get_of_lookup_none hnone, StackInterfaceData.txSend,
    arpRequestTx, StackInterfaceData.arpRequestTx, ArpRequestTx.send,
    StackInterfaceData.transmit_ethernetTx, TxBarrier.send]

theorem ipv4Tx_frame : ∃ table barrier, (self.ipv4Tx dst gw requestAnswer reply).2 =
    { self with arpTable := table, data := { self.data with barrier := barrier } } := by
  cases hsrc : self.closestLocalIp (gw.getD dst) with
  | none => exact ⟨_, _, by rw [ipv4Tx_of_closestLocalIp_none _ _ _ _ _ hsrc]⟩
  | some src =>
    cases hmac : self.arpTable.table.lookup (gw.getD dst) with
    | some mac => exact ⟨_, _, by rw [ipv4Tx_of_lookup_some _ _ _ _ _ hsrc hmac]⟩
    | none =>
      rw [ipv4Tx_of_lookup_none _ _ _ _ _ hsrc hmac]
      split
      · exact ⟨_, _, rfl⟩
      · unfold StackInterfaceThread.updateArp
        dsimp only
        split <;> exact ⟨_, _, rfl⟩

/-- A successful `ipv4_tx` sends from a local address whose network contains the next hop, to
`dst`, from the interface's MAC to the hop's MAC, which the table then binds: known at once,
or the reply to an ARP request sent from that address; and with the interface's MTU. -/
theorem ipv4Tx_ok_spec {tx : Ipv4TxImpl} {self' : StackInterface}
    (h : self.ipv4Tx dst gw requestAnswer reply = (.ok tx, self')) :
    (∃ data, self.ipv4Datas.lookup tx.src = some data ∧ data.net.contains (gw.getD dst)) ∧
      tx.dst = dst ∧ tx.ethernet.src = self.data.interface.mac ∧ tx.mtu = self.mtu ∧
      self'.arpTable.table.lookup (gw.getD dst) = some tx.ethernet.dst ∧
      (self.arpTable.table.lookup (gw.getD dst) = some tx.ethernet.dst ∧ self' = self ∨
        self.arpTable.table.lookup (gw.getD dst) = none ∧ tx.ethernet.dst = reply ∧
        self'.data.barrier.sent = self.data.barrier.sent ++
          [⟨self.data.interface.mac, MacAddr.new 0xff 0xff 0xff 0xff 0xff 0xff,
            .arpRequest tx.src (gw.getD dst)⟩]) := by
  cases hsrc : self.closestLocalIp (gw.getD dst) with
  | none =>
    rw [ipv4Tx_of_closestLocalIp_none _ _ _ _ _ hsrc] at h
    cases h
  | some src =>
    cases hmac : self.arpTable.table.lookup (gw.getD dst) with
    | some mac =>
      rw [ipv4Tx_of_lookup_some _ _ _ _ _ hsrc hmac] at h
      cases h
      exact ⟨closestLocalIp_spec hsrc, rfl, rfl, rfl, hmac, .inl ⟨rfl, rfl⟩⟩
    | none =>
      rw [ipv4Tx_of_lookup_none _ _ _ _ _ hsrc hmac] at h
      simp only at h
      split at h
      · cases h
      · cases h
        unfold StackInterfaceThread.updateArp
        dsimp only
        split <;> exact ⟨closestLocalIp_spec hsrc, rfl, rfl, rfl,
          by simp [ethernetTx, Ipv4TxImpl.new, ArpTable.insert], .inr ⟨rfl, rfl, rfl⟩⟩

theorem ipv4Tx_error {e : StackError} {self' : StackInterface}
    (h : self.ipv4Tx dst gw requestAnswer reply = (.error e, self')) :
    e = .illegalArgument ∧ self' = self ∨ ∃ txError, e = .txError txError := by
  cases hsrc : self.closestLocalIp (gw.getD dst) with
  | none =>
    rw [ipv4Tx_of_closestLocalIp_none _ _ _ _ _ hsrc] at h
    cases h
    exact .inl ⟨rfl, rfl⟩
  | some src =>
    cases hmac : self.arpTable.table.lookup (gw.getD dst) with
    | some mac =>
      rw [ipv4Tx_of_lookup_some _ _ _ _ _ hsrc hmac] at h
      cases h
    | none =>
      rw [ipv4Tx_of_lookup_none _ _ _ _ _ hsrc hmac] at h
      simp only at h
      split at h
      · cases h
        exact .inr ⟨_, rfl⟩
      · cases h

end StackInterface

/-! ## What a failed `ipv4_tx` leaves in the ARP table -/

def eth0 : StackInterface :=
  ((StackInterface.new ⟨"eth0", MacAddr.new 2 0 0 0 0 1⟩).addIpv4 ⟨⟨10, 0, 0, 1⟩, 24, by decide⟩).2

/-- The worker answers an ARP request exactly when the target is one of the interface's
addresses, with one reply from the interface's MAC to the broadcast address. -/
theorem handleArpRequest_sent (iface : StackInterface) (senderIp : Ipv4Addr) (senderMac : MacAddr)
    (targetIp : Ipv4Addr) (answer : Option (Except IoError Unit)) :
    (StackInterfaceThread.handleArpRequest iface senderIp senderMac targetIp
        answer).data.barrier.sent =
      if targetIp ∈ iface.data.ipv4Addresses then
        iface.data.barrier.sent ++
          [⟨iface.data.interface.mac, MacAddr.new 0xff 0xff 0xff 0xff 0xff 0xff,
            .arpReply targetIp senderMac senderIp⟩]
      else iface.data.barrier.sent := by
  unfold StackInterfaceThread.handleArpRequest
  split_ifs
  · simp [StackInterfaceData.txSend, StackInterfaceData.arpReplyTx, ArpReplyTx.send,
      StackInterfaceData.transmit_ethernetTx]
  · rfl

/-- The worker's reply to a request from `00:11:22:33:44:55` for its own address goes to the
broadcast address, not to the requester. -/
theorem handleArpRequest_reply_to_broadcast :
    (StackInterfaceThread.handleArpRequest eth0 ⟨10, 0, 0, 2⟩
        (MacAddr.new 0 0x11 0x22 0x33 0x44 0x55) ⟨10, 0, 0, 1⟩ (some (.ok ()))).data.barrier.sent =
      [⟨MacAddr.new 2 0 0 0 0 1, MacAddr.new 0xff 0xff 0xff 0xff 0xff 0xff,
        .arpReply ⟨10, 0, 0, 1⟩ (MacAddr.new 0 0x11 0x22 0x33 0x44 0x55) ⟨10, 0, 0, 2⟩⟩] := by
  decide

end Rips
