import Rips.Udp

/-!
# Every run of the stack's API

An application drives a `NetworkStack` by adding interfaces and local networks, asking for
IPv4, ICMP and UDP transmitters, binding UDP and ICMP listeners and changing an interface's
MTU.  Each of
these calls keeps the stack well formed, so every stack an application can reach from
`NetworkStack::new` is: every `StackInterface` is built for its key, the keys of
`ipv4_datas`, the address set and the IPv4 dispatch map agree, and each local network has
its route.  The listener binds write through an address's `Ipv4Data` and keep its network,
which is all they need.
-/

namespace Rips

namespace NetworkStack

/-! ## `icmp_listen` -/

/-- One interface's turn in `icmp_listen`'s loop: its own `icmp_listen`, and
`added_to_interface |= result.is_ok()`. -/
def icmpListenStep (localIp : Ipv4Addr) (icmpType : IcmpType) (listener : IcmpListener)
    (acc : Bool × AList (fun _ : Interface => StackInterface)) (interface : Interface) :
    Bool × AList (fun _ : Interface => StackInterface) :=
  match acc.2.lookup interface with
  | some si =>
    let r := si.icmpListen localIp icmpType listener
    (acc.1 || r.1.toBool, acc.2.replace interface r.2)
  | none => acc

/-- `icmp_listen(local_ip, icmp_type, listener)`: a clone of the listener on every interface,
in the map's order. -/
def icmpListen (self : NetworkStack) (localIp : Ipv4Addr) (icmpType : IcmpType)
    (listener : IcmpListener) : Except IoError Unit × NetworkStack :=
  if localIp = ⟨0, 0, 0, 0⟩ then
    (.error ⟨.invalidInput, "Rips does not support listening to all interfaces yet"⟩, self)
  else
    let r := self.interfaces.keys.foldl (icmpListenStep localIp icmpType listener)
      (false, self.interfaces)
    let self := { self with interfaces := r.2 }
    if r.1 then (.ok (), self)
    else (.error ⟨.invalidInput, "Bind address does not exist in stack"⟩, self)

/-! ## Writing through a local address -/

theorem wf_replace_ipv4Data {self : NetworkStack} (h : self.Wf) {interface : Interface}
    {si : StackInterface} {ip : Ipv4Addr} {ipData ipData' : Ipv4Data}
    (hsi : self.interfaces.lookup interface = some si)
    (hdata : si.ipv4Datas.lookup ip = some ipData) (hnet : ipData'.net = ipData.net) :
    { self with
      interfaces := self.interfaces.replace interface
        { si with ipv4Datas := si.ipv4Datas.replace ip ipData' } }.Wf := by
  have hconsistent := h.ipv4Consistent _ _ hsi
  have hip : ip ∈ si.ipv4Datas := AList.lookup_isSome.mp (by simp [hdata])
  have hlookup : ∀ ip' data, (si.ipv4Datas.replace ip ipData').lookup ip' = some data →
      ∃ old, si.ipv4Datas.lookup ip' = some old ∧ data.net = old.net := by
    intro ip' data hdata'
    by_cases hip' : ip' = ip
    · subst hip'
      rw [lookup_replace_self hip, Option.some.injEq] at hdata'
      exact ⟨ipData, hdata, hdata' ▸ hnet⟩
    · rw [lookup_replace_of_ne _ hip'] at hdata'
      exact ⟨data, hdata', rfl⟩
  apply wf_replace h hsi
  · rfl
  · refine ⟨fun ip' => ?_, fun ip' => ?_, fun ip' data hdata' => ?_⟩
    · exact AList.mem_replace.trans (hconsistent.addresses ip')
    · exact AList.mem_replace.trans (hconsistent.listeners ip')
    · obtain ⟨old, hold, hsame⟩ := hlookup ip' data hdata'
      exact hsame ▸ hconsistent.net_ip ip' old hold
  · exact List.Subset.refl _
  · intro ip' data hdata'
    obtain ⟨old, hold, hsame⟩ := hlookup ip' data hdata'
    exact hsame ▸ h.route_of_ipv4 _ _ _ _ hsi hold

theorem udpListen_wf {self : NetworkStack} (h : self.Wf) {addr : Except IoError SocketAddr}
    {listener : UdpListener} {draws : PortDraws} {fuel : Nat} {r : Except IoError SocketAddr}
    {self' : NetworkStack} (hcall : self.udpListen addr listener draws fuel = some (r, self')) :
    self'.Wf := by
  rcases addr with e | requested | _
  · cases hcall
    exact h
  · rcases udpListenIpv4_cases hcall with ⟨e, -, rfl⟩ |
      ⟨interface, si, ipData, port, hsi, hdata, -, -, rfl, -⟩
    · exact h
    · exact wf_replace_ipv4Data h hsi hdata rfl
  · cases hcall
    exact h

private theorem foldl_icmpListenStep_wf (localIp : Ipv4Addr) (icmpType : IcmpType)
    (listener : IcmpListener) (table : RoutingTable) :
    ∀ (interfaces : List Interface) (acc : Bool × AList (fun _ : Interface => StackInterface)),
      (⟨acc.2, table⟩ : NetworkStack).Wf →
      (⟨(interfaces.foldl (icmpListenStep localIp icmpType listener) acc).2, table⟩ :
        NetworkStack).Wf
  | [], _, h => h
  | interface :: interfaces, acc, h => by
    apply foldl_icmpListenStep_wf localIp icmpType listener table interfaces
    unfold icmpListenStep
    cases hsi : acc.2.lookup interface with
    | none => exact h
    | some si =>
      rcases si.icmpListen_cases localIp icmpType listener with ⟨-, hfail⟩ | ⟨ipData, hdata, hok⟩
      · simpa [hfail, replace_of_lookup hsi] using h
      · have hstack : (⟨acc.2, table⟩ : NetworkStack).Wf := h
        simp only [hok]
        exact wf_replace_ipv4Data hstack hsi hdata rfl

theorem icmpListen_wf {self : NetworkStack} (h : self.Wf) (localIp : Ipv4Addr)
    (icmpType : IcmpType) (listener : IcmpListener) :
    (self.icmpListen localIp icmpType listener).2.Wf := by
  have hloop := foldl_icmpListenStep_wf localIp icmpType listener self.routingTable
    self.interfaces.keys (false, self.interfaces) h
  unfold icmpListen
  split_ifs
  · exact h
  · dsimp only
    split <;> exact hloop

/-- `interface(&interface)?.set_mtu(mtu)`. -/
def setMtu (self : NetworkStack) (interface : Interface) (mtu : Nat) :
    StackResult Unit × NetworkStack :=
  match self.interfaces.lookup interface with
  | some si =>
    (.ok (), { self with interfaces := self.interfaces.replace interface (si.setMtu mtu) })
  | none => (.error .invalidInterface, self)

theorem setMtu_wf {self : NetworkStack} (h : self.Wf) (interface : Interface) (mtu : Nat) :
    (self.setMtu interface mtu).2.Wf := by
  unfold setMtu
  cases hsi : self.interfaces.lookup interface with
  | none => exact h
  | some si => exact wf_replace_of_same h hsi rfl rfl rfl rfl

/-! ## Transmitters over `ipv4_tx` -/

/-- Modelled from the spec: `IcmpTx`, an ICMP transmitter over an IPv4 one. -/
structure IcmpTx where
  ipv4 : Ipv4TxImpl
  deriving DecidableEq, Repr

/-- Modelled from the spec: `UdpTx`, an IPv4 transmitter with its source and destination ports
bound. -/
structure UdpTx where
  ipv4 : Ipv4TxImpl
  src : UInt16
  dstPort : UInt16
  deriving DecidableEq, Repr

/-- `icmp_tx(dst_ip)`: `ipv4_tx`, whose error `?` passes on. -/
def icmpTx (self : NetworkStack) (dstIp : Ipv4Addr) (requestAnswer : Option (Except IoError Unit))
    (reply : MacAddr) : StackResult IcmpTx × NetworkStack :=
  let (r, self) := self.ipv4Tx dstIp requestAnswer reply
  (r.map IcmpTx.mk, self)

/-- `udp_tx(dst_ip, src, dst_port)`: `ipv4_tx`, whose error `?` passes on. -/
def udpTx (self : NetworkStack) (dstIp : Ipv4Addr) (src dstPort : UInt16)
    (requestAnswer : Option (Except IoError Unit)) (reply : MacAddr) :
    StackResult UdpTx × NetworkStack :=
  let (r, self) := self.ipv4Tx dstIp requestAnswer reply
  (r.map fun ipv4 => ⟨ipv4, src, dstPort⟩, self)

/-- `interface_from_name(name)`: the first interface, in the map's order, with that name. -/
def interfaceFromName (self : NetworkStack) (name : String) : StackResult StackInterface :=
  match self.interfaces.entries.find? fun e => e.1.name == name with
  | some e => .ok e.2
  | none => .error .invalidInterface

/-- On a well-formed stack, what `interface_from_name` finds is built for an interface of that
name. -/
theorem interfaceFromName_ok {self : NetworkStack} (h : self.Wf) {name : String}
    {si : StackInterface} (hok : self.interfaceFromName name = .ok si) :
    ∃ i, self.interfaces.lookup i = some si ∧ si.interface = i ∧ i.name = name := by
  unfold interfaceFromName at hok
  split at hok
  · rename_i e he
    cases hok
    have hsi : self.interfaces.lookup e.1 = some e.2 :=
      AList.mem_lookup_iff.mpr (List.mem_of_find?_eq_some he)
    exact ⟨e.1, hsi, h.interface_eq _ _ hsi, by simpa using List.find?_some he⟩
  · cases hok

theorem interfaceFromName_of_mem {self : NetworkStack} {i : Interface} (hi : i ∈ self.interfaces) :
    ∃ si, self.interfaceFromName i.name = .ok si := by
  unfold interfaceFromName
  split
  · exact ⟨_, rfl⟩
  · rename_i hnone
    obtain ⟨si, hsi⟩ := Option.isSome_iff_exists.mp (AList.lookup_isSome.mpr hi)
    simpa using List.find?_eq_none.mp hnone ⟨i, si⟩ (AList.mem_lookup_iff.mp hsi)

/-! ## Runs of the API -/

inductive ApiCall where
  | addInterface (interface : Interface)
  | addIpv4 (interface : Interface) (ipNet : Ipv4Network)
  /-- `ipv4_tx(dst)`, with the datalink's answer to an ARP request and the reply it gets. -/
  | ipv4Tx (dst : Ipv4Addr) (requestAnswer : Option (Except IoError Unit)) (reply : MacAddr)
  | icmpTx (dstIp : Ipv4Addr) (requestAnswer : Option (Except IoError Unit)) (reply : MacAddr)
  | udpTx (dstIp : Ipv4Addr) (src dstPort : UInt16) (requestAnswer : Option (Except IoError Unit))
    (reply : MacAddr)
  | udpListen (call : UdpListenCall)
  | icmpListen (localIp : Ipv4Addr) (icmpType : IcmpType) (listener : IcmpListener)
  | setMtu (interface : Interface) (mtu : Nat)

/-- The stack after a call; `none` while `udp_listen`'s loop has not ended. -/
def apply (self : NetworkStack) : ApiCall → Option NetworkStack
  | .addInterface interface => some (self.addInterface interface).2
  | .addIpv4 interface ipNet => some (self.addIpv4 interface ipNet).2
  | .ipv4Tx dst requestAnswer reply => some (self.ipv4Tx dst requestAnswer reply).2
  | .icmpTx dstIp requestAnswer reply => some (self.icmpTx dstIp requestAnswer reply).2
  | .udpTx dstIp src dstPort requestAnswer reply =>
    some (self.udpTx dstIp src dstPort requestAnswer reply).2
  | .udpListen call =>
    (self.udpListen call.addr call.listener call.draws call.fuel).map Prod.snd
  | .icmpListen localIp icmpType listener => some (self.icmpListen localIp icmpType listener).2
  | .setMtu interface mtu => some (self.setMtu interface mtu).2

def runApi (self : NetworkStack) : List ApiCall → Option NetworkStack
  | [] => some self
  | call :: calls => (self.apply call).bind fun next => next.runApi calls

theorem apply_wf {self next : NetworkStack} (h : self.Wf) {call : ApiCall}
    (happly : self.apply call = some next) : next.Wf := by
  cases call with
  | addInterface interface => exact Option.some.inj happly ▸ addInterface_wf h interface
  | addIpv4 interface ipNet => exact Option.some.inj happly ▸ addIpv4_wf h interface ipNet
  | ipv4Tx dst requestAnswer reply | icmpTx dst requestAnswer reply
  | udpTx dst _ _ requestAnswer reply =>
    exact Option.some.inj happly ▸ ipv4Tx_wf h dst requestAnswer reply
  | udpListen call =>
    obtain ⟨⟨r, next'⟩, hcall, rfl⟩ := Option.map_eq_some'.mp happly
    exact udpListen_wf h hcall
  | icmpListen localIp icmpType listener =>
    exact Option.some.inj happly ▸ icmpListen_wf h localIp icmpType listener
  | setMtu interface mtu => exact Option.some.inj happly ▸ setMtu_wf h interface mtu

/-- Every stack an application reaches from a well-formed one, `NetworkStack::new` first of
them, is well formed. -/
theorem runApi_wf : ∀ {self : NetworkStack} (calls : List ApiCall) {next : NetworkStack},
    self.Wf → self.runApi calls = some next → next.Wf
  | _, [], _, h, hrun => Option.some.inj hrun ▸ h
  | self, call :: calls, _, h, hrun => by
    obtain ⟨mid, hmid, hrest⟩ := Option.bind_eq_some.mp hrun
    exact runApi_wf calls (apply_wf h hmid) hrest

end NetworkStack

end Rips
