import Rips.Icmp

/-!
# What no call of the API takes back

An application sets the stack up and binds its listeners through `NetworkStack`'s calls, and
none of them undoes what an earlier one did.  Along every run of the API from a well-formed
stack, every interface stays, built for the same `Interface`; every local address stays with
its network and its dispatch map; every UDP binding stays; each ICMP type's listener list only
grows at its end; the routing table keeps its routes as a prefix; every ARP binding stays, since
the calls only learn bindings for unknown hops; and the datalink's log only grows.
-/

namespace Rips

/-! ## One local address -/

/-- What a later state of a local address keeps of an earlier one: its network, every UDP
binding, and each ICMP type's listener list as a prefix. -/
structure Ipv4Data.Keeps (old new : Ipv4Data) : Prop where
  net : new.net = old.net
  udpListeners : ∀ port listener, old.udpListeners.lookup port = some listener →
    new.udpListeners.lookup port = some listener
  icmpListeners : ∀ t listeners, old.icmpListeners.lookup t = some listeners →
    ∃ more, new.icmpListeners.lookup t = some (listeners ++ more)

namespace Ipv4Data

theorem Keeps.refl (d : Ipv4Data) : d.Keeps d :=
  ⟨rfl, fun _ _ h => h, fun _ _ h => ⟨[], by rw [h, List.append_nil]⟩⟩

theorem Keeps.trans {a b c : Ipv4Data} (hab : a.Keeps b) (hbc : b.Keeps c) : a.Keeps c where
  net := hbc.net.trans hab.net
  udpListeners port listener h := hbc.udpListeners port listener (hab.udpListeners port listener h)
  icmpListeners t listeners h := by
    obtain ⟨more, hb⟩ := hab.icmpListeners t listeners h
    obtain ⟨more', hc⟩ := hbc.icmpListeners t _ hb
    exact ⟨more ++ more', by rw [hc, List.append_assoc]⟩

theorem keeps_bind (d : Ipv4Data) {port : Nat} (hfree : port ∉ d.udpListeners)
    (listener : UdpListener) :
    d.Keeps { d with udpListeners := d.udpListeners.insert port listener } where
  net := rfl
  udpListeners port' listener' h := by
    have hne : port' ≠ port := fun he => hfree (he ▸ AList.lookup_isSome.mp (by simp [h]))
    exact (AList.lookup_insert_ne hne).trans h
  icmpListeners _ _ h := ⟨[], by rw [h, List.append_nil]⟩

theorem keeps_icmp (d : Ipv4Data) (t : IcmpType) (listener : IcmpListener) :
    d.Keeps { d with
      icmpListeners := d.icmpListeners.insert t ((d.icmpListeners.lookup t).getD [] ++
        [listener]) } where
  net := rfl
  udpListeners _ _ h := h
  icmpListeners t' listeners h := by
    by_cases ht : t' = t
    · subst ht
      exact ⟨[listener], by simp [h]⟩
    · exact ⟨[], by rw [AList.lookup_insert_ne ht, h, List.append_nil]⟩

end Ipv4Data

/-! ## One interface -/

structure StackInterface.Keeps (old new : StackInterface) : Prop where
  interface : new.data.interface = old.data.interface
  ipv4Datas : ∀ ip d, old.ipv4Datas.lookup ip = some d →
    ∃ d', new.ipv4Datas.lookup ip = some d' ∧ d.Keeps d'
  ipv4Listeners : ∀ ip m, old.ipv4Listeners.lookup ip = some m →
    new.ipv4Listeners.lookup ip = some m
  arp : ∀ ip mac, old.arpTable.table.lookup ip = some mac →
    new.arpTable.table.lookup ip = some mac
  sent : old.data.barrier.sent <+: new.data.barrier.sent

namespace StackInterface

theorem Keeps.refl (si : StackInterface) : si.Keeps si :=
  ⟨rfl, fun _ d h => ⟨d, h, .refl d⟩, fun _ _ h => h, fun _ _ h => h, List.prefix_refl _⟩

theorem Keeps.trans {a b c : StackInterface} (hab : a.Keeps b) (hbc : b.Keeps c) :
    a.Keeps c where
  interface := hbc.interface.trans hab.interface
  ipv4Datas ip d h := by
    obtain ⟨d', hb, hkeeps⟩ := hab.ipv4Datas ip d h
    obtain ⟨d'', hc, hkeeps'⟩ := hbc.ipv4Datas ip d' hb
    exact ⟨d'', hc, hkeeps.trans hkeeps'⟩
  ipv4Listeners ip m h := hbc.ipv4Listeners ip m (hab.ipv4Listeners ip m h)
  arp ip mac h := hbc.arp ip mac (hab.arp ip mac h)
  sent := hab.sent.trans hbc.sent

theorem keeps_replace_ipv4Data (si : StackInterface) {ip : Ipv4Addr} {d d' : Ipv4Data}
    (hd : si.ipv4Datas.lookup ip = some d) (hkeeps : d.Keeps d') :
    si.Keeps { si with ipv4Datas := si.ipv4Datas.replace ip d' } := by
  have hmem : ip ∈ si.ipv4Datas := AList.lookup_isSome.mp (by simp [hd])
  refine ⟨rfl, fun ip' d'' hd'' => ?_, fun _ _ h => h, fun _ _ h => h, List.prefix_refl _⟩
  by_cases hip : ip' = ip
  · subst hip
    rw [hd, Option.some.injEq] at hd''
    exact ⟨d', lookup_replace_self hmem, hd'' ▸ hkeeps⟩
  · exact ⟨d'', (lookup_replace_of_ne _ hip).trans hd'', .refl d''⟩

/-- `add_ipv4` puts a fresh address beside the others; that the address is fresh in the
dispatch map too is the interface's consistency. -/
theorem keeps_addIpv4 {si : StackInterface} (h : si.Ipv4Consistent) (ipNet : Ipv4Network) :
    si.Keeps (si.addIpv4 ipNet).2 := by
  unfold addIpv4
  dsimp only
  split_ifs with hmem
  · exact .refl si
  · have hne : ∀ ip, ip ∈ si.ipv4Datas → ip ≠ ipNet.ip :=
      fun ip hip he => hmem (he ▸ hip)
    refine ⟨rfl, fun ip d hd => ⟨d, ?_, .refl d⟩, fun ip m hm => ?_, fun _ _ h => h,
      List.prefix_refl _⟩
    · have hip : ip ∈ si.ipv4Datas := AList.lookup_isSome.mp (by simp [hd])
      exact (AList.lookup_insert_ne (hne ip hip)).trans hd
    · have hip : ip ∈ si.ipv4Listeners := AList.lookup_isSome.mp (by simp [hm])
      exact (AList.lookup_insert_ne (hne ip ((h.listeners ip).mpr hip))).trans hm

@[simp] theorem updateArp_table (si : StackInterface) (ip : Ipv4Addr) (mac : MacAddr) :
    (StackInterfaceThread.updateArp si ip mac).arpTable.table =
      si.arpTable.table.insert ip mac := by
  unfold StackInterfaceThread.updateArp
  dsimp only
  split <;> rfl

@[simp] theorem updateArp_sent (si : StackInterface) (ip : Ipv4Addr) (mac : MacAddr) :
    (StackInterfaceThread.updateArp si ip mac).data.barrier.sent = si.data.barrier.sent := by
  unfold StackInterfaceThread.updateArp
  dsimp only
  split <;> rfl

/-- `ipv4_tx` binds only a hop it did not know, and only adds to the datalink's log. -/
theorem keeps_ipv4Tx (si : StackInterface) (dst : Ipv4Addr) (gw : Option Ipv4Addr)
    (requestAnswer : Option (Except IoError Unit)) (reply : MacAddr) :
    si.Keeps (si.ipv4Tx dst gw requestAnswer reply).2 := by
  obtain ⟨table, barrier, hframe⟩ := si.ipv4Tx_frame dst gw requestAnswer reply
  suffices harp : (∀ ip mac, si.arpTable.table.lookup ip = some mac →
      (si.ipv4Tx dst gw requestAnswer reply).2.arpTable.table.lookup ip = some mac) ∧
      si.data.barrier.sent <+: (si.ipv4Tx dst gw requestAnswer reply).2.data.barrier.sent by
    refine ⟨?_, fun ip d hd => ⟨d, ?_, .refl d⟩, fun ip m hm => ?_, harp.1, harp.2⟩ <;>
      rw [hframe] <;> assumption
  cases hsrc : si.closestLocalIp (gw.getD dst) with
  | none =>
    rw [ipv4Tx_of_closestLocalIp_none _ _ _ _ _ hsrc]
    exact ⟨fun _ _ h => h, List.prefix_refl _⟩
  | some src =>
    cases hmac : si.arpTable.table.lookup (gw.getD dst) with
    | some mac =>
      rw [ipv4Tx_of_lookup_some _ _ _ _ _ hsrc hmac]
      exact ⟨fun _ _ h => h, List.prefix_refl _⟩
    | none =>
      rw [ipv4Tx_of_lookup_none _ _ _ _ _ hsrc hmac]
      split
      · exact ⟨fun _ _ h => by simpa using h, List.prefix_append _ _⟩
      · refine ⟨fun ip mac h => ?_, by simp⟩
        have hne : ip ≠ gw.getD dst := by
          rintro rfl
          rw [hmac] at h
          cases h
        simpa [AList.lookup_insert_ne hne] using h

theorem keeps_icmpListen (si : StackInterface) (localIp : Ipv4Addr) (icmpType : IcmpType)
    (listener : IcmpListener) : si.Keeps (si.icmpListen localIp icmpType listener).2 := by
  rcases si.icmpListen_cases localIp icmpType listener with ⟨-, h⟩ | ⟨d, hd, h⟩ <;> rw [h]
  · exact .refl si
  · exact si.keeps_replace_ipv4Data hd (d.keeps_icmp icmpType listener)

theorem keeps_setMtu (si : StackInterface) (mtu : Nat) : si.Keeps (si.setMtu mtu) :=
  ⟨rfl, fun _ d h => ⟨d, h, .refl d⟩, fun _ _ h => h, fun _ _ h => h, List.prefix_refl _⟩

end StackInterface

/-! ## The stack -/

structure NetworkStack.Keeps (old new : NetworkStack) : Prop where
  interfaces : ∀ i si, old.interfaces.lookup i = some si →
    ∃ si', new.interfaces.lookup i = some si' ∧ si.Keeps si'
  routes : old.routingTable.routes <+: new.routingTable.routes

namespace NetworkStack

theorem Keeps.refl (ns : NetworkStack) : ns.Keeps ns :=
  ⟨fun _ si h => ⟨si, h, .refl si⟩, List.prefix_refl _⟩

theorem Keeps.trans {a b c : NetworkStack} (hab : a.Keeps b) (hbc : b.Keeps c) : a.Keeps c where
  interfaces i si h := by
    obtain ⟨si', hb, hkeeps⟩ := hab.interfaces i si h
    obtain ⟨si'', hc, hkeeps'⟩ := hbc.interfaces i si' hb
    exact ⟨si'', hc, hkeeps.trans hkeeps'⟩
  routes := hab.routes.trans hbc.routes

theorem keeps_replace (self : NetworkStack) {interface : Interface} {si si' : StackInterface}
    (hsi : self.interfaces.lookup interface = some si) (hkeeps : si.Keeps si')
    {table : RoutingTable} (hroutes : self.routingTable.routes <+: table.routes) :
    self.Keeps ⟨self.interfaces.replace interface si', table⟩ := by
  have hmem : interface ∈ self.interfaces := AList.lookup_isSome.mp (by simp [hsi])
  refine ⟨fun i si'' hsi'' => ?_, hroutes⟩
  by_cases hi : i = interface
  · subst hi
    rw [hsi, Option.some.injEq] at hsi''
    exact ⟨si', lookup_replace_self hmem, hsi'' ▸ hkeeps⟩
  · exact ⟨si'', (lookup_replace_of_ne _ hi).trans hsi'', .refl si''⟩

theorem keeps_addInterface (self : NetworkStack) (interface : Interface) :
    self.Keeps (self.addInterface interface).2 := by
  rcases self.addInterface_spec interface with ⟨-, h⟩ | ⟨hfresh, h⟩ <;> rw [h]
  · exact .refl self
  · refine ⟨fun i si hsi => ⟨si, ?_, .refl si⟩, List.prefix_refl _⟩
    have hne : i ≠ interface := fun he => hfresh (he ▸ AList.lookup_isSome.mp (by simp [hsi]))
    exact (AList.lookup_insert_ne hne).trans hsi

theorem keeps_addIpv4 {self : NetworkStack} (h : self.Wf) (interface : Interface)
    (ipNet : Ipv4Network) : self.Keeps (self.addIpv4 interface ipNet).2 := by
  rcases self.addIpv4_spec interface ipNet with ⟨-, e, hfail⟩ | ⟨si, hsi, -, hok⟩
  · exact hfail ▸ .refl self
  · rw [hok]
    exact self.keeps_replace hsi
      (StackInterface.keeps_addIpv4 (h.ipv4Consistent _ _ hsi) ipNet) (List.prefix_append _ _)

theorem keeps_ipv4Tx (self : NetworkStack) (dst : Ipv4Addr)
    (requestAnswer : Option (Except IoError Unit)) (reply : MacAddr) :
    self.Keeps (self.ipv4Tx dst requestAnswer reply).2 := by
  rcases ipv4Tx_cases self dst requestAnswer reply with ⟨-, h⟩ | ⟨-, -, -, -, h⟩ |
    ⟨gw, interface, si, -, hsi, h⟩ <;> rw [h]
  · exact .refl self
  · exact .refl self
  · exact self.keeps_replace hsi (si.keeps_ipv4Tx dst gw requestAnswer reply)
      (List.prefix_refl _)

theorem keeps_udpListen {self : NetworkStack} {addr : Except IoError SocketAddr}
    {listener : UdpListener} {draws : PortDraws} {fuel : Nat} {r : Except IoError SocketAddr}
    {self' : NetworkStack} (hcall : self.udpListen addr listener draws fuel = some (r, self')) :
    self.Keeps self' := by
  rcases addr with e | requested | _
  · cases hcall
    exact .refl self
  · rcases udpListenIpv4_cases hcall with ⟨e, -, rfl⟩ |
      ⟨interface, si, d, port, hsi, hd, hfree, -, rfl, -⟩
    · exact .refl _
    · exact self.keeps_replace hsi (si.keeps_replace_ipv4Data hd (d.keeps_bind hfree listener))
        (List.prefix_refl _)
  · cases hcall
    exact .refl self

theorem keeps_icmpListen (self : NetworkStack) (localIp : Ipv4Addr) (icmpType : IcmpType)
    (listener : IcmpListener) : self.Keeps (self.icmpListen localIp icmpType listener).2 := by
  by_cases h0 : localIp = ⟨0, 0, 0, 0⟩
  · simp only [icmpListen, if_pos h0]
    exact .refl self
  · refine ⟨fun i si hsi => ⟨_, ?_, si.keeps_icmpListen localIp icmpType listener⟩, ?_⟩
    · rw [icmpListen_lookup self localIp icmpType listener h0, hsi, Option.map_some']
    · rw [(icmpListen_of_ne self localIp icmpType listener h0).1]

theorem keeps_setMtu (self : NetworkStack) (interface : Interface) (mtu : Nat) :
    self.Keeps (self.setMtu interface mtu).2 := by
  unfold setMtu
  cases hsi : self.interfaces.lookup interface with
  | none => exact .refl self
  | some si => exact self.keeps_replace hsi (si.keeps_setMtu mtu) (List.prefix_refl _)

theorem apply_keeps {self next : NetworkStack} (h : self.Wf) {call : ApiCall}
    (happly : self.apply call = some next) : self.Keeps next := by
  cases call with
  | addInterface interface =>
    exact Option.some.inj happly ▸ self.keeps_addInterface interface
  | addIpv4 interface ipNet => exact Option.some.inj happly ▸ keeps_addIpv4 h interface ipNet
  | ipv4Tx dst requestAnswer reply | icmpTx dst requestAnswer reply
  | udpTx dst _ _ requestAnswer reply =>
    exact Option.some.inj happly ▸ self.keeps_ipv4Tx dst requestAnswer reply
  | udpListen call =>
    obtain ⟨⟨r, next'⟩, hcall, rfl⟩ := Option.map_eq_some'.mp happly
    exact keeps_udpListen hcall
  | icmpListen localIp icmpType listener =>
    exact Option.some.inj happly ▸ self.keeps_icmpListen localIp icmpType listener
  | setMtu interface mtu => exact Option.some.inj happly ▸ self.keeps_setMtu interface mtu

/-- Along every run of the API from a well-formed stack, nothing an earlier call set up is
taken back: interfaces, local addresses with their networks and dispatch maps, UDP bindings,
the ICMP listener lists as prefixes, the routes, the ARP bindings and the datalink's log. -/
theorem runApi_keeps : ∀ {self : NetworkStack} (calls : List ApiCall) {next : NetworkStack},
    self.Wf → self.runApi calls = some next → self.Keeps next
  | self, [], _, _, hrun => Option.some.inj hrun ▸ .refl self
  | _, call :: calls, _, h, hrun => by
    obtain ⟨mid, hmid, hrest⟩ := Option.bind_eq_some.mp hrun
    exact (apply_keeps h hmid).trans (runApi_keeps calls (apply_wf h hmid) hrest)

/-- On `eth0Stack`: a UDP datagram to the neighbour `10.0.0.2`, which resolves it by ARP, UDP
port `7` and an echo listener bound on `10.0.0.1`, and a lower MTU for `eth0`. -/
def eth0Calls : List ApiCall :=
  [.udpTx ⟨10, 0, 0, 2⟩ 7 7 (some (.ok ())) (MacAddr.new 0 0x11 0x22 0x33 0x44 0x55),
    .udpListen ⟨.ok (.v4 ⟨⟨10, 0, 0, 1⟩, 7⟩), ⟨1⟩, cyclingDraws, 0⟩,
    .icmpListen ⟨10, 0, 0, 1⟩ ⟨8⟩ ⟨7⟩, .setMtu eth0.data.interface 1400]

theorem runApi_keeps_eth0 :
    eth0Stack.Wf ∧ ∃ next, eth0Stack.runApi eth0Calls = some next ∧ eth0Stack.Keeps next :=
  have hwf : eth0Stack.Wf := addIpv4_wf (addInterface_wf new_wf _) _ _
  have hrun : eth0Stack.runApi eth0Calls = some _ := rfl
  ⟨hwf, _, hrun, runApi_keeps _ hwf hrun⟩

end NetworkStack

end Rips
