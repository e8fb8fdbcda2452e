import Rips.Wire

/-!
# No IPv4 frame with a stale MTU

`ipv4_tx` hands out its transmitter with the interface's MTU, and `set_mtu` changes that MTU
and calls `inc` on the interface's barrier, so that a transmitter made before the change stops
sending.  Here that is followed along every interleaving of the whole stack: a step moves an
interface's barrier version by at most one `inc`, and moves its MTU only together with one.  A
transmitter leaves `ipv4_tx` with the version and the MTU its interface then has; so, while
fewer than `2^64` steps follow, every send on it once its interface's MTU has changed is
refused with `InvalidTx` and changes nothing.
-/

namespace Rips

/-- From `si` to `si'` the barrier's version took `n` steps round the 64-bit circle, and the
MTU moved only if one was taken. -/
structure StackInterface.IncsTo (si si' : StackInterface) (n : Nat) : Prop where
  version : si'.data.barrier.version.toNat = (si.data.barrier.version.toNat + n) % 2 ^ 64
  mtu : n = 0 → si'.mtu = si.mtu

namespace StackInterface

theorem IncsTo.of_eq {si si' : StackInterface}
    (hversion : si'.data.barrier.version = si.data.barrier.version) (hmtu : si'.mtu = si.mtu) :
    si.IncsTo si' 0 where
  version := by
    rw [hversion, Nat.add_zero]
    exact (Nat.mod_eq_of_lt si.data.barrier.version.toNat_lt_size).symm
  mtu _ := hmtu

theorem IncsTo.trans {a b c : StackInterface} {n m : Nat} (hab : a.IncsTo b n)
    (hbc : b.IncsTo c m) : a.IncsTo c (n + m) where
  version := by rw [hbc.version, hab.version, Nat.mod_add_mod, Nat.add_assoc]
  mtu h := (hbc.mtu (by omega)).trans (hab.mtu (by omega))

theorem incsTo_setMtu (si : StackInterface) (mtu : Nat) : si.IncsTo (si.setMtu mtu) 1 where
  version := TxBarrier.inc_version_toNat _
  mtu h := absurd h one_ne_zero

/-- A message makes the worker call `inc` at most once, and never touches the MTU. -/
theorem incsTo_processMsg (si : StackInterface) (msg : StackInterfaceMsg)
    (answer : Option (Except IoError Unit)) :
    ∃ n ≤ 1, si.IncsTo (StackInterfaceThread.processMsg si msg answer).2 n := by
  obtain ⟨table, barrier, hframe⟩ := StackInterfaceThread.processMsg_frame si msg answer
  refine ⟨_, ?_, StackInterfaceThread.processMsg_version si msg answer, fun _ => by rw [hframe]⟩
  rcases msg.arpUpdate with _ | ⟨ip, mac⟩
  · exact zero_le_one
  · simp only [Option.toList_some, StackInterfaceThread.changingInserts]
    split_ifs <;> omega

theorem incsTo_updateArp (si : StackInterface) (ip : Ipv4Addr) (mac : MacAddr) :
    ∃ n ≤ 1, si.IncsTo (StackInterfaceThread.updateArp si ip mac) n :=
  si.incsTo_processMsg (.updateArpTable ip mac) none

/-- `ipv4_tx` calls `inc` at most once, for the reply's binding, and never touches the MTU. -/
theorem incsTo_ipv4Tx (si : StackInterface) (dst : Ipv4Addr) (gw : Option Ipv4Addr)
    (requestAnswer : Option (Except IoError Unit)) (reply : MacAddr) :
    ∃ n ≤ 1, si.IncsTo (si.ipv4Tx dst gw requestAnswer reply).2 n := by
  cases hsrc : si.closestLocalIp (gw.getD dst) with
  | none =>
    rw [ipv4Tx_of_closestLocalIp_none _ _ _ _ _ hsrc]
    exact ⟨0, zero_le_one, .of_eq rfl rfl⟩
  | some src =>
    cases hmac : si.arpTable.table.lookup (gw.getD dst) with
    | some mac =>
      rw [ipv4Tx_of_lookup_some _ _ _ _ _ hsrc hmac]
      exact ⟨0, zero_le_one, .of_eq rfl rfl⟩
    | none =>
      rw [ipv4Tx_of_lookup_none _ _ _ _ _ hsrc hmac]
      dsimp only
      split
      · exact ⟨0, zero_le_one, .of_eq rfl rfl⟩
      · obtain ⟨n, hn, hinc⟩ := incsTo_updateArp _ (gw.getD dst) reply
        dsimp only
        refine ⟨0 + n, by omega, IncsTo.trans ?_ hinc⟩
        exact .of_eq rfl rfl

/-- The transmitter `ipv4_tx` hands out holds the version and the MTU the call leaves its
interface with. -/
theorem ipv4Tx_current {si : StackInterface} {dst : Ipv4Addr} {gw : Option Ipv4Addr}
    {requestAnswer : Option (Except IoError Unit)} {reply : MacAddr} {tx : Ipv4TxImpl}
    (h : (si.ipv4Tx dst gw requestAnswer reply).1 = .ok tx) :
    tx.ethernet.tx.version = (si.ipv4Tx dst gw requestAnswer reply).2.data.barrier.version ∧
      tx.mtu = (si.ipv4Tx dst gw requestAnswer reply).2.mtu := by
  cases hsrc : si.closestLocalIp (gw.getD dst) with
  | none =>
    rw [ipv4Tx_of_closestLocalIp_none _ _ _ _ _ hsrc] at h
    cases h
  | some src =>
    cases hmac : si.arpTable.table.lookup (gw.getD dst) with
    | some mac =>
      rw [ipv4Tx_of_lookup_some _ _ _ _ _ hsrc hmac] at h ⊢
      cases h
      exact ⟨rfl, rfl⟩
    | none =>
      rw [ipv4Tx_of_lookup_none _ _ _ _ _ hsrc hmac] at h ⊢
      cases hanswer : TxBarrier.ioResultToTxResult requestAnswer <;>
        simp only [hanswer] at h ⊢ <;> cases h
      exact ⟨rfl, rfl⟩

end StackInterface

/-! ## The whole stack -/

/-- From `ns` to `ns'` every interface stays, with at most `n` calls of `inc` on its barrier,
and an MTU that moved only with one of them. -/
def NetworkStack.IncsWithin (ns ns' : NetworkStack) (n : Nat) : Prop :=
  ∀ i si, ns.interfaces.lookup i = some si →
    ∃ si' k, ns'.interfaces.lookup i = some si' ∧ k ≤ n ∧ si.IncsTo si' k

namespace NetworkStack

theorem IncsWithin.refl (ns : NetworkStack) (n : Nat) : ns.IncsWithin ns n :=
  fun _ si hsi => ⟨si, 0, hsi, Nat.zero_le n, .of_eq rfl rfl⟩

theorem IncsWithin.trans {a b c : NetworkStack} {n m : Nat} (hab : a.IncsWithin b n)
    (hbc : b.IncsWithin c m) : a.IncsWithin c (n + m) := by
  intro i si hsi
  obtain ⟨si', k, hsi', hk, hinc⟩ := hab i si hsi
  obtain ⟨si'', k', hsi'', hk', hinc'⟩ := hbc i si' hsi'
  exact ⟨si'', k + k', hsi'', Nat.add_le_add hk hk', hinc.trans hinc'⟩

theorem incsWithin_replace {self : NetworkStack} {interface : Interface} {si si' : StackInterface}
    (hsi : self.interfaces.lookup interface = some si) {n : Nat}
    (hinc : ∃ k ≤ n, si.IncsTo si' k) (table : RoutingTable) :
    self.IncsWithin ⟨self.interfaces.replace interface si', table⟩ n := by
  intro i si'' hsi''
  by_cases hi : i = interface
  · subst hi
    rw [hsi, Option.some.injEq] at hsi''
    subst hsi''
    obtain ⟨k, hk, hinc⟩ := hinc
    exact ⟨si', k, lookup_replace_self (AList.lookup_isSome.mp (by simp [hsi])), hk, hinc⟩
  · exact ⟨si'', 0, (lookup_replace_of_ne _ hi).trans hsi'', Nat.zero_le n, .of_eq rfl rfl⟩

theorem incsWithin_ipv4Tx (self : NetworkStack) (dst : Ipv4Addr)
    (requestAnswer : Option (Except IoError Unit)) (reply : MacAddr) :
    self.IncsWithin (self.ipv4Tx dst requestAnswer reply).2 1 := by
  rcases ipv4Tx_cases self dst requestAnswer reply with ⟨-, hc⟩ | ⟨-, -, -, -, hc⟩ |
    ⟨gw, interface, si, -, hsi, hc⟩ <;> rw [hc]
  · exact .refl self 1
  · exact .refl self 1
  · exact incsWithin_replace hsi (si.incsTo_ipv4Tx dst gw requestAnswer reply) _

/-- An API call calls `inc` at most once on each interface's barrier: `set_mtu` on its
interface, `ipv4_tx` for a reply's binding; the MTU moves with `set_mtu` only. -/
theorem apply_incsWithin {self next : NetworkStack} {call : ApiCall}
    (happly : self.apply call = some next) : self.IncsWithin next 1 := by
  cases call with
  | addInterface interface =>
    rw [← Option.some.inj happly]
    rcases self.addInterface_spec interface with ⟨-, hc⟩ | ⟨hfresh, hc⟩ <;> rw [hc]
    · exact .refl self 1
    · intro i si hsi
      have hne : i ≠ interface := fun he => hfresh (he ▸ AList.lookup_isSome.mp (by simp [hsi]))
      exact ⟨si, 0, (AList.lookup_insert_ne hne).trans hsi, zero_le_one, .of_eq rfl rfl⟩
  | addIpv4 interface ipNet =>
    rw [← Option.some.inj happly]
    rcases self.addIpv4_spec interface ipNet with ⟨-, e, hc⟩ | ⟨si, hsi, -, hc⟩ <;> rw [hc]
    · exact .refl self 1
    · exact incsWithin_replace hsi
        ⟨0, zero_le_one, .of_eq (by rw [si.addIpv4_barrier ipNet]) (si.addIpv4_mtu ipNet)⟩ _
  | ipv4Tx dst requestAnswer reply | icmpTx dst requestAnswer reply
  | udpTx dst _ _ requestAnswer reply =>
    exact Option.some.inj happly ▸ incsWithin_ipv4Tx self dst requestAnswer reply
  | udpListen call =>
    obtain ⟨⟨r, next'⟩, hcall, rfl⟩ := Option.map_eq_some'.mp happly
    rcases call with ⟨e | requested | _, listener, draws, fuel⟩
    · cases hcall
      exact .refl self 1
    · rcases udpListenIpv4_cases hcall with ⟨e, -, rfl⟩ |
        ⟨interface, si, d, port, hsi, -, -, -, rfl, -⟩
      · exact .refl _ 1
      · refine incsWithin_replace hsi ⟨0, zero_le_one, .of_eq ?_ ?_⟩ _ <;> rfl
    · cases hcall
      exact .refl self 1
  | icmpListen localIp icmpType listener =>
    rw [← Option.some.inj happly]
    by_cases h0 : localIp = ⟨0, 0, 0, 0⟩
    · simp only [icmpListen, if_pos h0]
      exact .refl self 1
    · intro i si hsi
      refine ⟨(si.icmpListen localIp icmpType listener).2, 0, ?_, zero_le_one, .of_eq ?_ ?_⟩
      · rw [icmpListen_lookup self localIp icmpType listener h0, hsi]
        rfl
      all_goals
        rcases si.icmpListen_cases localIp icmpType listener with ⟨-, h⟩ | ⟨d, -, h⟩ <;> rw [h]
  | setMtu interface mtu =>
    rw [← Option.some.inj happly]
    unfold setMtu
    cases hsi : self.interfaces.lookup interface with
    | none => exact .refl self 1
    | some si => exact incsWithin_replace hsi ⟨1, le_rfl, si.incsTo_setMtu mtu⟩ _

end NetworkStack

namespace StackRun

/-- A step calls `inc` at most once on each interface's barrier, and moves an MTU only with
one. -/
theorem step_incsWithin {s next : StackRun} {e : StackEvent} (hstep : s.step e = some next) :
    s.stack.IncsWithin next.stack 1 := by
  cases e with
  | call call =>
    obtain ⟨stack, happly, rfl⟩ := Option.map_eq_some'.mp hstep
    exact NetworkStack.apply_incsWithin happly
  | send index answer =>
    simp only [step] at hstep
    split at hstep
    · rename_i i tx _
      cases hstep
      simp only [NetworkStack.transmitOn]
      cases hsi : s.stack.interfaces.lookup i with
      | none => exact .refl _ 1
      | some si =>
        refine NetworkStack.incsWithin_replace hsi ⟨0, zero_le_one, .of_eq ?_ ?_⟩ _
        · simp [EthernetTxImpl.transmit]
        · rfl
    · cases hstep
      exact .refl _ 1
  | arpReply interface ip mac | arpRequest interface _ _ _ _ =>
    cases hstep
    simp only [NetworkStack.processOn]
    cases hsi : s.stack.interfaces.lookup interface with
    | none => exact .refl _ 1
    | some si => exact NetworkStack.incsWithin_replace hsi (si.incsTo_processMsg _ _) _

theorem run_incsWithin : ∀ {s : StackRun} (events : List StackEvent) {next : StackRun},
    s.run events = some next → s.stack.IncsWithin next.stack events.length
  | s, [], _, hrun => Option.some.inj hrun ▸ .refl s.stack 0
  | _, _ :: events, _, hrun => by
    obtain ⟨mid, hmid, hrest⟩ := Option.bind_eq_some.mp hrun
    rw [List.length_cons, Nat.add_comm]
    exact (step_incsWithin hmid).trans (run_incsWithin events hrest)

theorem step_held {s next : StackRun} {e : StackEvent} (hstep : s.step e = some next) :
    s.held <+: next.held := by
  cases e with
  | call call =>
    obtain ⟨stack, -, rfl⟩ := Option.map_eq_some'.mp hstep
    exact List.prefix_append _ _
  | send index answer =>
    simp only [step] at hstep
    split at hstep <;> cases hstep <;> exact List.prefix_refl _
  | arpReply | arpRequest =>
    cases hstep
    exact List.prefix_refl _

theorem run_held : ∀ {s : StackRun} (events : List StackEvent) {next : StackRun},
    s.run events = some next → s.held <+: next.held
  | _, [], _, hrun => Option.some.inj hrun ▸ List.prefix_refl _
  | _, _ :: events, _, hrun => by
    obtain ⟨mid, hmid, hrest⟩ := Option.bind_eq_some.mp hrun
    exact (step_held hmid).trans (run_held events hrest)

/-- A call that hands out a transmitter appends it to what the application holds, with the
version and the MTU of its interface as the call leaves it. -/
theorem call_current {s next : StackRun} {call : NetworkStack.ApiCall}
    (hstep : s.step (.call call) = some next) {i : Interface} {tx : Ipv4TxImpl}
    (hheld : s.stack.heldOf call = some (i, tx)) :
    next.held = s.held ++ [(i, tx)] ∧ ∃ si, next.stack.interfaces.lookup i = some si ∧
      tx.ethernet.tx.version = si.data.barrier.version ∧ tx.mtu = si.mtu := by
  obtain ⟨stack, happly, rfl⟩ := Option.map_eq_some'.mp hstep
  refine ⟨by rw [hheld]; rfl, ?_⟩
  cases call with
  | ipv4Tx dst requestAnswer reply | icmpTx dst requestAnswer reply
  | udpTx dst _ _ requestAnswer reply =>
    obtain ⟨gw, si, hsi, hres, hc⟩ := NetworkStack.ipv4TxHeld_some hheld
    rw [← Option.some.inj happly]
    refine ⟨_, ?_, StackInterface.ipv4Tx_current hres⟩
    exact hc ▸ lookup_replace_self (AList.lookup_isSome.mp (by simp [hsi]))
  | _ => cases hheld

/-- Along every interleaving of the whole stack that follows an API call handing out an IPv4
transmitter (from `ipv4_tx`, or inside the `IcmpTx` of `icmp_tx` or the `UdpTx` of
`udp_tx`), with fewer than `2^64` steps: once the MTU of the transmitter's interface is no
longer the one it was made with, the application still holds it, a send on it fails with
`InvalidTx` and leaves the barrier as it is, and the application's send step changes
nothing. -/
theorem send_refused_of_mtu_changed {s mid s' : StackRun} {call : NetworkStack.ApiCall}
    (hcall : s.step (.call call) = some mid) {i : Interface} {tx : Ipv4TxImpl}
    (hheld : s.stack.heldOf call = some (i, tx)) (events : List StackEvent)
    (hlen : events.length < 2 ^ 64) (hrun : mid.run events = some s') {si : StackInterface}
    (hsi : s'.stack.interfaces.lookup i = some si) (hmtu : si.mtu ≠ tx.mtu)
    (answer : Option (Except IoError Unit)) :
    s'.held[s.held.length]? = some (i, tx) ∧
      tx.ethernet.transmit si.data.barrier (.ipv4 tx.src tx.dst) answer =
        (si.data.barrier, .error .invalidTx) ∧
      s'.step (.send s.held.length answer) = some s' := by
  obtain ⟨hmid, si₀, hsi₀, hversion, hmtu₀⟩ := call_current hcall hheld
  obtain ⟨si₁, k, hsi₁, hk, hinc⟩ := run_incsWithin events hrun i si₀ hsi₀
  rw [hsi, Option.some.injEq] at hsi₁
  subst hsi₁
  have hk0 : k ≠ 0 := fun h0 => hmtu ((hinc.mtu h0).trans hmtu₀.symm)
  have hstale : tx.ethernet.tx.version ≠ si.data.barrier.version := by
    have hlt := si₀.data.barrier.version.toNat_lt_size
    simp only [UInt64.size] at hlt hlen
    rw [Ne, version_eq_iff, hversion, hinc.version]
    omega
  have hrefused : tx.ethernet.transmit si.data.barrier (.ipv4 tx.src tx.dst) answer =
      (si.data.barrier, .error .invalidTx) := TxImpl.send_of_ne hstale _ _
  obtain ⟨rest, hrest⟩ := run_held events hrun
  have hat : s'.held[s.held.length]? = some (i, tx) := by
    rw [← hrest, hmid, List.append_assoc, List.getElem?_append_right (le_refl _), Nat.sub_self,
      List.singleton_append, List.getElem?_cons_zero]
  refine ⟨hat, hrefused, ?_⟩
  simp only [step, hat, NetworkStack.transmitOn, hsi, hrefused, replace_of_lookup hsi]

def eth0Ready : StackRun :=
  ⟨((NetworkStack.new.addInterface eth0.data.interface).2.addIpv4 eth0.data.interface
    ⟨⟨10, 0, 0, 1⟩, 24, by decide⟩).2, []⟩

theorem send_refused_eth0_setMtu :
    ∃ mid s' si tx,
      eth0Ready.step (.call (.udpTx ⟨10, 0, 0, 2⟩ 5000 53 (some (.ok ()))
        (MacAddr.new 0 0x11 0x22 0x33 0x44 0x55))) = some mid ∧
      eth0Ready.stack.heldOf (.udpTx ⟨10, 0, 0, 2⟩ 5000 53 (some (.ok ()))
        (MacAddr.new 0 0x11 0x22 0x33 0x44 0x55)) = some (eth0.data.interface, tx) ∧
      [StackEvent.call (.setMtu eth0.data.interface 1400)].length < 2 ^ 64 ∧
      mid.run [.call (.setMtu eth0.data.interface 1400)] = some s' ∧
      s'.stack.interfaces.lookup eth0.data.interface = some si ∧ si.mtu ≠ tx.mtu ∧
      s'.step (.send eth0Ready.held.length (some (.ok ()))) = some s' := by
  have hcall : eth0Ready.step (.call (.udpTx ⟨10, 0, 0, 2⟩ 5000 53 (some (.ok ()))
      (MacAddr.new 0 0x11 0x22 0x33 0x44 0x55))) = some _ := rfl
  exact ⟨_, _, _, _, hcall, rfl, by decide, rfl, rfl, by decide,
    (send_refused_of_mtu_changed hcall rfl [.call (.setMtu eth0.data.interface 1400)] (by decide)
      rfl rfl (by decide) (some (.ok ()))).2.2⟩

end StackRun

end Rips
