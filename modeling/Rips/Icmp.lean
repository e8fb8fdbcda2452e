import Rips.Api

/-!
# ICMP listeners

`NetworkStack::icmp_listen(local_ip, icmp_type, listener)` runs `StackInterface::icmp_listen`
on every interface, without stopping at the first that takes the listener, and answers `Ok`
when one did.  A call therefore appends a clone of the listener to the list of its type at its
address on every interface with that address and on no other, fails exactly when the address
is `0.0.0.0` or no interface has it, and when it fails leaves the stack as it was.  Along any
run of calls each list grows by the listeners of the successful calls for its address and
type, in call order.
-/

namespace Rips

namespace StackInterface

/-- The ICMP listeners of type `icmpType` at the local address `ip`, an absent entry being
the empty list; `none` when `ip` is not local. -/
def icmpListeners (self : StackInterface) (ip : Ipv4Addr) (icmpType : IcmpType) :
    Option (List IcmpListener) :=
  (self.ipv4Datas.lookup ip).map fun data => (data.icmpListeners.lookup icmpType).getD []

variable (self : StackInterface) (localIp : Ipv4Addr) (icmpType : IcmpType)
  (listener : IcmpListener)

theorem icmpListen_toBool :
    (self.icmpListen localIp icmpType listener).1.toBool = decide (localIp ∈ self.ipv4Datas) := by
  rcases self.icmpListen_cases localIp icmpType listener with ⟨hnone, h⟩ | ⟨ipData, hdata, h⟩
  · rw [h, decide_eq_false (AList.lookup_eq_none.mp hnone)]
    rfl
  · rw [h, decide_eq_true (AList.lookup_isSome.mp (by simp [hdata]))]
    rfl

/-- `icmp_listen` on an interface appends the listener to the one list of its address and
type, when the address is local, and changes no other list. -/
theorem icmpListeners_icmpListen (ip : Ipv4Addr) (t : IcmpType) :
    (self.icmpListen localIp icmpType listener).2.icmpListeners ip t =
      (self.icmpListeners ip t).map fun l =>
        if ip = localIp ∧ t = icmpType then l ++ [listener] else l := by
  rcases self.icmpListen_cases localIp icmpType listener with ⟨hnone, h⟩ | ⟨ipData, hdata, h⟩
  · rw [h]
    by_cases hip : ip = localIp
    · subst hip
      simp [icmpListeners, hnone]
    · simp [hip]
  · have hmem : localIp ∈ self.ipv4Datas := AList.lookup_isSome.mp (by simp [hdata])
    rw [h]
    by_cases hip : ip = localIp
    · subst hip
      by_cases ht : t = icmpType
      · subst ht
        simp [icmpListeners, lookup_replace_self hmem, hdata]
      · simp [icmpListeners, lookup_replace_self hmem, hdata, ht, AList.lookup_insert_ne ht]
    · simp [icmpListeners, lookup_replace_of_ne _ hip, hip, Function.comp_def]

end StackInterface

namespace NetworkStack

/-- The ICMP listeners of type `icmpType` at the local address `ip` of `interface`; `none`
when the interface does not have the address. -/
def icmpListeners (self : NetworkStack) (interface : Interface) (ip : Ipv4Addr)
    (icmpType : IcmpType) : Option (List IcmpListener) :=
  (self.interfaces.lookup interface).bind fun si => si.icmpListeners ip icmpType

/-! ## The loop over the interfaces -/

section Loop

variable (localIp : Ipv4Addr) (icmpType : IcmpType) (listener : IcmpListener)

theorem icmpListenStep_lookup (acc : Bool × AList (fun _ : Interface => StackInterface))
    (interface i : Interface) :
    (icmpListenStep localIp icmpType listener acc interface).2.lookup i =
      if i = interface then
        (acc.2.lookup i).map fun si => (si.icmpListen localIp icmpType listener).2
      else acc.2.lookup i := by
  cases hsi : acc.2.lookup interface with
  | none =>
    simp only [icmpListenStep, hsi]
    split_ifs with hi
    · subst hi
      simp [hsi]
    · rfl
  | some si =>
    have hmem : interface ∈ acc.2 := AList.lookup_isSome.mp (by simp [hsi])
    simp only [icmpListenStep, hsi]
    split_ifs with hi
    · subst hi
      simp [hsi, lookup_replace_self hmem]
    · exact lookup_replace_of_ne _ hi

theorem icmpListenStep_fst (acc : Bool × AList (fun _ : Interface => StackInterface))
    (interface : Interface) :
    (icmpListenStep localIp icmpType listener acc interface).1 = true ↔
      acc.1 = true ∨ ∃ si, acc.2.lookup interface = some si ∧
        (si.icmpListen localIp icmpType listener).1.toBool = true := by
  cases hsi : acc.2.lookup interface <;> simp [icmpListenStep, hsi]

theorem foldl_icmpListenStep_lookup :
    ∀ (interfaces : List Interface) (acc : Bool × AList (fun _ : Interface => StackInterface)),
      interfaces.Nodup → ∀ i,
      (interfaces.foldl (icmpListenStep localIp icmpType listener) acc).2.lookup i =
        if i ∈ interfaces then
          (acc.2.lookup i).map fun si => (si.icmpListen localIp icmpType listener).2
        else acc.2.lookup i
  | [], _, _, _ => rfl
  | interface :: interfaces, acc, hnodup, i => by
    obtain ⟨hfresh, hnodup⟩ := List.nodup_cons.mp hnodup
    rw [List.foldl_cons, foldl_icmpListenStep_lookup interfaces _ hnodup, icmpListenStep_lookup]
    by_cases hi : i = interface
    · subst hi
      simp [hfresh]
    · simp [hi]

/-- The loop does not stop at the first interface that takes the listener: its flag is set
exactly when some interface's `icmp_listen` succeeds. -/
theorem foldl_icmpListenStep_fst :
    ∀ (interfaces : List Interface) (acc : Bool × AList (fun _ : Interface => StackInterface)),
      interfaces.Nodup →
      ((interfaces.foldl (icmpListenStep localIp icmpType listener) acc).1 = true ↔
        acc.1 = true ∨ ∃ i ∈ interfaces, ∃ si, acc.2.lookup i = some si ∧
          (si.icmpListen localIp icmpType listener).1.toBool = true)
  | [], _, _ => by simp
  | interface :: interfaces, acc, hnodup => by
    obtain ⟨hfresh, hnodup⟩ := List.nodup_cons.mp hnodup
    have hrest : ∀ i ∈ interfaces,
        (icmpListenStep localIp icmpType listener acc interface).2.lookup i = acc.2.lookup i :=
      fun i hi => by
        rw [icmpListenStep_lookup, if_neg (fun h : i = interface => hfresh (h ▸ hi))]
    rw [List.foldl_cons, foldl_icmpListenStep_fst interfaces _ hnodup, icmpListenStep_fst]
    constructor
    · rintro ((h | ⟨si, hsi, hok⟩) | ⟨i, hi, si, hsi, hok⟩)
      · exact .inl h
      · exact .inr ⟨interface, List.mem_cons_self _ _, si, hsi, hok⟩
      · exact .inr ⟨i, List.mem_cons_of_mem _ hi, si, (hrest i hi) ▸ hsi, hok⟩
    · rintro (h | ⟨i, hi, si, hsi, hok⟩)
      · exact .inl (.inl h)
      · rcases List.mem_cons.mp hi with rfl | hi
        · exact .inl (.inr ⟨si, hsi, hok⟩)
        · exact .inr ⟨i, hi, si, (hrest i hi).trans hsi, hok⟩

theorem foldl_icmpListenStep_of_not_mem :
    ∀ (interfaces : List Interface) (acc : Bool × AList (fun _ : Interface => StackInterface)),
      (∀ i si, acc.2.lookup i = some si → localIp ∉ si.ipv4Datas) →
      (interfaces.foldl (icmpListenStep localIp icmpType listener) acc).2 = acc.2
  | [], _, _ => rfl
  | interface :: interfaces, acc, hnone => by
    have hstep : (icmpListenStep localIp icmpType listener acc interface).2 = acc.2 := by
      cases hsi : acc.2.lookup interface with
      | none => simp [icmpListenStep, hsi]
      | some si =>
        rcases si.icmpListen_cases localIp icmpType listener with ⟨-, h⟩ | ⟨ipData, hdata, -⟩
        · simp [icmpListenStep, hsi, h, replace_of_lookup hsi]
        · exact absurd (AList.lookup_isSome.mp (by simp [hdata])) (hnone interface si hsi)
    rw [List.foldl_cons, foldl_icmpListenStep_of_not_mem interfaces _ (hstep ▸ hnone), hstep]

end Loop

/-! ## One call -/

section Call

variable (self : NetworkStack) (localIp : Ipv4Addr) (icmpType : IcmpType)
  (listener : IcmpListener)

/-- At an address other than `0.0.0.0` the call is the loop: the stack keeps the interfaces
the loop leaves, and the answer is `Ok` exactly when the loop's flag is set. -/
theorem icmpListen_of_ne (h0 : localIp ≠ ⟨0, 0, 0, 0⟩) :
    (self.icmpListen localIp icmpType listener).2 =
        { self with
          interfaces := (self.interfaces.keys.foldl (icmpListenStep localIp icmpType listener)
            (false, self.interfaces)).2 } ∧
      ((self.icmpListen localIp icmpType listener).1 = .ok () ↔
        (self.interfaces.keys.foldl (icmpListenStep localIp icmpType listener)
          (false, self.interfaces)).1 = true) := by
  unfold icmpListen
  rw [if_neg h0]
  dsimp only
  split <;> simp [*]

theorem icmpListen_lookup (h0 : localIp ≠ ⟨0, 0, 0, 0⟩) (i : Interface) :
    (self.icmpListen localIp icmpType listener).2.interfaces.lookup i =
      (self.interfaces.lookup i).map fun si => (si.icmpListen localIp icmpType listener).2 := by
  rw [(icmpListen_of_ne self localIp icmpType listener h0).1]
  dsimp only
  rw [foldl_icmpListenStep_lookup _ _ _ _ _ (AList.keys_nodup _)]
  by_cases hi : i ∈ self.interfaces
  · rw [if_pos (AList.mem_keys.mp hi)]
  · rw [if_neg (fun h => hi (AList.mem_keys.mpr h)), AList.lookup_eq_none.mpr hi]
    rfl

theorem icmpListen_ok_iff :
    (self.icmpListen localIp icmpType listener).1 = .ok () ↔
      localIp ≠ ⟨0, 0, 0, 0⟩ ∧
        ∃ i si, self.interfaces.lookup i = some si ∧ localIp ∈ si.ipv4Datas := by
  by_cases h0 : localIp = ⟨0, 0, 0, 0⟩
  · simp [icmpListen, h0]
  · rw [(icmpListen_of_ne self localIp icmpType listener h0).2,
      foldl_icmpListenStep_fst _ _ _ _ _ (AList.keys_nodup _)]
    simp only [Bool.false_eq_true, false_or, StackInterface.icmpListen_toBool,
      decide_eq_true_eq, ne_eq, h0, not_false_eq_true, true_and]
    constructor
    · rintro ⟨i, -, si, hsi, hmem⟩
      exact ⟨i, si, hsi, hmem⟩
    · rintro ⟨i, si, hsi, hmem⟩
      exact ⟨i, AList.mem_keys.mp (AList.lookup_isSome.mp (by simp [hsi])), si, hsi, hmem⟩

theorem icmpListen_error {e : IoError}
    (h : (self.icmpListen localIp icmpType listener).1 = .error e) :
    (self.icmpListen localIp icmpType listener).2 = self := by
  by_cases h0 : localIp = ⟨0, 0, 0, 0⟩
  · simp [icmpListen, h0]
  · have hnone : ∀ i si, self.interfaces.lookup i = some si → localIp ∉ si.ipv4Datas :=
      fun i si hsi hmem => by
        have hok := (icmpListen_ok_iff self localIp icmpType listener).mpr ⟨h0, i, si, hsi, hmem⟩
        rw [h] at hok
        cases hok
    rw [(icmpListen_of_ne self localIp icmpType listener h0).1,
      foldl_icmpListenStep_of_not_mem _ _ _ _ _ hnone]

theorem icmpListen_ok_of_icmpListeners (h0 : localIp ≠ ⟨0, 0, 0, 0⟩) {i : Interface}
    {t : IcmpType} {l : List IcmpListener} (hl : self.icmpListeners i localIp t = some l) :
    (self.icmpListen localIp icmpType listener).1 = .ok () := by
  obtain ⟨si, hsi, hl⟩ := Option.bind_eq_some.mp hl
  obtain ⟨data, hdata, -⟩ := Option.map_eq_some'.mp hl
  exact (icmpListen_ok_iff self localIp icmpType listener).mpr
    ⟨h0, i, si, hsi, AList.lookup_isSome.mp (by simp [hdata])⟩

/-- A call appends its listener to the list of its address and type on every interface with
that address when it succeeds, and changes no other list. -/
theorem icmpListeners_icmpListen (i : Interface) (ip : Ipv4Addr) (t : IcmpType) :
    (self.icmpListen localIp icmpType listener).2.icmpListeners i ip t =
      (self.icmpListeners i ip t).map fun l =>
        if (self.icmpListen localIp icmpType listener).1.toBool = true ∧ ip = localIp ∧
          t = icmpType then l ++ [listener] else l := by
  by_cases h0 : localIp = ⟨0, 0, 0, 0⟩
  · have hcall : self.icmpListen localIp icmpType listener =
        (.error ⟨.invalidInput, "Rips does not support listening to all interfaces yet"⟩, self) :=
      if_pos h0
    simp [hcall, Except.toBool]
  · simp only [icmpListeners]
    rw [icmpListen_lookup self localIp icmpType listener h0]
    cases hsi : self.interfaces.lookup i with
    | none => rfl
    | some si =>
      simp only [Option.map_some', Option.some_bind]
      rw [si.icmpListeners_icmpListen]
      cases hl : si.icmpListeners ip t with
      | none => rfl
      | some l =>
        by_cases hmatch : ip = localIp ∧ t = icmpType
        · obtain ⟨rfl, rfl⟩ := hmatch
          have hok := icmpListen_ok_of_icmpListeners self ip t listener h0
            (by simp [icmpListeners, hsi, hl] : self.icmpListeners i ip t = some l)
          simp [hok, Except.toBool]
        · simp [hmatch]

end Call

/-! ## Runs of calls -/

structure IcmpListenCall where
  localIp : Ipv4Addr
  icmpType : IcmpType
  listener : IcmpListener

def icmpListenAll (self : NetworkStack) :
    List IcmpListenCall → List (Except IoError Unit) × NetworkStack
  | [] => ([], self)
  | call :: calls =>
    let r := self.icmpListen call.localIp call.icmpType call.listener
    let rest := r.2.icmpListenAll calls
    (r.1 :: rest.1, rest.2)

/-- The listeners of the calls answered `Ok` for the address `ip` and the type `icmpType`, in
call order. -/
def successfulListeners (calls : List IcmpListenCall) (answers : List (Except IoError Unit))
    (ip : Ipv4Addr) (icmpType : IcmpType) : List IcmpListener :=
  ((calls.zip answers).filter fun c =>
    c.2.toBool && c.1.localIp == ip && c.1.icmpType == icmpType).map (·.1.listener)

/-- Along a run each list grows by the listeners of the successful calls for its address and
type, in call order. -/
theorem icmpListeners_icmpListenAll :
    ∀ (calls : List IcmpListenCall) (self : NetworkStack) (i : Interface) (ip : Ipv4Addr)
      (t : IcmpType),
      (self.icmpListenAll calls).2.icmpListeners i ip t =
        (self.icmpListeners i ip t).map
          (· ++ successfulListeners calls (self.icmpListenAll calls).1 ip t)
  | [], self, i, ip, t => by
    simp [icmpListenAll, successfulListeners]
  | call :: calls, self, i, ip, t => by
    simp only [icmpListenAll]
    rw [icmpListeners_icmpListenAll calls, icmpListeners_icmpListen, Option.map_map]
    congr 1
    funext l
    by_cases hmatch : (self.icmpListen call.localIp call.icmpType call.listener).1.toBool = true ∧
      ip = call.localIp ∧ t = call.icmpType
    · obtain ⟨hok, rfl, rfl⟩ := hmatch
      simp [successfulListeners, hok]
    · simp only [Function.comp, if_neg hmatch, successfulListeners, List.zip_cons_cons,
        List.filter_cons]
      rw [if_neg fun h => by
        simp only [Bool.and_eq_true, beq_iff_eq] at h
        exact hmatch ⟨h.1.1, h.1.2.symm, h.2.symm⟩]

/-- Every `icmp_listen` call on any stack, and every run of them: a call at an address other
than `0.0.0.0` appends its listener to the end of the list of its address and type on every
interface with that address, and to no other list; it answers `Ok` exactly when the address
is not `0.0.0.0` and some interface has it; a call answered `Err` leaves the stack as it was;
so along a run each list grows by the listeners of the successful calls for its address and
type, in call order. -/
theorem icmpListen_appends (self : NetworkStack) (localIp : Ipv4Addr) (icmpType : IcmpType)
    (listener : IcmpListener) (calls : List IcmpListenCall) :
    (localIp ≠ ⟨0, 0, 0, 0⟩ → ∀ i ip t,
      (self.icmpListen localIp icmpType listener).2.icmpListeners i ip t =
        (self.icmpListeners i ip t).map fun l =>
          if ip = localIp ∧ t = icmpType then l ++ [listener] else l) ∧
    ((self.icmpListen localIp icmpType listener).1 = .ok () ↔
      localIp ≠ ⟨0, 0, 0, 0⟩ ∧
        ∃ i si, self.interfaces.lookup i = some si ∧ localIp ∈ si.ipv4Datas) ∧
    (∀ e, (self.icmpListen localIp icmpType listener).1 = .error e →
      (self.icmpListen localIp icmpType listener).2 = self) ∧
    ∀ i ip t, (self.icmpListenAll calls).2.icmpListeners i ip t =
      (self.icmpListeners i ip t).map
        (· ++ successfulListeners calls (self.icmpListenAll calls).1 ip t) := by
  refine ⟨fun h0 i ip t => ?_, icmpListen_ok_iff self localIp icmpType listener,
    fun e => icmpListen_error self localIp icmpType listener,
    icmpListeners_icmpListenAll calls self⟩
  rw [icmpListeners_icmpListen]
  cases hl : self.icmpListeners i ip t with
  | none => rfl
  | some l =>
    by_cases hmatch : ip = localIp ∧ t = icmpType
    · obtain ⟨rfl, rfl⟩ := hmatch
      simp [icmpListen_ok_of_icmpListeners self ip t listener h0 hl, Except.toBool]
    · simp [hmatch]

/-- Two interfaces, `eth0` and `eth1`, that share the address `10.0.0.1`. -/
def sharedAddressStack : NetworkStack :=
  new.configure [.addInterface ⟨"eth0", MacAddr.new 2 0 0 0 0 1⟩,
    .addInterface ⟨"eth1", MacAddr.new 2 0 0 0 0 2⟩,
    .addIpv4 ⟨"eth0", MacAddr.new 2 0 0 0 0 1⟩ ⟨⟨10, 0, 0, 1⟩, 24, by decide⟩,
    .addIpv4 ⟨"eth1", MacAddr.new 2 0 0 0 0 2⟩ ⟨⟨10, 0, 0, 1⟩, 16, by decide⟩]

/-- The loop does not stop at the first interface: both get the listener. -/
example :
    (sharedAddressStack.icmpListen ⟨10, 0, 0, 1⟩ ⟨8⟩ ⟨7⟩).2.icmpListeners
        ⟨"eth0", MacAddr.new 2 0 0 0 0 1⟩ ⟨10, 0, 0, 1⟩ ⟨8⟩ = some [⟨7⟩] ∧
    (sharedAddressStack.icmpListen ⟨10, 0, 0, 1⟩ ⟨8⟩ ⟨7⟩).2.icmpListeners
        ⟨"eth1", MacAddr.new 2 0 0 0 0 2⟩ ⟨10, 0, 0, 1⟩ ⟨8⟩ = some [⟨7⟩] := by
  decide

end NetworkStack

end Rips
