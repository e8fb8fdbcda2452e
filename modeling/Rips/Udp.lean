import Rips.Stack

/-!
# Binding UDP listeners

`udp_listen` resolves its address, refuses IPv6 and `0.0.0.0`, and binds the listener on the
first interface, in the map's order, that has the local address: at the requested port, or
at a port `get_random_port` draws from `[32768, 61000)` until it finds one free.  The draws
are a sequence given with the call, and the loop runs on fuel: `none` is a loop that has not
ended.  A bind never replaces a listener, and a call that fails changes nothing.  With a
fair sequence of draws the loop ends whenever a port of the range is free; with every port
of the range bound it never ends, and no error is returned.
-/

namespace Rips

/-- `LOCAL_PORT_RANGE_START`. -/
def localPortRangeStart : Nat := 32768

/-- `LOCAL_PORT_RANGE_END`. -/
def localPortRangeEnd : Nat := 61000

/-- The successive values of `Range::new(LOCAL_PORT_RANGE_START, LOCAL_PORT_RANGE_END)
.ind_sample(&mut rng)`. -/
structure PortDraws where
  draw : Nat → Nat
  draw_mem : ∀ i, localPortRangeStart ≤ draw i ∧ draw i < localPortRangeEnd

abbrev UdpListenerLookup := AList (fun _ : Nat => UdpListener)

namespace NetworkStack

/-- `get_random_port`: the `i`-th draw on, the first port `listeners` does not hold. -/
def getRandomPort (listeners : UdpListenerLookup) (draws : PortDraws) : Nat → Nat → Option Nat
  | 0, _ => none
  | fuel + 1, i =>
    if draws.draw i ∈ listeners then getRandomPort listeners draws fuel (i + 1)
    else some (draws.draw i)

/-- The first interface, in the map's order, with the local address `ip`, and its data. -/
def ipv4DataOf (self : NetworkStack) (ip : Ipv4Addr) :
    Option (Interface × StackInterface × Ipv4Data) :=
  self.interfaces.entries.findSome? fun e => (e.2.ipv4Datas.lookup ip).map fun d => (e.1, e.2, d)

/-- The stack with `listener` bound at `port` in the listener map of `ip` on `interface`, whose
`StackInterface` is `si` and whose data for `ip` is `ipData`. -/
def bindUdp (self : NetworkStack) (interface : Interface) (si : StackInterface) (ip : Ipv4Addr)
    (ipData : Ipv4Data) (port : Nat) (listener : UdpListener) : NetworkStack :=
  { self with
    interfaces := self.interfaces.replace interface
      { si with
        ipv4Datas := si.ipv4Datas.replace ip
          { ipData with udpListeners := ipData.udpListeners.insert port listener } } }

def udpListenIpv4 (self : NetworkStack) (addr : SocketAddrV4) (listener : UdpListener)
    (draws : PortDraws) (fuel : Nat) : Option (Except IoError SocketAddr × NetworkStack) :=
  if addr.ip = ⟨0, 0, 0, 0⟩ then
    some (.error ⟨.addrNotAvailable, "Rips does not support listening to all interfaces yet"⟩,
      self)
  else
    match self.ipv4DataOf addr.ip with
    | none => some (.error ⟨.invalidInput, "Bind address does not exist in stack"⟩, self)
    | some (interface, stackInterface, ipData) =>
      let port := if addr.port = 0 then getRandomPort ipData.udpListeners draws fuel 0
        else some addr.port
      port.map fun port =>
        if port ∈ ipData.udpListeners then
          (.error ⟨.addrInUse, "Port " ++ toString port ++ " is already occupied on " ++
            toString addr.ip⟩, self)
        else
          (.ok (.v4 ⟨addr.ip, port⟩),
            self.bindUdp interface stackInterface addr.ip ipData port listener)

/-- `udp_listen(addr, listener)`; `addr` is what `util::first_socket_addr` made of the
caller's address. -/
def udpListen (self : NetworkStack) (addr : Except IoError SocketAddr) (listener : UdpListener)
    (draws : PortDraws) (fuel : Nat) : Option (Except IoError SocketAddr × NetworkStack) :=
  match addr with
  | .error e => some (.error e, self)
  | .ok (.v4 addr) => self.udpListenIpv4 addr listener draws fuel
  | .ok .v6 => some (.error ⟨.invalidInput, "Rips does not support IPv6 yet"⟩, self)

def udpListeners (self : NetworkStack) (interface : Interface) (ip : Ipv4Addr) :
    Option UdpListenerLookup :=
  (self.interfaces.lookup interface).bind fun si => (si.ipv4Datas.lookup ip).map (·.udpListeners)

/-! ## The port drawn -/

section Draws

variable (listeners : UdpListenerLookup) (draws : PortDraws)

theorem getRandomPort_spec : ∀ {fuel i p : Nat}, getRandomPort listeners draws fuel i = some p →
    p ∉ listeners ∧ localPortRangeStart ≤ p ∧ p < localPortRangeEnd
  | 0, _, _, h => by cases h
  | fuel + 1, i, p, h => by
    unfold getRandomPort at h
    split_ifs at h with hmem
    · exact getRandomPort_spec h
    · cases h
      exact ⟨hmem, draws.draw_mem i⟩

/-- The loop ends once it reaches a draw that is free. -/
theorem getRandomPort_isSome_of_free : ∀ {fuel i j : Nat}, i ≤ j → j < i + fuel →
    draws.draw j ∉ listeners → (getRandomPort listeners draws fuel i).isSome
  | 0, _, _, hij, hjfuel, _ => absurd hjfuel (by omega)
  | fuel + 1, i, j, hij, hjfuel, hfree => by
    unfold getRandomPort
    split_ifs with hmem
    · have hne : i ≠ j := fun hij => hfree (hij ▸ hmem)
      exact getRandomPort_isSome_of_free (by omega) (by omega) hfree
    · rfl

/-- With every draw taken the loop never ends. -/
theorem getRandomPort_of_taken (htaken : ∀ k, draws.draw k ∈ listeners) :
    ∀ fuel i, getRandomPort listeners draws fuel i = none
  | 0, _ => rfl
  | fuel + 1, i => by
    rw [getRandomPort, if_pos (htaken i)]
    exact getRandomPort_of_taken htaken fuel (i + 1)

end Draws

/-! ## What a call does to the listener maps -/

theorem ipv4DataOf_spec {self : NetworkStack} {ip : Ipv4Addr} {interface : Interface}
    {si : StackInterface} {ipData : Ipv4Data}
    (h : self.ipv4DataOf ip = some (interface, si, ipData)) :
    self.interfaces.lookup interface = some si ∧ si.ipv4Datas.lookup ip = some ipData := by
  obtain ⟨⟨i, si'⟩, hmem, hfound⟩ := List.exists_of_findSome?_eq_some h
  cases hdata : si'.ipv4Datas.lookup ip with
  | none => simp [hdata] at hfound
  | some d =>
    simp only [hdata, Option.map_some', Option.some.injEq, Prod.mk.injEq] at hfound
    obtain ⟨rfl, rfl, rfl⟩ := hfound
    exact ⟨AList.mem_lookup_iff.mpr hmem, hdata⟩

/-- Binding `port` in the map of `ip` on `interface` changes that map alone. -/
theorem udpListeners_bind {self : NetworkStack} {interface : Interface} {si : StackInterface}
    {ip : Ipv4Addr} {ipData : Ipv4Data} (hsi : self.interfaces.lookup interface = some si)
    (hdata : si.ipv4Datas.lookup ip = some ipData) (port : Nat) (listener : UdpListener) :
    (self.bindUdp interface si ip ipData port listener).udpListeners interface ip =
        some (ipData.udpListeners.insert port listener) ∧
      ∀ i ip', (i, ip') ≠ (interface, ip) →
        (self.bindUdp interface si ip ipData port listener).udpListeners i ip' =
          self.udpListeners i ip' := by
  have hmem : interface ∈ self.interfaces := AList.lookup_isSome.mp (by simp [hsi])
  have hipmem : ip ∈ si.ipv4Datas := AList.lookup_isSome.mp (by simp [hdata])
  refine ⟨by simp [bindUdp, udpListeners, lookup_replace_self hmem, lookup_replace_self hipmem],
    fun i ip' hne => ?_⟩
  by_cases hi : i = interface
  · subst hi
    have hip : ip' ≠ ip := fun h => hne (h ▸ rfl)
    simp [bindUdp, udpListeners, lookup_replace_self hmem, lookup_replace_of_ne _ hip, hsi]
  · simp [bindUdp, udpListeners, lookup_replace_of_ne _ hi]

/-- A call of `udp_listen_ipv4` that returns either fails with the stack unchanged, or binds
the listener in the map of the address on the first interface with it, at a port free there:
the one asked for, or one drawn from the range when the port asked for is `0`. -/
theorem udpListenIpv4_cases {self : NetworkStack} {addr : SocketAddrV4} {listener : UdpListener}
    {draws : PortDraws} {fuel : Nat} {r : Except IoError SocketAddr} {self' : NetworkStack}
    (h : self.udpListenIpv4 addr listener draws fuel = some (r, self')) :
    (∃ e, r = .error e ∧ self' = self) ∨
    ∃ interface si ipData port, self.interfaces.lookup interface = some si ∧
      si.ipv4Datas.lookup addr.ip = some ipData ∧ port ∉ ipData.udpListeners ∧
      r = .ok (.v4 ⟨addr.ip, port⟩) ∧
      self' = self.bindUdp interface si addr.ip ipData port listener ∧
      (addr.port ≠ 0 → port = addr.port) ∧
      (addr.port = 0 → localPortRangeStart ≤ port ∧ port < localPortRangeEnd) := by
  unfold udpListenIpv4 at h
  by_cases hany : addr.ip = ⟨0, 0, 0, 0⟩
  · rw [if_pos hany] at h
    cases h
    exact .inl ⟨_, rfl, rfl⟩
  · rw [if_neg hany] at h
    cases hfound : self.ipv4DataOf addr.ip with
    | none =>
      rw [hfound] at h
      cases h
      exact .inl ⟨_, rfl, rfl⟩
    | some found =>
      obtain ⟨interface, si, ipData⟩ := found
      obtain ⟨hsi, hdata⟩ := ipv4DataOf_spec hfound
      rw [hfound] at h
      obtain ⟨port, hport, hbind⟩ := Option.map_eq_some'.mp h
      by_cases hbound : port ∈ ipData.udpListeners
      · rw [if_pos hbound] at hbind
        cases hbind
        exact .inl ⟨_, rfl, rfl⟩
      · rw [if_neg hbound] at hbind
        cases hbind
        refine .inr ⟨interface, si, ipData, port, hsi, hdata, hbound, rfl, rfl, fun hne => ?_,
          fun hzero => ?_⟩
        · rw [if_neg hne, Option.some.injEq] at hport
          exact hport.symm
        · rw [if_pos hzero] at hport
          exact (getRandomPort_spec _ _ hport).2

theorem udpListenIpv4_spec {self : NetworkStack} {addr : SocketAddrV4} {listener : UdpListener}
    {draws : PortDraws} {fuel : Nat} {r : Except IoError SocketAddr} {self' : NetworkStack}
    (h : self.udpListenIpv4 addr listener draws fuel = some (r, self')) :
    (∃ e, r = .error e ∧ self' = self) ∨
    ∃ interface m p, r = .ok (.v4 ⟨addr.ip, p⟩) ∧ self.udpListeners interface addr.ip = some m ∧
      p ∉ m ∧ self'.udpListeners interface addr.ip = some (m.insert p listener) ∧
      (∀ i ip, (i, ip) ≠ (interface, addr.ip) → self'.udpListeners i ip = self.udpListeners i ip) ∧
      (addr.port ≠ 0 → p = addr.port) ∧
      (addr.port = 0 → localPortRangeStart ≤ p ∧ p < localPortRangeEnd) := by
  rcases udpListenIpv4_cases h with hfail |
    ⟨interface, si, ipData, port, hsi, hdata, hfree, hok, rfl, hasked, hdrawn⟩
  · exact .inl hfail
  · obtain ⟨hnew, hold⟩ := udpListeners_bind hsi hdata port listener
    exact .inr ⟨interface, ipData.udpListeners, port, hok, by simp [udpListeners, hsi, hdata],
      hfree, hnew, hold, hasked, hdrawn⟩

theorem udpListen_spec {self : NetworkStack} {addr : Except IoError SocketAddr}
    {listener : UdpListener} {draws : PortDraws} {fuel : Nat} {r : Except IoError SocketAddr}
    {self' : NetworkStack} (h : self.udpListen addr listener draws fuel = some (r, self')) :
    (∃ e, r = .error e ∧ self' = self) ∨
    ∃ requested interface m p, addr = .ok (.v4 requested) ∧ r = .ok (.v4 ⟨requested.ip, p⟩) ∧
      self.udpListeners interface requested.ip = some m ∧ p ∉ m ∧
      self'.udpListeners interface requested.ip = some (m.insert p listener) ∧
      (∀ i ip, (i, ip) ≠ (interface, requested.ip) →
        self'.udpListeners i ip = self.udpListeners i ip) ∧
      (requested.port ≠ 0 → p = requested.port) ∧
      (requested.port = 0 → localPortRangeStart ≤ p ∧ p < localPortRangeEnd) := by
  rcases addr with e | requested | _
  · cases h
    exact .inl ⟨_, rfl, rfl⟩
  · rcases udpListenIpv4_spec h with hfail | ⟨interface, m, p, hok, hrest⟩
    · exact .inl hfail
    · exact .inr ⟨requested, interface, m, p, rfl, hok, hrest⟩
  · cases h
    exact .inl ⟨_, rfl, rfl⟩

structure UdpListenCall where
  addr : Except IoError SocketAddr
  listener : UdpListener
  draws : PortDraws
  fuel : Nat

def udpListenAll (self : NetworkStack) : List UdpListenCall → Option NetworkStack
  | [] => some self
  | call :: calls =>
    (self.udpListen call.addr call.listener call.draws call.fuel).bind fun r =>
      r.2.udpListenAll calls

theorem udpListen_keeps {self : NetworkStack} {addr : Except IoError SocketAddr}
    {listener : UdpListener} {draws : PortDraws} {fuel : Nat} {r : Except IoError SocketAddr}
    {self' : NetworkStack} (h : self.udpListen addr listener draws fuel = some (r, self'))
    {i : Interface} {ip : Ipv4Addr} {p : Nat} {l : UdpListener}
    (hbound : (self.udpListeners i ip).bind (·.lookup p) = some l) :
    (self'.udpListeners i ip).bind (·.lookup p) = some l := by
  rcases udpListen_spec h with ⟨e, -, rfl⟩ |
    ⟨requested, interface, m, p', -, -, hm, hfree, hnew, hold, -⟩
  · exact hbound
  · by_cases hpair : (i, ip) = (interface, requested.ip)
    · obtain ⟨rfl, rfl⟩ := Prod.mk.inj hpair
      rw [hm, Option.some_bind] at hbound
      have hp : p ≠ p' := fun hp => hfree (hp ▸ AList.lookup_isSome.mp (by rw [hbound]; rfl))
      rw [hnew, Option.some_bind, AList.lookup_insert_ne hp]
      exact hbound
    · rw [hold i ip hpair]
      exact hbound

/-- Every `udp_listen` call on any stack: a call that fails leaves the stack, and so every
listener map, as it was; a call that binds puts its listener into the map of the address on
exactly one interface, at a port unbound there before, the port asked for or, for port `0`,
one of `[32768, 61000)`; so along a run of calls no bound listener is ever replaced. -/
theorem udpListen_binds (self : NetworkStack) (addr : Except IoError SocketAddr)
    (listener : UdpListener) (draws : PortDraws) (fuel : Nat) (calls : List UdpListenCall) :
    (∀ r self', self.udpListen addr listener draws fuel = some (r, self') →
      (∀ e, r = .error e → self' = self) ∧
      ∀ bound, r = .ok bound → ∃ requested interface m p, addr = .ok (.v4 requested) ∧
        bound = .v4 ⟨requested.ip, p⟩ ∧ self.udpListeners interface requested.ip = some m ∧
        p ∉ m ∧ self'.udpListeners interface requested.ip = some (m.insert p listener) ∧
        (∀ i ip, (i, ip) ≠ (interface, requested.ip) →
          self'.udpListeners i ip = self.udpListeners i ip) ∧
        (requested.port ≠ 0 → p = requested.port) ∧
        (requested.port = 0 → localPortRangeStart ≤ p ∧ p < localPortRangeEnd)) ∧
    (∀ self', self.udpListenAll calls = some self' → ∀ i ip p l,
      (self.udpListeners i ip).bind (·.lookup p) = some l →
        (self'.udpListeners i ip).bind (·.lookup p) = some l) := by
  refine ⟨fun r self' h => ⟨fun e he => ?_, fun bound hbound => ?_⟩, ?_⟩
  · rcases udpListen_spec h with ⟨e', -, hsame⟩ | ⟨_, _, _, _, _, hok, _⟩
    · exact hsame
    · simp [he] at hok
  · rcases udpListen_spec h with ⟨e', herror, -⟩ | ⟨requested, interface, m, p, haddr, hok, hrest⟩
    · simp [hbound] at herror
    · rw [hbound, Except.ok.injEq] at hok
      exact ⟨requested, interface, m, p, haddr, hok, hrest⟩
  · induction calls generalizing self with
    | nil =>
      intro self' hrun
      cases hrun
      exact fun _ _ _ _ h => h
    | cons call calls ih =>
      intro self' hrun i ip p l hbound
      obtain ⟨⟨r, mid⟩, hcall, hrest⟩ := Option.bind_eq_some.mp hrun
      exact ih mid self' hrest i ip p l (udpListen_keeps hcall hbound)

/-! ## When the loop of `get_random_port` ends -/

section PortZero

variable {self : NetworkStack} {addr : SocketAddrV4} {draws : PortDraws} {m : UdpListenerLookup}

theorem udpListenIpv4_of_port_zero (hport : addr.port = 0) (hip : addr.ip ≠ ⟨0, 0, 0, 0⟩)
    (hm : (self.ipv4DataOf addr.ip).map (·.2.2.udpListeners) = some m) (listener : UdpListener)
    (fuel : Nat) :
    (self.udpListenIpv4 addr listener draws fuel).isSome =
      (getRandomPort m draws fuel 0).isSome := by
  obtain ⟨⟨interface, si, ipData⟩, hfound, rfl⟩ := Option.map_eq_some'.mp hm
  simp [udpListenIpv4, hip, hfound, hport]

theorem udpListenIpv4_of_taken (hport : addr.port = 0) (hip : addr.ip ≠ ⟨0, 0, 0, 0⟩)
    (hm : (self.ipv4DataOf addr.ip).map (·.2.2.udpListeners) = some m)
    (htaken : ∀ k, draws.draw k ∈ m) (listener : UdpListener) (fuel : Nat) :
    self.udpListenIpv4 addr listener draws fuel = none := by
  have hloop : (self.udpListenIpv4 addr listener draws fuel).isSome =
      (getRandomPort m draws fuel 0).isSome :=
    udpListenIpv4_of_port_zero hport hip hm listener fuel
  rw [getRandomPort_of_taken m draws htaken] at hloop
  simpa using hloop

end PortZero

/-- Asked for port `0` on a local address, with draws that visit every port of the range
again and again: the call returns whenever the address's map leaves a port of the range free,
binding the listener at a drawn port free before it, in that map and no other; with every port
of the range bound it never returns. -/
theorem udpListenIpv4_port_zero {self : NetworkStack} {addr : SocketAddrV4}
    (listener : UdpListener) {draws : PortDraws} {m : UdpListenerLookup}
    (hport : addr.port = 0) (hip : addr.ip ≠ ⟨0, 0, 0, 0⟩)
    (hm : (self.ipv4DataOf addr.ip).map (·.2.2.udpListeners) = some m)
    (hfair : ∀ p, localPortRangeStart ≤ p → p < localPortRangeEnd →
      ∀ n, ∃ j, n ≤ j ∧ draws.draw j = p) :
    ((∃ p, localPortRangeStart ≤ p ∧ p < localPortRangeEnd ∧ p ∉ m) →
      ∃ fuel p interface self', self.udpListenIpv4 addr listener draws fuel =
          some (.ok (.v4 ⟨addr.ip, p⟩), self') ∧
        p ∉ m ∧ localPortRangeStart ≤ p ∧ p < localPortRangeEnd ∧
        self.udpListeners interface addr.ip = some m ∧
        self'.udpListeners interface addr.ip = some (m.insert p listener) ∧
        ∀ i ip, (i, ip) ≠ (interface, addr.ip) → self'.udpListeners i ip = self.udpListeners i ip) ∧
    ((∀ p, localPortRangeStart ≤ p → p < localPortRangeEnd → p ∈ m) →
      ∀ fuel, self.udpListenIpv4 addr listener draws fuel = none) := by
  refine ⟨fun ⟨p, hstart, hend, hfree⟩ => ?_, fun hfull =>
    udpListenIpv4_of_taken hport hip hm (fun k => hfull _ (draws.draw_mem k).1 (draws.draw_mem k).2)
      listener⟩
  obtain ⟨j, -, hj⟩ := hfair p hstart hend 0
  obtain ⟨⟨interface, si, ipData⟩, hfound, rfl⟩ := Option.map_eq_some'.mp hm
  obtain ⟨hsi, hdata⟩ := ipv4DataOf_spec hfound
  -- the draws reach the free port `p` by the `j`-th, so `j + 1` rounds of the loop suffice
  obtain ⟨port, hdraw⟩ := Option.isSome_iff_exists.mp
    (getRandomPort_isSome_of_free ipData.udpListeners draws (Nat.zero_le j)
      (show j < 0 + (j + 1) by omega) (hj ▸ hfree))
  obtain ⟨hfree', hrange⟩ := getRandomPort_spec _ _ hdraw
  have hcall : self.udpListenIpv4 addr listener draws (j + 1) =
      some (.ok (.v4 ⟨addr.ip, port⟩), self.bindUdp interface si addr.ip ipData port listener) := by
    simp [udpListenIpv4, hip, hfound, hport, hdraw, hfree']
  obtain ⟨hnew, hold⟩ := udpListeners_bind hsi hdata port listener
  exact ⟨j + 1, port, interface, _, hcall, hfree', hrange.1, hrange.2,
    by simp [udpListeners, hsi, hdata], hnew, hold⟩

/-! ## A full range -/

/-- Draws that run through the range in order, again and again. -/
def cyclingDraws : PortDraws :=
  ⟨fun i => localPortRangeStart + i % (localPortRangeEnd - localPortRangeStart),
    fun i => by simp only [localPortRangeStart, localPortRangeEnd]; omega⟩

theorem cyclingDraws_fair (p : Nat) (hstart : localPortRangeStart ≤ p)
    (hend : p < localPortRangeEnd) (n : Nat) : ∃ j, n ≤ j ∧ cyclingDraws.draw j = p := by
  simp only [localPortRangeStart, localPortRangeEnd] at hstart hend
  refine ⟨n * 28232 + (p - 32768), by omega, ?_⟩
  simp only [cyclingDraws, localPortRangeStart, localPortRangeEnd]
  omega

def allPortsBound : UdpListenerLookup :=
  ⟨(List.range' localPortRangeStart (localPortRangeEnd - localPortRangeStart)).map
      fun p => ⟨p, ⟨0⟩⟩,
    by simp [List.NodupKeys, List.keys, Function.comp_def, List.nodup_range']⟩

theorem mem_allPortsBound (p : Nat) (hstart : localPortRangeStart ≤ p)
    (hend : p < localPortRangeEnd) : p ∈ allPortsBound := by
  simp only [localPortRangeStart, localPortRangeEnd] at hstart hend
  simp [allPortsBound, AList.mem_keys, AList.keys, List.keys, Function.comp_def,
    localPortRangeStart, localPortRangeEnd]
  omega

/-- `eth0` with its network `10.0.0.1/24`, every port of the range bound on `10.0.0.1`. -/
def eth0Busy : NetworkStack :=
  ⟨(∅ : AList _).insert eth0.data.interface
      { eth0 with
        ipv4Datas := (∅ : AList _).insert ⟨10, 0, 0, 1⟩
          ⟨⟨⟨10, 0, 0, 1⟩, 24, by decide⟩, allPortsBound, ∅⟩ },
    RoutingTable.new⟩

/-- Asked for port `0` on `10.0.0.1` with every port of the range bound there, under draws
that visit every port again and again, `udp_listen_ipv4` never returns: no error comes. -/
theorem udpListenIpv4_busy_never_returns :
    (∀ p, localPortRangeStart ≤ p → p < localPortRangeEnd →
      ∀ n, ∃ j, n ≤ j ∧ cyclingDraws.draw j = p) ∧
    (eth0Busy.ipv4DataOf ⟨10, 0, 0, 1⟩).map (·.2.2.udpListeners) = some allPortsBound ∧
    (∀ p, localPortRangeStart ≤ p → p < localPortRangeEnd → p ∈ allPortsBound) ∧
    ∀ fuel, eth0Busy.udpListenIpv4 ⟨⟨10, 0, 0, 1⟩, 0⟩ ⟨0⟩ cyclingDraws fuel = none :=
  ⟨cyclingDraws_fair, rfl, mem_allPortsBound, udpListenIpv4_of_taken (by rfl) (by decide) (by rfl)
    (fun k => mem_allPortsBound _ (cyclingDraws.draw_mem k).1 (cyclingDraws.draw_mem k).2) ⟨0⟩⟩

/-- `eth0Stack` after `udp_listen` bound ports `32768` and `32769` of `10.0.0.1`, the first
two draws of `cyclingDraws`. -/
def eth0LowPortsBound : List UdpListenCall :=
  [⟨.ok (.v4 ⟨⟨10, 0, 0, 1⟩, 32768⟩), ⟨1⟩, cyclingDraws, 0⟩,
    ⟨.ok (.v4 ⟨⟨10, 0, 0, 1⟩, 32769⟩), ⟨2⟩, cyclingDraws, 0⟩]

/-- Port `0` of `10.0.0.1` once the first two draws are taken: the loop draws again twice and
binds `32770`. -/
theorem udpListenIpv4_port_zero_eth0Stack :
    ∃ self m, eth0Stack.udpListenAll eth0LowPortsBound = some self ∧
      32768 ∈ m ∧ 32769 ∈ m ∧
      (self.udpListenIpv4 ⟨⟨10, 0, 0, 1⟩, 0⟩ ⟨0⟩ cyclingDraws 3).map Prod.fst =
        some (.ok (.v4 ⟨⟨10, 0, 0, 1⟩, 32770⟩)) ∧
      (⟨⟨10, 0, 0, 1⟩, 0⟩ : SocketAddrV4).port = 0 ∧ (⟨10, 0, 0, 1⟩ : Ipv4Addr) ≠ ⟨0, 0, 0, 0⟩ ∧
      (self.ipv4DataOf ⟨10, 0, 0, 1⟩).map (·.2.2.udpListeners) = some m ∧
      ((∃ p, localPortRangeStart ≤ p ∧ p < localPortRangeEnd ∧ p ∉ m) →
        ∃ fuel p interface self', self.udpListenIpv4 ⟨⟨10, 0, 0, 1⟩, 0⟩ ⟨0⟩ cyclingDraws fuel =
            some (.ok (.v4 ⟨⟨10, 0, 0, 1⟩, p⟩), self') ∧
          p ∉ m ∧ localPortRangeStart ≤ p ∧ p < localPortRangeEnd ∧
          self.udpListeners interface ⟨10, 0, 0, 1⟩ = some m ∧
          self'.udpListeners interface ⟨10, 0, 0, 1⟩ = some (m.insert p ⟨0⟩) ∧
          ∀ i ip, (i, ip) ≠ (interface, ⟨10, 0, 0, 1⟩) →
            self'.udpListeners i ip = self.udpListeners i ip) ∧
      ((∀ p, localPortRangeStart ≤ p → p < localPortRangeEnd → p ∈ m) →
        ∀ fuel, self.udpListenIpv4 ⟨⟨10, 0, 0, 1⟩, 0⟩ ⟨0⟩ cyclingDraws fuel = none) := by
  have hrun : eth0Stack.udpListenAll eth0LowPortsBound = some _ := rfl
  exact ⟨_, _, hrun, by decide, by decide, rfl, rfl, by decide, rfl,
    udpListenIpv4_port_zero ⟨0⟩ (by rfl) (by decide) rfl cyclingDraws_fair⟩

end NetworkStack

end Rips
