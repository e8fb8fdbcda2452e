import Rips.Interface

/-!
# The network stack

`NetworkStack` maps each interface to its `StackInterface` and owns the routing table.  The
routing table is not among the source files; it is written from the spec as a list of routes
searched for the longest prefix containing the destination.

Every stack reached by the API from `NetworkStack::new` is well formed: each interface's
`StackInterface` is built for that interface, its local addresses are one set in the three
places that hold them, and each local network has its route.  On top of that, `ipv4_tx`
picks the route, the interface and a local address and hands the rest to
`StackInterface::ipv4_tx`.
-/

namespace Rips

/-! ## The routing table -/

/-- Modelled from the spec: a route of the routing table: a network, an optional gateway and
the interface to send on. -/
structure Route where
  net : Ipv4Network
  gw : Option Ipv4Addr
  interface : Interface
  deriving DecidableEq

/-- Modelled from the spec: `RoutingTable`, its routes in the order they were added. -/
structure RoutingTable where
  routes : List Route
  deriving DecidableEq

namespace RoutingTable

def new : RoutingTable := ⟨[]⟩

/-- Modelled from the spec: `add_route(network, gateway, interface)`. -/
def addRoute (self : RoutingTable) (net : Ipv4Network) (gw : Option Ipv4Addr)
    (interface : Interface) : RoutingTable :=
  ⟨self.routes ++ [⟨net, gw, interface⟩]⟩

/-- The better of the best route so far and the next one for `dst`: a route that contains
`dst` and has a longer prefix wins, so an earlier route keeps a tie. -/
def longestMatch (dst : Ipv4Addr) (best : Option Route) (r : Route) : Option Route :=
  if r.net.contains dst && best.all (fun b => b.net.prefixLen < r.net.prefixLen) then some r
  else best

/-- Modelled from the spec: `route(dst)`: gateway and interface of the longest-prefix route
whose network contains `dst`. -/
def route (self : RoutingTable) (dst : Ipv4Addr) : Option (Option Ipv4Addr × Interface) :=
  (self.routes.foldl (longestMatch dst) none).map fun r => (r.gw, r.interface)

private theorem foldl_longestMatch_isSome (dst : Ipv4Addr) :
    ∀ (rs : List Route) (b : Route), (rs.foldl (longestMatch dst) (some b)).isSome
  | [], _ => rfl
  | r :: rs, b => by
    rw [List.foldl_cons, longestMatch]
    split
    · exact foldl_longestMatch_isSome dst rs r
    · exact foldl_longestMatch_isSome dst rs b

private theorem foldl_longestMatch_mem (dst : Ipv4Addr) :
    ∀ (rs : List Route) (best : Option Route) (r : Route),
      rs.foldl (longestMatch dst) best = some r → best = some r ∨ r ∈ rs ∧ r.net.contains dst
  | [], _, _, h => .inl h
  | r' :: rs, best, r, h => by
    rw [List.foldl_cons] at h
    rcases foldl_longestMatch_mem dst rs _ r h with hbest | ⟨hmem, hcontains⟩
    · unfold longestMatch at hbest
      split at hbest
      · cases hbest
        exact .inr ⟨List.mem_cons_self _ _, by simp_all⟩
      · exact .inl hbest
    · exact .inr ⟨List.mem_cons_of_mem _ hmem, hcontains⟩

private theorem foldl_longestMatch_none (dst : Ipv4Addr) :
    ∀ rs : List Route,
      rs.foldl (longestMatch dst) none = none ↔ ∀ r ∈ rs, r.net.contains dst = false
  | [] => by simp
  | r :: rs => by
    rw [List.foldl_cons, List.forall_mem_cons, ← foldl_longestMatch_none dst rs]
    cases hr : r.net.contains dst
    · rw [show longestMatch dst none r = none by simp [longestMatch, hr]]
      simp
    · rw [show longestMatch dst none r = some r by simp [longestMatch, hr]]
      simpa [Option.ne_none_iff_isSome] using foldl_longestMatch_isSome dst rs r

theorem route_eq_none_iff (self : RoutingTable) (dst : Ipv4Addr) :
    self.route dst = none ↔ ∀ r ∈ self.routes, r.net.contains dst = false := by
  rw [route, Option.map_eq_none', foldl_longestMatch_none]

theorem route_mem {self : RoutingTable} {dst : Ipv4Addr} {gw : Option Ipv4Addr}
    {interface : Interface} (h : self.route dst = some (gw, interface)) :
    ∃ r ∈ self.routes, r.net.contains dst ∧ r.gw = gw ∧ r.interface = interface := by
  obtain ⟨r, hfound, hr⟩ := Option.map_eq_some'.mp h
  rcases foldl_longestMatch_mem dst self.routes none r hfound with hnone | ⟨hmem, hcontains⟩
  · cases hnone
  · cases hr
    exact ⟨r, hmem, hcontains, rfl, rfl⟩

end RoutingTable

/-! ## The stack -/

structure NetworkStack where
  interfaces : AList (fun _ : Interface => StackInterface)
  routingTable : RoutingTable

namespace NetworkStack

def new : NetworkStack := ⟨∅, RoutingTable.new⟩

/-- `add_interface`; the channel's datalink starts with nothing sent. -/
def addInterface (self : NetworkStack) (interface : Interface) : StackResult Unit × NetworkStack :=
  if interface ∈ self.interfaces then (.error .invalidInterface, self)
  else (.ok (), { self with interfaces := self.interfaces.insert interface (.new interface) })

def interface (self : NetworkStack) (interface : Interface) : StackResult StackInterface :=
  match self.interfaces.lookup interface with
  | some stackInterface => .ok stackInterface
  | none => .error .invalidInterface

/-- `add_ipv4`: `StackInterface::add_ipv4` on the interface in place, then the route. -/
def addIpv4 (self : NetworkStack) (interface : Interface) (ipNet : Ipv4Network) :
    StackResult Unit × NetworkStack :=
  match self.interfaces.lookup interface with
  | none => (.error .invalidInterface, self)
  | some stackInterface =>
    let (r, stackInterface) := stackInterface.addIpv4 ipNet
    let self := { self with interfaces := self.interfaces.replace interface stackInterface }
    match r with
    | .error e => (.error e, self)
    | .ok () =>
      (.ok (), { self with routingTable := self.routingTable.addRoute ipNet none interface })

/-- `ipv4_tx(dst)`: `StackInterface::ipv4_tx(dst, gw)` in place on the route's interface. -/
def ipv4Tx (self : NetworkStack) (dst : Ipv4Addr) (requestAnswer : Option (Except IoError Unit))
    (reply : MacAddr) : StackResult Ipv4TxImpl × NetworkStack :=
  match self.routingTable.route dst with
  | some (gw, interface) =>
    match self.interfaces.lookup interface with
    | some stackInterface =>
      let (r, stackInterface) := stackInterface.ipv4Tx dst gw requestAnswer reply
      (r, { self with interfaces := self.interfaces.replace interface stackInterface })
    | none => (.error .illegalArgument, self)
  | none => (.error .noRouteToHost, self)

/-! ## What each call does -/

variable (self : NetworkStack)

theorem addInterface_spec (interface : Interface) :
    (interface ∈ self.interfaces ∧ self.addInterface interface = (.error .invalidInterface, self)) ∨
      (interface ∉ self.interfaces ∧ self.addInterface interface =
        (.ok (),
          { self with interfaces := self.interfaces.insert interface (.new interface) })) := by
  by_cases h : interface ∈ self.interfaces
  · exact .inl ⟨h, if_pos h⟩
  · exact .inr ⟨h, if_neg h⟩

/-- `add_ipv4` fails, changing nothing, on an unknown interface or an address the interface
already has; otherwise it adds the address to the interface and installs the route. -/
theorem addIpv4_spec (interface : Interface) (ipNet : Ipv4Network) :
    ((self.interfaces.lookup interface = none ∨
        ∃ si, self.interfaces.lookup interface = some si ∧ ipNet.ip ∈ si.ipv4Datas) ∧
      ∃ e, self.addIpv4 interface ipNet = (.error e, self)) ∨
    ∃ si, self.interfaces.lookup interface = some si ∧ ipNet.ip ∉ si.ipv4Datas ∧
      self.addIpv4 interface ipNet =
        (.ok (), ⟨self.interfaces.replace interface (si.addIpv4 ipNet).2,
          self.routingTable.addRoute ipNet none interface⟩) := by
  cases hsi : self.interfaces.lookup interface with
  | none => exact .inl ⟨.inl rfl, .invalidInterface, by simp [addIpv4, hsi]⟩
  | some si =>
    rcases si.addIpv4_spec ipNet with ⟨hmem, hfail⟩ | ⟨hfresh, hok, -⟩
    · refine .inl ⟨.inr ⟨si, rfl, hmem⟩, .illegalArgument, ?_⟩
      simp [addIpv4, hsi, hfail, replace_of_lookup hsi]
    · refine .inr ⟨si, rfl, hfresh, ?_⟩
      simp only [addIpv4, hsi]
      rw [hok]

theorem ipv4Tx_of_route {dst : Ipv4Addr} {gw : Option Ipv4Addr} {interface : Interface}
    {si : StackInterface} (hroute : self.routingTable.route dst = some (gw, interface))
    (hsi : self.interfaces.lookup interface = some si)
    (requestAnswer : Option (Except IoError Unit))
    (reply : MacAddr) :
    self.ipv4Tx dst requestAnswer reply =
      ((si.ipv4Tx dst gw requestAnswer reply).1,
        { self with
          interfaces := self.interfaces.replace interface
            (si.ipv4Tx dst gw requestAnswer reply).2 }) := by
  simp [ipv4Tx, hroute, hsi]

/-- `ipv4_tx` has three outcomes: no route, a route through an interface the stack does not
have, or that interface's own `ipv4_tx` written back in place. -/
theorem ipv4Tx_cases (dst : Ipv4Addr) (requestAnswer : Option (Except IoError Unit))
    (reply : MacAddr) :
    (self.routingTable.route dst = none ∧
      self.ipv4Tx dst requestAnswer reply = (.error .noRouteToHost, self)) ∨
    (∃ gw interface, self.routingTable.route dst = some (gw, interface) ∧
      self.interfaces.lookup interface = none ∧
      self.ipv4Tx dst requestAnswer reply = (.error .illegalArgument, self)) ∨
    ∃ gw interface si, self.routingTable.route dst = some (gw, interface) ∧
      self.interfaces.lookup interface = some si ∧
      self.ipv4Tx dst requestAnswer reply =
        ((si.ipv4Tx dst gw requestAnswer reply).1,
          { self with
            interfaces := self.interfaces.replace interface
              (si.ipv4Tx dst gw requestAnswer reply).2 }) := by
  cases hroute : self.routingTable.route dst with
  | none => exact .inl ⟨rfl, by simp [ipv4Tx, hroute]⟩
  | some route =>
    obtain ⟨gw, interface⟩ := route
    cases hsi : self.interfaces.lookup interface with
    | none => exact .inr (.inl ⟨gw, interface, rfl, hsi, by simp [ipv4Tx, hroute, hsi]⟩)
    | some si =>
      exact .inr (.inr ⟨gw, interface, si, rfl, hsi, ipv4Tx_of_route self hroute hsi _ _⟩)

/-! ## Well-formed stacks -/

/-- What every stack reached from `new` keeps: each `StackInterface` was built for its key,
its local addresses are consistent, and each local network has a route without gateway to
its interface. -/
structure Wf (ns : NetworkStack) : Prop where
  interface_eq : ∀ i si, ns.interfaces.lookup i = some si → si.interface = i
  ipv4Consistent : ∀ i si, ns.interfaces.lookup i = some si → si.Ipv4Consistent
  route_of_ipv4 : ∀ i si ip data, ns.interfaces.lookup i = some si →
    si.ipv4Datas.lookup ip = some data → ⟨data.net, none, i⟩ ∈ ns.routingTable.routes

theorem new_wf : new.Wf where
  interface_eq := by simp [new]
  ipv4Consistent := by simp [new]
  route_of_ipv4 := by simp [new]

theorem addInterface_wf {self : NetworkStack} (h : self.Wf) (interface : Interface) :
    (self.addInterface interface).2.Wf := by
  rcases self.addInterface_spec interface with ⟨-, hfail⟩ | ⟨hfresh, hok⟩
  · exact hfail ▸ h
  · rw [hok]
    refine ⟨fun i si hsi => ?_, fun i si hsi => ?_, fun i si ip data hsi hdata => ?_⟩ <;>
      by_cases hi : i = interface
    · subst hi
      simp only [AList.lookup_insert, Option.some.injEq] at hsi
      exact hsi ▸ rfl
    · exact h.interface_eq i si (by rwa [AList.lookup_insert_ne hi] at hsi)
    · subst hi
      simp only [AList.lookup_insert, Option.some.injEq] at hsi
      exact hsi ▸ StackInterface.new_ipv4Consistent i
    · exact h.ipv4Consistent i si (by rwa [AList.lookup_insert_ne hi] at hsi)
    · subst hi
      simp only [AList.lookup_insert, Option.some.injEq] at hsi
      subst hsi
      simp [StackInterface.new] at hdata
    · exact h.route_of_ipv4 i si ip data (by rwa [AList.lookup_insert_ne hi] at hsi) hdata

/-- Updating one interface in place keeps the stack well formed when the update keeps the
interface and consistent local addresses, every local network then held has a route in the
new table, and the new table keeps the old routes. -/
theorem wf_replace {self : NetworkStack} (h : self.Wf) {interface : Interface}
    {si si' : StackInterface} (hsi : self.interfaces.lookup interface = some si)
    (hinterface : si'.interface = si.interface) (hconsistent : si'.Ipv4Consistent)
    {table : RoutingTable} (hold : self.routingTable.routes ⊆ table.routes)
    (hroutes : ∀ ip data, si'.ipv4Datas.lookup ip = some data →
      ⟨data.net, none, interface⟩ ∈ table.routes) :
    (⟨self.interfaces.replace interface si', table⟩ : NetworkStack).Wf := by
  have hmem : interface ∈ self.interfaces := AList.lookup_isSome.mp (by simp [hsi])
  refine ⟨fun i si'' hsi'' => ?_, fun i si'' hsi'' => ?_, fun i si'' ip data hsi'' hdata => ?_⟩ <;>
    by_cases hi : i = interface
  · subst hi
    rw [lookup_replace_self hmem, Option.some.injEq] at hsi''
    exact hsi'' ▸ hinterface.trans (h.interface_eq i si hsi)
  · exact h.interface_eq i si'' (by rwa [lookup_replace_of_ne _ hi] at hsi'')
  · subst hi
    rw [lookup_replace_self hmem, Option.some.injEq] at hsi''
    exact hsi'' ▸ hconsistent
  · exact h.ipv4Consistent i si'' (by rwa [lookup_replace_of_ne _ hi] at hsi'')
  · subst hi
    rw [lookup_replace_self hmem, Option.some.injEq] at hsi''
    exact hroutes ip data (hsi'' ▸ hdata)
  · exact hold (h.route_of_ipv4 i si'' ip data (by rwa [lookup_replace_of_ne _ hi] at hsi'') hdata)

theorem wf_replace_of_same {self : NetworkStack} (h : self.Wf) {interface : Interface}
    {si si' : StackInterface} (hsi : self.interfaces.lookup interface = some si)
    (hinterface : si'.interface = si.interface) (hdatas : si'.ipv4Datas = si.ipv4Datas)
    (haddresses : si'.data.ipv4Addresses = si.data.ipv4Addresses)
    (hlisteners : si'.ipv4Listeners = si.ipv4Listeners) :
    { self with interfaces := self.interfaces.replace interface si' }.Wf := by
  have hconsistent := h.ipv4Consistent _ _ hsi
  refine wf_replace h hsi hinterface ⟨?_, ?_, ?_⟩ (List.Subset.refl _) ?_ <;> rw [hdatas]
  · exact haddresses ▸ hconsistent.addresses
  · exact hlisteners ▸ hconsistent.listeners
  · exact hconsistent.net_ip
  · exact fun ip data hdata => h.route_of_ipv4 _ _ _ _ hsi hdata

theorem addIpv4_wf {self : NetworkStack} (h : self.Wf) (interface : Interface)
    (ipNet : Ipv4Network) : (self.addIpv4 interface ipNet).2.Wf := by
  rcases self.addIpv4_spec interface ipNet with ⟨-, e, hfail⟩ | ⟨si, hsi, hfresh, hok⟩
  · exact hfail ▸ h
  · rw [hok]
    rcases si.addIpv4_spec ipNet with ⟨hmem, -⟩ | ⟨-, -, hdatas, -, -, -, hinterface⟩
    · exact absurd hmem hfresh
    · refine wf_replace h hsi hinterface
        (si.addIpv4_ipv4Consistent (h.ipv4Consistent _ _ hsi) ipNet)
        (List.subset_append_left _ _) fun ip data hdata => ?_
      rw [hdatas] at hdata
      by_cases hip : ip = ipNet.ip
      · subst hip
        rw [AList.lookup_insert, Option.some.injEq] at hdata
        subst hdata
        exact List.mem_append_right _ (List.mem_singleton_self _)
      · rw [AList.lookup_insert_ne hip] at hdata
        exact List.mem_append_left _ (h.route_of_ipv4 _ _ _ _ hsi hdata)

theorem ipv4Tx_wf {self : NetworkStack} (h : self.Wf) (dst : Ipv4Addr)
    (requestAnswer : Option (Except IoError Unit)) (reply : MacAddr) :
    (self.ipv4Tx dst requestAnswer reply).2.Wf := by
  rcases ipv4Tx_cases self dst requestAnswer reply with ⟨-, hcall⟩ | ⟨-, -, -, -, hcall⟩ |
    ⟨gw, interface, si, -, hsi, hcall⟩
  · exact hcall ▸ h
  · exact hcall ▸ h
  · obtain ⟨table, barrier, hframe⟩ := si.ipv4Tx_frame dst gw requestAnswer reply
    rw [hcall, hframe]
    exact wf_replace_of_same h hsi rfl rfl rfl rfl

/-! ## Runs of configuration calls -/

inductive ConfigCall where
  | addInterface (interface : Interface)
  | addIpv4 (interface : Interface) (ipNet : Ipv4Network)

def configureStep (self : NetworkStack) : ConfigCall → NetworkStack
  | .addInterface interface => (self.addInterface interface).2
  | .addIpv4 interface ipNet => (self.addIpv4 interface ipNet).2

def configure (self : NetworkStack) (calls : List ConfigCall) : NetworkStack :=
  calls.foldl configureStep self

theorem configure_wf {self : NetworkStack} (h : self.Wf) :
    ∀ calls, (self.configure calls).Wf
  | [] => h
  | .addInterface interface :: calls => configure_wf (addInterface_wf h interface) calls
  | .addIpv4 interface ipNet :: calls => configure_wf (addIpv4_wf h interface ipNet) calls

theorem configureStep_keeps_data {self : NetworkStack} {i : Interface} {si : StackInterface}
    {ip : Ipv4Addr} {data : Ipv4Data} (hsi : self.interfaces.lookup i = some si)
    (hdata : si.ipv4Datas.lookup ip = some data) (call : ConfigCall) :
    ∃ si', (self.configureStep call).interfaces.lookup i = some si' ∧
      si'.ipv4Datas.lookup ip = some data := by
  cases call with
  | addInterface interface =>
    rcases self.addInterface_spec interface with ⟨-, hfail⟩ | ⟨hfresh, hok⟩
    · exact ⟨si, by rw [configureStep, hfail, hsi], hdata⟩
    · have hi : i ≠ interface := by
        rintro rfl
        exact hfresh (AList.lookup_isSome.mp (by simp [hsi]))
      exact ⟨si, by rw [configureStep, hok]; simpa [AList.lookup_insert_ne hi] using hsi, hdata⟩
  | addIpv4 interface ipNet =>
    rcases self.addIpv4_spec interface ipNet with ⟨-, e, hfail⟩ | ⟨si', hsi', hfresh, hok⟩
    · exact ⟨si, by rw [configureStep, hfail, hsi], hdata⟩
    · by_cases hi : i = interface
      · subst hi
        obtain rfl : si' = si := Option.some.inj (hsi'.symm.trans hsi)
        have hip : ip ≠ ipNet.ip := by
          rintro rfl
          exact hfresh (AList.lookup_isSome.mp (by simp [hdata]))
        rcases si'.addIpv4_spec ipNet with ⟨hmem, -⟩ | ⟨-, -, hdatas, -⟩
        · exact absurd hmem hfresh
        · have hmem : i ∈ self.interfaces := AList.lookup_isSome.mp (by simp [hsi])
          refine ⟨_, by rw [configureStep, hok]; exact lookup_replace_self hmem, ?_⟩
          rw [hdatas, AList.lookup_insert_ne hip, hdata]
      · exact ⟨si, by rw [configureStep, hok]; simpa [lookup_replace_of_ne _ hi] using hsi, hdata⟩

theorem configure_keeps_data {self : NetworkStack} {i : Interface} {si : StackInterface}
    {ip : Ipv4Addr} {data : Ipv4Data} (hsi : self.interfaces.lookup i = some si)
    (hdata : si.ipv4Datas.lookup ip = some data) :
    ∀ calls, ∃ si', (self.configure calls).interfaces.lookup i = some si' ∧
      si'.ipv4Datas.lookup ip = some data
  | [] => ⟨si, hsi, hdata⟩
  | call :: calls => by
    obtain ⟨si', hsi', hdata'⟩ := configureStep_keeps_data hsi hdata call
    exact configure_keeps_data hsi' hdata' calls

/-- A successful `add_ipv4` leaves the address bound on the interface to a fresh entry of its
network, and the route installed. -/
theorem addIpv4_of_ok {self : NetworkStack} {interface : Interface} {ipNet : Ipv4Network}
    (hok : (self.addIpv4 interface ipNet).1 = .ok ()) :
    ∃ si, (self.addIpv4 interface ipNet).2.interfaces.lookup interface = some si ∧
      si.ipv4Datas.lookup ipNet.ip = some ⟨ipNet, ∅, ∅⟩ ∧
      ⟨ipNet, none, interface⟩ ∈ (self.addIpv4 interface ipNet).2.routingTable.routes := by
  rcases self.addIpv4_spec interface ipNet with ⟨-, e, hfail⟩ | ⟨si, hsi, hfresh, hadd⟩
  · rw [hfail] at hok
    cases hok
  · rcases si.addIpv4_spec ipNet with ⟨hmem, -⟩ | ⟨-, -, hdatas, -⟩
    · exact absurd hmem hfresh
    · have hmem : interface ∈ self.interfaces := AList.lookup_isSome.mp (by simp [hsi])
      rw [hadd]
      exact ⟨_, lookup_replace_self hmem, by rw [hdatas, AList.lookup_insert],
        List.mem_append_right _ (List.mem_singleton_self _)⟩

/-- Every run of `add_interface` and `add_ipv4` calls from a new stack: on every interface the
keys of `ipv4_datas`, the address set and the keys of the IPv4 dispatch map are one set; each
entry holds the network its address was added with, that network has its route, and no later
call changes the entry.  A further `add_ipv4` fails exactly on an unknown interface or an
address already bound there, and then leaves the stack as it was; otherwise it binds the
address to its network and installs the route. -/
theorem configure_addIpv4 (calls : List ConfigCall) (interface : Interface)
    (ipNet : Ipv4Network) :
    (∀ i si, (new.configure calls).interfaces.lookup i = some si → ∀ ip,
      (ip ∈ si.ipv4Datas ↔ ip ∈ si.data.ipv4Addresses) ∧
        (ip ∈ si.ipv4Datas ↔ ip ∈ si.ipv4Listeners)) ∧
    (∀ i si ip data, (new.configure calls).interfaces.lookup i = some si →
      si.ipv4Datas.lookup ip = some data → data.net.ip = ip ∧
        ⟨data.net, none, i⟩ ∈ (new.configure calls).routingTable.routes ∧
        ∀ more, ∃ si', ((new.configure calls).configure more).interfaces.lookup i = some si' ∧
          si'.ipv4Datas.lookup ip = some data) ∧
    ((∃ e, ((new.configure calls).addIpv4 interface ipNet).1 = .error e) ↔
      (new.configure calls).interfaces.lookup interface = none ∨
        ∃ si, (new.configure calls).interfaces.lookup interface = some si ∧
          ipNet.ip ∈ si.ipv4Datas) ∧
    (∀ e, ((new.configure calls).addIpv4 interface ipNet).1 = .error e →
      ((new.configure calls).addIpv4 interface ipNet).2 = new.configure calls) ∧
    (((new.configure calls).addIpv4 interface ipNet).1 = .ok () →
      ∃ si, ((new.configure calls).addIpv4 interface ipNet).2.interfaces.lookup interface =
          some si ∧
        si.ipv4Datas.lookup ipNet.ip = some ⟨ipNet, ∅, ∅⟩ ∧
        ⟨ipNet, none, interface⟩ ∈
          ((new.configure calls).addIpv4 interface ipNet).2.routingTable.routes) := by
  have hwf := configure_wf new_wf calls
  refine ⟨fun i si hsi ip => ⟨(hwf.ipv4Consistent i si hsi).addresses ip,
      (hwf.ipv4Consistent i si hsi).listeners ip⟩,
    fun i si ip data hsi hdata => ⟨(hwf.ipv4Consistent i si hsi).net_ip ip data hdata,
      hwf.route_of_ipv4 i si ip data hsi hdata, configure_keeps_data hsi hdata⟩,
    ?_, fun e herror => ?_, addIpv4_of_ok⟩ <;>
    rcases (new.configure calls).addIpv4_spec interface ipNet with
      ⟨hcase, e', hfail⟩ | ⟨si, hsi, hfresh, hok⟩
  · simpa [hfail] using hcase
  · refine ⟨fun ⟨e, he⟩ => by simp [hok] at he, ?_⟩
    rintro (hnone | ⟨si', hsi', hmem⟩)
    · simp [hsi] at hnone
    · exact absurd (Option.some.inj (hsi.symm.trans hsi') ▸ hmem) hfresh
  · rw [hfail]
  · simp [hok] at herror

/-! ## Sending to an IPv4 destination -/

/-- `ipv4_tx(dst)` on a stack that keeps each interface under its own name, as
`add_interface` does, fails with `NoRouteToHost` exactly when no route contains `dst`; with a route whose interface is unknown or has no local network containing
the next hop it fails with `IllegalArgument`, changing nothing; and a transmitter it returns
sends from a local address of the route's interface whose network contains the next hop, to
`dst`, from the interface's MAC to the MAC the interface's ARP table binds to the next hop,
known at once or the reply to an ARP request sent from that address, with the interface's
MTU. -/
theorem ipv4Tx_spec {self : NetworkStack}
    (hnamed : ∀ i si, self.interfaces.lookup i = some si → si.interface = i) (dst : Ipv4Addr)
    (requestAnswer : Option (Except IoError Unit)) (reply : MacAddr) :
    ((self.ipv4Tx dst requestAnswer reply).1 = .error .noRouteToHost ↔
      self.routingTable.route dst = none) ∧
    (∀ gw interface, self.routingTable.route dst = some (gw, interface) →
      (self.interfaces.lookup interface = none ∨ ∃ si, self.interfaces.lookup interface = some si ∧
        si.closestLocalIp (gw.getD dst) = none) →
      self.ipv4Tx dst requestAnswer reply = (.error .illegalArgument, self)) ∧
    (∀ tx, (self.ipv4Tx dst requestAnswer reply).1 = .ok tx →
      ∃ gw interface si si', self.routingTable.route dst = some (gw, interface) ∧
        self.interfaces.lookup interface = some si ∧
        (self.ipv4Tx dst requestAnswer reply).2.interfaces.lookup interface = some si' ∧
        (∃ data, si.ipv4Datas.lookup tx.src = some data ∧ data.net.contains (gw.getD dst)) ∧
        tx.dst = dst ∧ tx.ethernet.src = interface.mac ∧
        si'.arpTable.table.lookup (gw.getD dst) = some tx.ethernet.dst ∧
        (si.arpTable.table.lookup (gw.getD dst) = some tx.ethernet.dst ∧ si' = si ∨
          si.arpTable.table.lookup (gw.getD dst) = none ∧ tx.ethernet.dst = reply ∧
          si'.data.barrier.sent = si.data.barrier.sent ++
            [⟨interface.mac, MacAddr.new 0xff 0xff 0xff 0xff 0xff 0xff,
              .arpRequest tx.src (gw.getD dst)⟩]) ∧
        tx.mtu = si.mtu) := by
  refine ⟨?_, fun gw interface hroute hfail => ?_, fun tx hok => ?_⟩
  · rcases ipv4Tx_cases self dst requestAnswer reply with ⟨hroute, hcall⟩ |
      ⟨gw, interface, hroute, -, hcall⟩ | ⟨gw, interface, si, hroute, -, hcall⟩
    · simp [hroute, hcall]
    · simp [hroute, hcall]
    · simp only [hcall, hroute, reduceCtorEq, iff_false]
      intro herror
      rcases si.ipv4Tx_error dst gw requestAnswer reply (Prod.ext herror rfl) with
        ⟨hillegal, -⟩ | ⟨e, he⟩
      · cases hillegal
      · cases he
  · rcases hfail with hnone | ⟨si, hsi, hsrc⟩
    · simp [ipv4Tx, hroute, hnone]
    · rw [ipv4Tx_of_route self hroute hsi, si.ipv4Tx_of_closestLocalIp_none _ _ _ _ hsrc]
      simp [replace_of_lookup hsi]
  · rcases ipv4Tx_cases self dst requestAnswer reply with ⟨-, hcall⟩ | ⟨-, -, -, -, hcall⟩ |
      ⟨gw, interface, si, hroute, hsi, hcall⟩
    · simp [hcall] at hok
    · simp [hcall] at hok
    · have hmem : interface ∈ self.interfaces := AList.lookup_isSome.mp (by simp [hsi])
      rw [hcall] at hok ⊢
      obtain ⟨hsrc, hdst, hmac, hmtu, hbound, hpath⟩ :=
        si.ipv4Tx_ok_spec dst gw requestAnswer reply (Prod.ext hok rfl)
      have hinterface : si.data.interface = interface := hnamed interface si hsi
      rw [hinterface] at hmac hpath
      exact ⟨gw, interface, si, _, hroute, hsi, lookup_replace_self hmem, hsrc, hdst, hmac,
        hbound, hpath, hmtu⟩

def eth0Stack : NetworkStack :=
  ((new.addInterface eth0.data.interface).2.addIpv4 eth0.data.interface
    ⟨⟨10, 0, 0, 1⟩, 24, by decide⟩).2

theorem ipv4Tx_spec_eth0Stack :
    (∀ i si, eth0Stack.interfaces.lookup i = some si → si.interface = i) ∧
    (∃ tx, (eth0Stack.ipv4Tx ⟨10, 0, 0, 2⟩ (some (.ok ())) (MacAddr.new 0 0x11 0x22 0x33 0x44 0x55)).1 = .ok tx) ∧
    ((eth0Stack.ipv4Tx ⟨10, 0, 0, 2⟩ (some (.ok ())) (MacAddr.new 0 0x11 0x22 0x33 0x44 0x55)).1 = .error .noRouteToHost ↔
      eth0Stack.routingTable.route ⟨10, 0, 0, 2⟩ = none) ∧
    (∀ gw interface, eth0Stack.routingTable.route ⟨10, 0, 0, 2⟩ = some (gw, interface) →
      (eth0Stack.interfaces.lookup interface = none ∨
        ∃ si, eth0Stack.interfaces.lookup interface = some si ∧
          si.closestLocalIp (gw.getD ⟨10, 0, 0, 2⟩) = none) →
      eth0Stack.ipv4Tx ⟨10, 0, 0, 2⟩ (some (.ok ())) (MacAddr.new 0 0x11 0x22 0x33 0x44 0x55) = (.error .illegalArgument, eth0Stack)) ∧
    (∀ tx, (eth0Stack.ipv4Tx ⟨10, 0, 0, 2⟩ (some (.ok ())) (MacAddr.new 0 0x11 0x22 0x33 0x44 0x55)).1 = .ok tx →
      ∃ gw interface si si', eth0Stack.routingTable.route ⟨10, 0, 0, 2⟩ = some (gw, interface) ∧
        eth0Stack.interfaces.lookup interface = some si ∧
        (eth0Stack.ipv4Tx ⟨10, 0, 0, 2⟩ (some (.ok ())) (MacAddr.new 0 0x11 0x22 0x33 0x44 0x55)).2.interfaces.lookup interface = some si' ∧
        (∃ data, si.ipv4Datas.lookup tx.src = some data ∧ data.net.contains (gw.getD ⟨10, 0, 0, 2⟩)) ∧
        tx.dst = ⟨10, 0, 0, 2⟩ ∧ tx.ethernet.src = interface.mac ∧
        si'.arpTable.table.lookup (gw.getD ⟨10, 0, 0, 2⟩) = some tx.ethernet.dst ∧
        (si.arpTable.table.lookup (gw.getD ⟨10, 0, 0, 2⟩) = some tx.ethernet.dst ∧ si' = si ∨
          si.arpTable.table.lookup (gw.getD ⟨10, 0, 0, 2⟩) = none ∧ tx.ethernet.dst = (MacAddr.new 0 0x11 0x22 0x33 0x44 0x55) ∧
          si'.data.barrier.sent = si.data.barrier.sent ++
            [⟨interface.mac, MacAddr.new 0xff 0xff 0xff 0xff 0xff 0xff,
              .arpRequest tx.src (gw.getD ⟨10, 0, 0, 2⟩)⟩]) ∧
        tx.mtu = si.mtu) :=
  have hnamed : ∀ i si, eth0Stack.interfaces.lookup i = some si → si.interface = i :=
    (addIpv4_wf (addInterface_wf new_wf _) _ _).interface_eq
  ⟨hnamed, ⟨_, rfl⟩, ipv4Tx_spec hnamed ⟨10, 0, 0, 2⟩ (some (.ok ())) (MacAddr.new 0 0x11 0x22 0x33 0x44 0x55)⟩

end NetworkStack

end Rips
