import Rips.Interface

/-!
# Invalidation by the barrier, over every run

Application threads make handles (`StackInterfaceData::tx`, reached through `ethernet_tx` and
the transmitters built on it) and send on them; the worker applies ARP updates, taking the
table's lock for the insert and then the barrier's lock for `inc`; the application changes the
MTU and drops the interface.  Each lock-protected step is one event here, and a run is any
sequence of them.  Events that the code cannot let follow a drop only add runs.

Alongside the code's state the run keeps a ghost count of the `inc` calls so far, and every
held handle the count at its making; no code reads them.  The result: a send reaches the
datalink exactly when the number of `inc` calls since its handle was made is a multiple of
`2^64`, and otherwise fails with `InvalidTx` with nothing sent.
-/

namespace Rips

/-- Where the worker stands in `update_arp`: an insert that returned `true` has yet to take the
barrier's lock for `inc`. -/
inductive WorkerPc where
  | idle
  | incPending
  deriving DecidableEq, Repr

/-- A handle held by application code, with the ghost count of `inc` calls at its making. -/
structure HeldTx where
  ethernet : EthernetTxImpl TxImpl
  incsAtCreation : Nat
  deriving DecidableEq, Repr

/-- One lock-protected step of some thread. -/
inductive InterfaceEvent where
  /-- `StackInterfaceData::tx` for an Ethernet transmitter to `dst`. -/
  | tx (dst : MacAddr)
  /-- `TxImpl::send` on the `handle`-th handle made; the datalink answers `answer`. -/
  | send (handle : Nat) (payload : Transmission) (answer : Option (Except IoError Unit))
  /-- The worker's `arp_table.insert` for `UpdateArpTable(ip, mac)`. -/
  | updateArpTable (ip : Ipv4Addr) (mac : MacAddr)
  /-- The worker's `inc` after an insert that returned `true`. -/
  | arpInc
  | setMtu (mtu : Nat)
  | drop

structure InterfaceRun where
  iface : StackInterface
  worker : WorkerPc
  handles : List HeldTx
  incs : Nat

namespace InterfaceRun

def start (iface : StackInterface) : InterfaceRun := ⟨iface, .idle, [], 0⟩

def withBarrier (s : InterfaceRun) (barrier : TxBarrier) : StackInterface :=
  { s.iface with data := { s.iface.data with barrier := barrier } }

def step (s : InterfaceRun) : InterfaceEvent → InterfaceRun
  | .tx dst => { s with handles := s.handles ++ [⟨s.iface.ethernetTx dst, s.incs⟩] }
  | .send h payload answer =>
    match s.handles[h]? with
    | some held =>
      { s with
        iface := s.withBarrier (held.ethernet.transmit s.iface.data.barrier payload answer).1 }
    | none => s
  | .updateArpTable ip mac =>
    match s.worker with
    | .idle =>
      let r := s.iface.arpTable.insert ip mac
      { s with
        iface := { s.iface with arpTable := r.2.2 }
        worker := if r.1 then .incPending else .idle }
    | .incPending => s
  | .arpInc =>
    match s.worker with
    | .incPending =>
      { s with
        iface := s.withBarrier s.iface.data.barrier.inc
        worker := .idle
        incs := s.incs + 1 }
    | .idle => s
  | .setMtu mtu => { s with iface := s.iface.setMtu mtu, incs := s.incs + 1 }
  | .drop => { s with iface := s.iface.drop, incs := s.incs + 1 }

def run (s : InterfaceRun) (events : List InterfaceEvent) : InterfaceRun := events.foldl step s

/-! ## What one step does to the barrier -/

/-- The events that call `TxBarrier::inc`: `set_mtu`, the drop, and the worker's `inc` after an
insert that changed a binding. -/
def callsInc (s : InterfaceRun) : InterfaceEvent → Bool
  | .setMtu _ | .drop => true
  | .arpInc => s.worker == .incPending
  | _ => false

theorem step_barrier_of_callsInc {s : InterfaceRun} {e : InterfaceEvent} (h : s.callsInc e) :
    (step s e).iface.data.barrier = s.iface.data.barrier.inc ∧ (step s e).incs = s.incs + 1 := by
  cases e with
  | arpInc =>
    cases hw : s.worker
    · simp [callsInc, hw] at h
    · simp [step, hw, withBarrier]
  | setMtu | drop => exact ⟨rfl, rfl⟩
  | _ => simp [callsInc] at h

theorem step_version_of_not_callsInc {s : InterfaceRun} {e : InterfaceEvent}
    (h : s.callsInc e = false) :
    (step s e).iface.data.barrier.version = s.iface.data.barrier.version ∧
      (step s e).incs = s.incs := by
  cases e with
  | tx dst => exact ⟨rfl, rfl⟩
  | send handle payload answer =>
    simp only [step]
    split
    · exact ⟨TxImpl.send_version _ _ _ _, rfl⟩
    · exact ⟨rfl, rfl⟩
  | updateArpTable ip mac =>
    simp only [step]
    split <;> exact ⟨rfl, rfl⟩
  | arpInc =>
    cases hw : s.worker
    · simp [step, hw]
    · simp [callsInc, hw] at h
  | setMtu | drop => simp [callsInc] at h

/-- Only `tx` makes handles: a new one holds the barrier's version and the `inc` count of its
making, and the handles made before it are kept in order. -/
theorem step_handles (s : InterfaceRun) (e : InterfaceEvent) :
    ∃ made, (step s e).handles = s.handles ++ made ∧ ∀ held ∈ made,
      held.ethernet.tx.version = s.iface.data.barrier.version ∧ held.incsAtCreation = s.incs ∧
        s.callsInc e = false := by
  cases e with
  | tx dst => exact ⟨_, rfl, by simp [StackInterface.ethernetTx, callsInc]⟩
  | send _ _ _ | updateArpTable _ _ | arpInc =>
    refine ⟨[], ?_, by simp⟩
    simp only [step]
    split <;> simp
  | setMtu | drop => exact ⟨[], by simp [step], by simp⟩

/-! ## The invariant -/

/-- Every held handle's version, moved on by the `inc` calls since its making, is the
barrier's. -/
def HandlesCurrent (s : InterfaceRun) : Prop :=
  ∀ held ∈ s.handles, held.incsAtCreation ≤ s.incs ∧
    (held.ethernet.tx.version.toNat + (s.incs - held.incsAtCreation)) % 2 ^ 64 =
      s.iface.data.barrier.version.toNat

theorem start_handlesCurrent (iface : StackInterface) : (start iface).HandlesCurrent := by
  simp [HandlesCurrent, start]

theorem step_handlesCurrent {s : InterfaceRun} (hs : s.HandlesCurrent) (e : InterfaceEvent) :
    (step s e).HandlesCurrent := by
  obtain ⟨made, hhandles, hmade⟩ := step_handles s e
  intro held hheld
  rw [hhandles, List.mem_append] at hheld
  rcases hheld with hold | hnew
  · obtain ⟨hle, hmod⟩ := hs held hold
    cases hinc : s.callsInc e
    · obtain ⟨hversion, hincs⟩ := step_version_of_not_callsInc hinc
      rw [hversion, hincs]
      exact ⟨hle, hmod⟩
    · obtain ⟨hbarrier, hincs⟩ := step_barrier_of_callsInc hinc
      rw [hbarrier, hincs, TxBarrier.inc_version_toNat, ← hmod]
      omega
  · obtain ⟨hversion, hcreated, hinc⟩ := hmade held hnew
    obtain ⟨hversion', hincs⟩ := step_version_of_not_callsInc hinc
    rw [hversion', hincs, hcreated, hversion, Nat.sub_self, Nat.add_zero]
    exact ⟨le_refl _, Nat.mod_eq_of_lt (UInt64.toNat_lt_size _)⟩

theorem run_handlesCurrent {s : InterfaceRun} (hs : s.HandlesCurrent) :
    ∀ events, (run s events).HandlesCurrent
  | [] => hs
  | e :: events => run_handlesCurrent (step_handlesCurrent hs e) events

/-! ## Handles and `inc` calls along a run -/

@[simp] theorem run_cons (s : InterfaceRun) (e : InterfaceEvent) (events : List InterfaceEvent) :
    run s (e :: events) = run (step s e) events := rfl

theorem run_singleton (s : InterfaceRun) (e : InterfaceEvent) : run s [e] = step s e := rfl

theorem run_append (s : InterfaceRun) (pre post : List InterfaceEvent) :
    run s (pre ++ post) = run (run s pre) post :=
  List.foldl_append _ _ _ _

theorem step_incs_le (s : InterfaceRun) (e : InterfaceEvent) : s.incs ≤ (step s e).incs := by
  cases hinc : s.callsInc e
  · exact (step_version_of_not_callsInc hinc).2.ge
  · exact (step_barrier_of_callsInc hinc).2 ▸ Nat.le_succ _

theorem run_incs_le (s : InterfaceRun) : ∀ events, s.incs ≤ (run s events).incs
  | [] => le_refl _
  | e :: events => (step_incs_le s e).trans (run_incs_le (step s e) events)

theorem run_keeps_handles (s : InterfaceRun) : ∀ events, s.handles <+: (run s events).handles
  | [] => List.prefix_refl _
  | e :: events => by
    obtain ⟨made, hhandles, -⟩ := step_handles s e
    exact (hhandles ▸ List.prefix_append _ _).trans (run_keeps_handles (step s e) events)

theorem run_handles_mem {s : InterfaceRun} {held : HeldTx} (hheld : held ∈ s.handles)
    (events : List InterfaceEvent) : held ∈ (run s events).handles :=
  (run_keeps_handles s events).subset hheld

theorem run_handles_getElem? {s : InterfaceRun} {index : Nat} {held : HeldTx}
    (hheld : s.handles[index]? = some held) (events : List InterfaceEvent) :
    (run s events).handles[index]? = some held := by
  obtain ⟨made, hmade⟩ := run_keeps_handles s events
  rw [← hmade, List.getElem?_append_left (List.getElem?_eq_some_iff.mp hheld).1, hheld]

/-- The worker's insert of a binding that changes leaves it owing the `inc`; until its next
`arpInc` every other event leaves it so. -/
theorem step_updateArpTable_incPending {s : InterfaceRun} (hidle : s.worker = .idle)
    {ip : Ipv4Addr} {mac : MacAddr} (hchange : s.iface.arpTable.table.lookup ip ≠ some mac) :
    (step s (.updateArpTable ip mac)).worker = .incPending := by
  have hchanged : (s.iface.arpTable.insert ip mac).1 = true :=
    (ArpTable.insert_changed _ _ _).mpr hchange
  simp [step, hidle, hchanged]

theorem callsInc_arpInc_of_incPending {s : InterfaceRun} (hpending : s.worker = .incPending) :
    s.callsInc .arpInc := by
  simp [callsInc, hpending]

/-! ## Sends -/

/-- A send on a held handle: the datalink gets it exactly when the `inc` calls since the
handle's making are a multiple of `2^64`; otherwise `InvalidTx` and nothing is sent. -/
theorem transmit_of_handlesCurrent {s : InterfaceRun} (hs : s.HandlesCurrent) {held : HeldTx}
    (hheld : held ∈ s.handles) (payload : Transmission) (answer : Option (Except IoError Unit)) :
    held.ethernet.transmit s.iface.data.barrier payload answer =
      if (s.incs - held.incsAtCreation) % 2 ^ 64 = 0 then
        s.iface.data.barrier.send ⟨held.ethernet.src, held.ethernet.dst, payload⟩ answer
      else (s.iface.data.barrier, .error .invalidTx) := by
  obtain ⟨-, hmod⟩ := hs held hheld
  have hlt := held.ethernet.tx.version.toNat_lt_size
  have hlt' := s.iface.data.barrier.version.toNat_lt_size
  have hiff : held.ethernet.tx.version = s.iface.data.barrier.version ↔
      (s.incs - held.incsAtCreation) % 2 ^ 64 = 0 := by
    rw [version_eq_iff]
    simp only [UInt64.size] at hlt hlt'
    omega
  by_cases hzero : (s.incs - held.incsAtCreation) % 2 ^ 64 = 0
  · rw [if_pos hzero, EthernetTxImpl.transmit, TxImpl.send_of_eq (hiff.mpr hzero)]
  · rw [if_neg hzero, EthernetTxImpl.transmit, TxImpl.send_of_ne (mt hiff.mp hzero)]

/-- A handle made before some `inc` fails, while fewer than `2^64` calls have followed its
making. -/
theorem transmit_of_stale {s : InterfaceRun} (hs : s.HandlesCurrent) {held : HeldTx}
    (hheld : held ∈ s.handles) (hstale : held.incsAtCreation < s.incs)
    (hwrap : s.incs - held.incsAtCreation < 2 ^ 64) (payload : Transmission)
    (answer : Option (Except IoError Unit)) :
    held.ethernet.transmit s.iface.data.barrier payload answer =
      (s.iface.data.barrier, .error .invalidTx) := by
  rw [transmit_of_handlesCurrent hs hheld, if_neg]
  omega

/-- Every run from an interface: a send on a handle reaches the datalink exactly when the
`inc` calls since the handle's making are a multiple of `2^64`, and otherwise fails with
`InvalidTx` with the barrier untouched; the events of `callsInc` each call `inc` once, a
binding-changing insert leaves the worker owing its `arpInc`; so a handle made before such an
event fails every later send, while fewer than `2^64` calls have followed its making. -/
theorem barrier_invalidation (iface : StackInterface) (pre : List InterfaceEvent)
    (e : InterfaceEvent) (post : List InterfaceEvent) :
    (∀ held ∈ (run (start iface) pre).handles, ∀ payload answer,
      held.ethernet.transmit (run (start iface) pre).iface.data.barrier payload answer =
        if ((run (start iface) pre).incs - held.incsAtCreation) % 2 ^ 64 = 0 then
          (run (start iface) pre).iface.data.barrier.send
            ⟨held.ethernet.src, held.ethernet.dst, payload⟩ answer
        else ((run (start iface) pre).iface.data.barrier, .error .invalidTx)) ∧
    ((run (start iface) pre).callsInc e →
      (step (run (start iface) pre) e).iface.data.barrier =
        (run (start iface) pre).iface.data.barrier.inc) ∧
    (∀ ip mac, (run (start iface) pre).worker = .idle →
      (run (start iface) pre).iface.arpTable.table.lookup ip ≠ some mac →
        (step (run (start iface) pre) (.updateArpTable ip mac)).callsInc .arpInc) ∧
    ((run (start iface) pre).callsInc e → ∀ held ∈ (run (start iface) pre).handles,
      (run (start iface) (pre ++ e :: post)).incs - held.incsAtCreation < 2 ^ 64 →
        held ∈ (run (start iface) (pre ++ e :: post)).handles ∧ ∀ payload answer,
          held.ethernet.transmit (run (start iface) (pre ++ e :: post)).iface.data.barrier
              payload answer =
            ((run (start iface) (pre ++ e :: post)).iface.data.barrier, .error .invalidTx)) := by
  have hcurrent := run_handlesCurrent (start_handlesCurrent iface)
  refine ⟨fun held hheld => transmit_of_handlesCurrent (hcurrent pre) hheld,
    fun hinc => (step_barrier_of_callsInc hinc).1,
    fun ip mac hidle hchange =>
      callsInc_arpInc_of_incPending (step_updateArpTable_incPending hidle hchange),
    fun hinc held hheld hwrap => ?_⟩
  rw [run_append, run_cons] at hwrap ⊢
  have hcreated := (hcurrent pre held hheld).1
  have hstep := (step_barrier_of_callsInc hinc).2
  have hlater := run_incs_le (step (run (start iface) pre) e) post
  have hkept := run_handles_mem (run_handles_mem hheld [e]) post
  exact ⟨hkept, transmit_of_stale (run_handlesCurrent (step_handlesCurrent (hcurrent pre) e) post)
    hkept (by omega) hwrap⟩

end InterfaceRun

end Rips
