import Rips.Race

/-!
# No lost wake-up

An `ipv4_tx` call for a hop the ARP table does not know queues a waiter under the hop, sends the
ARP request and blocks in `rx.recv()` until an insert for the hop sends its waiters a MAC.  The
race model lets the worker's inserts, the receive thread and the call run in any order.  Along
every schedule the call's waiter is never lost: while the call holds it, the waiter is queued
under the hop or the mailbox has a MAC for it.  And from a table with no bound address that has
waiters, no address ever becomes both, since `get` queues a waiter only for an unbound address
and `insert` drains the address it binds.  So a call still waiting once its hop is bound is
woken by its next `recv`.  The MAC it is woken with is one an insert sent its waiter, and that
insert was for the hop: the waiter is the table's fresh one, queued under no other address, so
the MAC came in an update for the hop that the receive thread queued.
-/

namespace Rips

namespace ArpTable

/-- No bound address has waiters queued. -/
def Settled (self : ArpTable) : Prop :=
  ∀ ip, ip ∈ self.listeners → self.table.lookup ip = none

theorem new_settled : new.Settled := by simp [Settled, new]

/-- No queue holds the next fresh waiter. -/
def FreshWaiter (self : ArpTable) : Prop :=
  ∀ ip, self.nextWaiter ∉ (self.listeners.lookup ip).getD []

theorem new_freshWaiter : new.FreshWaiter := by simp [FreshWaiter, new]

theorem get_settled {self : ArpTable} (h : self.Settled) (ip : Ipv4Addr) :
    (self.get ip).2.Settled := by
  cases hmac : self.table.lookup ip with
  | some mac => rwa [get_of_lookup_some hmac]
  | none =>
    rw [get_of_lookup_none hmac]
    intro ip' hip'
    rcases (AList.mem_insert _).mp hip' with rfl | hip'
    · exact hmac
    · exact h ip' hip'

theorem insert_settled {self : ArpTable} (h : self.Settled) (ip : Ipv4Addr) (mac : MacAddr) :
    (self.insert ip mac).2.2.Settled := by
  intro ip' hip'
  obtain ⟨hne, hip'⟩ := AList.mem_erase.mp hip'
  exact (AList.lookup_insert_ne hne).trans (h ip' hip')

theorem get_listeners_subset (self : ArpTable) (ip ip' : Ipv4Addr) :
    ((self.listeners.lookup ip').getD []) ⊆ (((self.get ip).2.listeners.lookup ip').getD []) := by
  cases hmac : self.table.lookup ip with
  | some mac =>
    rw [get_of_lookup_some hmac]
    exact List.Subset.refl _
  | none =>
    rw [get_of_lookup_none hmac]
    by_cases hip : ip' = ip
    · subst hip
      simp
    · simp [AList.lookup_insert_ne hip]

end ArpTable

/-! ## What the interface's events do to the table -/

namespace InterfaceRun

@[simp] theorem run_nil (s : InterfaceRun) : s.run [] = s := rfl

@[simp] theorem step_tx_iface (s : InterfaceRun) (dst : MacAddr) :
    (s.step (.tx dst)).iface = s.iface := rfl

@[simp] theorem step_send_arpTable (s : InterfaceRun) (handle : Nat) (payload : Transmission)
    (answer : Option (Except IoError Unit)) :
    (s.step (.send handle payload answer)).iface.arpTable = s.iface.arpTable := by
  simp only [step]
  split <;> rfl

@[simp] theorem step_tx_worker (s : InterfaceRun) (dst : MacAddr) :
    (s.step (.tx dst)).worker = s.worker := rfl

@[simp] theorem step_send_worker (s : InterfaceRun) (handle : Nat) (payload : Transmission)
    (answer : Option (Except IoError Unit)) :
    (s.step (.send handle payload answer)).worker = s.worker := by
  simp only [step]
  split <;> rfl

@[simp] theorem step_arpInc_arpTable (s : InterfaceRun) :
    (s.step .arpInc).iface.arpTable = s.iface.arpTable := by
  simp only [step]
  split <;> rfl

theorem step_settled {s : InterfaceRun} (h : s.iface.arpTable.Settled) (e : InterfaceEvent) :
    (s.step e).iface.arpTable.Settled := by
  cases e with
  | updateArpTable ip mac =>
    cases hw : s.worker
    · simpa [step, hw] using ArpTable.insert_settled h ip mac
    · simpa [step, hw] using h
  | send handle payload answer => simpa using h
  | arpInc => simpa using h
  | tx | setMtu | drop => exact h

theorem run_settled {s : InterfaceRun} (h : s.iface.arpTable.Settled) :
    ∀ events, (s.run events).iface.arpTable.Settled
  | [] => h
  | e :: events => run_settled (step_settled h e) events

end InterfaceRun

def AppPc.waiter : AppPc → Option Nat
  | .request w | .waiting w => some w
  | _ => none

/-! ## The call's waiter along a schedule -/

namespace RaceState

theorem step_call (s : RaceState) (e : RaceEvent) : (step s e).call = s.call := by
  cases e <;> simp only [step] <;> repeat' split
  all_goals rfl

/-- The waiter `w` can still be woken: it is queued under the call's hop, or an insert has sent
it a MAC. -/
def CanWake (s : RaceState) (w : Nat) : Prop :=
  w ∈ (s.shared.iface.arpTable.listeners.lookup s.call.hop).getD [] ∨
    ∃ mac, (w, mac) ∈ s.mailbox

/-- The call's waiter, while it holds one, can still be woken. -/
def Wakeable (s : RaceState) : Prop :=
  ∀ w, s.app.waiter = some w → s.CanWake w

/-- No step loses a waiter: an insert for the hop moves its waiters to the mailbox. -/
theorem step_canWake {s : RaceState} {w : Nat} (h : s.CanWake w) (e : RaceEvent) :
    (step s e).CanWake w := by
  unfold CanWake at h ⊢
  rw [step_call]
  cases e with
  | get =>
    cases happ : s.app
    case lookup =>
      have hsub := ArpTable.get_listeners_subset s.shared.iface.arpTable s.call.hop s.call.hop
      cases hget : s.shared.iface.arpTable.get s.call.hop with
      | mk r table =>
        rw [hget] at hsub
        cases r <;> simpa only [step, happ, hget, withArpTable] using h.imp_left (@hsub w)
    all_goals simpa only [step, happ] using h
  | request answer =>
    cases happ : s.app
    case request waiter =>
      cases hanswer : TxBarrier.ioResultToTxResult answer <;>
        simpa only [step, happ, hanswer, InterfaceRun.run_cons, InterfaceRun.run_nil,
          InterfaceRun.step_send_arpTable, InterfaceRun.step_tx_iface] using h
    all_goals simpa only [step, happ] using h
  | insert =>
    cases hw : s.shared.worker <;> cases hq : s.queue
    case idle.cons head rest =>
      obtain ⟨ip, mac⟩ := head
      simp only [step, hw, hq, InterfaceRun.step, ArpTable.insert, List.mem_append]
      by_cases hip : ip = s.call.hop
      · subst hip
        rcases h with hwait | ⟨mac', hmail⟩
        · exact .inr ⟨mac, .inr (List.mem_map_of_mem _ hwait)⟩
        · exact .inr ⟨mac', .inl hmail⟩
      · rw [AList.lookup_erase_ne (Ne.symm hip)]
        exact h.imp_right fun ⟨mac', hmail⟩ => ⟨mac', .inl hmail⟩
    all_goals simpa only [step, hw, hq] using h
  | recv =>
    cases happ : s.app
    case waiting waiter =>
      cases hm : s.mailbox.lookup waiter <;> simpa only [step, happ, hm] using h
    all_goals simpa only [step, happ] using h
  | ethernetTx | send _ =>
    cases happ : s.app <;>
      simpa only [step, happ, InterfaceRun.step_tx_iface, InterfaceRun.step_send_arpTable] using h
  | arpReply ip mac => exact h
  | inc =>
    cases hw : s.shared.worker <;> simpa only [step, hw, InterfaceRun.step_arpInc_arpTable] using h

/-- A step hands the call a waiter only at the lookup, which queues it under the hop. -/
theorem step_waiter {s : RaceState} {e : RaceEvent} {w : Nat}
    (h : (step s e).app.waiter = some w) : s.app.waiter = some w ∨ (step s e).CanWake w := by
  cases e with
  | get =>
    cases happ : s.app
    case lookup =>
      refine .inr ?_
      cases hmac : s.shared.iface.arpTable.table.lookup s.call.hop with
      | some mac => simp [step, happ, ArpTable.get_of_lookup_some hmac, AppPc.waiter] at h
      | none =>
        simp only [step, happ, ArpTable.get_of_lookup_none hmac, AppPc.waiter,
          Option.some.injEq] at h
        subst h
        rw [CanWake, step_call]
        simp [step, happ, ArpTable.get_of_lookup_none hmac, withArpTable]
    all_goals simp_all [step]
  | _ =>
    refine .inl ?_
    simp only [step] at h
    (repeat' split at h) <;> simp_all only [AppPc.waiter, reduceCtorEq]

theorem step_wakeable {s : RaceState} (hs : s.Wakeable) (e : RaceEvent) :
    (step s e).Wakeable :=
  fun w hw => (step_waiter hw).elim (fun hold => step_canWake (hs w hold) e) id

theorem run_wakeable {s : RaceState} (hs : s.Wakeable) : ∀ events, (run s events).Wakeable
  | [] => hs
  | e :: events => run_wakeable (step_wakeable hs e) events

theorem start_wakeable (iface : StackInterface) (call : Ipv4TxCall)
    (queue : List (Ipv4Addr × MacAddr)) : (start iface call queue).Wakeable :=
  fun w h => by simp [start, AppPc.waiter] at h

theorem run_call (s : RaceState) : ∀ events, (run s events).call = s.call
  | [] => rfl
  | e :: events => (run_call (step s e) events).trans (step_call s e)

/-! ## Bound addresses have no waiters -/

theorem step_settled {s : RaceState} (h : s.shared.iface.arpTable.Settled) (e : RaceEvent) :
    (step s e).shared.iface.arpTable.Settled := by
  cases e with
  | get =>
    cases happ : s.app
    case lookup =>
      have hget := ArpTable.get_settled h s.call.hop
      cases hres : s.shared.iface.arpTable.get s.call.hop with
      | mk r table =>
        rw [hres] at hget
        cases r <;> simpa [step, happ, hres, withArpTable] using hget
    all_goals simpa [step, happ] using h
  | request answer =>
    cases happ : s.app
    case request waiter =>
      have hrun := InterfaceRun.run_settled h [.tx (MacAddr.new 0xff 0xff 0xff 0xff 0xff 0xff),
        .send s.shared.handles.length (.arpRequest s.call.src s.call.hop) answer]
      cases hanswer : TxBarrier.ioResultToTxResult answer <;> simpa [step, happ, hanswer] using hrun
    all_goals simpa [step, happ] using h
  | recv =>
    cases happ : s.app
    case waiting waiter => cases hm : s.mailbox.lookup waiter <;> simpa [step, happ, hm] using h
    all_goals simpa [step, happ] using h
  | ethernetTx | send _ => cases happ : s.app <;> simpa [step, happ] using h
  | arpReply ip mac => simpa [step] using h
  | insert =>
    cases hw : s.shared.worker <;> cases hq : s.queue
    case idle.cons head rest =>
      simpa [step, hw, hq] using InterfaceRun.step_settled h (.updateArpTable head.1 head.2)
    all_goals simpa [step, hw, hq] using h
  | inc =>
    cases hw : s.shared.worker <;> simpa [step, hw] using InterfaceRun.step_settled h .arpInc

theorem run_settled {s : RaceState} (h : s.shared.iface.arpTable.Settled) :
    ∀ events, (run s events).shared.iface.arpTable.Settled
  | [] => h
  | e :: events => run_settled (step_settled h e) events

/-! ## The MAC the call is woken with -/

section Provenance

variable {good : Ipv4Addr → MacAddr → Prop} {w₀ : Nat}

variable (good w₀) in
/-- The call's waiter is `w₀`, the table's fresh waiter while the lookup is still to come, and
is queued under no address but the hop; every update the worker has still to take is one that
`good` allows, and so is every binding of the hop whose MAC an insert sent to `w₀`. -/
structure MailFrom (s : RaceState) : Prop where
  fresh : s.app = .lookup → s.shared.iface.arpTable.nextWaiter = w₀
  waiter : ∀ w, s.app.waiter = some w → w = w₀
  queued : ∀ ip, w₀ ∈ (s.shared.iface.arpTable.listeners.lookup ip).getD [] → ip = s.call.hop
  queue : ∀ b ∈ s.queue, good b.1 b.2
  mailbox : ∀ mac, (w₀, mac) ∈ s.mailbox → good s.call.hop mac

theorem start_mailFrom {iface : StackInterface} (hfresh : iface.arpTable.FreshWaiter)
    (call : Ipv4TxCall) {queue : List (Ipv4Addr × MacAddr)} (hqueue : ∀ b ∈ queue, good b.1 b.2) :
    (start iface call queue).MailFrom good iface.arpTable.nextWaiter where
  fresh _ := rfl
  waiter := by simp [start, AppPc.waiter]
  queued ip h := absurd h (hfresh ip)
  queue := hqueue
  mailbox := by simp [start]

theorem MailFrom.of_frame {s s' : RaceState} (h : s.MailFrom good w₀) (hcall : s'.call = s.call)
    (hqueue : s'.queue = s.queue)
    (htable : s'.shared.iface.arpTable = s.shared.iface.arpTable) (hmailbox : s'.mailbox = s.mailbox)
    (hlookup : s'.app = .lookup → s.app = .lookup)
    (hwaiter : ∀ w, s'.app.waiter = some w → s.app.waiter = some w) : s'.MailFrom good w₀ where
  fresh happ := htable ▸ h.fresh (hlookup happ)
  waiter w hw := h.waiter w (hwaiter w hw)
  queued := htable ▸ hcall ▸ h.queued
  queue := hqueue ▸ h.queue
  mailbox := hmailbox ▸ hcall ▸ h.mailbox

/-- The lookup hands the call the fresh waiter and queues it under the hop; an insert sends it
the MAC of an update for the hop, since that is the only queue that holds it. -/
theorem step_mailFrom {s : RaceState} (h : s.MailFrom good w₀) (e : RaceEvent)
    (hreply : ∀ ip mac, e = .arpReply ip mac → good ip mac) : (step s e).MailFrom good w₀ := by
  cases e with
  | get =>
    cases happ : s.app
    case lookup =>
      cases hmac : s.shared.iface.arpTable.table.lookup s.call.hop with
      | some mac =>
        simp only [step, happ, ArpTable.get_of_lookup_some hmac]
        exact ⟨(fun h => by cases h), (fun w hw => by cases hw), h.queued, h.queue, h.mailbox⟩
      | none =>
        have hfresh := h.fresh happ
        simp only [step, happ, ArpTable.get_of_lookup_none hmac]
        refine ⟨(fun h => by cases h), fun w hw => ?_, fun ip hip => ?_, h.queue, h.mailbox⟩
        · simp only [AppPc.waiter, Option.some.injEq] at hw
          exact hw ▸ hfresh
        · by_cases hhop : ip = s.call.hop
          · exact hhop
          · simp only [withArpTable, AList.lookup_insert_ne hhop] at hip
            exact h.queued ip hip
    all_goals simpa only [step, happ] using h
  | request answer =>
    cases happ : s.app
    case request waiter =>
      have htable : (s.shared.run [.tx (MacAddr.new 0xff 0xff 0xff 0xff 0xff 0xff),
          .send s.shared.handles.length (.arpRequest s.call.src s.call.hop) answer]
          ).iface.arpTable = s.shared.iface.arpTable := by
        simp only [InterfaceRun.run_cons, InterfaceRun.run_nil, InterfaceRun.step_send_arpTable,
          InterfaceRun.step_tx_iface]
      cases hanswer : TxBarrier.ioResultToTxResult answer <;> simp only [step, happ, hanswer] <;>
        refine h.of_frame rfl rfl htable rfl (fun h => by cases h) fun w hw => ?_
      · cases hw
      · rw [happ]
        exact hw
    all_goals simpa only [step, happ] using h
  | recv =>
    cases happ : s.app
    case waiting waiter =>
      cases hm : s.mailbox.lookup waiter with
      | none => simpa only [step, happ, hm] using h
      | some mac =>
        simp only [step, happ, hm]
        exact h.of_frame rfl rfl rfl rfl (fun h => by cases h) fun w hw => by cases hw
    all_goals simpa only [step, happ] using h
  | ethernetTx =>
    cases happ : s.app
    case resolved mac =>
      simp only [step, happ]
      exact h.of_frame rfl rfl (by rw [InterfaceRun.step_tx_iface]) rfl (fun h => by cases h)
        fun w hw => by cases hw
    all_goals simpa only [step, happ] using h
  | send answer =>
    cases happ : s.app
    case returned index tx =>
      simp only [step, happ]
      exact h.of_frame rfl rfl (by rw [InterfaceRun.step_send_arpTable]) rfl
        (fun h => by cases h) fun w hw => by cases hw
    all_goals simpa only [step, happ] using h
  | arpReply ip mac =>
    refine ⟨h.fresh, h.waiter, h.queued, fun b hb => ?_, h.mailbox⟩
    rcases List.mem_append.mp hb with hb | hb
    · exact h.queue b hb
    · rw [List.mem_singleton.mp hb]
      exact hreply ip mac rfl
  | insert =>
    cases hw : s.shared.worker <;> cases hq : s.queue
    case idle.cons head rest =>
      obtain ⟨ip, mac⟩ := head
      have hgood : good ip mac := h.queue _ (hq ▸ List.mem_cons_self _ _)
      simp only [step, hw, hq, InterfaceRun.step]
      refine ⟨h.fresh, h.waiter, fun ip' hip' => ?_, fun b hb => h.queue b (hq ▸ .tail _ hb),
        fun mac' hmail => ?_⟩
      · by_cases hip : ip' = ip
        · subst hip
          simp [ArpTable.insert] at hip'
        · simp only [ArpTable.insert, AList.lookup_erase_ne hip] at hip'
          exact h.queued ip' hip'
      · rcases List.mem_append.mp hmail with hmail | hmail
        · exact h.mailbox mac' hmail
        · obtain ⟨w, hwait, hpair⟩ := List.mem_map.mp hmail
          obtain ⟨rfl, rfl⟩ := Prod.mk.inj hpair
          exact h.queued ip hwait ▸ hgood
    all_goals simpa only [step, hw, hq] using h
  | inc =>
    cases hw : s.shared.worker
    · simpa only [step, hw] using h
    · simp only [step, hw]
      exact h.of_frame rfl rfl (by rw [InterfaceRun.step_arpInc_arpTable]) rfl id fun _ => id

theorem run_mailFrom {s : RaceState} (h : s.MailFrom good w₀) :
    ∀ events : List RaceEvent, (∀ e ∈ events, ∀ ip mac, e = .arpReply ip mac → good ip mac) →
      (run s events).MailFrom good w₀
  | [], _ => h
  | e :: events, hreply =>
    run_mailFrom (step_mailFrom h e (hreply e (List.mem_cons_self _ _))) events
      fun e' he' => hreply e' (List.mem_cons_of_mem _ he')

end Provenance

/-! ## The wake-up -/

/-- From an interface whose table has no bound address with waiters and no queued fresh waiter,
along every schedule: a call still blocked in `rx.recv()` once its hop is bound is woken by its
next `recv`, with a MAC an insert sent its waiter, and that MAC came in an update for the hop,
queued at the start or by the receive thread along the schedule. -/
theorem recv_resolves_of_bound {iface : StackInterface} (hsettled : iface.arpTable.Settled)
    (hfresh : iface.arpTable.FreshWaiter) (call : Ipv4TxCall) (queue : List (Ipv4Addr × MacAddr))
    (events : List RaceEvent) {w : Nat}
    (hwaiting : (run (start iface call queue) events).app = .waiting w) {mac : MacAddr}
    (hbound : (run (start iface call queue) events).shared.iface.arpTable.table.lookup call.hop =
      some mac) :
    ∃ mac', (step (run (start iface call queue) events) .recv).app = .resolved mac' ∧
      (w, mac') ∈ (run (start iface call queue) events).mailbox ∧
      ((call.hop, mac') ∈ queue ∨ .arpReply call.hop mac' ∈ events) := by
  have hcall : (run (start iface call queue) events).call = call :=
    run_call (start iface call queue) events
  have hwake := run_wakeable (start_wakeable iface call queue) events w
    (by simp [hwaiting, AppPc.waiter])
  have hfree : call.hop ∉ (run (start iface call queue) events).shared.iface.arpTable.listeners :=
    fun hmem => by
      simpa [hbound] using run_settled (s := start iface call queue) hsettled events call.hop hmem
  have hstart : (start iface call queue).MailFrom
      (fun ip mac => (ip, mac) ∈ queue ∨ .arpReply ip mac ∈ events) iface.arpTable.nextWaiter :=
    start_mailFrom hfresh call fun b hb => .inl hb
  have hprov := run_mailFrom hstart events fun e he ip mac heq => .inr (heq ▸ he)
  rcases hwake with hqueued | ⟨sent, hsent⟩
  · rw [hcall, AList.lookup_eq_none.mpr hfree] at hqueued
    cases hqueued
  · obtain ⟨mac', hmac'⟩ := Option.isSome_iff_exists.mp
      (List.lookup_isSome_iff.mpr ⟨_, hsent, beq_self_eq_true w⟩)
    obtain ⟨l₁, l₂, hl, -⟩ := List.lookup_eq_some_iff.mp hmac'
    have hmem : (w, mac') ∈ (run (start iface call queue) events).mailbox :=
      hl ▸ List.mem_append_right _ (List.mem_cons_self _ _)
    have hw : w = iface.arpTable.nextWaiter := hprov.waiter w (by simp [hwaiting, AppPc.waiter])
    exact ⟨mac', by simp [step, hwaiting, hmac'], hmem, hcall ▸ hprov.mailbox mac' (hw ▸ hmem)⟩

/-- `eth0` resolving `10.0.0.2`: the request goes out, and the reply is queued and inserted
while the call waits. -/
def eth0ReplyWhileWaiting : RaceState :=
  run (start eth0 ⟨⟨10, 0, 0, 2⟩, ⟨10, 0, 0, 2⟩, ⟨10, 0, 0, 1⟩⟩ [])
    [.get, .request (some (.ok ())),
      .arpReply ⟨10, 0, 0, 2⟩ (MacAddr.new 0 0x11 0x22 0x33 0x44 0x55), .insert]

theorem recv_resolves_of_bound_eth0 :
    eth0.arpTable.Settled ∧ eth0.arpTable.FreshWaiter ∧ eth0ReplyWhileWaiting.app = .waiting 0 ∧
    eth0ReplyWhileWaiting.shared.iface.arpTable.table.lookup ⟨10, 0, 0, 2⟩ =
      some (MacAddr.new 0 0x11 0x22 0x33 0x44 0x55) ∧
    ∃ mac', (step eth0ReplyWhileWaiting .recv).app = .resolved mac' ∧
      (0, mac') ∈ eth0ReplyWhileWaiting.mailbox ∧
      ((⟨10, 0, 0, 2⟩, mac') ∈ ([] : List (Ipv4Addr × MacAddr)) ∨
        RaceEvent.arpReply ⟨10, 0, 0, 2⟩ mac' ∈
          [.get, .request (some (.ok ())),
            .arpReply ⟨10, 0, 0, 2⟩ (MacAddr.new 0 0x11 0x22 0x33 0x44 0x55), .insert]) :=
  have hsettled : eth0.arpTable.Settled := ArpTable.new_settled
  have hfresh : eth0.arpTable.FreshWaiter := ArpTable.new_freshWaiter
  have hwaiting : eth0ReplyWhileWaiting.app = .waiting 0 := by decide
  have hbound : eth0ReplyWhileWaiting.shared.iface.arpTable.table.lookup ⟨10, 0, 0, 2⟩ =
      some (MacAddr.new 0 0x11 0x22 0x33 0x44 0x55) := by decide
  ⟨hsettled, hfresh, hwaiting, hbound, recv_resolves_of_bound hsettled hfresh _ _ _ hwaiting hbound⟩

end RaceState

end Rips
