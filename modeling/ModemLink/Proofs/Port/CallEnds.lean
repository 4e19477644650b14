import ModemLink.Proofs.Port.Overlap

/-!
# A call while it has a port

A call that has a port to itself ends when the port has an answer, at the end of its time, or when
its caller withdraws. Where nobody withdraws, it is given up at the end of its time and at no other
instant, and a port on which a call was given up is stale. Withdrawals that come after the end of
the call make no difference to it.

## Main definitions

* `Port.Lapses`: a call that is over, and that is given up only when its time is.
* `Port.Tenure`: a port that a call has to itself, or has had.

## Main results

* `Port.lapses_take`, `Port.lapses_goOn`: a call that gets the port, and one that has it.
* `Port.Concludes.keeps`: what time and withdrawals keep is true in the end.
* `Port.Concludes.tenure`: the end of a call that has a port to itself.
* `Port.Concludes.eq_of_later`: withdrawals that come too late.
-/

namespace ModemLink

/-! ### The ends of either half -/

/-- The answer to a command is known, or its time is over. -/
def Listened.Settles (deadline : Nat) (after : Intake) : Listened → Prop
  | .answer a => Port.abandons a = false
  | .expired => after.clock = deadline
  | .halted _ => True

/-- Draining is done, or has failed for a reason, or the time of the command is over. -/
def Drained.Settles (deadline : Nat) (after : Intake) : Drained → Prop
  | .lost fault => Port.isAbandonment fault = false
  | .expired => after.clock = deadline
  | _ => True

theorem Listening.not_abandons_of_hear {l : Listening} {line : List Char} {a : Answer}
    (h : (l.hear line).value = .answer a) : Port.abandons a = false := by
  rw [hear] at h
  split at h
  · cases h
  split at h
  · cases h
  split at h
  · cases h
  split at h
  · next final _ =>
    split at h
    · cases h
    · cases h
      cases final <;> rfl
  · split at h <;> cases h

namespace Intake

variable {i : Intake} {deadline quietAt : Nat}

theorem settles_listen (hclock : i.clock ≤ deadline) (horizon : Horizon) (l : Listening) :
    let heard := (i.listen deadline horizon l).value
    heard.2.Settles deadline heard.1 := by
  induction hn : i.size using Nat.strongRecOn generalizing i l with
  | _ n ih =>
    have hadmits : ∀ t, listens deadline horizon t = (decide (t ≤ deadline) && horizon.admits t) :=
      fun _ => rfl
    rw [listen_eq]
    rcases hread : i.nextLine (listens deadline horizon) with ⟨after, heard⟩
    cases heard with
    | line line =>
      have hafter := (reaches_of_read hadmits hread (by simp)).1
      simp only [Logged.value_bind]
      cases hline : (l.hear line).value with
      | answer a => exact Listening.not_abandons_of_hear hline
      | more l => exact ih after.size (hn ▸ size_nextLine_lt hread) hafter l rfl
    | ended => rfl
    | broken reason => rfl
    | silent =>
      cases hdeadline : horizon.admits deadline with
      | true => exact (reaches_of_silent hadmits hread hclock hdeadline).1
      | false => trivial

theorem settles_drain (hclock : i.clock ≤ deadline) (hquiet : i.clock ≤ quietAt)
    (horizon : Horizon) :
    let drained := (i.drain deadline horizon quietAt).value
    drained.2.Settles deadline drained.1 := by
  induction hn : i.size using Nat.strongRecOn generalizing i quietAt with
  | _ n ih =>
    have hadmits : ∀ t, drains quietAt deadline horizon t =
        (decide (t ≤ min quietAt deadline) && horizon.admits t) := by
      intro t
      simp only [drains, Nat.le_min, Bool.decide_and]
    rw [drain_eq]
    rcases hread : i.nextLine (drains quietAt deadline horizon) with ⟨after, heard⟩
    cases heard with
    | line line =>
      have hafter := (reaches_of_read hadmits hread (by simp)).1
      simp only [Logged.value_bind]
      split
      · trivial
      · exact ih after.size (hn ▸ size_nextLine_lt hread)
          (Nat.le_trans hafter (Nat.min_le_right ..)) (Nat.le_add_right ..) rfl
    | ended => rfl
    | broken reason => rfl
    | silent =>
      dsimp only
      split
      · split <;> trivial
      · next hlate =>
        split
        · next hdeadline =>
          have hmin : min quietAt deadline = deadline :=
            Nat.min_eq_right (Nat.le_of_not_le hlate)
          rw [hmin] at hadmits
          exact (reaches_of_silent hadmits hread hclock hdeadline).1
        · trivial

end Intake

namespace Port

/-! ### The end of a call -/

/-- A call that is over is on record with its outcome. If it is given up, then at the end of its
time, and the port is stale. -/
def Lapses (p : Port) (call : Call) (deadline : Nat) (after : Port) : Prop :=
  after.active = none → ∃ a, after.ended = p.ended ++ [⟨call.ticket, some a, after.clock⟩] ∧
    (abandons a = true → a = timeout call ∧ after.clock = deadline ∧ after.stale = true)

variable {p q : Port} {call : Call} {deadline : Nat} {horizon : Horizon}

theorem lapses_finish {a : Answer} (h : abandons a = true → a = timeout call ∧ p.clock = deadline) :
    p.Lapses call deadline (p.finish call a).value := by
  intro _
  rw [value_finish]
  refine ⟨a, rfl, fun ha => ⟨(h ha).1, (h ha).2, ?_⟩⟩
  rw [ha, Bool.or_true]

theorem lapses_listen (hclock : p.clock ≤ deadline) (call : Call) (l : Listening) :
    p.Lapses call deadline (p.listen horizon call deadline l).value := by
  have hsettles := Intake.settles_listen (i := p.intake) hclock horizon l
  rw [listen, Logged.value_bind]
  generalize (p.intake.listen deadline horizon l).value = came at hsettles ⊢
  obtain ⟨intake, heard⟩ := came
  cases heard with
  | answer a =>
    refine lapses_finish (p := { p with intake }) fun ha => ?_
    cases (show abandons a = false from hsettles).symm.trans ha
  | expired => exact lapses_finish (p := { p with intake }) fun _ => ⟨rfl, hsettles⟩
  | halted l => rintro ⟨⟩

theorem lapses_send (hclock : p.clock ≤ deadline) (call : Call) :
    p.Lapses call deadline (p.send horizon call deadline).value := by
  rw [send]
  split
  · exact lapses_listen (p := p.write call.command.body []) hclock call _
  · next chunks rest _ =>
    exact lapses_listen (p := { p with reactions := rest }.write call.command.body chunks) hclock
      call _
  · next reason rest _ => exact lapses_finish (p := { p with reactions := rest }) (by rintro ⟨⟩)

theorem lapses_drain (hclock : p.clock ≤ deadline) {quietAt : Nat} (hquiet : p.clock ≤ quietAt)
    (call : Call) : p.Lapses call deadline (p.drain horizon call deadline quietAt).value := by
  have hsettles := Intake.settles_drain (i := p.intake) hclock hquiet horizon
  obtain ⟨hafter, -⟩ := Intake.reaches_drain (i := p.intake) hclock hquiet horizon
  rw [drain, Logged.value_bind]
  generalize (p.intake.drain deadline horizon quietAt).value = came at hsettles hafter ⊢
  obtain ⟨intake, drained⟩ := came
  cases drained with
  | clean => exact lapses_send (p := { p with intake }) hafter call
  | lost fault =>
    refine lapses_finish (p := { p with intake }) fun ha => ?_
    cases (show isAbandonment fault = false from hsettles).symm.trans ha
  | expired => exact lapses_finish (p := { p with intake }) fun _ => ⟨rfl, hsettles⟩
  | halted quietAt => rintro ⟨⟩

/-- The time of a call is counted from the instant at which it gets the port. -/
theorem lapses_take (hasked : call.cancelled = false) :
    p.Lapses call (p.clock + call.command.timeout.micros) (p.take horizon call).value := by
  rw [take, if_neg (by simp [hasked]), Logged.value_bind]
  dsimp only
  split
  · exact lapses_drain (p := { p with stale := false }) (Nat.le_add_right ..) (Nat.le_add_right ..)
      call
  · exact lapses_send (Nat.le_add_right ..) call

theorem lapses_goOn {x : Exchange} (hx : p.active = some x) (hclock : p.clock ≤ x.limit)
    (horizon : Horizon) : p.Lapses x.call x.deadline (p.goOn horizon).value := by
  rw [goOn, hx]
  dsimp only
  rw [resume]
  rw [Exchange.limit] at hclock
  cases hstage : x.stage with
  | draining quietAt =>
    rw [hstage] at hclock
    exact lapses_drain (p := { p with active := none }) (Nat.le_trans hclock (Nat.min_le_right ..))
      (Nat.le_trans hclock (Nat.min_le_left ..)) x.call
  | listening l =>
    rw [hstage] at hclock
    exact lapses_listen (p := { p with active := none }) hclock x.call l

/-! ### Time and withdrawals -/

theorem queue_goOn (p : Port) (horizon : Horizon) : (p.goOn horizon).value.queue = p.queue := by
  have hsame : (p.goOn horizon).value = (p.goOn horizon).value.withQueue p.queue :=
    congrArg Logged.value (goOn_withQueue p.queue p horizon)
  have hqueue := congrArg Port.queue hsame
  exact hqueue

theorem queue_take (p : Port) (horizon : Horizon) (call : Call) :
    (p.take horizon call).value.queue = p.queue := by
  have hsame : (p.take horizon call).value = (p.take horizon call).value.withQueue p.queue :=
    congrArg Logged.value (take_withQueue p.queue p horizon call)
  have hqueue := congrArg Port.queue hsame
  exact hqueue

theorem value_orServe_nil (horizon : Horizon) (hqueue : p.queue = []) :
    (orServe horizon [] p).value = p := by
  rw [orServe]
  split <;> exact withQueue_eq hqueue

/-- A port that nobody waits for goes on with its exchange. -/
theorem value_advance_of_queue (hqueue : p.queue = []) (horizon : Horizon) :
    (p.advance horizon).value = (p.goOn horizon).value := by
  rw [advance_eq, Logged.value_bind, hqueue]
  exact value_orServe_nil horizon ((queue_goOn p horizon).trans hqueue)

/-- A call on a port that nobody uses gets it at once. -/
theorem Vacant.value_call (h : p.Vacant) (t : Nat) (call : Call) :
    (p.call t call).value = ((p.elapse t).take (.upTo t) call).value := by
  have hadvance : (p.advance (.upTo t)).value = p := h.advance _
  rw [value_call_of_idle (by rw [hadvance]; exact h.active), hadvance, serve_cons,
    Logged.value_bind]
  exact value_orServe_nil _ ((queue_take ..).trans h.queue)

/-- A call on a port that nobody uses comes as far as it comes at once. -/
theorem Vacant.value_call_advance (h : p.Vacant) {t : Nat} (call : Call)
    (hwithin : (Horizon.upTo t).Within horizon) :
    ((p.call t call).value.advance horizon).value = ((p.elapse t).take horizon call).value := by
  have hqueue : ((p.elapse t).take (.upTo t) call).value.queue = [] :=
    (queue_take ..).trans h.queue
  have hgoOn := congrArg Logged.value (take_goOn (p := p.elapse t) h.active hwithin call)
  rw [Logged.value_bind] at hgoOn
  rw [h.value_call, value_advance_of_queue hqueue, hgoOn]

variable {ticket : Nat} {withdrawals : List (Nat × Withdrawal)}

/-- What is kept as the call that has a port goes on, and as it is withdrawn, is true in the end. -/
theorem Concludes.keeps (Kept : Port → Prop) (queue : ∀ s, Kept s → s.queue = [])
    (holder : ∀ s x, Kept s → s.active = some x → x.call.ticket = ticket)
    (goOn : ∀ s x horizon, Kept s → s.active = some x → Kept (s.goOn horizon).value)
    (close : ∀ s x w t, Kept s → s.active = some x → Kept (Withdrawal.close w x.call (s.elapse t)))
    (h : Concludes ticket withdrawals p q) (hp : Kept p) : Kept q := by
  have hadvance (s : Port) (horizon : Horizon) (hs : Kept s) : Kept (s.advance horizon).value := by
    rw [value_advance_of_queue (queue s hs)]
    cases hactive : s.active with
    | none => rwa [goOn_of_idle hactive]
    | some x => exact goOn s x horizon hs hactive
  have happly (s : Port) (t : Nat) (w : Withdrawal) (hs : Kept s) :
      Kept ((w.move ticket).apply t s).value := by
    have hs' := hadvance s (w.horizon t) hs
    cases hactive : (s.advance (w.horizon t)).value.active with
    | none => rwa [value_apply_of_idle hactive (queue _ hs')]
    | some x =>
      have hclosed := close _ x w t hs' hactive
      obtain rfl := holder _ x hs' hactive
      rw [value_apply_of_holder hactive, queue _ hclosed, serve, Logged.value_pure,
        ← queue _ hclosed]
      exact hclosed
  induction h with
  | alone p => exact hadvance p .unbounded hp
  | withdrawn rest ih => exact ih (happly _ _ _ hp)
  | withdrawnLate rest ih => exact ih (happly _ _ _ (hadvance _ _ hp))

/-- A call has a port to itself since an instant, or has had it. If it was given up, then by its
caller or at the end of its time. -/
structure Tenure (p : Port) (call : Call) (start : Nat) : Prop where
  queue : p.queue = []
  since : start ≤ p.clock
  waits : ∀ x ∈ p.active, x.call = call ∧ x.deadline = start + call.command.timeout.micros ∧
    p.ended = [] ∧ p.clock ≤ x.limit
  ends : p.active = none → ∃ answer, p.ended = [⟨call.ticket, answer, p.clock⟩] ∧
    ∀ fault, answer = some (.error fault) → isAbandonment fault = true → p.stale = true ∧
      (fault = .canceled ∨ fault = .timedOut call.command.timeout ∧
        p.clock = start + call.command.timeout.micros)

/-- How far an exchange comes, and how it ends, says what is true of the port that it leaves. -/
theorem Tenure.of_reaches {start : Nat}
    (hreaches : p.Reaches horizon call (start + call.command.timeout.micros) q)
    (hlapses : p.Lapses call (start + call.command.timeout.micros) q) (hqueue : p.queue = [])
    (hended : p.ended = []) (hclock : start ≤ p.clock) : q.Tenure call start where
  queue := hreaches.queue_eq.trans hqueue
  since := Nat.le_trans hclock hreaches.clock_le
  waits x hx := by
    obtain ⟨hcall, hdeadline, hnone, hhalts⟩ := hreaches.waits x hx
    exact ⟨hcall, hdeadline, hnone.trans hended, hhalts.clock_le⟩
  ends hidle := by
    obtain ⟨a, hover, hgiven⟩ := hlapses hidle
    rw [hended] at hover
    refine ⟨some a, hover, ?_⟩
    rintro fault ha hfault
    obtain rfl := Option.some.inj ha
    obtain ⟨htimeout, hclock, hstale⟩ := hgiven hfault
    exact ⟨hstale, .inr ⟨Except.error.inj htimeout, hclock⟩⟩

/-- A call has the port that it has got. -/
theorem tenure_take (hasked : call.cancelled = false) (hqueue : p.queue = [])
    (hended : p.ended = []) (hadmits : horizon.admits p.clock = true) :
    (p.take horizon call).value.Tenure call p.clock :=
  .of_reaches (reaches_take hadmits call) (lapses_take hasked) hqueue hended (Nat.le_refl _)

namespace Tenure

variable {start : Nat}

theorem goOn (h : p.Tenure call start) (horizon : Horizon) :
    (p.goOn horizon).value.Tenure call start := by
  cases hactive : p.active with
  | none => rwa [goOn_of_idle hactive]
  | some x =>
    obtain ⟨hcall, hdeadline, hended, hclock⟩ := h.waits x hactive
    have hreaches := reaches_goOn hactive hclock horizon
    have hlapses := lapses_goOn hactive hclock horizon
    rw [hcall, hdeadline] at hreaches hlapses
    exact .of_reaches hreaches hlapses h.queue hended h.since

/-- The caller of a call that has the port withdraws. -/
theorem close (h : p.Tenure call start) {x : Exchange} (hx : p.active = some x) (w : Withdrawal)
    (t : Nat) : (w.close x.call (p.elapse t)).Tenure call start := by
  obtain ⟨rfl, -, hended, -⟩ := h.waits x hx
  have hclock := clock_close w x.call (p.elapse t)
  have hover := ended_close w x.call (p.elapse t)
  rw [← hclock, show (p.elapse t).ended = [] from hended] at hover
  refine ⟨(queue_close ..).trans h.queue, ?_, fun y hy => ?_, fun _ => ⟨_, hover, ?_⟩⟩
  · rw [hclock]
    exact Nat.le_trans h.since (Nat.le_max_left ..)
  · cases (active_close ..).symm.trans hy
  · intro fault hanswer _
    cases w with
    | cancel =>
      obtain rfl : .canceled = fault := Except.error.inj (Option.some.inj hanswer)
      refine ⟨?_, .inl rfl⟩
      rw [Withdrawal.close, value_finish]
      exact Bool.or_true _
    | drop => cases hanswer

/-- A call that is on record is over. -/
theorem active_eq (h : p.Tenure call start) {e : Ended} (hended : p.ended = [e]) :
    p.active = none := by
  cases hactive : p.active with
  | none => rfl
  | some x => cases (h.waits x hactive).2.2.1.symm.trans hended

end Tenure

/-- A call that has a port to itself has had it in the end. -/
theorem Concludes.tenure {start : Nat} (h : Concludes call.ticket withdrawals p q)
    (hp : p.Tenure call start) : q.Tenure call start :=
  h.keeps (fun s => s.Tenure call start) (fun _ hs => hs.queue)
    (fun _ x hs hx => congrArg Call.ticket (hs.waits x hx).1)
    (fun _ _ horizon hs _ => hs.goOn horizon) (fun _ _ w t hs hx => hs.close hx w t) hp

/-- A call that is made on a port that nobody uses has it, and its time is counted from its
start. -/
theorem Vacant.tenure_call (h : p.Vacant) (hended : p.ended = []) {t : Nat} (ht : p.clock ≤ t)
    (hasked : call.cancelled = false) :
    (p.call t call).value.Tenure call t := by
  have hclock : (p.elapse t).clock = t := Nat.max_eq_right ht
  have hadmits : (Horizon.upTo t).admits (p.elapse t).clock = true := by
    simp [Horizon.admits, hclock]
  have htenure := tenure_take (p := p.elapse t) hasked h.queue hended hadmits
  rwa [hclock, ← h.value_call] at htenure

/-! ### Withdrawals that come too late -/

/-- Where all withdrawals are later than an instant, the first one of either kind is. -/
theorem lt_of_find? {t u : Nat} {w : Withdrawal} (hlater : ∀ x ∈ withdrawals, t < x.1)
    (hfind : (withdrawals.find? (·.2 == w)).map (·.1) = some u) : t < u := by
  obtain ⟨x, hx, rfl⟩ := Option.map_eq_some_iff.mp hfind
  exact hlater x (List.mem_of_find?_eq_some hx)

theorem Vacant.eq_of_concludes (hp : p.Vacant) (h : Concludes ticket withdrawals p q) : q = p := by
  induction h with
  | alone p => exact hp.advance .unbounded
  | withdrawn rest ih =>
    rw [hp.apply] at ih
    exact ih hp
  | withdrawnLate rest ih =>
    rw [hp.advance, hp.apply] at ih
    exact ih hp

/-- A call that is over before an instant is over when the port has come to that instant. -/
theorem value_advance_of_lt {near : Horizon} (hqueue : p.queue = []) (hrests : p.Rests near)
    {t : Nat} (hlt : (p.advance .unbounded).value.clock < t)
    (hwithin : (Horizon.before t).Within horizon) :
    (p.advance horizon).value = (p.advance .unbounded).value ∧
      (p.advance .unbounded).value.Vacant := by
  have hqueue' (far : Horizon) : (p.advance far).value.queue = [] := by
    rw [value_advance_of_queue hqueue, queue_goOn, hqueue]
  have hrests' (far : Horizon) : (p.advance far).value.Rests far := by
    rw [value_advance_of_queue hqueue]
    exact hrests.goOn far
  have hvacant : (p.advance .unbounded).value.Vacant :=
    ⟨(hrests' .unbounded).active_eq, hqueue' .unbounded⟩
  have hagain : ((p.advance horizon).value.advance .unbounded).value =
      (p.advance .unbounded).value :=
    value_advance_advance (Horizon.within_unbounded _)
  refine ⟨?_, hvacant⟩
  cases hactive : (p.advance horizon).value.active with
  | none =>
    have hidle : (p.advance horizon).value.Vacant := ⟨hactive, hqueue' horizon⟩
    rw [← hagain, hidle.advance]
  | some x =>
    -- What waits up to the instant is not over before.
    have hawaits : (p.advance horizon).value.Awaits t :=
      ⟨fun hidle => (Option.some_ne_none x (hactive.symm.trans hidle)).elim,
        (hrests' horizon).mono hwithin⟩
    rw [value_advance_of_queue (hqueue' horizon)] at hagain
    have hle := hawaits.le_clock_goOn .unbounded (hagain ▸ hvacant.active)
    rw [hagain] at hle
    exact absurd hlt (Nat.not_lt.mpr hle)

/-- A call comes to its end as if nobody withdrew, if nobody does so before. -/
theorem Concludes.eq_of_later {near : Horizon} (hqueue : p.queue = []) (hrests : p.Rests near)
    (hlater : ∀ x ∈ withdrawals, (p.advance .unbounded).value.clock < x.1)
    (h : Concludes ticket withdrawals p q) : q = (p.advance .unbounded).value := by
  cases h with
  | alone => rfl
  | @withdrawn _ _ t w later rest =>
    have hwithin : (Horizon.before t).Within (w.horizon t) := by
      intro u hu
      cases w <;> simp only [Withdrawal.horizon, Horizon.admits, decide_eq_true_eq] at hu ⊢ <;>
        omega
    obtain ⟨hover, hvacant⟩ :=
      value_advance_of_lt hqueue hrests (hlater (t, w) List.mem_cons_self) hwithin
    rw [← hover] at hvacant
    rw [value_apply_of_idle hvacant.active hvacant.queue, hover] at rest
    rw [hover] at hvacant
    exact hvacant.eq_of_concludes rest
  | @withdrawnLate _ _ t w later rest =>
    have hwithin : (Horizon.before t).Within (.upTo t) := by
      intro u hu
      simp only [Horizon.admits, decide_eq_true_eq] at hu ⊢
      omega
    obtain ⟨hover, hvacant⟩ :=
      value_advance_of_lt hqueue hrests (hlater (t, w) List.mem_cons_self) hwithin
    rw [hover, hvacant.apply] at rest
    exact hvacant.eq_of_concludes rest

/-- Withdrawals that come too late leave the end of a call as it is. -/
theorem concludes_of_later {near : Horizon} (hqueue : p.queue = []) (hrests : p.Rests near)
    (hlater : ∀ x ∈ withdrawals, (p.advance .unbounded).value.clock < x.1) (ticket : Nat) :
    Concludes ticket withdrawals p (p.advance .unbounded).value := by
  let last := (p.advance .unbounded).value.clock
  have hwithin : (Horizon.before (last + 1)).Within (.upTo last) := by
    intro u hu
    simp only [Horizon.admits, decide_eq_true_eq] at hu ⊢
    exact Nat.le_of_lt_succ hu
  obtain ⟨hover, hvacant⟩ := value_advance_of_lt hqueue hrests (Nat.lt_succ_self last) hwithin
  have hconcludes : Concludes ticket withdrawals (p.advance (.upTo last)).value
      (p.advance .unbounded).value := by
    rw [hover]
    exact hvacant.concludes ticket withdrawals
  refine .of_advance (fun x hx => .inl fun u hu => ?_) hconcludes
  simp only [Horizon.admits, decide_eq_true_eq] at hu ⊢
  exact Nat.lt_of_le_of_lt hu (hlater x hx)

/-- What a call on a port that nobody uses waits for comes no earlier than the call. -/
theorem Vacant.rests_call (h : p.Vacant) {t : Nat} (ht : p.clock ≤ t) (call : Call) :
    (p.call t call).value.queue = [] ∧ (p.call t call).value.Rests (.upTo t) := by
  have hclock : (p.elapse t).clock = t := Nat.max_eq_right ht
  have hreaches : (p.elapse t).Reaches (.upTo t) call _ ((p.elapse t).take (.upTo t) call).value :=
    reaches_take (by simp [Horizon.admits, hclock]) call
  rw [← h.value_call] at hreaches
  exact ⟨hreaches.queue_eq.trans h.queue, fun x hx => (hreaches.waits x hx).2.2.2⟩

theorem Vacant.concludes_settle (h : p.Vacant) {t : Nat} (ht : p.clock ≤ t)
    (hlater : ∀ x ∈ withdrawals, (settle [(t, .call call)] p).clock < x.1) :
    Concludes call.ticket withdrawals (p.call t call).value (settle [(t, .call call)] p) := by
  obtain ⟨hqueue, hrests⟩ := h.rests_call ht call
  exact concludes_of_later hqueue hrests hlater call.ticket

/-- A call on a port that nobody uses comes to its end as if nobody withdrew, if nobody does so
before. -/
theorem Vacant.eq_settle (h : p.Vacant) {t : Nat} (ht : p.clock ≤ t)
    (hlater : ∀ x ∈ withdrawals, (settle [(t, .call call)] p).clock < x.1)
    (hconcludes : Concludes call.ticket withdrawals (p.call t call).value q) :
    q = settle [(t, .call call)] p := by
  obtain ⟨hqueue, hrests⟩ := h.rests_call ht call
  exact hconcludes.eq_of_later hqueue hrests hlater

end Port

end ModemLink
