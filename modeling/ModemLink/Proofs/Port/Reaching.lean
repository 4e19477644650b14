import ModemLink.Proofs.Port.GoingOn

/-!
# How far an exchange comes within a horizon

An exchange that is let go up to a horizon is over by then, or it waits. If it is over, then at an
instant within the horizon, and the call is on record with that instant. If it waits, nothing that
it waits for comes within the horizon: neither the next input nor the end of its time. An exchange
that waits was so far brought to no instant beyond the horizon.

## Main definitions

* `Exchange.limit`: the instant at which an exchange waits no longer.
* `Intake.Halts`: nothing comes in within a horizon.
* `Port.Reaches`: how far the exchange of a call comes within a horizon.

## Main results

* `Port.reaches_take`, `Port.reaches_goOn`: a call that gets the port, and one that has it.
-/

namespace ModemLink

/-- The instant at which an exchange waits for input no longer. -/
def Exchange.limit (x : Exchange) : Nat :=
  match x.stage with
  | .draining quietAt => min quietAt x.deadline
  | .listening _ => x.deadline

theorem Exchange.limit_le (x : Exchange) : x.limit ≤ x.deadline := by
  rw [limit]
  split
  · exact Nat.min_le_right ..
  · exact Nat.le_refl _

namespace Intake

variable {admits : Nat → Bool} {horizon : Horizon} {i after : Intake} {deadline : Nat}

/-- Nothing that is waited for comes within a horizon: neither input nor the limit. -/
structure Halts (i : Intake) (horizon : Horizon) (limit : Nat) : Prop where
  clock_le : i.clock ≤ limit
  limit : horizon.admits limit = false
  input : ∀ a ∈ i.arrivals.head?, horizon.admits (max a.due i.clock) = false

/-- What a read leaves behind. -/
structure LeftBy (i : Intake) (admits : Nat → Bool) (after : Intake) (r : Reading) : Prop where
  clock_le : i.clock ≤ after.clock
  moved : after.clock = i.clock ∨ admits after.clock = true
  read : r ≠ .silent → admits after.clock = true
  silent : r = .silent → ∀ a ∈ after.arrivals.head?, admits (max a.due after.clock) = false

theorem leftBy_readLine {clock : Nat} {fragment : List UInt8} {arrivals : List Arrival}
    {r : Reading} (h : readLine admits clock fragment arrivals = (after, r)) :
    LeftBy ⟨clock, fragment, arrivals⟩ admits after r := by
  induction arrivals generalizing clock fragment with
  | nil =>
    obtain ⟨rfl, rfl⟩ := Prod.mk.inj h
    exact ⟨Nat.le_refl _, .inl rfl, fun hr => absurd rfl hr, by simp⟩
  | cons a rest ih =>
    rw [readLine] at h
    by_cases hadmits : admits (max a.due clock) = true
    · have hread {after' : Intake} (hclock : after'.clock = max a.due clock) {r' : Reading}
          (hr : r' ≠ .silent) : LeftBy ⟨clock, fragment, a :: rest⟩ admits after' r' :=
        ⟨hclock ▸ Nat.le_max_right .., .inr (hclock ▸ hadmits), fun _ => hclock ▸ hadmits,
          fun hsilent => absurd hsilent hr⟩
      simp only [hadmits, if_true] at h
      cases hinput : a.input with
      | byte b =>
        simp only [hinput] at h
        split at h
        · obtain ⟨rfl, rfl⟩ := Prod.mk.inj h
          exact hread rfl (by simp)
        · obtain ⟨hle, hmoved, hread, hsilent⟩ := ih h
          refine ⟨Nat.le_trans (Nat.le_max_right ..) hle, .inr ?_, hread, hsilent⟩
          exact hmoved.elim (fun heq => heq.symm ▸ hadmits) id
      | closed =>
        simp only [hinput] at h
        split at h
        all_goals
          obtain ⟨rfl, rfl⟩ := Prod.mk.inj h
          exact hread rfl (by simp)
      | broken reason =>
        simp only [hinput] at h
        obtain ⟨rfl, rfl⟩ := Prod.mk.inj h
        exact hread rfl (by simp)
    · simp only [hadmits] at h
      obtain ⟨rfl, rfl⟩ := Prod.mk.inj h
      exact ⟨Nat.le_refl _, .inl rfl, fun hr => absurd rfl hr,
        by simpa using hadmits⟩

theorem leftBy_nextLine {r : Reading} (h : i.nextLine admits = (after, r)) :
    i.LeftBy admits after r :=
  leftBy_readLine h

/-- How far half an exchange comes within a horizon: it waits up to a limit, or it has ended. -/
structure Reaches (i : Intake) (horizon : Horizon) (after : Intake) (limit? : Option Nat) :
    Prop where
  clock_le : i.clock ≤ after.clock
  moved : after.clock = i.clock ∨ horizon.admits after.clock = true
  ends : limit? = none → horizon.admits after.clock = true
  waits : ∀ limit ∈ limit?, after.Halts horizon limit

section Reads

variable {limit : Nat} (hadmits : ∀ t, admits t = (decide (t ≤ limit) && horizon.admits t))
include hadmits

/-- A read that comes to its end within the limit and the horizon. -/
theorem reaches_of_read {r : Reading} (h : i.nextLine admits = (after, r)) (hr : r ≠ .silent) :
    after.clock ≤ limit ∧ i.Reaches horizon after none := by
  obtain ⟨hle, -, hread, -⟩ := leftBy_nextLine h
  have hclock := hread hr
  rw [hadmits, Bool.and_eq_true, decide_eq_true_eq] at hclock
  exact ⟨hclock.1, hle, .inr hclock.2, fun _ => hclock.2, by simp⟩

/-- The limit comes within the horizon before a line is complete. -/
theorem reaches_of_silent (h : i.nextLine admits = (after, .silent)) (hclock : i.clock ≤ limit)
    (hlimit : horizon.admits limit = true) :
    (after.elapse limit).clock = limit ∧ i.Reaches horizon (after.elapse limit) none := by
  obtain ⟨hle, hmoved, -, -⟩ := leftBy_nextLine h
  simp only [hadmits, Bool.and_eq_true, decide_eq_true_eq] at hmoved
  have hafter : after.clock ≤ limit := hmoved.elim (fun heq => heq ▸ hclock) And.left
  have helapsed : (after.elapse limit).clock = limit := Nat.max_eq_right hafter
  exact ⟨helapsed, Nat.le_trans hle (Nat.le_max_left ..), .inr (helapsed.symm ▸ hlimit),
    fun _ => helapsed.symm ▸ hlimit, by simp⟩

/-- Neither a line nor the limit comes within the horizon. -/
theorem waits_of_silent (h : i.nextLine admits = (after, .silent)) (hclock : i.clock ≤ limit)
    (hlimit : horizon.admits limit = false) : i.Reaches horizon after (some limit) := by
  obtain ⟨hle, hmoved, -, hsilent⟩ := leftBy_nextLine h
  simp only [hadmits, Bool.and_eq_true, decide_eq_true_eq] at hmoved
  refine ⟨hle, hmoved.imp_right And.right, by simp, ?_⟩
  rintro _ ⟨⟩
  refine ⟨hmoved.elim (fun heq => heq ▸ hclock) And.left, hlimit, fun a ha => ?_⟩
  have hnot := hsilent rfl a ha
  rw [hadmits, Bool.and_eq_false_iff, decide_eq_false_iff_not] at hnot
  refine hnot.elim (fun hlate => Bool.eq_false_iff.mpr fun hearly => ?_) id
  -- What is beyond the limit is beyond the horizon as well.
  exact Bool.eq_false_iff.mp hlimit (Horizon.admits_of_le hearly (Nat.le_of_not_le hlate))

end Reads

/-- What is read first comes before what is reached then. -/
theorem Reaches.trans {middle : Intake} {limit? : Option Nat} (h : i.Reaches horizon middle none)
    (h' : middle.Reaches horizon after limit?) : i.Reaches horizon after limit? where
  clock_le := Nat.le_trans h.clock_le h'.clock_le
  moved := .inr (h'.moved.elim (fun heq => heq.symm ▸ h.ends rfl) id)
  ends := h'.ends
  waits := h'.waits

end Intake

/-- The instant up to which listening waits on, if it does. -/
def Listened.limit? (deadline : Nat) : Listened → Option Nat
  | .halted _ => some deadline
  | _ => none

/-- The instant up to which draining waits on, if it does. -/
def Drained.limit? (deadline : Nat) : Drained → Option Nat
  | .halted quietAt => some (min quietAt deadline)
  | _ => none

namespace Intake

variable {horizon : Horizon} {i : Intake} {deadline quietAt : Nat}

theorem reaches_listen (hclock : i.clock ≤ deadline) (horizon : Horizon) (l : Listening) :
    let heard := (i.listen deadline horizon l).value
    heard.1.clock ≤ deadline ∧ i.Reaches horizon heard.1 (heard.2.limit? deadline) := by
  have hadmits : ∀ t, listens deadline horizon t = (decide (t ≤ deadline) && horizon.admits t) :=
    fun _ => rfl
  induction hn : i.size using Nat.strongRecOn generalizing i l with
  | _ n ih =>
    rw [listen_eq]
    rcases hread : i.nextLine (listens deadline horizon) with ⟨after, heard⟩
    cases heard with
    | line line =>
      obtain ⟨hafter, hreaches⟩ := reaches_of_read hadmits hread (by simp)
      simp only [Logged.value_bind]
      cases (l.hear line).value with
      | answer a => exact ⟨hafter, hreaches⟩
      | more l =>
        obtain ⟨hend, hrest⟩ := ih after.size (hn ▸ size_nextLine_lt hread) hafter l rfl
        exact ⟨hend, hreaches.trans hrest⟩
    | ended | broken _ =>
      exact reaches_of_read hadmits hread (by simp)
    | silent =>
      cases hdeadline : horizon.admits deadline with
      | true =>
        obtain ⟨helapsed, hreaches⟩ := reaches_of_silent hadmits hread hclock hdeadline
        exact ⟨Nat.le_of_eq helapsed, hreaches⟩
      | false =>
        have hwaits := waits_of_silent hadmits hread hclock hdeadline
        exact ⟨(hwaits.waits _ rfl).clock_le, hwaits⟩

theorem reaches_drain (hclock : i.clock ≤ deadline) (hquiet : i.clock ≤ quietAt)
    (horizon : Horizon) :
    let drained := (i.drain deadline horizon quietAt).value
    drained.1.clock ≤ deadline ∧ i.Reaches horizon drained.1 (drained.2.limit? deadline) := by
  induction hn : i.size using Nat.strongRecOn generalizing i quietAt with
  | _ n ih =>
    have hadmits : ∀ t, drains quietAt deadline horizon t =
        (decide (t ≤ min quietAt deadline) && horizon.admits t) := by
      intro t
      simp only [drains, Nat.le_min, Bool.decide_and]
    rw [drain_eq]
    rcases hread : i.nextLine (drains quietAt deadline horizon) with ⟨after, heard⟩
    cases heard with
    | line line =>
      obtain ⟨hafter, hreaches⟩ := reaches_of_read hadmits hread (by simp)
      have hdeadline := Nat.le_trans hafter (Nat.min_le_right ..)
      simp only [Logged.value_bind]
      split
      · exact ⟨hdeadline, hreaches⟩
      · obtain ⟨hend, hrest⟩ := ih after.size (hn ▸ size_nextLine_lt hread) hdeadline
          (Nat.le_add_right after.clock quietTime) rfl
        exact ⟨hend, hreaches.trans hrest⟩
    | ended | broken _ =>
      obtain ⟨hafter, hreaches⟩ := reaches_of_read hadmits hread (by simp)
      exact ⟨Nat.le_trans hafter (Nat.min_le_right ..), hreaches⟩
    | silent =>
      have hmin : i.clock ≤ min quietAt deadline := Nat.le_min.mpr ⟨hquiet, hclock⟩
      cases hlimit : horizon.admits (min quietAt deadline) with
      | true =>
        obtain ⟨helapsed, hreaches⟩ := reaches_of_silent hadmits hread hmin hlimit
        by_cases hle : quietAt ≤ deadline
        · rw [Nat.min_eq_left hle] at hlimit helapsed hreaches
          simp only [hle, hlimit, if_true, Logged.value_pure]
          exact ⟨helapsed.symm ▸ hle, hreaches⟩
        · rw [Nat.min_eq_right (Nat.le_of_not_le hle)] at hlimit helapsed hreaches
          simp only [hle, hlimit, if_true, if_false, Logged.value_pure]
          exact ⟨Nat.le_of_eq helapsed, hreaches⟩
      | false =>
        have hwaits := waits_of_silent hadmits hread hmin hlimit
        have hafter := (hwaits.waits _ rfl).clock_le
        by_cases hle : quietAt ≤ deadline
        · rw [Nat.min_eq_left hle] at hlimit
          simp only [hle, hlimit, if_true, Bool.false_eq_true, if_false, Logged.value_pure]
          exact ⟨Nat.le_trans hafter (Nat.min_le_right ..), hwaits⟩
        · rw [Nat.min_eq_right (Nat.le_of_not_le hle)] at hlimit
          simp only [hle, hlimit, Bool.false_eq_true, if_false, Logged.value_pure]
          exact ⟨Nat.le_trans hafter (Nat.min_le_right ..), hwaits⟩

end Intake

namespace Port

/-- How far the exchange of a call comes within a horizon, from a port that the call has got. -/
structure Reaches (p : Port) (horizon : Horizon) (call : Call) (deadline : Nat) (after : Port) :
    Prop where
  clock_le : p.clock ≤ after.clock
  moved : after.clock = p.clock ∨ horizon.admits after.clock = true
  queue_eq : after.queue = p.queue
  /-- A call that is over is on record with the instant of its end, which is in time. -/
  ends : after.active = none → horizon.admits after.clock = true ∧ after.clock ≤ deadline ∧
    ∃ answer, after.ended = p.ended ++ [⟨call.ticket, answer, after.clock⟩]
  /-- A call that waits is not on record. -/
  waits : ∀ x ∈ after.active, x.call = call ∧ x.deadline = deadline ∧ after.ended = p.ended ∧
    after.intake.Halts horizon x.limit

variable {p after : Port} {horizon : Horizon} {call : Call} {deadline : Nat}

/-- What counts of a port from which a call starts is the instant, the queue, and who is on
record. -/
theorem Reaches.of_eq {q : Port} (h : q.Reaches horizon call deadline after)
    (hclock : p.clock ≤ q.clock) (hmoved : q.clock = p.clock ∨ horizon.admits q.clock = true)
    (hqueue : q.queue = p.queue) (hended : q.ended = p.ended) :
    p.Reaches horizon call deadline after where
  clock_le := Nat.le_trans hclock h.clock_le
  moved := h.moved.elim (fun heq => heq.symm ▸ hmoved) .inr
  queue_eq := h.queue_eq.trans hqueue
  ends := hended ▸ h.ends
  waits := hended ▸ h.waits

theorem reaches_record (hadmits : horizon.admits p.clock = true) (hclock : p.clock ≤ deadline)
    (call : Call) (answer : Option Answer) :
    p.Reaches horizon call deadline (p.record call.ticket answer) :=
  ⟨Nat.le_refl _, .inl rfl, rfl, fun _ => ⟨hadmits, hclock, _, rfl⟩, by rintro _ ⟨⟩⟩

theorem reaches_finish (hadmits : horizon.admits p.clock = true) (hclock : p.clock ≤ deadline)
    (call : Call) (answer : Answer) :
    p.Reaches horizon call deadline (p.finish call answer).value := by
  cases answer with
  | ok text => exact reaches_record hadmits hclock call _
  | error fault =>
    have hrecord := reaches_record (p := { p with stale := p.stale || isAbandonment fault }) hadmits
      hclock call (some (.error fault))
    exact hrecord.of_eq (Nat.le_refl p.clock) (.inl rfl) rfl rfl

theorem reaches_listen (hclock : p.clock ≤ deadline) (call : Call) (l : Listening) :
    p.Reaches horizon call deadline (p.listen horizon call deadline l).value := by
  obtain ⟨hend, hreaches⟩ :=
    Intake.reaches_listen (i := p.intake) hclock horizon l
  rw [listen, Logged.value_bind]
  generalize (p.intake.listen deadline horizon l).value = came at hend hreaches ⊢
  obtain ⟨intake, heard⟩ := came
  cases heard with
  | answer a =>
    exact (reaches_finish (p := { p with intake }) (hreaches.ends rfl) hend call a).of_eq
      hreaches.clock_le hreaches.moved rfl rfl
  | expired =>
    exact (reaches_finish (p := { p with intake }) (hreaches.ends rfl) hend call
      (timeout call)).of_eq hreaches.clock_le hreaches.moved rfl rfl
  | halted l =>
    refine ⟨hreaches.clock_le, hreaches.moved, rfl, by rintro ⟨⟩, ?_⟩
    rintro _ ⟨⟩
    exact ⟨rfl, rfl, rfl, hreaches.waits deadline rfl⟩

theorem reaches_send (hadmits : horizon.admits p.clock = true) (hclock : p.clock ≤ deadline)
    (call : Call) : p.Reaches horizon call deadline (p.send horizon call deadline).value := by
  rw [send]
  split
  · exact (reaches_listen (p := p.write call.command.body []) hclock call _).of_eq
      (Nat.le_refl p.clock) (.inl rfl) rfl rfl
  · next chunks rest _ =>
    let written := { p with reactions := rest }.write call.command.body chunks
    have hlisten : written.Reaches horizon call deadline _ :=
      reaches_listen (p := written) hclock call (Listening.toCommand call.command.body)
    exact hlisten.of_eq (p := p) (Nat.le_refl p.clock) (.inl rfl) rfl rfl
  · next reason rest _ =>
    exact (reaches_finish (p := { p with reactions := rest }) hadmits hclock call _).of_eq
      (Nat.le_refl p.clock) (.inl rfl) rfl rfl

theorem reaches_drain (hclock : p.clock ≤ deadline) {quietAt : Nat} (hquiet : p.clock ≤ quietAt)
    (call : Call) :
    p.Reaches horizon call deadline (p.drain horizon call deadline quietAt).value := by
  obtain ⟨hend, hreaches⟩ :=
    Intake.reaches_drain (i := p.intake) hclock hquiet horizon
  rw [drain, Logged.value_bind]
  generalize (p.intake.drain deadline horizon quietAt).value = came at hend hreaches ⊢
  obtain ⟨intake, drained⟩ := came
  cases drained with
  | clean =>
    exact (reaches_send (p := { p with intake }) (hreaches.ends rfl) hend call).of_eq
      hreaches.clock_le hreaches.moved rfl rfl
  | lost fault =>
    exact (reaches_finish (p := { p with intake }) (hreaches.ends rfl) hend call
      (.error fault)).of_eq hreaches.clock_le hreaches.moved rfl rfl
  | expired =>
    exact (reaches_finish (p := { p with intake }) (hreaches.ends rfl) hend call
      (timeout call)).of_eq hreaches.clock_le hreaches.moved rfl rfl
  | halted quietAt =>
    refine ⟨hreaches.clock_le, hreaches.moved, rfl, by rintro ⟨⟩, ?_⟩
    rintro _ ⟨⟩
    exact ⟨rfl, rfl, rfl, hreaches.waits _ rfl⟩

/-- A call gets the port at an instant within the horizon, and its time is counted from there. -/
theorem reaches_take (hadmits : horizon.admits p.clock = true) (call : Call) :
    p.Reaches horizon call (p.clock + call.command.timeout.micros)
      (p.take horizon call).value := by
  have hclock : p.clock ≤ p.clock + call.command.timeout.micros := Nat.le_add_right ..
  rw [take]
  split
  · exact reaches_record hadmits hclock call _
  · simp only [Logged.value_bind]
    split
    · exact (reaches_drain (p := { p with stale := false }) hclock (Nat.le_add_right ..) call).of_eq
        (Nat.le_refl _) (.inl rfl) rfl rfl
    · exact reaches_send hadmits hclock call

/-- A call that has the port goes on before it has waited too long. -/
theorem reaches_goOn {x : Exchange} (hx : p.active = some x) (hclock : p.clock ≤ x.limit)
    (horizon : Horizon) :
    p.Reaches horizon x.call x.deadline (p.goOn horizon).value := by
  rw [goOn, hx]
  dsimp only
  rw [resume]
  rw [Exchange.limit] at hclock
  cases hstage : x.stage with
  | draining quietAt =>
    rw [hstage] at hclock
    exact (reaches_drain (p := { p with active := none })
      (Nat.le_trans hclock (Nat.min_le_right ..)) (Nat.le_trans hclock (Nat.min_le_left ..))
      x.call).of_eq (Nat.le_refl _) (.inl rfl) rfl rfl
  | listening l =>
    rw [hstage] at hclock
    exact (reaches_listen (p := { p with active := none }) hclock x.call l).of_eq (Nat.le_refl _)
      (.inl rfl) rfl rfl

end Port

end ModemLink
