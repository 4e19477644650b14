import ModemLink.Proofs.Port.Commands
import ModemLink.Proofs.Port.Reaching

/-!
# Time that passes for a port that waits

The clock of a port moves on when something else happens at it, such as a call that joins the
queue. Where the port waits for something that does not come before that instant, it makes no
difference: its exchange goes on as it would have gone on anyway, and is over at the same instant
with the same outcome.

## Main definitions

* `Port.Rests`: nothing that a port waits for comes within a horizon.
* `Port.Awaits`: nothing that a port waits for comes before an instant.

## Main results

* `Port.Awaits.goOn_elapse`: a port goes on alike, however far the time has passed.
* `Port.Awaits.le_clock_goOn`: what a port waits for does not come before it was waited for.
* `Port.Rests.goOn`, `Port.Rests.goOn_eq`: a port goes on up to a horizon, and stays as it is there.
-/

namespace ModemLink

/-- What follows depends on the value only. -/
theorem Logged.bind_congr_value {α β : Type} {x : Logged α} {f g : α → Logged β}
    (h : f x.value = g x.value) : x >>= f = x >>= g :=
  Logged.ext (by rw [value_bind, value_bind, h]) (by rw [log_bind, log_bind, h])

namespace Intake

variable {i after : Intake} {t deadline quietAt : Nat} {horizon : Horizon}

/-- Nothing comes in before an instant. -/
def Awaits (i : Intake) (t : Nat) : Prop :=
  ∀ a ∈ i.arrivals.head?, t ≤ max a.due i.clock

theorem awaits_of_le (h : t ≤ i.clock) : i.Awaits t :=
  fun _ _ => Nat.le_trans h (Nat.le_max_right ..)

theorem elapse_of_le (h : t ≤ i.clock) : i.elapse t = i := by
  rw [elapse, Nat.max_eq_left h]

namespace Halts

variable {limit : Nat}

theorem mono {near : Horizon} (h : i.Halts horizon limit) (hwithin : near.Within horizon) :
    i.Halts near limit := by
  have hnear {u : Nat} (hu : horizon.admits u = false) : near.admits u = false :=
    Bool.eq_false_iff.mpr fun hadmits => Bool.eq_false_iff.mp hu (hwithin u hadmits)
  exact ⟨h.clock_le, hnear h.limit, fun a ha => hnear (h.input a ha)⟩

/-- What is waited for up to an instant comes no earlier. -/
theorem of_before (h : i.Halts (.before t) limit) : t ≤ limit ∧ i.Awaits t := by
  have hlater {u : Nat} (hu : (Horizon.before t).admits u = false) : t ≤ u := by
    simpa [Horizon.admits] using hu
  exact ⟨hlater h.limit, fun a ha => hlater (h.input a ha)⟩

theorem nextLine {admits : Nat → Bool} (h : i.Halts horizon limit)
    (hadmits : ∀ u, admits u = true → horizon.admits u = true) :
    i.nextLine admits = (i, .silent) := by
  obtain ⟨clock, fragment, arrivals⟩ := i
  cases arrivals with
  | nil => rfl
  | cons a rest =>
    have hdue : admits (max a.due clock) ≠ true := fun hdue =>
      Bool.eq_false_iff.mp (h.input a rfl) (hadmits _ hdue)
    rw [Intake.nextLine, readLine, if_neg hdue]

/-- Nothing is heard before the horizon. -/
theorem listen (h : i.Halts horizon deadline) (l : Listening) :
    i.listen deadline horizon l = pure (i, .halted l) := by
  have hsilent : i.nextLine (listens deadline horizon) = (i, .silent) :=
    h.nextLine fun u hu => (Bool.and_eq_true_iff.mp hu).2
  rw [listen_eq, hsilent]
  simp [h.limit]

/-- Nothing is drained before the horizon. -/
theorem drain (h : i.Halts horizon (min quietAt deadline)) :
    i.drain deadline horizon quietAt = pure (i, .halted quietAt) := by
  have hsilent : i.nextLine (drains quietAt deadline horizon) = (i, .silent) :=
    h.nextLine fun u hu => (Bool.and_eq_true_iff.mp hu).2
  have hlimit := h.limit
  rw [drain_eq, hsilent]
  dsimp only
  by_cases hle : quietAt ≤ deadline
  · rw [Nat.min_eq_left hle] at hlimit
    simp [hle, hlimit]
  · rw [Nat.min_eq_right (Nat.le_of_not_le hle)] at hlimit
    simp [hle, hlimit]

end Halts

/-- A read is the same at every instant before the next input. -/
theorem Awaits.nextLine_elapse (h : i.Awaits t) (admits : Nat → Bool) :
    (i.elapse t).nextLine admits =
        ((i.nextLine admits).1.elapse t, (i.nextLine admits).2) ∧
      ((i.nextLine admits).2 ≠ .silent → t ≤ (i.nextLine admits).1.clock) ∧
      (i.nextLine admits).1.Awaits t := by
  obtain ⟨clock, fragment, arrivals⟩ := i
  cases arrivals with
  | nil => exact ⟨rfl, fun hr => absurd rfl hr, by simp [nextLine, readLine, Awaits]⟩
  | cons a rest =>
    have hdue : t ≤ max a.due clock := h a rfl
    have hnow : max a.due (max clock t) = max a.due clock := by omega
    by_cases hadmits : admits (max a.due clock) = true
    · -- Something is read, at an instant that `t` does not come after.
      have hsame : (elapse ⟨clock, fragment, a :: rest⟩ t).nextLine admits =
          nextLine admits ⟨clock, fragment, a :: rest⟩ := by
        simp only [elapse, nextLine, readLine, hnow, hadmits, if_true]
      have hclock : t ≤ (nextLine admits ⟨clock, fragment, a :: rest⟩).1.clock := by
        rw [nextLine, readLine]
        simp only [hadmits, if_true]
        cases a.input with
        | byte b =>
          dsimp only
          split
          · exact hdue
          · exact Nat.le_trans hdue (leftBy_readLine rfl).clock_le
        | closed =>
          dsimp only
          split
          · exact hdue
          · exact hdue
        | broken reason => exact hdue
      rw [hsame, elapse_of_le hclock]
      exact ⟨rfl, fun _ => hclock, awaits_of_le hclock⟩
    · simp only [elapse, nextLine, readLine, hnow, hadmits]
      exact ⟨rfl, fun hr => absurd rfl hr, h⟩

theorem elapse_comm (i : Intake) (t u : Nat) : (i.elapse t).elapse u = (i.elapse u).elapse t := by
  rw [elapse, elapse, elapse, elapse, Nat.max_right_comm]

/-- Half an exchange that has ended has done so no earlier than `t`, which it has waited for. -/
def Outlasts (limit? : Option Nat) (after : Intake) (t : Nat) : Prop :=
  limit? = none → t ≤ after.clock

/-- The intake of what half an exchange comes to, at an instant that has come. -/
def passed {α : Type} (t : Nat) (come : Intake × α) : Intake × α :=
  (come.1.elapse t, come.2)

theorem passed_of_le {α : Type} (h : t ≤ after.clock) (a : α) :
    passed t (after, a) = (after, a) := by
  rw [passed, elapse_of_le h]

theorem map_passed_pure {α : Type} (h : t ≤ after.clock) (a : α) :
    passed t <$> (pure (after, a) : Logged (Intake × α)) = pure (after, a) := by
  rw [map_pure, passed_of_le h]

/-- Listening is the same at every instant before the next input. -/
theorem Awaits.listen_elapse (h : i.Awaits t) (hdeadline : t ≤ deadline) (horizon : Horizon)
    (l : Listening) :
    (i.elapse t).listen deadline horizon l = passed t <$> i.listen deadline horizon l ∧
      let heard := (i.listen deadline horizon l).value
      Outlasts (heard.2.limit? deadline) heard.1 t := by
  induction hn : i.size using Nat.strongRecOn generalizing i l with
  | _ n ih =>
    obtain ⟨helapse, hclock, -⟩ := h.nextLine_elapse (listens deadline horizon)
    rw [listen_eq, listen_eq, helapse]
    match hread : i.nextLine (listens deadline horizon) with
    | (after, .line line) =>
      rw [hread] at hclock
      have hafter : t ≤ after.clock := hclock (by simp)
      dsimp only
      rw [elapse_of_le hafter, map_bind]
      constructor
      · refine bind_congr fun heard => ?_
        cases heard with
        | answer a => exact (map_passed_pure hafter _).symm
        | more l =>
          have hrest := (ih after.size (hn ▸ size_nextLine_lt hread) (awaits_of_le hafter) l rfl).1
          rwa [elapse_of_le hafter] at hrest
      · simp only [Logged.value_bind]
        cases (l.hear line).value with
        | answer a => exact fun _ => hafter
        | more l =>
          exact (ih after.size (hn ▸ size_nextLine_lt hread) (awaits_of_le hafter) l rfl).2
    | (after, .ended) | (after, .broken _) =>
      rw [hread] at hclock
      have hafter : t ≤ after.clock := hclock (by simp)
      dsimp only
      rw [elapse_of_le hafter, map_passed_pure hafter]
      exact ⟨rfl, fun _ => hafter⟩
    | (after, .silent) =>
      dsimp only
      split
      · rw [elapse_comm]
        exact ⟨rfl, fun _ => Nat.le_trans hdeadline (Nat.le_max_right ..)⟩
      · exact ⟨rfl, by rintro ⟨⟩⟩

/-- Draining is the same at every instant before the next input. -/
theorem Awaits.drain_elapse (h : i.Awaits t) (hdeadline : t ≤ deadline) (hquiet : t ≤ quietAt)
    (horizon : Horizon) :
    (i.elapse t).drain deadline horizon quietAt = passed t <$> i.drain deadline horizon quietAt ∧
      let drained := (i.drain deadline horizon quietAt).value
      Outlasts (drained.2.limit? deadline) drained.1 t := by
  induction hn : i.size using Nat.strongRecOn generalizing i quietAt with
  | _ n ih =>
    obtain ⟨helapse, hclock, -⟩ := h.nextLine_elapse (drains quietAt deadline horizon)
    rw [drain_eq, drain_eq, helapse]
    match hread : i.nextLine (drains quietAt deadline horizon) with
    | (after, .line line) =>
      rw [hread] at hclock
      have hafter : t ≤ after.clock := hclock (by simp)
      have hrest := ih after.size (hn ▸ size_nextLine_lt hread) (awaits_of_le hafter)
        (Nat.le_trans hafter (Nat.le_add_right _ quietTime)) rfl
      dsimp only
      rw [elapse_of_le hafter] at hrest ⊢
      rw [map_bind]
      split
      · exact ⟨bind_congr fun _ => (map_passed_pure hafter _).symm, fun _ => hafter⟩
      · exact ⟨bind_congr fun _ => hrest.1, hrest.2⟩
    | (after, .ended) | (after, .broken _) =>
      rw [hread] at hclock
      have hafter : t ≤ after.clock := hclock (by simp)
      dsimp only
      rw [elapse_of_le hafter, map_passed_pure hafter]
      exact ⟨rfl, fun _ => hafter⟩
    | (after, .silent) =>
      dsimp only
      split
      · split
        · rw [elapse_comm]
          exact ⟨rfl, fun _ => Nat.le_trans hquiet (Nat.le_max_right ..)⟩
        · exact ⟨rfl, by rintro ⟨⟩⟩
      · split
        · rw [elapse_comm]
          exact ⟨rfl, fun _ => Nat.le_trans hdeadline (Nat.le_max_right ..)⟩
        · exact ⟨rfl, by rintro ⟨⟩⟩

end Intake

namespace Port

variable {p : Port} {t : Nat} {horizon : Horizon}

/-- Nothing that a port waits for comes within a horizon. -/
def Rests (p : Port) (horizon : Horizon) : Prop :=
  ∀ x ∈ p.active, p.intake.Halts horizon x.limit

/-- Nothing that a port waits for comes before an instant. A port that waits for nothing has seen
the instant. -/
structure Awaits (p : Port) (t : Nat) : Prop where
  idle : p.active = none → t ≤ p.clock
  rests : p.Rests (.before t)

theorem elapse_of_le (h : t ≤ p.clock) : p.elapse t = p := by
  rw [elapse, Intake.elapse_of_le h]

/-- A call that is over no earlier than an instant is over alike once the instant has come. -/
theorem map_elapse_of_le {moved : Logged Port} (h : t ≤ moved.value.clock) :
    (fun q : Port => q.elapse t) <$> moved = moved :=
  Logged.ext (by rw [Logged.value_map, elapse_of_le h]) (Logged.log_map ..)

theorem clock_finish (p : Port) (call : Call) (answer : Answer) :
    (p.finish call answer).value.clock = p.clock := by
  rw [value_finish]
  rfl

theorem listen_elapse (h : p.intake.Awaits t) {deadline : Nat} (hdeadline : t ≤ deadline)
    (call : Call) (l : Listening) :
    (p.elapse t).listen horizon call deadline l =
      (fun q => q.elapse t) <$> p.listen horizon call deadline l := by
  obtain ⟨helapse, hoverdue⟩ := h.listen_elapse hdeadline horizon l
  have hintake : (p.elapse t).intake = p.intake.elapse t := rfl
  rw [listen, listen, hintake, helapse, bind_map_left, map_bind]
  refine Logged.bind_congr_value ?_
  generalize (p.intake.listen deadline horizon l).value = came at hoverdue ⊢
  obtain ⟨intake, heard⟩ := came
  cases heard with
  | answer _ | expired =>
    have hclock : t ≤ intake.clock := hoverdue rfl
    rw [Intake.passed_of_le hclock, map_elapse_of_le ((clock_finish ..).symm ▸ hclock)]
    rfl
  | halted l => rfl

theorem drain_elapse (h : p.intake.Awaits t) {deadline quietAt : Nat}
    (hclock : p.clock ≤ min quietAt deadline) (ht : t ≤ min quietAt deadline) (call : Call) :
    (p.elapse t).drain horizon call deadline quietAt =
      (fun q => q.elapse t) <$> p.drain horizon call deadline quietAt := by
  obtain ⟨hclockQuiet, hclockDeadline⟩ := Nat.le_min.mp hclock
  obtain ⟨hquiet, hdeadline⟩ := Nat.le_min.mp ht
  obtain ⟨helapse, hoverdue⟩ := h.drain_elapse hdeadline hquiet horizon
  obtain ⟨hafter, hreaches⟩ :=
    Intake.reaches_drain (i := p.intake) hclockDeadline hclockQuiet horizon
  have hintake : (p.elapse t).intake = p.intake.elapse t := rfl
  rw [drain, drain, hintake, helapse, bind_map_left, map_bind]
  refine Logged.bind_congr_value ?_
  generalize (p.intake.drain deadline horizon quietAt).value = came at hoverdue hafter hreaches ⊢
  obtain ⟨intake, drained⟩ := came
  cases drained with
  | clean =>
    have hclock : t ≤ intake.clock := hoverdue rfl
    have hsend := reaches_send (p := { p with intake }) (hreaches.ends rfl) hafter call
    rw [Intake.passed_of_le hclock, map_elapse_of_le (Nat.le_trans hclock hsend.clock_le)]
    rfl
  | lost _ | expired =>
    have hclock : t ≤ intake.clock := hoverdue rfl
    rw [Intake.passed_of_le hclock, map_elapse_of_le ((clock_finish ..).symm ▸ hclock)]
    rfl
  | halted quietAt => rfl

namespace Awaits

variable (h : p.Awaits t)
include h

/-- A port goes on alike, however far the time has passed for which it waits. -/
theorem goOn_elapse (horizon : Horizon) :
    (p.elapse t).goOn horizon = (fun q => q.elapse t) <$> p.goOn horizon := by
  cases hactive : p.active with
  | none =>
    rw [elapse_of_le (h.idle hactive), goOn_of_idle hactive, map_pure,
      elapse_of_le (h.idle hactive)]
  | some x =>
    have hhalts := h.rests x hactive
    have hclock := hhalts.clock_le
    obtain ⟨hlimit, hawaits⟩ := hhalts.of_before
    have hactive' : (p.elapse t).active = some x := hactive
    have hidle : { p.elapse t with active := none } = { p with active := none }.elapse t := rfl
    rw [goOn, goOn, hactive, hactive']
    dsimp only
    rw [hidle, resume, resume]
    rw [Exchange.limit] at hclock hlimit
    cases hstage : x.stage with
    | draining quietAt =>
      rw [hstage] at hclock hlimit
      exact drain_elapse (p := { p with active := none }) hawaits hclock hlimit x.call
    | listening l =>
      rw [hstage] at hlimit
      exact listen_elapse (p := { p with active := none }) hawaits hlimit x.call l

/-- A call is over no earlier than the instant up to which the port has waited. -/
theorem le_clock_goOn (horizon : Horizon) (hidle : (p.goOn horizon).value.active = none) :
    t ≤ (p.goOn horizon).value.clock := by
  cases hactive : p.active with
  | none =>
    rw [goOn_of_idle hactive]
    exact h.idle hactive
  | some x =>
    have hhalts := h.rests x hactive
    have helapse : ((p.elapse t).goOn horizon).value = (p.goOn horizon).value.elapse t := by
      rw [h.goOn_elapse, Logged.value_map]
    -- The end of the call is on record, and it is the same with the time passed.
    obtain ⟨-, -, answer, hover⟩ := (reaches_goOn hactive hhalts.clock_le horizon).ends hidle
    have hreaches := reaches_goOn (p := p.elapse t) hactive
      (Nat.max_le.mpr ⟨hhalts.clock_le, hhalts.of_before.1⟩) horizon
    rw [helapse] at hreaches
    obtain ⟨-, -, answer', hover'⟩ := hreaches.ends hidle
    have hrecord : [_] = [_] := List.append_cancel_left (hover.symm.trans hover')
    have htime := congrArg Ended.time (List.cons.inj hrecord).1
    exact Nat.le_trans (Nat.le_max_right ..) (Nat.le_of_eq htime.symm)

end Awaits

namespace Rests

theorem of_idle (hidle : p.active = none) (horizon : Horizon) : p.Rests horizon := by
  rintro x hx
  cases hidle.symm.trans hx

theorem mono {near : Horizon} (h : p.Rests horizon) (hwithin : near.Within horizon) :
    p.Rests near :=
  fun x hx => (h x hx).mono hwithin

/-- The port waits on as time passes that it waits for. -/
theorem elapse (h : p.Rests (.before t)) : (p.elapse t).Rests (.before t) := by
  intro x hx
  obtain ⟨hclock, hlimit, hinput⟩ := h x hx
  refine ⟨Nat.max_le.mpr ⟨hclock, (h x hx).of_before.1⟩, hlimit, fun a ha => ?_⟩
  have hdue := hinput a ha
  simp only [Horizon.admits, decide_eq_false_iff_not, Nat.not_lt] at hdue ⊢
  change t ≤ max a.due (max p.intake.clock t)
  omega

/-- Without a horizon nothing is waited for. -/
theorem active_eq (h : p.Rests .unbounded) : p.active = none := by
  cases hactive : p.active with
  | none => rfl
  | some x => cases (h x hactive).limit

/-- A port that rests at a horizon stays as it is up to there. -/
theorem goOn_eq (h : p.Rests horizon) : p.goOn horizon = pure p := by
  cases hactive : p.active with
  | none => exact goOn_of_idle hactive horizon
  | some x =>
    have hhalts := h x hactive
    rw [Exchange.limit] at hhalts
    rw [Port.goOn, hactive]
    dsimp only
    obtain ⟨call, deadline, stage⟩ := x
    have hp : { p with active := some ⟨call, deadline, stage⟩ } = p := by rw [← hactive]
    cases stage with
    | draining quietAt =>
      change Port.drain { p with active := none } horizon call deadline quietAt = pure p
      rw [Port.drain, hhalts.drain, pure_bind]
      exact congrArg pure hp
    | listening l =>
      change Port.listen { p with active := none } horizon call deadline l = pure p
      rw [Port.listen, hhalts.listen, pure_bind]
      exact congrArg pure hp

/-- A port that goes on up to a horizon rests there. -/
theorem goOn {near : Horizon} (h : p.Rests near) (horizon : Horizon) :
    (p.goOn horizon).value.Rests horizon := by
  cases hactive : p.active with
  | none =>
    rw [goOn_of_idle hactive]
    exact of_idle hactive horizon
  | some x =>
    intro y hy
    exact ((reaches_goOn hactive (h x hactive).clock_le horizon).waits y hy).2.2.2

end Rests

/-- A port that waits up to an instant still does so when it has gone on beyond. -/
theorem Awaits.goOn (h : p.Awaits t) (hwithin : (Horizon.before t).Within horizon) :
    (p.goOn horizon).value.Awaits t where
  idle := h.le_clock_goOn horizon
  rests := (h.rests.goOn horizon).mono hwithin

end Port

end ModemLink
