import ModemLink.Proofs.Port.Lines

/-!
# What a port makes of lines

The two halves of an exchange, told in lines. Listening takes in lines up to the end of the
answer, as long as they can be read in time. Draining discards lines up to a final result, or
until the next one is too long in coming. What either half leaves behind are the lines it did not
get to.

## Main definitions

* `Listening.hearAll`: listening to lines.
* `drainAll`: draining lines.

## Main results

* `Intake.Holds.listen_of_answer`, `Intake.Holds.listen_of_expired`: listening to an intake is
  listening to its lines.
* `Intake.Holds.drainsTo`: draining an intake is draining its lines.
-/

namespace ModemLink

/-! ### Listening to lines -/

namespace Listening

/-- Takes in lines whose instants are admitted, until the answer is complete. -/
def hearAll (admits : Nat → Bool) (l : Listening) : List DueLine → List DueLine × Heard
  | [] => ([], .more l)
  | line :: rest =>
    if admits line.due then
      match (l.hear line.text).value with
      | .answer a => (rest, .answer a)
      | .more l => hearAll admits l rest
    else (line :: rest, .more l)

variable {admits : Nat → Bool} {l l' : Listening} {line : DueLine} {rest : List DueLine}

theorem hearAll_of_more (hadmits : admits line.due = true)
    (h : (l.hear line.text).value = .more l') :
    l.hearAll admits (line :: rest) = l'.hearAll admits rest := by
  rw [hearAll, if_pos hadmits, h]

theorem hearAll_of_answer (hadmits : admits line.due = true) {a : Answer}
    (h : (l.hear line.text).value = .answer a) :
    l.hearAll admits (line :: rest) = (rest, .answer a) := by
  rw [hearAll, if_pos hadmits, h]

theorem hearAll_of_not_admits (hadmits : admits line.due = false) :
    l.hearAll admits (line :: rest) = (line :: rest, .more l) := by
  rw [hearAll, if_neg (by simp [hadmits])]

/-- Lines taken in up to a near instant, and from there up to a far one, are lines taken in up to
the far one. -/
theorem hearAll_goOn {near far : Nat → Bool} (hnf : ∀ t, near t = true → far t = true)
    (lines : List DueLine) :
    l.hearAll far lines =
      match l.hearAll near lines with
      | (rest, .more l') => l'.hearAll far rest
      | (rest, .answer a) => (rest, .answer a) := by
  induction lines generalizing l with
  | nil => rfl
  | cons line lines ih =>
    by_cases hnear : near line.due = true
    · cases hline : (l.hear line.text).value with
      | more l' => rw [hearAll_of_more hnear hline, hearAll_of_more (hnf _ hnear) hline, ih]
      | answer a => rw [hearAll_of_answer hnear hline, hearAll_of_answer (hnf _ hnear) hline]
    · have hlate : near line.due = false := by simpa using hnear
      rw [hearAll_of_not_admits hlate]

/-- A port that still listens at a far instant did so at a near one. -/
theorem exists_hearAll_near {near far : Nat → Bool} (hnf : ∀ t, near t = true → far t = true)
    {lines : List DueLine} (h : l.hearAll far lines = (rest, .more l')) :
    ∃ rest' l'', l.hearAll near lines = (rest', .more l'') ∧
      l''.hearAll far rest' = (rest, .more l') := by
  rw [hearAll_goOn hnf] at h
  match hnear : l.hearAll near lines with
  | (rest', .more l'') =>
    rw [hnear] at h
    exact ⟨rest', l'', rfl, h⟩
  | (rest', .answer a) =>
    rw [hnear] at h
    cases h

/-- What is left of lines that do not complete the answer are those that come too late. -/
theorem rest_hearAll {lines : List DueLine} (h : l.hearAll admits lines = (rest, .more l')) :
    rest = lines.dropWhile fun line => admits line.due := by
  induction lines generalizing l with
  | nil =>
    cases h
    rfl
  | cons line lines ih =>
    by_cases hadmits : admits line.due = true
    · rw [List.dropWhile_cons, if_pos hadmits]
      cases hline : (l.hear line.text).value with
      | more l'' =>
        rw [hearAll_of_more hadmits hline] at h
        exact ih h
      | answer a =>
        rw [hearAll_of_answer hadmits hline] at h
        cases h
    · rw [List.dropWhile_cons, if_neg hadmits]
      rw [hearAll_of_not_admits (by simpa using hadmits)] at h
      cases h
      rfl

/-- Where the first line comes too late, nothing is taken in. -/
theorem hearAll_of_head {lines : List DueLine}
    (hhead : ∀ line ∈ lines.head?, admits line.due = false) :
    l.hearAll admits lines = (lines, .more l) := by
  cases lines with
  | nil => rfl
  | cons line lines => exact hearAll_of_not_admits (hhead line rfl)

end Listening

namespace Intake

theorem listens_of_le {deadline : Nat} {horizon : Horizon} (t u : Nat) (htu : t ≤ u)
    (hu : listens deadline horizon u = true) : listens deadline horizon t = true := by
  simp only [listens, Bool.and_eq_true, decide_eq_true_eq] at hu ⊢
  exact ⟨Nat.le_trans htu hu.1, Horizon.admits_of_le hu.2 htu⟩

theorem drains_of_le {quietAt deadline : Nat} {horizon : Horizon} (t u : Nat) (htu : t ≤ u)
    (hu : drains quietAt deadline horizon u = true) : drains quietAt deadline horizon t = true := by
  simp only [drains, Bool.and_eq_true, decide_eq_true_eq] at hu ⊢
  exact ⟨⟨Nat.le_trans htu hu.1.1, Nat.le_trans htu hu.1.2⟩, Horizon.admits_of_le hu.2 htu⟩

namespace Holds

variable {i : Intake} {lines rest : List DueLine}

/-- A read gives the first line if its instant is admitted. -/
theorem nextLine_of_admits {admits : Nat → Bool}
    (hdown : ∀ t u, t ≤ u → admits u = true → admits t = true) {l : DueLine}
    (h : i.Holds (l :: lines)) (hadmits : admits l.due = true) :
    ∃ after : Intake, i.nextLine admits = (after, .line l.text) ∧ after.clock = l.due ∧
      after.Holds lines :=
  HoldsFrom.readLine_of_admits hdown h hadmits

/-- Otherwise nothing is lost of what is left to read. -/
theorem nextLine_of_not_admits {admits : Nat → Bool} (h : i.Holds lines)
    (hadmits : ∀ l ∈ lines.head?, admits l.due = false) :
    ∃ after : Intake, i.nextLine admits = (after, .silent) ∧ i.clock ≤ after.clock ∧
      (after.clock = i.clock ∨ admits after.clock = true) ∧ after.Holds lines :=
  HoldsFrom.readLine_of_not_admits h hadmits

/-- Where the first line is due later than an instant, all are. -/
theorem le_due_of_head (h : i.Holds lines) {now : Nat} (hhead : ∀ l ∈ lines.head?, now ≤ l.due) :
    ∀ l ∈ lines, now ≤ l.due := by
  cases lines with
  | nil => simp
  | cons l lines =>
    have hl : now ≤ l.due := hhead l rfl
    have hpairwise := List.pairwise_cons.mp (HoldsFrom.pairwise h)
    exact List.forall_mem_cons.mpr ⟨hl, fun l' hl' => Nat.le_trans hl (hpairwise.1 l' hl')⟩

variable {deadline : Nat} {horizon : Horizon} {l l' : Listening}

/-- Listening ends with the answer that its lines complete in time. -/
theorem listen_of_answer (h : i.Holds lines) {a : Answer}
    (hheard : l.hearAll (listens deadline horizon) lines = (rest, .answer a)) :
    ∃ after : Intake, (i.listen deadline horizon l).value = (after, .answer a) ∧
      i.clock ≤ after.clock ∧ after.clock ≤ deadline ∧ after.Holds rest := by
  induction lines generalizing i l with
  | nil => cases hheard
  | cons line lines ih =>
    cases hadmits : listens deadline horizon line.due with
    | false =>
      rw [Listening.hearAll_of_not_admits hadmits] at hheard
      cases hheard
    | true =>
      obtain ⟨after, hread, hclock, hholds⟩ := h.nextLine_of_admits listens_of_le hadmits
      have hle : i.clock ≤ after.clock := hclock ▸ HoldsFrom.le_due h line (List.mem_cons_self ..)
      rw [listen_eq, hread]
      simp only [Logged.value_bind]
      cases hline : (l.hear line.text).value with
      | answer a' =>
        rw [Listening.hearAll_of_answer hadmits hline] at hheard
        cases hheard
        have hdue : line.due ≤ deadline := by
          simp only [listens, Bool.and_eq_true, decide_eq_true_eq] at hadmits
          exact hadmits.1
        exact ⟨after, rfl, hle, hclock ▸ hdue, hholds⟩
      | more l' =>
        rw [Listening.hearAll_of_more hadmits hline] at hheard
        obtain ⟨after', hvalue, hle', hdeadline, hholds'⟩ := ih hholds hheard
        exact ⟨after', hvalue, Nat.le_trans hle hle', hdeadline, hholds'⟩

/-- Where the first line cannot be read in time, listening takes in nothing. -/
theorem listen_of_silent (h : i.Holds lines)
    (hhead : ∀ line ∈ lines.head?, listens deadline horizon line.due = false) :
    ∃ after : Intake, i.clock ≤ after.clock ∧
      (after.clock = i.clock ∨ listens deadline horizon after.clock = true) ∧
      after.Holds lines ∧
      (i.listen deadline horizon l).value =
        if horizon.admits deadline then (after.elapse deadline, .expired)
        else (after, .halted l) := by
  obtain ⟨after, hread, hle, hclock, hholds⟩ := h.nextLine_of_not_admits hhead
  refine ⟨after, hle, hclock, hholds, ?_⟩
  rw [listen_eq, hread]
  dsimp only
  split <;> rfl

/-- Listening that takes in no answer in time stops at the first line that cannot be read. -/
theorem listen_of_more (h : i.Holds lines)
    (hheard : l.hearAll (listens deadline horizon) lines = (rest, .more l')) :
    ∃ after : Intake, (∀ line ∈ rest.head?, listens deadline horizon line.due = false) ∧
      i.clock ≤ after.clock ∧
      (after.clock = i.clock ∨ listens deadline horizon after.clock = true) ∧
      after.Holds rest ∧
      (i.listen deadline horizon l).value =
        if horizon.admits deadline then (after.elapse deadline, .expired)
        else (after, .halted l') := by
  induction lines generalizing i l with
  | nil =>
    cases hheard
    have hhead : ∀ line ∈ ([] : List DueLine).head?, listens deadline horizon line.due = false := by
      simp
    obtain ⟨after, hafter⟩ := listen_of_silent h hhead
    exact ⟨after, hhead, hafter⟩
  | cons line lines ih =>
    cases hadmits : listens deadline horizon line.due with
    | false =>
      rw [Listening.hearAll_of_not_admits hadmits] at hheard
      cases hheard
      have hhead : ∀ line' ∈ (line :: lines).head?, listens deadline horizon line'.due = false := by
        rintro line' ⟨⟩
        exact hadmits
      obtain ⟨after, hafter⟩ := listen_of_silent h hhead
      exact ⟨after, hhead, hafter⟩
    | true =>
      obtain ⟨after, hread, hclock, hholds⟩ := h.nextLine_of_admits listens_of_le hadmits
      have hle : i.clock ≤ after.clock := hclock ▸ HoldsFrom.le_due h line (List.mem_cons_self ..)
      cases hline : (l.hear line.text).value with
      | answer a =>
        rw [Listening.hearAll_of_answer hadmits hline] at hheard
        cases hheard
      | more l'' =>
        rw [Listening.hearAll_of_more hadmits hline] at hheard
        obtain ⟨after', hhead, hle', hclock', hholds', hvalue⟩ := ih hholds hheard
        refine ⟨after', hhead, Nat.le_trans hle hle', ?_, hholds', ?_⟩
        · rcases hclock' with hclock' | hclock'
          · exact .inr (by rw [hclock', hclock, hadmits])
          · exact .inr hclock'
        · rw [listen_eq, hread]
          simp only [Logged.value_bind, hline]
          exact hvalue

/-- Where the horizon leaves out nothing up to the deadline, listening ends at the deadline. -/
theorem listen_of_expired (h : i.Holds lines)
    (hheard : l.hearAll (listens deadline horizon) lines = (rest, .more l'))
    (hhorizon : horizon.admits deadline = true) (hclock : i.clock ≤ deadline) :
    ∃ after : Intake, (i.listen deadline horizon l).value = (after, .expired) ∧
      after.clock = deadline ∧ after.Holds rest := by
  obtain ⟨after, hhead, -, hafter, hholds, hvalue⟩ := h.listen_of_more hheard
  rw [if_pos hhorizon] at hvalue
  have hle : after.clock ≤ deadline := by
    rcases hafter with hafter | hafter
    · omega
    · simp only [listens, Bool.and_eq_true, decide_eq_true_eq] at hafter
      exact hafter.1
  refine ⟨after.elapse deadline, hvalue, Nat.max_eq_right hle, hholds.elapse ?_⟩
  refine hholds.le_due_of_head fun line hline => ?_
  refine Nat.le_of_not_le fun hdue => ?_
  have hadmits : listens deadline horizon line.due = true := by
    simp [listens, hdue, Horizon.admits_of_le hhorizon hdue]
  rw [hhead line hline] at hadmits
  cases hadmits

end Holds

end Intake

/-! ### Draining lines -/

/-- Discards lines that come in time up to a final result, or until the next one is too long in
coming. What is left are the lines not discarded, and the instant; there is none where the
deadline comes first. -/
def drainAll (deadline quietAt : Nat) : List DueLine → Option (List DueLine × Nat)
  | [] => if quietAt ≤ deadline then some ([], quietAt) else none
  | line :: rest =>
    if line.due ≤ quietAt ∧ line.due ≤ deadline then
      if (FinalResult.ofLine? line.text).isSome then some (rest, line.due)
      else drainAll deadline (line.due + quietTime) rest
    else if quietAt ≤ deadline then some (line :: rest, quietAt)
    else none

/-- Draining leaves the last of the lines. -/
theorem drainAll_suffix {deadline quietAt now : Nat} {lines rest : List DueLine}
    (h : drainAll deadline quietAt lines = some (rest, now)) : rest <:+ lines := by
  induction lines generalizing quietAt with
  | nil =>
    rw [drainAll] at h
    split at h
    · cases h
      exact List.suffix_refl _
    · cases h
  | cons line lines ih =>
    rw [drainAll] at h
    split at h
    · split at h
      · cases h
        exact List.suffix_cons ..
      · exact (ih h).trans (List.suffix_cons ..)
    · split at h
      · cases h
        exact List.suffix_refl _
      · cases h

namespace Intake

/-- Draining the intake leaves these lines at this instant, or nothing before the deadline. -/
def DrainsTo (i : Intake) (deadline quietAt : Nat) : Option (List DueLine × Nat) → Prop
  | some (rest, now) =>
    ∃ after : Intake, (i.drain deadline .unbounded quietAt).value = (after, .clean) ∧
      after.clock = now ∧ i.clock ≤ now ∧ now ≤ deadline ∧ after.Holds rest
  | none => ∃ after : Intake, (i.drain deadline .unbounded quietAt).value = (after, .expired)

namespace Holds

variable {i : Intake} {lines : List DueLine} {deadline quietAt : Nat}

/-- Where the next line is too long in coming, or is due after the deadline, nothing more is
discarded. -/
theorem drainsTo_of_head (h : i.Holds lines) (hquiet : i.clock ≤ quietAt)
    (hhead : ∀ line ∈ lines.head?, ¬(line.due ≤ quietAt ∧ line.due ≤ deadline)) :
    i.DrainsTo deadline quietAt
      (if quietAt ≤ deadline then some (lines, quietAt) else none) := by
  have hadmits : ∀ line ∈ lines.head?, drains quietAt deadline .unbounded line.due = false := by
    intro line hline
    rw [Bool.eq_false_iff]
    intro hadmits
    simp only [drains, Bool.and_eq_true, decide_eq_true_eq] at hadmits
    exact hhead line hline hadmits.1
  obtain ⟨after, hread, hle, hafter, hholds⟩ := h.nextLine_of_not_admits hadmits
  by_cases hdeadline : quietAt ≤ deadline
  · have hclock : after.clock ≤ quietAt := by
      rcases hafter with hafter | hafter
      · omega
      · simp only [drains, Bool.and_eq_true, decide_eq_true_eq] at hafter
        exact hafter.1.1
    have hlater : ∀ line ∈ lines, quietAt ≤ line.due :=
      hholds.le_due_of_head fun line hline => by
        have := hhead line hline
        omega
    rw [if_pos hdeadline]
    refine ⟨after.elapse quietAt, ?_, Nat.max_eq_right hclock, hquiet, hdeadline,
      hholds.elapse hlater⟩
    rw [Intake.drain_eq, hread]
    simp only [hdeadline, if_true, Horizon.admits]
    rfl
  · rw [if_neg hdeadline]
    refine ⟨after.elapse deadline, ?_⟩
    rw [Intake.drain_eq, hread]
    simp only [hdeadline, if_false, Horizon.admits, if_true]
    rfl

/-- What draining leaves behind, and when, is told by the lines of the intake. -/
theorem drainsTo (h : i.Holds lines) (hquiet : i.clock ≤ quietAt) :
    i.DrainsTo deadline quietAt (drainAll deadline quietAt lines) := by
  induction lines generalizing i quietAt with
  | nil => exact h.drainsTo_of_head hquiet (by simp)
  | cons line lines ih =>
    by_cases hdue : line.due ≤ quietAt ∧ line.due ≤ deadline
    · have hadmits : drains quietAt deadline .unbounded line.due = true := by
        simp [drains, Horizon.admits, hdue]
      obtain ⟨after, hread, hafter, hholds⟩ := h.nextLine_of_admits drains_of_le hadmits
      have hle : i.clock ≤ line.due := HoldsFrom.le_due h line (List.mem_cons_self ..)
      rw [drainAll, if_pos hdue]
      by_cases hfinal : (FinalResult.ofLine? line.text).isSome = true
      · rw [if_pos hfinal]
        refine ⟨after, ?_, hafter, hle, hdue.2, hholds⟩
        rw [Intake.drain_eq, hread]
        simp only [Logged.value_bind, hfinal, if_true]
        rfl
      · rw [if_neg hfinal]
        have hdrain : (i.drain deadline .unbounded quietAt).value =
            (after.drain deadline .unbounded (line.due + quietTime)).value := by
          rw [Intake.drain_eq, hread]
          simp only [Logged.value_bind, hfinal]
          rw [hafter]
          rfl
        have hrest : after.DrainsTo deadline (line.due + quietTime)
            (drainAll deadline (line.due + quietTime) lines) := ih hholds (by omega)
        revert hrest
        cases drainAll deadline (line.due + quietTime) lines with
        | none =>
          rintro ⟨after', hvalue⟩
          exact ⟨after', hdrain.trans hvalue⟩
        | some found =>
          rintro ⟨after', hvalue, hclock', hle', hrest⟩
          exact ⟨after', hdrain.trans hvalue, hclock', by omega, hrest⟩
    · rw [drainAll, if_neg hdue]
      refine h.drainsTo_of_head hquiet ?_
      rintro line' ⟨⟩
      exact hdue

end Holds

end Intake

end ModemLink
