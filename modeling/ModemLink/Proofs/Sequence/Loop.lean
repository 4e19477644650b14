import ModemLink.Sequence.Basic

/-!
# What all sequences have in common

A sequence goes from step to step in one way, whatever its commands are. So it is enough to know
what its replies make of its states: what every reply keeps holds as long as the sequence asks for
something, and then of what it comes to. A fault that it ends with is one of its answer, or one
that it finds by itself, and a sequence that is cancelled fails with the next answer.

## Main definitions

* `Next.Meets`: a sequence goes on as one predicate says, or ends as another says.
* `Fault.IsInternal`: a fault that a sequence finds by itself.

## Main results

* `Sequence.meets_resume`: what every reply keeps, an answer keeps.
* `Sequence.fault_of_resume`: where the fault comes from that a sequence ends with.
* `Sequence.resume_cancelled`: a sequence that was asked to stop fails.
-/

namespace ModemLink

/-- A sequence goes on in a state that satisfies `P`, or ends with a result that satisfies `Q`. -/
def Next.Meets {σ ρ : Type} (P : σ → Prop) (Q : ρ → Prop) : Next σ ρ → Prop
  | .ask _ state => P state
  | .done result => Q result

namespace Next

variable {σ ρ τ ρ' : Type} {next : Next σ ρ}

theorem Meets.imp {P P' : σ → Prop} {Q Q' : ρ → Prop} (h : next.Meets P Q)
    (hask : ∀ state, P state → P' state) (hdone : ∀ result, Q result → Q' result) :
    next.Meets P' Q' := by
  cases next with
  | ask request state => exact hask state h
  | done result => exact hdone result h

theorem meets_of_forall {P : σ → Prop} {Q : ρ → Prop} (hask : ∀ state, P state)
    (hdone : ∀ result, Q result) (next : Next σ ρ) : next.Meets P Q := by
  cases next with
  | ask request state => exact hask state
  | done result => exact hdone result

/-- What a sequence does as part of another one is what it does by itself. -/
theorem meets_map_iff {hold : σ → τ} {f : ρ → ρ'} {P : τ → Prop} {Q : ρ' → Prop} :
    (next.map hold f).Meets P Q ↔ next.Meets (P ∘ hold) (Q ∘ f) := by
  cases next with
  | ask request state => exact Iff.rfl
  | done result => exact Iff.rfl

end Next

/-- The fault is one that a sequence finds by itself: a cancellation, a reply that cannot be
read, or a port or index that does not exist. -/
def Fault.IsInternal (f : Fault) : Prop :=
  f = .canceled ∨ (∃ r, f = .reply r) ∨ ∃ what, f = .notFound what

namespace Sequence

variable {σ ρ : Type} {q : Sequence σ ρ} {s : σ} {cancelled : Bool} {answer : Answer} {f : Fault}

/-! ### What a sequence asks for -/

/-- The first request of a sequence is for the command of its step. -/
theorem request_of_proceed {request : Request} {after : σ}
    (h : (q.proceed s cancelled).value = .ask request after) :
    after = s ∧ (q.command? after).map (⟨·, true⟩) = some request := by
  obtain ⟨-, rfl, command, hcommand, rfl⟩ := of_proceed_eq_ask h
  exact ⟨rfl, by rw [hcommand]; rfl⟩

theorem request_of_resume {request : Request} {after : σ}
    (h : (q.resume s cancelled answer).value = .ask request after) :
    (q.command? after).map (⟨·, true⟩) = some request := by
  obtain ⟨-, reply, -, -, command, hcommand, rfl⟩ := of_resume_eq_ask h
  rw [hcommand]
  rfl

/-! ### What every reply keeps -/

section Keeps

variable {P : σ → Prop} {Q : ρ → Prop} (q : Sequence σ ρ)
  (hend : ∀ s, P s → q.command? s = none → Q (q.result s))
include hend

theorem meets_proceed (h : P s) (cancelled : Bool) :
    (q.proceed s cancelled).value.Meets P (∀ r, · = .ok r → Q r) := by
  cases cancelled with
  | true =>
    rw [value_proceed_cancelled]
    exact nofun
  | false =>
    cases hcommand : q.command? s with
    | some command =>
      rw [value_proceed_of_some hcommand]
      exact h
    | none =>
      rw [value_proceed_of_none hcommand]
      rintro r ⟨⟩
      exact hend s h hcommand

theorem meets_resume (hkeep : ∀ reply next, (q.advance s reply).value = .ok next → P next)
    (cancelled : Bool) (answer : Answer) :
    (q.resume s cancelled answer).value.Meets P (∀ r, · = .ok r → Q r) := by
  match answer with
  | .error fault => exact nofun
  | .ok reply =>
    cases hadvance : (q.advance s reply).value with
    | error fault =>
      rw [value_resume_of_error hadvance]
      exact nofun
    | ok next =>
      rw [value_resume_of_ok hadvance]
      exact meets_proceed q hend (hkeep reply next hadvance) cancelled

end Keeps

/-! ### Where faults come from -/

/-- Without an answer, a sequence fails by a cancellation only. -/
theorem isInternal_of_proceed (h : (q.proceed s cancelled).value = .done (.error f)) :
    f.IsInternal := by
  cases cancelled with
  | true =>
    obtain rfl := Except.error.inj (Next.done.inj h)
    exact .inl rfl
  | false =>
    cases hcommand : q.command? s with
    | some command => cases (value_proceed_of_some hcommand).symm.trans h
    | none => cases (value_proceed_of_none hcommand).symm.trans h

/-- A sequence reports a fault of an answer as it is. -/
theorem fault_of_resume (h : (q.resume s cancelled answer).value = .done (.error f)) :
    answer = .error f ∨ f.IsInternal := by
  match answer with
  | .error fault =>
    obtain rfl := Except.error.inj (Next.done.inj h)
    exact .inl rfl
  | .ok reply =>
    cases hadvance : (q.advance s reply).value with
    | error fault =>
      rw [value_resume_of_error hadvance] at h
      obtain rfl := Except.error.inj (Next.done.inj h)
      exact .inr (.inr (.inl ⟨fault, rfl⟩))
    | ok next =>
      rw [value_resume_of_ok hadvance] at h
      exact .inr (isInternal_of_proceed h)

/-- A sequence that was asked to stop fails with the next answer. -/
theorem resume_cancelled (q : Sequence σ ρ) (s : σ) (answer : Answer) :
    ∃ fault, (q.resume s true answer).value = .done (.error fault) := by
  match answer with
  | .error fault => exact ⟨fault, rfl⟩
  | .ok reply =>
    cases hadvance : (q.advance s reply).value with
    | error fault => exact ⟨.reply fault, value_resume_of_error hadvance true⟩
    | ok next => exact ⟨.canceled, value_resume_of_ok hadvance true⟩

end Sequence

end ModemLink
