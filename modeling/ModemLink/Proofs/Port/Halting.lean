import ModemLink.Port

/-!
# Halting and going on

What a port does is cut into pieces by the instants at which something else happens to it: it
is halted at a horizon, and taken up again from there. The pieces together are what the port
would have done at once. So only one horizon need be looked at, the one that leaves nothing out.

The law is the same at every level, from one read to a whole port: halting at the near of two
horizons and going on to the far one is going to the far one. This module has it for reads and
for the two halves of an exchange. An outcome that is reached within the near horizon is the
outcome within the far one, and a halt keeps everything that the rest depends on.

## Main definitions

* `Horizon.Within`: one horizon leaves out what another one does, and maybe more.
* `Listened.goOn`, `Drained.goOn`: a half of an exchange goes on where it was halted.

## Main results

* `Intake.nextLine_of_silent`, `Intake.nextLine_of_ne_silent`: the law for a read.
* `Intake.listen_goOn`, `Intake.drain_goOn`: the law for the two halves of an exchange.
-/

namespace ModemLink

namespace Horizon

/-- Every instant within the one horizon is within the other. -/
def Within (near far : Horizon) : Prop :=
  ∀ t, near.admits t = true → far.admits t = true

theorem within_unbounded (h : Horizon) : h.Within .unbounded := fun _ _ => rfl

theorem upTo_within_upTo {t u : Nat} (h : t ≤ u) : (upTo t).Within (upTo u) := by
  intro v hv
  simp only [admits, decide_eq_true_eq] at hv ⊢
  omega

/-- A horizon leaves nothing out that comes before an instant it admits. -/
theorem admits_of_le {h : Horizon} {t u : Nat} (hu : h.admits u = true) (htu : t ≤ u) :
    h.admits t = true := by
  cases h with
  | upTo instant =>
    simp only [admits, decide_eq_true_eq] at hu ⊢
    omega
  | before instant =>
    simp only [admits, decide_eq_true_eq] at hu ⊢
    omega
  | unbounded => rfl

end Horizon

/-! ### One read -/

namespace Intake

variable {near far : Nat → Bool} {i after : Intake}

private theorem readLine_of_silent (hnf : ∀ t, near t = true → far t = true) {clock : Nat}
    {fragment : List UInt8} {arrivals : List Arrival}
    (h : readLine near clock fragment arrivals = (after, .silent)) :
    after.nextLine far = readLine far clock fragment arrivals := by
  induction arrivals generalizing clock fragment with
  | nil =>
    obtain ⟨rfl, -⟩ := Prod.mk.inj h
    rfl
  | cons a rest ih =>
    rw [readLine] at h
    by_cases hnear : near (max a.due clock) = true
    · simp only [hnear, if_true] at h
      rw [readLine]
      simp only [hnf _ hnear, if_true]
      cases hinput : a.input with
      | byte b =>
        simp only [hinput] at h ⊢
        split at h
        · cases h
        · next hb =>
          rw [if_neg hb]
          exact ih h
      | closed =>
        simp only [hinput] at h
        split at h <;> cases h
      | broken reason =>
        simp only [hinput] at h
        cases h
    · simp only [hnear] at h
      obtain ⟨rfl, -⟩ := Prod.mk.inj h
      rfl

/-- A read that was over too early keeps what the next one depends on. -/
theorem nextLine_of_silent (hnf : ∀ t, near t = true → far t = true)
    (h : i.nextLine near = (after, .silent)) : after.nextLine far = i.nextLine far :=
  readLine_of_silent hnf h

private theorem readLine_of_ne_silent (hnf : ∀ t, near t = true → far t = true) {clock : Nat}
    {fragment : List UInt8} {arrivals : List Arrival} {r : Reading}
    (h : readLine near clock fragment arrivals = (after, r)) (hr : r ≠ .silent) :
    readLine far clock fragment arrivals = (after, r) := by
  induction arrivals generalizing clock fragment with
  | nil =>
    obtain ⟨-, rfl⟩ := Prod.mk.inj h
    exact absurd rfl hr
  | cons a rest ih =>
    rw [readLine] at h ⊢
    by_cases hnear : near (max a.due clock) = true
    · simp only [hnear, hnf _ hnear, if_true] at h ⊢
      cases hinput : a.input with
      | byte b =>
        simp only [hinput] at h ⊢
        split
        · next hb => rw [if_pos hb] at h; exact h
        · next hb => rw [if_neg hb] at h; exact ih h
      | closed => simpa only [hinput] using h
      | broken reason => simpa only [hinput] using h
    · simp only [hnear] at h
      obtain ⟨-, rfl⟩ := Prod.mk.inj h
      exact absurd rfl hr

/-- A read that came to its end does so as well if it is given more time. -/
theorem nextLine_of_ne_silent (hnf : ∀ t, near t = true → far t = true) {r : Reading}
    (h : i.nextLine near = (after, r)) (hr : r ≠ .silent) : i.nextLine far = (after, r) :=
  readLine_of_ne_silent hnf h hr

end Intake

/-! ### The halves of an exchange -/

/-- Listening goes on where it was halted. -/
def Listened.goOn (deadline : Nat) (horizon : Horizon) :
    Intake × Listened → Logged (Intake × Listened)
  | (i, .halted l) => i.listen deadline horizon l
  | complete => pure complete

/-- Draining goes on where it was halted. -/
def Drained.goOn (deadline : Nat) (horizon : Horizon) :
    Intake × Drained → Logged (Intake × Drained)
  | (i, .halted quietAt) => i.drain deadline horizon quietAt
  | complete => pure complete

namespace Intake

variable {deadline : Nat} {horizon near far : Horizon} {i after : Intake} {l : Listening}

/-- The instants at which a port listens. -/
def listens (deadline : Nat) (horizon : Horizon) (t : Nat) : Bool :=
  t ≤ deadline && horizon.admits t

theorem listens_of_within (h : near.Within far) (t : Nat) (ht : listens deadline near t = true) :
    listens deadline far t = true := by
  simp only [listens, Bool.and_eq_true] at ht ⊢
  exact ⟨ht.1, h t ht.2⟩

/-- One line is taken in, and then what follows. -/
theorem listen_eq (deadline : Nat) (horizon : Horizon) (l : Listening) (i : Intake) :
    i.listen deadline horizon l =
      match i.nextLine (listens deadline horizon) with
      | (after, .line line) => l.hear line >>= fun heard =>
        match heard with
        | .answer a => pure (after, Listened.answer a)
        | .more l => after.listen deadline horizon l
      | (after, .ended) => pure (after, .answer (.error .lineClosed))
      | (after, .broken reason) => pure (after, .answer (.error (.lineBroken reason)))
      | (after, .silent) =>
        if horizon.admits deadline then pure (after.elapse deadline, .expired)
        else pure (after, .halted l) := by
  have hlistens : listens deadline horizon = fun t => t ≤ deadline && horizon.admits t := rfl
  rw [hlistens, listen]
  split
  · next after line h =>
    simp only [h]
    rfl
  · next after h => rw [h]
  · next after reason h => rw [h]
  · next after h => rw [h]

/-- Listening, halted and taken up again, is listening. -/
theorem listen_goOn (hwithin : near.Within far) :
    i.listen deadline near l >>= Listened.goOn deadline far = i.listen deadline far l := by
  induction hn : i.size using Nat.strongRecOn generalizing i l with
  | _ n ih =>
    rw [listen_eq deadline near l i]
    match hread : i.nextLine (listens deadline near) with
    | (after, .line line) =>
      rw [listen_eq deadline far l i,
        nextLine_of_ne_silent (listens_of_within hwithin) hread (by simp)]
      simp only [bind_assoc]
      refine bind_congr fun heard => ?_
      cases heard with
      | answer a => rfl
      | more l => exact ih after.size (hn ▸ size_nextLine_lt hread) rfl
    | (after, .ended) =>
      rw [listen_eq deadline far l i,
        nextLine_of_ne_silent (listens_of_within hwithin) hread (by simp)]
      rfl
    | (after, .broken reason) =>
      rw [listen_eq deadline far l i,
        nextLine_of_ne_silent (listens_of_within hwithin) hread (by simp)]
      rfl
    | (after, .silent) =>
      by_cases hdeadline : near.admits deadline = true
      · -- Both horizons admit every instant up to the deadline.
        have hlistens : listens deadline far = listens deadline near := by
          funext t
          by_cases ht : t ≤ deadline
          · have := Horizon.admits_of_le hdeadline ht
            simp [listens, ht, this, hwithin t this]
          · simp [listens, ht]
        rw [listen_eq deadline far l i, hlistens, hread]
        simp only [hdeadline, hwithin deadline hdeadline, if_true]
        rfl
      · simp only [hdeadline]
        change after.listen deadline far l = _
        rw [listen_eq, nextLine_of_silent (listens_of_within hwithin) hread, ← listen_eq]

/-- The instants at which a port drains. -/
def drains (quietAt deadline : Nat) (horizon : Horizon) (t : Nat) : Bool :=
  t ≤ quietAt && t ≤ deadline && horizon.admits t

theorem drains_of_within {quietAt : Nat} (h : near.Within far) (t : Nat)
    (ht : drains quietAt deadline near t = true) : drains quietAt deadline far t = true := by
  simp only [drains, Bool.and_eq_true] at ht ⊢
  exact ⟨ht.1, h t ht.2⟩

/-- Two horizons that admit an instant draining does not go beyond admit the same instants of it. -/
theorem drains_congr {quietAt last : Nat} (hnear : near.admits last = true)
    (hfar : far.admits last = true) (hlast : quietAt ≤ last ∨ deadline ≤ last) :
    drains quietAt deadline far = drains quietAt deadline near := by
  funext t
  by_cases ht : t ≤ quietAt ∧ t ≤ deadline
  · have hle : t ≤ last := by omega
    simp [drains, ht, Horizon.admits_of_le hnear hle, Horizon.admits_of_le hfar hle]
  · simp only [drains, ← Bool.decide_and, ht, decide_false, Bool.false_and]

/-- One line is discarded, and then what follows. -/
theorem drain_eq (deadline : Nat) (horizon : Horizon) (quietAt : Nat) (i : Intake) :
    i.drain deadline horizon quietAt =
      match i.nextLine (drains quietAt deadline horizon) with
      | (after, .line line) => Logged.note (.staleLine line) >>= fun _ =>
        if (FinalResult.ofLine? line).isSome then pure (after, Drained.clean)
        else after.drain deadline horizon (after.clock + quietTime)
      | (after, .ended) => pure (after, .lost .lineClosed)
      | (after, .broken reason) => pure (after, .lost (.lineBroken reason))
      | (after, .silent) =>
        if quietAt ≤ deadline then
          if horizon.admits quietAt then pure (after.elapse quietAt, .clean)
          else pure (after, .halted quietAt)
        else if horizon.admits deadline then pure (after.elapse deadline, .expired)
        else pure (after, .halted quietAt) := by
  have hdrains : drains quietAt deadline horizon =
      fun t => t ≤ quietAt && t ≤ deadline && horizon.admits t := rfl
  rw [hdrains, drain]
  split
  · next after line h =>
    simp only [h]
    rfl
  · next after h => rw [h]
  · next after reason h => rw [h]
  · next after h => rw [h]

/-- Draining, halted and taken up again, is draining. -/
theorem drain_goOn {quietAt : Nat} (hwithin : near.Within far) :
    i.drain deadline near quietAt >>= Drained.goOn deadline far =
      i.drain deadline far quietAt := by
  induction hn : i.size using Nat.strongRecOn generalizing i quietAt with
  | _ n ih =>
    rw [drain_eq deadline near quietAt i]
    match hread : i.nextLine (drains quietAt deadline near) with
    | (after, .line line) =>
      rw [drain_eq deadline far quietAt i,
        nextLine_of_ne_silent (drains_of_within hwithin) hread (by simp)]
      simp only [bind_assoc]
      refine bind_congr fun _ => ?_
      split
      · rfl
      · exact ih after.size (hn ▸ size_nextLine_lt hread) rfl
    | (after, .ended) =>
      rw [drain_eq deadline far quietAt i,
        nextLine_of_ne_silent (drains_of_within hwithin) hread (by simp)]
      rfl
    | (after, .broken reason) =>
      rw [drain_eq deadline far quietAt i,
        nextLine_of_ne_silent (drains_of_within hwithin) hread (by simp)]
      rfl
    | (after, .silent) =>
      have hhalted : Drained.goOn deadline far (after, .halted quietAt) =
          i.drain deadline far quietAt := by
        change after.drain deadline far quietAt = _
        rw [drain_eq, nextLine_of_silent (drains_of_within hwithin) hread, ← drain_eq]
      by_cases hquiet : quietAt ≤ deadline
      · by_cases hadmits : near.admits quietAt = true
        · have hfar := hwithin quietAt hadmits
          rw [drain_eq deadline far quietAt i,
            drains_congr hadmits hfar (.inl (Nat.le_refl _)), hread]
          simp only [hquiet, hadmits, hfar, if_true]
          rfl
        · simp only [hquiet, hadmits]
          exact hhalted
      · by_cases hadmits : near.admits deadline = true
        · have hfar := hwithin deadline hadmits
          rw [drain_eq deadline far quietAt i,
            drains_congr hadmits hfar (.inr (Nat.le_refl _)), hread]
          simp only [hquiet, hadmits, hfar, if_true]
          rfl
        · simp only [hquiet, hadmits]
          exact hhalted

end Intake

end ModemLink
