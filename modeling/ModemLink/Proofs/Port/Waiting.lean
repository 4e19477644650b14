import ModemLink.Proofs.Port.Turns

/-!
# Calls that wait for their turn

While a call waits its caller may cancel or drop it, perhaps more than once. The queue of a port and
its record show what has been done about it so far: a call that was cancelled waits on and is
marked, and one that was dropped waits no more and is on record. What will be done about it is among
the moves to come.

## Main definitions

* `Visit.waiting?`, `Visit.dropped?`: a call in the queue of a port, and on its record.
* `Visit.add`, `Visit.complete`: a call with one more withdrawal, and with all those to come.

## Main results

* `Visit.waiting?_add_cancel`, `Visit.waiting?_add_drop`: what a withdrawal does to the queue.
* `Visit.perm_dropped_add`: what it does to the record.
* `Visit.complete_add`: a withdrawal that has been made is no longer to come.
-/

namespace ModemLink

namespace Visit

variable {v : Visit} {ms : List (Nat × Bench.Move)} {t ticket : Nat}

/-- The call as it waits, unless it was dropped. -/
def waiting? (v : Visit) : Option Call :=
  if v.droppedAt?.isSome then none
  else some { v.call with cancelled := v.call.cancelled || v.cancelledAt?.isSome }

/-- What is on record of a call that was dropped as it waited. -/
def dropped? (v : Visit) : Option Ended :=
  v.droppedAt?.map fun t => ⟨v.call.ticket, none, t⟩

/-- Nothing is done about the call later than at an instant. -/
def Past (v : Visit) (t : Nat) : Prop :=
  v.calledAt ≤ t ∧ ∀ x ∈ v.withdrawals, x.1 ≤ t

/-- The call with what is done about it in the course of moves to come. -/
def complete (ms : List (Nat × Bench.Move)) (v : Visit) : Visit :=
  { v with withdrawals := v.withdrawals ++ withdrawalsOf v.call.ticket ms }

/-- The call with a withdrawal, if it is the call with a ticket. -/
def add (ticket : Nat) (x : Nat × Withdrawal) (v : Visit) : Visit :=
  if v.call.ticket = ticket then { v with withdrawals := v.withdrawals ++ [x] } else v

theorem Past.mono {u : Nat} (h : v.Past t) (htu : t ≤ u) : v.Past u :=
  ⟨Nat.le_trans h.1 htu, fun x hx => Nat.le_trans (h.2 x hx) htu⟩

theorem droppedAt?_complete (h : v.droppedAt? = some t) : (v.complete ms).droppedAt? = some t := by
  obtain ⟨x, hx, rfl⟩ := Option.map_eq_some_iff.mp h
  rw [droppedAt?, complete, List.find?_append, hx]
  rfl

theorem cancelledAt?_complete (h : v.cancelledAt? = some t) :
    (v.complete ms).cancelledAt? = some t := by
  obtain ⟨x, hx, rfl⟩ := Option.map_eq_some_iff.mp h
  rw [cancelledAt?, complete, List.find?_append, hx]
  rfl

/-- A call that was not dropped before is dropped by a move to come. -/
theorem mem_of_droppedAt?_complete (h : v.droppedAt? = none)
    (hdrop : (v.complete ms).droppedAt? = some t) :
    (t, .drop) ∈ withdrawalsOf v.call.ticket ms := by
  have hnone := Option.map_eq_none_iff.mp h
  rw [droppedAt?, complete, List.find?_append, hnone, Option.none_or] at hdrop
  obtain ⟨⟨u, w⟩, hx, rfl⟩ := Option.map_eq_some_iff.mp hdrop
  obtain rfl : w = .drop := by simpa using List.find?_some hx
  exact List.mem_of_find?_eq_some hx

/-- A call that has just been made waits. -/
theorem waiting?_new (c : Call) : (⟨c, t, []⟩ : Visit).waiting? = some c := by
  simp [waiting?, droppedAt?, cancelledAt?]

/-- A call waits no more only if it was dropped. -/
theorem exists_droppedAt? (h : v.waiting? = none) : ∃ t, v.droppedAt? = some t := by
  cases hdrop : v.droppedAt? with
  | none => simp [waiting?, hdrop] at h
  | some t => exact ⟨t, rfl⟩

theorem dropped?_of_droppedAt? (h : v.droppedAt? = some t) :
    v.dropped? = some ⟨v.call.ticket, none, t⟩ := by
  rw [dropped?, h, Option.map_some]

theorem droppedAt?_of_waiting? {c : Call} (h : v.waiting? = some c) : v.droppedAt? = none := by
  cases hdrop : v.droppedAt? with
  | none => rfl
  | some t => simp [waiting?, hdrop] at h

theorem ticket_of_waiting? {c : Call} (h : v.waiting? = some c) : c.ticket = v.call.ticket := by
  rw [waiting?, droppedAt?_of_waiting? h] at h
  rw [← Option.some.inj h]

/-- A call that was neither cancelled nor dropped has no withdrawals. -/
theorem withdrawals_eq_nil (hcancel : v.cancelledAt? = none) (hdrop : v.droppedAt? = none) :
    v.withdrawals = [] := by
  refine List.eq_nil_iff_forall_not_mem.mpr fun ⟨t, w⟩ hx => ?_
  rw [cancelledAt?, Option.map_eq_none_iff, List.find?_eq_none] at hcancel
  rw [droppedAt?, Option.map_eq_none_iff, List.find?_eq_none] at hdrop
  cases w with
  | cancel => exact hcancel _ hx rfl
  | drop => exact hdrop _ hx rfl

/-- A call was withdrawn in the past. -/
theorem Past.of_find? (h : v.Past t) {u : Nat} {w : Withdrawal}
    (hfind : (v.withdrawals.find? (·.2 == w)).map (·.1) = some u) : u ≤ t := by
  obtain ⟨x, hx, rfl⟩ := Option.map_eq_some_iff.mp hfind
  exact h.2 x (List.mem_of_find?_eq_some hx)

/-! ### One more withdrawal -/

@[simp] theorem ticket_add (x : Nat × Withdrawal) :
    (v.add ticket x).call.ticket = v.call.ticket := by
  rw [add]
  split <;> rfl

theorem add_of_ne {x : Nat × Withdrawal} (h : v.call.ticket ≠ ticket) : v.add ticket x = v :=
  if_neg h

theorem Past.add (h : v.Past t) (w : Withdrawal) : (v.add ticket (t, w)).Past t := by
  rw [Visit.add]
  split
  · refine ⟨h.1, fun x hx => ?_⟩
    rcases List.mem_append.mp hx with hx | hx
    · exact h.2 x hx
    · exact Nat.le_of_eq (congrArg Prod.fst (List.mem_singleton.mp hx))
  · exact h

theorem droppedAt?_add_cancel : (v.add ticket (t, .cancel)).droppedAt? = v.droppedAt? := by
  rw [add]
  split
  · simp [droppedAt?]
  · rfl

/-- A cancellation is not on record. -/
theorem dropped?_add_cancel : (v.add ticket (t, .cancel)).dropped? = v.dropped? := by
  rw [dropped?, dropped?, droppedAt?_add_cancel, ticket_add]

/-- A call that is cancelled waits on, and is marked. -/
theorem waiting?_add_cancel : (v.add ticket (t, .cancel)).waiting? =
    v.waiting?.map fun c => if c.ticket = ticket then { c with cancelled := true } else c := by
  cases hdrop : v.droppedAt? with
  | some u => simp [waiting?, droppedAt?_add_cancel, hdrop]
  | none =>
    by_cases h : v.call.ticket = ticket
    · have hadd : (v.add ticket (t, .cancel)).droppedAt? = none := droppedAt?_add_cancel.trans hdrop
      simp only [add, h, if_true] at hadd
      simp [waiting?, hdrop, add, h, hadd, cancelledAt?]
    · simp [waiting?, hdrop, add_of_ne h, h]

theorem droppedAt?_add_drop :
    (v.add v.call.ticket (t, .drop)).droppedAt? = some (v.droppedAt?.getD t) := by
  rw [add, if_pos rfl, droppedAt?, droppedAt?, List.find?_append]
  cases v.withdrawals.find? (·.2 == .drop) <;> rfl

/-- A call that is dropped waits no more. -/
theorem waiting?_add_drop :
    (v.add ticket (t, .drop)).waiting? = v.waiting?.filter (·.ticket != ticket) := by
  by_cases h : v.call.ticket = ticket
  · subst h
    cases hdrop : v.droppedAt? with
    | some u => simp [waiting?, droppedAt?_add_drop, hdrop]
    | none => simp [waiting?, droppedAt?_add_drop, hdrop, Option.filter_some]
  · cases hdrop : v.droppedAt? with
    | some u => simp [waiting?, add_of_ne h, hdrop]
    | none => simp [waiting?, add_of_ne h, hdrop, Option.filter_some, h]

/-- On record is the first time that a call is dropped. -/
theorem dropped?_add_drop :
    (v.add v.call.ticket (t, .drop)).dropped? =
      some ⟨v.call.ticket, none, v.droppedAt?.getD t⟩ := by
  rw [dropped?, droppedAt?_add_drop, ticket_add]
  rfl

section Others

variable {waiting : List Visit} (hother : ticket ∉ waiting.map (·.call.ticket))
include hother

/-- A withdrawal makes no difference to other calls. -/
theorem map_add_of_notMem (x : Nat × Withdrawal) : waiting.map (·.add ticket x) = waiting := by
  refine (List.map_congr_left fun v hv => add_of_ne fun heq => ?_).trans (List.map_id' _)
  exact hother (List.mem_map.mpr ⟨v, hv, heq⟩)

theorem any_ticket_eq_false : (waiting.filterMap waiting?).any (·.ticket == ticket) = false := by
  rw [List.any_eq_false]
  intro c hc heq
  obtain ⟨v, hv, hc⟩ := List.mem_filterMap.mp hc
  rw [ticket_of_waiting? hc, beq_iff_eq] at heq
  exact hother (List.mem_map.mpr ⟨v, hv, heq⟩)

end Others

/-- Calls that are dropped as they wait go on record once. -/
theorem perm_dropped_add {waiting : List Visit} (hnodup : (waiting.map (·.call.ticket)).Nodup) :
    ((waiting.map (·.add ticket (t, .drop))).filterMap dropped?).Perm
      (waiting.filterMap dropped? ++
        if (waiting.filterMap waiting?).any (·.ticket == ticket) then [⟨ticket, none, t⟩]
        else []) := by
  induction waiting with
  | nil => exact .refl _
  | cons v waiting ih =>
    obtain ⟨hother, hnodup⟩ := List.nodup_cons.mp hnodup
    by_cases h : v.call.ticket = ticket
    · subst h
      -- No other call has the ticket.
      rw [List.map_cons, List.filterMap_cons_some dropped?_add_drop, map_add_of_notMem hother]
      cases hdrop : v.droppedAt? with
      | some u =>
        have hdropped : v.dropped? = some ⟨v.call.ticket, none, u⟩ := dropped?_of_droppedAt? hdrop
        have hwaiting : v.waiting? = none := by simp [waiting?, hdrop]
        rw [List.filterMap_cons_some hdropped, List.filterMap_cons_none hwaiting,
          any_ticket_eq_false hother]
        simp
      | none =>
        have hdropped : v.dropped? = none := by rw [dropped?, hdrop, Option.map_none]
        obtain ⟨c, hc⟩ : ∃ c, v.waiting? = some c := by simp [waiting?, hdrop]
        rw [List.filterMap_cons_none hdropped, List.filterMap_cons_some hc]
        simpa [ticket_of_waiting? hc] using (List.perm_append_singleton _ _).symm
    · rw [List.map_cons, add_of_ne h]
      have hany : ((v :: waiting).filterMap waiting?).any (·.ticket == ticket) =
          (waiting.filterMap waiting?).any (·.ticket == ticket) := by
        cases hc : v.waiting? with
        | none => rw [List.filterMap_cons_none hc]
        | some c => simp [List.filterMap_cons_some hc, ticket_of_waiting? hc, h]
      rw [hany]
      cases hdropped : v.dropped? with
      | none =>
        rw [List.filterMap_cons_none hdropped, List.filterMap_cons_none hdropped]
        exact ih hnodup
      | some e =>
        rw [List.filterMap_cons_some hdropped, List.filterMap_cons_some hdropped]
        exact (ih hnodup).cons e

end Visit

/-! ### Moves to come -/

section Moves

variable {ms : List (Nat × Bench.Move)} {t ticket other : Nat} {w : Withdrawal}

/-- The tickets of the calls that are made in the course of moves. -/
def ticketsOf (ms : List (Nat × Bench.Move)) : List Nat :=
  (visitsOf ms).map (·.call.ticket)

theorem exists_of_mem_withdrawalsOf {x : Nat × Withdrawal} (h : x ∈ withdrawalsOf ticket ms) :
    ∃ m ∈ ms, m.1 = x.1 := by
  obtain ⟨⟨t, m⟩, hm, hx⟩ := List.mem_filterMap.mp h
  refine ⟨(t, m), hm, ?_⟩
  cases m with
  | call c => cases hx
  | cancel other | abort other =>
    dsimp only at hx
    split at hx
    · cases hx
      rfl
    · cases hx

theorem le_of_mem_withdrawalsOf (h : ∀ m ∈ ms, t ≤ m.1) :
    ∀ x ∈ withdrawalsOf ticket ms, t ≤ x.1 := by
  intro x hx
  obtain ⟨m, hm, hmx⟩ := exists_of_mem_withdrawalsOf hx
  exact hmx ▸ h m hm

theorem withdrawalsOf_move_self :
    withdrawalsOf ticket ((t, w.move ticket) :: ms) = (t, w) :: withdrawalsOf ticket ms := by
  cases w <;> simp [withdrawalsOf, Withdrawal.move]

theorem withdrawalsOf_move_ne (h : ticket ≠ other) :
    withdrawalsOf other ((t, w.move ticket) :: ms) = withdrawalsOf other ms := by
  cases w <;> simp [withdrawalsOf, Withdrawal.move, h]

theorem visitsOf_move : visitsOf ((t, w.move ticket) :: ms) = visitsOf ms := by
  cases w <;> rfl

theorem ticketsOf_move : ticketsOf ((t, w.move ticket) :: ms) = ticketsOf ms := by
  rw [ticketsOf, visitsOf_move, ticketsOf]

theorem Visit.complete_of_ne {v : Visit} (h : ticket ≠ v.call.ticket) :
    v.complete ((t, w.move ticket) :: ms) = v.complete ms := by
  rw [complete, complete, withdrawalsOf_move_ne h]

theorem Visit.complete_add (v : Visit) :
    (v.add ticket (t, w)).complete ms = v.complete ((t, w.move ticket) :: ms) := by
  rw [Visit.add]
  split
  · next h =>
    subst h
    simp only [complete, withdrawalsOf_move_self, List.append_assoc, List.cons_append,
      List.nil_append]
  · next h => simp only [complete, withdrawalsOf_move_ne (Ne.symm h)]

end Moves

end ModemLink
