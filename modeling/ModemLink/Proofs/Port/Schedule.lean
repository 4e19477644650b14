import Mathlib.Data.List.Perm.Subperm
import ModemLink.Proofs.Port.Waiting

/-!
# The schedule of calls on the bench

The moves of a step on the bench are made by instant, and moves of one instant in the order of the
attempts. So the calls of the attempts are made in order, each with its withdrawals after it.

## Main definitions

* `Bench.Attempt.call`, `Bench.Attempt.withdrawals`: what the caller of an attempt does.

## Main results

* `Bench.pairwise_schedule`, `Bench.nodup_ticketsOf`: moves in order, and calls told apart.
* `Bench.perm_calls`: every attempt makes its call.
* `Bench.visit_schedule`: a call with what its caller does about it is that of an attempt.
-/

namespace ModemLink

/-- The call that is made by a move, if it is one. -/
def Bench.Move.call? : Bench.Move → Option Call
  | call c => some c
  | _ => none

section Visits

variable {ms : List (Nat × Bench.Move)}

theorem map_call_visitsOf (ms : List (Nat × Bench.Move)) :
    (visitsOf ms).map (·.call) = ms.filterMap (·.2.call?) := by
  induction ms with
  | nil => rfl
  | cons m ms ih =>
    obtain ⟨t, m⟩ := m
    cases m with
    | call c => exact congrArg (c :: ·) ih
    | cancel ticket | abort ticket => exact ih

theorem ticketsOf_eq (ms : List (Nat × Bench.Move)) :
    ticketsOf ms = (ms.filterMap (·.2.call?)).map (·.ticket) := by
  rw [← map_call_visitsOf, List.map_map]
  rfl

theorem sublist_visitsOf (ms : List (Nat × Bench.Move)) :
    ((visitsOf ms).map (·.calledAt)).Sublist (ms.map (·.1)) := by
  induction ms with
  | nil => exact .slnil
  | cons m ms ih =>
    obtain ⟨t, m⟩ := m
    cases m with
    | call c => exact ih.cons_cons t
    | cancel ticket | abort ticket => exact ih.cons t

/-- Calls of moves that are in order are in order. -/
theorem pairwise_visitsOf (h : ms.Pairwise fun m m' => m.1 ≤ m'.1) :
    (visitsOf ms).Pairwise fun v v' => v.calledAt ≤ v'.calledAt :=
  List.pairwise_map.mp ((List.pairwise_map.mpr h).sublist (sublist_visitsOf ms))

/-- A call comes before all that is done about it. -/
theorem exists_of_mem_visitsOf {v : Visit} (h : v ∈ visitsOf ms) :
    ∃ before after, ms = before ++ (v.calledAt, .call v.call) :: after ∧
      v.withdrawals = withdrawalsOf v.call.ticket after := by
  induction ms with
  | nil => cases h
  | cons m ms ih =>
    obtain ⟨t, m⟩ := m
    have hlater (h : v ∈ visitsOf ms) :
        ∃ before after, (t, m) :: ms = before ++ (v.calledAt, .call v.call) :: after ∧
          v.withdrawals = withdrawalsOf v.call.ticket after := by
      obtain ⟨before, after, rfl, hwithdrawals⟩ := ih h
      exact ⟨(t, m) :: before, after, rfl, hwithdrawals⟩
    cases m with
    | call c =>
      rcases List.mem_cons.mp h with rfl | h
      · exact ⟨[], ms, rfl, rfl⟩
      · exact hlater h
    | cancel ticket | abort ticket => exact hlater h

end Visits

namespace Bench

variable {start : Nat} {attempts : List Attempt}

/-! ### Attempts -/

/-- The call of an attempt whose ticket is its place. -/
def Attempt.call (a : Attempt) (ticket : Nat) : Call :=
  ⟨ticket, a.command, a.cancelAt == some 0⟩

/-- What the caller of an attempt does after the call. -/
def Attempt.withdrawals (a : Attempt) (called : Nat) : List (Nat × Withdrawal) :=
  ((a.cancelAt.filter (· != 0)).toList.map fun t => (called + t, .cancel)) ++
    a.abortAt.toList.map fun t => (called + t, .drop)

theorem Attempt.moves_eq (a : Attempt) (start ticket : Nat) :
    a.moves start ticket = (start + a.startAt, .call (a.call ticket)) ::
      (a.withdrawals (start + a.startAt)).map fun x => (x.1, x.2.move ticket) := by
  simp [moves, withdrawals, call, Withdrawal.move, Function.comp_def]

theorem Attempt.nodup_withdrawals (a : Attempt) (called : Nat) : (a.withdrawals called).Nodup := by
  rw [withdrawals]
  cases a.cancelAt.filter (· != 0) <;> cases a.abortAt <;> simp

theorem Attempt.le_of_mem_withdrawals (a : Attempt) (called : Nat) :
    ∀ x ∈ a.withdrawals called, called ≤ x.1 := by
  intro x hx
  rcases List.mem_append.mp hx with hx | hx
  all_goals
    obtain ⟨t, -, rfl⟩ := List.mem_map.mp hx
    exact Nat.le_add_right ..

theorem Attempt.filterMap_moves (a : Attempt) (start ticket : Nat) :
    (a.moves start ticket).filterMap (·.2.call?) = [a.call ticket] := by
  simp [moves, Move.call?, call]

theorem Attempt.withdrawalsOf_moves (a : Attempt) (start ticket other : Nat) :
    withdrawalsOf other (a.moves start ticket) =
      if ticket = other then a.withdrawals (start + a.startAt) else [] := by
  rw [moves_eq]
  change withdrawalsOf other (List.map _ _) = _
  generalize a.withdrawals (start + a.startAt) = xs
  induction xs with
  | nil => simp [withdrawalsOf]
  | cons x xs ih =>
    rw [List.map_cons]
    by_cases h : ticket = other
    · subst h
      rw [withdrawalsOf_move_self, ih, if_pos rfl, if_pos rfl]
    · rw [withdrawalsOf_move_ne h, ih, if_neg h, if_neg h]

/-- What is done about a call is done by one attempt. -/
theorem flatMap_withdrawals {as : List (Attempt × Nat)} (hnodup : (as.map (·.2)).Nodup)
    {a : Attempt} {ticket : Nat} (ha : (a, ticket) ∈ as) :
    withdrawalsOf ticket (as.flatMap fun a => a.1.moves start a.2) =
      a.withdrawals (start + a.startAt) := by
  rw [withdrawalsOf, List.filterMap_flatMap]
  change as.flatMap (fun a => withdrawalsOf ticket (a.1.moves start a.2)) = _
  simp only [Attempt.withdrawalsOf_moves]
  induction as with
  | nil => cases ha
  | cons b as ih =>
    obtain ⟨hother, hnodup⟩ := List.nodup_cons.mp hnodup
    rw [List.flatMap_cons]
    rcases List.mem_cons.mp ha with rfl | ha
    · have hnil : (as.flatMap fun b =>
          if b.2 = ticket then b.1.withdrawals (start + b.1.startAt) else []) = [] := by
        refine List.flatMap_eq_nil_iff.mpr fun b hb => if_neg fun heq => hother ?_
        exact List.mem_map.mpr ⟨b, hb, heq⟩
      rw [hnil, if_pos rfl, List.append_nil]
    · have hne : b.2 ≠ ticket := fun heq => hother (List.mem_map.mpr ⟨(a, ticket), ha, heq.symm⟩)
      rw [if_neg hne, List.nil_append]
      exact ih hnodup ha

/-! ### Moves in order -/

theorem perm_schedule (start : Nat) (attempts : List Attempt) :
    (schedule start attempts).Perm (attempts.zipIdx.flatMap fun a => a.1.moves start a.2) :=
  List.mergeSort_perm ..

theorem le_trans_move (m m' m'' : Nat × Move) (h : decide (m.1 ≤ m'.1) = true)
    (h' : decide (m'.1 ≤ m''.1) = true) : decide (m.1 ≤ m''.1) = true :=
  decide_eq_true (Nat.le_trans (of_decide_eq_true h) (of_decide_eq_true h'))

theorem le_total_move (m m' : Nat × Move) :
    (decide (m.1 ≤ m'.1) || decide (m'.1 ≤ m.1)) = true := by
  simpa using Nat.le_total m.1 m'.1

theorem pairwise_schedule (start : Nat) (attempts : List Attempt) :
    (schedule start attempts).Pairwise fun m m' => m.1 ≤ m'.1 := by
  have hsorted := List.pairwise_mergeSort le_trans_move le_total_move
    (attempts.zipIdx.flatMap fun a => a.1.moves start a.2)
  exact hsorted.imp of_decide_eq_true

theorem le_of_mem_schedule : ∀ m ∈ schedule start attempts, start ≤ m.1 := by
  intro m hm
  obtain ⟨a, -, hm⟩ := List.mem_flatMap.mp ((perm_schedule start attempts).mem_iff.mp hm)
  rw [Attempt.moves_eq] at hm
  rcases List.mem_cons.mp hm with rfl | hm
  · exact Nat.le_add_right ..
  · obtain ⟨x, hx, rfl⟩ := List.mem_map.mp hm
    exact Nat.le_trans (Nat.le_add_right ..) (a.1.le_of_mem_withdrawals _ x hx)

/-! ### Calls in order -/

/-- Every attempt makes its call. -/
theorem perm_calls (start : Nat) (attempts : List Attempt) :
    ((visitsOf (schedule start attempts)).map (·.call)).Perm
      (attempts.zipIdx.map fun a => a.1.call a.2) := by
  rw [map_call_visitsOf]
  refine ((perm_schedule start attempts).filterMap _).trans (.of_eq ?_)
  simp only [List.filterMap_flatMap, Attempt.filterMap_moves, List.map_eq_flatMap]

theorem nodup_ticketsOf (start : Nat) (attempts : List Attempt) :
    (ticketsOf (schedule start attempts)).Nodup := by
  have hperm := (perm_calls start attempts).map Call.ticket
  rw [List.map_map, List.map_map] at hperm
  refine hperm.nodup_iff.mpr ?_
  change (attempts.zipIdx.map Prod.snd).Nodup
  rw [List.zipIdx_map_snd]
  exact List.nodup_range' ..

/-- A call is made once. -/
theorem call_notMem_of_nodup {before after : List (Nat × Move)} {t : Nat} {c : Call}
    (h : (ticketsOf (before ++ (t, .call c) :: after)).Nodup) : (t, .call c) ∉ before := by
  intro hmem
  rw [ticketsOf_eq, List.filterMap_append, List.map_append, List.nodup_append] at h
  have hbefore : c ∈ before.filterMap (·.2.call?) := List.mem_filterMap.mpr ⟨_, hmem, rfl⟩
  exact h.2.2 _ (List.mem_map_of_mem hbefore) _ (List.mem_map_of_mem List.mem_cons_self) rfl

/-- The withdrawals of a call are made after the call. -/
theorem mem_after_of_mem_withdrawals {before after : List (Nat × Move)} {a : Attempt}
    {ticket : Nat} (ha : (a, ticket) ∈ attempts.zipIdx)
    (hsplit : schedule start attempts =
      before ++ (start + a.startAt, .call (a.call ticket)) :: after) :
    ∀ x ∈ a.withdrawals (start + a.startAt), x ∈ withdrawalsOf ticket after := by
  intro x hx
  have hpair : [(start + a.startAt, .call (a.call ticket)), (x.1, x.2.move ticket)].Sublist
      (schedule start attempts) := by
    refine List.pair_sublist_mergeSort le_trans_move le_total_move
      (decide_eq_true (a.le_of_mem_withdrawals _ x hx)) ?_
    have hmoves : a.moves start ticket ∈ attempts.zipIdx.map fun a => a.1.moves start a.2 :=
      List.mem_map.mpr ⟨(a, ticket), ha, rfl⟩
    refine .trans ?_ (List.sublist_flatten_of_mem hmoves)
    have hlater : [(x.1, x.2.move ticket)].Sublist
        ((a.withdrawals (start + a.startAt)).map fun x => (x.1, x.2.move ticket)) :=
      List.singleton_sublist.mpr (List.mem_map.mpr ⟨x, hx, rfl⟩)
    rw [Attempt.moves_eq]
    exact hlater.cons_cons _
  have honce := nodup_ticketsOf start attempts
  rw [hsplit] at hpair honce
  obtain ⟨left, right, heq, hleft, hright⟩ := List.sublist_append_iff.mp hpair
  have hafter : (x.1, x.2.move ticket) ∈ after := by
    cases left with
    | nil =>
      rw [List.nil_append] at heq
      rw [← heq] at hright
      exact List.singleton_sublist.mp (List.cons_sublist_cons.mp hright)
    | cons m left =>
      obtain ⟨rfl, -⟩ := List.cons.inj heq
      exact (call_notMem_of_nodup honce (hleft.subset List.mem_cons_self)).elim
  refine List.mem_filterMap.mpr ⟨_, hafter, ?_⟩
  obtain ⟨t, w⟩ := x
  cases w <;> simp [Withdrawal.move]

/-- A call with what its caller does about it is that of an attempt. -/
theorem visit_schedule {v : Visit} (hv : v ∈ visitsOf (schedule start attempts)) :
    ∃ a, attempts[v.call.ticket]? = some a ∧ v.call = a.call v.call.ticket ∧
      v.calledAt = start + a.startAt ∧ v.withdrawals.Perm (a.withdrawals v.calledAt) := by
  obtain ⟨before, after, hsplit, hwithdrawals⟩ := exists_of_mem_visitsOf hv
  have hperm := perm_schedule start attempts
  have hmem : (v.calledAt, .call v.call) ∈ schedule start attempts := by simp [hsplit]
  obtain ⟨⟨a, ticket⟩, ha, hmove⟩ := List.mem_flatMap.mp (hperm.mem_iff.mp hmem)
  dsimp only at hmove
  rw [Attempt.moves_eq] at hmove
  have hcall : (v.calledAt, Move.call v.call) = (start + a.startAt, .call (a.call ticket)) := by
    rcases List.mem_cons.mp hmove with heq | hmove
    · exact heq
    · obtain ⟨⟨t, w⟩, -, heq⟩ := List.mem_map.mp hmove
      cases w <;> cases heq
  obtain ⟨hcalledAt, hcall⟩ := Prod.mk.inj hcall
  have hcall := Move.call.inj hcall
  have hticket : v.call.ticket = ticket := congrArg Call.ticket hcall
  rw [hcall, hcalledAt] at hsplit
  rw [hticket] at hwithdrawals ⊢
  refine ⟨a, List.mk_mem_zipIdx_iff_getElem?.mp ha, hcall, hcalledAt, ?_⟩
  have hall : withdrawalsOf ticket (attempts.zipIdx.flatMap fun a => a.1.moves start a.2) =
      a.withdrawals (start + a.startAt) := by
    refine flatMap_withdrawals ?_ ha
    rw [List.zipIdx_map_snd]
    exact List.nodup_range' ..
  rw [hwithdrawals, hcalledAt]
  refine List.Subperm.antisymm ?_ ?_
  · have hafter : (withdrawalsOf ticket after).Sublist
        (withdrawalsOf ticket (schedule start attempts)) := by
      rw [hsplit]
      exact ((List.sublist_cons_self ..).trans (List.sublist_append_right ..)).filterMap _
    rw [← hall]
    exact hafter.subperm.trans (hperm.filterMap _).subperm
  · exact (a.nodup_withdrawals _).subperm (mem_after_of_mem_withdrawals ha hsplit)

end Bench

end ModemLink
