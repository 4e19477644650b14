import ModemLink.Proofs.Port.Backlog

/-!
# Calls that overlap

Calls may come while others have the port or wait for it, and may be cancelled or dropped where they
are. A move lets time pass for the port first. Then a call gets a port that is free or joins those
that wait; a withdrawal ends the call that has the port, so that the others are served, or it is
noted with a call that waits. Each move leaves the port in between, so that in the end the calls
have come to what they come to one after another.

## Main definitions

* `Port.settle`: a port after moves, when all calls are over.

## Main results

* `Port.unrolls_call_of_busy`, `Port.unrolls_call_of_idle`: a call is made.
* `Port.unrolls_withdrawal_of_holder`: the call that has the port is withdrawn.
* `Port.Backlog.cancel`, `Port.Backlog.drop`: a call that waits is withdrawn.
* `Port.Backlog.unrolls`: moves that are made in order.
-/

namespace ModemLink.Port

open Bench (Move)

variable {p final : Port} {horizon : Horizon} {ms : List (Nat × Move)} {t since ticket : Nat}
  {prior : List Ended} {waiting : List Visit} {w : Withdrawal} {x : Exchange}

/-- The port after moves, when all calls are over. -/
def settle : List (Nat × Move) → Port → Port
  | [], p => (p.advance .unbounded).value
  | (t, m) :: ms, p => settle ms (m.apply t p).value

theorem between_upTo (h : ∀ m ∈ ms, t ≤ m.1) : Between t (.upTo t) ms where
  since u hu := by
    simp only [Horizon.admits, decide_eq_true_eq] at hu ⊢
    omega
  later m hm := by
    rcases Nat.eq_or_lt_of_le (h m hm) with heq | hlt
    · exact .inr (congrArg _ heq)
    · refine .inl fun u hu => ?_
      simp only [Horizon.admits, decide_eq_true_eq] at hu ⊢
      omega

theorem between_horizon (h : ∀ m ∈ ms, t ≤ m.1) (w : Withdrawal) :
    Between t (w.horizon t) ms := by
  cases w with
  | cancel =>
    refine ⟨fun u hu => hu, fun m hm => .inl fun u hu => ?_⟩
    have hle := h m hm
    simp only [Withdrawal.horizon, Horizon.admits, decide_eq_true_eq] at hu ⊢
    omega
  | drop => exact between_upTo h

section Moves

variable (hclock : ∀ m ∈ ms, t ≤ m.1) {next : Port}
  (hrest : ∀ prior waiting, Backlog ms prior waiting t next → Unrolls ms prior waiting next final)
include hclock hrest

/-! ### Calls -/

/-- A call joins the calls that wait. -/
theorem unrolls_call_of_busy {c : Call} (hx : x ∈ p.active)
    (h : Backlog ((t, .call c) :: ms) prior waiting t p)
    (hnext : next = { p.elapse t with queue := p.queue ++ [c] }) :
    Unrolls ((t, .call c) :: ms) prior waiting p final := by
  have hp : p.clock ≤ t := h.clock_le _ List.mem_cons_self
  have hactive : next.active = p.active := by rw [hnext]; rfl
  have hbacklog : Backlog ms prior (waiting ++ [⟨c, t, []⟩]) t next :=
    { queue := by
        rw [hnext, List.filterMap_append, ← h.queue,
          List.filterMap_cons_some (Visit.waiting?_new c)]
        rfl
      ended := by
        rw [hnext, List.filterMap_append]
        exact (List.append_nil (waiting.filterMap _)).symm ▸ h.ended
      idle := fun hidle => (Option.some_ne_none x ((hactive.trans hx).symm.trans hidle)).elim
      rests := by
        rw [hnext]
        exact h.rests.elapse
      past := by
        refine List.forall_mem_append.mpr ⟨h.past, fun v hv => ?_⟩
        rw [List.mem_singleton.mp hv]
        exact ⟨Nat.le_refl t, by simp⟩
      clock_le := by
        rw [hnext]
        exact fun m hm => Nat.max_le.mpr ⟨Nat.le_trans hp (hclock m hm), hclock m hm⟩
      tickets := by
        have htickets := h.tickets
        simpa [ticketsOf, visitsOf, hactive] using htickets }
  have hfirst := (hrest prior _ hbacklog).busy x (hactive.trans hx)
  rw [List.map_append, List.append_assoc, hnext] at hfirst
  have hlater : ∀ y ∈ withdrawalsOf x.call.ticket ms, t ≤ y.1 := le_of_mem_withdrawalsOf hclock
  exact unrolls_of_busy hx (hfirst.of_concludes fun p' hp' => hp'.of_elapse (h.alone hx) hlater)

/-- A call gets a port that is free. -/
theorem unrolls_call_of_idle {c : Call} (hidle : p.active = none)
    (h : Backlog ((t, .call c) :: ms) prior waiting t p)
    (hnext : next = (serve (.upTo t) [c] (p.elapse t)).value) :
    Unrolls ((t, .call c) :: ms) prior waiting p final := by
  have hnil := h.idle hidle
  subst hnil
  have hstart : (⟨c, t, []⟩ : Visit).start p = t :=
    Nat.max_eq_right (h.clock_le _ List.mem_cons_self)
  have hadmits : (Horizon.upTo t).admits t = true := by simp [Horizon.admits]
  have hpast : (⟨c, t, []⟩ : Visit).Past t := ⟨Nat.le_refl t, by simp⟩
  have hpending : Pending ms prior [⟨c, t, []⟩] t p := by
    refine ⟨hidle, h.ended, fun v hv => List.mem_singleton.mp hv ▸ hpast, ?_⟩
    have htickets := h.tickets
    rw [hidle] at htickets
    exact htickets
  have hlater := between_upTo hclock
  have hserved (prior : List Ended) (waiting : List Visit) (hb : Backlog ms prior waiting t next)
      (_ : next.Rests (.upTo t)) := hrest prior waiting hb
  refine unrolls_of_idle hidle (hpending.serially_of_head hlater hserved (Visit.waiting?_new c)
    (hstart.symm ▸ hpast) (hstart.symm ▸ hadmits) (hstart.symm ▸ hnext) ?_)
  exact fun e b hb _ hadmits hnext => hb.serially hlater hserved hadmits (by simp) hnext

/-! ### Withdrawals -/

/-- The call that has the port is withdrawn, and those that wait are served. -/
theorem unrolls_withdrawal_of_holder (hx : x ∈ p.active)
    (h : Backlog ((t, w.move x.call.ticket) :: ms) prior waiting t p)
    (hrests : p.Rests (w.horizon t))
    (hnext : next = (serve (.upTo t) p.queue (w.close x.call (p.elapse t))).value) :
    Unrolls ((t, w.move x.call.ticket) :: ms) prior waiting p final := by
  have hnow : (p.elapse t).clock = t := Nat.max_eq_right (h.clock_le _ List.mem_cons_self)
  have htickets := h.tickets
  rw [Option.mem_def.mp hx, Option.toList_some, List.map_singleton, List.singleton_append,
    List.nodup_cons, ticketsOf_move] at htickets
  have hserially : Serially (w.close x.call (p.elapse t)).bare
      (waiting.map (·.complete ms) ++ visitsOf ms)
      (prior ++ [⟨x.call.ticket, w.answer, (p.elapse t).clock⟩]) final := by
    have hpending : Pending ms _ waiting t (w.close x.call (p.elapse t)) :=
      .of_ended (active_close ..) (ended_close ..) h.ended h.past htickets.2
    have hclosed : (w.close x.call (p.elapse t)).clock = t := (clock_close ..).trans hnow
    exact hpending.serially (between_upTo hclock) (fun prior waiting hb _ => hrest prior waiting hb)
      (by simp [hclosed, Horizon.admits]) (fun v hv => hclosed.symm ▸ h.past v hv)
      (h.queue ▸ hnext)
  -- Alone, the call comes to the same end.
  have hadvance : (p.bare.advance (w.horizon t)).value = p.bare := by
    rw [(h.alone hx).value_advance, Rests.goOn_eq (p := p.bare) hrests]
    rfl
  have hvacant : (w.close x.call (p.bare.elapse t)).Vacant := ⟨active_close .., queue_close ..⟩
  have happly : ((w.move x.call.ticket).apply t p.bare).value =
      w.close x.call (p.bare.elapse t) := by
    rw [value_apply_of_holder (hadvance.symm ▸ hx), hadvance, hvacant.queue]
    exact withQueue_eq hvacant.queue
  have hcomplete : waiting.map (·.complete ((t, w.move x.call.ticket) :: ms)) =
      waiting.map (·.complete ms) := by
    refine List.map_congr_left fun v hv => Visit.complete_of_ne fun heq => htickets.1 ?_
    exact List.mem_append_left _ (List.mem_map.mpr ⟨v, hv, heq.symm⟩)
  refine unrolls_of_busy hx ⟨w.close x.call (p.bare.elapse t), w.answer, ?_, ?_, ?_, ?_⟩
  · rw [withdrawalsOf_move_self]
    exact .withdrawn (happly.symm ▸ hvacant.concludes ..)
  · rw [clock_close]
    exact ended_close w x.call (p.bare.elapse t)
  · rw [clock_close]
    exact Nat.le_trans (Nat.le_of_eq hnow) (Nat.le_trans (h.rests x hx).of_before.1 x.limit_le)
  · rw [close_bare] at hserially
    rw [hcomplete, visitsOf_move, ended_close]
    exact hserially

omit hclock in
/-- A withdrawal from a port that is free changes nothing. -/
theorem unrolls_withdrawal_of_idle (hidle : p.active = none)
    (h : Backlog ((t, w.move ticket) :: ms) prior waiting t p) (hnext : next = p) :
    Unrolls ((t, w.move ticket) :: ms) prior waiting p final := by
  subst hnext
  have htickets := h.tickets
  rw [ticketsOf_move] at htickets
  have hunrolls := hrest prior waiting
    { h with clock_le := fun m hm => h.clock_le m (List.mem_cons_of_mem _ hm), tickets := htickets }
  refine unrolls_of_idle hidle ?_
  rw [visitsOf_move]
  exact hunrolls.idle hidle

/-- A call that waits is withdrawn, and another goes on with the port. -/
theorem unrolls_withdrawal_of_waiting (hx : x ∈ p.active) (hne : ticket ≠ x.call.ticket)
    (h : Backlog ((t, w.move ticket) :: ms) prior waiting t p)
    (hnext : Backlog ms prior (waiting.map (·.add ticket (t, w))) t next)
    (hbare : next.bare = p.bare ∨ next.bare = p.bare.elapse t) :
    Unrolls ((t, w.move ticket) :: ms) prior waiting p final := by
  have hactive : next.active = p.active := hbare.elim (congrArg active) (congrArg active)
  have hfirst := (hrest prior _ hnext).busy x (hactive.trans hx)
  rw [List.map_map] at hfirst
  simp only [Function.comp_def, Visit.complete_add] at hfirst
  refine unrolls_of_busy hx ?_
  rw [visitsOf_move, withdrawalsOf_move_ne hne]
  refine hfirst.of_concludes fun p' hp' => ?_
  rcases hbare with hbare | hbare
  · exact hbare ▸ hp'
  · exact (hbare ▸ hp').of_elapse (h.alone hx) (le_of_mem_withdrawalsOf hclock)

end Moves

/-- A withdrawal is noted with the call that waits. -/
theorem Backlog.add {next : Port} (h : Backlog ((t, w.move ticket) :: ms) prior waiting t p)
    (hqueue : next.queue = (waiting.map (·.add ticket (t, w))).filterMap Visit.waiting?)
    (hended : next.ended.Perm
      (prior ++ (waiting.map (·.add ticket (t, w))).filterMap Visit.dropped?))
    (hactive : next.active = p.active) (hrests : next.Rests (.before t))
    (hclock : ∀ m ∈ ms, next.clock ≤ m.1) :
    Backlog ms prior (waiting.map (·.add ticket (t, w))) t next where
  queue := hqueue
  ended := hended
  idle hidle := by
    rw [h.idle (hactive.symm.trans hidle)]
    rfl
  rests := hrests
  past := by
    intro v' hv'
    obtain ⟨v, hv, rfl⟩ := List.mem_map.mp hv'
    exact (h.past v hv).add w
  clock_le := hclock
  tickets := by
    have htickets := h.tickets
    rw [ticketsOf_move] at htickets
    rw [hactive, List.map_map]
    simpa only [Function.comp_def, Visit.ticket_add] using htickets

/-- A call that waits is cancelled. -/
theorem Backlog.cancel (h : Backlog ((t, .cancel ticket) :: ms) prior waiting t p) :
    Backlog ms prior (waiting.map (·.add ticket (t, .cancel))) t
      { p with
        queue := p.queue.map fun c =>
          if c.ticket = ticket then { c with cancelled := true } else c } := by
  refine h.add (w := .cancel) ?_ ?_ rfl h.rests
    fun m hm => h.clock_le m (List.mem_cons_of_mem _ hm)
  · rw [List.filterMap_map, Function.comp_def]
    simp only [h.queue, List.map_filterMap, Visit.waiting?_add_cancel]
  · rw [List.filterMap_map, Function.comp_def]
    simpa only [Visit.dropped?_add_cancel] using h.ended

section Drop

variable (h : Backlog ((t, .abort ticket) :: ms) prior waiting t p)
include h

theorem Backlog.queue_drop :
    (waiting.map (·.add ticket (t, .drop))).filterMap Visit.waiting? =
      p.queue.filter (·.ticket != ticket) := by
  rw [List.filterMap_map, Function.comp_def]
  simp only [h.queue, List.filter_filterMap, Visit.waiting?_add_drop]

theorem Backlog.perm_drop :
    (prior ++ (waiting.map (·.add ticket (t, .drop))).filterMap Visit.dropped?).Perm
      (p.ended ++
        if p.queue.any (·.ticket == ticket) then [⟨ticket, none, t⟩] else []) := by
  have htickets := ((List.nodup_append.mp h.tickets).2.1.sublist (List.sublist_append_left ..))
  rw [h.queue]
  refine ((Visit.perm_dropped_add htickets).append_left prior).trans ?_
  rw [← List.append_assoc]
  exact h.ended.symm.append_right _

/-- A call that waits is dropped, and goes on record. -/
theorem Backlog.drop (hclock : ∀ m ∈ ms, t ≤ m.1)
    (hany : p.queue.any (·.ticket == ticket) = true) :
    Backlog ms prior (waiting.map (·.add ticket (t, .drop))) t
      { p.elapse t with
        queue := p.queue.filter (·.ticket != ticket)
        ended := p.ended ++ [⟨ticket, none, (p.elapse t).clock⟩] } := by
  have hnow : (p.elapse t).clock = t := Nat.max_eq_right (h.clock_le _ List.mem_cons_self)
  have hperm := h.perm_drop
  rw [hany, if_pos rfl] at hperm
  refine h.add (w := .drop) h.queue_drop.symm ?_ rfl h.rests.elapse
    fun m hm => Nat.le_trans (Nat.le_of_eq hnow) (hclock m hm)
  rw [hnow]
  exact hperm.symm

/-- A call that does not wait any more is not dropped. -/
theorem Backlog.not_drop (hany : p.queue.any (·.ticket == ticket) = false) :
    Backlog ms prior (waiting.map (·.add ticket (t, .drop))) t p := by
  have hperm := h.perm_drop
  rw [hany, if_neg Bool.false_ne_true, List.append_nil] at hperm
  have hqueue : p.queue.filter (·.ticket != ticket) = p.queue := by
    rw [List.filter_eq_self]
    rw [List.any_eq_false] at hany
    simpa using hany
  exact h.add (w := .drop) (hqueue.symm.trans h.queue_drop.symm) hperm.symm rfl h.rests
    fun m hm => h.clock_le m (List.mem_cons_of_mem _ hm)

end Drop

/-! ### Moves on a port that time passes for -/

/-- A call joins the others if the port is taken. -/
theorem value_call_of_busy {c : Call} (hx : x ∈ (p.advance (.upTo t)).value.active) :
    (p.call t c).value =
      { (p.advance (.upTo t)).value.elapse t with
        queue := (p.advance (.upTo t)).value.queue ++ [c] } := by
  have hactive : ((p.advance (.upTo t)).value.elapse t).active.isSome = true := by
    rw [Option.isSome_iff_exists]
    exact ⟨x, hx⟩
  rw [call, Logged.value_bind]
  dsimp only
  rw [if_pos hactive]
  rfl

section Step

variable (h : Backlog ((t, w.move ticket) :: ms) prior waiting t (p.advance (w.horizon t)).value)
  (hclock : ∀ m ∈ ms, t ≤ m.1)
  (hx : x ∈ (p.advance (w.horizon t)).value.active) (hne : ticket ≠ x.call.ticket)
include h hclock hx hne

/-- The withdrawal of a call that does not have the port leaves it to the one that has it. -/
theorem Backlog.apply_withdrawal :
    Backlog ms prior (waiting.map (·.add ticket (t, w))) t ((w.move ticket).apply t p).value ∧
      (((w.move ticket).apply t p).value.bare = (p.advance (w.horizon t)).value.bare ∨
        ((w.move ticket).apply t p).value.bare =
          (p.advance (w.horizon t)).value.bare.elapse t) := by
  have hactive : (p.advance (w.horizon t)).value.activeOf? ticket = none := by
    rw [activeOf?, Option.mem_def.mp hx, Option.filter_some, if_neg]
    simpa using Ne.symm hne
  cases w with
  | cancel =>
    have hvalue : (p.cancel t ticket).value =
        { (p.advance (.before t)).value with
          queue := (p.advance (.before t)).value.queue.map fun c =>
            if c.ticket = ticket then { c with cancelled := true } else c } := by
      change (p.advance (.before t)).value.activeOf? ticket = none at hactive
      rw [Port.cancel, Logged.value_bind, hactive]
      rfl
    change Backlog _ _ _ _ (p.cancel t ticket).value ∧ _
    exact ⟨hvalue ▸ Backlog.cancel h, .inl (hvalue ▸ rfl)⟩
  | drop =>
    change (p.advance (.upTo t)).value.activeOf? ticket = none at hactive
    change Backlog _ _ _ _ (p.abort t ticket).value ∧ _
    cases hany : (p.advance (.upTo t)).value.queue.any (·.ticket == ticket) with
    | true =>
      have hvalue : (p.abort t ticket).value =
          { (p.advance (.upTo t)).value.elapse t with
            queue := (p.advance (.upTo t)).value.queue.filter (·.ticket != ticket)
            ended := (p.advance (.upTo t)).value.ended ++
              [⟨ticket, none, ((p.advance (.upTo t)).value.elapse t).clock⟩] } := by
        rw [Port.abort, Logged.value_bind, hactive]
        dsimp only
        rw [if_pos hany]
        rfl
      exact ⟨hvalue ▸ Backlog.drop h hclock hany, .inr (hvalue ▸ rfl)⟩
    | false =>
      have hvalue : (p.abort t ticket).value = (p.advance (.upTo t)).value := by
        rw [Port.abort, Logged.value_bind, hactive]
        dsimp only
        rw [hany]
        rfl
      exact ⟨hvalue ▸ Backlog.not_drop h hany, .inl (hvalue ▸ rfl)⟩

end Step

/-- Calls at a port and those to come are served one after another, however they overlap. -/
theorem Backlog.unrolls (h : Backlog ms prior waiting since p) (hsince : ∀ m ∈ ms, since ≤ m.1)
    (hsorted : ms.Pairwise fun m m' => m.1 ≤ m'.1) :
    Unrolls ms prior waiting p (settle ms p) := by
  induction ms generalizing p prior waiting since with
  | nil =>
    refine h.unrolls_of_advance (Nat.le_refl since) ⟨Horizon.within_unbounded _, by simp⟩
      fun prior waiting hb hrests => ?_
    have hidle := hrests.active_eq
    have hnil := hb.idle hidle
    subst hnil
    refine ⟨fun _ => ⟨⟨hidle, hb.queue⟩, [], .nil _, hb.ended⟩, fun x hx => ?_⟩
    exact (Option.some_ne_none x (hx.symm.trans hidle)).elim
  | cons m ms ih =>
    obtain ⟨t, m⟩ := m
    obtain ⟨hclock, hsorted⟩ := List.pairwise_cons.mp hsorted
    have ht : since ≤ t := hsince _ List.mem_cons_self
    have hmoves : ∀ m' ∈ (t, m) :: ms, t ≤ m'.1 := List.forall_mem_cons.mpr ⟨Nat.le_refl t, hclock⟩
    have hrest (prior : List Ended) (waiting : List Visit)
        (hb : Backlog ms prior waiting t (m.apply t p).value) :
        Unrolls ms prior waiting (m.apply t p).value (settle ms (m.apply t p).value) :=
      ih hb hclock hsorted
    have hwithdrawal {w : Withdrawal} {ticket : Nat} (hm : m = w.move ticket) :
        Unrolls ((t, m) :: ms) prior waiting p (settle ms (m.apply t p).value) := by
      subst hm
      refine h.unrolls_of_advance ht (between_horizon hmoves w) fun prior waiting hb hrests => ?_
      cases hactive : (p.advance (w.horizon t)).value.active with
      | none =>
        have hqueue : (p.advance (w.horizon t)).value.queue = [] := by
          rw [hb.queue, hb.idle hactive]
          rfl
        exact unrolls_withdrawal_of_idle hrest hactive hb
          (value_apply_of_idle hactive hqueue ticket)
      | some x =>
        by_cases hne : ticket = x.call.ticket
        · subst hne
          refine unrolls_withdrawal_of_holder hclock hrest hactive hb hrests ?_
          rw [value_apply_of_holder hactive, queue_close]
          rfl
        · obtain ⟨hnext, hbare⟩ := hb.apply_withdrawal hclock hactive hne
          exact unrolls_withdrawal_of_waiting hclock hrest hactive hne hb hnext hbare
    cases m with
    | call c =>
      refine h.unrolls_of_advance ht (between_upTo hmoves) fun prior waiting hb _ => ?_
      cases hactive : (p.advance (.upTo t)).value.active with
      | none => exact unrolls_call_of_idle hclock hrest hactive hb (value_call_of_idle hactive)
      | some x => exact unrolls_call_of_busy hclock hrest hactive hb (value_call_of_busy hactive)
    | cancel ticket => exact hwithdrawal (w := .cancel) rfl
    | abort ticket => exact hwithdrawal (w := .drop) rfl

end ModemLink.Port
