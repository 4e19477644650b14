import ModemLink.Proofs.Port.Waiting

/-!
# Calls at a port in between

Calls that are made one after another are what the calls at a port come to. In between, one call may
have the port and others wait for it. The one that has it goes on as if it was alone, and the others
are served when it is over, in the order of the queue.

Time passes for a port in steps, up to a horizon that lies before the next move or at it. When time
passes, the call that has the port keeps it, or it is over and the others get the port in turn,
until one of them keeps it. So what holds of the port at the end of the horizon tells what holds of
it now.

## Main definitions

* `Port.Backlog`: the calls that wait behind another, and what is on record of them.
* `Port.Serially`: a port on which calls come to what they come to one after another.
* `Port.Unrolls`: a port in between, from which the same is true.

## Main results

* `Port.Pending.serially`: calls that wait for a free port are served in turn.
* `Port.Backlog.unrolls_of_advance`: time passes for a port in between.
-/

namespace ModemLink

namespace Port

/-- A horizon lies between an instant, to which a port has waited, and moves to come. -/
structure Between (since : Nat) (horizon : Horizon) (ms : List (Nat × Bench.Move)) : Prop where
  since : (Horizon.before since).Within horizon
  later : ∀ m ∈ ms, horizon.Within (.before m.1) ∨ horizon = .upTo m.1

/-- Calls that wait for a port that is free, in order. Those that were dropped are among them. -/
structure Pending (ms : List (Nat × Bench.Move)) (prior : List Ended) (waiting : List Visit)
    (since : Nat) (p : Port) : Prop where
  active : p.active = none
  /-- On record are calls that are told already, and those that were dropped. -/
  ended : p.ended.Perm (prior ++ waiting.filterMap Visit.dropped?)
  past : ∀ v ∈ waiting, v.Past since
  tickets : (waiting.map (·.call.ticket) ++ ticketsOf ms).Nodup

/-- Calls that wait at an instant behind the one that has the port, in order. -/
structure Backlog (ms : List (Nat × Bench.Move)) (prior : List Ended) (waiting : List Visit)
    (since : Nat) (p : Port) : Prop where
  queue : p.queue = waiting.filterMap Visit.waiting?
  ended : p.ended.Perm (prior ++ waiting.filterMap Visit.dropped?)
  idle : p.active = none → waiting = []
  rests : p.Rests (.before since)
  past : ∀ v ∈ waiting, v.Past since
  clock_le : ∀ m ∈ ms, p.clock ≤ m.1
  tickets : (p.active.toList.map (·.call.ticket) ++
    (waiting.map (·.call.ticket) ++ ticketsOf ms)).Nodup

/-- Calls on a port come to what they come to one after another. On record there are also those that
are told already. -/
def Serially (p : Port) (visits : List Visit) (prior : List Ended) (final : Port) : Prop :=
  final.Vacant ∧ ∃ es, InTurn p visits es final.bare ∧ final.ended.Perm (prior ++ es)

/-- A call that has the port to itself is over in time, and other calls come to what they come to
one after another on the port that it leaves. -/
def GoesFirst (p : Port) (ticket deadline : Nat) (withdrawals : List (Nat × Withdrawal))
    (others : List Visit) (prior : List Ended) (final : Port) : Prop :=
  ∃ p' answer, Concludes ticket withdrawals p p' ∧
    p'.ended = [⟨ticket, answer, p'.clock⟩] ∧ p'.clock ≤ deadline ∧
    Serially p'.bare others (prior ++ p'.ended) final

/-- The calls at a port and those to come are served one after another. -/
structure Unrolls (ms : List (Nat × Bench.Move)) (prior : List Ended) (waiting : List Visit)
    (p final : Port) : Prop where
  idle : p.active = none → Serially p.bare (visitsOf ms) prior final
  busy : ∀ x ∈ p.active, GoesFirst p.bare x.call.ticket x.deadline
    (withdrawalsOf x.call.ticket ms) (waiting.map (·.complete ms) ++ visitsOf ms) prior final

variable {p final : Port} {horizon : Horizon} {ms : List (Nat × Bench.Move)} {since : Nat}
  {prior : List Ended} {v : Visit} {waiting : List Visit}

/-- A call that is over goes on record before the calls that wait and were dropped. -/
theorem Pending.of_ended {q : Port} {e : Ended} (hidle : q.active = none)
    (hq : q.ended = p.ended ++ [e])
    (hended : p.ended.Perm (prior ++ waiting.filterMap Visit.dropped?))
    (hpast : ∀ v ∈ waiting, v.Past since)
    (htickets : (waiting.map (·.call.ticket) ++ ticketsOf ms).Nodup) :
    Pending ms (prior ++ [e]) waiting since q := by
  refine ⟨hidle, ?_, hpast, htickets⟩
  rw [hq]
  refine (hended.append_right [e]).trans ?_
  rw [List.append_assoc, List.append_assoc]
  exact List.perm_append_comm.append_left prior

theorem Between.le (h : Between since horizon ms) {t : Nat} (ht : horizon.admits t = true) :
    ∀ m ∈ ms, t ≤ m.1 := by
  intro m hm
  rcases h.later m hm with hbefore | rfl
  · have hlt := hbefore t ht
    simp only [Horizon.admits, decide_eq_true_eq] at hlt
    exact Nat.le_of_lt hlt
  · simpa [Horizon.admits] using ht

theorem Between.withdrawals (h : Between since horizon ms) (ticket : Nat) :
    ∀ x ∈ withdrawalsOf ticket ms, horizon.Within (.before x.1) ∨ horizon = .upTo x.1 := by
  intro x hx
  obtain ⟨m, hm, hmx⟩ := exists_of_mem_withdrawalsOf hx
  exact hmx ▸ h.later m hm

theorem withQueue_eq {calls : List Call} (h : p.queue = calls) : p.withQueue calls = p := by
  rw [withQueue, ← h]

theorem orServe_withQueue (p : Port) (horizon : Horizon) (queue calls : List Call) :
    orServe horizon calls (p.withQueue queue) = orServe horizon calls p := by
  rw [orServe, orServe, active_withQueue, withQueue_withQueue, serve_withQueue]

/-- A call that is made on a free port goes on as it would be served. -/
theorem Concludes.of_take {t : Nat} {c : Call} {q : Port} {withdrawals : List (Nat × Withdrawal)}
    (hp : p.Vacant) (hclock : (p.elapse t).clock = t) (ht : horizon.admits t = true)
    (hlater : ∀ x ∈ withdrawals, horizon.Within (.before x.1) ∨ horizon = .upTo x.1)
    (h : Concludes c.ticket withdrawals ((p.elapse t).take horizon c).value q) :
    Concludes c.ticket withdrawals (p.call t c).value q := by
  have hcall : (p.call t c).value = (serve (.upTo t) [c] (p.elapse t)).value := by
    have hadvance := hp.advance (.upTo t)
    rw [value_call_of_idle (hadvance.symm ▸ hp.active), hadvance]
  have hwithin : (Horizon.upTo t).Within horizon := fun u hu =>
    Horizon.admits_of_le ht (by simpa [Horizon.admits] using hu)
  have hqueue := (reaches_take (p := p.elapse t) (hclock.symm ▸ ht) c).queue_eq
  have hserve : (serve horizon [c] (p.elapse t)).value =
      ((p.elapse t).take horizon c).value.withQueue [] := by
    rw [serve_cons, Logged.value_bind, orServe]
    split <;> rfl
  refine Concludes.of_advance hlater ?_
  rw [hcall, value_serve_advance (p := p.elapse t) hp.active hwithin, hserve,
    withQueue_eq (hqueue.trans hp.queue)]
  exact h

/-- A call is over, and the next ones are made on the port that it leaves. -/
theorem Serially.cons {q : Port} {e : Ended} {visits : List Visit}
    (h : Serially q visits (prior ++ [e]) final)
    (hturn : ∀ es, InTurn q visits es final.bare → InTurn p (v :: visits) (e :: es) final.bare) :
    Serially p (v :: visits) prior final := by
  obtain ⟨hvacant, es, hes, hperm⟩ := h
  refine ⟨hvacant, e :: es, hturn es hes, ?_⟩
  rwa [List.append_assoc] at hperm

theorem GoesFirst.of_concludes {b : Port} {ticket deadline : Nat}
    {withdrawals withdrawals' : List (Nat × Withdrawal)} {visits : List Visit}
    (h : GoesFirst b ticket deadline withdrawals visits prior final)
    (hconcludes : ∀ p', Concludes ticket withdrawals b p' → Concludes ticket withdrawals' p p') :
    GoesFirst p ticket deadline withdrawals' visits prior final := by
  obtain ⟨p', answer, hp', hended, hclock, hserially⟩ := h
  exact ⟨p', answer, hconcludes p' hp', hended, hclock, hserially⟩

section Turn

variable (hlater : Between since horizon ms) (hstart : horizon.admits (v.start p) = true)
  (visits : List Visit)
include hlater hstart

/-- A call that was cancelled as it waited is over when it gets the port. -/
theorem serially_of_cancelled (hdrop : v.droppedAt? = none)
    (hcancel : v.call.cancelled = true ∨ ∃ t, v.cancelledAt? = some t ∧ t ≤ v.start p)
    (h : Serially (p.elapse (v.start p)).bare visits
      (prior ++ [⟨v.call.ticket, some (.error .canceled), v.start p⟩]) final) :
    Serially p.bare (v.complete ms :: visits) prior final := by
  refine h.cons fun es hes => .cancelled ?_ ?_ hes
  · exact hcancel.imp_right fun ⟨t, hat, ht⟩ => ⟨t, Visit.cancelledAt?_complete hat, ht⟩
  · intro t ht
    exact le_of_mem_withdrawalsOf (hlater.le hstart) _ (Visit.mem_of_droppedAt?_complete hdrop ht)

/-- A call that was not withdrawn has the port to itself when it gets it. -/
theorem serially_of_goesFirst (hidle : p.active = none) (hasked : v.call.cancelled = false)
    (hnone : v.withdrawals = [])
    (h : GoesFirst ((p.elapse (v.start p)).bare.take horizon v.call).value v.call.ticket
      (v.start p + v.call.command.timeout.micros) (withdrawalsOf v.call.ticket ms) visits prior
      final) :
    Serially p.bare (v.complete ms :: visits) prior final := by
  obtain ⟨p', answer, hconcludes, hended, hclock, hserially⟩ := h
  have hwithdrawals : (v.complete ms).withdrawals = withdrawalsOf v.call.ticket ms := by
    rw [Visit.complete, hnone, List.nil_append]
  have hnow : (p.bare.elapse (v.start p)).clock = v.start p :=
    Nat.max_eq_right (Nat.le_max_left ..)
  rw [hended] at hserially
  refine hserially.cons fun es hes => ?_
  refine InTurn.served (v := v.complete ms) hasked ?_ ?_ hended hclock hes
  · exact hwithdrawals ▸ le_of_mem_withdrawalsOf (hlater.le hstart)
  · rw [hwithdrawals]
    exact Concludes.of_take ⟨hidle, rfl⟩ hnow hstart (hlater.withdrawals _) hconcludes

end Turn

section Serving

variable {served b taken : Port} {call : Call} {deadline : Nat}
  (hlater : Between since horizon ms)
  (hrest : ∀ prior waiting, Backlog ms prior waiting since served → served.Rests horizon →
    Unrolls ms prior waiting served final)

section Reached

variable (hreaches : b.bare.Reaches horizon call deadline taken)
  (hended : b.ended.Perm (prior ++ waiting.filterMap Visit.dropped?))
  (hpast : ∀ v ∈ waiting, v.Past since)
  (htickets : (call.ticket :: (waiting.map (·.call.ticket) ++ ticketsOf ms)).Nodup)
include hreaches hended hpast htickets

/-- The call is over within the horizon, and the others are served. -/
theorem goesFirst_of_over (hidle : taken.active = none)
    (hfree : ∀ e : Ended, Pending ms (prior ++ [e]) waiting since (taken.recorded b.ended) →
      horizon.admits taken.clock = true →
      Serially (taken.recorded b.ended).bare (waiting.map (·.complete ms) ++ visitsOf ms)
        (prior ++ [e]) final) :
    GoesFirst taken call.ticket deadline (withdrawalsOf call.ticket ms)
      (waiting.map (·.complete ms) ++ visitsOf ms) prior final := by
  obtain ⟨hadmits, hclock, answer, hover⟩ := hreaches.ends hidle
  have hvacant : taken.Vacant := ⟨hidle, hreaches.queue_eq⟩
  have hrecord : (taken.recorded b.ended).ended = b.ended ++ taken.ended := rfl
  refine ⟨taken, answer, hvacant.concludes .., hover, hclock, ?_⟩
  rw [hover]
  exact hfree _ (.of_ended hidle (hrecord.trans (congrArg _ hover)) hended hpast
    (List.nodup_cons.mp htickets).2) hadmits

include hlater hrest in
/-- The call keeps the port, and the others wait. -/
theorem goesFirst_of_kept {x : Exchange} (hx : taken.active = some x)
    (hclock : ∀ m ∈ ms, b.clock ≤ m.1)
    (hserved : served = (taken.recorded b.ended).withQueue (waiting.filterMap Visit.waiting?)) :
    GoesFirst taken call.ticket deadline (withdrawalsOf call.ticket ms)
      (waiting.map (·.complete ms) ++ visitsOf ms) prior final := by
  obtain ⟨hcall, hdeadline, hnil, hhalts⟩ := hreaches.waits x hx
  have hnil : taken.ended = [] := hnil
  have hqueue : taken.queue = [] := hreaches.queue_eq
  have hactive : served.active = some x := hserved ▸ hx
  have hbare : served.bare = taken := by
    rw [hserved]
    change { taken with queue := [], ended := [] } = taken
    rw [← hqueue, ← hnil]
  have hrests : served.Rests horizon := by
    intro y hy
    obtain rfl : x = y := Option.some.inj (hactive.symm.trans hy)
    rw [hserved]
    exact hhalts
  have hbacklog : Backlog ms prior waiting since served :=
    { queue := by rw [hserved]; rfl
      ended := by
        rw [hserved]
        change (b.ended ++ taken.ended).Perm _
        rw [hnil]
        exact (List.append_nil b.ended).symm ▸ hended
      idle := fun hidle => by cases hactive.symm.trans hidle
      rests := hrests.mono hlater.since
      past := hpast
      clock_le := by
        rw [hserved]
        exact hreaches.moved.elim (fun heq => heq.symm ▸ hclock) hlater.le
      tickets := by
        rw [hactive, Option.toList_some, List.map_singleton, hcall]
        exact htickets }
  have hfirst := (hrest prior waiting hbacklog hrests).busy x hactive
  rwa [hcall, hdeadline, hbare] at hfirst

include hlater hrest in
/-- The call that has the port goes first. -/
theorem goesFirst_of_reaches (hclock : ∀ m ∈ ms, b.clock ≤ m.1)
    (hserved : served =
      (orServe horizon (waiting.filterMap Visit.waiting?) (taken.recorded b.ended)).value)
    (hfree : ∀ e : Ended, Pending ms (prior ++ [e]) waiting since (taken.recorded b.ended) →
      horizon.admits taken.clock = true →
      served =
        (serve horizon (waiting.filterMap Visit.waiting?) (taken.recorded b.ended)).value →
      Serially (taken.recorded b.ended).bare (waiting.map (·.complete ms) ++ visitsOf ms)
        (prior ++ [e]) final) :
    GoesFirst taken call.ticket deadline (withdrawalsOf call.ticket ms)
      (waiting.map (·.complete ms) ++ visitsOf ms) prior final := by
  rw [orServe] at hserved
  cases hactive : taken.active with
  | none =>
    rw [if_neg (by simp [hactive])] at hserved
    exact goesFirst_of_over hreaches hended hpast htickets hactive fun e hpending hadmits =>
      hfree e hpending hadmits hserved
  | some x =>
    rw [if_pos (by simp [hactive]), Logged.value_pure] at hserved
    exact goesFirst_of_kept hlater hrest hreaches hended hpast htickets hactive hclock hserved

end Reached

include hlater hrest

/-- The first of the calls that wait gets the port. -/
theorem Pending.serially_of_head (h : Pending ms prior (v :: waiting) since p) {c : Call}
    (hcall : v.waiting? = some c) (hpast : v.Past (v.start p))
    (hstart : horizon.admits (v.start p) = true)
    (hserved : served =
      (serve horizon (c :: waiting.filterMap Visit.waiting?) (p.elapse (v.start p))).value)
    (hfree : ∀ (e : Ended) (b : Port), Pending ms (prior ++ [e]) waiting since b →
      v.start p ≤ b.clock → horizon.admits b.clock = true →
      served = (serve horizon (waiting.filterMap Visit.waiting?) b).value →
      Serially b.bare (waiting.map (·.complete ms) ++ visitsOf ms) (prior ++ [e]) final) :
    Serially p.bare (v.complete ms :: (waiting.map (·.complete ms) ++ visitsOf ms)) prior
      final := by
  have hdrop := Visit.droppedAt?_of_waiting? hcall
  have hkept : v.dropped? = none := by rw [Visit.dropped?, hdrop, Option.map_none]
  obtain rfl : { v.call with cancelled := v.call.cancelled || v.cancelledAt?.isSome } = c := by
    simpa [Visit.waiting?, hdrop] using hcall
  have hended : p.ended.Perm (prior ++ waiting.filterMap Visit.dropped?) := by
    simpa [List.filterMap_cons, hkept] using h.ended
  have hnow : (p.elapse (v.start p)).clock = v.start p := Nat.max_eq_right (Nat.le_max_left ..)
  have hlate : ∀ v ∈ waiting, v.Past since := fun v hv => h.past v (List.mem_cons_of_mem _ hv)
  rw [serve_cons, Logged.value_bind] at hserved
  cases hasked : v.call.cancelled || v.cancelledAt?.isSome with
  | true =>
    have hcancel : v.call.cancelled = true ∨ ∃ t, v.cancelledAt? = some t ∧ t ≤ v.start p := by
      refine (Bool.or_eq_true_iff.mp hasked).imp_right fun hcancel => ?_
      obtain ⟨t, ht⟩ := Option.isSome_iff_exists.mp hcancel
      exact ⟨t, ht, hpast.of_find? ht⟩
    let closed := (p.elapse (v.start p)).record v.call.ticket (some (.error .canceled))
    have hpending : Pending ms _ waiting since closed :=
      .of_ended rfl rfl hended hlate (List.nodup_cons.mp h.tickets).2
    have hfreed := hfree _ closed hpending (Nat.le_of_eq hnow.symm) (hnow.symm ▸ hstart)
      (by rwa [hasked, take, if_pos rfl] at hserved)
    have hbare : closed.bare = (p.elapse (v.start p)).bare := by
      simp only [closed, bare, record, elapse, h.active]
    rw [hbare, hnow] at hfreed
    exact serially_of_cancelled hlater hstart _ hdrop hcancel hfreed
  | false =>
    obtain ⟨hasked, hcancel⟩ := Bool.or_eq_false_iff.mp hasked
    have hnone : v.withdrawals = [] :=
      Visit.withdrawals_eq_nil (by simpa using hcancel) hdrop
    have hcall : ({ v.call with cancelled := v.call.cancelled || v.cancelledAt?.isSome } : Call) =
        v.call := by
      rw [hcancel, Bool.or_false]
    rw [hcall, take_bare, Logged.value_map, orServe_withQueue] at hserved
    have hreaches := reaches_take (p := (p.elapse (v.start p)).bare) (hnow.symm ▸ hstart) v.call
    have hdeadline : (p.elapse (v.start p)).bare.clock = v.start p := hnow
    rw [hdeadline] at hreaches
    refine serially_of_goesFirst hlater hstart _ h.active hasked hnone ?_
    refine goesFirst_of_reaches hlater hrest hreaches hended hlate h.tickets
      (hnow.symm ▸ hlater.le hstart) hserved fun e hpending hadmits hserved => ?_
    exact hfree e _ hpending (Nat.le_trans (Nat.le_of_eq hdeadline.symm) hreaches.clock_le) hadmits
      hserved

/-- The calls that wait are served, and come to what they come to one after another. -/
theorem Pending.serially (h : Pending ms prior waiting since p)
    (hadmits : horizon.admits p.clock = true) (hclock : ∀ v ∈ waiting, v.Past p.clock)
    (hserved : served = (serve horizon (waiting.filterMap Visit.waiting?) p).value) :
    Serially p.bare (waiting.map (·.complete ms) ++ visitsOf ms) prior final := by
  induction waiting generalizing p prior with
  | nil =>
    have hidle : served.active = none := hserved ▸ h.active
    have hbare : served.bare = p.bare := by
      rw [hserved]
      rfl
    have hrests := Rests.of_idle hidle
    have hbacklog : Backlog ms prior [] since served :=
      { queue := by rw [hserved]; rfl
        ended := by
          rw [hserved]
          exact h.ended
        idle := fun _ => rfl
        rests := hrests _
        past := h.past
        clock_le := by
          rw [hserved]
          exact hlater.le hadmits
        tickets := by
          rw [hidle]
          exact h.tickets }
    exact hbare ▸ (hrest prior [] hbacklog (hrests _)).idle hidle
  | cons v waiting ih =>
    have hv := hclock v List.mem_cons_self
    have hothers : ∀ v ∈ waiting, v.Past p.clock := fun v hv =>
      hclock v (List.mem_cons_of_mem _ hv)
    have hstart : v.start p = p.clock := Nat.max_eq_left hv.1
    cases hcall : v.waiting? with
    | some c =>
      rw [List.filterMap_cons_some hcall] at hserved
      refine h.serially_of_head hlater hrest hcall (hstart ▸ hv) (hstart ▸ hadmits) ?_ ?_
      · rw [hserved, hstart, elapse_clock]
      · intro e b hb hle hadmits hserved
        exact ih hb hadmits (fun v hv => (hothers v hv).mono (hstart ▸ hle)) hserved
    | none =>
      rw [List.filterMap_cons_none hcall] at hserved
      obtain ⟨t, hdrop⟩ := Visit.exists_droppedAt? hcall
      have hended := h.ended
      rw [List.filterMap_cons_some (Visit.dropped?_of_droppedAt? hdrop), List.append_cons] at hended
      have hpending : Pending ms (prior ++ [⟨v.call.ticket, none, t⟩]) waiting since p :=
        ⟨h.active, hended, fun v hv => h.past v (List.mem_cons_of_mem _ hv),
          (List.nodup_cons.mp h.tickets).2⟩
      refine (ih hpending hadmits hothers hserved).cons fun es hes =>
        .dropped (Visit.droppedAt?_complete hdrop) ?_ hes
      exact Nat.le_trans (hv.of_find? hdrop) (Nat.le_max_left ..)

end Serving

/-- The port without those that wait is for the call that has it alone. -/
theorem Backlog.alone (h : Backlog ms prior waiting since p) {x : Exchange} (hx : x ∈ p.active) :
    p.bare.Alone x.call.ticket since where
  queue := rfl
  holder y hy := by rw [Option.some.inj (hx.symm.trans hy)]
  awaits := ⟨fun hidle => (Option.some_ne_none x (hx.symm.trans hidle)).elim, h.rests⟩

/-- It is enough to tell how the call that has the port is served. -/
theorem unrolls_of_busy {x : Exchange} (hx : x ∈ p.active)
    (h : GoesFirst p.bare x.call.ticket x.deadline (withdrawalsOf x.call.ticket ms)
      (waiting.map (·.complete ms) ++ visitsOf ms) prior final) :
    Unrolls ms prior waiting p final where
  idle hidle := (Option.some_ne_none x (hx.symm.trans hidle)).elim
  busy y hy := by
    obtain rfl : x = y := Option.some.inj (hx.symm.trans hy)
    exact h

theorem unrolls_of_idle (hidle : p.active = none)
    (h : Serially p.bare (visitsOf ms) prior final) : Unrolls ms prior waiting p final where
  idle _ := h
  busy x hx := (Option.some_ne_none x (hx.symm.trans hidle)).elim

/-- Time passes up to a horizon, and the calls at the port are served as they would be otherwise. -/
theorem Backlog.unrolls_of_advance {before : Nat} (h : Backlog ms prior waiting before p)
    (hbefore : before ≤ since) (hlater : Between since horizon ms)
    (hrest : ∀ prior waiting, Backlog ms prior waiting since (p.advance horizon).value →
      (p.advance horizon).value.Rests horizon →
      Unrolls ms prior waiting (p.advance horizon).value final) :
    Unrolls ms prior waiting p final := by
  cases hactive : p.active with
  | none =>
    have hnil := h.idle hactive
    have hqueue : p.queue = [] := by rw [h.queue, hnil, List.filterMap_nil]
    rw [Vacant.advance ⟨hactive, hqueue⟩] at hrest
    have hrests := Rests.of_idle hactive
    exact hrest prior waiting { h with rests := hrests _, past := by simp [hnil] } (hrests _)
  | some x =>
    have halone := h.alone hactive
    have hreaches := reaches_goOn (p := p.bare) hactive (h.rests x hactive).clock_le horizon
    have hserved : (p.advance horizon).value =
        (orServe horizon (waiting.filterMap Visit.waiting?)
          ((p.bare.goOn horizon).value.recorded p.ended)).value := by
      rw [advance_eq, Logged.value_bind, goOn_bare, Logged.value_map, orServe_withQueue, h.queue]
    have hadvance : (p.bare.advance horizon).value = (p.bare.goOn horizon).value := by
      rw [halone.value_advance]
      exact withQueue_eq hreaches.queue_eq
    have htickets := h.tickets
    rw [hactive] at htickets
    have hfirst := goesFirst_of_reaches hlater hrest hreaches h.ended
      (fun v hv => (h.past v hv).mono hbefore) htickets h.clock_le hserved
      fun e hpending hadmits hserved => by
        have hwaited := halone.awaits.le_clock_goOn horizon hpending.active
        exact hpending.serially hlater hrest hadmits (fun v hv => (h.past v hv).mono hwaited)
          hserved
    refine unrolls_of_busy hactive (hfirst.of_concludes fun p' hp' => ?_)
    exact .of_advance (hlater.withdrawals _) (hadvance ▸ hp')

end Port

end ModemLink
