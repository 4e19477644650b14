import ModemLink.Bench.PortRun
import ModemLink.Proofs.Port.Passing
import ModemLink.Proofs.Port.Records

/-!
# Calls one after another

Calls that are made side by side can be told apart: each has its instant, its command, and what its
caller does about it later. This module says what it is to make the calls one after another on a
port, in the order in which they are made. Each starts when the port is free, or at its own instant
if that is later, and has the port to itself until it is over. A call that is dropped before it
starts leaves the port alone, and one that is cancelled before it starts does nothing but end.

What is due at a port at the very instant of a withdrawal may come before the withdrawal or not, and
so may the start of a call. Both are admitted here.

## Main definitions

* `Visit`: a call with what its caller does about it.
* `Port.Concludes`: a call that has a port to itself, up to its end.
* `Port.InTurn`: calls on a port, one after another.

## Main results

* `Port.InTurn.unique`: calls that nobody withdraws come to one end only.
* `Port.Concludes.of_advance`, `Port.Concludes.of_elapse`: letting time pass before a call goes on
  makes no difference to it.
-/

namespace ModemLink

/-- What a caller does who does not want to wait. -/
inductive Withdrawal
  | cancel
  | drop
  deriving DecidableEq, Repr

namespace Withdrawal

/-- The withdrawal of the call with a ticket, as a move. -/
def move (ticket : Nat) : Withdrawal → Bench.Move
  | cancel => .cancel ticket
  | drop => .abort ticket

/-- What a port does before it takes notice of a withdrawal. -/
def horizon (t : Nat) : Withdrawal → Horizon
  | cancel => .before t
  | drop => .upTo t

/-- The outcome of a call that is withdrawn. -/
def answer : Withdrawal → Option Answer
  | cancel => some (.error .canceled)
  | drop => none

/-- The port after the withdrawal of the call that had it. -/
def close (w : Withdrawal) (call : Call) (p : Port) : Port :=
  match w with
  | cancel => (p.finish call (.error .canceled)).value
  | drop => p.record call.ticket none

end Withdrawal

/-- A call with what its caller does about it. -/
structure Visit where
  call : Call
  calledAt : Nat
  /-- What the caller does after the call, with the instants, in order. -/
  withdrawals : List (Nat × Withdrawal) := []

namespace Visit

variable (v : Visit)

/-- The instant at which the call is cancelled, if it is. -/
def cancelledAt? : Option Nat :=
  (v.withdrawals.find? (·.2 == .cancel)).map (·.1)

/-- The instant at which the call is dropped, if it is. -/
def droppedAt? : Option Nat :=
  (v.withdrawals.find? (·.2 == .drop)).map (·.1)

/-- The instant at which the call gets a port that is free. -/
def start (p : Port) : Nat :=
  max p.clock v.calledAt

end Visit

/-- What is done about the call with a ticket in the course of moves. -/
def withdrawalsOf (ticket : Nat) (moves : List (Nat × Bench.Move)) : List (Nat × Withdrawal) :=
  moves.filterMap fun
    | (_, .call _) => none
    | (t, .cancel other) => if other = ticket then some (t, .cancel) else none
    | (t, .abort other) => if other = ticket then some (t, .drop) else none

/-- The calls that are made in the course of moves, in order. -/
def visitsOf : List (Nat × Bench.Move) → List Visit
  | [] => []
  | (t, .call c) :: moves => ⟨c, t, withdrawalsOf c.ticket moves⟩ :: visitsOf moves
  | _ :: moves => visitsOf moves

namespace Port

/-- The call with a ticket has a port to itself. Its caller withdraws it at some instants, and the
port is left in the end. -/
inductive Concludes (ticket : Nat) : List (Nat × Withdrawal) → Port → Port → Prop
  | alone (p : Port) : Concludes ticket [] p (p.advance .unbounded).value
  | withdrawn {p q : Port} {t : Nat} {w : Withdrawal} {later : List (Nat × Withdrawal)}
      (rest : Concludes ticket later ((w.move ticket).apply t p).value q) :
      Concludes ticket ((t, w) :: later) p q
  /-- What is due at the instant of a withdrawal comes before it. -/
  | withdrawnLate {p q : Port} {t : Nat} {w : Withdrawal} {later : List (Nat × Withdrawal)}
      (rest : Concludes ticket later ((w.move ticket).apply t (p.advance (.upTo t)).value).value
        q) :
      Concludes ticket ((t, w) :: later) p q

/-- Calls are made on a port one after another. Told are the ends of the calls, and the port in the
end. Nothing is on record before, and the end of each call is taken off the record. -/
inductive InTurn : Port → List Visit → List Ended → Port → Prop
  | nil (p : Port) : InTurn p [] [] p
  /-- A call is dropped before it starts. -/
  | dropped {p q : Port} {v : Visit} {later : List Visit} {es : List Ended} {t : Nat}
      (drop : v.droppedAt? = some t) (waits : t ≤ v.start p) (rest : InTurn p later es q) :
      InTurn p (v :: later) (⟨v.call.ticket, none, t⟩ :: es) q
  /-- A call is cancelled before it starts. -/
  | cancelled {p q : Port} {v : Visit} {later : List Visit} {es : List Ended}
      (cancel : v.call.cancelled = true ∨ ∃ t, v.cancelledAt? = some t ∧ t ≤ v.start p)
      (stays : ∀ t, v.droppedAt? = some t → v.start p ≤ t)
      (rest : InTurn (p.elapse (v.start p)) later es q) :
      InTurn p (v :: later) (⟨v.call.ticket, some (.error .canceled), v.start p⟩ :: es) q
  /-- A call has the port to itself. Its time is counted from its start, and the next one starts at
  its end or later. -/
  | served {p p' q : Port} {v : Visit} {later : List Visit} {es : List Ended}
      {answer : Option Answer} (asked : v.call.cancelled = false)
      (stays : ∀ x ∈ v.withdrawals, v.start p ≤ x.1)
      (concludes : Concludes v.call.ticket v.withdrawals (p.call (v.start p) v.call).value p')
      (ended : p'.ended = [⟨v.call.ticket, answer, p'.clock⟩])
      (inTime : p'.clock ≤ v.start p + v.call.command.timeout.micros)
      (rest : InTurn p'.bare later es q) :
      InTurn p (v :: later) (⟨v.call.ticket, answer, p'.clock⟩ :: es) q

variable {p p' q : Port} {ticket t : Nat} {horizon : Horizon} {w : Withdrawal}
  {withdrawals : List (Nat × Withdrawal)}

/-- Calls that nobody withdraws come to one end only. -/
theorem InTurn.unique {visits : List Visit} {es es' : List Ended} {q' : Port}
    (hstays : ∀ v ∈ visits, v.withdrawals = []) (h : InTurn p visits es q)
    (h' : InTurn p visits es' q') : es' = es ∧ q' = q := by
  have hnone {v : Visit} (hv : v.withdrawals = []) :
      v.droppedAt? = none ∧ v.cancelledAt? = none := by
    simp [Visit.droppedAt?, Visit.cancelledAt?, hv]
  induction h generalizing es' q' with
  | nil p =>
    cases h'
    exact ⟨rfl, rfl⟩
  | @dropped _ _ v _ _ _ drop =>
    cases (hnone (hstays v List.mem_cons_self)).1.symm.trans drop
  | @cancelled _ _ v _ _ cancel _ _ ih =>
    have hv := hnone (hstays v List.mem_cons_self)
    have hcancelled : v.call.cancelled = true := by simpa [hv.2] using cancel
    cases h' with
    | dropped drop => cases hv.1.symm.trans drop
    | cancelled _ _ rest =>
      obtain ⟨rfl, rfl⟩ := ih (fun v hv => hstays v (List.mem_cons_of_mem _ hv)) rest
      exact ⟨rfl, rfl⟩
    | served asked => cases hcancelled.symm.trans asked
  | @served _ _ _ v _ _ _ asked _ concludes ended _ _ ih =>
    have hv := hstays v List.mem_cons_self
    cases h' with
    | dropped drop => cases (hnone hv).1.symm.trans drop
    | cancelled cancel =>
      have hcancelled : v.call.cancelled = true := by simpa [(hnone hv).2] using cancel
      cases asked.symm.trans hcancelled
    | served _ _ concludes' ended' _ rest =>
      rw [hv] at concludes concludes'
      cases concludes
      cases concludes'
      obtain ⟨rfl, rfl⟩ := ih (fun v hv => hstays v (List.mem_cons_of_mem _ hv)) rest
      exact ⟨congrArg (· :: _) (List.cons.inj (ended'.symm.trans ended)).1, rfl⟩

/-- A port that was let go to a horizon goes on from there. -/
theorem value_advance_advance {far : Horizon} (hwithin : horizon.Within far) :
    ((p.advance horizon).value.advance far).value = (p.advance far).value := by
  have hagain := congrArg Logged.value (advance_advance (p := p) hwithin)
  rwa [Logged.value_bind] at hagain

/-! ### Withdrawals -/

theorem close_bare (w : Withdrawal) (call : Call) (p : Port) :
    w.close call p = ((w.close call p.bare).recorded p.ended).withQueue p.queue := by
  cases w <;> simp [Withdrawal.close, value_finish, record, recorded, withQueue, bare, clock]

/-- The call is on record, and the port is free. -/
theorem ended_close (w : Withdrawal) (call : Call) (p : Port) :
    (w.close call p).ended = p.ended ++ [⟨call.ticket, w.answer, p.clock⟩] := by
  cases w <;> simp [Withdrawal.close, value_finish, record, Withdrawal.answer]

theorem clock_close (w : Withdrawal) (call : Call) (p : Port) :
    (w.close call p).clock = p.clock := by
  cases w <;> simp [Withdrawal.close, value_finish, record, clock]

theorem active_close (w : Withdrawal) (call : Call) (p : Port) :
    (w.close call p).active = none := by
  cases w <;> simp [Withdrawal.close, value_finish, record]

theorem queue_close (w : Withdrawal) (call : Call) (p : Port) :
    (w.close call p).queue = p.queue := by
  cases w <;> simp [Withdrawal.close, value_finish, record]

/-- The call that has the port is withdrawn, and those that wait are served. -/
theorem value_apply_of_holder {x : Exchange}
    (hx : x ∈ (p.advance (w.horizon t)).value.active) :
    let closed := w.close x.call ((p.advance (w.horizon t)).value.elapse t)
    ((w.move x.call.ticket).apply t p).value = (serve (.upTo t) closed.queue closed).value := by
  have hactive : (p.advance (w.horizon t)).value.activeOf? x.call.ticket = some x := by
    rw [activeOf?, Option.mem_def.mp hx, Option.filter_some, beq_self_eq_true, if_pos rfl]
  cases w with
  | cancel =>
    change (p.cancel t x.call.ticket).value = _
    rw [cancel, Logged.value_bind]
    change (p.advance (.before t)).value.activeOf? x.call.ticket = some x at hactive
    rw [hactive]
    exact Logged.value_bind ..
  | drop =>
    change (p.abort t x.call.ticket).value = _
    rw [abort, Logged.value_bind]
    change (p.advance (.upTo t)).value.activeOf? x.call.ticket = some x at hactive
    rw [hactive]
    rfl

/-- A withdrawal from a port that is free changes nothing. -/
theorem value_apply_of_idle (hidle : (p.advance (w.horizon t)).value.active = none)
    (hqueue : (p.advance (w.horizon t)).value.queue = []) (ticket : Nat) :
    ((w.move ticket).apply t p).value = (p.advance (w.horizon t)).value := by
  have hactive : (p.advance (w.horizon t)).value.activeOf? ticket = none := by
    rw [activeOf?, hidle]
    rfl
  cases w with
  | cancel =>
    change (p.advance (.before t)).value.queue = [] at hqueue
    change (p.advance (.before t)).value.activeOf? ticket = none at hactive
    change (p.cancel t ticket).value = (p.advance (.before t)).value
    rw [cancel, Logged.value_bind, hactive]
    simp only [hqueue, List.map_nil, Logged.value_pure]
    rw [← hqueue]
  | drop =>
    change (p.advance (.upTo t)).value.queue = [] at hqueue
    change (p.advance (.upTo t)).value.activeOf? ticket = none at hactive
    change (p.abort t ticket).value = (p.advance (.upTo t)).value
    rw [abort, Logged.value_bind, hactive]
    simp [hqueue]

/-! ### A port that nobody uses -/

/-- Nobody has the port or waits for it. -/
structure Vacant (p : Port) : Prop where
  active : p.active = none
  queue : p.queue = []

namespace Vacant

variable (h : p.Vacant)
include h

theorem advance (horizon : Horizon) : (p.advance horizon).value = p := by
  rw [advance_of_idle h.active h.queue, Logged.value_pure]

/-- A call that is over cannot be withdrawn. -/
theorem apply (ticket t : Nat) (w : Withdrawal) : ((w.move ticket).apply t p).value = p := by
  have hadvance := h.advance (w.horizon t)
  rw [value_apply_of_idle (hadvance.symm ▸ h.active) (hadvance.symm ▸ h.queue), hadvance]

theorem concludes (ticket : Nat) (withdrawals : List (Nat × Withdrawal)) :
    Concludes ticket withdrawals p p := by
  induction withdrawals with
  | nil =>
    have hover : Concludes ticket [] p _ := .alone p
    rwa [h.advance] at hover
  | cons x later ih =>
    refine .withdrawn (w := x.2) ?_
    rw [h.apply]
    exact ih

end Vacant

/-! ### A call that goes on later -/

/-- The withdrawals of a call are made at a port that was let go up to a horizon as they are made
before, or at the end of the horizon. -/
theorem Concludes.of_advance
    (hlater : ∀ x ∈ withdrawals, horizon.Within (.before x.1) ∨ horizon = .upTo x.1)
    (h : Concludes ticket withdrawals (p.advance horizon).value q) :
    Concludes ticket withdrawals p q := by
  have hupTo {t : Nat} (ht : horizon.Within (.before t) ∨ horizon = .upTo t) :
      horizon.Within (.upTo t) := by
    rintro u hu
    rcases ht with ht | rfl
    · have hbefore := ht u hu
      simp only [Horizon.admits, decide_eq_true_eq] at hbefore ⊢
      exact Nat.le_of_lt hbefore
    · exact hu
  generalize hp' : (p.advance horizon).value = p' at h
  cases h with
  | alone =>
    rw [← hp', value_advance_advance (Horizon.within_unbounded _)]
    exact .alone p
  | @withdrawn _ _ t w later rest =>
    have ht := hlater (t, w) List.mem_cons_self
    cases w with
    | drop =>
      have hsame : (Bench.Move.apply t p' (.abort ticket)).value =
          (Bench.Move.apply t p (.abort ticket)).value := by
        change (p'.abort t ticket).value = (p.abort t ticket).value
        rw [abort, abort, Logged.value_bind, Logged.value_bind, ← hp',
          value_advance_advance (hupTo ht)]
      refine .withdrawn (w := .drop) ?_
      change Concludes ticket later (Bench.Move.apply t p (.abort ticket)).value q
      rw [← hsame]
      exact rest
    | cancel =>
      rcases ht with ht | rfl
      · have hsame : (Bench.Move.apply t p' (.cancel ticket)).value =
            (Bench.Move.apply t p (.cancel ticket)).value := by
          change (p'.cancel t ticket).value = (p.cancel t ticket).value
          rw [cancel, cancel, Logged.value_bind, Logged.value_bind, ← hp',
            value_advance_advance ht]
        refine .withdrawn (w := .cancel) ?_
        change Concludes ticket later (Bench.Move.apply t p (.cancel ticket)).value q
        rw [← hsame]
        exact rest
      · exact .withdrawnLate (hp' ▸ rest)
  | @withdrawnLate _ _ t w later rest =>
    refine .withdrawnLate ?_
    rwa [← hp', value_advance_advance (hupTo (hlater (t, w) List.mem_cons_self))] at rest

/-! ### A call for which time passes -/

/-- The port is for the call with a ticket alone, and has waited up to an instant. -/
structure Alone (p : Port) (ticket t : Nat) : Prop where
  queue : p.queue = []
  holder : ∀ x ∈ p.active, x.call.ticket = ticket
  awaits : p.Awaits t

namespace Alone

variable {u : Nat} (h : p.Alone ticket t)
include h

/-- The port goes on with the call that it is for. -/
theorem value_advance (horizon : Horizon) :
    (p.advance horizon).value = (p.goOn horizon).value.withQueue [] := by
  rw [advance_eq, Logged.value_bind, h.queue, orServe]
  split <;> rfl

theorem advance_elapse (horizon : Horizon) :
    ((p.elapse t).advance horizon).value = (p.advance horizon).value.elapse t := by
  have hqueue : (p.elapse t).queue = [] := h.queue
  rw [h.value_advance, advance_eq, Logged.value_bind, h.awaits.goOn_elapse, Logged.value_map,
    hqueue, orServe]
  split <;> rfl

theorem advance (hwithin : (Horizon.before t).Within horizon) :
    (p.advance horizon).value.Alone ticket t := by
  rw [h.value_advance]
  refine ⟨rfl, fun y hy => ?_, ?_⟩
  · cases hactive : p.active with
    | none =>
      rw [goOn_of_idle hactive] at hy
      exact h.holder y hy
    | some x =>
      have hreaches := reaches_goOn hactive (h.awaits.rests x hactive).clock_le horizon
      rw [(hreaches.waits y hy).1]
      exact h.holder x hactive
  · exact ⟨(h.awaits.goOn hwithin).idle, (h.awaits.goOn hwithin).rests⟩

/-- A withdrawal is the same whether or not the time before it has passed. -/
theorem apply_elapse (w : Withdrawal) (hu : t ≤ u) :
    ((w.move ticket).apply u (p.elapse t)).value = ((w.move ticket).apply u p).value := by
  have hwithin : (Horizon.before t).Within (w.horizon u) := by
    intro v hv
    cases w <;> simp only [Withdrawal.horizon, Horizon.admits, decide_eq_true_eq] at hv ⊢ <;> omega
  have hadvance := h.advance hwithin
  have helapse := h.advance_elapse (w.horizon u)
  cases hactive : (p.advance (w.horizon u)).value.active with
  | none =>
    rw [elapse_of_le (hadvance.awaits.idle hactive)] at helapse
    rw [value_apply_of_idle (helapse.symm ▸ hactive) (helapse.symm ▸ hadvance.queue),
      value_apply_of_idle hactive hadvance.queue, helapse]
  | some x =>
    obtain rfl := hadvance.holder x hactive
    have hx : x ∈ ((p.elapse t).advance (w.horizon u)).value.active := helapse ▸ hactive
    have hlater : ((p.advance (w.horizon u)).value.elapse t).elapse u =
        (p.advance (w.horizon u)).value.elapse u := by
      simp only [elapse, Intake.elapse, Nat.max_assoc, Nat.max_eq_right hu]
    rw [value_apply_of_holder hx, value_apply_of_holder hactive, helapse, hlater]

end Alone

/-- The withdrawals of a call are the same whether or not the time before them has passed. -/
theorem Concludes.of_elapse (halone : p.Alone ticket t)
    (hlater : ∀ x ∈ withdrawals, t ≤ x.1)
    (h : Concludes ticket withdrawals (p.elapse t) q) : Concludes ticket withdrawals p q := by
  generalize hp' : p.elapse t = p' at h
  cases h with
  | alone =>
    have hrests : (p.advance .unbounded).value.Rests .unbounded := by
      rw [halone.value_advance]
      exact halone.awaits.rests.goOn .unbounded
    have hover := halone.advance (Horizon.within_unbounded (.before t))
    rw [← hp', halone.advance_elapse, elapse_of_le (hover.awaits.idle hrests.active_eq)]
    exact .alone p
  | @withdrawn _ _ u w later rest =>
    refine .withdrawn (w := w) ?_
    rwa [← hp', halone.apply_elapse w (hlater (u, w) List.mem_cons_self)] at rest
  | @withdrawnLate _ _ u w later rest =>
    have hu : t ≤ u := hlater (u, w) List.mem_cons_self
    have hwithin : (Horizon.before t).Within (.upTo u) := by
      intro v hv
      simp only [Horizon.admits, decide_eq_true_eq] at hv ⊢
      omega
    refine .withdrawnLate (w := w) ?_
    rwa [← hp', halone.advance_elapse, (halone.advance hwithin).apply_elapse w hu] at rest

end Port

end ModemLink
