import ModemLink.Proofs.Station.Underway

/-!
# Requests to stop that nobody heeds

An operation that ends a session never looks whether it was asked to stop. A station where it was
asked differs from one where it was not in a mark that nobody reads, and every move takes the one to
the other. So what is seen of a station does not depend on the mark, from there on for good; and
when the operation is over, the mark is gone with it.

## Main definitions

* `Station.Sight`, `Station.sights`: what is seen of a station while moves are made.
* `Station.Heedless`: the operation with a ticket, if it is under way, ends a session.

## Main results

* `Station.Heedless.perform_cancelTicket`: a move does the same whether the operation was asked or
  not.
* `Station.Heedless.sights_cancelTicket`: nobody can see whether it was.
-/

namespace ModemLink

/-- An operation that ends a session does the same whether it was asked to stop or not. -/
theorem Operation.resume_of_disconnect {op : Operation} (h : op.purpose = .disconnect)
    (cancelled cancelled' : Bool) (a : Answer) :
    op.resume cancelled a = op.resume cancelled' a := by
  cases op with
  | disconnecting t => rfl
  | _ => cases h

namespace Station

variable {s : Station} {ticket : Nat} {α : Type}

/-! ### What is seen -/

/-- What is seen of a move: how far it brings an operation, what a call returns, what is logged, and
afterwards the bearers and the ids in use. -/
structure Sight where
  progress : Option Progress
  returned : Option Return
  log : List Event
  bearers : List Bearer
  usedCids : List UInt32

/-- What is seen while moves are made. -/
def sights (s : Station) : List Move → List Sight
  | [] => []
  | m :: later =>
    { progress := (s.perform m).value.2
      returned := s.returned? m
      log := (s.perform m).log
      bearers := (s.next m).bearers
      usedCids := (s.next m).usedCids } :: (s.next m).sights later

/-! ### The mark of a request to stop -/

@[simp] theorem owner_marked (r : Running) : (marked ticket r).owner = r.owner := by
  rw [marked]
  split <;> rfl

@[simp] theorem operation_marked (r : Running) : (marked ticket r).operation = r.operation := by
  rw [marked]
  split <;> rfl

/-- What was done to a station, done to one where an operation was asked to stop. -/
def asking (ticket : Nat) (done : Station × α) : Station × α :=
  (done.1.cancelTicket ticket, done.2)

theorem isOperating_cancelTicket (s : Station) (ticket id : Nat) :
    (s.cancelTicket ticket).isOperating id = s.isOperating id := by
  simp only [isOperating, cancelTicket_eq, List.any_map, Function.comp_def, owner_marked]

theorem reap_cancelTicket (s : Station) (ticket id : Nat) :
    (s.cancelTicket ticket).reap id = (s.reap id).cancelTicket ticket := by
  have hb : (s.cancelTicket ticket).bearer? id = s.bearer? id := rfl
  simp only [reap, hb, isOperating_cancelTicket]
  split
  · rfl
  · split <;> rfl

theorem conclude_cancelTicket (s : Station) (ticket : Nat) (owner : Option Owner)
    (f : Owner → Bearer → Bearer) :
    (s.cancelTicket ticket).conclude owner f = (s.conclude owner f).cancelTicket ticket := by
  cases owner with
  | none => rfl
  | some o => exact reap_cancelTicket (s.update o.bearer (f o)) ticket o.bearer

/-- Operations can be asked to stop in any order. -/
theorem cancelTicket_cancelTicket (s : Station) (ticket other : Nat) :
    (s.cancelTicket ticket).cancelTicket other = (s.cancelTicket other).cancelTicket ticket := by
  simp only [cancelTicket_eq, List.map_map]
  congr 2
  funext r
  simp only [Function.comp_apply, marked]
  split <;> split <;> simp_all

/-- The request does not reach an operation that begins later. -/
theorem enter_cancelTicket (hne : s.nextTicket ≠ ticket) (owner : Option Owner) (cancelled : Bool)
    (turn : Turn) :
    (s.cancelTicket ticket).enter owner cancelled turn =
      asking ticket (s.enter owner cancelled turn) := by
  cases turn with
  | ask request op =>
    simp [enter, asking, cancelTicket_eq, marked, hne]
  | done ending =>
    exact congrArg (·, _)
      (conclude_cancelTicket { s with nextTicket := s.nextTicket + 1 } ticket owner _)

theorem begin_cancelTicket (hne : s.nextTicket ≠ ticket) (b : Bearer) (name : String)
    (required passage : Status) (first : Logged Turn) :
    (s.cancelTicket ticket).begin b name required passage first =
      asking ticket <$> s.begin b name required passage first := by
  have hticket : (s.cancelTicket ticket).nextTicket = s.nextTicket := rfl
  simp only [begin, hticket]
  cases b.occupy name required passage s.nextTicket with
  | error fault => rfl
  | ok busy =>
    refine Logged.ext ?_ (by simp)
    exact enter_cancelTicket (s := s.update b.id fun _ => busy) hne _ _ _

theorem advancing_asking (moved : Logged (Station × Progress)) :
    advancing (asking ticket <$> moved) = asking ticket <$> advancing moved :=
  Logged.ext rfl (by simp [advancing])

theorem create_cancelTicket (s : Station) (ticket : Nat) (profile : Profile) :
    (s.cancelTicket ticket).create profile = asking ticket <$> s.create profile := by
  have hused : (s.cancelTicket ticket).usedCids = s.usedCids := rfl
  simp only [create, hused]
  split
  · rfl
  · split <;> rfl

theorem connect_cancelTicket (hne : s.nextTicket ≠ ticket) (id : Nat) :
    (s.cancelTicket ticket).connect id = asking ticket <$> s.connect id := by
  have hb : (s.cancelTicket ticket).bearer? id = s.bearer? id := rfl
  have hmodem : (s.cancelTicket ticket).modem = s.modem := rfl
  simp only [connect, hb, hmodem]
  cases s.bearer? id with
  | none => rfl
  | some b => exact begin_cancelTicket hne ..

theorem refresh_cancelTicket (hne : s.nextTicket ≠ ticket) (id : Nat) :
    (s.cancelTicket ticket).refresh id = asking ticket <$> s.refresh id := by
  have hb : (s.cancelTicket ticket).bearer? id = s.bearer? id := rfl
  simp only [refresh, hb]
  cases s.bearer? id with
  | none => rfl
  | some b => exact begin_cancelTicket hne ..

theorem disconnect_cancelTicket (hne : s.nextTicket ≠ ticket) (id : Nat) :
    (s.cancelTicket ticket).disconnect id = asking ticket <$> s.disconnect id := by
  have hb : (s.cancelTicket ticket).bearer? id = s.bearer? id := rfl
  simp only [disconnect, hb]
  cases s.bearer? id with
  | none => rfl
  | some b =>
    simp only
    split
    · rfl
    · exact begin_cancelTicket hne ..

theorem cancel_cancelTicket (s : Station) (ticket id : Nat) :
    (s.cancelTicket ticket).cancel id = (s.cancel id).cancelTicket ticket := by
  have hb : (s.cancelTicket ticket).bearer? id = s.bearer? id := rfl
  simp only [cancel, hb]
  split
  · rfl
  · exact cancelTicket_cancelTicket ..

/-- An operation that is brought on stays marked. -/
theorem broughtOn_marked (other : Nat) (request : Request) (op : Operation) (r : Running) :
    broughtOn other request op (marked ticket r) =
      marked ticket (broughtOn other request op r) := by
  simp only [broughtOn, marked]
  split <;> split <;> simp_all

theorem without_cancelTicket (s : Station) (ticket other : Nat) :
    (s.cancelTicket ticket).without other = (s.without other).cancelTicket ticket := by
  simp only [without, cancelTicket_eq, List.filter_map, Function.comp_def, ticket_marked]

theorem abort_cancelTicket (s : Station) (ticket other : Nat) :
    (s.cancelTicket ticket).abort other = (s.abort other).cancelTicket ticket := by
  simp only [abort, running?_cancelTicket]
  cases s.running? other with
  | none => rfl
  | some r =>
    have hrest := conclude_cancelTicket (s.without other) ticket r.owner
      fun o b => b.restore o.previous
    rw [← without_cancelTicket] at hrest
    simp only [Option.map_some, owner_marked]
    exact hrest

/-- The operation with the ticket, if it is under way, ends a session. -/
structure Heedless (s : Station) (ticket : Nat) : Prop where
  lt : ticket < s.nextTicket
  purpose_eq : ∀ r, s.running? ticket = some r → r.operation.purpose = .disconnect

namespace Heedless

variable (h : s.Heedless ticket)
include h

/-- The operation that gets an answer does with it what it does anyway. -/
theorem resume_marked {other : Nat} {r : Running} (hr : s.running? other = some r) (a : Answer) :
    (marked ticket r).operation.resume (marked ticket r).cancelled a =
      r.operation.resume r.cancelled a := by
  rw [operation_marked]
  by_cases hticket : r.ticket = ticket
  · obtain rfl : other = ticket := (mem_of_running? hr).2.symm.trans hticket
    exact Operation.resume_of_disconnect (h.purpose_eq r hr) _ _ a
  · rw [marked, if_neg hticket]

theorem answer_cancelTicket (other : Nat) (a : Answer) :
    (s.cancelTicket ticket).answer other a = asking ticket <$> s.answer other a := by
  have hrunning := running?_cancelTicket s ticket other
  cases hr : s.running? other with
  | none =>
    rw [hr] at hrunning
    simp only [Station.answer, hr, hrunning, Option.map_none]
    rfl
  | some r =>
    rw [hr] at hrunning
    simp only [Station.answer, hr, hrunning, Option.map_some, h.resume_marked hr a]
    refine Logged.ext ?_ ?_
    · simp only [Logged.value_bind, Logged.value_map]
      cases (r.operation.resume r.cancelled a).value with
      | ask request op =>
        have hmap : (s.cancelTicket ticket).running.map (broughtOn other request op) =
            (s.running.map (broughtOn other request op)).map (marked ticket) := by
          simp only [cancelTicket_eq, List.map_map, Function.comp_def, broughtOn_marked]
        exact congrArg (fun running => ({ s with running }, Progress.waits other request)) hmap
      | done ending =>
        have hrest : ((s.cancelTicket ticket).without other).settle r.owner ending =
            ((s.without other).settle r.owner ending).cancelTicket ticket := by
          rw [without_cancelTicket]
          exact conclude_cancelTicket ..
        rw [owner_marked]
        exact congrArg (·, Progress.ended ending) hrest
    · simp only [Logged.log_bind, Logged.log_map]
      cases (r.operation.resume r.cancelled a).value <;> rfl

/-- Every move does the same, whether the operation was asked to stop or not. -/
theorem perform_cancelTicket (m : Move) :
    (s.cancelTicket ticket).perform m = asking ticket <$> s.perform m := by
  have hne : s.nextTicket ≠ ticket := Nat.ne_of_gt h.lt
  have hquiet {s₁ s₂ : Station} (heq : s₁ = s₂.cancelTicket ticket) :
      (pure (s₁, none) : Logged (Station × Option Progress)) =
        asking ticket <$> pure (s₂, none) := by
    rw [heq]
    rfl
  have hadvancing {moved moved' : Logged (Station × Progress)}
      (heq : moved' = asking ticket <$> moved) :
      advancing moved' = asking ticket <$> advancing moved :=
    (congrArg advancing heq).trans (advancing_asking moved)
  have henter (cancelled : Bool) (first : Logged Turn) :
      (do let turn ← first; return (s.cancelTicket ticket).enter none cancelled turn) =
        asking ticket <$> (do let turn ← first; return s.enter none cancelled turn) :=
    Logged.ext (enter_cancelTicket hne ..) (by simp)
  cases m with
  | create profile =>
    simp only [perform, create_cancelTicket]
    exact Logged.ext rfl (by simp)
  | release id => exact hquiet (reap_cancelTicket (s.update id _) ticket id)
  | connect id => exact hadvancing (connect_cancelTicket hne id)
  | refresh id => exact hadvancing (refresh_cancelTicket hne id)
  | disconnect id => exact hadvancing (disconnect_cancelTicket hne id)
  | cancel id => exact hquiet (cancel_cancelTicket s ticket id)
  | dial profile cancelled => exact hadvancing (henter cancelled _)
  | inspect port cid family cancelled => exact hadvancing (henter cancelled _)
  | teardown port cid => exact hadvancing (henter false _)
  | answer other a => exact hadvancing (h.answer_cancelTicket other a)
  | cancelTicket other => exact hquiet (cancelTicket_cancelTicket ..)
  | abort other => exact hquiet (abort_cancelTicket s ticket other)

theorem next_cancelTicket (m : Move) :
    (s.cancelTicket ticket).next m = (s.next m).cancelTicket ticket := by
  rw [next, h.perform_cancelTicket m]
  rfl

/-- It is the same call that comes to its end. -/
theorem returned?_cancelTicket (m : Move) :
    (s.cancelTicket ticket).returned? m = s.returned? m := by
  have hcaller : (s.cancelTicket ticket).callerOf? m = s.callerOf? m := by
    cases m with
    | answer other a =>
      simp only [callerOf?, running?_cancelTicket]
      cases s.running? other with
      | none => rfl
      | some r => simp only [Option.map_some, Option.bind_some, owner_marked]
    | _ => rfl
  rw [returned?, returned?, hcaller, h.perform_cancelTicket m]
  rfl

end Heedless

/-- The operation with the ticket ends a session as long as it is under way. -/
theorem Heedless.next (h : s.Heedless ticket) (ho : s.Orderly) (m : Move) :
    (s.next m).Heedless ticket where
  lt := Nat.lt_of_lt_of_le h.lt (s.step m).le_nextTicket
  purpose_eq r hr := by
    obtain ⟨hmem, hticket⟩ := mem_of_running? hr
    rcases ho.exists_after? hmem with ⟨q, hq, hafter⟩ | hcomes
    · have hcontinues := Running.continues_of_after? hafter
      rw [hcontinues.purpose_eq]
      refine h.purpose_eq q ?_
      rw [← hticket, hcontinues.ticket_eq]
      exact ho.running?_eq hq
    · exact absurd (hcomes.ticket_eq.symm.trans hticket) (Nat.ne_of_gt h.lt)

/-- Nobody can see whether an operation that ends a session was asked to stop. -/
theorem Heedless.sights_cancelTicket (h : s.Heedless ticket) (ho : s.Orderly) (later : List Move) :
    (s.cancelTicket ticket).sights later = s.sights later := by
  induction later generalizing s with
  | nil => rfl
  | cons m later ih =>
    simp only [sights, h.next_cancelTicket m, h.returned?_cancelTicket m, h.perform_cancelTicket m,
      ih (h.next ho m) (ho.next m), Logged.log_map]
    rfl

end Station

end ModemLink
