import ModemLink.Proofs.Operation.Requests
import ModemLink.Proofs.Station.Driving
import ModemLink.Proofs.Station.ListedBearers

/-!
# Operations under way

What becomes of an operation depends on little: on the answers it gets, on whether it is asked to
stop, and on whether it is dropped. Nothing else that happens at its station reaches it, so its fate
can be told without the station. Its bearer waits meanwhile. Whatever else happens, the bearer stays
as the operation found it and occupied it, but for its creator, who may let go of it; and when the
operation is over without success, the bearer is what it was before.

## Main definitions

* `Station.through`: a station after several moves.
* `Running.after?`, `Running.through?`: an operation after moves, if it is still under way.
* `Bearer.after`: a bearer after moves, while an operation of it is under way.

## Main results

* `Station.Orderly.running?_through`: the moves that reach an operation decide what becomes of it.
* `Station.Orderly.bearer?_through`: the bearer of an operation stays as it is.
* `Station.Orderly.bearer?_next_of_fails`: the bearer of an operation that is over without success.
-/

namespace ModemLink

open Station (Move)

/-! ### The fate of an operation -/

namespace Station.Move

/-- The move neither brings the operation with the ticket its answer nor drops it. -/
def Spares (ticket : Nat) (m : Move) : Prop :=
  m ≠ .abort ticket ∧ ∀ a, m ≠ .answer ticket a

theorem not_spares_iff {ticket : Nat} {m : Move} :
    ¬ m.Spares ticket ↔ m = .abort ticket ∨ ∃ a, m = .answer ticket a := by
  simp only [Spares, not_and_or, not_forall, not_not]

end Station.Move

namespace Running

/-- The operation after a move, if it is still under way. -/
def after? (r : Running) : Move → Option Running
  | .answer ticket a =>
    if ticket = r.ticket then
      match (r.operation.resume r.cancelled a).value with
      | .ask request operation => some { r with operation, request }
      | .done _ => none
    else some r
  | .cancel id => some { r with cancelled := r.cancelled || r.owner.map (·.bearer) == some id }
  | .cancelTicket ticket => some { r with cancelled := r.cancelled || ticket == r.ticket }
  | .abort ticket => if ticket = r.ticket then none else some r
  | _ => some r

/-- The operation after several moves, if it is still under way. -/
def through? (r : Running) (moves : List Move) : Option Running :=
  moves.foldlM after? r

variable {r r' : Running} {m : Move}

@[simp] theorem through?_nil (r : Running) : r.through? [] = some r := rfl

theorem through?_cons (r : Running) (m : Move) (moves : List Move) :
    r.through? (m :: moves) = (r.after? m).bind (·.through? moves) := rfl

/-- An operation that is still under way is the one that it was: it keeps its ticket and its owner,
what it is for, and the context it is on. A request to stop stays made. -/
structure Continues (r r' : Running) : Prop where
  ticket_eq : r'.ticket = r.ticket
  owner_eq : r'.owner = r.owner
  purpose_eq : r'.operation.purpose = r.operation.purpose
  cid_eq : r'.operation.cid = r.operation.cid
  cancelled : r.cancelled = true → r'.cancelled = true

theorem Continues.refl (r : Running) : r.Continues r := ⟨rfl, rfl, rfl, rfl, id⟩

theorem Continues.trans {r r' r'' : Running} (h : r.Continues r') (h' : r'.Continues r'') :
    r.Continues r'' where
  ticket_eq := h'.ticket_eq.trans h.ticket_eq
  owner_eq := h'.owner_eq.trans h.owner_eq
  purpose_eq := h'.purpose_eq.trans h.purpose_eq
  cid_eq := h'.cid_eq.trans h.cid_eq
  cancelled hcancelled := h'.cancelled (h.cancelled hcancelled)

/-- A move that is neither the answer to an operation nor its end can at most ask it to stop. -/
theorem after?_of_spares (hm : m.Spares r.ticket) :
    ∃ asked, r.after? m = some { r with cancelled := r.cancelled || asked } := by
  cases m with
  | answer ticket a =>
    refine ⟨false, ?_⟩
    rw [after?, if_neg fun hticket => hm.2 a (by rw [hticket]), Bool.or_false]
  | abort ticket =>
    refine ⟨false, ?_⟩
    rw [after?, if_neg fun hticket => hm.1 (by rw [hticket]), Bool.or_false]
  | cancel id => exact ⟨_, rfl⟩
  | cancelTicket ticket => exact ⟨_, rfl⟩
  | _ => exact ⟨false, by rw [Bool.or_false]; rfl⟩

/-- An operation that is neither answered nor dropped waits on. -/
theorem through?_of_spares {moves : List Move} (hmoves : ∀ m ∈ moves, m.Spares r.ticket) :
    ∃ asked, r.through? moves = some { r with cancelled := r.cancelled || asked } := by
  induction moves generalizing r with
  | nil => exact ⟨false, by rw [through?_nil, Bool.or_false]⟩
  | cons m moves ih =>
    obtain ⟨hm, hmoves⟩ := List.forall_mem_cons.mp hmoves
    obtain ⟨asked, hafter⟩ := after?_of_spares hm
    obtain ⟨asked', hrest⟩ := ih (r := { r with cancelled := r.cancelled || asked }) hmoves
    exact ⟨asked || asked', by rw [through?_cons, hafter, Option.bind_some, hrest, Bool.or_assoc]⟩

/-- An operation that a move does not end waits on, or it goes on with the answer that the move
brings. -/
theorem after?_cases (h : r.after? m = some r') :
    (m.Spares r.ticket ∧ ∃ asked, r' = { r with cancelled := r.cancelled || asked }) ∨
    ∃ a request operation, m = .answer r.ticket a ∧
      (r.operation.resume r.cancelled a).value = .ask request operation ∧
      r' = { r with operation, request } := by
  by_cases hm : m.Spares r.ticket
  · obtain ⟨asked, hafter⟩ := after?_of_spares hm
    exact .inl ⟨hm, asked, Option.some.inj (h.symm.trans hafter)⟩
  · rw [Move.not_spares_iff] at hm
    rcases hm with rfl | ⟨a, rfl⟩
    · simp [after?] at h
    · simp only [after?, if_true] at h
      split at h
      · next request operation hturn =>
        exact .inr ⟨a, request, operation, rfl, hturn, (Option.some.inj h).symm⟩
      · cases h

theorem continues_of_after? (h : r.after? m = some r') : r.Continues r' := by
  rcases after?_cases h with ⟨-, asked, rfl⟩ | ⟨a, request, operation, -, hturn, rfl⟩
  · exact ⟨rfl, rfl, rfl, rfl, fun h => by simp [h]⟩
  · have hserves := Operation.serves_resume r.operation r.cancelled a
    have hfits := Operation.fits_resume r.operation r.cancelled a
    rw [hturn] at hserves hfits
    exact ⟨rfl, rfl, hserves, hfits.1, id⟩

theorem continues_of_through? {moves : List Move} (h : r.through? moves = some r') :
    r.Continues r' := by
  induction moves generalizing r with
  | nil =>
    obtain rfl := Option.some.inj h
    exact .refl r
  | cons m moves ih =>
    rw [through?_cons, Option.bind_eq_some_iff] at h
    obtain ⟨q, hq, h⟩ := h
    exact (continues_of_after? hq).trans (ih h)

/-- An operation is under way no longer exactly where a move ends it. -/
theorem after?_eq_none_iff : r.after? m = none ↔ r.EndsBy m := by
  constructor
  · intro h
    cases m with
    | answer ticket a =>
      simp only [after?] at h
      split at h
      · next hticket =>
        subst hticket
        cases hturn : (r.operation.resume r.cancelled a).value with
        | ask request op => simp [hturn] at h
        | done ending => exact .answered hturn
      · cases h
    | abort ticket =>
      simp only [after?] at h
      split at h
      · next hticket =>
        subst hticket
        exact .dropped
      · cases h
    | _ => cases h
  · intro h
    cases h with
    | answered hturn => simp [after?, hturn]
    | dropped => simp [after?]

end Running

/-- The bearer after moves that leave an operation of it under way: its creator may have let go of
it, and everything else is for the operation to change. -/
def Bearer.after (b : Bearer) (moves : List Move) : Bearer :=
  { b with held := b.held && decide (.release b.id ∉ moves) }

namespace Bearer

@[simp] theorem held_settle (b : Bearer) (previous : Status) (ending : Ending) :
    (b.settle previous ending).held = b.held := by
  match ending with
  | .error _ | .ok (.connected _) | .ok (.refreshed _) | .ok .disconnected
  | .ok (.dialed _) | .ok (.inspected _) | .ok .tornDown => rfl

theorem after_nil (b : Bearer) : b.after [] = b := by
  simp [after]

theorem after_cons (b : Bearer) (m : Move) (moves : List Move) :
    b.after (m :: moves) = (b.after [m]).after moves := by
  by_cases hm : m = .release b.id
  · simp [after, hm]
  · simp [after, Ne.symm hm]

theorem after_release (b : Bearer) : b.after [.release b.id] = { b with held := false } := by
  simp [after]

theorem after_eq_self {b : Bearer} {m : Move} (hm : m ≠ .release b.id) : b.after [m] = b := by
  simp [after, Ne.symm hm]

end Bearer

namespace Station

variable {s : Station} {ticket : Nat} {r : Running}

/-- The station after several moves. -/
def through (s : Station) (moves : List Move) : Station :=
  moves.foldl next s

theorem through_cons (s : Station) (m : Move) (moves : List Move) :
    s.through (m :: moves) = (s.next m).through moves := rfl

theorem through_append (s : Station) (moves moves' : List Move) :
    s.through (moves ++ moves') = (s.through moves).through moves' :=
  List.foldl_append

theorem Orderly.through (h : s.Orderly) (moves : List Move) : (s.through moves).Orderly := by
  induction moves generalizing s with
  | nil => exact h
  | cons m moves ih => exact ih (h.next m)

@[simp] theorem running?_reap (id : Nat) : (s.reap id).running? ticket = s.running? ticket := by
  rw [running?, running_reap, running?]

@[simp] theorem running_conclude (owner : Option Owner) (f : Owner → Bearer → Bearer) :
    (s.conclude owner f).running = s.running := by
  cases owner with
  | none => rfl
  | some o => exact running_reap _

@[simp] theorem nextTicket_conclude (owner : Option Owner) (f : Owner → Bearer → Bearer) :
    (s.conclude owner f).nextTicket = s.nextTicket := by
  cases owner with
  | none => rfl
  | some o => exact nextTicket_reap _

@[simp] theorem running?_conclude (owner : Option Owner) (f : Owner → Bearer → Bearer) :
    (s.conclude owner f).running? ticket = s.running? ticket := by
  rw [running?, running_conclude, running?]

/-- An operation that begins is none of those that have begun before. -/
theorem running?_enter (hlt : ticket < s.nextTicket) (owner : Option Owner) (cancelled : Bool)
    (turn : Turn) : (s.enter owner cancelled turn).1.running? ticket = s.running? ticket := by
  cases turn with
  | ask request op =>
    have hne : (s.nextTicket == ticket) = false := beq_eq_false_iff_ne.mpr (Nat.ne_of_gt hlt)
    simp [enter, running?, List.find?_append, hne]
  | done ending => exact running?_conclude ..

theorem running?_begin (hlt : ticket < s.nextTicket) (b : Bearer) (name : String)
    (p : Operation.Purpose) (first : Logged Turn) :
    (s.begin b name p.required p.passage first).value.1.running? ticket = s.running? ticket := by
  rcases begin_cases s b name p first with ⟨fault, -, heq⟩ | ⟨-, -, heq⟩
  · rw [heq]; rfl
  · rw [heq]
    exact running?_enter (s := s.update b.id fun _ => b.occupied p s.nextTicket) hlt _ _ _

theorem running?_without (s : Station) (other : Nat) :
    (s.without other).running? ticket = if other = ticket then none else s.running? ticket := by
  simp only [without, running?, List.find?_filter]
  split
  · next hother =>
    subst hother
    rw [List.find?_eq_none]
    intro r _
    simp
  · next hother =>
    congr 1
    funext r
    by_cases hr : r.ticket = ticket
    · simp [hr, Ne.symm hother]
    · simp [hr]

/-- The operation where the one with the ticket was asked to stop. -/
def marked (ticket : Nat) (r : Running) : Running :=
  if r.ticket = ticket then { r with cancelled := true } else r

@[simp] theorem ticket_marked (r : Running) : (marked ticket r).ticket = r.ticket := by
  rw [marked]
  split <;> rfl

theorem cancelTicket_eq (s : Station) (ticket : Nat) :
    s.cancelTicket ticket = { s with running := s.running.map (marked ticket) } := rfl

theorem running?_cancelTicket (s : Station) (other ticket : Nat) :
    (s.cancelTicket other).running? ticket = (s.running? ticket).map (marked other) :=
  running?_map_running ticket_marked

theorem running?_cancelTicket_of_some (h : s.running? ticket = some r) (other : Nat) :
    (s.cancelTicket other).running? ticket =
      some { r with cancelled := r.cancelled || other == r.ticket } := by
  rw [running?_cancelTicket, h, Option.map_some, marked]
  by_cases hother : r.ticket = other
  · simp [hother]
  · rw [if_neg hother, beq_eq_false_iff_ne.mpr (Ne.symm hother), Bool.or_false]

/-- A bearer asks its own operation to stop, and no other one. -/
theorem Orderly.running?_cancel (h : s.Orderly) (hr : r ∈ s.running) (id : Nat) :
    (s.cancel id).running? r.ticket =
      some { r with cancelled := r.cancelled || r.owner.map (·.bearer) == some id } := by
  have hrunning := h.running?_eq hr
  rw [cancel]
  cases hb : s.bearer? id with
  | none =>
    have howner : (r.owner.map (·.bearer) == some id) = false := by
      rw [beq_eq_false_iff_ne]
      intro howner
      obtain ⟨o, ho, rfl⟩ := Option.map_eq_some_iff.mp howner
      obtain ⟨b, hmem, hid⟩ := h.owned r hr o ho
      cases hb.symm.trans (hid ▸ h.bearer?_eq hmem)
    rw [howner, Bool.or_false]
    exact hrunning
  | some b =>
    obtain ⟨hmem, rfl⟩ := mem_of_bearer? hb
    have hphase := h.phase b hmem
    have howner : r.owner.map (·.bearer) = some b.id ↔ r ∈ s.operationsOf b.id :=
      ⟨fun howner => mem_operationsOf.mpr ⟨hr, howner⟩, fun hmem => (mem_operationsOf.mp hmem).2⟩
    have hunder (r' : Running) (hr' : r' ∈ s.operationsOf b.id) : r' ∈ s.running :=
      (mem_operationsOf.mp hr').1
    generalize s.operationsOf b.id = pending at hphase howner hunder
    cases hphase with
    | disconnected _ ticket | connected _ ticket =>
      rw [Option.bind_some, ticket, beq_eq_false_iff_ne.mpr (by simp [howner]), Bool.or_false]
      exact hrunning
    | occupied r' _ ticket owner =>
      rw [Option.bind_some, ticket]
      change (s.cancelTicket r'.ticket).running? r.ticket = _
      rw [running?_cancelTicket_of_some hrunning]
      have hsame : (r'.ticket == r.ticket) = (r.owner.map (·.bearer) == some b.id) := by
        rw [Bool.eq_iff_iff, beq_iff_eq, beq_iff_eq, howner, List.mem_singleton]
        constructor
        · exact fun heq => h.eq_of_ticket_eq hr (hunder r' (List.mem_singleton_self r')) heq.symm
        · exact fun heq => by rw [heq]
      rw [hsame]

/-- The operation that gets an answer. -/
theorem running?_answer (h : s.running? ticket = some r) (other : Nat) (a : Answer) :
    (s.answer other a).value.1.running? ticket = r.after? (.answer other a) := by
  have hticket : r.ticket = ticket := (mem_of_running? h).2
  rcases answer_cases s other a with
    ⟨hnone, heq⟩ | ⟨r', hr', ⟨request, op, hturn, heq⟩ | ⟨ending, hturn, heq⟩⟩
  · have hne : other ≠ r.ticket := by
      rintro rfl
      cases hnone.symm.trans (hticket ▸ h)
    rw [heq, Running.after?, if_neg hne]
    exact h
  · rw [heq, running?_map_running (ticket_broughtOn other request op), h, Option.map_some,
      Running.after?]
    by_cases hother : other = r.ticket
    · obtain rfl : r = r' := Option.some.inj (h.symm.trans (hticket ▸ hother ▸ hr'))
      rw [if_pos hother, hturn, broughtOn_of_eq hother.symm]
    · rw [if_neg hother, broughtOn, if_neg (Ne.symm hother)]
  · rw [heq, settle, running?_conclude, Running.after?]
    change (s.without other).running? ticket = _
    rw [running?_without, hticket]
    by_cases hother : other = ticket
    · obtain rfl : r = r' := Option.some.inj (h.symm.trans (hother ▸ hr'))
      rw [if_pos hother, if_pos hother, hturn]
    · rw [if_neg hother, if_neg hother, h]

/-- What a move makes of an operation depends on the operation only. -/
theorem Orderly.running?_next (h : s.Orderly) (hr : s.running? ticket = some r) (m : Move) :
    (s.next m).running? ticket = r.after? m := by
  obtain ⟨hmem, hticket⟩ := mem_of_running? hr
  have hlt : ticket < s.nextTicket := hticket ▸ h.tickets_lt r hmem
  cases m with
  | create profile =>
    change (s.create profile).value.1.running? ticket = some r
    rcases s.create_cases profile with ⟨-, heq⟩ | ⟨-, -, heq⟩ | ⟨-, -, heq⟩
    · rw [heq]; exact hr
    · rw [heq]; exact hr
    · rw [heq]; exact hr
  | release id => exact (running?_reap id).trans hr
  | connect id =>
    change (s.connect id).value.1.running? ticket = some r
    rw [connect]
    split
    · exact hr
    · next b _ => exact (running?_begin hlt b "connect" .connect _).trans hr
  | refresh id =>
    change (s.refresh id).value.1.running? ticket = some r
    rw [refresh]
    split
    · exact hr
    · next b _ => exact (running?_begin hlt b "get IP config" .refresh _).trans hr
  | disconnect id =>
    change (s.disconnect id).value.1.running? ticket = some r
    rw [disconnect]
    split
    · exact hr
    · next b _ =>
      split
      · exact hr
      · exact (running?_begin hlt b "disconnect" .disconnect _).trans hr
  | cancel id => exact hticket ▸ h.running?_cancel hmem id
  | dial | inspect => exact (running?_enter hlt _ _ _).trans hr
  | teardown port cid =>
    exact (running?_enter hlt none false (Operation.teardown port cid).value).trans hr
  | answer other a => exact running?_answer hr other a
  | cancelTicket other => exact running?_cancelTicket_of_some hr other
  | abort other =>
    change (s.abort other).running? ticket = _
    rw [abort, Running.after?, hticket]
    split
    · next hnone =>
      rw [if_neg fun hother => ?_]
      · exact hr
      · cases hnone.symm.trans (hother ▸ hr)
    · rw [running?_conclude]
      change (s.without other).running? ticket = _
      rw [running?_without, hr]

/-- An operation that begins with a move: one of a bearer, which admits the call, or one of no
bearer. -/
inductive Comes (s : Station) (m : Move) : Running → Prop
  | called {b : Bearer} (mem : b ∈ s.bearers) {name : String} {p : Operation.Purpose}
      {first : Logged Turn} (begins : s.Begins b m name p first) (busy : b.busy = false)
      (status : b.status = p.required) {request : Request} {op : Operation}
      (turn : first.value = .ask request op) :
      Comes s m ⟨s.nextTicket, some ⟨b.id, p.required⟩, false, op, request⟩
  | free {cancelled : Bool} {first : Logged Turn} (begins : s.BeginsFree m cancelled first)
      {request : Request} {op : Operation} (turn : first.value = .ask request op) :
      Comes s m ⟨s.nextTicket, none, cancelled, op, request⟩

theorem Comes.ticket_eq {m : Move} (h : s.Comes m r) : r.ticket = s.nextTicket := by
  cases h <;> rfl

/-- Tickets are given out, and none is taken back. -/
theorem Step.le_nextTicket {m : Move} {s' : Station} {ret : Option Return}
    (hs : s.Step m s' ret) : s.nextTicket ≤ s'.nextTicket := by
  cases hs with
  | unmoved | created | refused | rested | resumed | asked => exact Nat.le_refl _
  | released =>
    rw [release, nextTicket_reap]
    exact Nat.le_refl _
  | occupied => exact Nat.le_succ _
  | finished =>
    rw [nextTicket_reap]
    exact Nat.le_succ _
  | @entered _ _ first =>
    cases first.value with
    | ask | done => exact Nat.le_succ _
  | ended | dropped =>
    simp only [settle, nextTicket_conclude]
    exact Nat.le_refl _

/-- An operation was under way before a step, or it comes with it. -/
theorem Step.stood_or_comes {m : Move} {s' : Station} {ret : Option Return} (hs : s.Step m s' ret)
    (hr : r ∈ s'.running) : (∃ q ∈ s.running, q.ticket = r.ticket) ∨ s.Comes m r := by
  cases hs with
  | unmoved | created | refused | rested => exact .inl ⟨r, hr, rfl⟩
  | released =>
    rw [release, running_reap] at hr
    exact .inl ⟨r, hr, rfl⟩
  | occupied hb hbegins hbusy hstatus hturn =>
    rcases List.mem_append.mp hr with hr | hr
    · exact .inl ⟨r, hr, rfl⟩
    · obtain rfl := List.mem_singleton.mp hr
      exact .inr (.called hb hbegins hbusy hstatus hturn)
  | finished =>
    rw [running_reap] at hr
    exact .inl ⟨r, hr, rfl⟩
  | @entered _ _ first hbegins =>
    cases hturn : first.value with
    | ask request op =>
      rw [hturn] at hr
      rcases List.mem_append.mp hr with hr | hr
      · exact .inl ⟨r, hr, rfl⟩
      · obtain rfl := List.mem_singleton.mp hr
        exact .inr (.free hbegins hturn)
    | done ending =>
      rw [hturn] at hr
      exact .inl ⟨r, hr, rfl⟩
  | resumed =>
    obtain ⟨q, hq, rfl⟩ := List.mem_map.mp hr
    exact .inl ⟨q, hq, (ticket_broughtOn ..).symm⟩
  | asked =>
    obtain ⟨q, hq, rfl⟩ := List.mem_map.mp hr
    exact .inl ⟨q, hq, by split <;> rfl⟩
  | ended | dropped =>
    simp only [settle, running_conclude] at hr
    exact .inl ⟨r, List.mem_of_mem_filter hr, rfl⟩

/-- An operation under way is what the move made of one that was under way before, or it has just
begun. -/
theorem Orderly.exists_after? (h : s.Orderly) {m : Move} (hr : r ∈ (s.next m).running) :
    (∃ q ∈ s.running, q.after? m = some r) ∨ s.Comes m r := by
  refine ((s.step m).stood_or_comes hr).imp_left fun ⟨q, hq, hticket⟩ => ⟨q, hq, ?_⟩
  rw [← h.running?_next (h.running?_eq hq), hticket]
  exact (h.next m).running?_eq hr

/-- What becomes of an operation with a ticket depends on the operation only. -/
theorem Orderly.running?_through (h : s.Orderly) (hlt : ticket < s.nextTicket)
    (moves : List Move) :
    (s.through moves).running? ticket = (s.running? ticket).bind (·.through? moves) := by
  induction moves generalizing s with
  | nil => cases hr : s.running? ticket <;> exact hr
  | cons m moves ih =>
    rw [through_cons, ih (h.next m) (Nat.lt_of_lt_of_le hlt (s.step m).le_nextTicket)]
    cases hr : s.running? ticket with
    | some r =>
      rw [h.running?_next hr, Option.bind_some, Running.through?_cons]
    | none =>
      cases hnext : (s.next m).running? ticket with
      | none => rfl
      | some r =>
        obtain ⟨hmem, rfl⟩ := mem_of_running? hnext
        rcases (s.step m).stood_or_comes hmem with ⟨q, hq, hticket⟩ | hcomes
        · cases hr.symm.trans (hticket ▸ h.running?_eq hq)
        · exact absurd hcomes.ticket_eq (Nat.ne_of_lt hlt)

/-- An operation that is still under way after moves is what they made of it. -/
theorem Orderly.exists_through? (h : s.Orderly) (hr : s.running? ticket = some r)
    {moves : List Move} (hunderway : ((s.through moves).running? ticket).isSome) :
    ∃ r', r.through? moves = some r' := by
  obtain ⟨hmem, rfl⟩ := mem_of_running? hr
  rw [h.running?_through (h.tickets_lt r hmem), hr] at hunderway
  exact Option.isSome_iff_exists.mp hunderway

/-! ### The bearer of an operation -/

theorem bearer?_update {id : Nat} {f : Bearer → Bearer} (hid : ∀ b, b.id = id → (f b).id = id) :
    (s.update id f).bearer? id = (s.bearer? id).map f := by
  have hcomp : ((fun b : Bearer => b.id == id) ∘ fun b => if b.id = id then f b else b) =
      fun b => b.id == id := by
    funext b
    by_cases hb : b.id = id
    · simp [hb, hid b hb]
    · simp [hb]
  rw [bearer?, update, List.find?_map, hcomp, bearer?]
  cases hfind : s.bearers.find? (·.id == id) with
  | none => rfl
  | some b =>
    have hb : b.id = id := by simpa using List.find?_some hfind
    rw [Option.map_some, Option.map_some, if_pos hb]

theorem bearer?_update_of_ne {id other : Nat} (hne : other ≠ id) {f : Bearer → Bearer}
    (hid : ∀ b, b.id = other → (f b).id = other) :
    (s.update other f).bearer? id = s.bearer? id := by
  have hcomp : ((fun b : Bearer => b.id == id) ∘ fun b => if b.id = other then f b else b) =
      fun b => b.id == id := by
    funext b
    by_cases hb : b.id = other
    · simp [hb, hid b hb]
    · simp [hb]
  rw [bearer?, update, List.find?_map, hcomp, bearer?]
  cases hfind : s.bearers.find? (·.id == id) with
  | none => rfl
  | some b =>
    have hb : b.id = id := by simpa using List.find?_some hfind
    rw [Option.map_some, if_neg (hb ▸ Ne.symm hne)]

theorem bearer?_reap_of_ne {id other : Nat} (hne : other ≠ id) :
    (s.reap other).bearer? id = s.bearer? id := by
  simp only [reap]
  split
  · rfl
  · split
    · rfl
    · simp only [bearer?, List.find?_filter]
      congr 1
      funext b
      by_cases hb : b.id = id
      · simp [hb, Ne.symm hne]
      · simp [hb]

/-- A bearer that somebody holds stays. -/
theorem bearer?_reap_of_held {id : Nat} {b : Bearer} (hb : s.bearer? id = some b)
    (hheld : b.held = true ∨ s.operationsOf id ≠ []) : (s.reap id).bearer? id = some b := by
  have hkeep : (b.held || s.isOperating id) = true := by
    rw [Bool.or_eq_true]
    refine hheld.imp_right fun hne => ?_
    by_contra hnot
    exact hne (isOperating_eq_false (Bool.eq_false_iff.mpr hnot))
  simp only [reap, hb, hkeep, if_true]

/-- A bearer that nobody holds goes. -/
theorem bearer?_reap_of_not_held {id : Nat} {b : Bearer} (hb : s.bearer? id = some b)
    (hheld : b.held = false) (hnone : s.operationsOf id = []) :
    (s.reap id).bearer? id = none := by
  have hgo : (b.held || s.isOperating id) = false := by
    rw [hheld, Bool.false_or, Bool.eq_false_iff]
    exact fun hoperating => isOperating_eq_true hoperating hnone
  simp only [reap, hb, hgo]
  rw [bearer?, List.find?_eq_none]
  intro b' hb'
  simpa using List.of_mem_filter hb'

theorem bearer?_conclude_of_ne {id : Nat} {o : Owner} (hne : o.bearer ≠ id)
    {f : Owner → Bearer → Bearer} (hid : ∀ o b, (f o b).id = b.id) :
    (s.conclude (some o) f).bearer? id = s.bearer? id :=
  (bearer?_reap_of_ne hne).trans (bearer?_update_of_ne hne fun b hb => (hid o b).trans hb)

/-- Where its operation is over, a bearer stays if its creator holds it. -/
theorem bearer?_conclude {id : Nat} {b : Bearer} (hb : s.bearer? id = some b)
    (hnone : s.operationsOf id = []) {o : Owner} (ho : o.bearer = id)
    {f : Owner → Bearer → Bearer} (hid : ∀ o b, (f o b).id = b.id)
    (hheld : ∀ o b, (f o b).held = b.held) :
    (s.conclude (some o) f).bearer? id = if b.held then some (f o b) else none := by
  subst ho
  have hupdate : (s.update o.bearer (f o)).bearer? o.bearer = some (f o b) := by
    rw [bearer?_update fun b hb => (hid o b).trans hb, hb]
    rfl
  rw [conclude]
  split
  · next h => exact bearer?_reap_of_held hupdate (.inl ((hheld o b).trans h))
  · next h =>
    exact bearer?_reap_of_not_held hupdate ((hheld o b).trans (Bool.eq_false_iff.mpr h)) hnone

/-- A bearer that is held stays when its operation has ended. -/
theorem bearer?_settle {id : Nat} {b : Bearer} (hb : s.bearer? id = some b) (hheld : b.held = true)
    (previous : Status) (ending : Ending) :
    (s.settle (some ⟨id, previous⟩) ending).bearer? id = some (b.settle previous ending) := by
  have hsettled : (s.update id fun b => b.settle previous ending).bearer? id =
      some (b.settle previous ending) := by
    rw [bearer?_update fun b hid => by rw [Bearer.id_settle, hid], hb]
    rfl
  exact bearer?_reap_of_held hsettled (.inl ((Bearer.held_settle ..).trans hheld))

/-- An operation that is over was the one of its bearer, or its bearer is another one. -/
theorem Orderly.bearer?_conclude_other (h : s.Orderly) {b : Bearer} (hb : s.bearer? b.id = some b)
    (hr : r ∈ s.operationsOf b.id) {q : Running} (hq : q ∈ s.running) (hne : q ≠ r)
    {f : Owner → Bearer → Bearer} (hid : ∀ o b, (f o b).id = b.id) :
    ((s.without q.ticket).conclude q.owner f).bearer? b.id = some b := by
  cases howner : q.owner with
  | none => exact hb
  | some o =>
    obtain ⟨b', -, rfl, hops, -⟩ := h.phase_of_owner hq howner
    refine (bearer?_conclude_of_ne (fun hsame => hne ?_) hid).trans hb
    have hsame : b'.id = b.id := hsame
    rw [← hsame, hops, List.mem_singleton] at hr
    exact hr.symm

/-- While an operation is under way, its bearer stays as it is. -/
theorem Orderly.bearer?_next (h : s.Orderly) {b : Bearer} (hb : s.bearer? b.id = some b)
    (hr : r ∈ s.operationsOf b.id) {m : Move} (hm : ¬ r.EndsBy m) :
    (s.next m).bearer? b.id = some (b.after [m]) := by
  by_cases hrelease : m = .release b.id
  · subst hrelease
    rw [Bearer.after_release]
    have hupdate : (s.update b.id fun b => { b with held := false }).bearer? b.id =
        some { b with held := false } := by
      rw [bearer?_update (f := fun b => { b with held := false }) fun _ hid => hid, hb]
      rfl
    exact bearer?_reap_of_held hupdate (.inr (List.ne_nil_of_mem hr))
  rw [Bearer.after_eq_self hrelease]
  have hmem := (mem_of_bearer? hb).1
  have hbusy : b.busy = true := by
    by_contra hidle
    have hnone := (h.phase b hmem).pending_eq_nil (Bool.eq_false_iff.mpr hidle)
    exact List.not_mem_nil (hnone ▸ hr)
  have hother {b' : Bearer} (hb' : b' ∈ s.bearers) (hidle : b'.busy = false) : b'.id ≠ b.id := by
    intro hid
    rw [h.eq_of_id_eq hb' hmem hid, hbusy] at hidle
    cases hidle
  have hs := s.step m
  generalize s.next m = s' at hs
  generalize s.returned? m = ret at hs
  cases hs with
  | unmoved | refused | rested | resumed | asked => exact hb
  | created =>
    simp only [bearer?, List.find?_append] at hb ⊢
    rw [hb, Option.some_or]
  | released id =>
    have hne : id ≠ b.id := fun hid => hrelease (hid ▸ rfl)
    refine (bearer?_reap_of_ne hne).trans ((bearer?_update_of_ne hne ?_).trans hb)
    exact fun _ hid => hid
  | @occupied b' hb' _ _ p _ _ hidle =>
    refine (bearer?_update_of_ne (f := fun _ => b'.occupied p s.nextTicket) (hother hb' hidle)
      fun _ _ => rfl).trans hb
  | finished hb' _ hidle =>
    have hne := hother hb' hidle
    refine (bearer?_reap_of_ne hne).trans ((bearer?_update_of_ne hne fun _ _ => ?_).trans hb)
    exact Bearer.id_settle ..
  | @entered _ _ first =>
    cases first.value with
    | ask | done => exact hb
  | ended hq hturn =>
    refine h.bearer?_conclude_other hb hr (mem_of_running? hq).1 ?_ fun o b =>
      b.id_settle o.previous _
    rintro rfl
    exact hm (.answered hturn)
  | dropped hq =>
    refine h.bearer?_conclude_other hb hr (mem_of_running? hq).1 ?_ fun _ _ => rfl
    rintro rfl
    exact hm .dropped

/-- What the end of its operation makes of a bearer. -/
theorem Orderly.bearer?_conclude (h : s.Orderly) {b : Bearer} (hb : s.bearer? b.id = some b)
    (hr : r ∈ s.operationsOf b.id) {f : Owner → Bearer → Bearer} (hid : ∀ o b, (f o b).id = b.id)
    (hheld : ∀ o b, (f o b).held = b.held) :
    ((s.without r.ticket).conclude r.owner f).bearer? b.id =
      if b.held then some (f ⟨b.id, r.operation.purpose.required⟩ b) else none := by
  obtain ⟨howner, hops, -⟩ := h.phase_of_mem (mem_of_bearer? hb).1 hr
  have hnone : (s.without r.ticket).operationsOf b.id = [] := by
    rw [without, operationsOf_filter, hops]
    simp
  rw [howner]
  exact Station.bearer?_conclude (s := s.without r.ticket) hb hnone rfl hid hheld

/-- A bearer is settled by the last answer to its operation. -/
theorem Orderly.bearer?_next_of_done (h : s.Orderly) {b : Bearer} (hb : s.bearer? b.id = some b)
    (hr : r ∈ s.operationsOf b.id) {a : Answer} {ending : Ending}
    (turn : (r.operation.resume r.cancelled a).value = .done ending) :
    (s.next (.answer r.ticket a)).bearer? b.id =
      if b.held then some (b.settle r.operation.purpose.required ending) else none := by
  rw [next_answer_of_done (h.running?_eq (mem_operationsOf.mp hr).1) turn]
  exact h.bearer?_conclude hb hr (fun o b => b.id_settle o.previous ending)
    fun o b => b.held_settle o.previous ending

/-- A bearer whose operation is dropped is in the status from before. -/
theorem Orderly.bearer?_next_of_abort (h : s.Orderly) {b : Bearer} (hb : s.bearer? b.id = some b)
    (hr : r ∈ s.operationsOf b.id) :
    (s.next (.abort r.ticket)).bearer? b.id =
      if b.held then some (b.restore r.operation.purpose.required) else none := by
  rw [next_abort (h.running?_eq (mem_operationsOf.mp hr).1)]
  exact h.bearer?_conclude hb hr (fun _ _ => rfl) fun _ _ => rfl

/-- Over any moves, the bearer of an operation that is still under way has stayed as it was. -/
theorem Orderly.bearer?_through (h : s.Orderly) {b : Bearer} (hb : s.bearer? b.id = some b)
    (hr : r ∈ s.operationsOf b.id) {moves : List Move} {r' : Running}
    (hmoves : r.through? moves = some r') :
    (s.through moves).bearer? b.id = some (b.after moves) ∧
      r' ∈ (s.through moves).operationsOf b.id := by
  induction moves generalizing s r b with
  | nil =>
    obtain rfl := Option.some.inj hmoves
    exact ⟨b.after_nil.symm ▸ hb, hr⟩
  | cons m moves ih =>
    rw [Running.through?_cons, Option.bind_eq_some_iff] at hmoves
    obtain ⟨q, hq, hmoves⟩ := hmoves
    obtain ⟨hmem, howner⟩ := mem_operationsOf.mp hr
    have hnext := h.bearer?_next hb hr fun hends => by
      cases hq.symm.trans (Running.after?_eq_none_iff.mpr hends)
    have hrunning := (h.running?_next (h.running?_eq hmem) m).trans hq
    have hq' : q ∈ (s.next m).operationsOf b.id := by
      refine mem_operationsOf.mpr ⟨(mem_of_running? hrunning).1, ?_⟩
      rw [(Running.continues_of_after? hq).owner_eq]
      exact howner
    rw [Bearer.after_cons]
    exact ih (h.next m) (b := b.after [m]) hnext hq' hmoves

/-- An operation that was under way up to the last of the moves ends with that one. Its bearer has
stayed as it was until then. -/
theorem Orderly.exists_endsBy (h : s.Orderly) {b : Bearer} (hb : s.bearer? b.id = some b)
    (hr : r ∈ s.operationsOf b.id) {moves : List Move} {last : Move}
    (hunderway : ((s.through moves).running? r.ticket).isSome)
    (hdone : ((s.through moves).next last).running? r.ticket = none) :
    ∃ r', r.Continues r' ∧ r' ∈ (s.through moves).operationsOf b.id ∧ r'.EndsBy last ∧
      (s.through moves).bearer? b.id = some (b.after moves) := by
  obtain ⟨r', hmoves⟩ := h.exists_through? (h.running?_eq (mem_operationsOf.mp hr).1) hunderway
  obtain ⟨hbearer, hr'⟩ := h.bearer?_through hb hr hmoves
  have hcontinues := Running.continues_of_through? hmoves
  have ht := h.through moves
  have hrunning := ht.running?_eq (mem_operationsOf.mp hr').1
  refine ⟨r', hcontinues, hr', ?_, hbearer⟩
  rw [← Running.after?_eq_none_iff, ← ht.running?_next hrunning, hcontinues.ticket_eq]
  exact hdone

/-- A bearer at rest that connects ends as its operation does, played out by itself; if it is held,
it stays and is settled. -/
theorem driveOn_connect (h : s.Orderly) {id : Nat} {b : Bearer} (hb : s.bearer? id = some b)
    (hbusy : b.busy = false) (hstatus : b.status = .disconnected) {σ ω : Type}
    {channel : Channel σ ω} {state state' : σ} {ending : Ending}
    (hplay : (Turn.play channel state false (Operation.connect s.modem b.profile).value).value =
      (state', .ended ending)) :
    ∃ s', (driveOn channel state (s.connect id)).value = (s', state', .ended ending) ∧
      (b.held = true → s'.bearer? id =
        some ((b.occupied .connect s.nextTicket).settle .disconnected ending)) := by
  let occupied := s.update b.id fun _ => b.occupied .connect s.nextTicket
  obtain ⟨s', hs', hdrive⟩ := driveOn_enter (s := occupied) h.tickets_lt channel state
    (some ⟨b.id, .disconnected⟩) false (Operation.connect s.modem b.profile).value
    (s.connect id).log
  rw [hplay] at hs'
  refine ⟨s', ?_, fun hheld => ?_⟩
  · rw [connect_eq_enter hb hbusy hstatus, hdrive, hplay]
    rfl
  · obtain ⟨-, rfl⟩ := mem_of_bearer? hb
    have hid (b' : Bearer) (_ : b'.id = b.id) : (b.occupied .connect s.nextTicket).id = b.id := rfl
    have hoccupied : occupied.bearer? b.id = some (b.occupied .connect s.nextTicket) := by
      rw [bearer?_update hid, hb]
      rfl
    rw [hs']
    exact bearer?_settle (s := { occupied with nextTicket := s.nextTicket + 1 }) hoccupied hheld
      .disconnected ending

/-- The rounds of a call to connect that is admitted are a course of connecting, as far as the
channel lets it come. -/
theorem driveOn_connect_recorded (h : s.Orderly) {id : Nat} {b : Bearer}
    (hb : s.bearer? id = some b) (hbusy : b.busy = false) (hstatus : b.status = .disconnected)
    {σ ω : Type} (channel : Channel σ ω) (state : σ) :
    ∃ s' after rounds, ∃ stop : Stop Ending ω,
      (driveOn channel.recorded (state, []) (s.connect id)).value =
        (s', (after, rounds), stop.halt s.nextTicket) ∧
      (Operation.connect s.modem b.profile).value.Course false rounds stop ∧
      ∀ ending, stop = .ended ending → b.held = true → s'.bearer? id =
        some ((b.occupied .connect s.nextTicket).settle .disconnected ending) := by
  let occupied := s.update b.id fun _ => b.occupied .connect s.nextTicket
  obtain ⟨s', -, hdrive⟩ := driveOn_enter (s := occupied) h.tickets_lt channel.recorded (state, [])
    (some ⟨b.id, .disconnected⟩) false (Operation.connect s.modem b.profile).value
    (s.connect id).log
  obtain ⟨rounds, hcourse, hplay⟩ := Turn.course_play channel state [] false
    (Operation.connect s.modem b.profile).value
  rw [← connect_eq_enter hb hbusy hstatus, hplay] at hdrive
  refine ⟨s', _, rounds, _, congrArg Logged.value hdrive, hcourse, fun ending hstop hheld => ?_⟩
  rw [hstop] at hplay hdrive
  obtain ⟨s'', hdriven, hbearer⟩ := driveOn_connect h hb hbusy hstatus (congrArg Logged.value hplay)
  obtain rfl : s'' = s' := congrArg Prod.fst (hdriven.symm.trans (congrArg Logged.value hdrive))
  exact hbearer hheld

end Station

end ModemLink
