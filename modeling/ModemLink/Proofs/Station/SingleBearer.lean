import ModemLink.Proofs.Station.Cancellation

/-!
# A bearer by itself

What can happen to a bearer is that its creator calls it, asks its operation to stop or lets go of
it, and that its operation gets an answer, gives its command up or is dropped. What comes of it can
be told from the bearer and its operation, so that the other bearers of the modem do not come in:
`Seat.does` tells it without a station. Two lemmas tie it to the station. What happens to a bearer
is what its seat tells, and the seats of all other bearers stay.

Tickets are given out to all bearers from one source. They tell operations apart and mean nothing
else, so a seat leaves them out.

## Main definitions

* `Station.Doing`, `Station.does`: what can happen to a bearer, and what comes of it at a station.
* `Seat`, `Station.seat?`: a bearer with its operation, without tickets.
* `Seat.does`: what comes of it for the seat.

## Main results

* `Station.Orderly.does_eq`: a station does with a bearer what its seat tells.
* `Station.Orderly.seat?_does_of_ne`: the seats of all other bearers stay.
-/

namespace ModemLink

open Operation (Purpose)
open Station (Move)

/-! ### Bearers and operations without tickets -/

/-- The bearer without the ticket of its operation. -/
def Bearer.unnumbered (b : Bearer) : Bearer :=
  { b with ticket := none }

theorem Bearer.unnumbered_settle (b : Bearer) (previous : Status) (ending : Ending) :
    (b.settle previous ending).unnumbered = b.unnumbered.settle previous ending := by
  match ending with
  | .error _ | .ok (.connected _) | .ok (.refreshed _) | .ok .disconnected
  | .ok (.dialed _) | .ok (.inspected _) | .ok .tornDown => rfl

/-- The operation without its ticket. -/
def Running.unnumbered (r : Running) : Running :=
  { r with ticket := 0 }

/-- The operation was asked to stop, and waits for a command that it gives up then. -/
def Running.givesUp (r : Running) : Bool :=
  r.cancelled && r.request.interruptible

/-! ### What happens to a bearer -/

/-- What is seen of an operation: that it puts a request, or what it returns. -/
inductive Sign
  | asks (request : Request)
  | returns (ending : Ending)
  deriving DecidableEq, Repr

/-- What is seen of how far a move has brought an operation. -/
def Progress.sign? : Progress → Option Sign
  | unknown => none
  | waits _ request => some (.asks request)
  | ended ending => some (.returns ending)

namespace Station

/-- Something that happens to a bearer. -/
inductive Doing
  | connect
  | refresh
  | disconnect
  /-- The operation is asked to stop. -/
  | cancel
  /-- The creator lets go of the bearer. -/
  | release
  /-- The modem answers the command of the operation. -/
  | answered
  /-- The operation was asked to stop and gives its command up. -/
  | interrupted
  /-- The operation is dropped where it waits. -/
  | dropped
  deriving DecidableEq, Repr

section Does

variable (reply : String → Answer) (s : Station) (id : Nat)

/-- The operation of a bearer that is under way. -/
def operationOf? : Option Running :=
  (s.operationsOf id).head?

/-- The move by which something happens to a bearer, if it can happen. The modem answers every
command by its body. -/
def moveFor? : Doing → Option Move
  | .connect => some (.connect id)
  | .refresh => some (.refresh id)
  | .disconnect => some (.disconnect id)
  | .cancel => some (.cancel id)
  | .release => some (.release id)
  | .answered => (s.operationOf? id).map fun r => .answer r.ticket (reply r.request.command.body)
  | .interrupted =>
    ((s.operationOf? id).filter (·.givesUp)).map fun r => .answer r.ticket (.error .canceled)
  | .dropped => (s.operationOf? id).map fun r => .abort r.ticket

/-- What is seen of a move. -/
def sign? (m : Move) : Option Sign :=
  (s.perform m).value.2.bind Progress.sign?

/-- The station after something happened to a bearer, and what is seen of it. -/
def does (d : Doing) : Station × Option Sign :=
  match s.moveFor? reply id d with
  | none => (s, none)
  | some m => (s.next m, s.sign? m)

end Does

end Station

/-! ### Seats -/

/-- A bearer with the operation of it that is under way, both without tickets. -/
structure Seat where
  bearer : Bearer
  operation : Option Running := none
  deriving DecidableEq, Repr

namespace Seat

/-- The seat of a bearer with nothing under way, if somebody holds the bearer. -/
def idle (b : Bearer) : Option Seat :=
  if b.held then some { bearer := b } else none

variable (modem : Modem) (reply : String → Answer) (seat : Seat)

/-- The bearer is called, and the operation would take this first turn. -/
def call (name : String) (p : Purpose) (first : Logged Turn) : Option Seat × Option Sign :=
  match seat.bearer.refusal? name p.required with
  | some fault => (some seat, some (.returns (.error fault)))
  | none =>
    let occupied := (seat.bearer.occupied p 0).unnumbered
    match first.value with
    | .ask request operation =>
      (some ⟨occupied, some ⟨0, some ⟨occupied.id, p.required⟩, false, operation, request⟩⟩,
        some (.asks request))
    | .done ending => (idle (occupied.settle p.required ending), some (.returns ending))

/-- The operation gets an answer. -/
def answer (r : Running) (a : Answer) : Option Seat × Option Sign :=
  match (r.operation.resume r.cancelled a).value with
  | .ask request operation =>
    (some ⟨seat.bearer, some { r with operation, request }⟩, some (.asks request))
  | .done ending =>
    (idle (seat.bearer.settle r.operation.purpose.required ending), some (.returns ending))

/-- Something happens to the operation, if one is under way. -/
def onOperation (f : Running → Option Seat × Option Sign) : Option Seat × Option Sign :=
  match seat.operation with
  | none => (some seat, none)
  | some r => f r

/-- The seat after something happened to its bearer, and what is seen of it. -/
def does : Station.Doing → Option Seat × Option Sign
  | .connect => seat.call "connect" .connect (Operation.connect modem seat.bearer.profile)
  | .refresh =>
    seat.call "get IP config" .refresh
      (Station.onPort seat.bearer fun port => Operation.refresh port seat.bearer.profile)
  | .disconnect =>
    if !seat.bearer.busy && seat.bearer.status == .disconnected then
      (some seat, some (.returns (.ok .disconnected)))
    else
      seat.call "disconnect" .disconnect
        (Station.onPort seat.bearer fun port => Operation.disconnect port seat.bearer.profile.cid)
  | .cancel => seat.onOperation fun r =>
    (some { seat with operation := some { r with cancelled := true } }, none)
  | .release =>
    let bearer := { seat.bearer with held := false }
    (seat.operation.map fun r => ⟨bearer, some r⟩, none)
  | .answered => seat.onOperation fun r => seat.answer r (reply r.request.command.body)
  | .interrupted => seat.onOperation fun r =>
    if r.givesUp then seat.answer r (.error .canceled) else (some seat, none)
  | .dropped => seat.onOperation fun r =>
    (idle (seat.bearer.restore r.operation.purpose.required), none)

end Seat

namespace Station

variable {reply : String → Answer} {s : Station} {id other : Nat} {b : Bearer} {r : Running}

/-- The seat of a bearer. -/
def seat? (s : Station) (id : Nat) : Option Seat :=
  (s.bearer? id).map fun b => ⟨b.unnumbered, (s.operationOf? id).map (·.unnumbered)⟩

theorem seat?_eq_some (hb : s.bearer? id = some b) :
    s.seat? id = some ⟨b.unnumbered, (s.operationOf? id).map (·.unnumbered)⟩ := by
  rw [seat?, hb, Option.map_some]

theorem seat?_of_singleton (hb : s.bearer? id = some b) (hr : s.operationsOf id = [r]) :
    s.seat? id = some ⟨b.unnumbered, some r.unnumbered⟩ := by
  rw [seat?_eq_some hb, operationOf?, hr, List.head?_singleton, Option.map_some]

/-- A bearer whose last operation is over has its seat while somebody holds it. -/
theorem seat?_of_vacant (hb : s.bearer? id = if b.held then some b else none)
    (hnone : s.operationsOf id = []) : s.seat? id = Seat.idle b.unnumbered := by
  have hheld : b.unnumbered.held = b.held := rfl
  rw [Seat.idle, hheld, seat?, hb, operationOf?, hnone]
  split <;> rfl

/-! ### The seat of the bearer that something happens to -/

/-- An operation that is answered and asks for the next command is brought on. -/
theorem next_answer_of_ask (hr : s.running? r.ticket = some r) {a : Answer} {request : Request}
    {op : Operation} (turn : (r.operation.resume r.cancelled a).value = .ask request op) :
    s.next (.answer r.ticket a) =
        { s with running := s.running.map (broughtOn r.ticket request op) } ∧
      s.sign? (.answer r.ticket a) = some (.asks request) := by
  have hvalue : (s.answer r.ticket a).value =
      ({ s with running := s.running.map (broughtOn r.ticket request op) },
        .waits r.ticket request) := by
    simp only [Station.answer, hr, Logged.value_bind, turn, Logged.value_pure]
    rfl
  exact ⟨congrArg Prod.fst hvalue, congrArg (·.2.sign?) hvalue⟩

/-- An operation of a bearer is the one under way. -/
theorem Orderly.operationOf?_eq (h : s.Orderly) (hb : s.bearer? id = some b) :
    s.operationOf? id = none ∧ s.operationsOf id = [] ∨
      ∃ r, s.operationOf? id = some r ∧ s.operationsOf id = [r] := by
  obtain ⟨hmem, rfl⟩ := mem_of_bearer? hb
  have hphase := h.phase b hmem
  rw [operationOf?]
  generalize s.operationsOf b.id = pending at hphase ⊢
  cases hphase with
  | disconnected | connected => exact .inl ⟨rfl, rfl⟩
  | occupied r => exact .inr ⟨r, rfl, rfl⟩

namespace Orderly

variable (h : s.Orderly)
include h

/-- A call does at the station what it does with the seat. -/
theorem seat?_call (hb : s.bearer? b.id = some b) {m : Move} {name : String} {p : Purpose}
    {first : Logged Turn}
    (hm : s.perform m = advancing (s.begin b name p.required p.passage first)) :
    ((s.next m).seat? b.id, s.sign? m) =
      Seat.call ⟨b.unnumbered, (s.operationOf? b.id).map (·.unnumbered)⟩ name p first := by
  have hperformed : ((s.next m).seat? b.id, s.sign? m) =
      let begun := (s.begin b name p.required p.passage first).value
      (begun.1.seat? b.id, begun.2.sign?) := by
    rw [Station.next, sign?, hm]
    rfl
  rw [hperformed, begin_eq, Seat.call]
  change _ = match b.refusal? name p.required with | some fault => _ | none => _
  cases hrefusal : b.refusal? name p.required with
  | some fault => exact Prod.ext (seat?_eq_some hb) rfl
  | none =>
    have hnone : s.operationsOf b.id = [] :=
      (h.phase b (mem_of_bearer? hb).1).pending_eq_nil (Bearer.refusal?_eq_none_iff.mp hrefusal).1
    have hoccupied := bearer?_occupied hb p s.nextTicket
    simp only [Logged.value_bind, Logged.value_pure]
    cases first.value with
    | ask request op =>
      refine Prod.ext (seat?_of_singleton (b := b.occupied p s.nextTicket)
        (r := ⟨s.nextTicket, some ⟨b.id, p.required⟩, false, op, request⟩) hoccupied ?_) rfl
      simp only [operationsOf] at hnone
      simp [operationsOf, enter, hnone]
    | done ending =>
      refine Prod.ext ?_ rfl
      rw [enter, Station.settle]
      refine (seat?_of_vacant (b := (b.occupied p s.nextTicket).settle p.required ending)
        ?_ ?_).trans ?_
      · rw [Bearer.held_settle]
        exact Station.bearer?_conclude (o := ⟨b.id, p.required⟩)
          (s := { s.update b.id fun _ => b.occupied p s.nextTicket with
            nextTicket := s.nextTicket + 1 })
          hoccupied hnone rfl (fun o b => b.id_settle o.previous ending)
          fun o b => b.held_settle o.previous ending
      · rw [operationsOf_conclude]
        exact hnone
      · rw [Bearer.unnumbered_settle]
        rfl

/-- An answer does at the station what it does with the seat. -/
theorem seat?_answer (hb : s.bearer? b.id = some b) (hr : s.operationsOf b.id = [r]) (a : Answer) :
    ((s.next (.answer r.ticket a)).seat? b.id, s.sign? (.answer r.ticket a)) =
      Seat.answer ⟨b.unnumbered, some r.unnumbered⟩ r.unnumbered a := by
  have hmem : r ∈ s.operationsOf b.id := hr ▸ List.mem_singleton_self r
  have hrunning := h.running?_eq (mem_operationsOf.mp hmem).1
  rw [Seat.answer]
  change _ = match (r.operation.resume r.cancelled a).value with | .ask _ _ => _ | .done _ => _
  cases hturn : (r.operation.resume r.cancelled a).value with
  | ask request op =>
    obtain ⟨hnext, hsign⟩ := next_answer_of_ask hrunning hturn
    rw [hnext, hsign]
    refine Prod.ext ?_ rfl
    refine seat?_of_singleton (r := { r with operation := op, request }) hb ?_
    rw [operationsOf_map fun r' => owner_broughtOn _ request op r', hr, List.map_singleton,
      broughtOn_of_eq rfl]
  | done ending =>
    have hvalue : (s.answer r.ticket a).value.2 = .ended ending := by
      simp only [Station.answer, hrunning, Logged.value_bind, hturn, Logged.value_pure]
    refine Prod.ext ?_ (congrArg Progress.sign? hvalue)
    refine (seat?_of_vacant (b := b.settle r.operation.purpose.required ending) ?_ ?_).trans ?_
    · rw [Bearer.held_settle]
      exact h.bearer?_next_of_done hb hmem hturn
    · exact h.operationsOf_next_of_endsBy hmem (.answered hturn)
    · rw [Bearer.unnumbered_settle]
      rfl

/-- What happens to a bearer is what its seat tells. -/
theorem does_eq (hb : s.bearer? id = some b) (d : Doing) :
    ((s.does reply id d).1.seat? id, (s.does reply id d).2) =
      Seat.does s.modem reply ⟨b.unnumbered, (s.operationOf? id).map (·.unnumbered)⟩ d := by
  obtain ⟨hmem, rfl⟩ := mem_of_bearer? hb
  cases d with
  | connect =>
    refine h.seat?_call hb (m := .connect b.id) (p := .connect) ?_
    simp only [perform, Station.connect, hb]
    rfl
  | refresh =>
    refine h.seat?_call hb (m := .refresh b.id) (p := .refresh) ?_
    simp only [perform, Station.refresh, hb]
    rfl
  | disconnect =>
    rw [Seat.does]
    change _ = if !b.busy && b.status == .disconnected then _ else _
    have hperform : s.perform (.disconnect b.id) = advancing (s.disconnect b.id) := rfl
    simp only [Station.disconnect, hb] at hperform
    split
    · next hrest =>
      rw [if_pos hrest] at hperform
      refine Prod.ext ?_ ?_
      · change (s.next (.disconnect b.id)).seat? b.id = _
        rw [Station.next, hperform]
        exact seat?_eq_some hb
      · change s.sign? (.disconnect b.id) = _
        rw [sign?, hperform]
        rfl
    · next hsession =>
      rw [if_neg hsession] at hperform
      exact h.seat?_call hb (p := .disconnect) hperform
  | cancel =>
    change ((s.cancel b.id).seat? b.id, none) = _
    rcases h.operationOf?_eq hb with ⟨hop, hnone⟩ | ⟨r, hop, hr⟩
    · rw [h.cancel_eq_self hmem hnone, seat?_eq_some hb, hop]
      rfl
    · have hrunning : r ∈ s.operationsOf b.id := hr ▸ List.mem_singleton_self r
      rw [h.cancel_eq_cancelTicket hmem hrunning, hop]
      refine Prod.ext ?_ rfl
      refine seat?_of_singleton (r := { r with cancelled := true }) hb ?_
      rw [operationsOf_cancelTicket, hr, List.map_singleton, if_pos rfl]
  | release =>
    change ((s.release b.id).seat? b.id, none) = _
    have hupdate : (s.update b.id fun b => { b with held := false }).bearer? b.id =
        some { b with held := false } := by
      rw [bearer?_update (f := fun b => { b with held := false }) fun _ hid => hid, hb]
      rfl
    have hops : (s.release b.id).operationsOf b.id = s.operationsOf b.id := operationsOf_reap ..
    refine Prod.ext ?_ rfl
    rcases h.operationOf?_eq hb with ⟨hop, hnone⟩ | ⟨r, hop, hr⟩
    · have hgone : (s.release b.id).bearer? b.id = none :=
        bearer?_reap_of_not_held hupdate rfl hnone
      rw [seat?, hgone, hop]
      rfl
    · have hstays : (s.release b.id).bearer? b.id = some { b with held := false } :=
        bearer?_reap_of_held hupdate (.inr (hr ▸ List.cons_ne_nil r []))
      rw [seat?_of_singleton hstays (hops.trans hr), hop]
      rfl
  | answered =>
    rcases h.operationOf?_eq hb with ⟨hop, hnone⟩ | ⟨r, hop, hr⟩
    · simp only [does, moveFor?, hop, Option.map_none, seat?_eq_some hb]
      rfl
    · simp only [does, moveFor?, hop, Option.map_some, h.seat?_answer hb hr]
      rfl
  | interrupted =>
    rcases h.operationOf?_eq hb with ⟨hop, hnone⟩ | ⟨r, hop, hr⟩
    · simp only [does, moveFor?, hop, Option.filter_none, Option.map_none, seat?_eq_some hb]
      rfl
    · have hgivesUp : r.unnumbered.givesUp = r.givesUp := rfl
      simp only [does, moveFor?, hop, Option.map_some, Seat.does, Seat.onOperation, hgivesUp]
      cases hup : r.givesUp
      · simp only [Option.filter_some, hup, Bool.false_eq_true, if_false, Option.map_none,
          seat?_eq_some hb, hop, Option.map_some]
      · simp only [Option.filter_some, hup, if_true, Option.map_some, h.seat?_answer hb hr]
  | dropped =>
    rcases h.operationOf?_eq hb with ⟨hop, hnone⟩ | ⟨r, hop, hr⟩
    · simp only [does, moveFor?, hop, Option.map_none, seat?_eq_some hb]
      rfl
    · have hrunning : r ∈ s.operationsOf b.id := hr ▸ List.mem_singleton_self r
      simp only [does, moveFor?, hop, Option.map_some]
      refine Prod.ext ?_ rfl
      exact seat?_of_vacant (b := b.restore r.operation.purpose.required)
        (h.bearer?_next_of_abort hb hrunning) (h.operationsOf_next_of_endsBy hrunning .dropped)

end Orderly

/-- Nothing happens to a bearer that there is not. -/
theorem Orderly.does_of_absent (h : s.Orderly) (hb : s.bearer? id = none) (d : Doing) :
    ((s.does reply id d).1.seat? id, (s.does reply id d).2) = (none, none) := by
  have hseat : s.seat? id = none := by rw [seat?, hb, Option.map_none]
  have hnone : s.operationOf? id = none := by
    rw [operationOf?, List.head?_eq_none_iff, List.eq_nil_iff_forall_not_mem]
    intro r hr
    obtain ⟨hmem, howner⟩ := mem_operationsOf.mp hr
    obtain ⟨o, ho, rfl⟩ := Option.map_eq_some_iff.mp howner
    obtain ⟨b, hmem', hid⟩ := h.owned r hmem o ho
    cases hb.symm.trans (hid ▸ h.bearer?_eq hmem')
  have hcall {m : Move} (hm : s.perform m = advancing (pure (s, .unknown))) :
      ((s.next m).seat? id, s.sign? m) = (none, none) := by
    rw [Station.next, sign?, hm]
    exact Prod.ext hseat rfl
  cases d with
  | connect =>
    refine hcall ?_
    simp only [perform, Station.connect, hb]
  | refresh =>
    refine hcall ?_
    simp only [perform, Station.refresh, hb]
  | disconnect =>
    refine hcall ?_
    simp only [perform, Station.disconnect, hb]
  | cancel =>
    change ((s.cancel id).seat? id, none) = _
    rw [Station.cancel, hb]
    exact Prod.ext hseat rfl
  | release =>
    change ((s.release id).seat? id, none) = _
    have hupdate : (s.update id fun b => { b with held := false }).bearer? id = none := by
      rw [bearer?_update (f := fun b => { b with held := false }) fun _ hid => hid, hb]
      rfl
    rw [Station.release, Station.reap, hupdate, seat?, hupdate, Option.map_none]
  | answered | interrupted | dropped =>
    simp only [does, moveFor?, hnone, Option.filter_none, Option.map_none, hseat]

/-! ### The seats of all other bearers -/

/-- A move is about a bearer. -/
inductive Concerns (s : Station) (id : Nat) : Move → Prop
  | connect : Concerns s id (.connect id)
  | refresh : Concerns s id (.refresh id)
  | disconnect : Concerns s id (.disconnect id)
  | cancel : Concerns s id (.cancel id)
  | release : Concerns s id (.release id)
  | answer {r : Running} (mem : r ∈ s.operationsOf id) (a : Answer) :
      Concerns s id (.answer r.ticket a)
  | abort {r : Running} (mem : r ∈ s.operationsOf id) : Concerns s id (.abort r.ticket)

theorem concerns_of_moveFor? {d : Doing} {m : Move} (h : s.moveFor? reply id d = some m) :
    s.Concerns id m := by
  cases d with
  | connect => exact Option.some.inj h ▸ .connect
  | refresh => exact Option.some.inj h ▸ .refresh
  | disconnect => exact Option.some.inj h ▸ .disconnect
  | cancel => exact Option.some.inj h ▸ .cancel
  | release => exact Option.some.inj h ▸ .release
  | answered =>
    obtain ⟨r, hr, rfl⟩ := Option.map_eq_some_iff.mp h
    exact .answer (List.mem_of_head? hr) _
  | interrupted =>
    obtain ⟨r, hr, rfl⟩ := Option.map_eq_some_iff.mp h
    exact .answer (List.mem_of_head? (Option.filter_eq_some_iff.mp hr).1) _
  | dropped =>
    obtain ⟨r, hr, rfl⟩ := Option.map_eq_some_iff.mp h
    exact .abort (List.mem_of_head? hr)

/-- Another station has the same bearer with the same operations. -/
structure Keeps (s s' : Station) (id : Nat) : Prop where
  bearer : s'.bearer? id = s.bearer? id
  operations : s'.operationsOf id = s.operationsOf id

theorem Keeps.refl (s : Station) (id : Nat) : s.Keeps s id := ⟨rfl, rfl⟩

theorem Keeps.seat?_eq {s' : Station} (h : s.Keeps s' id) : s'.seat? id = s.seat? id := by
  rw [seat?, seat?, operationOf?, operationOf?, h.bearer, h.operations]

/-- The operations of different bearers have different tickets. -/
theorem Orderly.ticket_ne (h : s.Orderly) (hne : other ≠ id) (hr : r ∈ s.operationsOf other)
    {q : Running} (hq : q ∈ s.operationsOf id) : q.ticket ≠ r.ticket := by
  obtain ⟨hr, hother⟩ := mem_operationsOf.mp hr
  obtain ⟨hq, hid⟩ := mem_operationsOf.mp hq
  intro hticket
  rw [h.eq_of_ticket_eq hq hr hticket, hother] at hid
  exact hne (Option.some.inj hid)

/-- A change of the operation of one bearer leaves the others as they are. -/
theorem Orderly.keeps_map (h : s.Orderly) (hne : other ≠ id) (hr : r ∈ s.operationsOf other)
    {f : Running → Running} (howner : ∀ q, (f q).owner = q.owner)
    (hf : ∀ q, q.ticket ≠ r.ticket → f q = q) :
    s.Keeps { s with running := s.running.map f } id := by
  refine ⟨rfl, ?_⟩
  rw [operationsOf_map howner]
  exact (List.map_congr_left fun q hq => hf q (h.ticket_ne hne hr hq)).trans (List.map_id _)

/-- A call occupies its own bearer. -/
theorem keeps_begin (hne : b.id ≠ id) (name : String) (p : Purpose) (first : Logged Turn) :
    s.Keeps (s.begin b name p.required p.passage first).value.1 id := by
  have hupdate : (s.update b.id fun _ => b.occupied p s.nextTicket).bearer? id = s.bearer? id :=
    bearer?_update_of_ne (f := fun _ => b.occupied p s.nextTicket) hne fun _ _ => rfl
  rcases begin_cases s b name p first with ⟨fault, -, heq⟩ | ⟨-, -, heq⟩
  · rw [heq]
    exact .refl s id
  · rw [heq]
    cases first.value with
    | ask request op =>
      refine ⟨hupdate, ?_⟩
      simp [operationsOf, enter, hne]
    | done ending =>
      refine ⟨?_, ?_⟩
      · exact (bearer?_conclude_of_ne hne fun o b => b.id_settle o.previous ending).trans hupdate
      · exact operationsOf_conclude ..

/-- An operation that is over vacates its own bearer. -/
theorem Orderly.keeps_conclude (h : s.Orderly) (hne : other ≠ id) (hr : r ∈ s.operationsOf other)
    {f : Owner → Bearer → Bearer} (hid : ∀ o b, (f o b).id = b.id) :
    s.Keeps (({ s with running := s.running.filter (·.ticket != r.ticket) }).conclude r.owner f)
      id := by
  obtain ⟨hmem, howner⟩ := mem_operationsOf.mp hr
  obtain ⟨o, ho, rfl⟩ := Option.map_eq_some_iff.mp howner
  refine ⟨by rw [ho]; exact bearer?_conclude_of_ne hne hid, ?_⟩
  rw [operationsOf_conclude, operationsOf_filter, List.filter_eq_self]
  intro q hq
  rw [bne_iff_ne]
  exact h.ticket_ne hne hr hq

/-- What is about one bearer leaves the others as they are. -/
theorem Orderly.keeps_next (h : s.Orderly) (hne : other ≠ id) {m : Move}
    (hm : s.Concerns other m) : s.Keeps (s.next m) id := by
  cases hm with
  | connect =>
    change s.Keeps (s.connect other).value.1 id
    rw [Station.connect]
    split
    · exact .refl s id
    · next b hb =>
      obtain ⟨-, rfl⟩ := mem_of_bearer? hb
      exact keeps_begin hne "connect" .connect _
  | refresh =>
    change s.Keeps (s.refresh other).value.1 id
    rw [Station.refresh]
    split
    · exact .refl s id
    · next b hb =>
      obtain ⟨-, rfl⟩ := mem_of_bearer? hb
      exact keeps_begin hne "get IP config" .refresh _
  | disconnect =>
    change s.Keeps (s.disconnect other).value.1 id
    rw [Station.disconnect]
    split
    · exact .refl s id
    · next b hb =>
      obtain ⟨-, rfl⟩ := mem_of_bearer? hb
      split
      · exact .refl s id
      · exact keeps_begin hne "disconnect" .disconnect _
  | cancel =>
    change s.Keeps (s.cancel other) id
    cases hb : s.bearer? other with
    | none =>
      rw [Station.cancel, hb]
      exact .refl s id
    | some b =>
      obtain ⟨hmem, rfl⟩ := mem_of_bearer? hb
      rcases h.operationOf?_eq hb with ⟨-, hnone⟩ | ⟨r, -, hr⟩
      · rw [h.cancel_eq_self hmem hnone]
        exact .refl s id
      · have hr : r ∈ s.operationsOf b.id := hr ▸ List.mem_singleton_self r
        rw [h.cancel_eq_cancelTicket hmem hr, cancelTicket_eq]
        exact h.keeps_map hne hr owner_marked fun q hq => if_neg hq
  | release =>
    change s.Keeps ((s.update other fun b => { b with held := false }).reap other) id
    refine ⟨(bearer?_reap_of_ne hne).trans (bearer?_update_of_ne hne fun _ hid => hid), ?_⟩
    exact operationsOf_reap ..
  | @answer r hr a =>
    have hrunning := h.running?_eq (mem_operationsOf.mp hr).1
    cases hturn : (r.operation.resume r.cancelled a).value with
    | ask request op =>
      rw [(next_answer_of_ask hrunning hturn).1]
      exact h.keeps_map hne hr (owner_broughtOn r.ticket request op) fun q hq => if_neg hq
    | done ending =>
      rw [next_answer_of_done hrunning hturn]
      exact h.keeps_conclude hne hr fun o b => b.id_settle o.previous ending
  | @abort r hr =>
    rw [next_abort (h.running?_eq (mem_operationsOf.mp hr).1)]
    exact h.keeps_conclude hne hr fun _ _ => rfl

/-- The seats of all other bearers stay. -/
theorem Orderly.seat?_does_of_ne (h : s.Orderly) (hne : other ≠ id) (d : Doing) :
    (s.does reply other d).1.seat? id = s.seat? id := by
  rw [does]
  split
  · rfl
  · next m hm => exact (h.keeps_next hne (concerns_of_moveFor? hm)).seat?_eq

end Station

end ModemLink
