import ModemLink.Bench.Line
import ModemLink.Proofs.Operation.Play
import ModemLink.Proofs.Port.Commands
import ModemLink.Proofs.Port.Echo
import ModemLink.Proofs.Reply.Readings

/-!
# A modem that answers its commands in time

On a port that nobody else uses, and with a modem that answers the command in time, a command ends
with what the modem has sent about it. How the modem cuts its lines into pieces, and whether it
echoes the command, makes no difference. Over such a port, and with a modem that fulfils each
command, an operation takes the course in which every request is answered with the information of
the answer.

## Main definitions

* `Delivery`: what a modem sends to answer a command.
* `Fulfilment`: what a modem sends to fulfil a command.
* `Port.Free`: a port that nobody uses and from which nothing is left to read.

## Main results

* `Port.Free.value_call`: a command on a free port.
* `Bench.play_serial`: an operation over a free port.
-/

namespace ModemLink

/-- What a modem sends to answer a command: lines, cut into pieces in any way, and behind them a
final result. Each of the lines is the echo of the command or information, which may be blank, and
the last piece is sent within the time of the command. -/
structure Delivery (c : Command) where
  chunks : List Chunk
  lines : List (List UInt8)
  final : List UInt8
  encodes : Encodes chunks (lines ++ [final])
  closes : (FinalResult.ofLine? (lineOf final)).isSome
  known : ∀ line ∈ lines, IsEcho c line ∨ IsInfo (lineOf line)
  inTime : Chunk.span chunks ≤ c.timeout.micros

namespace Delivery

variable {c : Command} (d : Delivery c)

/-- The information that the modem sends, without white space around it. -/
def info : List (List Char) :=
  infoOf ((d.lines.map lineOf).filter fun text => IsInfo text)

/-- The outcome of the command. -/
def outcome : Answer :=
  if lineOf d.final = "OK".toList then .ok (Reply.textOf d.info)
  else if lineOf d.final = "NO CARRIER".toList then .error .noCarrier
  else .error (.failed (String.ofList (lineOf d.final)))

/-- The information is rows of a reply. -/
theorem isRow_info : ∀ row ∈ d.info, Reply.IsRow row := by
  intro row hrow
  obtain ⟨hinfo, hne⟩ := List.mem_filter.mp hrow
  obtain ⟨line, hline, rfl⟩ := List.mem_map.mp (List.mem_filter.mp hinfo).1
  obtain ⟨-, -, -, hraw⟩ := d.encodes
  exact ⟨by simpa using hne, trim_lineOf line,
    lineFeed_not_mem_lineOf (hraw line (List.mem_append_left _ hline))⟩

/-- The final result says how the command ends. -/
theorem replyOf_eq_outcome {texts : List (List Char)}
    (hinfo : infoOf (texts.filter fun text => IsInfo text) = d.info) {result : FinalResult}
    (h : FinalResult.ofLine? (lineOf d.final) = some result) :
    replyOf texts result = d.outcome := by
  rw [FinalResult.ofLine?] at h
  rw [outcome]
  split at h
  · next hok =>
    obtain rfl := Option.some.inj h
    rw [if_pos hok, replyOf, hinfo]
    rfl
  · next hok =>
    rw [if_neg hok]
    split at h
    · next hcarrier =>
      obtain rfl := Option.some.inj h
      rw [if_pos hcarrier, replyOf]
    · next hcarrier =>
      rw [if_neg hcarrier]
      split at h
      · obtain rfl := Option.some.inj h
        rfl
      · cases h

/-- A port that listens for the answer takes the outcome from it. -/
theorem completes :
    (Listening.toCommand c.body).Completes ((d.lines ++ [d.final]).map lineOf) d.outcome := by
  obtain ⟨result, hresult⟩ := Option.isSome_iff_exists.mp d.closes
  have hknown : ∀ text ∈ d.lines.map lineOf,
      text = (Listening.toCommand c.body).echo ∨ IsInfo text := by
    intro text htext
    obtain ⟨line, hline, rfl⟩ := List.mem_map.mp htext
    exact d.known line hline
  have hreply : replyOf (d.lines.map lineOf ++ [lineOf d.final]) result = d.outcome :=
    d.replyOf_eq_outcome (congrArg infoOf (Listening.filter_isInfo _ hresult)) hresult
  rw [List.map_append, List.map_singleton, ← hreply]
  exact Listening.completes_unskipped (Listening.opens_toCommand c.body) rfl rfl hknown hresult

/-- The whole answer comes in by the deadline of the command. -/
theorem hearAll_lines (start : Nat) :
    (Listening.toCommand c.body).hearAll
      (Intake.listens (start + c.timeout.micros) .unbounded) (Chunk.lines start d.chunks) =
        ([], .answer d.outcome) := by
  have hdue : ∀ line ∈ Chunk.lines start d.chunks,
      Intake.listens (start + c.timeout.micros) .unbounded line.due = true := fun line hline =>
    (Port.listens_unbounded ..).mpr (Nat.le_trans (d.encodes.due_le_span start line hline)
      (Nat.add_le_add_left d.inTime _))
  have hcompletes : (Listening.toCommand c.body).Completes
      ((Chunk.lines start d.chunks).map DueLine.text) d.outcome := by
    rw [d.encodes.map_text_lines]
    exact d.completes
  have hheard := hcompletes.hearAll (d.encodes.holdsFrom start).pairwise
    (@Intake.listens_of_le (start + c.timeout.micros) .unbounded) []
  rwa [if_pos hdue, List.append_nil] at hheard

/-- A port that has the outcome has the whole answer. -/
theorem not_abandons : Port.abandons d.outcome = false := by
  rw [outcome]
  split
  · rfl
  · split <;> rfl

end Delivery

/-- What a modem sends to fulfil a command: lines, cut into pieces in any way, and behind them the
final result. Each of the lines is the echo of the command or information, which may be blank, and
the last piece is sent within the time of the command. -/
structure Fulfilment (c : Command) where
  chunks : List Chunk
  lines : List (List UInt8)
  final : List UInt8
  encodes : Encodes chunks (lines ++ [final])
  ok : lineOf final = "OK".toList
  known : ∀ line ∈ lines, IsEcho c line ∨ IsInfo (lineOf line)
  inTime : Chunk.span chunks ≤ c.timeout.micros

namespace Fulfilment

variable {c : Command} (f : Fulfilment c)

/-- The information of the answer. -/
def info : List (List Char) :=
  infoOf ((f.lines.map lineOf).filter fun text => IsInfo text)

/-- The reply that a port makes of the answer. -/
def text : String :=
  Reply.textOf f.info

/-- A modem that fulfils a command answers it. -/
def delivery : Delivery c where
  chunks := f.chunks
  lines := f.lines
  final := f.final
  encodes := f.encodes
  closes := by
    rw [f.ok]
    rfl
  known := f.known
  inTime := f.inTime

theorem outcome_delivery : f.delivery.outcome = .ok f.text :=
  if_pos f.ok

/-- The information is rows of a reply. -/
theorem isRow_info : ∀ row ∈ f.info, Reply.IsRow row :=
  f.delivery.isRow_info

end Fulfilment

namespace Port

/-- Nobody has the port or waits for it, nothing is left to read, and no answer is to come in. -/
structure Free (p : Port) : Prop where
  active : p.active = none
  queue : p.queue = []
  stale : p.stale = false
  holds : p.intake.Holds []

variable {p : Port}

/-- A call that gets a port which is not stale sends its command. -/
theorem value_take (hstale : p.stale = false) {call : Call} (hcall : call.cancelled = false)
    (horizon : Horizon) :
    (p.take horizon call).value =
      (p.send horizon call (p.clock + call.command.timeout.micros)).value := by
  simp [take, hcall, hstale]

/-- A command that is called on a free port ends with the outcome, if the modem answers it in
time. -/
theorem Free.value_call (h : p.Free) {call : Call} (hcall : call.cancelled = false)
    (d : Delivery call.command) {rest : List Reaction}
    (hreactions : p.reactions = .sends d.chunks :: rest) :
    ∃ intake : Intake, intake.Holds [] ∧ p.clock ≤ intake.clock ∧
      intake.clock ≤ p.clock + call.command.timeout.micros ∧
      ((p.call p.clock call).value.advance .unbounded).value =
        { p with
          intake
          reactions := rest
          sent := p.sent ++ ["AT" ++ call.command.body ++ "\r"]
          ended := p.ended ++ [⟨call.ticket, some d.outcome, intake.clock⟩] } := by
  let deadline := p.clock + call.command.timeout.micros
  have hadvance : (p.advance (.upTo p.clock)).value = p := by
    rw [advance_of_idle h.active h.queue]
    rfl
  have hlast : ∀ a ∈ Chunk.arrivals p.clock d.chunks,
      Intake.HoldsFrom.last p.clock [] ≤ a.due := fun a ha =>
    (Chunk.due_arrivals p.clock d.chunks a ha).1
  have hclock : p.clock ≤ deadline := Nat.le_add_right ..
  obtain ⟨intake, hholds, hle, hdeadline, hsend⟩ :=
    value_send h.holds call hclock hreactions (d.encodes.holdsFrom p.clock) hlast
  rw [List.nil_append, d.hearAll_lines p.clock] at hholds hsend
  have htake : (p.take .unbounded call).value =
      { p with
        intake
        reactions := rest
        sent := p.sent ++ ["AT" ++ call.command.body ++ "\r"]
        ended := p.ended ++ [⟨call.ticket, some d.outcome, intake.clock⟩] } := by
    rw [value_take h.stale hcall]
    refine hsend.trans ?_
    rw [value_finish]
    simp [outcome, d.not_abandons, h.active, clock]
  refine ⟨intake, hholds, hle, hdeadline, ?_⟩
  rw [value_call_of_idle (by rw [hadvance]; exact h.active), hadvance, elapse_clock,
    value_serve_advance h.active (Horizon.within_unbounded _), serve_cons, Logged.value_bind, htake,
    orServe]
  simp [h.active, h.queue, serve]

end Port

namespace Bench

variable {p : Port}

/-- A request over a free port is answered with the reply, if the modem fulfils its command. -/
theorem ask_serial (h : p.Free) (request : Request) (f : Fulfilment request.command)
    {rest : List Reaction} (hreactions : p.reactions = .sends f.chunks :: rest) :
    ∃ p' log, p'.Free ∧ p'.reactions = rest ∧
      p'.sent = p.sent ++ ["AT" ++ request.command.body ++ "\r"] ∧
      Line.channel.ask (.serial ⟨p, none⟩) false request =
        ⟨(.serial ⟨p', none⟩, .answered (.ok f.text) false), log⟩ := by
  let call : Call := ⟨0, request.command, false⟩
  obtain ⟨intake, hholds, -, -, hvalue⟩ :=
    h.value_call (show call.cancelled = false from rfl) f.delivery hreactions
  rw [f.outcome_delivery] at hvalue
  refine ⟨{ p with
    intake
    reactions := rest
    sent := p.sent ++ ["AT" ++ request.command.body ++ "\r"]
    ended := [] }, _, ⟨h.active, h.queue, h.stale, hholds⟩, rfl, rfl, Logged.ext ?_ rfl⟩
  have hask : (Serial.ask ⟨p, none⟩ false request).value =
      (⟨{ ((p.call p.clock call).value.advance .unbounded).value with ended := [] }, none⟩,
        (((p.call p.clock call).value.advance .unbounded).value.ended.getLast?.bind
          (·.answer)).getD (.error .canceled), false) := rfl
  change (Line.ask (.serial ⟨p, none⟩) false request).value = _
  simp only [Line.ask, Logged.value_bind, hask, hvalue]
  simp [call]

/-- Over a free port, an operation takes the course in which the modem fulfils all of its
requests. -/
theorem play_serial {modem : ∀ c, Fulfilment c} {requests : List Request} {turn : Turn}
    {ending : Ending} (hcourse : turn.Course false
      (Round.replied (fun c => (modem c).text) requests) (.ended ending : Stop Ending Hold))
    (h : p.Free) {rest : List Reaction}
    (hreactions : p.reactions =
      requests.map (fun request => .sends (modem request.command).chunks) ++ rest) :
    ∃ p', p'.Free ∧ p'.reactions = rest ∧
      p'.sent = p.sent ++ requests.map (fun request => "AT" ++ request.command.body ++ "\r") ∧
      (turn.play Line.channel (.serial ⟨p, none⟩) false).value =
        (.serial ⟨p', none⟩, .ended ending) := by
  induction requests generalizing turn p with
  | nil =>
    rw [Round.replied, List.map_nil] at hcourse
    cases hcourse with
    | done =>
      refine ⟨p, h, hreactions, (List.append_nil _).symm, ?_⟩
      rw [Turn.play_done]
      rfl
  | cons request requests ih =>
    rw [Round.replied, List.map_cons] at hcourse
    cases hcourse with
    | @answered _ op _ _ _ _ _ hrest =>
      rw [List.map_cons, List.cons_append] at hreactions
      obtain ⟨p₁, log, hfree, hreactions₁, hsent₁, hask⟩ :=
        ask_serial h request (modem request.command) hreactions
      obtain ⟨p₂, hfree₂, hreactions₂, hsent₂, hplay⟩ := ih hrest hfree hreactions₁
      refine ⟨p₂, hfree₂, hreactions₂, ?_, ?_⟩
      · rw [hsent₂, hsent₁, List.append_assoc]
        rfl
      · rw [Turn.play_ask_answered hask]
        exact hplay

end Bench

end ModemLink
