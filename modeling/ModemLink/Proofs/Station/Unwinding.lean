import ModemLink.Proofs.Station.Deactivation
import ModemLink.Proofs.Station.Restoration

/-!
# Sessions that are torn down

A call to connect whose context has been dialed reads the configuration of the context. Whatever
goes wrong there, a command that fails, a reply that cannot be read or a request to stop, the call
deactivates the context again, and that is the last thing it asks for. Nothing interrupts the
deactivation. The call waits for its answer however often it is asked to stop, does not care what
the answer is, and returns the fault that was there before.

A channel may keep an operation waiting. The operation is then where moves have brought it, and what
it does with an answer is what it would have done on a channel that gives this answer.

Source: the specification, sections 4.3, 7 and 10.5.

## Main definitions

* `Station.Unwinds`: what comes of the deactivation, and of the call.

## Main results

* `Operation.Stages.of_fails`: attempts that have dialed and cannot read the configuration.
* `Station.drive_held`: operations that a channel keeps waiting.
* `Station.connect_unwinds`: the same of every call to connect, on any channel.
-/

namespace ModemLink

variable {σ ω : Type}

/-! ### The last command -/

namespace Operation

variable {d : Dial} {dialing reading later rounds : List (Round ω)} {stop : Stop Ending ω}
  {port : DataPort} {fault : Fault}

/-- Dialing returns the port it was taken up on. -/
theorem port_eq_of_course
    (h : Dial.Course (d.proceed false).value false dialing (.ended (.ok port))) : port = d.port :=
  ((Dial.path_of_course h).ended_ok_iff port |>.mp rfl).1

/-- An attempt that has dialed its context and cannot read the configuration puts one more command,
and ends with the fault if that is answered, in whatever way. -/
theorem Stages.of_fails (h : Stages d rounds stop)
    (hrounds : rounds = dialing ++ (reading ++ later))
    (hdialed : Dial.Course (d.proceed false).value false dialing (.ended (.ok port)))
    (hfails : Inspect.Course ((reader d).proceed false).value false reading
      (.ended (.error fault))) :
    ∃ undo : Round ω, later = [undo] ∧ undo.request = undoing d ∧
      ((∃ answer cancels, undo.response = .answered answer cancels ∧
          stop = .ended (.error fault)) ∨
        ∃ hold, undo.response = .blocked hold ∧ stop = .blocked (undoing d) hold) := by
  -- Of dialing and of reading there is one course each over these rounds.
  have hdialing {first rest : List (Round ω)} {stop' : Stop (Except Fault DataPort) ω}
      (hpath : d.Path false first stop') (hsame : first ++ rest = dialing ++ (reading ++ later)) :
      stop' = .ended (.ok port) ∧ rest = reading ++ later := by
    obtain ⟨rfl, rfl⟩ := hdialed.eq_of_prefix hpath.course (List.prefix_append _ _)
      (hsame ▸ List.prefix_append first rest)
    exact ⟨rfl, List.append_cancel_left hsame⟩
  have hreading {second rest : List (Round ω)} {stop' : Stop (Except Fault Connection) ω}
      (hcourse : Inspect.Course ((reader d).proceed false).value false second stop')
      (hsame : second ++ rest = reading ++ later) :
      stop' = .ended (.error fault) ∧ rest = later := by
    obtain ⟨rfl, rfl⟩ := hfails.eq_of_prefix hcourse (List.prefix_append _ _)
      (hsame ▸ List.prefix_append second rest)
    exact ⟨rfl, List.append_cancel_left hsame⟩
  cases h with
  | waitsDialing hpath | undialed hpath =>
    cases (hdialing hpath ((List.append_nil _).trans hrounds)).1
  | waitsReading hpath hcourse =>
    cases (hreading hcourse ((List.append_nil _).trans (hdialing hpath hrounds).2)).1
  | connected hpath hcourse =>
    cases (hreading hcourse ((List.append_nil _).trans (hdialing hpath hrounds).2)).1
  | @waitsUndoing _ _ _ cancelled hold hpath hcourse =>
    rw [List.append_assoc] at hrounds
    obtain ⟨-, rfl⟩ := hreading hcourse (hdialing hpath hrounds).2
    exact ⟨_, rfl, rfl, .inr ⟨hold, rfl, rfl⟩⟩
  | undone hpath hcourse =>
    rw [List.append_assoc] at hrounds
    obtain ⟨hstop, rfl⟩ := hreading hcourse (hdialing hpath hrounds).2
    cases hstop
    exact ⟨_, rfl, rfl, .inl ⟨_, _, rfl, rfl⟩⟩

/-- The same of connecting, from its first turn on. -/
theorem of_connect_fails {modem : Modem} {profile : Profile}
    (hd : (Dial.ofModem modem profile).value = .ok d)
    (hdialed : Dial.Course (d.proceed false).value false dialing (.ended (.ok port)))
    (hfails : Inspect.Course (Inspect.start port profile.cid profile.family false).value false
      reading (.ended (.error fault)))
    (h : (connect modem profile).value.Course false rounds stop)
    (hrounds : rounds = dialing ++ (reading ++ later)) :
    ∃ undo : Round ω, later = [undo] ∧
      undo.request = ⟨.setActivation false profile.cid, false⟩ ∧
      ((∃ answer cancels, undo.response = .answered answer cancels ∧
          stop = .ended (.error fault)) ∨
        ∃ hold, undo.response = .blocked hold ∧ stop = .blocked undo.request hold) := by
  obtain rfl := port_eq_of_course hdialed
  obtain rfl := Dial.profile_of_ofModem hd
  rcases stages_of_connect h with ⟨f, hnone, -⟩ | ⟨d', hd', -, hstages⟩
  · cases hd.symm.trans hnone
  · obtain rfl := Except.ok.inj (hd.symm.trans hd')
    obtain ⟨undo, hlater, hrequest, hstop⟩ := hstages.of_fails hrounds hdialed hfails
    exact ⟨undo, hlater, hrequest, hrequest ▸ hstop⟩

/-- On a channel that answers the command after those of reading, there is no other one. -/
theorem ended_of_connect_fails {modem : Modem} {profile : Profile}
    (hd : (Dial.ofModem modem profile).value = .ok d)
    (hdialed : Dial.Course (d.proceed false).value false dialing (.ended (.ok port)))
    (hfails : Inspect.Course (Inspect.start port profile.cid profile.family false).value false
      reading (.ended (.error fault))) {request : Request} {cancelled : Bool} {answer : Answer}
    {cancels : Bool}
    (h : (connect modem profile).value.Course false
      (dialing ++ (reading ++ ⟨request, cancelled, .answered answer cancels⟩ :: later)) stop) :
    later = [] ∧ stop = .ended (.error fault) := by
  obtain ⟨undo, hundo, -, hstop⟩ := of_connect_fails hd hdialed hfails h rfl
  obtain ⟨rfl, rfl⟩ := List.cons.inj hundo
  rcases hstop with ⟨-, -, -, hstop⟩ | ⟨hold, hblocked, -⟩
  · exact ⟨rfl, hstop⟩
  · cases hblocked

end Operation

namespace Station

variable {s : Station} {b : Bearer} {ticket : Nat} {r : Running}

/-! ### Operations that a channel keeps waiting -/

/-- Asking an operation to stop, or not, is making a move, or none. -/
theorem cancelIf_eq_through (s : Station) (cancels : Bool) (ticket : Nat) :
    s.cancelIf cancels ticket = s.through (if cancels then [.cancelTicket ticket] else []) := by
  cases cancels <;> rfl

/-- The move is one of the operation with the ticket and its caller: an answer, or a request to
stop. -/
def Move.IsOf (ticket : Nat) (m : Move) : Prop :=
  m = .cancelTicket ticket ∨ ∃ a, m = .answer ticket a

theorem Move.IsOf.of_mem_asking {cancels : Bool} {m : Move}
    (h : m ∈ if cancels then [.cancelTicket ticket] else []) : m.IsOf ticket := by
  cases cancels with
  | false => cases h
  | true => exact .inl (List.mem_singleton.mp h)

/-- An operation that a channel keeps waiting is where answers and requests to stop have brought it,
and every course of it from there is the rest of one from the beginning. -/
theorem drive_held {channel : Channel σ ω} {state : σ} {past : List (Round ω)} {request : Request}
    (h : s.running? ticket = some r) (hr : r.request = request) {s' : Station}
    {after : σ × List (Round ω)} {other : Nat} {request' : Request} {hold : ω}
    (hdrive : (drive channel.recorded s (state, past) ticket request).value =
      (s', after, .blocked other request' hold)) :
    ∃ meanwhile first op cancelled, s' = s.through meanwhile ∧
      (∀ m ∈ meanwhile, m.IsOf ticket) ∧
      after.2 = past ++ first ++ [⟨request', cancelled, .blocked hold⟩] ∧
      s'.running? ticket = some { r with cancelled, operation := op, request := request' } ∧
      ∀ rest stop, Turn.Course (.ask request' op) cancelled rest stop →
        Turn.Course (.ask request r.operation) r.cancelled (first ++ rest) stop := by
  -- The induction is on the requests left, as the channel answers one after the other.
  induction hn : r.operation.rank using Nat.strongRecOn generalizing s r state past request with
  | _ n ih =>
    match hask : channel.ask state r.cancelled request with
    | ⟨(next, .blocked held), log⟩ =>
      have hasked := Channel.recorded_ask hask past
      rw [drive_of_blocked (by rw [isCancelled_eq h, hasked])] at hdrive
      cases hdrive
      refine ⟨[], [], r.operation, r.cancelled, rfl, by simp, by simp, ?_, fun _ _ hrest => hrest⟩
      rw [h, ← hr]
    | ⟨(next, .answered answer cancels), log⟩ =>
      have hcancel := running?_cancelIf h cancels
      have hasked := Channel.recorded_ask hask past
      rw [← isCancelled_eq h] at hasked
      rcases answer_cases (s.cancelIf cancels ticket) ticket answer with
        ⟨hnone, -⟩ | ⟨r', hr', ⟨request'', op, hturn, heq⟩ | ⟨ending, hturn, heq⟩⟩
      · cases hcancel.symm.trans hnone
      · obtain rfl := Option.some.inj (hcancel.symm.trans hr')
        rw [drive_of_waits hasked heq] at hdrive
        have hrunning := running?_answer hcancel ticket answer
        rw [Running.after?, if_pos (mem_of_running? h).2.symm, hturn, heq] at hrunning
        obtain ⟨meanwhile, first, op', c, hs', hmoves, hrounds, hheld, hcourse⟩ :=
          ih op.rank (hn ▸ Operation.rank_lt_of_resume hturn) hrunning rfl hdrive rfl
        let asking : List Move := if cancels then [.cancelTicket ticket] else []
        refine ⟨asking ++ .answer ticket answer :: meanwhile,
          ⟨request, r.cancelled, .answered answer cancels⟩ :: first, op', c, ?_, ?_, ?_, hheld, ?_⟩
        · rw [through_append, ← cancelIf_eq_through, through_cons, hs']
          exact congrArg (·.through meanwhile) (congrArg Prod.fst heq).symm
        · intro m hm
          rcases List.mem_append.mp hm with hm | hm
          · exact .of_mem_asking hm
          · rcases List.mem_cons.mp hm with rfl | hm
            · exact .inr ⟨answer, rfl⟩
            · exact hmoves m hm
        · rw [hrounds, isCancelled_eq h]
          simp
        · intro rest stop hrest
          refine .answered ?_
          rw [hturn]
          exact hcourse rest stop hrest
      · rw [drive_of_ended hasked heq] at hdrive
        cases hdrive

/-- A call to connect that a channel keeps waiting is where moves have brought it. -/
theorem connect_held (hb : s.bearer? b.id = some b) (ho : s.Orderly)
    (hadmitted : b.refusal? "connect" Operation.Purpose.connect.required = none)
    {channel : Channel σ ω} {state : σ} {s' : Station} {after : σ × List (Round ω)} {other : Nat}
    {request : Request} {hold : ω}
    (hdriven : (driveOn channel.recorded (state, []) (s.connect b.id)).value =
      (s', after, .blocked other request hold)) :
    ∃ meanwhile first op cancelled, s' = (s.next (.connect b.id)).through meanwhile ∧
      (∀ m ∈ meanwhile, m.IsOf s.nextTicket) ∧
      after.2 = first ++ [⟨request, cancelled, .blocked hold⟩] ∧
      s'.running? s.nextTicket =
        some ⟨s.nextTicket, some ⟨b.id, .disconnected⟩, cancelled, op, request⟩ ∧
      ∀ rest stop, Turn.Course (.ask request op) cancelled rest stop →
        (Operation.connect s.modem b.profile).value.Course false (first ++ rest) stop := by
  have hbegins : s.Begins b (.connect b.id) "connect" .connect
      (Operation.connect s.modem b.profile) := .connect
  have hperform := hbegins.value_perform hb hadmitted
  have hmoved : (s.connect b.id).value = (s.next (.connect b.id),
      (Operation.connect s.modem b.profile).value.progress s.nextTicket) := by
    have hprogress := congrArg Prod.snd hperform
    exact Prod.ext rfl (Option.some.inj hprogress)
  cases hturn : (Operation.connect s.modem b.profile).value with
  | done ending =>
    rw [hturn] at hmoved
    simp only [driveOn, Logged.value_bind, hmoved, Turn.progress, Logged.value_pure] at hdriven
    cases hdriven
  | ask first op =>
    rw [hturn] at hmoved
    simp only [driveOn, Logged.value_bind, hmoved, Turn.progress] at hdriven
    obtain ⟨-, hr⟩ := hbegins.underway hb hadmitted hturn
    have hrunning := (ho.next (.connect b.id)).running?_eq (mem_operationsOf.mp hr).1
    obtain ⟨meanwhile, first', op', cancelled, hs', hmoves, hrounds, hheld, hcourse⟩ :=
      drive_held hrunning rfl hdriven
    exact ⟨meanwhile, first', op', cancelled, hs', hmoves, hrounds, hheld, hcourse⟩

/-! ### Calls to connect -/

/-- What comes of the deactivation that a call asks for whose context was dialed and could not be
read, and of the call. -/
structure Unwinds (s' : Station) (ticket : Nat) (b : Bearer) (fault : Fault) (undo : Round ω)
    (halt : Halt ω) : Prop where
  request : undo.request = ⟨.setActivation false b.profile.cid, false⟩
  /-- Whatever the answer is, the call returns the fault, and its bearer is as it was. -/
  answered (answer : Answer) (cancels : Bool)
    (response : undo.response = .answered answer cancels) :
    halt = .ended (.error fault) ∧ s'.bearer? b.id = some b
  /-- Where there is no answer yet, the call waits for it, however often it is asked to stop. -/
  waits (hold : ω) (response : undo.response = .blocked hold) (later : List Move)
    (spared : ∀ m ∈ later, m.Spares ticket) :
    ((s'.through later).running? ticket).map (·.request) = some undo.request
  /-- Whatever the answer is then, the call returns the fault, and its bearer is as it was, if it is
  still there. -/
  returns (hold : ω) (response : undo.response = .blocked hold) (later : List Move)
    (spared : ∀ m ∈ later, m.Spares ticket) (answer : Answer) :
    (s'.through later).returned? (.answer ticket answer) = some ⟨b.id, .error fault⟩ ∧
      ((s'.through later).next (.answer ticket answer)).bearer? b.id =
        if .release b.id ∈ later then none else some b

namespace Unwinds

variable {s' : Station} {fault : Fault} {undo : Round ω} {halt : Halt ω}

/-- A call that got an answer to the deactivation is over. -/
theorem of_answered (hrequest : undo.request = ⟨.setActivation false b.profile.cid, false⟩)
    {answer : Answer} {cancels : Bool} (hanswered : undo.response = .answered answer cancels)
    (hb : s'.bearer? b.id = some b) : Unwinds s' ticket b fault undo (.ended (.error fault)) where
  request := hrequest
  answered _ _ _ := ⟨rfl, hb⟩
  waits hold hblocked := by cases hblocked.symm.trans hanswered
  returns hold hblocked := by cases hblocked.symm.trans hanswered

/-- A call that got none waits for it. -/
theorem of_blocked (hrequest : undo.request = ⟨.setActivation false b.profile.cid, false⟩)
    {hold : ω} (hblocked : undo.response = .blocked hold)
    (hwaits : ∀ later : List Move, (∀ m ∈ later, m.Spares ticket) →
      ((s'.through later).running? ticket).map (·.request) = some undo.request ∧
        ∀ answer, (s'.through later).returned? (.answer ticket answer) =
            some ⟨b.id, .error fault⟩ ∧
          ((s'.through later).next (.answer ticket answer)).bearer? b.id =
            if .release b.id ∈ later then none else some b) :
    Unwinds s' ticket b fault undo halt where
  request := hrequest
  answered answer cancels hanswered := by cases hblocked.symm.trans hanswered
  waits _ _ later hspared := (hwaits later hspared).1
  returns _ _ later hspared := (hwaits later hspared).2

end Unwinds

/-- An operation that is held on its last request ends with whatever answer it gets. -/
theorem resume_of_held {turn : Turn} {first : List (Round ω)} {request : Request} {op : Operation}
    {cancelled : Bool} {fault : Fault} (hold : ω)
    (hcourse : ∀ rest stop, Turn.Course (.ask request op) cancelled rest stop →
      turn.Course false (first ++ rest) stop)
    (hlast : ∀ answer cancels rest stop,
      turn.Course false (first ++ ⟨request, cancelled, .answered answer cancels⟩ :: rest) stop →
        rest = [] ∧ stop = .ended (.error fault)) (answer : Answer) (cancels : Bool) :
    (op.resume (cancelled || cancels) answer).value = .done (.error fault) := by
  cases hturn : (op.resume (cancelled || cancels) answer).value with
  | done ending =>
    have hended : (op.resume (cancelled || cancels) answer).value.Course (cancelled || cancels) []
        (.ended ending : Stop Ending ω) := by
      rw [hturn]
      exact .done ending _
    obtain ⟨-, hstop⟩ := hlast answer cancels [] _ (hcourse _ _ (.answered hended))
    rw [Stop.ended.inj hstop]
  | ask request' op' =>
    have hwaits : (op.resume (cancelled || cancels) answer).value.Course (cancelled || cancels)
        [⟨request', cancelled || cancels, .blocked hold⟩] (.blocked request' hold) := by
      rw [hturn]
      exact .blocked request' op' _ hold
    cases (hlast answer cancels _ _ (hcourse _ _ (.answered hwaits))).1

/-- A call to connect that is held on its last request waits for the answer, and fails with it as it
would have failed with any other. -/
theorem fails_of_held (hb : s.bearer? b.id = some b) (hheld : b.held = true) (ho : s.Orderly)
    (hadmitted : b.refusal? "connect" Operation.Purpose.connect.required = none)
    {channel : Channel σ ω} {state : σ} {s' : Station} {after : σ} {rounds : List (Round ω)}
    {other : Nat} {request : Request} {hold : ω} {fault : Fault}
    (hdriven : (driveOn channel.recorded (state, []) (s.connect b.id)).value =
      (s', (after, rounds), .blocked other request hold))
    (hlast : ∀ first cancelled answer cancels rest stop,
      rounds = first ++ [⟨request, cancelled, .blocked hold⟩] →
      (Operation.connect s.modem b.profile).value.Course false
        (first ++ ⟨request, cancelled, .answered answer cancels⟩ :: rest) stop →
      rest = [] ∧ stop = .ended (.error fault))
    {later : List Move} (hspared : ∀ m ∈ later, m.Spares s.nextTicket) :
    ((s'.through later).running? s.nextTicket).map (·.request) = some request ∧
      ∀ answer, (s'.through later).returned? (.answer s.nextTicket answer) =
          some ⟨b.id, .error fault⟩ ∧
        ((s'.through later).next (.answer s.nextTicket answer)).bearer? b.id =
          if .release b.id ∈ later then none else some b := by
  obtain ⟨meanwhile, first, op, cancelled, rfl, hmoves, hrounds, hrunning, hcourse⟩ :=
    connect_held hb ho hadmitted hdriven
  have ht := (ho.next (.connect b.id)).through meanwhile
  have hlt := ht.tickets_lt _ (mem_of_running? hrunning).1
  obtain ⟨asked, hthrough⟩ := Running.through?_of_spares
    (r := ⟨s.nextTicket, some ⟨b.id, .disconnected⟩, cancelled, op, request⟩) hspared
  have hlater : (((s.next (.connect b.id)).through meanwhile).through later).running? s.nextTicket =
      some ⟨s.nextTicket, some ⟨b.id, .disconnected⟩, cancelled || asked, op, request⟩ := by
    rw [ht.running?_through hlt, hrunning, Option.bind_some, hthrough]
  refine ⟨by rw [hlater]; rfl, fun answer => ?_⟩
  have hturn := resume_of_held hold hcourse
    (fun answer cancels rest stop => hlast first cancelled answer cancels rest stop hrounds)
    answer asked
  have hreturned := returned?_answer
    (r := ⟨s.nextTicket, some ⟨b.id, .disconnected⟩, cancelled || asked, op, request⟩)
    hlater rfl answer
  rw [hturn] at hreturned
  refine ⟨hreturned, ?_⟩
  have hdone : (((s.next (.connect b.id)).through meanwhile |>.through later).next
      (.answer s.nextTicket answer)).running? s.nextTicket = none := by
    rw [(ht.through later).running?_next hlater, Running.after?_eq_none_iff]
    exact .answered hturn
  rw [← through_append] at hlater hdone hreturned ⊢
  have hnext := ho.bearer?_of_fails_later hb hheld .connect hadmitted
    (by rw [hlater]; rfl) hdone fun a heq => by cases hreturned.symm.trans heq
  have hreleased : .release b.id ∈ meanwhile ++ later ↔ .release b.id ∈ later := by
    refine List.mem_append.trans (or_iff_right fun hmem => ?_)
    rcases hmoves _ hmem with heq | ⟨a, heq⟩ <;> cases heq
  rwa [if_congr hreleased rfl rfl] at hnext

/-- A call to connect whose context is dialed, and which cannot read the configuration of it: the
commands after dialing are the first of the two that read the configuration, and then the
deactivation, as the last one. The call waits for that, on any channel and whenever it is asked to
stop, and returns the fault that it met with before; and its bearer is what it was. -/
theorem connect_unwinds (modem : Modem) (moves : List Move) (channel : Channel σ ω) (state : σ)
    (hb : (Run.after modem moves).station.bearer? b.id = some b) (hbusy : b.busy = false)
    (hstatus : b.status = .disconnected) {d : Dial}
    (hd : (Dial.ofModem modem b.profile).value = .ok d) {dialing reading later : List (Round ω)}
    (hrounds : (driveOn channel.recorded (state, [])
      ((Run.after modem moves).station.connect b.id)).value.2.1.2 = dialing ++ (reading ++ later))
    {port : DataPort} {fault : Fault}
    (hdialed : Dial.Course (d.proceed false).value false dialing (.ended (.ok port)))
    (hfails : Inspect.Course (Inspect.start port b.profile.cid b.profile.family false).value false
      reading (.ended (.error fault))) :
    let driven := (driveOn channel.recorded (state, [])
      ((Run.after modem moves).station.connect b.id)).value
    reading.map (·.request.command) <+: [.addressQuery b.profile.cid, .nameServerQuery] ∧
      (b.ticket = none ∧ b.connection = none) ∧
      ∃ undo, later = [undo] ∧
        Unwinds driven.1 (Run.after modem moves).station.nextTicket b fault undo driven.2.2 := by
  have ho := Run.orderly modem moves
  have hmodem : (Run.after modem moves).station.modem = modem := Run.modem_eq modem moves
  have hadmitted : b.refusal? "connect" Operation.Purpose.connect.required = none :=
    Bearer.refusal?_eq_none_iff.mpr ⟨hbusy, hstatus⟩
  have hheld := Run.held_of_not_busy (mem_of_bearer? hb).1 hbusy
  have hphase := ho.phase_of_idle (mem_of_bearer? hb).1 hbusy
  generalize (Run.after modem moves).station = s at hb hrounds ho hmodem ⊢
  subst hmodem
  refine ⟨Inspect.issued_of_course (i := { cid := b.profile.cid, found := { port } }) hfails,
    ⟨hphase.ticket_eq, ?_⟩, ?_⟩
  · have hconnection := hphase.connection_isSome hbusy (p := .connect) (by decide) hstatus
    simpa using hconnection
  obtain ⟨s', after, rounds, stop, hdriven, hcourse, hsettled⟩ :=
    driveOn_connect_recorded ho hb hbusy hstatus channel state
  have hsame : rounds = dialing ++ (reading ++ later) := by
    rw [← hrounds, hdriven]
  obtain ⟨undo, rfl, hrequest, hstop⟩ :=
    Operation.of_connect_fails hd hdialed hfails hcourse hsame
  refine ⟨undo, rfl, ?_⟩
  rw [hdriven]
  rcases hstop with ⟨answer, cancels, hanswered, rfl⟩ | ⟨hold, hblocked, rfl⟩
  · refine .of_answered hrequest hanswered ((hsettled _ rfl hheld).trans (congrArg some ?_))
    exact Bearer.settle_occupied_error (p := .connect) hphase hheld hstatus s.nextTicket fault
  · refine .of_blocked hrequest hblocked fun later hspared =>
      fails_of_held hb hheld ho hadmitted hdriven ?_ hspared
    intro first cancelled answer cancels rest stop hrounds hcourse
    have hfirst : first = dialing ++ reading := by
      rw [hsame, ← List.append_assoc] at hrounds
      exact (List.append_inj_left' hrounds rfl).symm
    rw [hfirst, List.append_assoc] at hcourse
    exact Operation.ended_of_connect_fails hd hdialed hfails hcourse

/-- A channel to a modem that does everything but deactivate a context. The operation that waits for
the addresses is asked to stop. -/
def stoppingChannel : Channel Unit Empty where
  ask _ _ request :=
    let response :=
      if request.command = .addressQuery 1 then .answered (.error .canceled) true
      else if request.command = .setActivation false 1 then
        .answered (.error (.failed "ERROR")) true
      else .answered (.ok "") false
    pure ((), response)

/-- The call is canceled while it waits for the addresses, and says so although the deactivation is
refused after that. -/
theorem connect_unwinds_stoppingChannel :
    let driven := (driveOn stoppingChannel.recorded ((), [])
      ((Run.after indexedModem [.create { cid := 1 }]).station.connect 0)).value
    driven.2.1.2.map (·.request.command.body) = ["+CGACT?", "+WPPP=0,1,\"\",\"\"", "+XDNS=1,3",
        "+CGACT=1,1", "+XDATACHANNEL=1,1,\"/USBCDC/0\",\"/USBHS/NCM/1\",2,1",
        "+CGDATA=\"M-RAW_IP\",1", "+CGPADDR=1", "+CGACT=0,1"] ∧
      driven.2.2 = .ended (.error .canceled) ∧
      driven.1.bearer? 0 = some { id := 0, profile := { cid := 1 } } := by
  intro driven
  have hb : (Run.after indexedModem [.create { cid := 1 }]).station.bearer? 0 =
      some { id := 0, profile := { cid := 1 } } := by decide +kernel
  let port : DataPort :=
    { name := "wwan0", properties := [(DataPort.acmKey, "0"), (DataPort.ncmKey, "1")] }
  let d : Dial := { port, charset := .ira, profile := { cid := 1 }, acm := 0, ncm := 1 }
  let fulfilled (command : Command) : Round Empty :=
    ⟨⟨command, true⟩, false, .answered (.ok "") false⟩
  let dialing : List (Round Empty) := d.commands.map fulfilled
  let reading : List (Round Empty) :=
    [⟨⟨.addressQuery 1, true⟩, false, .answered (.error .canceled) true⟩]
  let undo : Round Empty :=
    ⟨⟨.setActivation false 1, false⟩, true, .answered (.error (.failed "ERROR")) true⟩
  have hd : (Dial.ofModem indexedModem { cid := 1 }).value = .ok d := by decide +kernel
  have hrounds : driven.2.1.2 = dialing ++ (reading ++ [undo]) := by decide +kernel
  have hquery : (d.advance "").value = .ok { d with step := .auth } := by decide +kernel
  have hframed : ({ d with step := .startFraming } : Dial).Path false
      [fulfilled (.startFraming 1)] (.ended (.ok port)) := .went rfl rfl (.finished rfl)
  have hactivated : ({ d with step := .activate } : Dial).Path false
      [fulfilled (.setActivation true 1), fulfilled (.mapDataChannel 0 1 1),
        fulfilled (.startFraming 1)] (.ended (.ok port)) := .went rfl rfl (.went rfl rfl hframed)
  have hdialed : Dial.Course (d.proceed false).value false dialing (.ended (.ok port)) :=
    Dial.Path.course (.went rfl hquery (.went rfl rfl (.went rfl rfl hactivated)))
  have hfails : Inspect.Course (Inspect.start port 1 .ipv4v6 false).value false reading
      (.ended (.error .canceled)) := .answered (.done _ _)
  have hmain := connect_unwinds (b := { id := 0, profile := { cid := 1 } }) indexedModem
    [.create { cid := 1 }] stoppingChannel () hb rfl rfl hd hrounds hdialed hfails
  obtain ⟨undo', hundo, hunwinds⟩ := hmain.2.2
  have hresponse : undo'.response = .answered (.error (.failed "ERROR")) true := by
    rw [← List.head_eq_of_cons_eq hundo]
  refine ⟨?_, hunwinds.answered _ _ hresponse⟩
  rw [hrounds]
  decide +kernel

end Station

end ModemLink
