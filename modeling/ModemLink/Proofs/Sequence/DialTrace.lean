import ModemLink.Proofs.Sequence.DialPath
import ModemLink.Proofs.Station.Driving

/-!
# What the rounds of dialing tell

The rounds of an attempt to dial tell everything about it: which commands it took, whether it
succeeded, and otherwise why not. That holds on any channel, whose answers may depend on all
that was asked before, and wherever the attempt is asked to stop.

Source: the specification, sections 4.1 and 8.

## Main definitions

* `Dial.Fails`: why an attempt fails, as its rounds tell.
* `Dial.Completes`: the attempt has nothing left to ask for, and no reason to fail.
* `Dial.Trace`: how the rounds of an attempt, its script and its end fit together.

## Main results

* `Dial.Path.issued`, `Dial.Path.isChain`: the commands of a path, and when they are put.
* `Dial.Path.ended_ok_iff`, `Dial.Path.ended_error_iff`, `Dial.Path.blocked_iff`: its end.
* `Station.dial_trace`: dialing over any channel leaves a trace, or finds no port to dial on.
-/

namespace ModemLink

namespace Dial

variable {ω : Type}

/-! ### What a path says -/

/-- The reply to the first command, and the only one there was, cannot be read. -/
def Unread (d : Dial) (rounds : List (Round ω)) (fault : ReplyFault) : Prop :=
  d.step = .checkActive ∧ ∃ r reply, rounds = [r] ∧ r.reply? = some reply ∧
    Reply.Activation.read reply = .error fault

/-- Why an attempt fails, as its rounds tell. -/
inductive Fails (d : Dial) (cancelled : Bool) (rounds : List (Round ω)) : Fault → Prop
  /-- The last command failed. -/
  | refused {r : Round ω} {fault : Fault} {cancels : Bool} (hlast : rounds.getLast? = some r)
    (hfault : r.response = .answered (.error fault) cancels) : Fails d cancelled rounds fault
  | unread {fault : ReplyFault} (hread : d.Unread rounds fault) :
    Fails d cancelled rounds (.reply fault)
  /-- All commands succeeded, and the attempt was found to have been asked to stop. -/
  | canceled (hreply : ∀ r ∈ rounds, r.reply?.isSome) (hread : ∀ fault, ¬d.Unread rounds fault)
    (hcancelled : Round.cancelledAt cancelled rounds = true) : Fails d cancelled rounds .canceled

/-- The attempt has put all its commands, all of them succeeded, and nobody had asked it to stop
when it looked for the last time. -/
def Completes (d : Dial) (cancelled : Bool) (rounds : List (Round ω)) : Prop :=
  rounds.map (·.request.command) = d.pending rounds ∧ (∀ r ∈ rounds, r.reply?.isSome) ∧
    Round.cancelledAt cancelled rounds = false

namespace Path

variable {d : Dial} {cancelled : Bool} {rounds : List (Round ω)}
  {stop : Stop (Except Fault DataPort) ω}

theorem pending_of_command? {command : Command} (h : d.command? = some command)
    (rounds : List (Round ω)) : ∃ rest, d.pending rounds = command :: rest := by
  rw [command?_eq_head? d rounds, List.head?_eq_some_iff] at h
  exact h

/-- The commands that were put are the first of those pending. -/
theorem issued (h : d.Path cancelled rounds stop) :
    rounds.map (·.request.command) <+: d.pending rounds := by
  induction h with
  | canceled d => exact List.nil_prefix
  | finished hstep => exact List.nil_prefix
  | blocked hcommand hold =>
    obtain ⟨rest, hrest⟩ := pending_of_command? hcommand [⟨_, false, Response.blocked hold⟩]
    exact hrest ▸ ⟨rest, rfl⟩
  | refused hcommand fault cancels =>
    obtain ⟨rest, hrest⟩ := pending_of_command? hcommand
      [⟨_, false, Response.answered (ω := ω) (.error fault) cancels⟩]
    exact hrest ▸ ⟨rest, rfl⟩
  | @unread d command reply fault hcommand hread cancels =>
    obtain ⟨rest, hrest⟩ := pending_of_command? hcommand
      [⟨_, false, Response.answered (ω := ω) (.ok reply) cancels⟩]
    exact hrest ▸ ⟨rest, rfl⟩
  | went hcommand hadvance rest ih =>
    rw [pending_cons_of_advance hcommand hadvance]
    exact List.cons_prefix_cons.mpr ⟨rfl, ih⟩

/-- Every command was put before the attempt was asked to stop, and can be interrupted. -/
theorem uncancelled (h : d.Path cancelled rounds stop) :
    ∀ r ∈ rounds, r.cancelled = false ∧ r.request.interruptible = true := by
  induction h with
  | canceled d => simp
  | finished hstep => simp
  | blocked hcommand hold => simp
  | refused hcommand fault cancels => simp
  | unread hcommand hread cancels => simp
  | went hcommand hadvance rest ih =>
    intro r hr
    rcases List.mem_cons.mp hr with rfl | hr
    · exact ⟨rfl, rfl⟩
    · exact ih r hr

theorem eq_nil_of_cancelled (h : d.Path true rounds stop) : rounds = [] := by
  cases h
  rfl

/-- A command is put only after one that succeeded, and if nobody has asked the attempt to stop. -/
theorem isChain (h : d.Path cancelled rounds stop) :
    rounds.IsChain fun r _ => r.reply?.isSome ∧ r.cancelledAfter = false := by
  induction h with
  | canceled d => exact .nil
  | finished hstep => exact .nil
  | blocked hcommand hold => exact .singleton _
  | refused hcommand fault cancels => exact .singleton _
  | unread hcommand hread cancels => exact .singleton _
  | @went d next command reply cancels rounds stop hcommand hadvance rest ih =>
    cases rounds with
    | nil => exact .singleton _
    | cons r rounds =>
      refine .cons_cons ⟨rfl, ?_⟩ ih
      cases cancels with
      | false => rfl
      | true => cases rest.eq_nil_of_cancelled

/-- After a command that succeeded it is the rest of the rounds that counts. -/
theorem completes_cons {next : Dial} {command : Command} {reply : String} {cancels : Bool}
    (hcommand : d.command? = some command) (hadvance : (d.advance reply).value = .ok next)
    (rounds : List (Round ω)) :
    d.Completes false (⟨⟨command, true⟩, false, .answered (.ok reply) cancels⟩ :: rounds) ↔
      next.Completes cancels rounds := by
  simp only [Completes, List.map_cons, pending_cons_of_advance hcommand hadvance,
    List.cons.injEq, true_and, List.forall_mem_cons, Round.cancelledAt_cons]
  simp [Round.reply?, Round.cancelledAfter]

/-- A reply that cannot be read leaves commands pending. -/
theorem not_completes_of_unread {command : Command} {reply : String} {fault : ReplyFault}
    (hread : (d.advance reply).value = .error fault) (cancels : Bool) :
    ¬d.Completes (ω := ω) false [⟨⟨command, true⟩, false, .answered (.ok reply) cancels⟩] := by
  intro h
  obtain ⟨hstep, -⟩ := (advance_eq_error_iff d reply fault).mp hread
  have hlength := congrArg List.length h.1
  simp only [pending, hstep, script, if_true] at hlength
  split at hlength
  · simp [shortcut] at hlength
  · simp [commands] at hlength

/-- An attempt that succeeds has completed, and returns its port. -/
theorem ended_ok_iff (h : d.Path cancelled rounds stop) (port : DataPort) :
    stop = .ended (.ok port) ↔ port = d.port ∧ d.Completes cancelled rounds := by
  induction h with
  | canceled d => simp [Completes, Round.cancelledAt]
  | @finished d hstep =>
    have hpending : d.pending ([] : List (Round ω)) = [] := (pending_eq_nil_iff d []).mpr hstep
    have hcompletes : d.Completes false ([] : List (Round ω)) := ⟨hpending.symm, by simp, rfl⟩
    rw [Stop.ended.injEq, Except.ok.injEq]
    exact ⟨fun heq => ⟨heq.symm, hcompletes⟩, fun heq => heq.1.symm⟩
  | blocked hcommand hold => simp [Completes, Round.reply?]
  | refused hcommand fault cancels => simp [Completes, Round.reply?]
  | unread hcommand hread cancels => simp [not_completes_of_unread hread cancels]
  | @went d next command reply cancels rounds stop hcommand hadvance rest ih =>
    rw [ih, completes_cons hcommand hadvance, eq_of_advance hadvance]

/-- A reply that is read is not to blame. -/
theorem not_unread_cons {next : Dial} {reply : String}
    (hadvance : (d.advance reply).value = .ok next) (request : Request) (cancels : Bool)
    (rounds : List (Round ω)) (fault : ReplyFault) :
    ¬d.Unread (⟨request, false, .answered (.ok reply) cancels⟩ :: rounds) fault := by
  rintro ⟨hstep, r, reply', hrounds, hreply, hread⟩
  obtain ⟨rfl, -⟩ := List.cons.inj hrounds
  obtain rfl := Option.some.inj hreply
  cases hadvance.symm.trans ((advance_eq_error_iff d reply fault).mpr ⟨hstep, hread⟩)

/-- The first step is never come back to. -/
theorem step_ne_of_advance {next : Dial} {reply : String}
    (h : (d.advance reply).value = .ok next) : next.step ≠ .checkActive := by
  cases hs : d.step with
  | checkActive =>
    simp only [advance, hs] at h
    split at h
    · simp at h
    · split at h
      · simp [← Except.ok.inj h]
      · simp [← Except.ok.inj h]
  | auth | dnsFamily | activate | mapDataChannel | startFraming | done =>
    simp only [advance, hs] at h
    simp [← Except.ok.inj h]

/-- After a command that succeeded it is the rest of the rounds that tells why. -/
theorem fails_cons {next : Dial} {command : Command} {reply : String} {cancels : Bool}
    (hadvance : (d.advance reply).value = .ok next) (rounds : List (Round ω)) (fault : Fault) :
    d.Fails false (⟨⟨command, true⟩, false, .answered (.ok reply) cancels⟩ :: rounds) fault ↔
      next.Fails cancels rounds fault := by
  have hunread (fault : ReplyFault) : ¬next.Unread rounds fault := fun hread =>
    step_ne_of_advance hadvance hread.1
  constructor
  · intro h
    cases h with
    | refused hlast hfault =>
      cases rounds with
      | nil =>
        obtain rfl := Option.some.inj hlast
        cases hfault
      | cons r rounds => exact .refused (by simpa using hlast) hfault
    | unread hread => exact absurd hread (not_unread_cons hadvance _ _ _ _)
    | canceled hreply hread hcancelled =>
      rw [Round.cancelledAt_cons] at hcancelled
      exact .canceled (fun r hr => hreply r (List.mem_cons_of_mem _ hr)) hunread hcancelled
  · intro h
    cases h with
    | @refused r _ _ hlast hfault =>
      refine .refused (r := r) ?_ hfault
      rw [List.getLast?_cons, hlast]
      rfl
    | unread hread => exact absurd hread (hunread _)
    | canceled hreply hread hcancelled =>
      refine .canceled ?_ (not_unread_cons hadvance _ _ _) ?_
      · exact List.forall_mem_cons.mpr ⟨rfl, hreply⟩
      · rw [Round.cancelledAt_cons]
        exact hcancelled

theorem fails_nil_iff (fault : Fault) :
    d.Fails cancelled ([] : List (Round ω)) fault ↔ cancelled = true ∧ fault = .canceled := by
  have hunread (fault : ReplyFault) : ¬d.Unread ([] : List (Round ω)) fault := by
    rintro ⟨-, r, reply, hrounds, -⟩
    cases hrounds
  constructor
  · intro h
    cases h with
    | refused hlast => cases hlast
    | unread hread => exact absurd hread (hunread _)
    | canceled _ _ hcancelled => exact ⟨hcancelled, rfl⟩
  · rintro ⟨rfl, rfl⟩
    exact .canceled (by simp) hunread rfl

/-- A round without a reply has none that could not be read. -/
theorem not_unread_singleton {r : Round ω} (h : r.reply? = none) (fault : ReplyFault) :
    ¬d.Unread [r] fault := by
  rintro ⟨-, r', reply, hrounds, hreply, -⟩
  obtain rfl := List.singleton_inj.mp hrounds
  cases h.symm.trans hreply

/-- A command that waits for its answer has not failed. -/
theorem not_fails_blocked (request : Request) (hold : ω) (fault : Fault) :
    ¬d.Fails false [⟨request, false, .blocked hold⟩] fault := by
  intro h
  cases h with
  | refused hlast hfault =>
    obtain rfl := Option.some.inj hlast
    cases hfault
  | unread hread => exact absurd hread (not_unread_singleton rfl _)
  | canceled hreply => simpa [Round.reply?] using hreply _ (List.mem_singleton_self _)

/-- A command that failed is why the attempt does. -/
theorem fails_refused_iff (request : Request) (cancels : Bool) (f fault : Fault) :
    d.Fails (ω := ω) false [⟨request, false, .answered (.error f) cancels⟩] fault ↔ f = fault := by
  constructor
  · intro h
    cases h with
    | refused hlast hfault =>
      obtain rfl := Option.some.inj hlast
      cases hfault
      rfl
    | unread hread => exact absurd hread (not_unread_singleton rfl _)
    | canceled hreply => simpa [Round.reply?] using hreply _ (List.mem_singleton_self _)
  · rintro rfl
    exact .refused rfl rfl

/-- A reply that cannot be read is why the attempt fails, also where it was asked to stop. -/
theorem fails_unread_iff {reply : String} {f : ReplyFault}
    (hread : (d.advance reply).value = .error f) (request : Request) (cancels : Bool)
    (fault : Fault) :
    d.Fails (ω := ω) false [⟨request, false, .answered (.ok reply) cancels⟩] fault ↔
      .reply f = fault := by
  obtain ⟨hstep, hread⟩ := (advance_eq_error_iff d reply f).mp hread
  have hunread : d.Unread (ω := ω) [⟨request, false, .answered (.ok reply) cancels⟩] f :=
    ⟨hstep, _, reply, rfl, rfl, hread⟩
  constructor
  · intro h
    cases h with
    | refused hlast hfault =>
      obtain rfl := Option.some.inj hlast
      cases hfault
    | unread hread' =>
      obtain ⟨-, r, reply', hrounds, hreply, hread'⟩ := hread'
      obtain ⟨rfl, -⟩ := List.cons.inj hrounds
      obtain rfl := Option.some.inj hreply
      rw [Except.error.inj (hread.symm.trans hread')]
    | canceled _ hnone => exact absurd hunread (hnone f)
  · rintro rfl
    exact .unread hunread

/-- An attempt that fails reports the fault that its rounds tell. -/
theorem ended_error_iff (h : d.Path cancelled rounds stop) (fault : Fault) :
    stop = .ended (.error fault) ↔ d.Fails cancelled rounds fault := by
  induction h with
  | canceled d => simp [fails_nil_iff, eq_comm]
  | finished hstep => simp [fails_nil_iff]
  | blocked hcommand hold => simp [not_fails_blocked]
  | refused hcommand f cancels => simp [fails_refused_iff]
  | unread hcommand hread cancels => simp [fails_unread_iff hread]
  | went hcommand hadvance rest ih => rw [ih, fails_cons hadvance]

/-- An attempt that waits does so for the last command it has put. -/
theorem blocked_iff (h : d.Path cancelled rounds stop) (request : Request) (hold : ω) :
    stop = .blocked request hold ↔ rounds.getLast? = some ⟨request, false, .blocked hold⟩ := by
  induction h with
  | canceled d => simp
  | finished hstep => simp
  | blocked hcommand hold' => simp
  | refused hcommand f cancels => simp
  | unread hcommand hread cancels => simp
  | @went d next command reply cancels rounds stop hcommand hadvance rest ih =>
    rw [ih, List.getLast?_cons]
    cases rounds.getLast? with
    | none => simp
    | some r => simp

end Path

/-! ### Traces -/

/-- How the rounds of an attempt, its script and its end fit together. -/
structure Trace (d : Dial) (cancelled : Bool) (rounds : List (Round ω)) (halt : Halt ω) : Prop where
  /-- The commands that were put are the first ones of the script. -/
  issued : rounds.map (·.request.command) <+: d.script rounds
  /-- None is put by an attempt that was asked to stop before it began. -/
  begun : rounds ≠ [] → cancelled = false
  /-- None is put unless the one before succeeded, and the attempt was not asked to stop. -/
  isChain : rounds.IsChain fun r _ => r.reply?.isSome ∧ r.cancelledAfter = false
  /-- Every command can be interrupted, and is put while the attempt is not asked to stop. -/
  uncancelled : ∀ r ∈ rounds, r.cancelled = false ∧ r.request.interruptible = true
  /-- The attempt succeeds, with its port, exactly if all of the script was put, every command
  succeeded, and the attempt was not asked to stop when it looked for the last time. -/
  ok_iff : ∀ a, halt = .ended (.ok a) ↔ a = .dialed d.port ∧
    rounds.map (·.request.command) = d.script rounds ∧ (∀ r ∈ rounds, r.reply?.isSome) ∧
      Round.cancelledAt cancelled rounds = false
  /-- It fails exactly as its rounds tell. -/
  error_iff : ∀ fault, halt = .ended (.error fault) ↔ d.Fails cancelled rounds fault
  /-- It is kept waiting exactly if the last of its commands is. -/
  blocked_iff : ∀ request hold, (∃ ticket, halt = .blocked ticket request hold) ↔
    rounds.getLast? = some ⟨request, false, .blocked hold⟩
  known : halt ≠ .unknown

/-- How an attempt that dials for no bearer halts where its path stops. -/
def halted (ticket : Nat) (stop : Stop (Except Fault DataPort) ω) : Halt ω :=
  (stop.map (·.map Achievement.dialed)).halt ticket

theorem halted_eq_ok_iff {ticket : Nat} {stop : Stop (Except Fault DataPort) ω}
    {a : Achievement} :
    halted ticket stop = .ended (.ok a) ↔ ∃ port, a = .dialed port ∧ stop = .ended (.ok port) := by
  match stop with
  | .blocked request hold => simp [halted, Stop.map, Stop.halt]
  | .ended (.error fault) => simp [halted, Stop.map, Stop.halt, Except.map]
  | .ended (.ok port) => simp [halted, Stop.map, Stop.halt, Except.map, eq_comm]

theorem halted_eq_error_iff {ticket : Nat} {stop : Stop (Except Fault DataPort) ω}
    {fault : Fault} :
    halted ticket stop = .ended (.error fault) ↔ stop = .ended (.error fault) := by
  match stop with
  | .blocked request hold => simp [halted, Stop.map, Stop.halt]
  | .ended (.error fault) => simp [halted, Stop.map, Stop.halt, Except.map]
  | .ended (.ok port) => simp [halted, Stop.map, Stop.halt, Except.map]

theorem halted_eq_blocked_iff {ticket : Nat} {stop : Stop (Except Fault DataPort) ω}
    {request : Request} {hold : ω} :
    (∃ other, halted ticket stop = .blocked other request hold) ↔
      stop = .blocked request hold := by
  match stop with
  | .blocked request hold => simp [halted, Stop.map, Stop.halt]
  | .ended (.error fault) => simp [halted, Stop.map, Stop.halt]
  | .ended (.ok port) => simp [halted, Stop.map, Stop.halt]

theorem halted_ne_unknown (ticket : Nat) (stop : Stop (Except Fault DataPort) ω) :
    halted ticket stop ≠ .unknown := by
  cases stop <;> simp [halted, Stop.map, Stop.halt]

/-- A path from the first step leaves a trace. -/
theorem Path.trace {d : Dial} {cancelled : Bool} {rounds : List (Round ω)}
    {stop : Stop (Except Fault DataPort) ω} (hstep : d.step = .checkActive)
    (h : d.Path cancelled rounds stop) (ticket : Nat) :
    d.Trace cancelled rounds (halted ticket stop) := by
  have hpending : d.pending rounds = d.script rounds := if_pos hstep
  refine
    { issued := hpending ▸ h.issued
      begun := fun hne => ?_
      isChain := h.isChain
      uncancelled := h.uncancelled
      ok_iff := fun a => ?_
      error_iff := fun fault => halted_eq_error_iff.trans (h.ended_error_iff fault)
      blocked_iff := fun request hold => halted_eq_blocked_iff.trans (h.blocked_iff request hold)
      known := halted_ne_unknown ticket stop }
  · by_contra hcancelled
    rw [Bool.not_eq_false] at hcancelled
    subst hcancelled
    exact hne h.eq_nil_of_cancelled
  · rw [halted_eq_ok_iff, ← hpending]
    constructor
    · rintro ⟨port, rfl, hstop⟩
      obtain ⟨rfl, hcompletes⟩ := (h.ended_ok_iff port).mp hstop
      exact ⟨rfl, hcompletes⟩
    · rintro ⟨rfl, hcompletes⟩
      exact ⟨d.port, rfl, (h.ended_ok_iff d.port).mpr ⟨rfl, hcompletes⟩⟩

/-- What dialing a modem comes to: an attempt on its preferred data port, if it has one with
both indices. -/
def Explains (modem : Modem) (profile : Profile) (cancelled : Bool) (rounds : List (Round ω))
    (halt : Halt ω) : Prop :=
  match modem.dataPorts with
  | [] =>
    rounds = [] ∧
      halt = .ended (.error (.notFound "No valid data port found to launch connection"))
  | port :: _ =>
    match port.index? DataPort.acmKey, port.index? DataPort.ncmKey with
    | some acm, some ncm =>
      Trace { port, charset := modem.charset, profile, acm, ncm } cancelled rounds halt
    | _, _ =>
      rounds = [] ∧ halt = .ended (.error (.notFound ("data port '" ++ port.name ++
        "' lacks a valid ID_MM_XMM_ACM_ID/ID_MM_XMM_NCM_ID pair")))

end Dial

/-- Whatever an attempt on a modem goes through, its rounds explain it. -/
theorem Dial.explains_of_course {ω : Type} {modem : Modem} {profile : Profile} {cancelled : Bool}
    {rounds : List (Round ω)} {stop : Stop Ending ω}
    (h : (Operation.dial modem profile cancelled).value.Course cancelled rounds stop)
    (ticket : Nat) : Explains modem profile cancelled rounds (stop.halt ticket) := by
  have hfound {what : String}
      (hdial : (Operation.dial modem profile cancelled).value = .done (.error (.notFound what))) :
      rounds = [] ∧ stop.halt ticket = .ended (.error (.notFound what)) := by
    rw [hdial] at h
    cases h
    exact ⟨rfl, rfl⟩
  have htext (name : String) : "data port '" ++ name ++ "' lacks a valid " ++ DataPort.acmKey ++
      "/" ++ DataPort.ncmKey ++ " pair" =
        "data port '" ++ name ++ "' lacks a valid ID_MM_XMM_ACM_ID/ID_MM_XMM_NCM_ID pair" := by
    simp only [String.append_assoc]
    rfl
  rw [Explains]
  -- The port, then both of its indices, are looked for before any command is put.
  cases hports : modem.dataPorts with
  | nil => exact hfound (by simp [Operation.dial, ofModem, hports])
  | cons port rest =>
    cases hacm : port.index? DataPort.acmKey with
    | none =>
      simp only [hacm, ← htext port.name]
      exact hfound (by simp [Operation.dial, ofModem, hports, hacm])
    | some acm =>
      cases hncm : port.index? DataPort.ncmKey with
      | none =>
        simp only [hacm, hncm, ← htext port.name]
        exact hfound (by simp [Operation.dial, ofModem, hports, hacm, hncm])
      | some ncm =>
        have hdial : (Operation.dial modem profile cancelled).value =
            Operation.afterDialOnly
              (Dial.proceed { port, charset := modem.charset, profile, acm, ncm }
                cancelled).value := by
          simp [Operation.dial, ofModem, hports, hacm, hncm]
        rw [hdial] at h
        obtain ⟨stop', hcourse, rfl⟩ := course_of_dialOnly h
        simp only [hacm, hncm]
        exact (path_of_course hcourse).trace rfl ticket

/-- Dialing over any channel leaves a trace, or finds no port to dial on; in every state of a
station, and wherever the attempt is asked to stop. -/
theorem Station.dial_trace {σ ω : Type} (modem : Modem) (moves : List Station.Move)
    (channel : Channel σ ω) (state : σ) (profile : Profile) (cancelled : Bool) :
    let s := (Station.Run.after modem moves).station
    let driven := (Station.driveOn channel.recorded (state, []) (s.dial profile cancelled)).value
    Dial.Explains modem profile cancelled driven.2.1.2 driven.2.2 := by
  intro s driven
  have hmodem : s.modem = modem := Station.Run.modem_eq modem moves
  -- The rounds and the end are those of the first turn, played out by itself.
  obtain ⟨s', -, hdriven⟩ := Station.driveOn_enter (Station.Run.orderly modem moves).tickets_lt
    channel.recorded (state, []) none cancelled (Operation.dial s.modem profile cancelled).value
    ((Operation.dial s.modem profile cancelled).log ++ [])
  obtain ⟨rounds, hcourse, hplay⟩ := Turn.course_play channel state [] cancelled
    (Operation.dial s.modem profile cancelled).value
  have hvalue : driven = (s', ((Turn.play channel state cancelled
      (Operation.dial s.modem profile cancelled).value).value.1, rounds),
      (Turn.play channel state cancelled
        (Operation.dial s.modem profile cancelled).value).value.2.halt s.nextTicket) := by
    rw [hplay] at hdriven
    exact congrArg Logged.value hdriven
  rw [hvalue, ← hmodem]
  exact Dial.explains_of_course hcourse s.nextTicket

/-- A channel to a modem whose context is active. An attempt to dial is asked to stop while the data
channel is mapped. -/
def Station.activeChannel : Channel Unit Empty where
  ask _ _ request :=
    let response :=
      if request.command = .activationQuery then
        .answered (.ok "+CGACT: 2,0\r\n+CGACT: 1,1") false
      else .answered (.ok "") true
    pure ((), response)

/-- An attempt that takes the short way is canceled when two of its three commands have
succeeded. -/
theorem Station.dial_trace_activeChannel :
    let d : Dial :=
      { port := ⟨"wwan0", [(DataPort.acmKey, "0"), (DataPort.ncmKey, "1")]⟩, charset := .ira,
        profile := { cid := 1 }, acm := 0, ncm := 1 }
    let driven := (driveOn activeChannel.recorded ((), [])
      ((Run.after indexedModem []).station.dial { cid := 1 } false)).value
    d.Trace false driven.2.1.2 driven.2.2 ∧
      driven.2.1.2.map (·.request.command.body) =
        ["+CGACT?", "+XDATACHANNEL=1,1,\"/USBCDC/0\",\"/USBHS/NCM/1\",2,1"] ∧
      d.script driven.2.1.2 = d.shortcut ∧ driven.2.2 = .ended (.error .canceled) := by
  intro d driven
  have htrace : d.Trace false driven.2.1.2 driven.2.2 :=
    dial_trace indexedModem [] activeChannel () { cid := 1 } false
  have hactive : (driven.2.1.2.head?.bind Round.reply?).any d.tellsActive = true := by
    decide +kernel
  have hlength : driven.2.1.2.length = 2 := by decide +kernel
  have hfails : d.Fails false driven.2.1.2 .canceled := by
    refine .canceled (by decide +kernel) ?_ (by decide +kernel)
    rintro fault ⟨-, r, -, hone, -⟩
    rw [hone] at hlength
    cases hlength
  exact ⟨htrace, by decide +kernel, if_pos hactive, (htrace.error_iff _).mpr hfails⟩

end ModemLink
