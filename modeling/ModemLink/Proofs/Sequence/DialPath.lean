import ModemLink.Proofs.Operation.Play

/-!
# Paths of dialing

Dialing puts its commands to the modem one after the other, and decides only once what to ask
for: if the first reply says that the context is active, three commands are left out. It goes on
after a command exactly when the command succeeded, its reply could be read, and nobody had
asked the attempt to stop.

An attempt from any of its steps takes a *path*, with one constructor for each way to go on or
to end. The commands that are still pending are what an induction on a path needs to keep.

## Main definitions

* `Dial.commands`, `Dial.shortcut`, `Dial.script`: the commands of dialing, in order.
* `Dial.pending`: the commands that are left from a step on.
* `Dial.Path`: the rounds that an attempt to dial can take, and how it ends.

## Main results

* `Dial.pending_cons_of_advance`: a command that succeeds is no longer pending.
* `Dial.path_of_course`: whatever a channel does, an attempt takes a path.
-/

namespace ModemLink

namespace Dial

variable {ω : Type}

/-! ### The commands of dialing -/

/-- The commands of dialing a context that is not active. -/
def commands (d : Dial) : List Command :=
  [.activationQuery, .credentials d.charset d.profile,
    .requestNameServers d.profile.cid d.profile.family, .setActivation true d.profile.cid,
    .mapDataChannel d.acm d.ncm d.profile.cid, .startFraming d.profile.cid]

/-- The commands of dialing a context that is active already. -/
def shortcut (d : Dial) : List Command :=
  [.activationQuery, .mapDataChannel d.acm d.ncm d.profile.cid, .startFraming d.profile.cid]

/-- The reply can be read, and lists the context to dial as active. -/
def tellsActive (d : Dial) (reply : String) : Bool :=
  match Reply.Activation.read reply with
  | .ok contexts => decide (⟨d.profile.cid, true⟩ ∈ contexts)
  | .error _ => false

/-- The commands that dialing takes, in view of the reply to the first of them. -/
def script (d : Dial) (rounds : List (Round ω)) : List Command :=
  if (rounds.head?.bind Round.reply?).any d.tellsActive then d.shortcut else d.commands

/-- The commands that are left from the step of an attempt on. -/
def pending (d : Dial) (rounds : List (Round ω)) : List Command :=
  if d.step = .checkActive then d.script rounds else d.commands.drop (6 - d.rank)

theorem command?_eq_head? (d : Dial) (rounds : List (Round ω)) :
    d.command? = (d.pending rounds).head? := by
  cases hs : d.step with
  | checkActive =>
    simp only [command?, pending, hs, script, if_true]
    split <;> rfl
  | auth | dnsFamily | activate | mapDataChannel | startFraming | done =>
    simp [command?, pending, hs, rank, DialStep.rank, commands]

theorem pending_eq_nil_iff (d : Dial) (rounds : List (Round ω)) :
    d.pending rounds = [] ↔ d.step = .done := by
  cases hs : d.step with
  | checkActive =>
    simp only [pending, hs, script, if_true]
    split <;> simp [shortcut, commands]
  | auth | dnsFamily | activate | mapDataChannel | startFraming | done =>
    simp [pending, hs, rank, DialStep.rank, commands]

/-- A command that succeeds is no longer pending; only the first one can make others so. -/
theorem pending_cons_of_advance {d next : Dial} {reply : String} {command : Command}
    (hcommand : d.command? = some command) (hadvance : (d.advance reply).value = .ok next)
    (request : Request) (cancels : Bool) (rounds : List (Round ω)) :
    d.pending (⟨request, false, .answered (.ok reply) cancels⟩ :: rounds) =
      command :: next.pending rounds := by
  cases hs : d.step with
  | checkActive =>
    simp only [advance, hs] at hadvance
    obtain rfl : Command.activationQuery = command := by simpa [command?, hs] using hcommand
    cases hread : Reply.Activation.read reply with
    | error fault => simp [hread] at hadvance
    | ok contexts =>
      simp only [hread, isActive_iff] at hadvance
      split at hadvance
      · next hactive =>
        obtain rfl := Except.ok.inj hadvance
        simp [pending, script, hs, Round.reply?, tellsActive, hread, hactive, shortcut, commands,
          rank, DialStep.rank]
      · next hactive =>
        obtain rfl := Except.ok.inj hadvance
        simp [pending, script, hs, Round.reply?, tellsActive, hread, hactive, commands, rank,
          DialStep.rank]
  | auth | dnsFamily | activate | mapDataChannel | startFraming =>
    simp only [advance, hs] at hadvance
    obtain rfl := Except.ok.inj hadvance
    simp only [command?, hs, Option.some.injEq] at hcommand
    simp [pending, hs, commands, rank, DialStep.rank, hcommand]
  | done => simp [command?, hs] at hcommand

/-- An attempt keeps its port, its profile and the indices it was taken up with. -/
theorem eq_of_advance {d next : Dial} {reply : String}
    (h : (d.advance reply).value = .ok next) : next = { d with step := next.step } := by
  cases hs : d.step with
  | checkActive =>
    simp only [advance, hs] at h
    split at h
    · simp at h
    · split at h
      · rw [← Except.ok.inj h]
      · rw [← Except.ok.inj h]
  | auth | dnsFamily | activate | mapDataChannel | startFraming | done =>
    simp only [advance, hs] at h
    rw [← Except.ok.inj h]

/-- The first reply is the only one that is read. -/
theorem advance_eq_error_iff (d : Dial) (reply : String) (fault : ReplyFault) :
    (d.advance reply).value = .error fault ↔
      d.step = .checkActive ∧ Reply.Activation.read reply = .error fault := by
  cases hs : d.step with
  | checkActive =>
    simp only [advance, hs, true_and]
    cases Reply.Activation.read reply with
    | error f => simp
    | ok contexts =>
      simp only [reduceCtorEq, iff_false]
      split <;> simp
  | auth | dnsFamily | activate | mapDataChannel | startFraming | done => simp [advance, hs]

/-! ### Paths -/

/-- The rounds that an attempt can take from its step on, and where they lead. The attempt looks
first whether it was asked to stop, and then puts its command, which can be interrupted. -/
inductive Path : Dial → Bool → List (Round ω) → Stop (Except Fault DataPort) ω → Prop
  | canceled (d : Dial) : Path d true [] (.ended (.error .canceled))
  | finished {d : Dial} (hstep : d.step = .done) : Path d false [] (.ended (.ok d.port))
  | blocked {d : Dial} {command : Command} (hcommand : d.command? = some command) (hold : ω) :
    Path d false [⟨⟨command, true⟩, false, .blocked hold⟩] (.blocked ⟨command, true⟩ hold)
  | refused {d : Dial} {command : Command} (hcommand : d.command? = some command) (fault : Fault)
    (cancels : Bool) :
    Path d false [⟨⟨command, true⟩, false, .answered (.error fault) cancels⟩]
      (.ended (.error fault))
  | unread {d : Dial} {command : Command} {reply : String} {fault : ReplyFault}
    (hcommand : d.command? = some command) (hread : (d.advance reply).value = .error fault)
    (cancels : Bool) :
    Path d false [⟨⟨command, true⟩, false, .answered (.ok reply) cancels⟩]
      (.ended (.error (.reply fault)))
  | went {d next : Dial} {command : Command} {reply : String} {cancels : Bool}
    {rounds : List (Round ω)} {stop : Stop (Except Fault DataPort) ω}
    (hcommand : d.command? = some command) (hadvance : (d.advance reply).value = .ok next)
    (rest : Path next cancels rounds stop) :
    Path d false (⟨⟨command, true⟩, false, .answered (.ok reply) cancels⟩ :: rounds) stop

/-- The courses of attempts to dial. -/
abbrev Course (next : Next Dial (Except Fault DataPort)) :
    Bool → List (Round ω) → Stop (Except Fault DataPort) ω → Prop :=
  Next.Course (fun cancelled answer (d : Dial) => (d.resume cancelled answer).value) next

/-- Dialing for no bearer takes the courses of the attempt. -/
theorem course_of_dialOnly {next : Next Dial (Except Fault DataPort)} {cancelled : Bool}
    {rounds : List (Round ω)} {stop : Stop Ending ω}
    (h : (Operation.afterDialOnly next).Course cancelled rounds stop) :
    ∃ stop' : Stop (Except Fault DataPort) ω, Course next cancelled rounds stop' ∧
      stop = stop'.map (·.map .dialed) := by
  generalize hturn : Operation.afterDialOnly next = turn at h
  induction h generalizing next with
  | done ending cancelled =>
    match next with
    | .ask request d => cases hturn
    | .done result =>
      obtain rfl := Next.done.inj hturn
      exact ⟨_, .done result cancelled, rfl⟩
  | blocked request op cancelled hold =>
    match next with
    | .done result => cases hturn
    | .ask request' d =>
      obtain ⟨rfl, rfl⟩ := Next.ask.inj hturn
      exact ⟨_, .blocked request' d cancelled hold, rfl⟩
  | answered rest ih =>
    match next with
    | .done result => cases hturn
    | .ask request d =>
      obtain ⟨rfl, rfl⟩ := Next.ask.inj hturn
      obtain ⟨stop', hstop', heq⟩ := ih rfl
      exact ⟨stop', .answered hstop', heq⟩

theorem value_proceed_false {d : Dial} {command : Command} (h : d.command? = some command) :
    (d.proceed false).value = .ask ⟨command, true⟩ d :=
  Sequence.value_proceed_of_some h

theorem value_proceed_done {d : Dial} (h : d.step = .done) :
    (d.proceed false).value = .done (.ok d.port) :=
  Sequence.value_proceed_of_none ((command?_eq_none_iff d).mpr h)

/-- A course from a step of an attempt is a path. -/
theorem path_of_course {d : Dial} {cancelled : Bool} {rounds : List (Round ω)}
    {stop : Stop (Except Fault DataPort) ω}
    (h : Course (d.proceed cancelled).value cancelled rounds stop) :
    d.Path cancelled rounds stop := by
  generalize hnext : (d.proceed cancelled).value = next at h
  induction h generalizing d with
  | done result cancelled =>
    cases cancelled with
    | true =>
      obtain rfl := Next.done.inj hnext
      exact .canceled d
    | false =>
      cases hcommand : d.command? with
      | some command => cases (value_proceed_false hcommand).symm.trans hnext
      | none =>
        have hstep := (command?_eq_none_iff d).mp hcommand
        obtain rfl := Next.done.inj ((value_proceed_done hstep).symm.trans hnext)
        exact .finished hstep
  | blocked request d' cancelled hold =>
    obtain ⟨rfl, rfl, command, hcommand, rfl⟩ := Sequence.of_proceed_eq_ask hnext
    exact .blocked hcommand hold
  | @answered request d' cancelled cancels answer rounds stop rest ih =>
    obtain ⟨rfl, rfl, command, hcommand, rfl⟩ := Sequence.of_proceed_eq_ask hnext
    rw [Bool.false_or] at rest ih
    match answer with
    | .error fault =>
      obtain ⟨rfl, rfl⟩ : rounds = [] ∧ stop = .ended (.error fault) := by
        cases rest
        exact ⟨rfl, rfl⟩
      exact .refused hcommand fault cancels
    | .ok reply =>
      cases hadvance : (d'.advance reply).value with
      | error fault =>
        have hresume : (d'.resume cancels (.ok reply)).value = .done (.error (.reply fault)) :=
          Sequence.value_resume_of_error hadvance cancels
        rw [hresume] at rest
        obtain ⟨rfl, rfl⟩ : rounds = [] ∧ stop = .ended (.error (.reply fault)) := by
          cases rest
          exact ⟨rfl, rfl⟩
        exact .unread hcommand hadvance cancels
      | ok next =>
        have hresume : (d'.resume cancels (.ok reply)).value = (next.proceed cancels).value :=
          Sequence.value_resume_of_ok hadvance cancels
        exact .went hcommand hadvance (ih hresume.symm)

/-- Every path is taken, on a channel with these responses. -/
theorem Path.course {d : Dial} {cancelled : Bool} {rounds : List (Round ω)}
    {stop : Stop (Except Fault DataPort) ω} (h : d.Path cancelled rounds stop) :
    Course (d.proceed cancelled).value cancelled rounds stop := by
  induction h with
  | canceled d => exact .done _ true
  | finished hstep =>
    rw [value_proceed_done hstep]
    exact .done _ false
  | blocked hcommand hold =>
    rw [value_proceed_false hcommand]
    exact .blocked _ _ false hold
  | refused hcommand fault cancels =>
    rw [value_proceed_false hcommand]
    exact .answered (.done _ _)
  | @unread d command reply fault hcommand hread cancels =>
    have hresume : (d.resume (false || cancels) (.ok reply)).value =
        .done (.error (.reply fault)) :=
      Sequence.value_resume_of_error hread _
    rw [value_proceed_false hcommand]
    refine .answered ?_
    rw [hresume]
    exact .done _ _
  | @went d next command reply cancels rounds stop hcommand hadvance rest ih =>
    have hresume : (d.resume (false || cancels) (.ok reply)).value =
        (next.proceed cancels).value :=
      Sequence.value_resume_of_ok hadvance _
    rw [value_proceed_false hcommand]
    refine .answered ?_
    rw [hresume]
    exact ih

end Dial

end ModemLink
