import ModemLink.Log
import ModemLink.Request

/-!
# Sequences of commands

A sequence is held as data between its commands: it asks for one request, waits for the
answer, and then asks for the next or ends. What the channel does meanwhile, and whether the
caller gives up, is not its business; it learns both only with the answer.

All sequences run alike. A step is logged when it is come to, the caller may give up before it
asks for anything, a fault of the channel ends the sequence as it is, and a reply is read before
the next step is come to. What a sequence asks for, and what a reply makes of it, is its own.

Source: the specification, sections 4.1 and 5.
-/

namespace ModemLink

/-- What a sequence does next. -/
inductive Next (σ ρ : Type)
  /-- It waits for the answer to a request. -/
  | ask (request : Request) (state : σ)
  /-- It ends. -/
  | done (result : ρ)
  deriving DecidableEq, Repr

/-- What a sequence does next as part of another one, which holds its states and makes something of
its result. -/
def Next.map {σ ρ τ ρ' : Type} (hold : σ → τ) (f : ρ → ρ') : Next σ ρ → Next τ ρ'
  | ask request state => ask request (hold state)
  | done result => done (f result)

theorem Next.of_map_eq_ask {σ ρ τ ρ' : Type} {hold : σ → τ} {f : ρ → ρ'} {next : Next σ ρ}
    {request : Request} {after : τ} (h : next.map hold f = .ask request after) :
    ∃ state, next = .ask request state ∧ after = hold state := by
  cases next with
  | ask request' state =>
    obtain ⟨rfl, rfl⟩ := Next.ask.inj h
    exact ⟨state, rfl, rfl⟩
  | done result => cases h

/-- A sequence of commands, one for each of its steps. -/
structure Sequence (σ ρ : Type) where
  /-- The sequence as the log calls it. -/
  title : String
  /-- The name of the current step. -/
  stepName : σ → String
  /-- The command of the current step, if one is left. -/
  command? : σ → Option Command
  /-- The state after a reply to the current command. -/
  advance : σ → String → Logged (Except ReplyFault σ)
  /-- What the sequence has come to when no command is left. -/
  result : σ → ρ

namespace Sequence

variable {σ ρ : Type} {q : Sequence σ ρ} {s after : σ} {cancelled : Bool} {answer : Answer}
  {request : Request}

/-- Goes on with the current step, unless the sequence was cancelled. -/
def proceed (q : Sequence σ ρ) (s : σ) (cancelled : Bool) : Logged (Next σ (Except Fault ρ)) := do
  Logged.note (.stepEntered q.title (q.stepName s))
  if cancelled then return .done (.error .canceled)
  match q.command? s with
  | some command => return .ask ⟨command, true⟩ s
  | none => return .done (.ok (q.result s))

/-- Goes on with the answer to the current command. -/
def resume (q : Sequence σ ρ) (s : σ) (cancelled : Bool) (answer : Answer) :
    Logged (Next σ (Except Fault ρ)) :=
  match answer with
  | .error fault => return .done (.error fault)
  | .ok reply => do
    match ← q.advance s reply with
    | .error fault => return .done (.error (.reply fault))
    | .ok next => q.proceed next cancelled

theorem value_proceed_cancelled : (q.proceed s true).value = .done (.error .canceled) := rfl

theorem value_proceed_of_some {command : Command} (h : q.command? s = some command) :
    (q.proceed s false).value = .ask ⟨command, true⟩ s := by
  simp [proceed, h]

theorem value_proceed_of_none (h : q.command? s = none) :
    (q.proceed s false).value = .done (.ok (q.result s)) := by
  simp [proceed, h]

theorem log_proceed (q : Sequence σ ρ) (s : σ) (cancelled : Bool) :
    (q.proceed s cancelled).log = [.stepEntered q.title (q.stepName s)] := by
  cases cancelled with
  | true => rfl
  | false => cases hcommand : q.command? s <;> simp [proceed, hcommand]

/-- A sequence asks for the command of its step, and only while it is not cancelled. -/
theorem of_proceed_eq_ask (h : (q.proceed s cancelled).value = .ask request after) :
    cancelled = false ∧ after = s ∧ ∃ command, q.command? s = some command ∧
      request = ⟨command, true⟩ := by
  cases cancelled with
  | true => cases h
  | false =>
    cases hcommand : q.command? s with
    | none => cases (value_proceed_of_none hcommand).symm.trans h
    | some command =>
      obtain ⟨rfl, rfl⟩ := Next.ask.inj ((value_proceed_of_some hcommand).symm.trans h)
      exact ⟨rfl, rfl, command, rfl, rfl⟩

theorem value_resume_of_error {reply : String} {fault : ReplyFault}
    (h : (q.advance s reply).value = .error fault) (cancelled : Bool) :
    (q.resume s cancelled (.ok reply)).value = .done (.error (.reply fault)) := by
  simp [resume, h]

theorem value_resume_of_ok {reply : String} (h : (q.advance s reply).value = .ok after)
    (cancelled : Bool) :
    (q.resume s cancelled (.ok reply)).value = (q.proceed after cancelled).value := by
  simp [resume, h]

/-- A sequence asks again only after a reply that it could read. -/
theorem of_resume_eq_ask (h : (q.resume s cancelled answer).value = .ask request after) :
    cancelled = false ∧ ∃ reply, answer = .ok reply ∧ (q.advance s reply).value = .ok after ∧
      ∃ command, q.command? after = some command ∧ request = ⟨command, true⟩ := by
  match answer with
  | .error fault => cases h
  | .ok reply =>
    cases hadvance : (q.advance s reply).value with
    | error fault => cases (value_resume_of_error hadvance cancelled).symm.trans h
    | ok next =>
      obtain ⟨rfl, rfl, hcommand⟩ :=
        of_proceed_eq_ask ((value_resume_of_ok hadvance cancelled).symm.trans h)
      exact ⟨rfl, reply, rfl, hadvance, hcommand⟩

/-- If every reply leaves fewer commands to ask for, so does every answer after which the sequence
asks again. -/
theorem rank_lt_of_resume {rank : σ → Nat}
    (hadvance : ∀ {reply after}, (q.advance s reply).value = .ok after →
      (q.command? after).isSome → rank after < rank s)
    (h : (q.resume s cancelled answer).value = .ask request after) : rank after < rank s := by
  obtain ⟨-, reply, -, hnext, command, hcommand, -⟩ := of_resume_eq_ask h
  exact hadvance hnext (by rw [hcommand]; rfl)

end Sequence

end ModemLink
