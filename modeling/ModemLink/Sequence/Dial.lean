import ModemLink.Modem
import ModemLink.Reply.Activation
import ModemLink.Sequence.Basic

/-!
# Dialing

Dialing activates a context and brings up raw packets on the preferred data port. It looks
first whether the context is active already; only if it is not are the credentials set, the
name servers requested and the context activated. Then the data channel is mapped and framing
started. Before every command, and once more before it succeeds, it ends if it was cancelled.
Credentials are encoded in one of the four character sets, and any other encoder is left out.

Source: the specification, sections 4.1 and 10.1.
-/

namespace ModemLink

/-- The steps of dialing, in order. -/
inductive DialStep
  | checkActive
  | auth
  | dnsFamily
  | activate
  | mapDataChannel
  | startFraming
  | done
  deriving DecidableEq, Repr

namespace DialStep

/-- The name of a step. -/
def name : DialStep → String
  | checkActive => "CheckActive"
  | auth => "Auth"
  | dnsFamily => "DnsFamily"
  | activate => "Activate"
  | mapDataChannel => "MapDataChannel"
  | startFraming => "StartFraming"
  | done => "Done"

/-- How many commands may still be asked for from a step on. -/
def rank : DialStep → Nat
  | checkActive => 6
  | auth => 5
  | dnsFamily => 4
  | activate => 3
  | mapDataChannel => 2
  | startFraming => 1
  | done => 0

end DialStep

/-- An attempt to dial. -/
structure Dial where
  /-- The data port the session will run on. -/
  port : DataPort
  charset : Charset
  profile : Profile
  /-- The index of the control interface. -/
  acm : UInt32
  /-- The index of the network interface. -/
  ncm : UInt32
  step : DialStep := .checkActive
  deriving DecidableEq, Repr

namespace Dial

/-- Takes up the preferred data port of a modem. It must have both interface indices. -/
def ofModem (modem : Modem) (profile : Profile) : Logged (Except Fault Dial) :=
  match modem.dataPorts with
  | [] => pure (.error (.notFound "No valid data port found to launch connection"))
  | port :: _ => do
    Logged.notes (modem.secondary.toList.map .secondaryAvailable)
    match port.index? DataPort.acmKey, port.index? DataPort.ncmKey with
    | some acm, some ncm =>
      return .ok { port, charset := modem.charset, profile, acm, ncm }
    | _, _ =>
      return .error (.notFound ("data port '" ++ port.name ++ "' lacks a valid " ++
        DataPort.acmKey ++ "/" ++ DataPort.ncmKey ++ " pair"))

/-- The command of the current step. -/
def command? (d : Dial) : Option Command :=
  match d.step with
  | .checkActive => some .activationQuery
  | .auth => some (.credentials d.charset d.profile)
  | .dnsFamily => some (.requestNameServers d.profile.cid d.profile.family)
  | .activate => some (.setActivation true d.profile.cid)
  | .mapDataChannel => some (.mapDataChannel d.acm d.ncm d.profile.cid)
  | .startFraming => some (.startFraming d.profile.cid)
  | .done => none

/-- The context to dial is among the active ones. -/
def isActive (d : Dial) (contexts : List Reply.Activation) : Bool :=
  contexts.any fun context => context.cid == d.profile.cid && context.active

theorem isActive_iff (d : Dial) (contexts : List Reply.Activation) :
    d.isActive contexts = true ↔ (⟨d.profile.cid, true⟩ : Reply.Activation) ∈ contexts := by
  rw [isActive, List.any_eq_true]
  constructor
  · rintro ⟨⟨cid, active⟩, hmem, htells⟩
    rw [Bool.and_eq_true, beq_iff_eq] at htells
    obtain ⟨rfl, rfl⟩ := htells
    exact hmem
  · exact fun hmem => ⟨_, hmem, by simp⟩

/-- The attempt after the answer to its current command. -/
def advance (d : Dial) (reply : String) : Logged (Except ReplyFault Dial) :=
  match d.step with
  | .checkActive =>
    match Reply.Activation.read reply with
    | .error fault => pure (.error fault)
    | .ok contexts =>
      if d.isActive contexts then do
        Logged.note (.alreadyActive d.profile.cid)
        return .ok { d with step := .mapDataChannel }
      else return .ok { d with step := .auth }
  | .auth => return .ok { d with step := .dnsFamily }
  | .dnsFamily => return .ok { d with step := .activate }
  | .activate => return .ok { d with step := .mapDataChannel }
  | .mapDataChannel => return .ok { d with step := .startFraming }
  | .startFraming | .done => return .ok { d with step := .done }

/-- Dialing as a sequence, which comes to the data port of the session. -/
def sequence : Sequence Dial DataPort where
  title := "dial"
  stepName d := d.step.name
  command? := command?
  advance := advance
  result := port

/-- Goes on with the current step, unless the attempt was cancelled. -/
def proceed (d : Dial) (cancelled : Bool) : Logged (Next Dial (Except Fault DataPort)) :=
  sequence.proceed d cancelled

/-- Goes on with the answer to the current command. -/
def resume (d : Dial) (cancelled : Bool) (answer : Answer) :
    Logged (Next Dial (Except Fault DataPort)) :=
  sequence.resume d cancelled answer

/-- How many commands the attempt may still ask for, the current one included. -/
def rank (d : Dial) : Nat := d.step.rank

theorem command?_eq_none_iff (d : Dial) : d.command? = none ↔ d.step = .done := by
  cases hs : d.step <;> simp [command?, hs]

/-- A reply takes the attempt to a later step. -/
theorem rank_lt_of_advance {d after : Dial} {reply : String}
    (h : (d.advance reply).value = .ok after) (hcommand : after.command?.isSome) :
    after.rank < d.rank := by
  have hs : after.step ≠ .done := fun hdone => by
    rw [(command?_eq_none_iff after).mpr hdone] at hcommand
    cases hcommand
  cases hd : d.step <;> simp only [advance, hd] at h
  case checkActive =>
    split at h
    · simp at h
    · split at h <;> simp at h <;> subst h <;> simp [rank, hd, DialStep.rank]
  all_goals
    simp only [Logged.value_pure, Except.ok.injEq] at h
    subst h
    simp_all [rank, DialStep.rank]

end Dial

end ModemLink
