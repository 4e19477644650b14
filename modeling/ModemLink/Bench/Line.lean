import ModemLink.Bench.Script
import ModemLink.Port

/-!
# Lines to a modem on the bench

A modem is reached by a script, or by a port on a clock of its own. Over a port an operation
never waits for anything but the clock, so each request is a call that runs to its end; at a
chosen instant the operation is cancelled, whatever it is waiting for.

Source: the specification, section 10.10.
-/

namespace ModemLink.Bench

/-- A port that one operation after another uses. -/
structure Serial where
  port : Port
  /-- The instant at which the operation under way is cancelled. -/
  cancelAt : Option Nat := none

/-- Runs a request to its end. -/
def Serial.ask (s : Serial) (cancelled : Bool) (request : Request) :
    Logged (Serial × Answer × Bool) := do
  let p ← s.port.call s.port.clock ⟨0, request.command, cancelled && request.interruptible⟩
  let p ← match s.cancelAt.filter fun _ => request.interruptible with
    | some instant => p.cancel instant 0
    | none => pure p
  let p ← p.advance .unbounded
  let answer := (p.ended.getLast?.bind (·.answer)).getD (.error .canceled)
  return ({ s with port := { p with ended := [] } }, answer, s.cancelAt.any (· < p.clock))

/-- A line to a modem. -/
inductive Line
  | script (script : Script)
  | serial (serial : Serial)

namespace Line

/-- Responds to a request. -/
def ask (line : Line) (cancelled : Bool) (request : Request) :
    Logged (Line × Response Hold) :=
  match line with
  | script s =>
    let (after, response) := s.ask cancelled request
    return (script after, response)
  | serial s => do
    let (after, answer, cancels) ← s.ask cancelled request
    return (serial after, .answered answer cancels)

/-- The line as a channel for operations. -/
def channel : Channel Line Hold := ⟨ask⟩

/-- What was sent, in order. -/
def sent : Line → List String
  | script s => s.sent
  | serial s => s.port.sent

/-- The line with nothing left to report. -/
def reported : Line → Line
  | script s => script { s with sent := [] }
  | serial s => serial { s with port := { s.port with sent := [] } }

/-- The present instant, where there is a clock. -/
def clock? : Line → Option Nat
  | script _ => none
  | serial s => some s.port.clock

/-- The line for an operation that is to be cancelled some time after now. -/
def cancelIn (duration : Option Nat) : Line → Line
  | script s => script s
  | serial s => serial { s with cancelAt := duration.map (s.port.clock + ·) }

end Line

end ModemLink.Bench
