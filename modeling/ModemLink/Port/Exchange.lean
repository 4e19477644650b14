import ModemLink.Port.Intake
import ModemLink.Port.Listening

/-!
# The two halves of an exchange

Before a port that gave up a command sends the next one, it drains what the first left behind:
it reads and discards lines up to a final result, or until no line has come in for a while.
After it has sent a command it listens for the answer. Both halves end at the deadline of the
command at the latest, and both can be halted at a horizon, to be taken up again from there.

Source: the specification, section 10.2.
-/

namespace ModemLink

/-- How far time may go. -/
inductive Horizon
  /-- To an instant, itself included. -/
  | upTo (instant : Nat)
  /-- To an instant, itself left out. -/
  | before (instant : Nat)
  /-- As far as anything happens. -/
  | unbounded
  deriving DecidableEq, Repr

/-- The instant is within the horizon. -/
def Horizon.admits : Horizon → Nat → Bool
  | upTo instant, t => t ≤ instant
  | before instant, t => t < instant
  | unbounded, _ => true

/-- How long a port waits for leftover input, in microseconds. -/
def quietTime : Nat := 200000

/-- How draining ends. -/
inductive Drained
  /-- Nothing is left over. -/
  | clean
  /-- The line is lost. -/
  | lost (fault : Fault)
  /-- The deadline has come. -/
  | expired
  /-- The horizon is reached; the port would be quiet at the given instant. -/
  | halted (quietAt : Nat)
  deriving Repr

/-- How listening ends. -/
inductive Listened
  /-- The answer is known. -/
  | answer (a : Answer)
  /-- The deadline has come. -/
  | expired
  /-- The horizon is reached. -/
  | halted (l : Listening)

namespace Intake

/-- Discards lines up to a final result, or until none has come in by the instant `quietAt`,
which moves on with every line. -/
def drain (deadline : Nat) (horizon : Horizon) (quietAt : Nat) (i : Intake) :
    Logged (Intake × Drained) :=
  match h : i.nextLine fun t => t ≤ quietAt && t ≤ deadline && horizon.admits t with
  | (after, .line line) =>
    have : after.size < i.size := size_nextLine_lt h
    let rest : Logged (Intake × Drained) :=
      if (FinalResult.ofLine? line).isSome then return (after, .clean)
      else after.drain deadline horizon (after.clock + quietTime)
    ⟨rest.value, .staleLine line :: rest.log⟩
  | (after, .ended) => return (after, .lost .lineClosed)
  | (after, .broken reason) => return (after, .lost (.lineBroken reason))
  | (after, .silent) =>
    if quietAt ≤ deadline then
      if horizon.admits quietAt then return (after.elapse quietAt, .clean)
      else return (after, .halted quietAt)
    else if horizon.admits deadline then return (after.elapse deadline, .expired)
    else return (after, .halted quietAt)
termination_by i.size

/-- Takes in lines until the answer is complete. -/
def listen (deadline : Nat) (horizon : Horizon) (l : Listening) (i : Intake) :
    Logged (Intake × Listened) :=
  match h : i.nextLine fun t => t ≤ deadline && horizon.admits t with
  | (after, .line line) =>
    have : after.size < i.size := size_nextLine_lt h
    let heard := l.hear line
    let rest : Logged (Intake × Listened) :=
      match heard.value with
      | .answer a => return (after, .answer a)
      | .more l => after.listen deadline horizon l
    ⟨rest.value, heard.log ++ rest.log⟩
  | (after, .ended) => return (after, .answer (.error .lineClosed))
  | (after, .broken reason) => return (after, .answer (.error (.lineBroken reason)))
  | (after, .silent) =>
    if horizon.admits deadline then return (after.elapse deadline, .expired)
    else return (after, .halted l)
termination_by i.size

end Intake

end ModemLink
