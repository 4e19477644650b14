import ModemLink.Port

/-!
# A port on the bench

A port is tried out step by step on a clock of its own. A step calls commands, alone or side by
side, lets time pass, or has the modem send something unasked. Calls of one step are made at
their instants, counted from the beginning of the step; each may be cancelled or dropped later.
The step is over when all its calls are.

Source: the specification, section 10.10.
-/

namespace ModemLink.Bench

/-- A call to try out. -/
structure Attempt where
  command : Command
  /-- When the command is called, counted from the beginning of the step. -/
  startAt : Nat := 0
  /-- When the command is cancelled, counted from the call. At zero it is cancelled before. -/
  cancelAt : Option Nat := none
  /-- When the call is dropped, counted from the call. -/
  abortAt : Option Nat := none
  deriving DecidableEq, Repr

/-- Something that happens to a port from outside. -/
inductive Move
  | call (call : Call)
  | cancel (ticket : Nat)
  | abort (ticket : Nat)
  deriving DecidableEq, Repr

/-- Makes a move at an instant. -/
def Move.apply (now : Nat) (p : Port) : Move → Logged Port
  | call c => p.call now c
  | cancel ticket => p.cancel now ticket
  | abort ticket => p.abort now ticket

/-- The moves of an attempt, with their instants. -/
def Attempt.moves (a : Attempt) (start ticket : Nat) : List (Nat × Move) :=
  let called := start + a.startAt
  (called, .call ⟨ticket, a.command, a.cancelAt == some 0⟩) ::
    ((a.cancelAt.filter (· != 0)).toList.map fun t => (called + t, .cancel ticket)) ++
    (a.abortAt.toList.map fun t => (called + t, .abort ticket))

/-- The moves of attempts whose tickets are their places, by instant. -/
def schedule (start : Nat) (attempts : List Attempt) : List (Nat × Move) :=
  (attempts.zipIdx.flatMap fun a => a.1.moves start a.2).mergeSort fun x y => x.1 ≤ y.1

/-- Makes calls and waits until all of them are over. -/
def runCalls (p : Port) (attempts : List Attempt) : Logged Port := do
  let p ← (schedule p.clock attempts).foldlM (fun p move => move.2.apply move.1 p) p
  p.advance .unbounded

/-- One step of trying out a port. -/
inductive PortStep
  | calls (attempts : List Attempt)
  | wait (duration : Nat)
  | inject (chunks : List Chunk)
  deriving DecidableEq, Repr

/-- What is seen of a step. -/
structure PortReport where
  /-- How the calls of the step ended, in their order. -/
  ended : List Ended
  /-- The instant at the end of the step. -/
  clock : Nat
  sent : List String
  log : List Event
  deriving Repr

/-- The ends of the calls with the first `count` tickets. -/
def outcomes (p : Port) (count : Nat) : List Ended :=
  (List.range count).filterMap fun ticket => p.ended.find? (·.ticket == ticket)

/-- Takes one step on a port from which nothing is left to report. -/
def PortStep.run (p : Port) : PortStep → Port × PortReport
  | step =>
    let run : Logged Port :=
      match step with
      | calls attempts => runCalls p attempts
      | wait duration => return p.wait duration
      | inject chunks => return p.inject chunks
    let count := match step with
      | calls attempts => attempts.length
      | _ => 0
    let after := run.value
    ({ after with ended := [], sent := [] },
      { ended := outcomes after count, clock := after.clock, sent := after.sent, log := run.log })

/-- Takes steps one after another. -/
def runPort (p : Port) : List PortStep → List PortReport
  | [] => []
  | step :: rest =>
    let (after, report) := step.run p
    report :: runPort after rest

end ModemLink.Bench
