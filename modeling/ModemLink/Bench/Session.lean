import ModemLink.Bench.Line

/-!
# Sessions on the bench

A modem and its bearers are tried out step by step. Bearers go by names, and a name can be
given to another bearer. An operation runs until it ends or waits at a gate. After the action
of a step each operation that was waiting before it is looked at once, in the order in which
they began, and runs on if its wait is over.

Source: the specification, section 10.10.
-/

namespace ModemLink.Bench

/-- The kinds of operation. -/
inductive Task
  | connect
  | refresh
  | disconnect
  | dial
  | inspect
  | teardown
  deriving DecidableEq, Repr

/-- An operation that waits at a gate. -/
structure Waiting where
  /-- The name under which the operation was begun. -/
  label : String
  task : Task
  ticket : Nat
  request : Request
  hold : Hold

/-- A modem and its bearers on the bench. -/
structure Session where
  station : Station
  line : Line
  /-- The bearers that are held, by name. -/
  names : List (String × Nat) := []
  /-- The operations that wait, in the order in which they began. -/
  waiting : List Waiting := []

/-- One step of trying out a session. -/
inductive SessionStep
  /-- Creates a bearer under a name. -/
  | create (name : String) (profile : Profile)
  /-- Begins an operation of a bearer, to be cancelled after some time. -/
  | connect (name : String) (cancelAt : Option Nat)
  | refresh (name : String) (cancelAt : Option Nat)
  | disconnect (name : String) (cancelAt : Option Nat)
  /-- Cancels the operation of a bearer. -/
  | cancel (name : String)
  /-- Lets go of a bearer. -/
  | drop (name : String)
  /-- Opens a gate for those who wait at it. -/
  | release (gate : String)
  /-- Drops the operations begun under a name. -/
  | abort (label : String)
  /-- Begins an operation for no bearer. -/
  | dial (label : String) (profile : Profile) (cancelled : Bool)
  | inspect (label : String) (port : DataPort) (cid : UInt32) (family : IpFamily)
      (cancelled : Bool)
  | teardown (label : String) (port : DataPort) (cid : UInt32)

/-- What comes of a step. -/
inductive Outcome
  /-- A bearer was created. -/
  | created (profile : Profile)
  /-- No bearer was created. -/
  | refused (fault : Fault)
  /-- No bearer has the name. -/
  | unknownBearer
  /-- The step is done. -/
  | done
  /-- A bearer had the name. -/
  | existed (held : Bool)
  /-- So many operations were dropped. -/
  | dropped (count : Nat)
  /-- The operation waits. -/
  | pending
  /-- The operation has ended. -/
  | ended (ending : Ending)

/-- An operation that ended after it had waited. -/
structure Finished where
  label : String
  task : Task
  ending : Ending

/-- What is seen of a step. -/
structure SessionReport where
  outcome : Outcome
  sent : List String
  /-- The bearers that are held, by name. -/
  bearers : List (String × Bearer)
  finished : List Finished
  log : List Event
  /-- The instant at the end of the step, where there is a clock. -/
  clock : Option Nat

namespace Session

variable (s : Session)

/-- What an action brings: the session, the outcome, and an operation that began to wait. -/
abbrev Acted := Session × Outcome × Option Waiting

/-- The bearer that goes by a name. -/
def id? (name : String) : Option Nat :=
  s.names.lookup name

/-- Begins an operation by a move of the station, and runs it as far as it goes. -/
def run (label : String) (task : Task) (cancelAt : Option Nat)
    (move : Logged (Station × Progress)) : Logged Acted := do
  let (station, line, halt) ← Station.driveOn Line.channel (s.line.cancelIn cancelAt) move
  let after := { s with station, line }
  match halt with
  | .unknown => return (after, .unknownBearer, none)
  | .ended ending => return (after, .ended ending, none)
  | .blocked ticket request hold =>
    return (after, .pending, some { label, task, ticket, request, hold })

/-- Begins an operation of the bearer that goes by a name. -/
def runOn (name : String) (task : Task) (cancelAt : Option Nat)
    (move : Nat → Logged (Station × Progress)) : Logged Acted :=
  match s.id? name with
  | none => return (s, .unknownBearer, none)
  | some id => s.run name task cancelAt (move id)

/-- The session without the bearer that goes by a name. -/
def forget (name : String) : Session :=
  match s.id? name with
  | none => s
  | some id =>
    { s with
      station := s.station.release id
      names := s.names.filter fun entry => entry.1 != name }

/-- Creates a bearer under a name. The bearer that had the name is let go. -/
def create (name : String) (profile : Profile) : Logged Acted := do
  let (station, created) ← s.station.create profile
  match created with
  | .error fault => return (s, .refused fault, none)
  | .ok id =>
    let after := { s with station }.forget name
    return ({ after with names := after.names ++ [(name, id)] }, .created profile, none)

/-- Drops the operations begun under a name. -/
def abort (label : String) : Acted :=
  let (dropped, kept) := s.waiting.partition (·.label == label)
  ({ s with
    station := dropped.foldl (fun station w => station.abort w.ticket) s.station
    waiting := kept }, .dropped dropped.length, none)

/-- The action of a step. -/
def act : SessionStep → Logged Acted
  | .create name profile => s.create name profile
  | .connect name cancelAt => s.runOn name .connect cancelAt s.station.connect
  | .refresh name cancelAt => s.runOn name .refresh cancelAt s.station.refresh
  | .disconnect name cancelAt => s.runOn name .disconnect cancelAt s.station.disconnect
  | .cancel name =>
    match s.id? name with
    | none => return (s, .unknownBearer, none)
    | some id => return ({ s with station := s.station.cancel id }, .done, none)
  | .drop name => return (s.forget name, .existed (s.id? name).isSome, none)
  | .release gate =>
    let opened := fun (w : Waiting) => { w with hold := w.hold.release gate }
    return ({ s with waiting := s.waiting.map opened }, .done, none)
  | .abort label => return s.abort label
  | .dial label profile cancelled =>
    s.run label .dial none (s.station.dial profile cancelled)
  | .inspect label port cid family cancelled =>
    s.run label .inspect none (s.station.inspect port cid family cancelled)
  | .teardown label port cid => s.run label .teardown none (s.station.teardown port cid)

/-- Looks at an operation that waits, and runs it on if its wait is over. -/
def poll (w : Waiting) : Logged (Session × Option Waiting × Option Finished) :=
  match w.hold.wake (s.station.isCancelled w.ticket) w.request with
  | none => return (s, some w, none)
  | some (answer, cancels) => do
    let told := (s.station.cancelIf cancels w.ticket).answer w.ticket answer
    let (station, line, halt) ← Station.driveOn Line.channel s.line told
    let after := { s with station, line }
    match halt with
    | .unknown => return (after, none, none)
    | .ended ending => return (after, none, some ⟨w.label, w.task, ending⟩)
    | .blocked _ request hold => return (after, some { w with request, hold }, none)

/-- Looks at operations that wait, one after another. -/
def pollAll : List Waiting → Session → Logged (Session × List Waiting × List Finished)
  | [], s => return (s, [], [])
  | w :: rest, s => do
    let (s, kept, finished) ← s.poll w
    let (s, others, ends) ← pollAll rest s
    return (s, kept.toList ++ others, finished.toList ++ ends)

/-- The bearers that are held, by name. -/
def held : List (String × Bearer) :=
  s.names.filterMap fun entry => (s.station.bearer? entry.2).map (entry.1, ·)

/-- Takes one step. -/
def step (action : SessionStep) : Session × SessionReport :=
  let run : Logged (Session × Outcome × List Finished) := do
    let (s, outcome, begun) ← s.act action
    let (s, waiting, finished) ← pollAll s.waiting s
    return ({ s with waiting := waiting ++ begun.toList }, outcome, finished)
  let (after, outcome, finished) := run.value
  ({ after with line := after.line.reported },
    { outcome, finished, sent := after.line.sent, bearers := after.held, log := run.log,
      clock := after.line.clock? })

/-- Takes steps one after another. -/
def runSteps (s : Session) : List SessionStep → List SessionReport
  | [] => []
  | action :: rest =>
    let (after, report) := s.step action
    report :: runSteps after rest

end Session

end ModemLink.Bench
