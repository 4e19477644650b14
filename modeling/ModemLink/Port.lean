import ModemLink.Port.Exchange

/-!
# A command port

A port runs one command at a time. Calls that come while it is taken wait in a queue, and the
port is handed over first come first served. The time limit of a command runs from when it gets
the port. A command that is given up, because its time is over or its caller cancels it, leaves
the port stale, and the next command drains what the first left behind before it is sent.

Time passes only by the moves below: each takes the instant at which it is made, and first lets
everything happen that is due by then. What a modem does about a command is given in advance,
one reaction for each command that is sent.

Sending takes no time and is not divided: a command is written as a whole or not at all. Left out
are a command of which only a part is written, a wait for the device while it is written or
flushed, in which the time could end or the caller give up, and a flush that fails when all of the
command has been written.

Source: the specification, section 10.2.
-/

namespace ModemLink

/-- What a modem does when a command is sent to it. -/
inductive Reaction
  /-- It sends something in pieces. -/
  | sends (chunks : List Chunk)
  /-- The command cannot be written to it. -/
  | refuses (reason : String)
  deriving DecidableEq, Repr

/-- A command somebody waits for. -/
structure Call where
  /-- Tells the call from all others. -/
  ticket : Nat
  command : Command
  /-- The caller has cancelled the command. -/
  cancelled : Bool := false
  deriving DecidableEq, Repr

/-- Where an exchange is. -/
inductive Stage
  /-- Leftover input is discarded; the port would be quiet at the given instant. -/
  | draining (quietAt : Nat)
  /-- The command is sent, and its answer is awaited. -/
  | listening (l : Listening)
  deriving DecidableEq, Repr

/-- A call that has the port. -/
structure Exchange where
  call : Call
  /-- The instant at which the time of the command is over. -/
  deadline : Nat
  stage : Stage
  deriving DecidableEq, Repr

/-- A call that is over. -/
structure Ended where
  ticket : Nat
  /-- The outcome; there is none where the call was dropped. -/
  answer : Option Answer
  /-- The instant at which the call was over. -/
  time : Nat
  deriving Repr

/-- A command port. -/
structure Port where
  name : String
  intake : Intake := {}
  /-- A command was given up, and its answer may still come in. -/
  stale : Bool := false
  /-- What the modem does about the next commands. -/
  reactions : List Reaction := []
  /-- The call that has the port. -/
  active : Option Exchange := none
  /-- The calls that wait for the port. -/
  queue : List Call := []
  /-- The calls that are over. -/
  ended : List Ended := []
  /-- What was written, one text for each command. -/
  sent : List String := []
  deriving Repr

namespace Port

variable (p : Port)

/-- The present instant. -/
def clock : Nat := p.intake.clock

/-- The port at an instant that has come. -/
def elapse (now : Nat) : Port :=
  { p with intake := p.intake.elapse now }

/-- The port after a call that had it, or has just got it, is over. -/
def record (ticket : Nat) (answer : Option Answer) : Port :=
  { p with active := none, ended := p.ended ++ [⟨ticket, answer, p.clock⟩] }

/-- A fault that leaves the answer to a command still to come. -/
def isAbandonment : Fault → Bool
  | .canceled | .timedOut _ => true
  | _ => false

/-- Ends a call with its outcome. -/
def finish (call : Call) (answer : Answer) : Logged Port :=
  match answer with
  | .ok text => do
    Logged.note (.replyReceived p.name text)
    return p.record call.ticket answer
  | .error fault => do
    Logged.note (.commandFailed p.name call.command.loggable fault)
    return { p with stale := p.stale || isAbandonment fault }.record call.ticket answer

/-- The outcome of a command whose time is over. -/
def timeout (call : Call) : Answer :=
  .error (.timedOut call.command.timeout)

/-- Listens for the answer to a command that was sent. -/
def listen (horizon : Horizon) (call : Call) (deadline : Nat) (l : Listening) : Logged Port := do
  let (intake, heard) ← p.intake.listen deadline horizon l
  let p := { p with intake }
  match heard with
  | .answer a => p.finish call a
  | .expired => p.finish call (timeout call)
  | .halted l => return { p with active := some ⟨call, deadline, .listening l⟩ }

/-- The port after a command was written, with what the modem sends about it. It is written whole,
in the instant in which it is sent. -/
def write (body : String) (chunks : List Chunk) : Port :=
  { p with
    sent := p.sent ++ ["AT" ++ body ++ "\r"]
    intake := p.intake.enqueue (Chunk.arrivals p.clock chunks) }

/-- Sends a command and listens for its answer. Where the device refuses the command, nothing of it
has been written. -/
def send (horizon : Horizon) (call : Call) (deadline : Nat) : Logged Port :=
  let l := Listening.toCommand call.command.body
  match p.reactions with
  | [] => (p.write call.command.body []).listen horizon call deadline l
  | .sends chunks :: rest =>
    ({ p with reactions := rest }.write call.command.body chunks).listen horizon call deadline l
  | .refuses reason :: rest =>
    { p with reactions := rest }.finish call (.error (.lineBroken reason))

/-- Drains leftover input, then sends a command. -/
def drain (horizon : Horizon) (call : Call) (deadline quietAt : Nat) : Logged Port := do
  let (intake, drained) ← p.intake.drain deadline horizon quietAt
  let p := { p with intake }
  match drained with
  | .clean => p.send horizon call deadline
  | .lost fault => p.finish call (.error fault)
  | .expired => p.finish call (timeout call)
  | .halted quietAt => return { p with active := some ⟨call, deadline, .draining quietAt⟩ }

/-- Gives the port to a call. A call that was cancelled while it waited does nothing with it. -/
def take (horizon : Horizon) (call : Call) : Logged Port :=
  if call.cancelled then return p.record call.ticket (some (.error .canceled))
  else do
    Logged.note (.commandSent p.name call.command.loggable call.command.timeout)
    let deadline := p.clock + call.command.timeout.micros
    if p.stale then
      drain { p with stale := false } horizon call deadline (p.clock + quietTime)
    else p.send horizon call deadline

/-- Gives the port to waiting calls in turn, until one of them keeps it. -/
def serve (horizon : Horizon) : List Call → Port → Logged Port
  | [], p => return { p with queue := [] }
  | call :: rest, p => do
    let p ← p.take horizon call
    if p.active.isSome then return { p with queue := rest } else serve horizon rest p

/-- Goes on with an exchange. -/
def resume (horizon : Horizon) (x : Exchange) : Logged Port :=
  match x.stage with
  | .draining quietAt => p.drain horizon x.call x.deadline quietAt
  | .listening l => p.listen horizon x.call x.deadline l

/-- Lets everything happen that the horizon admits. -/
def advance (horizon : Horizon) : Logged Port :=
  match p.active with
  | none => serve horizon p.queue p
  | some x => do
    let p ← { p with active := none }.resume horizon x
    if p.active.isSome then return p else serve horizon p.queue p

/-- Calls a command. -/
def call (now : Nat) (call : Call) : Logged Port := do
  let p ← p.advance (.upTo now)
  let p := p.elapse now
  if p.active.isSome then return { p with queue := p.queue ++ [call] }
  else serve (.upTo now) [call] p

/-- The exchange that has the port, if it is the one of a ticket. -/
def activeOf? (ticket : Nat) : Option Exchange :=
  p.active.filter (·.call.ticket == ticket)

/-- Cancels a command. One that waits for the port notices when it gets it. -/
def cancel (now : Nat) (ticket : Nat) : Logged Port := do
  let p ← p.advance (.before now)
  match p.activeOf? ticket with
  | some x =>
    let p ← (p.elapse now).finish x.call (.error .canceled)
    serve (.upTo now) p.queue p
  | none =>
    let mark := fun (c : Call) => if c.ticket = ticket then { c with cancelled := true } else c
    return { p with queue := p.queue.map mark }

/-- Drops a call where it is. The port keeps the bytes of an unfinished line, and does not
count as stale. -/
def abort (now : Nat) (ticket : Nat) : Logged Port := do
  let p ← p.advance (.upTo now)
  match p.activeOf? ticket with
  | some _ =>
    let p := (p.elapse now).record ticket none
    serve (.upTo now) p.queue p
  | none =>
    if p.queue.any (·.ticket == ticket) then
      let p := p.elapse now
      return { p with
        queue := p.queue.filter (·.ticket != ticket)
        ended := p.ended ++ [⟨ticket, none, p.clock⟩] }
    else return p

/-- Lets time pass while nobody calls. -/
def wait (duration : Nat) : Port :=
  p.elapse (p.clock + duration)

/-- Schedules input that no command asked for, counted from now. -/
def inject (chunks : List Chunk) : Port :=
  { p with intake := p.intake.enqueue (Chunk.arrivals p.clock chunks) }

end Port

end ModemLink
