import ModemLink.Bench.PortRun
import ModemLink.Proofs.Port.GoingOn

/-!
# Runs of a port

In a run a port is called, calls are cancelled or dropped, time passes, and the modem may send
something unasked. What a port does with its modem in the course of it comes down to few kinds of
steps: a command is written, leftover input is discarded, a call that had the port is over. A watch
says what is told of each; here it is put together for every move of a port, and for a run, in the
order in which the steps are taken.

Source: the specification, sections 5 and 10.2.

## Main definitions

* `Port.Act`, `Port.play`: runs of a port.
* `Port.Watch`: what is told of the steps that a port takes with its modem.
* `Port.Watch.ofAct`, `Port.Watch.ofPlay`: what is told of one act, and of a run.

## Main results

* `Port.runCalls_eq_play`: calls on the bench are a run.
-/

namespace ModemLink.Port

/-! ### Acts -/

/-- Something that happens to a port. -/
inductive Act
  | move (now : Nat) (m : Bench.Move)
  | advance (horizon : Horizon)
  | wait (duration : Nat)
  /-- The modem sends something unasked. -/
  | inject (chunks : List Chunk)

/-- The port after one act. -/
def act (p : Port) : Act → Logged Port
  | .move now m => m.apply now p
  | .advance horizon => p.advance horizon
  | .wait duration => pure (p.wait duration)
  | .inject chunks => pure (p.inject chunks)

/-- The port after several acts. -/
def play (p : Port) (acts : List Act) : Logged Port :=
  acts.foldlM act p

/-- Calls that are made on the bench are a run of the port, up to where all of them are over. -/
theorem runCalls_eq_play (p : Port) (attempts : List Bench.Attempt) :
    Bench.runCalls p attempts =
      p.play ((Bench.schedule p.clock attempts).map (fun m => .move m.1 m.2) ++
        [.advance .unbounded]) := by
  simp only [Bench.runCalls, play, List.foldlM_append, List.foldlM_map, List.foldlM_cons,
    List.foldlM_nil, bind_pure]
  rfl

/-! ### What is told of a run -/

/-- What is told of the steps that a port takes with its modem. -/
structure Watch (β : Type) where
  /-- A command of a call is written on the port, and the modem sends something about it. -/
  written : Port → List Chunk → Call → List β
  /-- Leftover input was discarded on behalf of a call. -/
  drained : Call → List β
  /-- The call with the ticket had the port and is over; it has no outcome where it was dropped. -/
  ended : Nat → Option Answer → List β
  /-- The modem sends something unasked. -/
  injected : Port → List Chunk → List β

namespace Watch

variable {β : Type} (w : Watch β)

/-- What is told of `listen`: the end of the call, if it comes to that. -/
def ofListen (p : Port) (horizon : Horizon) (call : Call) (deadline : Nat) (l : Listening) :
    List β :=
  match (p.intake.listen deadline horizon l).value.2 with
  | .answer a => w.ended call.ticket (some a)
  | .expired => w.ended call.ticket (some (timeout call))
  | .halted _ => []

/-- What is told of `send`. -/
def ofSend (p : Port) (horizon : Horizon) (call : Call) (deadline : Nat) : List β :=
  let l := Listening.toCommand call.command.body
  match p.reactions with
  | [] =>
    w.written p [] call ++ w.ofListen (p.write call.command.body []) horizon call deadline l
  | .sends chunks :: rest =>
    w.written { p with reactions := rest } chunks call ++
      w.ofListen ({ p with reactions := rest }.write call.command.body chunks) horizon call deadline
        l
  | .refuses reason :: _ => w.ended call.ticket (some (.error (.lineBroken reason)))

/-- What is told of `drain`. -/
def ofDrain (p : Port) (horizon : Horizon) (call : Call) (deadline quietAt : Nat) : List β :=
  match (p.intake.drain deadline horizon quietAt).value with
  | (intake, .clean) => w.drained call ++ w.ofSend { p with intake } horizon call deadline
  | (_, .lost fault) => w.ended call.ticket (some (.error fault))
  | (_, .expired) => w.ended call.ticket (some (timeout call))
  | (_, .halted _) => []

/-- What is told of `take`. A call that was cancelled while it waited does nothing with the
port. -/
def ofTake (p : Port) (horizon : Horizon) (call : Call) : List β :=
  let deadline := p.clock + call.command.timeout.micros
  if call.cancelled then []
  else if p.stale then
    w.ofDrain { p with stale := false } horizon call deadline (p.clock + quietTime)
  else w.ofSend p horizon call deadline

/-- What is told of `serve`. -/
def ofServe (horizon : Horizon) : List Call → Port → List β
  | [], _ => []
  | call :: rest, p =>
    w.ofTake p horizon call ++
      if (p.take horizon call).value.active.isSome then []
      else ofServe horizon rest (p.take horizon call).value

/-- What is told of `orServe`. -/
def ofOrServe (horizon : Horizon) (calls : List Call) (p : Port) : List β :=
  if p.active.isSome then [] else w.ofServe horizon calls p

/-- What is told of `resume`. -/
def ofResume (p : Port) (horizon : Horizon) (x : Exchange) : List β :=
  match x.stage with
  | .draining quietAt => w.ofDrain p horizon x.call x.deadline quietAt
  | .listening l => w.ofListen p horizon x.call x.deadline l

/-- What is told of `goOn`. -/
def ofGoOn (p : Port) (horizon : Horizon) : List β :=
  match p.active with
  | none => []
  | some x => w.ofResume { p with active := none } horizon x

/-- What is told of `advance`. -/
def ofAdvance (p : Port) (horizon : Horizon) : List β :=
  w.ofGoOn p horizon ++ w.ofOrServe horizon p.queue (p.goOn horizon).value

/-- What is told of `call`. -/
def ofCall (p : Port) (now : Nat) (call : Call) : List β :=
  w.ofAdvance p (.upTo now) ++
    w.ofOrServe (.upTo now) [call] ((p.advance (.upTo now)).value.elapse now)

/-- What is told of `cancel`. -/
def ofCancel (p : Port) (now ticket : Nat) : List β :=
  let halted := (p.advance (.before now)).value
  w.ofAdvance p (.before now) ++
    match halted.activeOf? ticket with
    | some x =>
      let free := ((halted.elapse now).finish x.call (.error .canceled)).value
      w.ended x.call.ticket (some (.error .canceled)) ++ w.ofServe (.upTo now) free.queue free
    | none => []

/-- What is told of `abort`. -/
def ofAbort (p : Port) (now ticket : Nat) : List β :=
  let halted := (p.advance (.upTo now)).value
  w.ofAdvance p (.upTo now) ++
    match halted.activeOf? ticket with
    | some _ =>
      let free := (halted.elapse now).record ticket none
      w.ended ticket none ++ w.ofServe (.upTo now) free.queue free
    | none => []

/-- What is told of one act. -/
def ofAct (p : Port) : Act → List β
  | .move now (.call c) => w.ofCall p now c
  | .move now (.cancel ticket) => w.ofCancel p now ticket
  | .move now (.abort ticket) => w.ofAbort p now ticket
  | .advance horizon => w.ofAdvance p horizon
  | .wait _ => []
  | .inject chunks => w.injected p chunks

/-- What is told of a run. -/
def ofPlay : Port → List Act → List β
  | _, [] => []
  | p, a :: acts => w.ofAct p a ++ ofPlay (p.act a).value acts

end Watch

end ModemLink.Port
