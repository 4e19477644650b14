import ModemLink.Bearer

/-!
# A modem with its bearers

The bearers of one modem, the context ids they use, and the operations under way. Each move
below is what happens between two waits: an operation begins, gets the answer to its command,
is cancelled or is dropped; a bearer is created or let go. A context id is in use from the
creation of its bearer until nobody holds the bearer and none of its operations is under way.

Source: the specification, sections 10.4 and 10.5.
-/

namespace ModemLink

/-- The bearer an operation belongs to, and the status it had before. -/
structure Owner where
  bearer : Nat
  previous : Status
  deriving DecidableEq, Repr

/-- An operation under way. -/
structure Running where
  /-- Tells the operation from all others. -/
  ticket : Nat
  owner : Option Owner := none
  /-- Somebody asked the operation to stop. -/
  cancelled : Bool := false
  operation : Operation
  /-- What the operation waits for. -/
  request : Request
  deriving DecidableEq, Repr

/-- A modem with its bearers. -/
structure Station where
  modem : Modem
  /-- The bearers alive, in order of creation. -/
  bearers : List Bearer := []
  usedCids : List UInt32 := []
  /-- The operations under way, in order of their beginning. -/
  running : List Running := []
  nextBearer : Nat := 0
  nextTicket : Nat := 0
  deriving DecidableEq, Repr

/-- How far a move has brought an operation. -/
inductive Progress
  /-- There is no such bearer or operation. -/
  | unknown
  /-- The operation waits for the answer to a request. -/
  | waits (ticket : Nat) (request : Request)
  /-- The operation has ended. -/
  | ended (ending : Ending)
  deriving Repr

namespace Station

variable (s : Station)

/-- The bearer with an id. -/
def bearer? (id : Nat) : Option Bearer :=
  s.bearers.find? (·.id == id)

/-- The operation with a ticket. -/
def running? (ticket : Nat) : Option Running :=
  s.running.find? (·.ticket == ticket)

/-- The station with one bearer changed. -/
def update (id : Nat) (f : Bearer → Bearer) : Station :=
  { s with bearers := s.bearers.map fun b => if b.id = id then f b else b }

/-- An operation of the bearer is under way. -/
def isOperating (id : Nat) : Bool :=
  s.running.any fun r => (r.owner.map (·.bearer)) == some id

/-- The station without the bearer, if nobody holds it and no operation of it is under way. -/
def reap (id : Nat) : Station :=
  match s.bearer? id with
  | none => s
  | some b =>
    if b.held || s.isOperating id then s
    else { s with
      bearers := s.bearers.filter (·.id != id)
      usedCids := s.usedCids.erase b.profile.cid }

/-- The station after an operation, no longer under way, changed its bearer. -/
def conclude (owner : Option Owner) (f : Owner → Bearer → Bearer) : Station :=
  match owner with
  | none => s
  | some o => (s.update o.bearer (f o)).reap o.bearer

/-- The station after an operation that is no longer under way ended. -/
def settle (owner : Option Owner) (ending : Ending) : Station :=
  s.conclude owner fun o b => b.settle o.previous ending

/-! ### Bearers come and go -/

/-- Creates a bearer, held by the caller, and tells its id. -/
def create (profile : Profile) : Logged (Station × Except Fault Nat) :=
  if profile.cid = 0 then
    return (s, .error (.invalidArguments "context id must be 1 or greater"))
  else if profile.cid ∈ s.usedCids then
    return (s, .error (.wrongState
      ("context id " ++ toString profile.cid ++ " is already used by another bearer")))
  else do
    Logged.note (.bearerCreated profile.cid)
    return ({ s with
      bearers := s.bearers ++ [{ id := s.nextBearer, profile }]
      usedCids := profile.cid :: s.usedCids
      nextBearer := s.nextBearer + 1 }, .ok s.nextBearer)

/-- Lets go of a bearer. -/
def release (id : Nat) : Station :=
  (s.update id fun b => { b with held := false }).reap id

/-! ### Operations begin -/

/-- Enters the first turn of an operation. -/
def enter (owner : Option Owner) (cancelled : Bool) (turn : Turn) : Station × Progress :=
  match turn with
  | .ask request operation =>
    ({ s with
      running := s.running ++ [{ ticket := s.nextTicket, owner, cancelled, operation, request }]
      nextTicket := s.nextTicket + 1 }, .waits s.nextTicket request)
  | .done ending => ({ s with nextTicket := s.nextTicket + 1 }.settle owner ending, .ended ending)

/-- Begins an operation of a bearer, which is admitted in one status only. -/
def begin (b : Bearer) (operation : String) (required passage : Status) (first : Logged Turn) :
    Logged (Station × Progress) :=
  match b.occupy operation required passage s.nextTicket with
  | .error fault => return (s, .ended (.error fault))
  | .ok busy => do
    let turn ← first
    return (s.update b.id fun _ => busy).enter (some ⟨b.id, required⟩) false turn

/-- Begins to connect a bearer. -/
def connect (id : Nat) : Logged (Station × Progress) :=
  match s.bearer? id with
  | none => return (s, .unknown)
  | some b => s.begin b "connect" .disconnected .connecting (Operation.connect s.modem b.profile)

/-- The first turn of an operation that needs the data port of a bearer. -/
def onPort (b : Bearer) (first : DataPort → Logged Turn) : Logged Turn :=
  match b.connection with
  | none => return .done (.error (.wrongState "bearer has no data port"))
  | some connection => first connection.port

/-- Begins to read the configuration of a bearer again. -/
def refresh (id : Nat) : Logged (Station × Progress) :=
  match s.bearer? id with
  | none => return (s, .unknown)
  | some b =>
    s.begin b "get IP config" .connected .connected
      (onPort b fun port => Operation.refresh port b.profile)

/-- Begins to end the session of a bearer. A bearer at rest that has none is left alone. -/
def disconnect (id : Nat) : Logged (Station × Progress) :=
  match s.bearer? id with
  | none => return (s, .unknown)
  | some b =>
    if !b.busy && b.status == .disconnected then return (s, .ended (.ok .disconnected))
    else
      s.begin b "disconnect" .connected .disconnecting
        (onPort b fun port => Operation.disconnect port b.profile.cid)

/-- Begins to dial for no bearer. -/
def dial (profile : Profile) (cancelled : Bool) : Logged (Station × Progress) := do
  let turn ← Operation.dial s.modem profile cancelled
  return s.enter none cancelled turn

/-- Begins to read the configuration of a context for no bearer. -/
def inspect (port : DataPort) (cid : UInt32) (family : IpFamily) (cancelled : Bool) :
    Logged (Station × Progress) := do
  let turn ← Operation.inspect port cid family cancelled
  return s.enter none cancelled turn

/-- Begins to tear a context down for no bearer. -/
def teardown (port : DataPort) (cid : UInt32) : Logged (Station × Progress) := do
  let turn ← Operation.teardown port cid
  return s.enter none false turn

/-! ### Operations go on and end -/

/-- Hands an operation the answer to its command. -/
def answer (ticket : Nat) (answer : Answer) : Logged (Station × Progress) :=
  match s.running? ticket with
  | none => return (s, .unknown)
  | some r => do
    match ← r.operation.resume r.cancelled answer with
    | .ask request operation =>
      let goOn := fun (other : Running) =>
        if other.ticket = ticket then { other with operation, request } else other
      return ({ s with running := s.running.map goOn }, .waits ticket request)
    | .done ending =>
      let rest := { s with running := s.running.filter (·.ticket != ticket) }
      return (rest.settle r.owner ending, .ended ending)

/-- Asks an operation to stop. -/
def cancelTicket (ticket : Nat) : Station :=
  { s with
    running := s.running.map fun r =>
      if r.ticket = ticket then { r with cancelled := true } else r }

/-- Asks the operation of a bearer, if one is under way, to stop. -/
def cancel (id : Nat) : Station :=
  match (s.bearer? id).bind (·.ticket) with
  | none => s
  | some ticket => s.cancelTicket ticket

/-- Drops an operation where it waits. Its bearer is as it was before. -/
def abort (ticket : Nat) : Station :=
  match s.running? ticket with
  | none => s
  | some r =>
    { s with running := s.running.filter (·.ticket != ticket) }.conclude r.owner
      fun o b => b.restore o.previous

end Station

end ModemLink
