import ModemLink.Operation

/-!
# Bearers

A bearer is a packet data session on one context. One operation at a time may be under way on
it. While one is, the bearer is busy, shows a status of passage and keeps the ticket by which
the operation can be cancelled; when the operation ends without success, or is dropped, the
bearer is as it was before.

Source: the specification, sections 5 and 10.5.
-/

namespace ModemLink

/-- How far a bearer is. -/
inductive Status
  | disconnected
  | connecting
  | connected
  | disconnecting
  deriving DecidableEq, Repr

/-- The name of a status. -/
def Status.name : Status → String
  | disconnected => "Disconnected"
  | connecting => "Connecting"
  | connected => "Connected"
  | disconnecting => "Disconnecting"

/-- A packet data session on one context. -/
structure Bearer where
  /-- Tells the bearer from all others. -/
  id : Nat
  profile : Profile
  status : Status := .disconnected
  /-- An operation is under way. -/
  busy : Bool := false
  /-- What the last successful operation found. -/
  connection : Option Connection := none
  /-- The operation that a cancellation would reach. -/
  ticket : Option Nat := none
  /-- Someone besides its operations still holds the bearer. -/
  held : Bool := true
  deriving DecidableEq, Repr

namespace Bearer

/-- The bearer with an operation under way, which is admitted in one status only and while
there is no other. The operation is named in the fault. -/
def occupy (b : Bearer) (operation : String) (required passage : Status) (ticket : Nat) :
    Except Fault Bearer :=
  if b.busy then
    .error (.wrongState ("cannot " ++ operation ++ ": another operation is in progress"))
  else if b.status ≠ required then
    .error (.wrongState ("cannot " ++ operation ++ ": bearer is " ++ b.status.name))
  else .ok { b with busy := true, status := passage, ticket := some ticket }

/-- The bearer after its operation ended without success. -/
def restore (b : Bearer) (status : Status) : Bearer :=
  { b with busy := false, ticket := none, status }

/-- The bearer after its operation achieved a status and a connection. -/
def complete (b : Bearer) (status : Status) (connection : Option Connection) : Bearer :=
  { b with busy := false, ticket := none, status, connection }

/-- The bearer after its operation ended. -/
def settle (b : Bearer) (previous : Status) : Ending → Bearer
  | .ok (.connected connection) | .ok (.refreshed connection) =>
    b.complete .connected (some connection)
  | .ok .disconnected => b.complete .disconnected none
  | _ => b.restore previous

end Bearer

end ModemLink
