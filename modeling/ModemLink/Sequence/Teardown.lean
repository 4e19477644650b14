import ModemLink.Modem
import ModemLink.Sequence.Basic

/-!
# Tearing a session down

One command deactivates the context. Nobody can interrupt it, and whatever the modem answers
the context counts as gone; an answer that is a fault, other than the one that says so, is
only logged.

Source: the specification, sections 4.3 and 10.7.
-/

namespace ModemLink

/-- A session that is being torn down. -/
structure Teardown where
  port : DataPort
  cid : UInt32
  deriving DecidableEq, Repr

namespace Teardown

/-- Begins with the deactivation. -/
def start (t : Teardown) : Logged Request := do
  Logged.note (.stepEntered "disconnect" "Deactivate")
  return ⟨.setActivation false t.cid, false⟩

/-- What is logged of the answer to the deactivation. -/
def remarks (t : Teardown) (answer : Answer) : List Event :=
  match answer with
  | .error fault =>
    if fault.isNoCarrier then [] else [.deactivationFailed t.cid t.port.name fault]
  | .ok _ => []

/-- Ends with the answer to the deactivation. -/
def finish (t : Teardown) (answer : Answer) : Logged Unit := do
  Logged.notes (t.remarks answer)
  Logged.note (.stepEntered "disconnect" "Done")

end Teardown

end ModemLink
