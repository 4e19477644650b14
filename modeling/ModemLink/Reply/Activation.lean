import ModemLink.Fault
import ModemLink.Reply.Field
import ModemLink.Reply.Record

/-!
# Which contexts are active

The reply to the activation query has a record for each context: its id, and whether it is
active. A reply with one bad record is refused, with the fault of the first such record.

Source: the specification, section 10.1.
-/

namespace ModemLink.Reply

/-- The state of one context. -/
structure Activation where
  cid : UInt32
  active : Bool
  deriving DecidableEq, Repr

namespace Activation

/-- The name that records of this kind carry. -/
def tag : List Char := ['+', 'C', 'G', 'A', 'C', 'T', ':']

/-- Reads one record. -/
def ofRecord (record : List Char) : Except ReplyFault Activation :=
  let malformed := .error (.malformed .activation (String.ofList record))
  match splitFields record with
  | some [cid, state] =>
    match cid.number? with
    | none => .error (.contextId .activation)
    | some cid =>
      match state.number? with
      | some 0 => .ok ⟨cid, false⟩
      | some 1 => .ok ⟨cid, true⟩
      | _ => malformed
  | _ => malformed

/-- Reads every record of a reply, in order. -/
def read (reply : String) : Except ReplyFault (List Activation) :=
  (records tag reply.toList).mapM ofRecord

end Activation

end ModemLink.Reply
