import ModemLink.Fault
import ModemLink.Text.Blank

/-!
# Authentication

The ways of authenticating that a user allows form a set. The empty set means that the user
did not say, which differs from allowing `none` alone. The set is written as names between
bars or commas; order, repetition, case and empty items make no difference.

Source: the specification, sections 3 and 4.1 (step AUTH), and 10.8 for the way the set is
written.
-/

namespace ModemLink

/-- How a context authenticates. -/
inductive AuthMethod
  | none
  | pap
  | chap
  deriving DecidableEq, Repr

/-- The number of a method in commands. -/
def AuthMethod.code : AuthMethod → Nat
  | none => 0
  | pap => 1
  | chap => 2

/-- A set of authentication methods. -/
structure AllowedAuth where
  none : Bool := false
  pap : Bool := false
  chap : Bool := false
  deriving DecidableEq, Repr, Inhabited

namespace AllowedAuth

/-- The user did not say. -/
def unspecified : AllowedAuth := {}

/-- One method alone. -/
def only : AuthMethod → AllowedAuth
  | .none => { none := true }
  | .pap => { pap := true }
  | .chap => { chap := true }

/-- The methods of either set. -/
def union (a b : AllowedAuth) : AllowedAuth :=
  ⟨a.none || b.none, a.pap || b.pap, a.chap || b.chap⟩

/-- The method is in the set. -/
def allows (a : AllowedAuth) : AuthMethod → Bool
  | .none => a.none
  | .pap => a.pap
  | .chap => a.chap

/-- The set has no method. -/
def isUnspecified (a : AllowedAuth) : Bool :=
  a == unspecified

/-- The second set names a method, and every method it names is in the first. -/
def contains (a b : AllowedAuth) : Bool :=
  !b.isUnspecified && union a b == a

/-- The methods of the set in rising order. -/
def methods (a : AllowedAuth) : List AuthMethod :=
  [.none, .pap, .chap].filter a.allows

/-- The name of a method. -/
def nameOf : AuthMethod → String
  | .none => "none"
  | .pap => "pap"
  | .chap => "chap"

/-- The set in words. -/
def text (a : AllowedAuth) : String :=
  if a.isUnspecified then "unknown" else String.intercalate "|" (a.methods.map nameOf)

/-- The method that a word names in any case. -/
def readMethod (word : List Char) : Except ChoiceFault AuthMethod :=
  match String.ofList (word.map Char.toLower) with
  | "none" => .ok .none
  | "pap" => .ok .pap
  | "chap" => .ok .chap
  | other => .error (.auth other)

/-- The words of a written set: what stands between bars and commas, blank items left out. -/
def items (s : List Char) : List (List Char) :=
  ((s.splitOnP fun c => c == '|' || c == ',').map Text.trim).filter (!·.isEmpty)

/-- The set that words name, added to a set. -/
def addItems (a : AllowedAuth) : List (List Char) → Except ChoiceFault AllowedAuth
  | [] => .ok a
  | word :: rest =>
    match readMethod word with
    | .error fault => .error fault
    | .ok method => addItems (a.union (only method)) rest

/-- Reads a written set. -/
def read (s : String) : Except ChoiceFault AllowedAuth :=
  addItems unspecified (items s.toList)

end AllowedAuth

end ModemLink
