import ModemLink.Charset
import ModemLink.Text.Number

/-!
# Modems and their data ports

A data port carries the packets of a session. It was found with a hardware descriptor, a
table of texts in which the last value set for a key counts. A modem has data ports in order
of preference and a character set; its command port is known only by what it answers.

Two interfaces of a modem are narrowed to what there is of them. The encoder of credentials is one
of the four character sets, not any function from texts to texts. What carries out the operations
is not chosen with the modem: there is one way of dialing, of reading the configuration and of
tearing down. Nothing is ever sent to a second command port, of which only the name is kept.

Source: the specification, sections 6 and 10.4.
-/

namespace ModemLink

/-- A network interface of the modem, with the descriptor it was found with. -/
structure DataPort where
  name : String
  /-- Keys and values, the last one set first. -/
  properties : List (String × String) := []
  deriving DecidableEq, Repr

namespace DataPort

/-- The port with one more property set. -/
def withProperty (p : DataPort) (key value : String) : DataPort :=
  { p with properties := (key, value) :: p.properties }

/-- The value last set for a key. -/
def property (p : DataPort) (key : String) : Option String :=
  p.properties.lookup key

/-- The number that the value of a key spells. -/
def index? (p : DataPort) (key : String) : Option UInt32 :=
  (p.property key).bind fun value => Text.number? (Text.trim value.toList)

/-- The key of the index of the control interface. -/
def acmKey : String := "ID_MM_XMM_ACM_ID"

/-- The key of the index of the network interface. -/
def ncmKey : String := "ID_MM_XMM_NCM_ID"

end DataPort

/-- A modem as an operation sees it. -/
structure Modem where
  /-- The data ports, the preferred one first. -/
  dataPorts : List DataPort := []
  charset : Charset := .ira
  /-- The name of a second command port, if there is one. -/
  secondary : Option String := none
  deriving DecidableEq, Repr

end ModemLink
