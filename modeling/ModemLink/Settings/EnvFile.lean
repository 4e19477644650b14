import ModemLink.Settings.EnvFile.Entry
import ModemLink.Settings.EnvFile.Value
import ModemLink.Settings.Variables

/-!
# Variable files

A file of entries `KEY=VALUE`, each of which sets a variable. Blank entries and those that begin
with `#` say nothing, and the word `export` may stand before a key. A value may refer to
variables that are set by then. Reading stops at the first entry that breaks the rules.

The specification asks for the file and leaves its form to a library. What is followed here is what
is documented of that form: one `KEY=VALUE` for an entry, with blanks allowed around the equals
sign; an optional `export`; comments after `#`; values bare, in single quotes, which are literal, or
in double quotes, which allow escapes and references and may span lines; `$NAME` and `${NAME}`
for a variable, or for nothing where it is not set; and variables that are set already stay as they
are. Two rules are not documented and follow observed behaviour: an entry that breaks the rules
ends the reading without undoing those before it, and where an entry ends (`Entry`) is found by a
coarser scan than the one that reads its value (`Value`).

Source: the specification, section 10.8.
-/

namespace ModemLink.EnvFile

open Text

/-- The character may begin a key. -/
def beginsKey (c : Char) : Bool :=
  c.isAlpha || c == '_'

/-- The character may stand in a key after its beginning. -/
def continuesKey (c : Char) : Bool :=
  c.isAlphanum || c == '_' || c == '.'

/-- The key at the start of an entry, and the entry after it and the space that follows it. -/
def readKey (entry : List Char) : Option (List Char × List Char) :=
  match entry with
  | [] => none
  | c :: _ =>
    if beginsKey c then
      some (entry.takeWhile continuesKey, trimStart (entry.dropWhile continuesKey))
    else none

/-- The key of an entry, and the entry after its equals sign. The word `export` is a key only
where an equals sign follows it. -/
def readAssignment (entry : List Char) : Option (List Char × List Char) :=
  match readKey entry with
  | none => none
  | some (key, '=' :: value) => some (key, trimStart value)
  | some (key, rest) =>
    if key = "export".toList then
      match readKey rest with
      | some (key, '=' :: value) => some (key, trimStart value)
      | _ => none
    else none

/-- What an entry says. -/
inductive Saying
  /-- Nothing. -/
  | nothing
  /-- A variable has a value. -/
  | sets (key value : String)
  /-- The entry breaks the rules. -/
  | broken
  deriving DecidableEq, Repr

/-- The text that a name refers to, or nothing where it refers to none. -/
def expand (known : Variables) (name : List Char) : List Char :=
  (known.referent? name).getD []

/-- Reads the text of an entry when some variables are known. -/
def readEntry (known : Variables) (text : List Char) : Saying :=
  match trim text with
  | [] => .nothing
  | c :: rest =>
    if c = '#' then .nothing
    else
      match readAssignment (c :: rest) with
      | none => .broken
      | some (key, value) =>
        if value.head? = some '#' then .sets (String.ofList key) ""
        else
          match readValue (expand known) .bare value with
          | none => .broken
          | some value => .sets (String.ofList key) (String.ofList value)

/-- The variables after the entries up to the first one that breaks the rules. -/
def load (known : Variables) : List Entry → Variables
  | [] | .unfinished :: _ => known
  | .complete text :: rest =>
    match readEntry known text with
    | .nothing => load known rest
    | .sets key value => load (known.define key value) rest
    | .broken => known

/-- The text of a file without the byte order mark it may begin with. -/
def withoutMark : List Char → List Char
  | [] => []
  | c :: rest => if c = '\uFEFF' then rest else c :: rest

/-- The variables after a file was read when some were known. -/
def read (known : Variables) (file : String) : Variables :=
  load known (entries (withoutMark file.toList))

end ModemLink.EnvFile
