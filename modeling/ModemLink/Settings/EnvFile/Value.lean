import ModemLink.Text.Alphanumeric

/-!
# Values of a variable file

A value or a part of it may stand in quotes; outside of them a space ends the value, and
nothing but a comment may follow. Between single quotes every character stands for itself.
Elsewhere a backslash lifts the meaning of the next character, and a dollar sign refers to a
variable, either by the letters and digits that follow or by the text between braces. The
character that ends a name without braces always stands for itself, even a quote or a space.

A value is read character by character: each brings some output and the place where the next
one is read.

The quotes, the escapes and the two ways to write a reference are documented of the form. That the
character behind a name without braces is literal follows observed behaviour.

Source: the specification, section 10.8.
-/

namespace ModemLink.EnvFile

open Text

/-- Where in a value the reader is. -/
inductive Place
  /-- Outside quotes. -/
  | bare
  /-- Outside quotes, after a backslash. -/
  | bareEscape
  /-- Between single quotes. -/
  | single
  /-- Between double quotes. -/
  | double
  /-- Between double quotes, after a backslash. -/
  | doubleEscape
  /-- In a name without braces, between double quotes or outside quotes. -/
  | name (quoted : Bool) (letters : List Char)
  /-- In a name in braces, between double quotes or outside quotes. -/
  | braced (quoted : Bool) (letters : List Char)
  /-- After the space that ends the value. -/
  | ended
  /-- In a comment. -/
  | comment
  deriving DecidableEq, Repr

/-- The character that a letter after a backslash stands for. -/
def escaped? (c : Char) : Option Char :=
  if c = '\\' ∨ c = '\'' ∨ c = '"' ∨ c = '$' ∨ c = ' ' then some c
  else if c = 'n' then some '\n'
  else none

namespace Place

/-- The place after a reference. -/
def afterReference (quoted : Bool) : Place :=
  if quoted then double else bare

/-- Reads one character: its output, and the place after it. The variable that a name refers
to is told by `expand`. -/
def step (expand : List Char → List Char) : Place → Char → Option (List Char × Place)
  | bare, c =>
    if c = '$' then some ([], name false [])
    else if c = '\'' then some ([], single)
    else if c = '"' then some ([], double)
    else if c = '\\' then some ([], bareEscape)
    else if c = ' ' ∨ c = '\t' then some ([], ended)
    else some ([c], bare)
  | bareEscape, c => (escaped? c).map fun e => ([e], bare)
  | single, c => if c = '\'' then some ([], bare) else some ([c], single)
  | double, c =>
    if c = '$' then some ([], name true [])
    else if c = '"' then some ([], bare)
    else if c = '\\' then some ([], doubleEscape)
    else some ([c], double)
  | doubleEscape, c => (escaped? c).map fun e => ([e], double)
  | name quoted letters, c =>
    if isAlphanumeric c then some ([], name quoted (letters ++ [c]))
    else if c = '{' ∧ letters = [] then some ([], braced quoted [])
    else if c = '$' then some (expand letters, name quoted [])
    else some (expand letters ++ [c], afterReference quoted)
  | braced quoted letters, c =>
    if c = '}' then some (expand letters, afterReference quoted)
    else some ([], braced quoted (letters ++ [c]))
  | ended, c =>
    if c = ' ' ∨ c = '\t' then some ([], ended)
    else if c = '#' then some ([], comment)
    else none
  | comment, _ => some ([], comment)

/-- What the end of the text adds to a value, if it may end here. -/
def finish (expand : List Char → List Char) : Place → Option (List Char)
  | bare | bareEscape | ended | comment => some []
  | name false letters => some (expand letters)
  | name true _ | single | double | doubleEscape | braced _ _ => none

end Place

/-- Reads the rest of a value. -/
def readValue (expand : List Char → List Char) (place : Place) :
    List Char → Option (List Char)
  | [] => place.finish expand
  | c :: rest =>
    match place.step expand c with
    | none => none
    | some (out, after) => (readValue expand after rest).map (out ++ ·)

end ModemLink.EnvFile
