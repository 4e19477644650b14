import ModemLink.Text.Extender
import ModemLink.Text.Unprintable

/-!
# Text shown on one line

A text as it is shown in logs and descriptions: quotes and backslashes behind a backslash,
the four common control characters by a letter, and any other character without a visible
form by its number in lower case hexadecimal. What is shown is one line of visible characters.
-/

namespace ModemLink.Text

/-- Which characters are shown escaped besides those without a visible form. -/
structure EscapeStyle where
  /-- The single quote. -/
  singleQuote : Bool
  /-- Characters drawn onto the one before them, at the start of the text. -/
  firstExtender : Bool
  /-- Characters drawn onto the one before them, after the start of the text. -/
  laterExtender : Bool

/-- Inside log messages a single quote ends the text, and a mark may follow its letter. -/
def EscapeStyle.message : EscapeStyle := ⟨true, true, false⟩

/-- Between double quotes a single quote stands for itself, and no mark is drawn. -/
def EscapeStyle.quoted : EscapeStyle := ⟨false, true, true⟩

/-- The number of a character between braces, in lower case hexadecimal. -/
def escapeNumber (c : Char) : List Char :=
  ['\\', 'u', '\x7b'] ++ Nat.toDigits 16 c.toNat ++ ['\x7d']

/-- A character as it is shown. -/
def escapeChar (singleQuote extender : Bool) (c : Char) : List Char :=
  if c = '\x00' then ['\\', '0']
  else if c = '\t' then ['\\', 't']
  else if c = '\r' then ['\\', 'r']
  else if c = '\n' then ['\\', 'n']
  else if c = '\\' then ['\\', '\\']
  else if c = '"' then ['\\', '"']
  else if c = '\'' ∧ singleQuote then ['\\', '\'']
  else if extender ∧ isExtender c then escapeNumber c
  else if isUnprintable c then escapeNumber c
  else [c]

/-- A text as it is shown. -/
def escape (style : EscapeStyle) : List Char → List Char
  | [] => []
  | c :: rest =>
    escapeChar style.singleQuote style.firstExtender c ++
      rest.flatMap (escapeChar style.singleQuote style.laterExtender)

/-- A text as it is shown between double quotes, with the quotes. -/
def quote (s : String) : String :=
  "\"" ++ String.ofList (escape .quoted s.toList) ++ "\""

end ModemLink.Text
