import ModemLink.Fault
import ModemLink.Text.Blank

/-!
# Character sets of the modem

Credentials are sent in the character set the modem is set to. In the two seven bit sets only
visible ASCII stands for itself; in UCS-2 every character of the basic plane is four upper case
hexadecimal digits, so no quote or control character of the text appears in the command.

These four are all there are: an encoder that is given from outside is left out.

Source: the specification, section 10.3.
-/

namespace ModemLink

/-- A character set for text inside commands. -/
inductive Charset
  | ira
  | gsm
  | utf8
  | ucs2
  deriving DecidableEq, Repr, Inhabited

namespace Charset

/-- The name of the set. -/
def name : Charset → String
  | ira => "IRA"
  | gsm => "GSM"
  | utf8 => "UTF-8"
  | ucs2 => "UCS2"

/-- Reads the name of a set in any case. The empty name means the default. -/
def read (s : String) : Except ChoiceFault Charset :=
  match String.ofList ((Text.trim s.toList).map Char.toUpper) with
  | "IRA" | "" => .ok ira
  | "GSM" => .ok gsm
  | "UTF8" | "UTF-8" => .ok utf8
  | "UCS2" => .ok ucs2
  | other => .error (.charset other)

/-- The character is visible ASCII or the space. -/
def isPlain (c : Char) : Bool :=
  0x20 ≤ c.toNat && c.toNat < 0x7F

/-- The upper case hexadecimal digit of a number below sixteen. -/
def hexDigit (n : Nat) : Char :=
  if n < 10 then Char.ofNat (0x30 + n) else Char.ofNat (0x37 + n)

/-- A sixteen bit number as four hexadecimal digits. This is the base-16 encoding of its two bytes
in the documented form: the higher byte first, each as two digits, its higher half first, and the
letters in upper case, with nothing between. -/
def hexUnit (n : Nat) : List Char :=
  [hexDigit (n / 4096 % 16), hexDigit (n / 256 % 16), hexDigit (n / 16 % 16), hexDigit (n % 16)]

/-- The text in the set, if every character has a place in it. -/
def encode? (set : Charset) (text : String) : Option String :=
  match set with
  | ira | gsm => if text.toList.all isPlain then some text else none
  | utf8 => some text
  | ucs2 =>
    if text.toList.all (·.toNat ≤ 0xFFFF) then
      some (String.ofList (text.toList.flatMap fun c => hexUnit c.toNat))
    else none

end Charset

end ModemLink
