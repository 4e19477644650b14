/-!
# Decimal numbers of 32 bits

Reading a context id, an interface index or a state from text: an optional `+`, then one or
more ASCII digits. Digits are taken from the left, so a text has the fault that is met first:
digits that already exceed the limit before a foreign character are too large, not misspelt.
-/

namespace ModemLink.Text

/-- Why a text is no number of 32 bits. -/
inductive NumberFault
  /-- There is no text at all. -/
  | empty
  /-- A character is no digit, or a sign stands alone. -/
  | invalidDigit
  /-- The digits read so far exceed the limit. -/
  | tooLarge
  deriving DecidableEq, Repr

namespace NumberFault

/-- The fault in words. -/
def message : NumberFault → String
  | empty => "cannot parse integer from empty string"
  | invalidDigit => "invalid digit found in string"
  | tooLarge => "number too large to fit in target type"

end NumberFault

/-- The value of an ASCII digit. -/
def digit? (c : Char) : Option Nat :=
  if c.isDigit then some (c.toNat - '0'.toNat) else none

/-- Continues the number `value` by the digits of a text. -/
def readDigits (value : Nat) : List Char → Except NumberFault Nat
  | [] => .ok value
  | c :: rest =>
    match digit? c with
    | none => .error .invalidDigit
    | some d =>
      if value * 10 + d < UInt32.size then readDigits (value * 10 + d) rest
      else .error .tooLarge

/-- Reads a whole text as a number. -/
def readNumber (s : List Char) : Except NumberFault UInt32 :=
  match s with
  | [] => .error .empty
  | ['+'] => .error .invalidDigit
  | '+' :: digits => (readDigits 0 digits).map UInt32.ofNat
  | digits => (readDigits 0 digits).map UInt32.ofNat

/-- The number a text spells, if it spells one. -/
def number? (s : List Char) : Option UInt32 :=
  (readNumber s).toOption

/-- Digits never take a number past the limit, so none is wrapped around it. -/
theorem readDigits_lt {value n : Nat} {s : List Char} (hv : value < UInt32.size)
    (h : readDigits value s = .ok n) : n < UInt32.size := by
  induction s generalizing value with
  | nil => simp only [readDigits, Except.ok.injEq] at h; exact h ▸ hv
  | cons c rest ih =>
    simp only [readDigits] at h
    split at h
    · exact absurd h (by simp)
    · split at h
      · next hlt => exact ih hlt h
      · exact absurd h (by simp)

end ModemLink.Text
