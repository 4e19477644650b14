/-!
# UTF-8

Characters as bytes and back. Reading never fails: each maximal run of bytes that begins a
character but cannot be continued gives one replacement character, and reading goes on at the
byte that did not fit.

The reader takes one byte at a time. Between two bytes it holds either nothing or the part of
a character read so far, with the range in which the next byte must lie; the ranges are the
ones of the Unicode standard, which leave out overlong forms, surrogates and values above
U+10FFFF.
-/

namespace ModemLink.Text.Utf8

/-- The character that stands for bytes which spell none. -/
def replacement : Char := '\uFFFD'

/-- The bytes of a character. -/
def encodeChar (c : Char) : List UInt8 :=
  let n := c.toNat
  if n < 0x80 then [n.toUInt8]
  else if n < 0x800 then [(0xC0 + n / 64).toUInt8, (0x80 + n % 64).toUInt8]
  else if n < 0x10000 then
    [(0xE0 + n / 4096).toUInt8, (0x80 + n / 64 % 64).toUInt8, (0x80 + n % 64).toUInt8]
  else
    [(0xF0 + n / 262144).toUInt8, (0x80 + n / 4096 % 64).toUInt8,
      (0x80 + n / 64 % 64).toUInt8, (0x80 + n % 64).toUInt8]

/-- The bytes of a text. -/
def encode (s : List Char) : List UInt8 :=
  s.flatMap encodeChar

/-- A character of which some bytes have been read. -/
structure Unfinished where
  /-- How many bytes are still to come; at least one. -/
  missing : Nat
  /-- The smallest value the next byte may have. -/
  low : Nat
  /-- The largest value the next byte may have. -/
  high : Nat
  /-- The bits read so far, as a number. -/
  value : Nat
  deriving DecidableEq, Repr

/-- What a byte gives where a character may begin. -/
def lead (b : UInt8) : List Char × Option Unfinished :=
  let n := b.toNat
  if n < 0x80 then ([Char.ofNat n], none)
  else if n < 0xC2 then ([replacement], none)
  else if n < 0xE0 then ([], some ⟨1, 0x80, 0xBF, n - 0xC0⟩)
  else if n < 0xF0 then
    ([], some ⟨2, if n = 0xE0 then 0xA0 else 0x80, if n = 0xED then 0x9F else 0xBF, n - 0xE0⟩)
  else if n < 0xF5 then
    ([], some ⟨3, if n = 0xF0 then 0x90 else 0x80, if n = 0xF4 then 0x8F else 0xBF, n - 0xF0⟩)
  else ([replacement], none)

/-- The characters that one more byte completes, and what is held after it. -/
def step (held : Option Unfinished) (b : UInt8) : List Char × Option Unfinished :=
  match held with
  | none => lead b
  | some p =>
    let n := b.toNat
    if p.low ≤ n ∧ n ≤ p.high then
      let value := p.value * 64 + (n - 0x80)
      if p.missing ≤ 1 then ([Char.ofNat value], none)
      else ([], some ⟨p.missing - 1, 0x80, 0xBF, value⟩)
    else (replacement :: (lead b).1, (lead b).2)

/-- Reads bytes that follow what is held. A character cut off at the end is replaced. -/
def decodeFrom (held : Option Unfinished) : List UInt8 → List Char
  | [] => if held.isSome then [replacement] else []
  | b :: rest => (step held b).1 ++ decodeFrom (step held b).2 rest

/-- The text that bytes spell. -/
def decode (bytes : List UInt8) : List Char :=
  decodeFrom none bytes

end ModemLink.Text.Utf8
