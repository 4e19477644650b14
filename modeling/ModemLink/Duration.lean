/-!
# Spans of time

A span is a whole number of microseconds. In words it takes the largest of the units second,
millisecond and microsecond that it reaches, with as many decimals as it needs and no more.
-/

namespace ModemLink

/-- A span of time. -/
structure Duration where
  /-- The length in microseconds. -/
  micros : Nat
  deriving DecidableEq, Repr

namespace Duration

/-- A span of whole milliseconds. -/
def ofMillis (n : Nat) : Duration := ⟨n * 1000⟩

/-- A span of whole seconds. -/
def ofSeconds (n : Nat) : Duration := ⟨n * 1000000⟩

/-- The length in milliseconds, rounded down. -/
def millis (d : Duration) : Nat := d.micros / 1000

/-- The decimals of a part of a unit that has `10 ^ places` parts, without the zeros at the end. -/
def decimals (places part : Nat) : List Char :=
  let digits := Nat.toDigits 10 part
  let padded := List.replicate (places - digits.length) '0' ++ digits
  (padded.reverse.dropWhile (· == '0')).reverse

/-- A time in units of `10 ^ places` microseconds, as a decimal fraction. -/
def inUnits (places micros : Nat) : String :=
  let unit := Nat.pow 10 places
  let whole := toString (micros / unit)
  match decimals places (micros % unit) with
  | [] => whole
  | digits => whole ++ "." ++ String.ofList digits

/-- The span in words, such as `3s`, `1.5s` or `999ms`. -/
def text (d : Duration) : String :=
  if d.micros = 0 then "0ns"
  else if 1000000 ≤ d.micros then inUnits 6 d.micros ++ "s"
  else if 1000 ≤ d.micros then inUnits 3 d.micros ++ "ms"
  else inUnits 0 d.micros ++ "µs"

end Duration

end ModemLink
