/-!
# Ranges of characters

A class of characters given by ranges of code points.
-/

namespace ModemLink.Text

/-- The character lies in one of the ranges, each given by its first and last code point. -/
def inRanges (ranges : List (Nat × Nat)) (c : Char) : Bool :=
  ranges.any fun r => r.1 ≤ c.toNat && c.toNat ≤ r.2

end ModemLink.Text
