import ModemLink.Text.Utf8

/-!
# UTF-8 is read back

The bytes of a text are read back as that text. The reader is followed byte by byte: the first byte
of a character tells how many are still to come, and with each of them six bits are added to the
value that is held. That no byte is refused on the way is where the ranges of the reader come from:
a character is never written longer than it has to be, and a surrogate is no character.

## Main results

* `Text.Utf8.decodeFrom_encodeChar`: the bytes of one character are read back.
* `Text.Utf8.decode_encode`: the bytes of a text are read back.
* `Text.Utf8.lineFeed_not_mem_encode`: a text without a line feed is written without one.
-/

namespace ModemLink.Text.Utf8

theorem toNat_toUInt8 {n : Nat} (h : n < 256) : n.toUInt8.toNat = n := by
  simp [Nat.mod_eq_of_lt h]

variable (rest : List UInt8)

/-! ### The first byte -/

section Lead

variable {n : Nat}

theorem decodeFrom_one (h : n < 0x80) :
    decodeFrom none (n.toUInt8 :: rest) = Char.ofNat n :: decodeFrom none rest := by
  have hbyte : n.toUInt8.toNat = n := toNat_toUInt8 (by omega)
  simp only [decodeFrom, step, lead, hbyte]
  rw [if_pos h]
  rfl

theorem decodeFrom_two (h : 0x80 ≤ n) (h' : n < 0x800) :
    decodeFrom none ((0xC0 + n / 64).toUInt8 :: rest) =
      decodeFrom (some ⟨1, 0x80, 0xBF, n / 64⟩) rest := by
  have hbyte : (0xC0 + n / 64).toUInt8.toNat = 0xC0 + n / 64 := toNat_toUInt8 (by omega)
  simp only [decodeFrom, step, lead, hbyte]
  rw [if_neg (by omega), if_neg (by omega), if_pos (by omega), Nat.add_sub_cancel_left]
  rfl

theorem decodeFrom_three (h : n < 0x10000) :
    decodeFrom none ((0xE0 + n / 4096).toUInt8 :: rest) =
      decodeFrom (some ⟨2, if n < 0x1000 then 0xA0 else 0x80,
        if n / 4096 = 0xD then 0x9F else 0xBF, n / 4096⟩) rest := by
  have hbyte : (0xE0 + n / 4096).toUInt8.toNat = 0xE0 + n / 4096 := toNat_toUInt8 (by omega)
  have hlow : 0xE0 + n / 4096 = 0xE0 ↔ n < 0x1000 := by omega
  have hhigh : 0xE0 + n / 4096 = 0xED ↔ n / 4096 = 0xD := by omega
  simp only [decodeFrom, step, lead, hbyte, hlow, hhigh]
  rw [if_neg (by omega), if_neg (by omega), if_neg (by omega), if_pos (by omega),
    Nat.add_sub_cancel_left]
  rfl

theorem decodeFrom_four (h : n < 0x110000) :
    decodeFrom none ((0xF0 + n / 262144).toUInt8 :: rest) =
      decodeFrom (some ⟨3, if n < 0x40000 then 0x90 else 0x80,
        if n / 262144 = 4 then 0x8F else 0xBF, n / 262144⟩) rest := by
  have hbyte : (0xF0 + n / 262144).toUInt8.toNat = 0xF0 + n / 262144 := toNat_toUInt8 (by omega)
  have hlow : 0xF0 + n / 262144 = 0xF0 ↔ n < 0x40000 := by omega
  have hhigh : 0xF0 + n / 262144 = 0xF4 ↔ n / 262144 = 4 := by omega
  simp only [decodeFrom, step, lead, hbyte, hlow, hhigh]
  rw [if_neg (by omega), if_neg (by omega), if_neg (by omega), if_neg (by omega),
    if_pos (by omega), Nat.add_sub_cancel_left]
  rfl

end Lead

/-! ### The bytes after it -/

section Continuation

variable {low high bits : Nat} (value : Nat) (hbits : bits < 64) (hlow : low ≤ 0x80 + bits)
  (hhigh : 0x80 + bits ≤ high)
include hbits hlow hhigh

/-- A byte in range adds six bits to what is held. -/
theorem decodeFrom_more (missing : Nat) :
    decodeFrom (some ⟨missing + 2, low, high, value⟩) ((0x80 + bits).toUInt8 :: rest) =
      decodeFrom (some ⟨missing + 1, 0x80, 0xBF, value * 64 + bits⟩) rest := by
  have hbyte : (0x80 + bits).toUInt8.toNat = 0x80 + bits := toNat_toUInt8 (by omega)
  simp only [decodeFrom, step, hbyte]
  rw [if_pos ⟨hlow, hhigh⟩, if_neg (by omega), Nat.add_sub_cancel_left]
  rfl

/-- The last byte in range completes a character. -/
theorem decodeFrom_last :
    decodeFrom (some ⟨1, low, high, value⟩) ((0x80 + bits).toUInt8 :: rest) =
      Char.ofNat (value * 64 + bits) :: decodeFrom none rest := by
  have hbyte : (0x80 + bits).toUInt8.toNat = 0x80 + bits := toNat_toUInt8 (by omega)
  simp only [decodeFrom, step, hbyte]
  rw [if_pos ⟨hlow, hhigh⟩, if_pos (Nat.le_refl 1), Nat.add_sub_cancel_left]
  rfl

end Continuation

/-! ### Texts -/

/-- The bytes of one character are read back. -/
theorem decodeFrom_encodeChar (c : Char) :
    decodeFrom none (encodeChar c ++ rest) = c :: decodeFrom none rest := by
  have hvalid : c.toNat < 0xD800 ∨ 0xDFFF < c.toNat ∧ c.toNat < 0x110000 := c.valid
  have hchar : Char.ofNat c.toNat = c := Char.ofNat_toNat c
  simp only [encodeChar]
  generalize c.toNat = n at hvalid hchar
  have hbits (k : Nat) : k % 64 < 64 := Nat.mod_lt k (by decide)
  have hlow (k : Nat) : 0x80 ≤ 0x80 + k % 64 := Nat.le_add_right ..
  have hhigh (k : Nat) : 0x80 + k % 64 ≤ 0xBF := by omega
  by_cases h₁ : n < 0x80
  · rw [if_pos h₁, List.singleton_append, decodeFrom_one rest h₁, hchar]
  by_cases h₂ : n < 0x800
  · have hsum : n / 64 * 64 + n % 64 = n := by omega
    rw [if_neg h₁, if_pos h₂, List.cons_append, List.singleton_append,
      decodeFrom_two _ (by omega) h₂, decodeFrom_last rest _ (hbits n) (hlow n) (hhigh n), hsum,
      hchar]
  -- The second byte tells a character from overlong forms, surrogates and values too large.
  by_cases h₃ : n < 0x10000
  · have hsecond : (if n < 0x1000 then 0xA0 else 0x80) ≤ 0x80 + n / 64 % 64 := by
      split <;> omega
    have hsecond' : 0x80 + n / 64 % 64 ≤ (if n / 4096 = 0xD then 0x9F else 0xBF) := by
      split <;> omega
    have hsum : (n / 4096 * 64 + n / 64 % 64) * 64 + n % 64 = n := by omega
    rw [if_neg h₁, if_neg h₂, if_pos h₃, List.cons_append, List.cons_append, List.singleton_append,
      decodeFrom_three _ h₃, decodeFrom_more _ _ (hbits _) hsecond hsecond',
      decodeFrom_last rest _ (hbits n) (hlow n) (hhigh n), hsum, hchar]
  · have hsecond : (if n < 0x40000 then 0x90 else 0x80) ≤ 0x80 + n / 4096 % 64 := by
      split <;> omega
    have hsecond' : 0x80 + n / 4096 % 64 ≤ (if n / 262144 = 4 then 0x8F else 0xBF) := by
      split <;> omega
    have hsum : ((n / 262144 * 64 + n / 4096 % 64) * 64 + n / 64 % 64) * 64 + n % 64 = n := by
      omega
    rw [if_neg h₁, if_neg h₂, if_neg h₃, List.cons_append, List.cons_append, List.cons_append,
      List.singleton_append, decodeFrom_four _ (by omega),
      decodeFrom_more _ _ (hbits _) hsecond hsecond',
      decodeFrom_more _ _ (hbits _) (hlow _) (hhigh _),
      decodeFrom_last rest _ (hbits n) (hlow n) (hhigh n), hsum, hchar]

/-- The bytes of a text are read back. -/
theorem decode_encode (s : List Char) : decode (encode s) = s := by
  rw [decode, encode]
  induction s with
  | nil => rfl
  | cons c s ih => rw [List.flatMap_cons, decodeFrom_encodeChar, ih]

theorem eq_lineFeed_of_mem_encodeChar {c : Char} (h : (0x0A : UInt8) ∈ encodeChar c) :
    c = '\n' := by
  have hbyte {k : Nat} (heq : (0x0A : UInt8) = k.toUInt8) (hk : k < 256) : 0x0A = k := by
    rw [← toNat_toUInt8 hk, ← heq]
    rfl
  have hvalid : c.toNat < 0xD800 ∨ 0xDFFF < c.toNat ∧ c.toNat < 0x110000 := c.valid
  have hchar : Char.ofNat c.toNat = c := Char.ofNat_toNat c
  simp only [encodeChar] at h
  generalize c.toNat = n at hvalid hchar h
  -- Only the bytes of short characters lie below 0x80.
  by_cases h₁ : n < 0x80
  · rw [if_pos h₁, List.mem_singleton] at h
    rw [← hchar, ← hbyte h (by omega)]
  by_cases h₂ : n < 0x800
  · rw [if_neg h₁, if_pos h₂, List.mem_cons, List.mem_singleton] at h
    rcases h with h | h <;> have := hbyte h (by omega) <;> omega
  by_cases h₃ : n < 0x10000
  · rw [if_neg h₁, if_neg h₂, if_pos h₃, List.mem_cons, List.mem_cons, List.mem_singleton] at h
    rcases h with h | h | h <;> have := hbyte h (by omega) <;> omega
  · rw [if_neg h₁, if_neg h₂, if_neg h₃, List.mem_cons, List.mem_cons, List.mem_cons,
      List.mem_singleton] at h
    rcases h with h | h | h | h <;> have := hbyte h (by omega) <;> omega

/-- A text without a line feed is written without one. -/
theorem lineFeed_not_mem_encode {s : List Char} (h : '\n' ∉ s) : (0x0A : UInt8) ∉ encode s := by
  intro hmem
  obtain ⟨c, hc, hbyte⟩ := List.mem_flatMap.mp hmem
  rw [eq_lineFeed_of_mem_encodeChar hbyte] at hc
  exact h hc

end ModemLink.Text.Utf8
