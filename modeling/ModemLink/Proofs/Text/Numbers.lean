import ModemLink.Text.Blank
import ModemLink.Text.Number

/-!
# Printed numbers

A number of 32 bits that is printed is read back. The digits come from the left, so the induction
is on the number without its last digit; no number on the way is larger than the whole one. A text
is read as the number that it spells, and not at all where that number is too large.

## Main definitions

* `Text.Spells`: a text spells a number, of whatever size.

## Main results

* `Text.number?_toString`: a printed number is read back.
* `Text.isDigit_toString`: it is printed in digits only.
* `Text.number?_eq_some_iff`, `Text.number?_eq_none_iff`: which texts are read, and as what.
-/

namespace ModemLink

namespace Text

/-- Digits are read one after another. -/
theorem readDigits_append (value : Nat) (s rest : List Char) :
    readDigits value (s ++ rest) = readDigits value s >>= fun value => readDigits value rest := by
  induction s generalizing value with
  | nil => rfl
  | cons c s ih =>
    rw [List.cons_append, readDigits, readDigits]
    cases digit? c with
    | none => rfl
    | some d =>
      dsimp only
      split
      · exact ih _
      · rfl

theorem digit?_digitChar {d : Nat} (h : d < 10) : digit? d.digitChar = some d := by
  have hall : ∀ d < 10, digit? (Nat.digitChar d) = some d := by decide
  exact hall d h

/-- The digits of a number are read back. -/
theorem readDigits_toDigits {n : Nat} (h : n < UInt32.size) :
    readDigits 0 (Nat.toDigits 10 n) = .ok n := by
  induction n using Nat.strongRecOn with
  | ind n ih =>
    by_cases hn : n < 10
    · rw [Nat.toDigits_of_lt_base hn, readDigits, digit?_digitChar hn]
      simp only [h, if_true, readDigits, Nat.zero_mul, Nat.zero_add]
    · have hle : n / 10 < n := by omega
      have hdigit : n % 10 < 10 := by omega
      have hsum : n / 10 * 10 + n % 10 = n := by omega
      rw [Nat.toDigits_of_base_le (by decide) (by omega), readDigits_append,
        ih (n / 10) hle (by omega)]
      change readDigits (n / 10) [(n % 10).digitChar] = _
      rw [readDigits, digit?_digitChar hdigit]
      simp only [hsum, h, if_true, readDigits]

theorem toList_toString (n : UInt32) : (toString n).toList = Nat.toDigits 10 n.toNat :=
  Nat.toList_repr

/-- A number is printed in digits only. -/
theorem isDigit_toString (n : UInt32) : ∀ c ∈ (toString n).toList, c.isDigit = true := by
  intro c hc
  rw [toList_toString] at hc
  exact Nat.isDigit_of_mem_toDigits (by decide) (by decide) hc

/-- No digit is white space. -/
theorem isBlank_of_isDigit {c : Char} (h : c.isDigit = true) : isBlank c = false := by
  have hdigit := Char.isDigit_iff_toNat.mp h
  have hlow : 0x30 ≤ c.toNat := hdigit.1
  have hhigh : c.toNat ≤ 0x39 := hdigit.2
  simp only [isBlank, Bool.or_eq_false_iff, Bool.and_eq_false_iff, decide_eq_false_iff_not,
    beq_eq_false_iff_ne]
  omega

theorem toString_ne_nil (n : UInt32) : (toString n).toList ≠ [] := by
  rw [toList_toString]
  exact Nat.toDigits_ne_nil

/-- A printed number is read back. -/
theorem number?_toString (n : UInt32) : number? (toString n).toList = some n := by
  have hread : readDigits 0 (toString n).toList = .ok n.toNat := by
    rw [toList_toString]
    exact readDigits_toDigits n.toNat_lt
  have hdigits := isDigit_toString n
  have hne := toString_ne_nil n
  revert hread hdigits hne
  generalize (toString n).toList = s
  intro hread hdigits hne
  -- A number is printed without a sign.
  have hplus : ∀ rest, s ≠ '+' :: rest := by
    rintro rest rfl
    exact absurd (hdigits '+' (List.mem_cons_self ..)) (by decide)
  have hnumber : readNumber s = (readDigits 0 s).map UInt32.ofNat := by
    rw [readNumber.eq_def]
    split
    · exact absurd rfl hne
    · exact absurd rfl (hplus [])
    · next rest _ => exact absurd rfl (hplus rest)
    · rfl
  rw [number?, hnumber, hread]
  simp [Except.map, Except.toOption]

/-! ### Which texts spell a number -/

/-- A text spells a number: one decimal digit or more, and perhaps a plus sign in front. -/
def Spells (s : List Char) (value : Nat) : Prop :=
  ∃ digits, (s = digits ∨ s = '+' :: digits) ∧ digits ≠ [] ∧
    (∀ c ∈ digits, c.isDigit = true) ∧ Nat.ofDigitChars 10 digits 0 = value

/-- More digits never make a number smaller. -/
theorem le_ofDigitChars (s : List Char) (value : Nat) : value ≤ Nat.ofDigitChars 10 s value := by
  induction s generalizing value with
  | nil => exact Nat.le_refl value
  | cons c s ih =>
    have hrest := ih (10 * value + (c.toNat - '0'.toNat))
    rw [Nat.ofDigitChars_cons]
    omega

/-- Digits are read up to the limit, and to their value. -/
theorem readDigits_eq_ok_iff {value n : Nat} {s : List Char} (hvalue : value < UInt32.size) :
    readDigits value s = .ok n ↔
      (∀ c ∈ s, c.isDigit = true) ∧ Nat.ofDigitChars 10 s value = n ∧ n < UInt32.size := by
  induction s generalizing value with
  | nil =>
    rw [readDigits, Except.ok.injEq, Nat.ofDigitChars_nil]
    constructor
    · rintro rfl
      exact ⟨by simp, rfl, hvalue⟩
    · exact fun h => h.2.1
  | cons c s ih =>
    rw [readDigits, List.forall_mem_cons, Nat.ofDigitChars_cons, Nat.mul_comm 10]
    by_cases hdigit : c.isDigit = true
    · rw [digit?, if_pos hdigit]
      dsimp only
      split
      · next hlt => rw [ih hlt, and_iff_right hdigit]
      · next hlarge =>
        -- The digits that follow cannot bring the number back below the limit.
        have hle := le_ofDigitChars s (value * 10 + (c.toNat - '0'.toNat))
        refine iff_of_false (fun h => by cases h) fun h => ?_
        omega
    · rw [digit?, if_neg hdigit]
      exact iff_of_false (fun h => by cases h) fun h => hdigit h.1.1

theorem readDigits_toOption_eq_some_iff {digits : List Char} {n : UInt32} :
    ((readDigits 0 digits).map UInt32.ofNat).toOption = some n ↔
      (∀ c ∈ digits, c.isDigit = true) ∧ Nat.ofDigitChars 10 digits 0 = n.toNat := by
  have hlimit : readDigits 0 digits = .ok n.toNat ↔
      (∀ c ∈ digits, c.isDigit = true) ∧ Nat.ofDigitChars 10 digits 0 = n.toNat := by
    rw [readDigits_eq_ok_iff (by decide), and_iff_left n.toNat_lt]
  rw [← hlimit]
  cases hread : readDigits 0 digits with
  | error fault => exact iff_of_false (fun h => by cases h) fun h => by cases h
  | ok value =>
    have hlt := readDigits_lt (by decide) hread
    simp only [Except.map, Except.toOption, Option.some.injEq, Except.ok.injEq]
    constructor
    · rintro rfl
      exact (UInt32.toNat_ofNat_of_lt' hlt).symm
    · rintro rfl
      exact UInt32.ofNat_toNat

theorem not_forall_isDigit_plus {digits : List Char} :
    ¬ ∀ c ∈ '+' :: digits, c.isDigit = true :=
  fun h => absurd (h '+' (List.mem_cons_self ..)) (by decide)

/-- A text is read as a number of 32 bits exactly where it spells that number, so that none is taken
for another one. -/
theorem number?_eq_some_iff {s : List Char} {n : UInt32} :
    number? s = some n ↔ Spells s n.toNat := by
  rw [number?, readNumber.eq_def]
  split
  · refine iff_of_false (fun h => by cases h) ?_
    rintro ⟨digits, rfl | h, hne, -⟩
    · exact hne rfl
    · cases h
  · refine iff_of_false (fun h => by cases h) ?_
    rintro ⟨digits, rfl | h, hne, hdigits, -⟩
    · exact not_forall_isDigit_plus hdigits
    · exact hne (List.cons.inj h).2.symm
  · next digits hne =>
    rw [readDigits_toOption_eq_some_iff]
    constructor
    · exact fun h => ⟨digits, .inr rfl, fun hnil => hne (by rw [hnil]), h⟩
    · rintro ⟨digits', rfl | h, -, hdigits, hvalue⟩
      · exact absurd hdigits not_forall_isDigit_plus
      · rw [(List.cons.inj h).2]
        exact ⟨hdigits, hvalue⟩
  · next hnil _ hunsigned =>
    rw [readDigits_toOption_eq_some_iff]
    constructor
    · exact fun h => ⟨s, .inl rfl, hnil, h⟩
    · rintro ⟨digits, rfl | rfl, -, hdigits, hvalue⟩
      · exact ⟨hdigits, hvalue⟩
      · exact absurd rfl (hunsigned digits)

/-- A text is read as no number exactly where it spells none, or one that is too large. -/
theorem number?_eq_none_iff {s : List Char} :
    number? s = none ↔ ∀ value, Spells s value → UInt32.size ≤ value := by
  rw [Option.eq_none_iff_forall_ne_some]
  constructor
  · intro h value hspells
    refine Nat.le_of_not_lt fun hlt => h (UInt32.ofNat value) (number?_eq_some_iff.mpr ?_)
    rwa [UInt32.toNat_ofNat_of_lt' hlt]
  · intro h n hn
    exact Nat.not_le_of_lt n.toNat_lt (h n.toNat (number?_eq_some_iff.mp hn))

/-- A text spells one number only. -/
theorem Spells.unique {s : List Char} {value other : Nat} (h : Spells s value)
    (h' : Spells s other) : value = other := by
  obtain ⟨digits, hs, -, hdigits, rfl⟩ := h
  obtain ⟨digits', hs', -, hdigits', rfl⟩ := h'
  rcases hs with rfl | rfl
  · rcases hs' with rfl | rfl
    · rfl
    · exact absurd hdigits not_forall_isDigit_plus
  · rcases hs' with rfl | hs'
    · exact absurd hdigits' not_forall_isDigit_plus
    · rw [(List.cons.inj hs').2]

/-- A text that spells a number holds digits, and perhaps a sign. -/
theorem Spells.plus_or_isDigit {s : List Char} {value : Nat} (h : Spells s value) :
    s ≠ [] ∧ ∀ c ∈ s, c = '+' ∨ c.isDigit = true := by
  obtain ⟨digits, rfl | rfl, hne, hdigits, -⟩ := h
  · exact ⟨hne, fun c hc => .inr (hdigits c hc)⟩
  · exact ⟨List.cons_ne_nil _ _,
      List.forall_mem_cons.mpr ⟨.inl rfl, fun c hc => .inr (hdigits c hc)⟩⟩

end Text

end ModemLink
