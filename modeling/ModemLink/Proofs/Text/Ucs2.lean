import Mathlib
import ModemLink.Charset

/-!
# UCS-2 in hexadecimal digits

In UCS-2 a character of the basic plane is a unit of sixteen bits, a unit is two bytes with the
higher one first, and a byte is two upper case hexadecimal digits. Each of the two steps is undone
by a reading of its own, which takes what the step writes and nothing else. So the digits of a text
stand for that text alone, and every row of digits that can be read is written for some text.

## Main definitions

* `Charset.InBasicPlane`: a text that has a place in UCS-2.
* `Charset.readBytes`, `Charset.readUnits`: what digits and bytes stand for.
* `Charset.decodeUcs2?`: the text that digits stand for.

## Main results

* `Charset.encode?_ucs2_eq_some_iff`: digits are read as a text exactly where they are written for
  it.
* `Charset.isSome_encode?_ucs2`, `Charset.encode?_ucs2_append`: which texts are written, and that
  they are written part by part.
-/

namespace ModemLink.Charset

/-- Every character of the text lies in the basic plane. -/
def InBasicPlane (text : String) : Prop :=
  ∀ c ∈ text.toList, c.toNat ≤ 0xFFFF

instance (text : String) : Decidable (InBasicPlane text) :=
  List.decidableBAll _ text.toList

/-- The value of an upper case hexadecimal digit. -/
def hexValue? (c : Char) : Option Nat :=
  if 0x30 ≤ c.toNat ∧ c.toNat ≤ 0x39 then some (c.toNat - 0x30)
  else if 0x41 ≤ c.toNat ∧ c.toNat ≤ 0x46 then some (c.toNat - 0x37)
  else none

/-- The bytes that pairs of digits stand for. -/
def readBytes : List Char → Option (List UInt8)
  | [] => some []
  | [_] => none
  | high :: low :: rest =>
    match hexValue? high, hexValue? low with
    | some h, some l => (readBytes rest).map (UInt8.ofNat (16 * h + l) :: ·)
    | _, _ => none

/-- The characters that pairs of bytes stand for, the higher byte first. A surrogate stands for no
character. -/
def readUnits : List UInt8 → Option (List Char)
  | [] => some []
  | [_] => none
  | high :: low :: rest =>
    if (256 * high.toNat + low.toNat).isValidChar then
      (readUnits rest).map (Char.ofNat (256 * high.toNat + low.toNat) :: ·)
    else none

/-- The text that digits stand for. -/
def decodeUcs2? (spelled : String) : Option String :=
  ((readBytes spelled.toList).bind readUnits).map String.ofList

/-- The digits of a byte. -/
def writeByte (b : UInt8) : List Char :=
  [hexDigit (b.toNat / 16), hexDigit (b.toNat % 16)]

/-- The bytes of a character of the basic plane. -/
def writeUnit (c : Char) : List UInt8 :=
  [UInt8.ofNat (c.toNat / 256), UInt8.ofNat (c.toNat % 256)]

/-! ### Digits and bytes -/

theorem hexValue?_hexDigit {n : Nat} (h : n < 16) : hexValue? (hexDigit n) = some n := by
  have hall : ∀ n < 16, hexValue? (hexDigit n) = some n := by decide
  exact hall n h

theorem hexDigit_of_hexValue? {c : Char} {n : Nat} (h : hexValue? c = some n) :
    n < 16 ∧ hexDigit n = c := by
  rw [hexValue?] at h
  split at h
  · next hdigit =>
    cases h
    have hnumber : 0x30 + (c.toNat - 0x30) = c.toNat := by omega
    rw [hexDigit, if_pos (by omega), hnumber, Char.ofNat_toNat]
    exact ⟨by omega, rfl⟩
  · split at h
    · next hletter =>
      cases h
      have hnumber : 0x37 + (c.toNat - 0x37) = c.toNat := by omega
      rw [hexDigit, if_neg (by omega), hnumber, Char.ofNat_toNat]
      exact ⟨by omega, rfl⟩
    · cases h

theorem readBytes_writeByte (b : UInt8) (rest : List Char) :
    readBytes (writeByte b ++ rest) = (readBytes rest).map (b :: ·) := by
  have hb := b.toNat_lt
  have hvalue : 16 * (b.toNat / 16) + b.toNat % 16 = b.toNat := by omega
  rw [writeByte, List.cons_append, List.cons_append, List.nil_append, readBytes,
    hexValue?_hexDigit (by omega), hexValue?_hexDigit (by omega)]
  simp only [hvalue, UInt8.ofNat_toNat]

/-- Digits are read as bytes exactly where they are written for these. -/
theorem readBytes_eq_some_iff {digits : List Char} {bytes : List UInt8} :
    readBytes digits = some bytes ↔ digits = bytes.flatMap writeByte := by
  constructor
  · intro h
    fun_induction readBytes digits generalizing bytes with
    | case1 =>
      cases h
      rfl
    | case2 => cases h
    | case3 high low rest hi lo hlow hhigh ih =>
      obtain ⟨more, hmore, rfl⟩ := Option.map_eq_some_iff.mp h
      obtain ⟨hhi, rfl⟩ := hexDigit_of_hexValue? hhigh
      obtain ⟨hlo, rfl⟩ := hexDigit_of_hexValue? hlow
      have hbyte : (UInt8.ofNat (16 * hi + lo)).toNat = 16 * hi + lo :=
        UInt8.toNat_ofNat_of_lt' (by change _ < 256; omega)
      have hquotient : (16 * hi + lo) / 16 = hi := by omega
      have hremainder : (16 * hi + lo) % 16 = lo := by omega
      rw [List.flatMap_cons, writeByte, hbyte, hquotient, hremainder, ih hmore]
      rfl
    | case4 => cases h
  · rintro rfl
    induction bytes with
    | nil => rfl
    | cons b bytes ih =>
      rw [List.flatMap_cons, readBytes_writeByte, ih]
      rfl

/-! ### Bytes and characters -/

theorem readUnits_writeUnit {c : Char} (h : c.toNat ≤ 0xFFFF) (rest : List UInt8) :
    readUnits (writeUnit c ++ rest) = (readUnits rest).map (c :: ·) := by
  have hhigh : (UInt8.ofNat (c.toNat / 256)).toNat = c.toNat / 256 :=
    UInt8.toNat_ofNat_of_lt' (by change _ < 256; omega)
  have hlow : (UInt8.ofNat (c.toNat % 256)).toNat = c.toNat % 256 :=
    UInt8.toNat_ofNat_of_lt' (by change _ < 256; omega)
  have hunit : 256 * (c.toNat / 256) + c.toNat % 256 = c.toNat := by omega
  have hvalid : c.toNat.isValidChar := c.valid
  rw [writeUnit, List.cons_append, List.cons_append, List.nil_append, readUnits, hhigh, hlow,
    hunit, if_pos hvalid, Char.ofNat_toNat]

/-- Bytes are read as a text exactly where they are written for it, and the text has a place in
the basic plane. -/
theorem readUnits_eq_some_iff {bytes : List UInt8} {text : List Char} :
    readUnits bytes = some text ↔
      (∀ c ∈ text, c.toNat ≤ 0xFFFF) ∧ bytes = text.flatMap writeUnit := by
  constructor
  · intro h
    fun_induction readUnits bytes generalizing text with
    | case1 =>
      cases h
      exact ⟨by simp, rfl⟩
    | case2 => cases h
    | case3 high low rest hvalid ih =>
      obtain ⟨more, hmore, rfl⟩ := Option.map_eq_some_iff.mp h
      obtain ⟨hplane, hrest⟩ := ih hmore
      have hhigh := high.toNat_lt
      have hlow := low.toNat_lt
      have hquotient : (256 * high.toNat + low.toNat) / 256 = high.toNat := by omega
      have hremainder : (256 * high.toNat + low.toNat) % 256 = low.toNat := by omega
      have hunit : (Char.ofNat (256 * high.toNat + low.toNat)).toNat =
          256 * high.toNat + low.toNat := by rw [Char.toNat_ofNat, if_pos hvalid]
      refine ⟨List.forall_mem_cons.mpr ⟨by omega, hplane⟩, ?_⟩
      rw [List.flatMap_cons, writeUnit, hunit, hquotient, hremainder,
        UInt8.ofNat_toNat, UInt8.ofNat_toNat, ← hrest]
      rfl
    | case4 => cases h
  · rintro ⟨hplane, rfl⟩
    induction text with
    | nil => rfl
    | cons c text ih =>
      obtain ⟨hc, htext⟩ := List.forall_mem_cons.mp hplane
      rw [List.flatMap_cons, readUnits_writeUnit hc, ih htext]
      rfl

/-! ### Digits and texts -/

/-- The digits of a unit are those of its two bytes. -/
theorem hexUnit_eq {c : Char} (h : c.toNat ≤ 0xFFFF) :
    hexUnit c.toNat = (writeUnit c).flatMap writeByte := by
  have hhigh : (UInt8.ofNat (c.toNat / 256)).toNat = c.toNat / 256 :=
    UInt8.toNat_ofNat_of_lt' (by change _ < 256; omega)
  have hlow : (UInt8.ofNat (c.toNat % 256)).toNat = c.toNat % 256 :=
    UInt8.toNat_ofNat_of_lt' (by change _ < 256; omega)
  have hdigits : c.toNat / 4096 % 16 = c.toNat / 256 / 16 ∧
      c.toNat / 256 % 16 = c.toNat / 256 % 16 ∧
      c.toNat / 16 % 16 = c.toNat % 256 / 16 ∧ c.toNat % 16 = c.toNat % 256 % 16 := by omega
  simp only [writeUnit, writeByte, hexUnit, hhigh, hlow, hdigits, List.flatMap_cons,
    List.flatMap_nil, List.cons_append, List.nil_append]

theorem flatMap_hexUnit {text : List Char} (h : ∀ c ∈ text, c.toNat ≤ 0xFFFF) :
    (text.flatMap fun c => hexUnit c.toNat) = (text.flatMap writeUnit).flatMap writeByte := by
  induction text with
  | nil => rfl
  | cons c text ih =>
    obtain ⟨hc, htext⟩ := List.forall_mem_cons.mp h
    rw [List.flatMap_cons, List.flatMap_cons, List.flatMap_append, hexUnit_eq hc, ih htext]

theorem encode?_ucs2 (text : String) : encode? .ucs2 text =
    if InBasicPlane text then
      some (String.ofList (text.toList.flatMap fun c => hexUnit c.toNat)) else none := by
  have hplane : (text.toList.all (·.toNat ≤ 0xFFFF)) = true ↔ InBasicPlane text := by
    simp [InBasicPlane]
  simp only [encode?, hplane]

/-- A text can be written exactly where it has a place in the basic plane. -/
theorem isSome_encode?_ucs2 (text : String) :
    (encode? .ucs2 text).isSome = true ↔ InBasicPlane text := by
  rw [encode?_ucs2]
  split
  · next h => simp [h]
  · next h => simp [h]

/-- Digits are read as a text exactly where they are written for it. -/
theorem encode?_ucs2_eq_some_iff {text spelled : String} :
    encode? .ucs2 text = some spelled ↔ decodeUcs2? spelled = some text := by
  have hencode : encode? .ucs2 text = some spelled ↔
      InBasicPlane text ∧ spelled.toList = text.toList.flatMap fun c => hexUnit c.toNat := by
    rw [encode?_ucs2]
    split
    · next h =>
      rw [Option.some.injEq, and_iff_right h]
      constructor
      · rintro rfl
        exact String.toList_ofList
      · intro hspelled
        rw [← hspelled, String.ofList_toList]
    · next h => simp [h]
  have hdecode : decodeUcs2? spelled = some text ↔
      ∃ bytes, readBytes spelled.toList = some bytes ∧ readUnits bytes = some text.toList := by
    rw [decodeUcs2?, Option.map_eq_some_iff]
    constructor
    · rintro ⟨chars, hchars, rfl⟩
      rw [String.toList_ofList]
      exact Option.bind_eq_some_iff.mp hchars
    · intro h
      exact ⟨text.toList, Option.bind_eq_some_iff.mpr h, String.ofList_toList⟩
  rw [hencode, hdecode]
  constructor
  · rintro ⟨hplane, hspelled⟩
    refine ⟨_, readBytes_eq_some_iff.mpr ?_, readUnits_eq_some_iff.mpr ⟨hplane, rfl⟩⟩
    rw [hspelled, flatMap_hexUnit hplane]
  · rintro ⟨bytes, hbytes, hunits⟩
    obtain ⟨hplane, rfl⟩ := readUnits_eq_some_iff.mp hunits
    refine ⟨hplane, ?_⟩
    rw [readBytes_eq_some_iff.mp hbytes, flatMap_hexUnit hplane]

/-- No two texts are written alike. -/
theorem eq_of_encode?_ucs2 {text other spelled : String} (h : encode? .ucs2 text = some spelled)
    (hother : encode? .ucs2 other = some spelled) : text = other := by
  rw [encode?_ucs2_eq_some_iff] at h hother
  exact Option.some.inj (h.symm.trans hother)

/-- What is written are four digits for each character. -/
theorem of_encode?_ucs2 {text spelled : String} (h : encode? .ucs2 text = some spelled) :
    spelled.length = 4 * text.length ∧ ∀ c ∈ spelled.toList, ∃ n < 16, hexDigit n = c := by
  rw [encode?_ucs2] at h
  split at h
  · cases h
    constructor
    · rw [← String.length_toList, ← String.length_toList, String.toList_ofList]
      generalize text.toList = text
      induction text with
      | nil => rfl
      | cons c text ih =>
        rw [List.flatMap_cons, List.length_append, ih, List.length_cons]
        simp only [hexUnit, List.length_cons, List.length_nil]
        omega
    · intro c hc
      rw [String.toList_ofList] at hc
      obtain ⟨unit, -, hunit⟩ := List.mem_flatMap.mp hc
      simp only [hexUnit, List.mem_cons, List.not_mem_nil, or_false] at hunit
      rcases hunit with rfl | rfl | rfl | rfl <;> exact ⟨_, Nat.mod_lt _ (by decide), rfl⟩
  · cases h

/-- A text is written part by part. -/
theorem encode?_ucs2_append (text more : String) : encode? .ucs2 (text ++ more) =
    (encode? .ucs2 text).bind fun spelled => (encode? .ucs2 more).map (spelled ++ ·) := by
  have hplane : InBasicPlane (text ++ more) ↔ InBasicPlane text ∧ InBasicPlane more := by
    rw [InBasicPlane, String.toList_append, List.forall_mem_append, InBasicPlane, InBasicPlane]
  rw [encode?_ucs2, encode?_ucs2, encode?_ucs2]
  by_cases htext : InBasicPlane text
  · by_cases hmore : InBasicPlane more
    · rw [if_pos (hplane.mpr ⟨htext, hmore⟩), if_pos htext, if_pos hmore, String.toList_append,
        List.flatMap_append, String.ofList_append]
      rfl
    · rw [if_neg fun h => hmore (hplane.mp h).2, if_pos htext, if_neg hmore]
      rfl
  · rw [if_neg fun h => htext (hplane.mp h).1, if_neg htext]
    rfl

end ModemLink.Charset
