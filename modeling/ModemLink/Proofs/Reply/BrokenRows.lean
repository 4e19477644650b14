import ModemLink.Proofs.Reply.Spacing

/-!
# Rows that are refused

A row that spells no proper fields has a first field at which it breaks: one that opens a quote and
never closes it, or one with something other than a comma behind its closing quote. The fields in
front of it are proper, so that the row is refused at this field when it is read from the left. Any
row either spells proper fields or breaks. Nothing else is a reason to refuse it, and no reading
goes on forever.

Source: the specification, section 4.4.

## Main definitions

* `BreaksAtOnce`: a row whose first field is broken.
* `Breaks`: a row with a broken field behind proper ones.

## Main results

* `readField_eq_none_iff`, `readFields_eq_none_iff`, `splitFields_eq_none_iff`: the rows that are
  refused are those that break.
* `splitFields_inverts_spacing`: the rows that are split, into which fields, and those that are not.
-/

namespace ModemLink.Reply

open Text

/-- The first field of the row opens a quote and is broken: the quote is not closed, or something
other than a comma comes behind the closing one. -/
inductive BreaksAtOnce : List Char → Prop
  | unclosed {front inner : List Char} (front_blank : ∀ c ∈ front, isBlank c = true)
    (inner_open : '"' ∉ inner) : BreaksAtOnce (front ++ '"' :: inner)
  | trailing {front text back rest : List Char} {c : Char}
    (front_blank : ∀ c ∈ front, isBlank c = true) (text_closed : '"' ∉ text)
    (back_blank : ∀ c ∈ back, isBlank c = true) (not_blank : isBlank c = false)
    (not_comma : c ≠ ',') : BreaksAtOnce (front ++ '"' :: (text ++ '"' :: (back ++ c :: rest)))

/-- Read from the left, the row has a broken field behind proper ones. -/
inductive Breaks : List Char → Prop
  | here {row : List Char} (broken : BreaksAtOnce row) : Breaks row
  | later {f : Field} {padded row : List Char} (proper : f.IsProper)
    (print : Padded f.print padded) (rest : Breaks row) : Breaks (padded ++ ',' :: row)

variable {row : List Char} {fields : List Field}

/-! ### One field -/

theorem not_mem_of_dropWhile_ne {s : List Char} {d : Char} (h : s.dropWhile (· != d) = []) :
    d ∉ s := by
  intro hmem
  have hne := List.dropWhile_eq_nil_iff.mp h d hmem
  simp at hne

theorem BreaksAtOnce.readField_eq_none (h : BreaksAtOnce row) : readField row = none := by
  have hstart {front rest : List Char} (hfront : ∀ c ∈ front, isBlank c = true) :
      trimStart (front ++ '"' :: rest) = '"' :: rest := by
    rw [trimStart_blank_append hfront]
    exact trimStart_eq_self (by rintro c ⟨⟩; decide)
  cases h with
  | @unclosed front inner front_blank inner_open =>
    have hinner : inner.dropWhile (· != '"') = [] := by
      have hall : (inner ++ []).dropWhile (· != '"') = [] :=
        dropWhile_ne_append inner_open (by simp)
      rwa [List.append_nil] at hall
    rw [readField.eq_def, hstart front_blank]
    simp only [hinner]
  | @trailing front text back rest c front_blank text_closed back_blank not_blank not_comma =>
    have hquote : (text ++ '"' :: (back ++ c :: rest)).dropWhile (· != '"') =
        '"' :: (back ++ c :: rest) :=
      dropWhile_ne_append text_closed (by rintro d ⟨⟩; rfl)
    have hback : trimStart (back ++ c :: rest) = c :: rest := by
      rw [trimStart_blank_append back_blank]
      exact trimStart_eq_self (by rintro d ⟨⟩; exact not_blank)
    rw [readField.eq_def, hstart front_blank]
    simp only [hquote, hback, if_neg not_comma]

theorem breaksAtOnce_of_readField (h : readField row = none) : BreaksAtOnce row := by
  rw [readField.eq_def] at h
  split at h
  · next inner hrow =>
    have hsplit : row = row.takeWhile isBlank ++ '"' :: inner := by
      rw [← hrow]
      exact List.takeWhile_append_dropWhile.symm
    have hfront : ∀ c ∈ row.takeWhile isBlank, isBlank c = true :=
      List.all_eq_true.mp List.all_takeWhile
    rw [hsplit]
    split at h
    · next hinner => exact .unclosed hfront (not_mem_of_dropWhile_ne hinner)
    · next d after hinner =>
      obtain rfl := eq_of_dropWhile_ne hinner
      split at h
      · cases h
      · next c rest hafter =>
        split at h
        · cases h
        · next hcomma =>
          have htext : inner = inner.takeWhile (· != '"') ++ '"' :: after := by
            rw [← hinner]
            exact List.takeWhile_append_dropWhile.symm
          have hback : after = after.takeWhile isBlank ++ c :: rest := by
            rw [← hafter]
            exact List.takeWhile_append_dropWhile.symm
          have hblank : isBlank c = false := head?_trimStart after c (by rw [hafter]; rfl)
          rw [htext, hback]
          exact .trailing hfront (not_mem_takeWhile_ne inner '"')
            (List.all_eq_true.mp List.all_takeWhile) hblank hcomma
  · split at h
    · cases h
    · cases h

/-- A field is refused exactly where the row breaks at it. -/
theorem readField_eq_none_iff : readField row = none ↔ BreaksAtOnce row :=
  ⟨breaksAtOnce_of_readField, BreaksAtOnce.readField_eq_none⟩

/-! ### A row of fields -/

theorem readFields_of_none (h : readField row = none) : readFields row = none := by
  rw [readFields]
  split
  · rfl
  · next hlast => cases hlast.symm.trans h
  · next hnext => cases hnext.symm.trans h

theorem Breaks.readFields_eq_none (h : Breaks row) : readFields row = none := by
  induction h with
  | here broken => exact readFields_of_none (readField_eq_none_iff.mpr broken)
  | @later f padded row proper print rest ih =>
    have hread : readField (padded ++ ',' :: row) = some (f, some row) :=
      readField_eq_some_iff.mpr ⟨proper, padded, print, rfl⟩
    rw [readFields_of_next hread, ih]
    rfl

theorem breaks_of_readFields (h : readFields row = none) : Breaks row := by
  fun_induction readFields row with
  | case1 row hnone => exact .here (readField_eq_none_iff.mp hnone)
  | case2 => cases h
  | case3 row f next hnext hlt ih =>
    obtain ⟨hproper, padded, hpadded, rfl⟩ := of_readField hnext
    exact .later hproper hpadded (ih (Option.map_eq_none_iff.mp h))

/-- A row is refused exactly where it breaks. -/
theorem readFields_eq_none_iff : readFields row = none ↔ Breaks row :=
  ⟨breaks_of_readFields, Breaks.readFields_eq_none⟩

theorem splitFields_eq_none_iff : splitFields row = none ↔ Breaks row := by
  rw [← readFields_eq_none_iff, ← Option.not_isSome_iff_eq_none, ← Option.not_isSome_iff_eq_none,
    isSome_splitFields]

/-- A row spells proper fields, or it breaks. -/
theorem spaced_iff_not_breaks :
    (∃ fields, (∀ f ∈ fields, f.IsProper) ∧ Spaced fields row) ↔ ¬ Breaks row := by
  rw [← readFields_eq_none_iff, ← ne_eq, Option.ne_none_iff_exists']
  simp only [readFields_eq_some_iff]

/-! ### What becomes of a row -/

/-- Splitting undoes the writing of fields between commas, whatever white space is around each of
them: a row that spells proper fields is split into these, unless it spells one bare field without
text. On every row the splitting ends, for the row spells proper fields or it breaks. What it
returns are proper fields, none of them exactly for a blank row, and it refuses the rows that
break. -/
theorem splitFields_inverts_spacing (row : List Char) :
    (∀ fields, (∀ f ∈ fields, f.IsProper) → fields ≠ [.bare []] → Spaced fields row →
      splitFields row = some fields) ∧
    ((∃ fields, (∀ f ∈ fields, f.IsProper) ∧ Spaced fields row) ↔ ¬ Breaks row) ∧
    (∀ fields, splitFields row = some fields →
      (∀ f ∈ fields, f.IsProper) ∧ (fields = [] ↔ trim row = [])) ∧
    (splitFields row = none ↔ Breaks row) := by
  refine ⟨fun fields hproper hne hspaced => hspaced.splitFields_eq hproper hne,
    spaced_iff_not_breaks, fun fields hsplit => ?_, splitFields_eq_none_iff⟩
  refine ⟨fun f hf => (of_mem_splitFields hsplit hf).1, ?_⟩
  rw [splitFields_eq_some_iff] at hsplit
  split at hsplit
  · next hblank => exact iff_of_true hsplit hblank
  · next hblank =>
    refine iff_of_false ?_ hblank
    rintro rfl
    cases hsplit.2

/-- A comma between quotes does not split, a comma at the end brings an empty field, and what
stands behind a closing quote breaks a row. -/
theorem splitFields_inverts_spacing_quotedComma :
    let fields : List Field := [.bare ['1'], .quoted ['a', ',', 'b'], .bare []]
    (∀ f ∈ fields, f.IsProper) ∧ Spaced fields " 1, \"a,b\" ,".toList ∧
      splitFields " 1, \"a,b\" ,".toList = some fields ∧
      Breaks "1,\"a\" b".toList ∧ splitFields "1,\"a\" b".toList = none := by
  intro fields
  have hone : (Field.bare ['1']).IsProper := ⟨by decide, by decide, by decide⟩
  have hproper : ∀ f ∈ fields, f.IsProper := by
    rw [List.forall_mem_cons, List.forall_mem_cons, List.forall_mem_singleton]
    exact ⟨hone, by unfold Field.IsProper; decide, by decide, by decide, by decide⟩
  have hspace : ∀ c ∈ [' '], isBlank c = true := List.forall_mem_singleton.mpr (by decide)
  have hfront : Padded (Field.bare ['1']).print [' ', '1'] := ⟨[' '], [], hspace, by simp, rfl⟩
  have hquoted : Padded (Field.quoted ['a', ',', 'b']).print [' ', '"', 'a', ',', 'b', '"', ' '] :=
    ⟨[' '], [' '], hspace, hspace, rfl⟩
  have hspaced : Spaced fields " 1, \"a,b\" ,".toList :=
    .next hfront (.next hquoted (.last (padded_self [])))
  have hbehind : BreaksAtOnce ([] ++ '"' :: (['a'] ++ '"' :: ([' '] ++ 'b' :: []))) :=
    .trailing (by simp) (by decide) hspace (by decide) (by decide)
  have hbroken : Breaks "1,\"a\" b".toList := .later hone (padded_self ['1']) (.here hbehind)
  obtain ⟨hsplit, -, -, -⟩ := splitFields_inverts_spacing " 1, \"a,b\" ,".toList
  obtain ⟨-, -, -, hrefused⟩ := splitFields_inverts_spacing "1,\"a\" b".toList
  exact ⟨hproper, hspaced, hsplit fields hproper (by decide) hspaced, hbroken,
    hrefused.mpr hbroken⟩

end ModemLink.Reply
