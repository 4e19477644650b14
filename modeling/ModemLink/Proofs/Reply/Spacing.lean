import ModemLink.Proofs.Text.Lines
import ModemLink.Reply.Field

/-!
# Rows of fields, with white space in between

A row spells fields when these stand between its commas, each with white space on both sides of it
or with none. Which fields a row has is then a matter of how it is spelled, and nothing of the
reading is needed to tell: the reading gives fields exactly where the row spells them, and each of
them is one that can be told from the commas, the quotes and the white space around it. A blank row
spells one bare field without text, but counts as a row without fields.

## Main definitions

* `Field.print`: a field as it is written.
* `Field.IsProper`: a field that cannot be mistaken for another one.
* `Padded`, `Spaced`: a text with white space around it, and a row that spells fields.

## Main results

* `readField_eq_some_iff`, `readFields_eq_some_iff`: a row is read as the fields that it spells.
* `splitFields_eq_some_iff`: a row is split into the fields that it spells, or it is blank.
-/

namespace ModemLink.Reply

open Text

/-- A field as it is written. -/
def Field.print : Field → List Char
  | bare text => text
  | quoted text => '"' :: (text ++ ['"'])

/-- No part of the field can be mistaken for what stands around it: a bare one is without white
space at its ends, without a comma and without a quote in front, and a quoted one without quotes. -/
def Field.IsProper : Field → Prop
  | bare text => trim text = text ∧ ',' ∉ text ∧ text.head? ≠ some '"'
  | quoted text => '"' ∉ text

/-- A text with any white space in front of it and behind it. -/
def Padded (text padded : List Char) : Prop :=
  ∃ front back, (∀ c ∈ front, isBlank c = true) ∧ (∀ c ∈ back, isBlank c = true) ∧
    padded = front ++ (text ++ back)

/-- The row spells the fields: they stand between its commas, with any white space around each. -/
inductive Spaced : List Field → List Char → Prop
  | last {f : Field} {padded : List Char} (print : Padded f.print padded) : Spaced [f] padded
  | next {f : Field} {padded row : List Char} {fields : List Field}
    (print : Padded f.print padded) (rest : Spaced fields row) :
    Spaced (f :: fields) (padded ++ ',' :: row)

variable {text padded blank row : List Char} {f : Field} {fields : List Field}

/-! ### White space around a text -/

theorem padded_takeWhile_trimEnd (s text : List Char) :
    Padded (trimEnd text) (s.takeWhile isBlank ++ text) := by
  refine ⟨s.takeWhile isBlank, (text.reverse.takeWhile isBlank).reverse,
    List.all_eq_true.mp List.all_takeWhile, fun c hc => ?_, ?_⟩
  · exact List.all_eq_true.mp List.all_takeWhile c (List.mem_reverse.mp hc)
  · rw [trimEnd, ← List.reverse_append, List.takeWhile_append_dropWhile, List.reverse_reverse]

theorem padded_self (text : List Char) : Padded text text :=
  ⟨[], [], by simp, by simp, by simp⟩

/-- A text is what is left of it with the white space around it. -/
theorem padded_trim (s : List Char) : Padded (trim s) s := by
  have hpadded := padded_takeWhile_trimEnd s (trimStart s)
  rwa [trimStart, List.takeWhile_append_dropWhile] at hpadded

theorem trim_of_padded (h : Padded text padded) : trim padded = trim text := by
  obtain ⟨front, back, hfront, hback, rfl⟩ := h
  rw [← trim_trimStart, trimStart_blank_append hfront, trim_trimStart, ← trim_trimEnd,
    trimEnd_append_blank hback, trim_trimEnd]

theorem padded_iff (h : trim text = text) : Padded text padded ↔ trim padded = text := by
  constructor
  · exact fun hpadded => (trim_of_padded hpadded).trans h
  · rintro rfl
    exact padded_trim padded

theorem Padded.blank_append (h : Padded text padded) (hblank : ∀ c ∈ blank, isBlank c = true) :
    Padded text (blank ++ padded) := by
  obtain ⟨front, back, hfront, hback, rfl⟩ := h
  exact ⟨blank ++ front, back, List.forall_mem_append.mpr ⟨hblank, hfront⟩, hback,
    (List.append_assoc ..).symm⟩

theorem Padded.append_blank (h : Padded text padded) (hblank : ∀ c ∈ blank, isBlank c = true) :
    Padded text (padded ++ blank) := by
  obtain ⟨front, back, hfront, hback, rfl⟩ := h
  exact ⟨front, back ++ blank, hfront, List.forall_mem_append.mpr ⟨hback, hblank⟩, by simp⟩

/-- White space around a text brings no other character into it. -/
theorem Padded.not_mem {c : Char} (h : Padded text padded) (hc : isBlank c = false)
    (htext : c ∉ text) : c ∉ padded := by
  obtain ⟨front, back, hfront, hback, rfl⟩ := h
  have hblank {s : List Char} (hs : ∀ d ∈ s, isBlank d = true) : c ∉ s := fun hmem => by
    rw [hs c hmem] at hc
    cases hc
  rw [List.mem_append, List.mem_append, not_or, not_or]
  exact ⟨hblank hfront, htext, hblank hback⟩

/-! ### Proper fields -/

/-- A proper field is written without white space around it. -/
theorem Field.IsProper.trim_print (h : f.IsProper) : trim f.print = f.print := by
  cases f with
  | bare text => exact h.1
  | quoted text =>
    have hend : trimEnd (text ++ ['"']) = text ++ ['"'] := trimEnd_append_cons text [] (by decide)
    rw [Field.print, trim, trimStart_eq_self (by rintro c ⟨⟩; decide), trimEnd_cons _ (by decide),
      hend]

/-! ### One field -/

/-- What stands behind a field in its row: nothing, or a comma and the rest of the row. -/
def behind (next : Option (List Char)) : List Char :=
  next.elim [] (',' :: ·)

theorem head?_behind (next : Option (List Char)) : ∀ c ∈ (behind next).head?, c = ',' := by
  cases next with
  | none => simp [behind]
  | some next => simp [behind]

theorem readField_bare (h : (Field.bare text).IsProper) (hpadded : Padded text padded)
    (next : Option (List Char)) :
    readField (padded ++ behind next) = some (.bare text, next) := by
  obtain ⟨htrim, hcomma, hquote⟩ := h
  obtain ⟨front, back, hfront, hback, rfl⟩ := hpadded
  have hnext : ∀ c ∈ (behind next).head?, isBlank c = false := by
    intro c hc
    rw [head?_behind next c hc]
    decide
  have hstart : trimStart (front ++ (text ++ back) ++ behind next) =
      trimStart (text ++ back) ++ behind next := by
    rw [List.append_assoc, trimStart_blank_append hfront, trimStart_append _ hnext]
  have hend : trimEnd (trimStart (text ++ back)) = text := by
    rw [← trim, ← trim_trimEnd, trimEnd_append_blank hback, trim_trimEnd, htrim]
  have hcommas : ',' ∉ trimStart (text ++ back) := by
    have hpadded : Padded text (text ++ back) := ⟨[], back, by simp, hback, by simp⟩
    exact fun hmem => hpadded.not_mem (by decide) hcomma ((List.dropWhile_sublist _).mem hmem)
  -- The first character of the text is no quote, and a row without text goes on with a comma.
  have hhead : ∀ inner, trimStart (text ++ back) ++ behind next ≠ '"' :: inner := by
    intro inner heq
    cases htext : text with
    | nil =>
      rw [htext, List.nil_append, trimStart_of_blank hback, List.nil_append] at heq
      exact absurd (head?_behind next '"' (by rw [heq]; rfl)) (by decide)
    | cons c t =>
      have hc : isBlank c = false := head?_trim text c (by rw [htrim, htext]; rfl)
      rw [htext, List.cons_append, trimStart_eq_self (by rintro d ⟨⟩; exact hc)] at heq
      obtain rfl := (List.cons.inj heq).1
      exact hquote (by rw [htext]; rfl)
  rw [readField.eq_def, hstart]
  split
  · next inner heq => exact absurd heq (hhead inner)
  · rw [takeWhile_ne_append hcommas (head?_behind next),
      dropWhile_ne_append hcommas (head?_behind next), hend]
    cases next with
    | none => rfl
    | some next => rfl

theorem readField_quoted (h : '"' ∉ text) (hpadded : Padded (Field.quoted text).print padded)
    (next : Option (List Char)) :
    readField (padded ++ behind next) = some (.quoted text, next) := by
  obtain ⟨front, back, hfront, hback, rfl⟩ := hpadded
  have hstart : trimStart (front ++ ((Field.quoted text).print ++ back) ++ behind next) =
      '"' :: (text ++ '"' :: (back ++ behind next)) := by
    rw [List.append_assoc, trimStart_blank_append hfront, Field.print, List.cons_append,
      List.cons_append, List.append_assoc, List.append_assoc, List.singleton_append]
    exact trimStart_eq_self (by rintro c ⟨⟩; decide)
  have hafter : trimStart (back ++ behind next) = behind next := by
    rw [trimStart_blank_append hback]
    refine trimStart_eq_self fun c hc => ?_
    rw [head?_behind next c hc]
    decide
  have hstop : ∀ c ∈ ('"' :: (back ++ behind next)).head?, c = '"' := by
    rintro c ⟨⟩
    rfl
  rw [readField.eq_def, hstart]
  simp only [takeWhile_ne_append h hstop, dropWhile_ne_append h hstop, hafter]
  cases next with
  | none => rfl
  | some next => rfl

/-- A bare field is what stands in front of a comma, without the white space around it. -/
theorem isProper_bare (hquote : ∀ inner, trimStart row ≠ '"' :: inner) :
    (Field.bare (trimEnd ((trimStart row).takeWhile (· != ',')))).IsProper := by
  have hend : trimEnd ((trimStart row).takeWhile (· != ',')) <+:
      (trimStart row).takeWhile (· != ',') := by
    refine List.reverse_suffix.mp ?_
    rw [trimEnd, List.reverse_reverse]
    exact List.dropWhile_suffix _
  have hhead {s : List Char} {c : Char} (hs : s <+: trimStart row) (hc : s.head? = some c) :
      (trimStart row).head? = some c := by
    obtain ⟨rest, hrest⟩ := hs
    rw [← hrest, List.head?_append, hc]
    rfl
  have hcut : (trimStart row).takeWhile (· != ',') <+: trimStart row := List.takeWhile_prefix _
  refine ⟨?_, fun hmem => not_mem_takeWhile_ne _ _ (hend.subset hmem), fun hc => ?_⟩
  · have hstart : trimStart ((trimStart row).takeWhile (· != ',')) =
        (trimStart row).takeWhile (· != ',') :=
      trimStart_eq_self fun c hc => head?_trimStart row c (hhead hcut hc)
    rw [trim_trimEnd, trim, hstart]
  · obtain ⟨inner, hinner⟩ := List.head?_eq_some_iff.mp (hhead (hend.trans hcut) hc)
    exact hquote inner hinner

theorem padded_bare {rest : List Char} (hrest : (trimStart row).dropWhile (· != ',') = rest) :
    ∃ padded, Padded (trimEnd ((trimStart row).takeWhile (· != ','))) padded ∧
      row = padded ++ rest := by
  refine ⟨_, padded_takeWhile_trimEnd row _, ?_⟩
  rw [List.append_assoc, ← hrest, List.takeWhile_append_dropWhile]
  exact List.takeWhile_append_dropWhile.symm

/-- A quoted field ends at the next quote, with nothing but white space up to what follows. -/
theorem padded_quoted {inner after rest : List Char} (hrow : trimStart row = '"' :: inner)
    (hinner : inner.dropWhile (· != '"') = '"' :: after) (hafter : trimStart after = rest) :
    ∃ padded, Padded (Field.quoted (inner.takeWhile (· != '"'))).print padded ∧
      row = padded ++ rest := by
  refine ⟨row.takeWhile isBlank ++
    ((Field.quoted (inner.takeWhile (· != '"'))).print ++ after.takeWhile isBlank),
    ⟨_, _, List.all_eq_true.mp List.all_takeWhile, List.all_eq_true.mp List.all_takeWhile, rfl⟩, ?_⟩
  have hsplit : after.takeWhile isBlank ++ rest = after := by
    rw [← hafter]
    exact List.takeWhile_append_dropWhile
  have hfield : (Field.quoted (inner.takeWhile (· != '"'))).print ++ after = trimStart row := by
    rw [hrow, Field.print]
    simp [← hinner]
  rw [List.append_assoc, List.append_assoc, hsplit, hfield]
  exact List.takeWhile_append_dropWhile.symm

/-- What is read of a row is a field that the row spells in front of what follows. -/
theorem of_readField {next : Option (List Char)} (h : readField row = some (f, next)) :
    f.IsProper ∧ ∃ padded, Padded f.print padded ∧ row = padded ++ behind next := by
  rw [readField.eq_def] at h
  split at h
  · next inner hrow =>
    have hproper : (Field.quoted (inner.takeWhile (· != '"'))).IsProper :=
      not_mem_takeWhile_ne inner '"'
    split at h
    · cases h
    · next d after hinner =>
      obtain rfl := eq_of_dropWhile_ne hinner
      split at h
      · next hafter =>
        cases h
        exact ⟨hproper, padded_quoted hrow hinner hafter⟩
      · next c rest hafter =>
        split at h
        · next hc =>
          cases h
          rw [hc] at hafter
          exact ⟨hproper, padded_quoted hrow hinner hafter⟩
        · cases h
  · next hquote =>
    split at h
    · next hrest =>
      cases h
      exact ⟨isProper_bare hquote, padded_bare hrest⟩
    · next d rest hrest =>
      obtain rfl := eq_of_dropWhile_ne hrest
      cases h
      exact ⟨isProper_bare hquote, padded_bare hrest⟩

/-- A field is read exactly where a row spells it, in front of its end or of a comma. -/
theorem readField_eq_some_iff {next : Option (List Char)} : readField row = some (f, next) ↔
    f.IsProper ∧ ∃ padded, Padded f.print padded ∧ row = padded ++ behind next := by
  constructor
  · exact of_readField
  · rintro ⟨hproper, padded, hpadded, rfl⟩
    cases f with
    | bare text => exact readField_bare hproper hpadded next
    | quoted text => exact readField_quoted hproper hpadded next

/-! ### A row of fields -/

theorem readFields_of_last (h : readField row = some (f, none)) : readFields row = some [f] := by
  rw [readFields]
  split
  · next hnone => cases hnone.symm.trans h
  · next hlast =>
    cases hlast.symm.trans h
    rfl
  · next hnext => cases hnext.symm.trans h

theorem readFields_of_next {next : List Char} (h : readField row = some (f, some next)) :
    readFields row = (readFields next).map (f :: ·) := by
  rw [readFields]
  split
  · next hnone => cases hnone.symm.trans h
  · next hlast => cases hlast.symm.trans h
  · next hnext =>
    cases hnext.symm.trans h
    rfl

/-- A row is read as the fields that it spells, if they are proper, and as no others. -/
theorem readFields_eq_some_iff :
    readFields row = some fields ↔ (∀ f ∈ fields, f.IsProper) ∧ Spaced fields row := by
  constructor
  · intro h
    fun_induction readFields row generalizing fields with
    | case1 row hnone => cases h
    | case2 row f hlast =>
      obtain ⟨hproper, padded, hpadded, rfl⟩ := of_readField hlast
      cases h
      rw [behind, Option.elim, List.append_nil]
      exact ⟨List.forall_mem_singleton.mpr hproper, .last hpadded⟩
    | case3 row f next hnext hlt ih =>
      obtain ⟨hproper, padded, hpadded, rfl⟩ := of_readField hnext
      obtain ⟨others, hothers, rfl⟩ := Option.map_eq_some_iff.mp h
      obtain ⟨hrest, hspaced⟩ := ih hothers
      exact ⟨List.forall_mem_cons.mpr ⟨hproper, hrest⟩, .next hpadded hspaced⟩
  · rintro ⟨hproper, hspaced⟩
    induction hspaced with
    | @last f padded hpadded =>
      refine readFields_of_last
        (readField_eq_some_iff.mpr ⟨hproper f (by simp), padded, hpadded, ?_⟩)
      exact (List.append_nil padded).symm
    | @next f padded row fields hpadded hrest ih =>
      obtain ⟨hf, hfields⟩ := List.forall_mem_cons.mp hproper
      have hread : readField (padded ++ ',' :: row) = some (f, some row) :=
        readField_eq_some_iff.mpr ⟨hf, padded, hpadded, rfl⟩
      rw [readFields_of_next hread, ih hfields]
      rfl

/-- What a row spells stands in it. -/
theorem Spaced.mem_of_mem_print {c : Char} (h : Spaced fields row) (hf : f ∈ fields)
    (hc : c ∈ f.print) : c ∈ row := by
  have hpadded {padded : List Char} (hprint : Padded f.print padded) : c ∈ padded := by
    obtain ⟨front, back, -, -, rfl⟩ := hprint
    exact List.mem_append_right _ (List.mem_append_left _ hc)
  induction h with
  | last print =>
    obtain rfl := List.mem_singleton.mp hf
    exact hpadded print
  | next print rest ih =>
    rcases List.mem_cons.mp hf with rfl | hf
    · exact List.mem_append_left _ (hpadded print)
    · exact List.mem_append_right _ (List.mem_cons_of_mem _ (ih hf))

/-! ### White space around a row -/

theorem Spaced.blank_append (h : Spaced fields row) (hblank : ∀ c ∈ blank, isBlank c = true) :
    Spaced fields (blank ++ row) := by
  cases h with
  | last print => exact .last (print.blank_append hblank)
  | next print rest =>
    rw [← List.append_assoc]
    exact .next (print.blank_append hblank) rest

theorem Spaced.append_blank (h : Spaced fields row) (hblank : ∀ c ∈ blank, isBlank c = true) :
    Spaced fields (row ++ blank) := by
  induction h with
  | last print => exact .last (print.append_blank hblank)
  | next print rest ih =>
    rw [List.append_assoc, List.cons_append]
    exact .next print ih

theorem Spaced.trimStart (h : Spaced fields row) (hproper : ∀ f ∈ fields, f.IsProper) :
    Spaced fields (Text.trimStart row) := by
  cases h with
  | @last f padded print =>
    have htrim := (hproper f (by simp)).trim_print
    refine .last ((padded_iff htrim).mpr ?_)
    rw [trim_trimStart, (padded_iff htrim).mp print]
  | @next f padded row fields print rest =>
    have htrim := (hproper f (by simp)).trim_print
    rw [trimStart_append padded (by rintro c ⟨⟩; decide)]
    refine .next ((padded_iff htrim).mpr ?_) rest
    rw [trim_trimStart, (padded_iff htrim).mp print]

theorem Spaced.trimEnd (h : Spaced fields row) (hproper : ∀ f ∈ fields, f.IsProper) :
    Spaced fields (Text.trimEnd row) := by
  induction h with
  | @last f padded print =>
    have htrim := (hproper f (by simp)).trim_print
    refine .last ((padded_iff htrim).mpr ?_)
    rw [trim_trimEnd, (padded_iff htrim).mp print]
  | @next f padded row fields print rest ih =>
    rw [trimEnd_append_cons padded row (by decide)]
    exact .next print (ih fun f hf => hproper f (List.mem_cons_of_mem _ hf))

/-- White space around a row makes no difference to what it spells. -/
theorem spaced_trim_iff (hproper : ∀ f ∈ fields, f.IsProper) :
    Spaced fields (trim row) ↔ Spaced fields row := by
  constructor
  · intro h
    obtain ⟨front, back, hfront, hback, hrow⟩ := padded_trim row
    rw [hrow]
    exact (h.append_blank hback).blank_append hfront
  · exact fun h => (h.trimStart hproper).trimEnd hproper

theorem readFields_trim (row : List Char) : readFields (trim row) = readFields row := by
  refine Option.ext fun fields => ?_
  rw [readFields_eq_some_iff, readFields_eq_some_iff]
  exact and_congr_right spaced_trim_iff

theorem readFields_trimEnd (row : List Char) : readFields (trimEnd row) = readFields row := by
  rw [← readFields_trim, trim_trimEnd, readFields_trim]

/-- A row can be split exactly where its fields can be read. -/
theorem isSome_splitFields (row : List Char) :
    (splitFields row).isSome = (readFields row).isSome := by
  rw [splitFields.eq_def]
  split
  · next hblank =>
    have hempty : readFields [] = some [.bare []] := readFields_of_last rfl
    rw [← readFields_trim, hblank, hempty]
    rfl
  · rw [readFields_trim]

/-- A row is split into the fields that it spells, if they are proper, and into no others. A blank
row has no field, though it spells one without text. -/
theorem splitFields_eq_some_iff : splitFields row = some fields ↔
    if trim row = [] then fields = [] else (∀ f ∈ fields, f.IsProper) ∧ Spaced fields row := by
  rw [splitFields.eq_def]
  split
  · next hblank => rw [if_pos hblank, Option.some.injEq, eq_comm]
  · next hrow => rw [if_neg hrow, readFields_trim, readFields_eq_some_iff]

/-- A row that spells anything but a bare field without text is not blank. -/
theorem Spaced.trim_ne_nil (h : Spaced fields row) (hproper : ∀ f ∈ fields, f.IsProper)
    (hne : fields ≠ [.bare []]) : trim row ≠ [] := by
  intro hblank
  have hempty : readFields [] = some [.bare []] := readFields_of_last rfl
  have hread := readFields_eq_some_iff.mpr ⟨hproper, (spaced_trim_iff hproper).mpr h⟩
  rw [hblank, hempty] at hread
  exact hne (Option.some.inj hread).symm

/-- Fields with white space around them are split apart again. -/
theorem Spaced.splitFields_eq (h : Spaced fields row) (hproper : ∀ f ∈ fields, f.IsProper)
    (hne : fields ≠ [.bare []]) : splitFields row = some fields := by
  rw [splitFields_eq_some_iff, if_neg (h.trim_ne_nil hproper hne)]
  exact ⟨hproper, h⟩

/-- Every field that is split off is proper, and stands in the row. -/
theorem of_mem_splitFields (h : splitFields row = some fields) (hf : f ∈ fields) :
    f.IsProper ∧ ∀ c ∈ f.print, c ∈ row := by
  rw [splitFields_eq_some_iff] at h
  split at h
  · rw [h] at hf
    cases hf
  · exact ⟨h.1 f hf, fun c => h.2.mem_of_mem_print hf⟩

end ModemLink.Reply
