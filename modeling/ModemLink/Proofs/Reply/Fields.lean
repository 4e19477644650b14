import ModemLink.Proofs.Reply.Spacing
import ModemLink.Proofs.Text.Numbers

/-!
# Printed fields

Fields that are printed between commas are read back: a quoted field whatever it holds but a
quote, and a bare one that holds neither white space nor a comma or a quote, such as a number.

## Main definitions

* `printFields`: fields as a modem writes them.
* `Field.IsPlain`: a field that can be read back.

## Main results

* `Reply.splitFields_printFields`: printed fields are read back.
-/

namespace ModemLink.Reply

open Text

/-- The field can be told from what stands around it. -/
def Field.IsPlain : Field → Prop
  | bare text => text ≠ [] ∧ ∀ c ∈ text, isBlank c = false ∧ c ≠ ',' ∧ c ≠ '"'
  | quoted text => '"' ∉ text

/-- Fields as they are written, with commas in between. -/
def printFields (fields : List Field) : List Char :=
  List.intercalate [','] (fields.map Field.print)

theorem printFields_singleton (f : Field) : printFields [f] = f.print :=
  List.intercalate_singleton ..

theorem printFields_cons_cons (f f' : Field) (fields : List Field) :
    printFields (f :: f' :: fields) = f.print ++ ',' :: printFields (f' :: fields) := by
  simp [printFields, List.intercalate_cons_cons]

/-- Digits are a plain field, and so they are with a sign. -/
theorem isPlain_of_plus_or_isDigit {text : List Char} (hne : text ≠ [])
    (h : ∀ c ∈ text, c = '+' ∨ c.isDigit = true) : (Field.bare text).IsPlain := by
  refine ⟨hne, fun c hc => ?_⟩
  rcases h c hc with rfl | hdigit
  · decide
  · refine ⟨isBlank_of_isDigit hdigit, ?_, ?_⟩
    · rintro rfl
      exact absurd hdigit (by decide)
    · rintro rfl
      exact absurd hdigit (by decide)

theorem isPlain_of_isDigit {text : List Char} (hne : text ≠ [])
    (h : ∀ c ∈ text, c.isDigit = true) : (Field.bare text).IsPlain :=
  isPlain_of_plus_or_isDigit hne fun c hc => .inr (h c hc)

/-- A printed number is a plain field. -/
theorem isPlain_number (n : UInt32) : (Field.bare (toString n).toList).IsPlain :=
  isPlain_of_isDigit (toString_ne_nil n) (isDigit_toString n)

/-- A text that spells a number can be told from what stands around it. -/
theorem isPlain_of_number? {s : List Char} {n : UInt32} (h : number? s = some n) :
    (Field.bare s).IsPlain := by
  obtain ⟨hne, hchars⟩ := (number?_eq_some_iff.mp h).plus_or_isDigit
  exact isPlain_of_plus_or_isDigit hne hchars

variable {f : Field} {fields : List Field}

/-- Nothing in a plain field is white space, and it holds no comma and no quote but its own. -/
theorem Field.IsPlain.isProper (h : f.IsPlain) : f.IsProper := by
  cases f with
  | bare text =>
    refine ⟨?_, fun hmem => (h.2 _ hmem).2.1 rfl, fun hhead => ?_⟩
    · rw [trim, trimStart_eq_self fun c hc => (h.2 c (List.mem_of_mem_head? hc)).1,
        trimEnd_eq_self fun c hc => (h.2 c (List.mem_of_getLast? hc)).1]
    · exact (h.2 _ (List.mem_of_mem_head? hhead)).2.2 rfl
  | quoted text => exact h

/-- Printed fields have no white space between them. -/
theorem spaced_printFields (f : Field) (fields : List Field) :
    Spaced (f :: fields) (printFields (f :: fields)) := by
  induction fields generalizing f with
  | nil =>
    rw [printFields_singleton]
    exact .last (padded_self f.print)
  | cons f' fields ih =>
    rw [printFields_cons_cons]
    exact .next (padded_self f.print) (ih f')

/-- Printed fields have no white space around them. -/
theorem trim_printFields (h : ∀ f ∈ fields, f.IsPlain) :
    trim (printFields fields) = printFields fields := by
  cases fields with
  | nil => rfl
  | cons f fields =>
    induction fields generalizing f with
    | nil =>
      rw [printFields_singleton]
      exact (h f (List.mem_singleton.mpr rfl)).isProper.trim_print
    | cons f' fields ih =>
      obtain ⟨hf, hfields⟩ := List.forall_mem_cons.mp h
      rw [printFields_cons_cons, trim_append_cons _ _ (by decide),
        trimStart_of_trim hf.isProper.trim_print, trimEnd_of_trim (ih f' hfields)]

/-- Printed fields are read back. -/
theorem splitFields_printFields (h : ∀ f ∈ fields, f.IsPlain) :
    splitFields (printFields fields) = some fields := by
  cases fields with
  | nil => rfl
  | cons f fields =>
    refine (spaced_printFields f fields).splitFields_eq (fun f hf => (h f hf).isProper) ?_
    rintro ⟨⟩
    exact (h (.bare []) (List.mem_singleton.mpr rfl)).1 rfl

end ModemLink.Reply
