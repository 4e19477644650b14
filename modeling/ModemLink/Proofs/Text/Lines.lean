import Mathlib.Data.List.DropRight
import ModemLink.Port.Intake
import ModemLink.Reply.Record

/-!
# Lines of a text

What a port reads is a list of trimmed lines, and what it hands on is one text in which they are
joined. A reply is cut into lines again. Nothing is lost on the way: the lines of the reply are
the lines that the port has read, because no line holds a line feed, none is blank, and trimming
takes away nothing but the carriage returns that join them.

## Main results

* `Text.trim_trim`, `Text.trim_concat`, `Text.trim_cons`: what trimming takes away.
* `Text.trimStart_trimEnd`: the ends are trimmed in either order.
* `Text.lineFeed_not_mem_of_mem_lines`: the lines of a text hold no line feed.
* `lineFeed_not_mem_lineOf`: a line of bytes without a line feed spells a text without one.
* `Reply.textLines_intercalate`: the lines of lines joined are these lines.
-/

namespace ModemLink

namespace Text

/-! ### White space at the ends -/

theorem trimStart_eq_self {s : List Char} (h : ∀ c ∈ s.head?, isBlank c = false) :
    trimStart s = s := by
  cases s with
  | nil => rfl
  | cons c s => rw [trimStart, List.dropWhile_cons, if_neg (by simp [h c rfl])]

theorem trimEnd_eq_self {s : List Char} (h : ∀ c ∈ s.getLast?, isBlank c = false) :
    trimEnd s = s := by
  have hreverse : trimStart s.reverse = s.reverse :=
    trimStart_eq_self fun c hc => h c (by rwa [List.head?_reverse] at hc)
  rw [trimEnd, ← trimStart, hreverse, List.reverse_reverse]

/-- A text does not begin with white space once it is trimmed in front. -/
theorem head?_trimStart (s : List Char) : ∀ c ∈ (trimStart s).head?, isBlank c = false := by
  intro c hc
  have hnot := List.head?_dropWhile_not isBlank s
  rw [← trimStart, hc] at hnot
  simpa using hnot

/-- A text does not begin with white space once it is trimmed. -/
theorem head?_trim (s : List Char) : ∀ c ∈ (trim s).head?, isBlank c = false := by
  intro c hc
  obtain ⟨rest, hrest⟩ : trim s <+: trimStart s := List.rdropWhile_prefix isBlank _
  refine head?_trimStart s c ?_
  rw [← hrest, List.head?_append, hc]
  rfl

/-- A text does not end with white space once it is trimmed. -/
theorem getLast?_trim (s : List Char) : ∀ c ∈ (trim s).getLast?, isBlank c = false := by
  intro c hc
  have hhead : ((trimStart s).reverse.dropWhile isBlank).head? = some c := by
    rwa [trim, trimEnd, List.getLast?_reverse] at hc
  have hnot := List.head?_dropWhile_not isBlank (trimStart s).reverse
  rw [hhead] at hnot
  simpa using hnot

/-- Trimming twice is trimming once. -/
theorem trim_trim (s : List Char) : trim (trim s) = trim s := by
  have hstart : trimStart (trim s) = trim s := trimStart_eq_self (head?_trim s)
  have hend : trimEnd (trim s) = trim s := trimEnd_eq_self (getLast?_trim s)
  rw [trim, hstart, hend]

variable {s : List Char} {c : Char}

theorem trimStart_of_trim (h : trim s = s) : trimStart s = s :=
  trimStart_eq_self fun c hc => head?_trim s c (by rwa [h])

theorem trimEnd_of_trim (h : trim s = s) : trimEnd s = s :=
  trimEnd_eq_self fun c hc => getLast?_trim s c (by rwa [h])

/-- Trimming the end stops at the first character that is not white space, if not before. -/
theorem trimEnd_cons (s : List Char) (hc : isBlank c = false) :
    trimEnd (c :: s) = c :: trimEnd s := by
  have hstop : [c].dropWhile isBlank = [c] := by rw [List.dropWhile_cons, if_neg (by simp [hc])]
  rw [trimEnd, trimEnd, List.reverse_cons, List.dropWhile_append, hstop]
  split
  · next hnil => simp [List.isEmpty_iff.mp hnil]
  · simp

/-- White space in front of a trimmed text is taken away. -/
theorem trim_cons (h : trim s = s) (hc : isBlank c = true) : trim (c :: s) = s := by
  have hstart : trimStart (c :: s) = trimStart s := by
    rw [trimStart, List.dropWhile_cons, if_pos hc, trimStart]
  rw [trim, hstart]
  exact h

/-- White space behind a trimmed text is taken away. -/
theorem trim_concat (h : trim s = s) (hc : isBlank c = true) : trim (s ++ [c]) = s := by
  by_cases hs : s = []
  · subst hs
    have hnil : trimStart [c] = [] := by simp [trimStart, hc]
    rw [List.nil_append, trim, hnil]
    rfl
  · have hhead : ∀ d ∈ (s ++ [c]).head?, isBlank d = false := by
      intro d hd
      have hsame : (s ++ [c]).head? = s.head? := by
        obtain ⟨e, t, rfl⟩ := List.exists_cons_of_ne_nil hs
        rfl
      rw [hsame, ← h] at hd
      exact head?_trim s d hd
    rw [trim, trimStart_eq_self hhead]
    exact (List.rdropWhile_concat_pos isBlank s c hc).trans (trimEnd_of_trim h)

theorem mem_of_mem_trim (h : c ∈ trim s) : c ∈ s := by
  rw [trim, trimEnd, List.mem_reverse] at h
  have hstart := List.mem_reverse.mp ((List.dropWhile_sublist _).mem h)
  exact (List.dropWhile_sublist _).mem hstart

/-- Trimming the end takes nothing away in front of a character that is not white space. -/
theorem trimEnd_append_cons (s rest : List Char) (hc : isBlank c = false) :
    trimEnd (s ++ c :: rest) = s ++ c :: trimEnd rest := by
  have hstop : [c].dropWhile isBlank = [c] := by rw [List.dropWhile_cons, if_neg (by simp [hc])]
  have hkept : (rest.reverse ++ [c]).dropWhile isBlank = (c :: trimEnd rest).reverse := by
    rw [← trimEnd_cons rest hc, trimEnd, List.reverse_reverse, List.reverse_cons]
  have hne : ((rest.reverse ++ [c]).dropWhile isBlank).isEmpty = false := by
    rw [hkept]
    simp
  rw [trimEnd, List.reverse_append, List.reverse_cons, List.dropWhile_append, hne, hkept]
  simp

/-- Trimming the end takes nothing away from a text that does not end with white space. -/
theorem trimEnd_append (h : ∀ c ∈ s.getLast?, isBlank c = false) (hne : s ≠ [])
    (rest : List Char) : trimEnd (s ++ rest) = s ++ trimEnd rest := by
  have hlast := List.getLast?_eq_some_getLast hne
  obtain ⟨init, hinit⟩ := List.getLast?_eq_some_iff.mp hlast
  rw [hinit, List.append_assoc, List.append_assoc]
  exact trimEnd_append_cons init rest (h _ hlast)

/-- It makes no difference which end is trimmed first. -/
theorem trimStart_trimEnd (s : List Char) : trimStart (trimEnd s) = trim s := by
  have hsplit : s.takeWhile isBlank ++ trimStart s = s := List.takeWhile_append_dropWhile
  have hfront : ∀ d ∈ s.takeWhile isBlank, isBlank d = true :=
    List.all_eq_true.mp List.all_takeWhile
  cases hstart : trimStart s with
  | nil =>
    have hall : ∀ d ∈ s, isBlank d = true := by rwa [← hsplit, hstart, List.append_nil]
    have hend : trimEnd s = [] := by
      have hdrop : (s.reverse ++ []).dropWhile isBlank = [] :=
        List.dropWhile_append_of_pos fun d hd => hall d (List.mem_reverse.mp hd)
      rw [List.append_nil] at hdrop
      rw [trimEnd, hdrop]
      rfl
    rw [trim, hstart, hend]
    rfl
  | cons d rest =>
    have hd : isBlank d = false := head?_trimStart s d (by rw [hstart]; rfl)
    have hend : trimEnd s = s.takeWhile isBlank ++ d :: trimEnd rest := by
      rw [← trimEnd_append_cons _ rest hd, ← hstart, hsplit]
    rw [trim, hstart, trimEnd_cons rest hd, hend, trimStart, List.dropWhile_append_of_pos hfront,
      List.dropWhile_cons, if_neg (by simp [hd])]

theorem trim_trimStart (s : List Char) : trim (trimStart s) = trim s :=
  congrArg trimEnd (List.dropWhile_idempotent isBlank s)

theorem trim_trimEnd (s : List Char) : trim (trimEnd s) = trim s := by
  rw [← trimStart_trimEnd, ← trimStart_trimEnd]
  exact congrArg trimStart (List.rdropWhile_idempotent isBlank s)

/-- Trimming the front takes nothing away behind a character that is not white space. -/
theorem trimStart_append (s : List Char) {rest : List Char}
    (hrest : ∀ d ∈ rest.head?, isBlank d = false) :
    trimStart (s ++ rest) = trimStart s ++ rest := by
  rw [trimStart, List.dropWhile_append]
  split
  · next hnil =>
    rw [trimStart, List.isEmpty_iff.mp hnil]
    exact trimStart_eq_self hrest
  · rfl

/-- The sides of a character that is not white space are trimmed at their outer ends. -/
theorem trim_append_cons (s rest : List Char) (hc : isBlank c = false) :
    trim (s ++ c :: rest) = trimStart s ++ c :: trimEnd rest := by
  rw [trim, trimStart_append s (by rintro d ⟨⟩; exact hc), trimEnd_append_cons _ _ hc]

section Blank

variable {blank : List Char} (hblank : ∀ d ∈ blank, isBlank d = true)
include hblank

theorem trimStart_blank_append (s : List Char) : trimStart (blank ++ s) = trimStart s :=
  List.dropWhile_append_of_pos hblank

theorem trimStart_of_blank : trimStart blank = [] := by
  rw [← List.append_nil blank, trimStart_blank_append hblank]
  rfl

theorem trimEnd_append_blank (s : List Char) : trimEnd (s ++ blank) = trimEnd s := by
  rw [trimEnd, List.reverse_append,
    List.dropWhile_append_of_pos fun d hd => hblank d (List.mem_reverse.mp hd), trimEnd]

end Blank

/-! ### Cutting -/

section Stop

variable {d : Char} {rest : List Char} (h : d ∉ s) (hrest : ∀ e ∈ rest.head?, e = d)
include h hrest

/-- What stands in front of a separator is cut off there. -/
theorem takeWhile_ne_append : (s ++ rest).takeWhile (· != d) = s := by
  rw [List.takeWhile_append_of_pos fun e he => by simpa using ne_of_mem_of_not_mem he h]
  cases rest with
  | nil => simp
  | cons e rest =>
    obtain rfl := hrest e rfl
    simp

theorem dropWhile_ne_append : (s ++ rest).dropWhile (· != d) = rest := by
  rw [List.dropWhile_append_of_pos fun e he => by simpa using ne_of_mem_of_not_mem he h]
  cases rest with
  | nil => rfl
  | cons e rest =>
    obtain rfl := hrest e rfl
    simp

end Stop

theorem not_mem_takeWhile_ne (s : List Char) (d : Char) : d ∉ s.takeWhile (· != d) := by
  intro hmem
  have hne := List.mem_takeWhile_imp hmem
  simp at hne

theorem eq_of_dropWhile_ne {d e : Char} {rest : List Char}
    (h : s.dropWhile (· != d) = e :: rest) : e = d := by
  have hnot := List.head?_dropWhile_not (· != d) s
  rw [h] at hnot
  simpa using hnot

/-- The lines of a text hold no line feed. -/
theorem lineFeed_not_mem_of_mem_lines {line : List Char} (h : line ∈ lines s) : '\n' ∉ line := by
  induction s generalizing line with
  | nil =>
    obtain rfl := List.mem_singleton.mp h
    simp
  | cons c s ih =>
    obtain ⟨first, others, hlines⟩ := List.exists_cons_of_ne_nil (List.splitOn_ne_nil '\n' s)
    rw [lines, hlines] at ih
    rw [lines, List.splitOn_cons_eq_if_modifyHead, hlines] at h
    split at h
    · rcases List.mem_cons.mp h with rfl | h
      · simp
      · exact ih h
    · next hc =>
      rw [List.modifyHead_cons] at h
      rcases List.mem_cons.mp h with rfl | h
      · have hfirst := ih (List.mem_cons_self ..)
        have hne : '\n' ≠ c := fun heq => hc (beq_iff_eq.mpr heq.symm)
        exact List.not_mem_cons_of_ne_of_not_mem hne hfirst
      · exact ih (List.mem_cons_of_mem _ h)

namespace Utf8

/-! ### Line feeds -/

/-- No character that is held can turn out to be a short one. -/
def Unfinished.Long (p : Unfinished) : Prop :=
  1 ≤ p.value ∨ (2 ≤ p.missing ∧ 0x81 ≤ p.low)

theorem ofNat_ne_lineFeed {n : Nat} (h : n ≠ 0x0A) : Char.ofNat n ≠ '\n' := by
  intro heq
  rw [Char.ofNat] at heq
  by_cases hvalid : n.isValidChar
  · rw [dif_pos hvalid] at heq
    have htoNat : (Char.ofNatAux n hvalid).toNat = 0x0A := congrArg Char.toNat heq
    exact h htoNat
  · rw [dif_neg hvalid] at heq
    cases congrArg Char.toNat heq

theorem lead_lineFeed {b : UInt8} (hb : b ≠ lineFeed) :
    '\n' ∉ (lead b).1 ∧ ∀ p ∈ (lead b).2, p.Long := by
  have hn : b.toNat ≠ 0x0A := fun h => hb (UInt8.toNat_inj.mp h)
  have hreplacement : '\n' ∉ [replacement] := by decide
  have hlt := b.toNat_lt
  rw [lead]
  split
  · exact ⟨by simpa using (ofNat_ne_lineFeed hn).symm, by simp⟩
  split
  · exact ⟨hreplacement, by simp⟩
  split
  · refine ⟨by simp, ?_⟩
    rintro p ⟨⟩
    exact .inl (show 1 ≤ b.toNat - 0xC0 by omega)
  split
  · refine ⟨by simp, ?_⟩
    rintro p ⟨⟩
    by_cases h : b.toNat = 0xE0
    · exact .inr ⟨Nat.le_refl 2, by simp [h]⟩
    · exact .inl (show 1 ≤ b.toNat - 0xE0 by omega)
  split
  · refine ⟨by simp, ?_⟩
    rintro p ⟨⟩
    by_cases h : b.toNat = 0xF0
    · exact .inr ⟨show 2 ≤ 3 by omega, by simp [h]⟩
    · exact .inl (show 1 ≤ b.toNat - 0xF0 by omega)
  · exact ⟨hreplacement, by simp⟩

theorem step_lineFeed {held : Option Unfinished} (hheld : ∀ p ∈ held, p.Long) {b : UInt8}
    (hb : b ≠ lineFeed) : '\n' ∉ (step held b).1 ∧ ∀ p ∈ (step held b).2, p.Long := by
  cases held with
  | none => exact lead_lineFeed hb
  | some p =>
    obtain ⟨hlead, hrest⟩ := lead_lineFeed hb
    have hlong : 1 ≤ p.value ∨ (2 ≤ p.missing ∧ 0x81 ≤ p.low) := hheld p rfl
    rw [step]
    split
    · next hrange =>
      split
      · have hvalue : p.value * 64 + (b.toNat - 0x80) ≠ 0x0A := by omega
        exact ⟨by simpa using (ofNat_ne_lineFeed hvalue).symm, by simp⟩
      · refine ⟨by simp, ?_⟩
        rintro q ⟨⟩
        exact .inl (show 1 ≤ p.value * 64 + (b.toNat - 0x80) by omega)
    · refine ⟨?_, hrest⟩
      rw [List.mem_cons, not_or]
      exact ⟨by decide, hlead⟩

theorem lineFeed_not_mem_decodeFrom {held : Option Unfinished} (hheld : ∀ p ∈ held, p.Long)
    {bytes : List UInt8} (hbytes : lineFeed ∉ bytes) : '\n' ∉ decodeFrom held bytes := by
  induction bytes generalizing held with
  | nil =>
    rw [decodeFrom]
    split <;> simp [replacement]
  | cons b bytes ih =>
    rw [List.mem_cons, not_or] at hbytes
    obtain ⟨hchars, hrest⟩ := step_lineFeed hheld (Ne.symm hbytes.1)
    rw [decodeFrom, List.mem_append, not_or]
    exact ⟨hchars, ih hrest hbytes.2⟩

end Utf8

end Text

/-- A line of bytes without a line feed spells a text without one. -/
theorem lineFeed_not_mem_lineOf {line : List UInt8} (h : lineFeed ∉ line) :
    '\n' ∉ lineOf line := by
  intro hmem
  exact Text.Utf8.lineFeed_not_mem_decodeFrom (by simp) h (Text.mem_of_mem_trim hmem)

theorem trim_lineOf (line : List UInt8) : Text.trim (lineOf line) = lineOf line :=
  Text.trim_trim _

namespace Reply

/-- A row as it stands in a reply: on one line, not blank, and without white space around it. -/
structure IsRow (row : List Char) : Prop where
  ne_nil : row ≠ []
  trimmed : Text.trim row = row
  single : '\n' ∉ row

/-- The lines of rows joined are these rows. -/
theorem textLines_intercalate {rows : List (List Char)} (h : ∀ row ∈ rows, IsRow row) :
    textLines (List.intercalate ['\r', '\n'] rows) = rows := by
  have hkept {row : List Char} (hrow : IsRow row) : (!row.isEmpty) = true := by
    simpa using hrow.ne_nil
  cases rows with
  | nil => rfl
  | cons row rows =>
    induction rows generalizing row with
    | nil =>
      have hrow := h row (List.mem_singleton.mpr rfl)
      rw [List.intercalate_singleton, textLines, Text.lines, List.splitOn_eq_singleton hrow.single]
      simp [hrow.trimmed, hkept hrow]
    | cons row' rows ih =>
      obtain ⟨hrow, hrows⟩ := List.forall_mem_cons.mp h
      have hcut : '\n' ∉ row ++ ['\r'] := by simp [hrow.single]
      have hjoined : List.intercalate ['\r', '\n'] (row :: row' :: rows) =
          (row ++ ['\r']) ++ '\n' :: List.intercalate ['\r', '\n'] (row' :: rows) := by
        simp [List.intercalate_cons_cons]
      have hrest := ih row' hrows
      rw [textLines] at hrest
      rw [hjoined, textLines, Text.lines, List.splitOn_append_cons_self_of_not_mem hcut,
        List.map_cons, Text.trim_concat hrow.trimmed (by decide), List.filter_cons,
        if_pos (hkept hrow)]
      exact congrArg (row :: ·) hrest

/-- The lines of two texts in a row are those of the first, and then those of the second. -/
theorem textLines_append (reply more : List Char) :
    textLines (reply ++ '\n' :: more) = textLines reply ++ textLines more := by
  rw [textLines, Text.lines, List.splitOn_append_cons_self, List.map_append, List.filter_append]
  rfl

end Reply

end ModemLink
