import Mathlib
import ModemLink.Proofs.Reply.Readings

/-!
# Records of other contexts

The reply to the name server query lists every context, and only the records of one are wanted. A
record of another context adds nothing, and where it stands among the lines makes no difference,
as long as its fields can be told apart. But a record is cut into fields before it is known whose
it is: one with a quote that is never closed, or with text behind a closing quote, ends the
reading whichever context it names, unless the reading has ended before.

Source: the specification, section 4.4.

## Main definitions

* `insertLine`, `linesBefore`: a text with a line more, and the lines in front of it.
* `NameServers.recordLine`: a record as it is written, whatever stands behind its context.

## Main results

* `NameServers.read_insertLine`: what a reading makes of a record of another context.
-/

namespace ModemLink.Reply

open Text

/-! ### A line more -/

/-- A text with a line more, in front of the one that stands at a place. -/
def insertLine (place : Nat) (line : List Char) (text : String) : String :=
  let rows := lines text.toList
  String.ofList (List.intercalate ['\n'] (rows.take place ++ line :: rows.drop place))

/-- The lines of a text in front of a place. -/
def linesBefore (place : Nat) (text : String) : String :=
  String.ofList (List.intercalate ['\n'] ((lines text.toList).take place))

/-- The lines that are read of some lines: trimmed, and blank ones left out. -/
def keptLines (rows : List (List Char)) : List (List Char) :=
  (rows.map trim).filter (!·.isEmpty)

theorem keptLines_append (rows more : List (List Char)) :
    keptLines (rows ++ more) = keptLines rows ++ keptLines more := by
  simp [keptLines]

theorem keptLines_cons {line : List Char} (h : trim line ≠ []) (rows : List (List Char)) :
    keptLines (line :: rows) = trim line :: keptLines rows := by
  simp [keptLines, h]

/-- The lines of lines that are joined are read as they are. -/
theorem textLines_joined {rows : List (List Char)} (h : ∀ row ∈ rows, '\n' ∉ row) :
    textLines (List.intercalate ['\n'] rows) = keptLines rows := by
  cases rows with
  | nil => rfl
  | cons row rows =>
    rw [textLines, lines, List.splitOn_intercalate '\n' h (List.cons_ne_nil _ _), keptLines]

theorem textLines_linesBefore (place : Nat) (text : String) :
    textLines (linesBefore place text).toList =
      keptLines ((lines text.toList).take place) := by
  rw [linesBefore, String.toList_ofList]
  exact textLines_joined fun row hrow =>
    lineFeed_not_mem_of_mem_lines (List.mem_of_mem_take hrow)

theorem textLines_insertLine {line : List Char} (hline : '\n' ∉ line) (place : Nat)
    (text : String) :
    textLines (insertLine place line text).toList =
      keptLines ((lines text.toList).take place ++ line :: (lines text.toList).drop place) := by
  rw [insertLine, String.toList_ofList]
  refine textLines_joined fun row hrow => ?_
  rcases List.mem_append.mp hrow with hfront | hrest
  · exact lineFeed_not_mem_of_mem_lines (List.mem_of_mem_take hfront)
  · rcases List.mem_cons.mp hrest with rfl | hback
    · exact hline
    · exact lineFeed_not_mem_of_mem_lines (List.mem_of_mem_drop hback)

/-! ### Records of other contexts -/

namespace NameServers

/-- A record as it is written, given how its context is spelled and what stands behind it. -/
def recordLine (spelling rest : List Char) : List Char :=
  tag ++ ' ' :: (spelling ++ ',' :: rest)

/-- Trimming a record takes white space from its end only. -/
theorem trim_recordLine (spelling rest : List Char) : trim (recordLine spelling rest) =
    tag ++ ' ' :: (spelling ++ ',' :: trimEnd rest) := by
  have hcomma : recordLine spelling rest = (tag ++ ' ' :: spelling) ++ ',' :: rest := by
    simp [recordLine]
  have hstart : trimStart (recordLine spelling rest) = recordLine spelling rest :=
    trimStart_eq_self (by rintro c ⟨⟩; decide)
  rw [trim, hstart, hcomma, trimEnd_append_cons _ _ (by decide)]
  simp

variable {cid n : UInt32} {spelling rest : List Char} (hspelling : number? spelling = some n)
include hspelling

theorem trim_record (rest : List Char) : trim (spelling ++ ',' :: trimEnd rest) =
    spelling ++ ',' :: trimEnd rest := by
  have htrim : trim spelling = spelling := (isPlain_of_number? hspelling).isProper.trim_print
  have hend : trimEnd (trimEnd rest) = trimEnd rest := List.rdropWhile_idempotent isBlank rest
  rw [trim_append_cons _ _ (by decide), trimStart_of_trim htrim, hend]

theorem recordOn?_recordLine (rest : List Char) :
    recordOn? (trim (recordLine spelling rest)) = some (spelling ++ ',' :: trimEnd rest) := by
  rw [recordOn?, trim_recordLine, List.isPrefixOf?_eq_some_iff_append_eq.mpr rfl]
  exact congrArg some (trim_cons (trim_record hspelling rest) (by decide))

/-- The context of a record is its first field, whatever stands behind it. -/
theorem splitFields_record (rest : List Char) : splitFields (spelling ++ ',' :: trimEnd rest) =
    (readFields (trimEnd rest)).map (.bare spelling :: ·) := by
  have hfirst : readField (spelling ++ ',' :: trimEnd rest) =
      some (.bare spelling, some (trimEnd rest)) :=
    readField_bare (isPlain_of_number? hspelling).isProper (padded_self spelling) (some _)
  rw [splitFields.eq_def, trim_record hspelling]
  split
  · next hblank => simp at hblank
  · exact readFields_of_next hfirst

/-- A record of another context adds nothing, unless it cannot be cut. -/
theorem addLine_recordLine (hn : n ≠ cid) (servers : NameServers) :
    addLine cid servers (trim (recordLine spelling rest)) =
      if (splitFields rest).isSome then .ok servers
      else .error (.malformed .nameServer (String.ofList (trim (recordLine spelling rest)))) := by
  rw [addLine, recordOn?_recordLine hspelling rest]
  simp only [splitFields_record hspelling rest, readFields_trimEnd, isSome_splitFields]
  cases readFields rest with
  | none => rfl
  | some fields =>
    have howner : (Field.bare spelling).number? = some n := hspelling
    simp [howner, hn]

/-- A reading is not changed by a record of another context, wherever it stands, if its fields can
be told apart; otherwise the reading ends there, unless it has ended before. -/
theorem read_insertLine (hn : n ≠ cid) (hrest : '\n' ∉ rest) (place : Nat) (reply : String) :
    read (insertLine place (recordLine spelling rest) reply) cid =
      if (splitFields rest).isSome then read reply cid
      else (read (linesBefore place reply) cid).bind fun _ =>
        .error (.malformed .nameServer (String.ofList (trim (recordLine spelling rest)))) := by
  have hline : '\n' ∉ recordLine spelling rest := by
    have hdigits := (isPlain_of_number? hspelling).2
    simp only [recordLine, List.mem_append, List.mem_cons, not_or]
    refine ⟨by decide, by decide, fun hmem => ?_, by decide, hrest⟩
    exact absurd (hdigits _ hmem).1 (by decide)
  have hkept : trim (recordLine spelling rest) ≠ [] := by
    rw [trim_recordLine]
    simp
  have hwhole : read reply cid =
      (keptLines ((lines reply.toList).take place) ++
        keptLines ((lines reply.toList).drop place)).foldlM (addLine cid) {} := by
    rw [read, ← keptLines_append, List.take_append_drop]
    rfl
  rw [hwhole, read, read, textLines_insertLine hline, textLines_linesBefore, keptLines_append,
    keptLines_cons hkept, List.foldlM_append, List.foldlM_append]
  cases (keptLines ((lines reply.toList).take place)).foldlM (addLine cid) {} with
  | error fault => split <;> rfl
  | ok servers =>
    change (addLine cid servers _ >>= _) = _
    rw [addLine_recordLine hspelling hn]
    split <;> rfl

omit hspelling

/-- The servers of a context are not read where the record of another one behind them has a quote
that is never closed. -/
theorem read_insertLine_openQuote :
    number? ['2'] = some 2 ∧ (2 : UInt32) ≠ 1 ∧ '\n' ∉ "\"10.0.0.1".toList ∧
      read "+XDNS: 1,\"10.0.0.2\",\"10.0.0.3\"\r\nOK" 1 =
        .ok { ipv4 := ["10.0.0.2", "10.0.0.3"] } ∧
      read (insertLine 1 (recordLine ['2'] "\"10.0.0.1".toList)
          "+XDNS: 1,\"10.0.0.2\",\"10.0.0.3\"\r\nOK") 1 =
        .error (.malformed .nameServer "+XDNS: 2,\"10.0.0.1") := by
  have hspelling : number? ['2'] = some 2 := by decide
  have hrest : '\n' ∉ "\"10.0.0.1".toList := by decide
  have hopen : splitFields "\"10.0.0.1".toList = none := by cbv
  refine ⟨hspelling, by decide, hrest, by cbv, ?_⟩
  rw [read_insertLine hspelling (by decide) hrest, hopen, if_neg (by decide)]
  cbv

end NameServers

end ModemLink.Reply
