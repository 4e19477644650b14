import ModemLink.Text.Blank
import ModemLink.Text.Number

/-!
# Fields of a record

A record is a row of fields between commas. A field is bare, or it stands in double quotes and
may then hold commas. White space around a field does not belong to it. A row is refused only
where a quote is never closed, or where something other than a comma follows the closing one.

Source: the specification, section 4.4.
-/

namespace ModemLink.Reply

open Text

/-- One field of a record. -/
inductive Field
  /-- A field without quotes. -/
  | bare (text : List Char)
  /-- The text between two quotes. -/
  | quoted (text : List Char)
  deriving DecidableEq, Repr

namespace Field

/-- The text of a quoted field. -/
def quoted? : Field → Option (List Char)
  | quoted text => some text
  | bare _ => none

/-- The number that a bare field spells. -/
def number? : Field → Option UInt32
  | bare text => Text.number? text
  | quoted _ => none

end Field

/-- The first field of a row, and the row after its comma if one follows. -/
def readField (row : List Char) : Option (Field × Option (List Char)) :=
  match trimStart row with
  | '"' :: inner =>
    match inner.dropWhile (· != '"') with
    | [] => none
    | _ :: after =>
      match trimStart after with
      | [] => some (.quoted (inner.takeWhile (· != '"')), none)
      | c :: next =>
        if c = ',' then some (.quoted (inner.takeWhile (· != '"')), some next) else none
  | text =>
    match text.dropWhile (· != ',') with
    | [] => some (.bare (trimEnd (text.takeWhile (· != ','))), none)
    | _ :: next => some (.bare (trimEnd (text.takeWhile (· != ','))), some next)

/-- The row after the first field is shorter than the row. -/
theorem length_lt_of_readField {row next : List Char} {f : Field}
    (h : readField row = some (f, some next)) : next.length < row.length := by
  have hrow := length_trimStart_le row
  simp only [readField] at h
  split at h
  · next inner heq =>
    split at h
    · simp at h
    · next after hafter =>
      split at h
      · simp at h
      · next c rest hrest =>
        split at h
        · simp only [Option.some.injEq, Prod.mk.injEq] at h
          have h1 := (List.dropWhile_sublist (l := inner) (· != '"')).length_le
          have h2 := length_trimStart_le after
          rw [heq] at hrow
          rw [hafter] at h1
          rw [hrest] at h2
          simp only [List.length_cons] at hrow h1 h2
          rw [← h.2]
          omega
        · simp at h
  · split at h
    · simp at h
    · next c rest hrest =>
      simp only [Option.some.injEq, Prod.mk.injEq] at h
      have h1 := (List.dropWhile_sublist (l := trimStart row) (· != ',')).length_le
      rw [hrest] at h1
      simp only [List.length_cons] at h1
      rw [← h.2]
      omega

/-- The fields of a row that has at least one. -/
def readFields (row : List Char) : Option (List Field) :=
  match h : readField row with
  | none => none
  | some (f, none) => some [f]
  | some (f, some next) =>
    have : next.length < row.length := length_lt_of_readField h
    (readFields next).map (f :: ·)
termination_by row.length

/-- The fields of a row. A blank row has none. -/
def splitFields (row : List Char) : Option (List Field) :=
  match trim row with
  | [] => some []
  | text => readFields text

end ModemLink.Reply
