import ModemLink.Text.Blank
import ModemLink.Text.Lines

/-!
# Entries of a variable file

An entry of a variable file is a line, but a line on which a quote is left open goes on with
the next one. Where entries end is found by a scan that minds quotes, backslashes and blanks
only and is coarser than the reading of values. For it a backslash works between single quotes
too, and of two blanks in a row the second is a character like others. A `#` behind a blank
opens a comment, which is no part of the entry.

That entries may span lines within quotes, and that `#` opens a comment, is documented of the form;
the details of the scan follow observed behaviour.

Source: the specification, section 10.8.
-/

namespace ModemLink.EnvFile

open Text

/-- What the scan has seen last. -/
inductive Scan
  /-- A character outside quotes. -/
  | text
  /-- A blank outside quotes, behind a character that is none. -/
  | blank
  /-- A backslash outside quotes. -/
  | escape
  /-- Something between single quotes. -/
  | single
  /-- A backslash between single quotes. -/
  | singleEscape
  /-- Something between double quotes. -/
  | double
  /-- A backslash between double quotes. -/
  | doubleEscape
  deriving DecidableEq, Repr

namespace Scan

/-- The scan after a character outside quotes that is not taken for a blank. -/
def opened (c : Char) : Scan :=
  if c = '\\' then escape else if c = '"' then double else if c = '\'' then single else text

/-- The scan after one more character. -/
def next : Scan → Char → Scan
  | text, c => if isBlank c ∧ c ≠ '\n' ∧ c ≠ '\r' then blank else opened c
  | blank, c => opened c
  | escape, _ => text
  | single, c => if c = '\\' then singleEscape else if c = '\'' then text else single
  | singleEscape, _ => single
  | double, c => if c = '\\' then doubleEscape else if c = '"' then text else double
  | doubleEscape, _ => double

end Scan

/-- What the scan of a line comes to. -/
inductive Scanned
  /-- There is no comment. -/
  | through (s : Scan)
  /-- A comment begins after so many characters. -/
  | comment (column : Nat)
  deriving DecidableEq, Repr

/-- Scans the rest of a line of which `column` characters have been scanned. -/
def scan (s : Scan) (column : Nat) : List Char → Scanned
  | [] => .through s
  | c :: rest =>
    if s = .blank ∧ c = '#' then .comment column else scan (s.next c) (column + 1) rest

/-- An entry of a variable file. -/
inductive Entry
  /-- The text of an entry. -/
  | complete (text : List Char)
  /-- The file ends where the entry should go on. -/
  | unfinished
  deriving DecidableEq, Repr

/-- The entries on the lines that follow when `pending` is what there is of an entry. A comment
ends its entry, and the next line begins another. -/
def entriesFrom (s : Scan) (pending : List Char) : List (List Char) → List Entry
  | [] => if s = .text then [] else [.unfinished]
  | line :: rest =>
    let entry := pending ++ line
    if (trimStart entry).head? = some '#' then entriesFrom .text [] rest
    else
      match scan s 0 line with
      | .comment column => .complete (pending ++ line.take column) :: entriesFrom .text [] rest
      | .through .text => .complete entry :: entriesFrom .text [] rest
      | .through after => entriesFrom after entry rest

/-- The entries of a file, in order. Lines that hold a comment only give none. -/
def entries (file : List Char) : List Entry :=
  entriesFrom .text [] (endedLines file)

end ModemLink.EnvFile
