import ModemLink.Text.Blank
import ModemLink.Text.Lines

/-!
# Records of a reply

A reply is lines of text. Where a line carries the name of the command, only such lines are
records and every other line is noise; where none does, every line is a record.

Source: the specification, section 10.1.
-/

namespace ModemLink.Reply

open Text

/-- The lines of a reply, trimmed, blank ones left out. -/
def textLines (reply : List Char) : List (List Char) :=
  ((lines reply).map trim).filter (!·.isEmpty)

/-- The records among trimmed lines: what follows `tag` where a line begins with it, and
otherwise every line. -/
def recordsOf (tag : List Char) (rows : List (List Char)) : List (List Char) :=
  match rows.filterMap (List.isPrefixOf? tag) with
  | [] => rows
  | tagged => tagged.map trim

/-- The records of a reply. -/
def records (tag reply : List Char) : List (List Char) :=
  recordsOf tag (textLines reply)

end ModemLink.Reply
