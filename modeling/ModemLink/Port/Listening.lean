import ModemLink.Log
import ModemLink.Request

/-!
# The answer to a command

A modem echoes a command, sends lines of information and closes with a final result. While a
port listens for the answer to one command, lines of an earlier answer may still come in: where
a line opens with the letters of a command line but is not the echo of this command, it and
what follows are skipped up to the next final result.

Source: the specification, section 10.2.
-/

namespace ModemLink

/-- The line that closes an answer. -/
inductive FinalResult
  | ok
  | noCarrier
  /-- The modem refuses the command; the whole line tells why. -/
  | refused (line : List Char)
  deriving DecidableEq, Repr

namespace FinalResult

/-- The line begins with a text. -/
def opensWith (text : String) (line : List Char) : Bool :=
  text.toList.isPrefixOf line

/-- The final result that a trimmed line holds. -/
def ofLine? (line : List Char) : Option FinalResult :=
  if line = "OK".toList then some ok
  else if line = "NO CARRIER".toList then some noCarrier
  else if line = "ERROR".toList ∨ opensWith "+CME ERROR:" line ∨ opensWith "+CMS ERROR:" line then
    some (refused line)
  else none

end FinalResult

/-- A port that listens for the answer to a command. -/
structure Listening where
  /-- The command line as the modem echoes it. -/
  echo : List Char
  /-- The information lines so far. -/
  info : List (List Char) := []
  /-- The lines that come in belong to the answer to an earlier command. -/
  skipping : Bool := false
  deriving DecidableEq, Repr

/-- What a line means to a port that listens. -/
inductive Heard
  /-- The answer is not complete. -/
  | more (l : Listening)
  /-- The answer is complete. -/
  | answer (a : Answer)

namespace Listening

/-- Begins to listen for the answer to a command. -/
def toCommand (body : String) : Listening :=
  { echo := 'A' :: 'T' :: body.toList }

/-- The information of a complete answer. -/
def text (l : Listening) : String :=
  String.ofList (List.intercalate ['\r', '\n'] l.info)

/-- The answer that a final result closes. -/
def close (l : Listening) : FinalResult → Answer
  | .ok => .ok l.text
  | .noCarrier => .error .noCarrier
  | .refused line => .error (.failed (String.ofList line))

/-- Takes in a trimmed line. -/
def hear (l : Listening) (line : List Char) : Logged Heard :=
  if line = [] then return .more l
  else if line = l.echo then return .more { l with skipping := false }
  else if FinalResult.opensWith "AT" line then do
    Logged.note (.lateReply line)
    return .more { l with skipping := true }
  else
    match FinalResult.ofLine? line with
    | some final =>
      if l.skipping then return .more { l with skipping := false }
      else return .answer (l.close final)
    | none =>
      if l.skipping then return .more l
      else return .more { l with info := l.info ++ [line] }

end Listening

end ModemLink
