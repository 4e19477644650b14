import ModemLink.Duration

/-!
# What can go wrong

A fault of a reply is a record the modem should not have sent; a fault of an operation is
anything that ends it early, a reply fault included. Each has one wording. A word that names
none of the offered choices is a fault of its own, met only while settings are read.

Source: the specification, sections 7 and 10.6.
-/

namespace ModemLink

/-- The kinds of reply that hold records. -/
inductive ReplyKind
  /-- Which contexts are active. -/
  | activation
  /-- The addresses of a context. -/
  | address
  /-- The name servers of every context. -/
  | nameServer
  deriving DecidableEq, Repr

/-- The command whose reply it is, without its arguments. -/
def ReplyKind.command : ReplyKind → String
  | activation => "+CGACT"
  | address => "+CGPADDR"
  | nameServer => "+XDNS"

/-- Why a reply cannot be read. -/
inductive ReplyFault
  /-- The context id is no number. -/
  | contextId (kind : ReplyKind)
  /-- No address is assigned. -/
  | noAddress
  /-- A record has the wrong fields. -/
  | malformed (kind : ReplyKind) (record : String)
  deriving DecidableEq, Repr

/-- The fault in words. -/
def ReplyFault.message : ReplyFault → String
  | contextId kind => "couldn't parse CID from " ++ kind.command ++ " response"
  | noAddress => "couldn't parse a valid IP address from +CGPADDR response"
  | malformed kind record => "malformed " ++ kind.command ++ " record: '" ++ record ++ "'"

/-- Why an operation ends early. -/
inductive Fault
  /-- A port or an index that the operation needs does not exist. -/
  | notFound (what : String)
  /-- The modem sent a reply that cannot be read. -/
  | reply (fault : ReplyFault)
  /-- The modem reports that the link is gone. -/
  | noCarrier
  /-- The caller gave the operation up. -/
  | canceled
  /-- The modem took longer than a command may take. -/
  | timedOut (after : Duration)
  /-- The bearer or the modem does not allow the operation now. -/
  | wrongState (what : String)
  /-- The operation was asked for something impossible. -/
  | invalidArguments (what : String)
  /-- The modem refused a command, or the line to it failed. -/
  | failed (what : String)
  deriving DecidableEq, Repr

namespace Fault

/-- The fault in words. -/
def message : Fault → String
  | notFound what => "not found: " ++ what
  | reply fault => fault.message
  | noCarrier => "no carrier"
  | canceled => "operation canceled"
  | timedOut after => "command timed out after " ++ after.text
  | wrongState what => "wrong state: " ++ what
  | invalidArguments what => "invalid arguments: " ++ what
  | failed what => what

/-- The modem says that the link is already gone. -/
def isNoCarrier : Fault → Bool
  | noCarrier => true
  | _ => false

/-- The line to the modem broke. -/
def lineBroken (reason : String) : Fault :=
  .failed ("serial I/O error: " ++ reason)

/-- The line to the modem ended. -/
def lineClosed : Fault :=
  .failed "serial port closed"

end Fault

/-- A word that names none of the choices offered. -/
inductive ChoiceFault
  /-- No character set. -/
  | charset (word : String)
  /-- No address family. -/
  | family (word : String)
  /-- No way to authenticate. -/
  | auth (word : String)
  deriving DecidableEq, Repr

/-- The fault in words. -/
def ChoiceFault.message : ChoiceFault → String
  | charset word => "unsupported charset '" ++ word ++ "'"
  | family word => "unknown IP family '" ++ word ++ "'"
  | auth word => "unknown auth method '" ++ word ++ "'"

end ModemLink
