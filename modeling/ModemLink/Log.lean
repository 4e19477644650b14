import ModemLink.Command
import ModemLink.Text.Quoted

/-!
# What is logged

Everything a session logs is an event of a closed list, with a level, a message and named
values. A computation that logs carries its events beside its value, in order. Text that came
from the modem is shown escaped, and a command only as far as it is loggable.

The random identifier that a bearer has beside its context id is left out of its events, and so are
the time of an event and the choice of the levels that are written.

Source: the specification, section 10.7.
-/

namespace ModemLink

/-- How much an event matters. -/
inductive Level
  | debug
  | info
  | warn
  deriving DecidableEq, Repr

/-- The name of a level. -/
def Level.name : Level → String
  | debug => "DEBUG"
  | info => "INFO"
  | warn => "WARN"

/-- Something worth logging. -/
inductive Event
  /-- A command is handed to a port. -/
  | commandSent (port : String) (loggable : String) (timeout : Duration)
  /-- A port has the whole answer to a command. -/
  | replyReceived (port : String) (text : String)
  /-- A command ends without an answer. -/
  | commandFailed (port : String) (loggable : String) (fault : Fault)
  /-- A line that an abandoned command left behind is discarded. -/
  | staleLine (line : List Char)
  /-- A line opens the late answer to an earlier command. -/
  | lateReply (line : List Char)
  /-- A sequence comes to a step. -/
  | stepEntered (sequence : String) (step : String)
  /-- The context to dial is active already. -/
  | alreadyActive (cid : UInt32)
  /-- The modem has a second command port. -/
  | secondaryAvailable (port : String)
  /-- The addresses of a context are about to be read. -/
  | readingAddresses (cid : UInt32) (family : IpFamily) (port : String)
  /-- The modem told the addresses of another context. -/
  | otherContext (expected : UInt32) (got : UInt32)
  /-- A context could not be deactivated. -/
  | deactivationFailed (cid : UInt32) (port : String) (fault : Fault)
  /-- A bearer came to be. -/
  | bearerCreated (cid : UInt32)
  /-- A bearer begins to connect. -/
  | connecting (cid : UInt32) (family : IpFamily)
  /-- A bearer is connected. -/
  | connected (port : String)
  /-- An address of a connected bearer. -/
  | address (family : String) (text : String) (prefixLength : Nat)
  /-- A name server of a connected bearer, counted from one. -/
  | nameServer (family : String) (place : Nat) (server : String)
  /-- A bearer could not be connected. -/
  | connectionFailed (fault : Fault)
  /-- A dialed context is given up because its addresses could not be read. -/
  | tearingDown (fault : Fault)
  /-- A bearer is disconnected. -/
  | disconnected
  deriving DecidableEq, Repr

namespace Event

/-- How much the event matters. -/
def level : Event → Level
  | connecting .. | connected _ | address .. | nameServer .. | connectionFailed _
  | disconnected => .info
  | otherContext .. | tearingDown _ => .warn
  | _ => .debug

/-- Text from the modem as a message shows it. -/
def shown (s : List Char) : String :=
  String.ofList (Text.escape .message s)

/-- The event in words. -/
def message : Event → String
  | commandSent _ loggable _ => "--> 'AT" ++ loggable ++ "'"
  | replyReceived _ text => "<-- '" ++ shown (Text.trim text.toList) ++ "'"
  | commandFailed _ loggable fault => "command '" ++ loggable ++ "' failed: " ++ fault.message
  | staleLine line => "discarding stale line '" ++ shown line ++ "'"
  | lateReply line => "skipping late reply to '" ++ shown line ++ "'"
  | stepEntered sequence step => "running " ++ sequence ++ " step " ++ step
  | alreadyActive _ => "selected CID is currently active, skipping to data channel setup"
  | secondaryAvailable _ => "secondary AT port available"
  | readingAddresses .. => "retrieving IP configuration"
  | otherContext .. => "+CGPADDR reply is for another context"
  | deactivationFailed _ _ fault =>
    "PDP context deactivation failed (not fatal): " ++ fault.message
  | bearerCreated _ => "new XMM bearer created"
  | connecting .. => "connecting"
  | connected _ => "connected"
  | address family text prefixLength =>
    family ++ " address " ++ text ++ "/" ++ toString prefixLength
  | nameServer family place server => family ++ " DNS #" ++ toString place ++ " " ++ server
  | connectionFailed fault => "connection attempt failed: " ++ fault.message
  | tearingDown fault => "IP configuration retrieval failed, tearing down: " ++ fault.message
  | disconnected => "disconnected"

/-- The named values of the event, in order. -/
def values : Event → List (String × String)
  | commandSent port _ timeout => [("port", port), ("timeout", timeout.text)]
  | replyReceived port _ => [("port", port)]
  | commandFailed port _ _ => [("port", port)]
  | alreadyActive cid => [("cid", toString cid)]
  | secondaryAvailable port => [("port", port)]
  | readingAddresses cid family port =>
    [("cid", toString cid), ("ip_family", family.name), ("port", port)]
  | otherContext expected got => [("expected", toString expected), ("got", toString got)]
  | deactivationFailed cid port _ => [("cid", toString cid), ("port", port)]
  | bearerCreated cid => [("cid", toString cid)]
  | connecting cid family => [("cid", toString cid), ("family", family.name)]
  | connected port => [("port", port)]
  | _ => []

/-- The event as one line. -/
def line (e : Event) : String :=
  e.values.foldl (fun text value => text ++ " " ++ value.1 ++ "=" ++ value.2)
    (e.level.name ++ " " ++ e.message)

end Event

/-- A value, and what was logged on the way to it. -/
@[ext]
structure Logged (α : Type) where
  value : α
  log : List Event := []
  deriving Repr

namespace Logged

variable {α β : Type}

instance : Monad Logged where
  pure a := ⟨a, []⟩
  bind x f := ⟨(f x.value).value, x.log ++ (f x.value).log⟩

/-- Logs one event. -/
def note (e : Event) : Logged Unit := ⟨(), [e]⟩

/-- Logs several events. -/
def notes (events : List Event) : Logged Unit := ⟨(), events⟩

@[simp] theorem value_pure (a : α) : (pure a : Logged α).value = a := rfl

@[simp] theorem log_pure (a : α) : (pure a : Logged α).log = [] := rfl

@[simp] theorem value_bind (x : Logged α) (f : α → Logged β) :
    (x >>= f).value = (f x.value).value := rfl

@[simp] theorem log_bind (x : Logged α) (f : α → Logged β) :
    (x >>= f).log = x.log ++ (f x.value).log := rfl

@[simp] theorem value_map (f : α → β) (x : Logged α) : (f <$> x).value = f x.value := rfl

@[simp] theorem log_map (f : α → β) (x : Logged α) : (f <$> x).log = x.log :=
  List.append_nil x.log

@[simp] theorem log_note (e : Event) : (note e).log = [e] := rfl

instance : LawfulMonad Logged :=
  LawfulMonad.mk' Logged
    (fun x => Logged.ext rfl (List.append_nil x.log))
    (fun a f => Logged.ext rfl (List.nil_append (f a).log))
    (fun x f g => Logged.ext rfl (List.append_assoc ..))

end Logged

end ModemLink
