import ModemLink.Drive

/-!
# A scripted modem

A modem on the bench that answers each command by the first rule whose opening the command has.
A rule has replies for its first uses and repeats the last one. A reply may keep the operation
waiting at a gate until the gate is opened or the operation is cancelled, and may itself cancel
the operation before it is given.

Source: the specification, section 10.10.
-/

namespace ModemLink.Bench

/-- A reply prepared for a command. -/
structure Prepared where
  /-- The gate at which the operation waits before it gets the reply. -/
  gate : Option String := none
  /-- Being cancelled does not end the wait. -/
  hard : Bool := false
  /-- The operation is cancelled when it gets the reply. -/
  cancels : Bool := false
  answer : Answer := .ok ""

/-- The replies to commands with an opening. -/
structure Rule where
  opening : String
  replies : List Prepared

/-- A scripted modem. -/
structure Script where
  rules : List Rule
  /-- The commands asked so far. -/
  sent : List String := []

/-- An operation that waits at a gate. -/
structure Hold where
  gate : String
  reply : Prepared
  /-- The gate was opened since the wait began. -/
  released : Bool := false

/-- The reply that is due, and those that are left. -/
def Rule.next : List Prepared → Prepared × List Prepared
  | [] => ({}, [])
  | [last] => (last, [last])
  | reply :: rest => (reply, rest)

/-- The reply that rules give to a command, and the rules after it. -/
def Rule.choose (body : String) : List Rule → Prepared × List Rule
  | [] => ({}, [])
  | rule :: rest =>
    if rule.opening.toList.isPrefixOf body.toList then
      let (reply, replies) := next rule.replies
      (reply, { rule with replies } :: rest)
    else
      let (reply, others) := choose body rest
      (reply, rule :: others)

/-- What an operation gets with a reply: the answer, and whether it is cancelled by it. A
request that cannot be interrupted has a token of its own, which nobody looks at. -/
def Prepared.deliver (reply : Prepared) (request : Request) : Answer × Bool :=
  (reply.answer, reply.cancels && request.interruptible)

/-- A cancelled operation does not wait for the reply. -/
def Prepared.skips (reply : Prepared) (cancelled : Bool) (request : Request) : Bool :=
  cancelled && request.interruptible && !reply.hard

/-- Responds to a request. -/
def Script.ask (s : Script) (cancelled : Bool) (request : Request) : Script × Response Hold :=
  let (reply, rules) := Rule.choose request.command.body s.rules
  let after := { rules, sent := s.sent ++ [request.command.body] }
  match reply.gate with
  | none =>
    let (answer, cancels) := reply.deliver request
    (after, .answered answer cancels)
  | some gate =>
    if reply.skips cancelled request then (after, .answered (.error .canceled) false)
    else (after, .blocked { gate, reply })

/-- What an operation that waits gets now, if its wait is over. -/
def Hold.wake (h : Hold) (cancelled : Bool) (request : Request) : Option (Answer × Bool) :=
  if h.reply.skips cancelled request then some (.error .canceled, false)
  else if h.released then some (h.reply.deliver request)
  else none

/-- The wait after a gate was opened. -/
def Hold.release (gate : String) (h : Hold) : Hold :=
  if h.gate = gate then { h with released := true } else h

end ModemLink.Bench
