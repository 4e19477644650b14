import ModemLink.Command

/-!
# Requests and answers

What an operation puts to a modem, and what the modem gives back.

Source: the specification, section 6.
-/

namespace ModemLink

/-- A command put to the modem. -/
structure Request where
  command : Command
  /-- The command is given up when the caller cancels the operation. -/
  interruptible : Bool
  deriving DecidableEq, Repr

/-- What a modem gives back for a request: the information text of its answer, or a fault. -/
abbrev Answer := Except Fault String

end ModemLink
