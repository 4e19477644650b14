import ModemLink.Text.Blank
import ModemLink.Text.Utf8

/-!
# Unread input of a port

Input comes in at instants, counted in microseconds: bytes, the end of the stream, or a
failure of one read. It waits in order until somebody reads. A read takes input for as long as
a given condition on the instant holds. If that is over before a line is complete, the bytes
of the unfinished line are kept for the next read, so it makes no difference to the lines how
the input was cut or how often a read was given up.

Source: the specification, section 10.2.
-/

namespace ModemLink

/-- What comes in at one instant. -/
inductive Input
  | byte (b : UInt8)
  /-- The stream ends here. -/
  | closed
  /-- One read fails. -/
  | broken (reason : String)
  deriving DecidableEq, Repr

/-- Input and the instant from which it can be read. -/
structure Arrival where
  due : Nat
  input : Input
  deriving DecidableEq, Repr

/-- The input side of a port. -/
structure Intake where
  /-- The instant of the last thing that happened. -/
  clock : Nat := 0
  /-- The bytes of a line that is not complete. -/
  fragment : List UInt8 := []
  /-- What has not been read, in order. -/
  arrivals : List Arrival := []
  deriving DecidableEq, Repr

/-- How a read ends. -/
inductive Reading
  /-- A line is complete. -/
  | line (text : List Char)
  /-- The stream has ended, and nothing is left of it. -/
  | ended
  /-- The read failed. -/
  | broken (reason : String)
  /-- The time to read is over. -/
  | silent
  deriving DecidableEq, Repr

/-- The byte that ends a line. -/
def lineFeed : UInt8 := 0x0A

/-- The text of a line, given its bytes. -/
def lineOf (bytes : List UInt8) : List Char :=
  Text.trim (Text.Utf8.decode bytes)

namespace Intake

/-- Reads up to the end of a line from input of which some bytes have been read. Input that
came in earlier is read at the present instant. The end of the stream is never used up. -/
def readLine (admits : Nat → Bool) (clock : Nat) (fragment : List UInt8) :
    List Arrival → Intake × Reading
  | [] => (⟨clock, fragment, []⟩, .silent)
  | a :: rest =>
    let now := max a.due clock
    if admits now then
      match a.input with
      | .byte b =>
        if b = lineFeed then (⟨now, [], rest⟩, .line (lineOf fragment))
        else readLine admits now (fragment ++ [b]) rest
      | .closed =>
        if fragment.isEmpty then (⟨now, [], a :: rest⟩, .ended)
        else (⟨now, [], a :: rest⟩, .line (lineOf fragment))
      | .broken reason => (⟨now, fragment, rest⟩, .broken reason)
    else (⟨clock, fragment, a :: rest⟩, .silent)

/-- Reads up to the end of a line, at the instants that `admits` holds of. -/
def nextLine (admits : Nat → Bool) (i : Intake) : Intake × Reading :=
  readLine admits i.clock i.fragment i.arrivals

/-- How much there is to read: every arrival, and the bytes of an unfinished line as one. -/
def size (i : Intake) : Nat :=
  i.arrivals.length + if i.fragment.isEmpty then 0 else 1

private theorem size_readLine_lt {admits : Nat → Bool} {clock : Nat} {fragment : List UInt8}
    {arrivals : List Arrival} {after : Intake} {text : List Char}
    (h : readLine admits clock fragment arrivals = (after, .line text)) :
    after.size < arrivals.length + if fragment.isEmpty then 0 else 1 := by
  induction arrivals generalizing clock fragment with
  | nil => simp [readLine] at h
  | cons a rest ih =>
    simp only [readLine] at h
    split at h
    · split at h
      · split at h
        · simp only [Prod.mk.injEq] at h
          rw [← h.1]
          simp only [size, List.isEmpty_nil, if_true, List.length_cons]
          omega
        · have := ih h
          rw [if_neg (by simp)] at this
          simp only [List.length_cons]
          omega
      · split at h
        · simp at h
        · next hf =>
          simp only [Prod.mk.injEq] at h
          rw [← h.1, if_neg hf]
          simp [size]
      · simp at h
    · simp at h

/-- A read that completes a line leaves less to read. -/
theorem size_nextLine_lt {admits : Nat → Bool} {i after : Intake} {text : List Char}
    (h : i.nextLine admits = (after, .line text)) : after.size < i.size :=
  size_readLine_lt h

/-- The intake at an instant that has come. -/
def elapse (i : Intake) (now : Nat) : Intake :=
  { i with clock := max i.clock now }

/-- The intake with more input, which waits behind what comes in at the same instant. -/
def enqueue (i : Intake) (arrivals : List Arrival) : Intake :=
  { i with arrivals := i.arrivals.merge arrivals fun a b => a.due ≤ b.due }

end Intake

/-- Something a modem sends in one piece. -/
inductive Content
  | bytes (pieces : List UInt8)
  /-- The stream ends. -/
  | closed
  /-- One read fails. -/
  | broken (reason : String)
  deriving DecidableEq, Repr

/-- A piece, and how long after the one before it it is sent. -/
structure Chunk where
  /-- The time since the piece before, in microseconds. -/
  after : Nat
  content : Content
  deriving DecidableEq, Repr

/-- The input that a piece brings at an instant. -/
def Content.arrivals (due : Nat) : Content → List Arrival
  | bytes pieces => pieces.map fun b => ⟨due, .byte b⟩
  | closed => [⟨due, .closed⟩]
  | broken reason => [⟨due, .broken reason⟩]

/-- The input that pieces bring when the first is counted from `start`. -/
def Chunk.arrivals (start : Nat) : List Chunk → List Arrival
  | [] => []
  | c :: rest => c.content.arrivals (start + c.after) ++ arrivals (start + c.after) rest

end ModemLink
