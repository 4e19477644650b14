import Mathlib.Data.List.Induction
import ModemLink.Station

/-!
# Runs of a station

A station is used by moves, in any order: bearers are created and let go, calls begin, answers
come in, operations are asked to stop or dropped where they wait. What lies between two waits
of an operation is one move, so the moves of several operations can be interleaved in every way
they can be interleaved at all. Each move is admitted in every state; one that names a bearer or
an operation that does not exist changes nothing.

## Main definitions

* `Station.Move`, `Station.perform`: the moves, and what each of them does.
* `Station.Return`, `Station.returned?`: the calls of bearers that come to their end by a move.
* `Station.Run`, `Station.Run.after`: where moves lead from a modem without bearers, and what
  its bearers' calls have returned on the way.
* `Station.lastConnection`: the connection that the latest success of a bearer left behind.
-/

namespace ModemLink

/-- The connection a success leaves its bearer with. -/
def Achievement.connection? : Achievement → Option Connection
  | connected c | refreshed c => some c
  | _ => none

/-- How the operation has ended, if it has. -/
def Progress.ending? : Progress → Option Ending
  | ended ending => some ending
  | _ => none

namespace Station

/-- Something that happens to a station between two waits of its operations. -/
inductive Move
  | create (profile : Profile)
  | release (bearer : Nat)
  | connect (bearer : Nat)
  | refresh (bearer : Nat)
  | disconnect (bearer : Nat)
  /-- The operation of a bearer is asked to stop. -/
  | cancel (bearer : Nat)
  | dial (profile : Profile) (cancelled : Bool)
  | inspect (port : DataPort) (cid : UInt32) (family : IpFamily) (cancelled : Bool)
  | teardown (port : DataPort) (cid : UInt32)
  /-- An operation gets the answer to its command. -/
  | answer (ticket : Nat) (answer : Answer)
  /-- An operation is asked to stop, by whoever holds its ticket. -/
  | cancelTicket (ticket : Nat)
  /-- An operation is dropped where it waits. -/
  | abort (ticket : Nat)
  deriving DecidableEq, Repr

/-- A move that brings an operation some way. -/
def advancing (moved : Logged (Station × Progress)) : Logged (Station × Option Progress) := do
  let (s, progress) ← moved
  return (s, some progress)

/-- Makes a move. -/
def perform (s : Station) : Move → Logged (Station × Option Progress)
  | .create profile => do
    let (s, _) ← s.create profile
    return (s, none)
  | .release id => return (s.release id, none)
  | .connect id => advancing (s.connect id)
  | .refresh id => advancing (s.refresh id)
  | .disconnect id => advancing (s.disconnect id)
  | .cancel id => return (s.cancel id, none)
  | .dial profile cancelled => advancing (s.dial profile cancelled)
  | .inspect port cid family cancelled => advancing (s.inspect port cid family cancelled)
  | .teardown port cid => advancing (s.teardown port cid)
  | .answer ticket answer => advancing (s.answer ticket answer)
  | .cancelTicket ticket => return (s.cancelTicket ticket, none)
  | .abort ticket => return (s.abort ticket, none)

/-- The station after a move. -/
def next (s : Station) (m : Move) : Station :=
  (s.perform m).value.1

/-- The end of a call of a bearer. -/
structure Return where
  bearer : Nat
  ending : Ending
  deriving DecidableEq, Repr

/-- The bearer whose call a move begins or brings on. -/
def callerOf? (s : Station) : Move → Option Nat
  | .connect id | .refresh id | .disconnect id => some id
  | .answer ticket _ => ((s.running? ticket).bind (·.owner)).map (·.bearer)
  | _ => none

/-- The call of a bearer that a move brings to its end. -/
def returned? (s : Station) (m : Move) : Option Return :=
  (s.callerOf? m).bind fun bearer =>
    ((s.perform m).value.2.bind Progress.ending?).map (Return.mk bearer)

theorem returned?_of_callerOf?_eq_none {s : Station} {m : Move} (h : s.callerOf? m = none) :
    s.returned? m = none := by
  rw [returned?, h]
  rfl

theorem returned?_of_advancing {s : Station} {m : Move} {moved : Logged (Station × Progress)}
    (hm : s.perform m = advancing moved) :
    s.returned? m =
      (s.callerOf? m).bind fun bearer => moved.value.2.ending?.map (Return.mk bearer) := by
  rw [returned?, hm]
  rfl

/-- Where moves have led. -/
structure Run where
  station : Station
  /-- What the calls of bearers have returned, in order. -/
  returned : List Return := []
  deriving DecidableEq, Repr

namespace Run

/-- The run with one more move. -/
def extend (run : Run) (m : Move) : Run :=
  ⟨run.station.next m, run.returned ++ (run.station.returned? m).toList⟩

/-- The run of moves from a modem without bearers. -/
def after (modem : Modem) (moves : List Move) : Run :=
  moves.foldl extend { station := { modem } }

@[simp] theorem after_nil (modem : Modem) : after modem [] = { station := { modem } } := rfl

theorem after_concat (modem : Modem) (moves : List Move) (m : Move) :
    after modem (moves ++ [m]) = (after modem moves).extend m := by
  simp only [after, List.foldl_append, List.foldl_cons, List.foldl_nil]

/-- What holds of a modem without bearers, and is kept by every move, holds of every run. -/
theorem after_induction {P : Run → Prop} (modem : Modem) (moves : List Move)
    (start : P { station := { modem } }) (step : ∀ run, ∀ m ∈ moves, P run → P (run.extend m)) :
    P (after modem moves) := by
  induction moves using List.reverseRecOn with
  | nil => exact start
  | append_singleton moves m ih =>
    rw [after_concat]
    exact step _ m (by simp) (ih fun run m' hm' => step run m' (by simp [hm']))

end Run

/-! ### What a bearer has achieved -/

/-- What the calls of a bearer have achieved, in order. -/
def achievements (id : Nat) (returned : List Return) : List Achievement :=
  returned.filterMap fun r => if r.bearer = id then r.ending.toOption else none

/-- The connection that the latest success of a bearer left behind; a session that was ended
left none. -/
def lastConnection (id : Nat) (returned : List Return) : Option Connection :=
  (achievements id returned).getLast?.bind Achievement.connection?

/-- A success takes the place of all earlier ones. -/
theorem lastConnection_concat_ok (id : Nat) (returned : List Return) (a : Achievement) :
    lastConnection id (returned ++ [⟨id, .ok a⟩]) = a.connection? := by
  simp [lastConnection, achievements, Except.toOption]

/-- A call that fails leaves what was achieved before. -/
theorem lastConnection_concat_error (id other : Nat) (returned : List Return) (f : Fault) :
    lastConnection id (returned ++ [⟨other, .error f⟩]) = lastConnection id returned := by
  simp [lastConnection, achievements, Except.toOption]

/-- The calls of one bearer achieve nothing for another. -/
theorem lastConnection_concat_of_ne {id : Nat} {r : Return} (h : r.bearer ≠ id)
    (returned : List Return) :
    lastConnection id (returned ++ [r]) = lastConnection id returned := by
  simp [lastConnection, achievements, h]

/-- A bearer that has called nothing has achieved nothing. -/
theorem lastConnection_of_forall_ne {id : Nat} {returned : List Return}
    (h : ∀ r ∈ returned, r.bearer ≠ id) : lastConnection id returned = none := by
  have hnone : achievements id returned = [] := by
    rw [achievements, List.filterMap_eq_nil_iff]
    intro r hr
    rw [if_neg (h r hr)]
  rw [lastConnection, hnone]
  rfl

/-! ### A modem for runs with given answers -/

/-- A modem whose data port tells both indices. -/
def indexedModem : Modem :=
  { dataPorts := [
      { name := "wwan0", properties := [(DataPort.acmKey, "0"), (DataPort.ncmKey, "1")] }] }

end Station

end ModemLink
