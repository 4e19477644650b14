import ModemLink.Proofs.Port.GoingOn

/-!
# Calls on record

A port keeps a record of the calls that are over and never looks at it. So an exchange does the same
whatever is on record and whoever waits, and what it puts on record goes behind what is there.

## Main definitions

* `Port.recorded`: a port with other calls on record before its own.
* `Port.bare`: a port that nobody waits for and that has nothing on record.

## Main results

* `Port.goOn_bare`, `Port.take_bare`: an exchange, whatever is on record and whoever waits.
-/

namespace ModemLink.Port

/-- The port with other calls on record before its own. -/
def recorded (es : List Ended) (p : Port) : Port :=
  { p with ended := es ++ p.ended }

/-- The port with nobody waiting and nothing on record. -/
def bare (p : Port) : Port :=
  { p with queue := [], ended := [] }

@[simp] theorem active_recorded (es : List Ended) (p : Port) :
    (p.recorded es).active = p.active := rfl

/-- A port is a bare one with calls waiting and calls on record. -/
theorem eq_bare (p : Port) : p = (p.bare.recorded p.ended).withQueue p.queue := by
  simp only [bare, recorded, withQueue, List.append_nil]

/-- An exchange goes on as on a bare port. -/
theorem goOn_bare (p : Port) (horizon : Horizon) :
    p.goOn horizon = (fun q => (q.recorded p.ended).withQueue p.queue) <$> p.bare.goOn horizon :=
  (congrArg (goOn horizon) p.eq_bare).trans (goOn_among p.queue p.ended p.bare horizon)

/-- A call gets the port as it gets a bare one. -/
theorem take_bare (p : Port) (horizon : Horizon) (call : Call) :
    p.take horizon call =
      (fun q => (q.recorded p.ended).withQueue p.queue) <$> p.bare.take horizon call :=
  (congrArg (take · horizon call) p.eq_bare).trans (take_among p.queue p.ended p.bare horizon call)

end ModemLink.Port
