import ModemLink.Connection
import ModemLink.Reply.NameServer
import ModemLink.Sequence.Basic

/-!
# Reading the configuration of a context

Two queries: the addresses of the context, then the name servers of every context, of which
those of this one are kept. A server belongs to the configuration of its own family and is
dropped where the context has no address of that family.

Source: the specification, sections 4.2 and 10.1.
-/

namespace ModemLink

/-- The steps of reading a configuration, in order. -/
inductive InspectStep
  | queryAddress
  | queryDns
  | done
  deriving DecidableEq, Repr

namespace InspectStep

/-- The name of a step. -/
def name : InspectStep → String
  | queryAddress => "QueryAddress"
  | queryDns => "QueryDns"
  | done => "Done"

/-- How many commands may still be asked for from a step on. -/
def rank : InspectStep → Nat
  | queryAddress => 2
  | queryDns => 1
  | done => 0

end InspectStep

/-- An attempt to read the configuration of a context. -/
structure Inspect where
  cid : UInt32
  step : InspectStep := .queryAddress
  /-- What is known of the connection so far. -/
  found : Connection
  deriving DecidableEq, Repr

namespace Inspect

/-- The command of the current step. -/
def command? (i : Inspect) : Option Command :=
  match i.step with
  | .queryAddress => some (.addressQuery i.cid)
  | .queryDns => some .nameServerQuery
  | .done => none

/-- The configuration of a family with its name servers. -/
def withServers (servers : List String) (config : IpConfig) : IpConfig :=
  { config with dns := servers }

/-- What is logged of the addresses that the modem told. -/
def remarks (i : Inspect) (addresses : Reply.Addresses) : List Event :=
  if addresses.cid = i.cid then [] else [.otherContext i.cid addresses.cid]

/-- The attempt after the answer to its current command. -/
def advance (i : Inspect) (reply : String) : Logged (Except ReplyFault Inspect) :=
  match i.step with
  | .queryAddress =>
    match Reply.Addresses.read reply with
    | .error fault => pure (.error fault)
    | .ok addresses => do
      Logged.notes (i.remarks addresses)
      return .ok { i with
        step := .queryDns
        found := { i.found with
          ipv4 := addresses.ipv4.map fun address => { address }
          ipv6 := addresses.ipv6.map fun address => { address } } }
  | .queryDns =>
    match Reply.NameServers.read reply i.cid with
    | .error fault => pure (.error fault)
    | .ok servers =>
      return .ok { i with
        step := .done
        found := { i.found with
          ipv4 := i.found.ipv4.map (withServers servers.ipv4)
          ipv6 := i.found.ipv6.map (withServers servers.ipv6) } }
  | .done => return .ok i

/-- Reading a configuration as a sequence, which comes to what was found. -/
def sequence : Sequence Inspect Connection where
  title := "get IP config"
  stepName i := i.step.name
  command? := command?
  advance := advance
  result := found

/-- Goes on with the current step, unless the attempt was cancelled. -/
def proceed (i : Inspect) (cancelled : Bool) : Logged (Next Inspect (Except Fault Connection)) :=
  sequence.proceed i cancelled

/-- Begins to read the configuration of a context that runs on a data port. -/
def start (port : DataPort) (cid : UInt32) (family : IpFamily) (cancelled : Bool) :
    Logged (Next Inspect (Except Fault Connection)) := do
  Logged.note (.readingAddresses cid family port.name)
  proceed { cid, found := { port } } cancelled

/-- Goes on with the answer to the current command. -/
def resume (i : Inspect) (cancelled : Bool) (answer : Answer) :
    Logged (Next Inspect (Except Fault Connection)) :=
  sequence.resume i cancelled answer

/-- How many commands the attempt may still ask for, the current one included. -/
def rank (i : Inspect) : Nat := i.step.rank

theorem command?_eq_none_iff (i : Inspect) : i.command? = none ↔ i.step = .done := by
  cases hs : i.step <;> simp [command?, hs]

/-- A reply takes the attempt to a later step. -/
theorem rank_lt_of_advance {i after : Inspect} {reply : String}
    (h : (i.advance reply).value = .ok after) (hcommand : after.command?.isSome) :
    after.rank < i.rank := by
  have hs : after.step ≠ .done := fun hdone => by
    rw [(command?_eq_none_iff after).mpr hdone] at hcommand
    cases hcommand
  cases hi : i.step <;> simp only [advance, hi] at h
  case done =>
    simp only [Logged.value_pure, Except.ok.injEq] at h
    exact absurd (h ▸ hi) hs
  all_goals
    split at h
    · simp at h
    · simp only [Logged.value_bind, Logged.value_pure, Except.ok.injEq] at h
      subst h
      simp_all [rank, InspectStep.rank]

/-- The first request of an attempt is one of two. -/
theorem rank_le_of_start {port : DataPort} {cid : UInt32} {family : IpFamily} {cancelled : Bool}
    {request : Request} {after : Inspect}
    (h : (start port cid family cancelled).value = .ask request after) : after.rank ≤ 2 := by
  simp only [start, Logged.value_bind] at h
  obtain ⟨-, rfl, -⟩ := Sequence.of_proceed_eq_ask h
  simp [rank, InspectStep.rank]

end Inspect

end ModemLink
