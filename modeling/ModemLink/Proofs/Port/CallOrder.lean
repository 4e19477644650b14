import Mathlib
import ModemLink.Proofs.Port.Milestones
import ModemLink.Proofs.Port.Overlap
import ModemLink.Proofs.Port.Schedule

/-!
# Commands in the order of their calls

Commands that are called side by side on a port have it one after another, first come first served.
Each comes to what it would come to if it was called when the one before it is over, or at its own
instant if that is later, and so does the port. What is cancelled or dropped before its turn comes
leaves the port alone. Between a command that is written and the end of its call, nothing else is
written.

Source: the specification, section 10.2.

## Main definitions

* `Port.Serialized`: calls on the bench come to what they come to one after another.

## Main results

* `Port.serially_settle`: moves that are made on a free port, in order.
* `Port.Charted.ended_of_written`: a command and the end of its call.
* `Port.runCalls_serialized`: calls on the bench, after any run of the port.
-/

namespace ModemLink.Port

variable {p : Port} {ms : List (Nat × Bench.Move)}

/-- Moves that are made in order on a free port come to what their calls come to one after
another. -/
theorem serially_settle (hp : p.Vacant) (hclock : ∀ m ∈ ms, p.clock ≤ m.1)
    (hsorted : ms.Pairwise fun m m' => m.1 ≤ m'.1) (htickets : (ticketsOf ms).Nodup) :
    Serially p.bare (visitsOf ms) p.ended (settle ms p) := by
  have hbacklog : Backlog ms p.ended [] p.clock p :=
    { queue := hp.queue
      ended := .of_eq (List.append_nil _).symm
      idle := fun _ => rfl
      rests := .of_idle hp.active _
      past := by simp
      clock_le := hclock
      tickets := by
        rw [hp.active]
        exact htickets }
  exact (hbacklog.unrolls hclock hsorted).idle hp.active

theorem value_runCalls (p : Port) (attempts : List Bench.Attempt) :
    (Bench.runCalls p attempts).value = settle (Bench.schedule p.clock attempts) p := by
  rw [Bench.runCalls, Logged.value_bind]
  generalize Bench.schedule p.clock attempts = ms
  induction ms generalizing p with
  | nil => rfl
  | cons m ms ih =>
    rw [List.foldlM_cons, Logged.value_bind]
    exact ih _

/-- On a free port every command was followed by the end of its call. -/
theorem Charted.ended_of_written {passed : List Milestone} (h : p.Charted passed)
    (hidle : p.active = none) {i ticket : Nat} {text : String}
    (hwritten : passed[i]? = some (.written ticket text)) :
    ∃ answer, passed[i + 1]? = some (.ended ticket answer) := by
  obtain ⟨hi, hwritten⟩ := List.getElem?_eq_some_iff.mp hwritten
  by_cases hnext : i + 1 < passed.length
  · obtain ⟨answer, hover⟩ := h.chain.getElem i hnext ticket text hwritten
    exact ⟨answer, (List.getElem?_eq_getElem hnext).trans (congrArg some hover)⟩
  · -- The last milestone of a free port is the end of a call.
    have hlast : passed.getLast? = some (.written ticket text) := by
      have hlength : passed.length - 1 = i := by omega
      rw [List.getLast?_eq_getElem?, hlength, List.getElem?_eq_getElem hi, hwritten]
    obtain ⟨_, _, hover⟩ := h.idle_last hidle _ hlast
    cases hover

/-- Calls on the bench come to what they come to one after another. -/
structure Serialized (p : Port) (attempts : List Bench.Attempt) : Prop where
  /-- Every attempt makes its call. -/
  calls : ((visitsOf (Bench.schedule p.clock attempts)).map (·.call)).Perm
    (attempts.zipIdx.map fun a => a.1.call a.2)
  /-- A call is made, cancelled and dropped at the instants of its attempt. -/
  visits : ∀ v ∈ visitsOf (Bench.schedule p.clock attempts), ∃ a,
    attempts[v.call.ticket]? = some a ∧ v.call = a.call v.call.ticket ∧
      v.calledAt = p.clock + a.startAt ∧ v.withdrawals.Perm (a.withdrawals v.calledAt)
  /-- The calls are told in the order in which they are made. -/
  order : (visitsOf (Bench.schedule p.clock attempts)).Pairwise fun v v' =>
    v.calledAt ≤ v'.calledAt
  /-- The calls end as they end one after another, and leave the port as they leave it then. -/
  serially : Serially p.bare (visitsOf (Bench.schedule p.clock attempts)) p.ended
    (Bench.runCalls p attempts).value
  /-- What is written is written for one call after another: nothing comes between a command and the
  end of its call. -/
  undisturbed : ∃ passed : List Milestone,
    passed = p.playMilestones
      ((Bench.schedule p.clock attempts).map (fun m => .move m.1 m.2) ++ [.advance .unbounded]) ∧
    (Bench.runCalls p attempts).value.sent = p.sent ++ passed.filterMap (·.text?) ∧
    ∀ i ticket text, passed[i]? = some (.written ticket text) →
      ∃ answer, passed[i + 1]? = some (.ended ticket answer)

/-- Commands that are called on a free port, however they overlap and whether or not they are
cancelled or dropped, come to what they come to one after another, in the order of the calls. -/
theorem runCalls_serialized (name : String) (intake : Intake) (reactions : List Reaction)
    (earlier : List Act) (attempts : List Bench.Attempt) :
    let p : Port := (Port.play { name, intake, reactions } earlier).value
    p.Vacant → p.Serialized attempts := by
  intro p hp
  have hsorted := Bench.pairwise_schedule p.clock attempts
  have hserially := serially_settle hp Bench.le_of_mem_schedule hsorted
    (Bench.nodup_ticketsOf p.clock attempts)
  rw [← value_runCalls] at hserially
  have hbefore := (charted_new name intake reactions).play earlier
  rw [List.nil_append] at hbefore
  have hafter := hbefore.play ((Bench.schedule p.clock attempts).map (fun m => .move m.1 m.2) ++
    [.advance .unbounded])
  rw [← runCalls_eq_play] at hafter
  refine ⟨Bench.perm_calls p.clock attempts, fun v hv => Bench.visit_schedule hv,
    pairwise_visitsOf hsorted, hserially, _, rfl, ?_, ?_⟩
  · rw [hafter.sent, List.filterMap_append, ← hbefore.sent]
  · intro i ticket text hwritten
    obtain ⟨hvacant, -⟩ := hserially
    -- What was passed before comes first among the milestones of the whole run.
    have hshift {before later : List Milestone} (j : Nat) :
        (before ++ later)[before.length + j]? = later[j]? := by
      rw [List.getElem?_append_right (Nat.le_add_right ..), Nat.add_sub_cancel_left]
    obtain ⟨answer, hover⟩ := hafter.ended_of_written hvacant.active ((hshift i).trans hwritten)
    exact ⟨answer, (hshift (i + 1)).symm.trans hover⟩

/-- A modem that is late to answer the first command, and answers the second at once. -/
def tardy : Port where
  name := "ttyACM0"
  reactions := [.sends [⟨1100000, .bytes [0x4F, 0x4B, 0x0D, 0x0A]⟩],
    .sends [⟨50000, .bytes [0x4F, 0x4B, 0x0D, 0x0A]⟩]]

/-- While the first command waits for its answer, three others are called. One is cancelled and one
is dropped before the first times out. -/
def overlapping : List Bench.Attempt :=
  [{ command := ⟨"+CGACT=1,1", .ofSeconds 1, false⟩ },
    { command := .activationQuery, startAt := 100000, cancelAt := some 400000 },
    { command := .addressQuery 1, startAt := 200000, abortAt := some 400000 },
    { command := .activationQuery, startAt := 300000 }]

/-- The last of the calls gets the port when the first is over, and the two between write
nothing. -/
theorem runCalls_serialized_overlapping :
    tardy.Vacant ∧ tardy.Serialized overlapping ∧
      (Bench.runCalls tardy overlapping).value.ended =
        [⟨2, none, 600000⟩, ⟨0, some (.error (.timedOut (.ofSeconds 1))), 1000000⟩,
          ⟨1, some (.error .canceled), 1000000⟩, ⟨3, some (.ok ""), 1150000⟩] ∧
      (Bench.runCalls tardy overlapping).value.sent = ["AT+CGACT=1,1\r", "AT+CGACT?\r"] :=
  ⟨⟨rfl, rfl⟩, runCalls_serialized "ttyACM0" {} tardy.reactions [] overlapping ⟨rfl, rfl⟩,
    by cbv, by cbv⟩

end ModemLink.Port
