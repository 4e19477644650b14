import Mathlib
import ModemLink.Proofs.Port.Milestones

/-!
# What a port remembers of unfinished commands

A command whose final result was not read leaves output behind, and a port that counts as stale
drains it before it writes the next command. The mark is set where a call that has the port times
out or is cancelled, and nowhere else; and a port that begins to drain takes it off. So a free port
is stale exactly where its last command is unfinished and the last call that had it was given up.
Where that call was dropped, or the line failed under it, the mark is lost: be it that the call had
sent a command itself, or that it was draining what an earlier one left behind.

Source: the specification, section 10.2.

## Main definitions

* `Port.Remembers`: how a free port stands to the command it wrote last.
* `Port.brokenDrain`: a modem whose line fails while the port drains.

## Main results

* `Port.play_remembers`: what a port remembers after any run.
-/

namespace ModemLink.Port

open Milestone (isFinal isGivenUp lastOutcome? unfinished givenUp)

/-- How a free port stands to the command it wrote last, given its milestones. -/
structure Remembers (p : Port) (ms : List Milestone) : Prop where
  /-- The milestones are those of the port. -/
  charted : p.Charted ms
  /-- The port is stale where the last command is unfinished and the last call was given up. -/
  stale_iff : p.stale = true ↔ unfinished ms = true ∧ givenUp ms = true
  /-- Unless the last call was dropped, or the line failed under it, every unfinished command is
  remembered. -/
  stale_iff_unfinished :
    (∀ outcome, lastOutcome? ms = some outcome →
      isGivenUp outcome = true ∨ outcome.any isFinal = true) →
    (p.stale = true ↔ unfinished ms = true)
  /-- A stale port writes nothing before it has drained. -/
  drains : p.stale = true → ∀ horizon call ticket text rest,
    p.takeMilestones horizon call ≠ .written ticket text :: rest
  /-- A port that is not stale drains nothing. -/
  writes : p.stale = false → ∀ horizon call ticket,
    .drained ticket ∉ p.takeMilestones horizon call

variable {p : Port} {ms : List Milestone}

/-! ### Draining comes first -/

theorem drained_not_mem_ofListen (p : Port) (horizon : Horizon) (call : Call)
    (deadline : Nat) (l : Listening) (ticket : Nat) :
    .drained ticket ∉ Milestone.watch.ofListen p horizon call deadline l := by
  rw [Watch.ofListen]
  split <;> simp [Milestone.watch]

theorem drained_not_mem_ofSend (p : Port) (horizon : Horizon) (call : Call)
    (deadline ticket : Nat) :
    .drained ticket ∉ Milestone.watch.ofSend p horizon call deadline := by
  have hwritten (p : Port) (chunks : List Chunk) :
      .drained ticket ∉ Milestone.watch.written p chunks call := by simp [Milestone.watch]
  rw [Watch.ofSend]
  split
  · simp [hwritten, drained_not_mem_ofListen]
  · simp [hwritten, drained_not_mem_ofListen]
  · simp [Milestone.watch]

theorem ofDrain_ne_written (p : Port) (horizon : Horizon) (call : Call)
    (deadline quietAt ticket : Nat) (text : String) (rest : List Milestone) :
    Milestone.watch.ofDrain p horizon call deadline quietAt ≠ .written ticket text :: rest := by
  rw [Watch.ofDrain]
  split <;> simp [Milestone.watch]

/-! ### What is remembered -/

/-- A call that ended with a final result left nothing unfinished behind. -/
theorem Charted.unfinished_of_isFinal (h : p.Charted ms) (hidle : p.active = none)
    {outcome : Option Answer} (hlast : lastOutcome? ms = some outcome)
    (hfinal : outcome.any isFinal = true) : unfinished ms = false := by
  rcases List.eq_nil_or_concat ms with rfl | ⟨before, m, rfl⟩
  · rfl
  · rw [List.concat_eq_append] at *
    obtain ⟨ticket, answer, rfl⟩ := h.idle_last hidle m List.getLast?_concat
    rw [Milestone.lastOutcome?_concat_ended] at hlast
    obtain rfl := Option.some.inj hlast
    simp [Milestone.leaves, hfinal]

/-- A free port with its milestones remembers what they leave unfinished, as far as the last call
was given up. -/
theorem Charted.remembers (h : p.Charted ms) (hidle : p.active = none) : p.Remembers ms where
  charted := h
  stale_iff := by rw [h.idle_stale hidle, Bool.and_eq_true]
  stale_iff_unfinished houtcome := by
    rw [h.idle_stale hidle]
    cases hlast : lastOutcome? ms with
    | none =>
      have hnil : ms = [] := by
        rcases List.eq_nil_or_concat ms with hnil | ⟨before, m, rfl⟩
        · exact hnil
        · rw [List.concat_eq_append] at *
          obtain ⟨ticket, answer, rfl⟩ := h.idle_last hidle m List.getLast?_concat
          simp at hlast
      simp [hnil, unfinished]
    | some outcome =>
      rcases houtcome outcome hlast with hgiven | hfinal
      · simp [givenUp, hlast, hgiven]
      · simp [h.unfinished_of_isFinal hidle hlast hfinal]
  drains hstale horizon call ticket text rest := by
    cases hcancelled : call.cancelled with
    | true => simp [takeMilestones, Watch.ofTake, hcancelled]
    | false =>
      simp only [takeMilestones, Watch.ofTake, hcancelled, hstale, Bool.false_eq_true, if_false,
        if_true]
      exact ofDrain_ne_written _ horizon call _ _ ticket text rest
  writes hstale horizon call ticket := by
    cases hcancelled : call.cancelled with
    | true => simp [takeMilestones, Watch.ofTake, hcancelled]
    | false =>
      simp only [takeMilestones, Watch.ofTake, hcancelled, hstale, Bool.false_eq_true, if_false]
      exact drained_not_mem_ofSend p horizon call _ ticket

/-- After every run of a port, whatever its calls come to and whatever the modem sends, a port that
no call has remembers what is unfinished where the last call that had it was given up. -/
theorem play_remembers (name : String) (intake : Intake) (reactions : List Reaction)
    (acts : List Act) :
    let p : Port := { name, intake, reactions }
    (p.play acts).value.active = none →
      (p.play acts).value.Remembers (p.playMilestones acts) := by
  intro p hidle
  have h := (charted_new name intake reactions).play acts
  rw [List.nil_append] at h
  exact h.remembers hidle

/-- A modem that is late to answer a command, on a line that fails for a moment before it does. -/
def brokenDrain : Port where
  name := "ttyACM0"
  reactions :=
    [.sends [⟨1100000, .broken "device busy"⟩, ⟨400000, .bytes [0x4F, 0x4B, 0x0D, 0x0A]⟩]]

/-- An activation times out, and the line fails while the next command drains. -/
def brokenDrainActs : List Act :=
  [.move 0 (.call ⟨0, ⟨"+CGACT=1,1", .ofSeconds 1, false⟩, false⟩), .advance .unbounded,
    .move 1000000 (.call ⟨1, .activationQuery, false⟩), .advance .unbounded]

/-- The activation is unfinished, and the port does not remember it: the command that comes next is
written at once, and takes the final result of the activation for its own. -/
theorem play_remembers_brokenDrain :
    (brokenDrain.play brokenDrainActs).value.active = none ∧
      (brokenDrain.play brokenDrainActs).value.Remembers
        (brokenDrain.playMilestones brokenDrainActs) ∧
      unfinished (brokenDrain.playMilestones brokenDrainActs) = true ∧
      (brokenDrain.play brokenDrainActs).value.stale = false ∧
      ((brokenDrain.play (brokenDrainActs ++ [.move 1450000 (.call ⟨2, .addressQuery 1, false⟩),
        .advance .unbounded])).value.ended.drop 2) = [⟨2, some (.ok ""), 1500000⟩] := by
  have hidle : (brokenDrain.play brokenDrainActs).value.active = none := by cbv
  have hmilestones : brokenDrain.playMilestones brokenDrainActs =
      [.written 0 "AT+CGACT=1,1\r", .ended 0 (some (.error (.timedOut (.ofSeconds 1)))),
        .ended 1 (some (.error (.lineBroken "device busy")))] := by cbv
  have hunfinished : unfinished (brokenDrain.playMilestones brokenDrainActs) = true := by
    have htimedOut : isFinal (.error (.timedOut (.ofSeconds 1))) = false := rfl
    simp [hmilestones, unfinished, Milestone.leaves, Milestone.isFinal_lineBroken, htimedOut]
  exact ⟨hidle, play_remembers "ttyACM0" {} brokenDrain.reactions brokenDrainActs hidle,
    hunfinished, by cbv, by cbv⟩

end ModemLink.Port
