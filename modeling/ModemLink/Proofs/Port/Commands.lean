import ModemLink.Proofs.Port.Answers
import ModemLink.Proofs.Port.GoingOn

/-!
# Commands on a port that holds lines

What becomes of a command, and of the port, is told by the lines that the port holds when the
command is sent and by those that the modem sends about it.

## Main definitions

* `Port.outcome`: how a command ends, given what its port has heard.

## Main results

* `Port.value_send`: a command that is sent, on a port that nothing else happens to.
* `Port.outcome_of_completes`, `Port.outcome_of_incomplete`: how a command ends, given its lines.
* `Port.value_drain`: a command that has to wait for leftover input to be drained.
-/

namespace ModemLink

namespace Port

variable {p : Port} {lines : List DueLine}

/-- How a command ends whose port has heard this by the deadline. -/
def outcome (call : Call) : Heard → Answer
  | .answer a => a
  | .more _ => timeout call

/-- The answer to the command may still come in. -/
def abandons : Answer → Bool
  | .ok _ => false
  | .error fault => isAbandonment fault

theorem value_finish (p : Port) (call : Call) (answer : Answer) :
    (p.finish call answer).value =
      { p with
        active := none
        stale := p.stale || abandons answer
        ended := p.ended ++ [⟨call.ticket, some answer, p.clock⟩] } := by
  cases answer with
  | ok text => simp [finish, record, abandons]
  | error fault => simp [finish, record, abandons, clock]

/-- A port listens to the lines it holds, and the call ends as they tell. -/
theorem value_listen (h : p.intake.Holds lines) (call : Call) {deadline : Nat}
    (hclock : p.clock ≤ deadline) (l : Listening) :
    ∃ intake : Intake,
      intake.Holds (l.hearAll (Intake.listens deadline .unbounded) lines).1 ∧
      p.clock ≤ intake.clock ∧ intake.clock ≤ deadline ∧
      (p.listen .unbounded call deadline l).value =
        ({ p with intake }.finish call
          (outcome call (l.hearAll (Intake.listens deadline .unbounded) lines).2)).value := by
  match hheard : l.hearAll (Intake.listens deadline .unbounded) lines with
  | (rest, .answer a) =>
    obtain ⟨after, hvalue, hle, hdeadline, hholds⟩ := h.listen_of_answer hheard
    refine ⟨after, hholds, hle, hdeadline, ?_⟩
    simp only [listen, Logged.value_bind, hvalue]
    rfl
  | (rest, .more l') =>
    obtain ⟨after, hvalue, hafter, hholds⟩ := h.listen_of_expired hheard rfl hclock
    refine ⟨after, hholds, hafter ▸ hclock, Nat.le_of_eq hafter, ?_⟩
    simp only [listen, Logged.value_bind, hvalue]
    rfl

/-- A command is sent, and the port listens to the lines it held before and to those that the
modem sends about the command. -/
theorem value_send (h : p.intake.Holds lines) (call : Call) {deadline : Nat}
    (hclock : p.clock ≤ deadline) {chunks : List Chunk} {rest : List Reaction}
    (hreactions : p.reactions = .sends chunks :: rest) {new : List DueLine}
    (hnew : Intake.HoldsFrom p.clock [] (Chunk.arrivals p.clock chunks) new)
    (hlast : ∀ a ∈ Chunk.arrivals p.clock chunks,
      Intake.HoldsFrom.last p.clock lines ≤ a.due) :
    let heard := (Listening.toCommand call.command.body).hearAll
      (Intake.listens deadline .unbounded) (lines ++ new)
    ∃ intake : Intake, intake.Holds heard.1 ∧ p.clock ≤ intake.clock ∧ intake.clock ≤ deadline ∧
      (p.send .unbounded call deadline).value =
        ({ p with
          intake
          reactions := rest
          sent := p.sent ++ ["AT" ++ call.command.body ++ "\r"] }.finish call
            (outcome call heard.2)).value := by
  intro heard
  have hwrite : ({ p with reactions := rest }.write call.command.body chunks).intake.Holds
      (lines ++ new) :=
    h.enqueue hnew (fun a ha => (Chunk.due_arrivals p.clock chunks a ha).1) hlast
  obtain ⟨intake, hholds, hle, hdeadline, hvalue⟩ :=
    value_listen hwrite call hclock (Listening.toCommand call.command.body)
  refine ⟨intake, hholds, hle, hdeadline, ?_⟩
  rw [send]
  simp only [hreactions]
  exact hvalue

/-- With no horizon, a port listens up to the deadline. -/
theorem listens_unbounded (deadline t : Nat) :
    Intake.listens deadline .unbounded t = true ↔ t ≤ deadline := by
  simp [Intake.listens, Horizon.admits]

/-- A command ends with the answer that its lines complete, unless some of them are late. -/
theorem outcome_of_completes (call : Call) (deadline : Nat) {l : Listening} {lines : List DueLine}
    {a : Answer} (h : l.Completes (lines.map DueLine.text) a)
    (hsorted : lines.Pairwise fun line line' => line.due ≤ line'.due) (rest : List DueLine) :
    outcome call (l.hearAll (Intake.listens deadline .unbounded) (lines ++ rest)).2 =
      if ∀ line ∈ lines, line.due ≤ deadline then a else timeout call := by
  have hheard := h.hearAll hsorted (@Intake.listens_of_le deadline .unbounded) rest
  simp only [listens_unbounded] at hheard
  by_cases hdue : ∀ line ∈ lines, line.due ≤ deadline
  · rw [if_pos hdue] at hheard ⊢
    rw [hheard]
    rfl
  · rw [if_neg hdue] at hheard ⊢
    obtain ⟨l', hmore⟩ := hheard
    rw [hmore]
    rfl

/-- A command whose lines do not complete an answer times out. -/
theorem outcome_of_incomplete (call : Call) (deadline : Nat) {l l' : Listening}
    {lines : List DueLine} (h : l.hearTexts? (lines.map DueLine.text) = some l') :
    outcome call (l.hearAll (Intake.listens deadline .unbounded) lines).2 = timeout call := by
  obtain ⟨l'', hmore⟩ : ∃ l'',
      (l.hearAll (Intake.listens deadline .unbounded) (lines ++ [])).2 = .more l'' :=
    Listening.hearAll_of_late h [] (by simp)
  rw [List.append_nil] at hmore
  rw [hmore]
  rfl

/-- A port drains the lines it holds, and then sends the command, if there is time left. -/
theorem value_drain (h : p.intake.Holds lines) (call : Call) (deadline : Nat) {quietAt : Nat}
    (hquiet : p.clock ≤ quietAt) :
    match drainAll deadline quietAt lines with
    | some (rest, now) =>
      ∃ intake : Intake, intake.Holds rest ∧ intake.clock = now ∧ now ≤ deadline ∧
        (p.drain .unbounded call deadline quietAt).value =
          (Port.send { p with intake } .unbounded call deadline).value
    | none =>
      ∃ intake : Intake, (p.drain .unbounded call deadline quietAt).value =
        (Port.finish { p with intake } call (timeout call)).value := by
  have hdrains : p.intake.DrainsTo deadline quietAt (drainAll deadline quietAt lines) :=
    h.drainsTo hquiet
  revert hdrains
  match drainAll deadline quietAt lines with
  | some (rest, now) =>
    rintro ⟨intake, hvalue, hclock, -, hle, hholds⟩
    refine ⟨intake, hholds, hclock, hle, ?_⟩
    simp only [drain, Logged.value_bind, hvalue]
  | none =>
    rintro ⟨intake, hvalue⟩
    refine ⟨intake, ?_⟩
    simp only [drain, Logged.value_bind, hvalue]

end Port

end ModemLink
