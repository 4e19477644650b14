import ModemLink.Station

/-!
# Driving operations over a channel

A channel has a state of its own and responds to each request: with the answer, or by keeping
the operation waiting. Driving an operation hands it answers until it ends or is kept waiting.
This comes to an end because an operation has fewer requests left after every answer.

Source: the specification, sections 5 and 6.
-/

namespace ModemLink

/-- How a channel responds to a request. -/
inductive Response (ω : Type)
  /-- The answer is there. By then the operation may have been cancelled. -/
  | answered (answer : Answer) (cancels : Bool)
  /-- The operation has to wait. -/
  | blocked (hold : ω)

/-- A way to reach a modem, with a state of its own. -/
structure Channel (σ ω : Type) where
  /-- Responds to a request of an operation that may already be cancelled. -/
  ask : σ → Bool → Request → Logged (σ × Response ω)

/-- Where driving an operation has come to. -/
inductive Halt (ω : Type)
  /-- There is no such bearer or operation. -/
  | unknown
  /-- The operation has to wait for the answer to a request. -/
  | blocked (ticket : Nat) (request : Request) (hold : ω)
  /-- The operation has ended. -/
  | ended (ending : Ending)

namespace Station

/-- Somebody asked the operation to stop. -/
def isCancelled (s : Station) (ticket : Nat) : Bool :=
  (s.running? ticket).any (·.cancelled)

/-- The station with an operation asked to stop, if it is to be. -/
def cancelIf (s : Station) (cancels : Bool) (ticket : Nat) : Station :=
  if cancels then s.cancelTicket ticket else s

/-- A bound on the commands the operation may still ask for. -/
def rankOf (s : Station) (ticket : Nat) : Nat :=
  (s.running? ticket).elim 0 (·.operation.rank)

private theorem running?_map (l : List Running) (f : Running → Running) (ticket : Nat)
    (hf : ∀ r, (f r).ticket = r.ticket) :
    (l.map f).find? (·.ticket == ticket) = (l.find? (·.ticket == ticket)).map f := by
  rw [List.find?_map]
  have : ((fun r : Running => r.ticket == ticket) ∘ f) = fun r => r.ticket == ticket := by
    funext r
    simp [hf r]
  rw [this]

@[simp] theorem rankOf_cancelIf (s : Station) (cancels : Bool) (ticket other : Nat) :
    (s.cancelIf cancels ticket).rankOf other = s.rankOf other := by
  cases cancels
  · rfl
  · have hf : ∀ r : Running,
        (if r.ticket = ticket then { r with cancelled := true } else r).ticket = r.ticket := by
      intro r
      split <;> rfl
    simp only [cancelIf, if_true, rankOf, cancelTicket, running?]
    rw [running?_map _ _ _ hf]
    cases s.running.find? (·.ticket == other) with
    | none => rfl
    | some r =>
      simp only [Option.map_some, Option.elim_some]
      split <;> rfl

/-- An operation that waits again after an answer has fewer requests left. -/
theorem rankOf_lt_of_answer {s after : Station} {ticket other : Nat} {answer : Answer}
    {request : Request} (h : (s.answer ticket answer).value = (after, .waits other request)) :
    after.rankOf other < s.rankOf ticket := by
  cases hr : s.running? ticket with
  | none => simp [Station.answer, hr] at h
  | some r =>
    have ht : r.ticket = ticket := by
      have := List.find?_some hr
      simpa using this
    simp only [Station.answer, hr, Logged.value_bind] at h
    split at h
    · next request' op hop =>
      simp only [Logged.value_pure, Prod.mk.injEq, Progress.waits.injEq] at h
      obtain ⟨rfl, rfl, -⟩ := h
      have hf : ∀ q : Running,
          (if q.ticket = ticket then { q with operation := op, request := request' } else q).ticket
            = q.ticket := by
        intro q
        split <;> rfl
      have hfind : s.running.find? (·.ticket == ticket) = some r := hr
      simp only [rankOf, running?, running?_map _ _ _ hf, hfind, Option.map_some,
        Option.elim_some, ht, if_true]
      exact Operation.rank_lt_of_resume hop
    · simp at h

variable {σ ω : Type}

/-- Drives an operation that waits for the answer to a request. -/
def drive (channel : Channel σ ω) (s : Station) (state : σ) (ticket : Nat) (request : Request) :
    Logged (Station × σ × Halt ω) :=
  let asked := channel.ask state (s.isCancelled ticket) request
  match asked.value.2 with
  | .blocked hold => ⟨(s, asked.value.1, .blocked ticket request hold), asked.log⟩
  | .answered answer cancels =>
    let told := (s.cancelIf cancels ticket).answer ticket answer
    match h : told.value with
    | (after, .waits other request) =>
      have : after.rankOf other < s.rankOf ticket := by
        simpa using rankOf_lt_of_answer h
      let rest := drive channel after asked.value.1 other request
      ⟨rest.value, asked.log ++ told.log ++ rest.log⟩
    | (after, .unknown) => ⟨(after, asked.value.1, .unknown), asked.log ++ told.log⟩
    | (after, .ended ending) => ⟨(after, asked.value.1, .ended ending), asked.log ++ told.log⟩
termination_by s.rankOf ticket

/-- Drives an operation on from what a move has brought it to. -/
def driveOn (channel : Channel σ ω) (state : σ) (moved : Logged (Station × Progress)) :
    Logged (Station × σ × Halt ω) := do
  let (s, progress) ← moved
  match progress with
  | .unknown => return (s, state, .unknown)
  | .ended ending => return (s, state, .ended ending)
  | .waits ticket request => drive channel s state ticket request

end Station

end ModemLink
