import ModemLink.Drive

/-!
# Operations played out by themselves

What an operation puts to a channel, what comes back, and how it ends depends on nothing of the
station around it. It is played out here by itself.

What a channel was asked and how it responded is a list of rounds. A round tells whether the
operation had been asked to stop when its request was put; together with the response this says
whether it is to stop at the next step. A *course* is a list of rounds that a sequence of
commands can take, whatever the channel does: statements about all channels are statements about
all courses, by induction on them.

## Main definitions

* `Next.Course`: the rounds that a sequence can take, and where they lead.
* `Turn.play`: a turn of an operation, played out over a channel.
* `Channel.recorded`: the channel that keeps a record of its rounds.

## Main results

* `Next.Course.eq_of_prefix`: the responses decide which course a sequence takes.
* `Turn.course_play`: playing takes a course, and the record is that course.
-/

namespace ModemLink

/-- A request put to a channel, and its response. -/
structure Round (ω : Type) where
  request : Request
  /-- The operation had been asked to stop when the request was put. -/
  cancelled : Bool
  response : Response ω

namespace Round

variable {ω : Type}

/-- The operation has been asked to stop by the time of the response. -/
def cancelledAfter (r : Round ω) : Bool :=
  match r.response with
  | .answered _ cancels => r.cancelled || cancels
  | .blocked _ => r.cancelled

/-- The text that the request was answered with, if it succeeded. -/
def reply? (r : Round ω) : Option String :=
  match r.response with
  | .answered (.ok reply) _ => some reply
  | _ => none

/-- The operation has been asked to stop by the end of some rounds, given whether it had been
before them. -/
def cancelledAt (cancelled : Bool) (rounds : List (Round ω)) : Bool :=
  (rounds.getLast?.map cancelledAfter).getD cancelled

theorem cancelledAt_cons (cancelled : Bool) (r : Round ω) (rounds : List (Round ω)) :
    cancelledAt cancelled (r :: rounds) = cancelledAt r.cancelledAfter rounds := by
  cases rounds with
  | nil => rfl
  | cons r' rounds => simp [cancelledAt, List.getLast?_cons]

/-- The rounds in which every request is answered with the reply to its command, and nobody asks the
operation to stop. -/
def replied (reply : Command → String) (requests : List Request) : List (Round ω) :=
  requests.map fun request => ⟨request, false, .answered (.ok (reply request.command)) false⟩

theorem replied_append (reply : Command → String) (requests requests' : List Request) :
    (replied reply (requests ++ requests') : List (Round ω)) =
      replied reply requests ++ replied reply requests' :=
  List.map_append

end Round

/-- How a sequence that runs on a channel comes to a stop. -/
inductive Stop (ρ ω : Type)
  /-- It has to wait for the answer to a request. -/
  | blocked (request : Request) (hold : ω)
  /-- It has ended. -/
  | ended (result : ρ)

namespace Stop

variable {ρ ρ' ω : Type}

/-- The stop with another result. -/
def map (f : ρ → ρ') : Stop ρ ω → Stop ρ' ω
  | blocked request hold => .blocked request hold
  | ended result => .ended (f result)

/-- The stop of an operation, as whoever drives it sees it. -/
def halt (ticket : Nat) : Stop Ending ω → Halt ω
  | blocked request hold => .blocked ticket request hold
  | ended ending => .ended ending

end Stop

namespace Next

variable {σ ρ ω : Type}

/-- The rounds that a sequence can take from where it is, and where they lead. The answers are
any, and the operation may be asked to stop during any round; what is done with them is for
`resume` to say. -/
inductive Course (resume : Bool → Answer → σ → Next σ ρ) :
    Next σ ρ → Bool → List (Round ω) → Stop ρ ω → Prop
  | done (result : ρ) (cancelled : Bool) : Course resume (.done result) cancelled [] (.ended result)
  | blocked (request : Request) (state : σ) (cancelled : Bool) (hold : ω) :
    Course resume (.ask request state) cancelled [⟨request, cancelled, .blocked hold⟩]
      (.blocked request hold)
  | answered {request : Request} {state : σ} {cancelled cancels : Bool} {answer : Answer}
    {rounds : List (Round ω)} {stop : Stop ρ ω}
    (rest : Course resume (resume (cancelled || cancels) answer state) (cancelled || cancels)
      rounds stop) :
    Course resume (.ask request state) cancelled
      (⟨request, cancelled, .answered answer cancels⟩ :: rounds) stop

/-- What a sequence does follows from the responses: two courses of it that agree as far as the
shorter one goes are the same. -/
theorem Course.eq_of_prefix {resume : Bool → Answer → σ → Next σ ρ} {next : Next σ ρ}
    {cancelled : Bool} {rounds rounds' l : List (Round ω)} {stop stop' : Stop ρ ω}
    (h : Course resume next cancelled rounds stop) (h' : Course resume next cancelled rounds' stop')
    (hl : rounds <+: l) (hl' : rounds' <+: l) : rounds = rounds' ∧ stop = stop' := by
  induction h generalizing rounds' l with
  | done result cancelled =>
    cases h'
    exact ⟨rfl, rfl⟩
  | blocked request state cancelled hold =>
    obtain ⟨l, rfl⟩ := hl
    cases h' with
    | blocked =>
      obtain ⟨hround, -⟩ := List.cons_prefix_cons.mp hl'
      cases hround
      exact ⟨rfl, rfl⟩
    | answered =>
      obtain ⟨hround, -⟩ := List.cons_prefix_cons.mp hl'
      cases hround
  | answered rest ih =>
    obtain ⟨l, rfl⟩ := hl
    cases h' with
    | blocked =>
      obtain ⟨hround, -⟩ := List.cons_prefix_cons.mp hl'
      cases hround
    | answered rest' =>
      obtain ⟨hround, hrest⟩ := List.cons_prefix_cons.mp hl'
      cases hround
      obtain ⟨rfl, rfl⟩ := ih rest' (List.prefix_append _ _) hrest
      exact ⟨rfl, rfl⟩

end Next

/-! ### Playing a turn out -/

namespace Turn

variable {σ ω : Type}

/-- A bound on the requests the turn may still lead to. -/
def rank : Turn → Nat
  | .ask _ op => op.rank + 1
  | .done _ => 0

theorem rank_resume_lt (op : Operation) (cancelled : Bool) (answer : Answer) :
    rank (op.resume cancelled answer).value < op.rank + 1 := by
  cases h : (op.resume cancelled answer).value with
  | ask request after => exact Nat.succ_lt_succ (Operation.rank_lt_of_resume h)
  | done ending => exact Nat.succ_pos _

/-- Plays a turn out over a channel. -/
def play (channel : Channel σ ω) (state : σ) (cancelled : Bool) (turn : Turn) :
    Logged (σ × Stop Ending ω) :=
  match turn with
  | .done ending => pure (state, .ended ending)
  | .ask request op =>
    let asked := channel.ask state cancelled request
    match asked.value.2 with
    | .blocked hold => ⟨(asked.value.1, .blocked request hold), asked.log⟩
    | .answered answer cancels =>
      let told := op.resume (cancelled || cancels) answer
      let rest := play channel asked.value.1 (cancelled || cancels) told.value
      ⟨rest.value, asked.log ++ told.log ++ rest.log⟩
termination_by turn.rank
decreasing_by exact rank_resume_lt op _ answer

theorem play_done (channel : Channel σ ω) (state : σ) (cancelled : Bool) (ending : Ending) :
    play channel state cancelled (.done ending) = pure (state, .ended ending) := by
  rw [play]

theorem play_ask_blocked {channel : Channel σ ω} {state after : σ} {cancelled : Bool}
    {request : Request} {hold : ω} {log : List Event}
    (h : channel.ask state cancelled request = ⟨(after, .blocked hold), log⟩) (op : Operation) :
    play channel state cancelled (.ask request op) = ⟨(after, .blocked request hold), log⟩ := by
  rw [play, h]

theorem play_ask_answered {channel : Channel σ ω} {state after : σ} {cancelled cancels : Bool}
    {request : Request} {answer : Answer} {log : List Event}
    (h : channel.ask state cancelled request = ⟨(after, .answered answer cancels), log⟩)
    (op : Operation) :
    play channel state cancelled (.ask request op) =
      ⟨(play channel after (cancelled || cancels)
          (op.resume (cancelled || cancels) answer).value).value,
        log ++ (op.resume (cancelled || cancels) answer).log ++
          (play channel after (cancelled || cancels)
            (op.resume (cancelled || cancels) answer).value).log⟩ := by
  rw [play, h]

end Turn

/-! ### Records -/

namespace Channel

variable {σ ω : Type}

/-- The channel that keeps a record of its rounds. -/
def recorded (channel : Channel σ ω) : Channel (σ × List (Round ω)) ω where
  ask state cancelled request :=
    let asked := channel.ask state.1 cancelled request
    ⟨((asked.value.1, state.2 ++ [⟨request, cancelled, asked.value.2⟩]), asked.value.2), asked.log⟩

theorem recorded_ask {channel : Channel σ ω} {state after : σ} {cancelled : Bool}
    {request : Request} {response : Response ω} {log : List Event}
    (h : channel.ask state cancelled request = ⟨(after, response), log⟩)
    (past : List (Round ω)) :
    channel.recorded.ask (state, past) cancelled request =
      ⟨((after, past ++ [⟨request, cancelled, response⟩]), response), log⟩ := by
  simp only [recorded, h]

end Channel

namespace Turn

variable {σ ω : Type}

/-- The courses of operations. -/
abbrev Course (turn : Turn) : Bool → List (Round ω) → Stop Ending ω → Prop :=
  Next.Course (fun cancelled answer (op : Operation) => (op.resume cancelled answer).value) turn

/-- Playing a turn takes a course. The record is that course, and changes nothing else. -/
theorem course_play (channel : Channel σ ω) (state : σ) (past : List (Round ω))
    (cancelled : Bool) (turn : Turn) :
    ∃ rounds, turn.Course cancelled rounds (play channel state cancelled turn).value.2 ∧
      play channel.recorded (state, past) cancelled turn =
        ⟨(((play channel state cancelled turn).value.1, past ++ rounds),
          (play channel state cancelled turn).value.2),
        (play channel state cancelled turn).log⟩ := by
  -- The induction is on the requests left, with the past generalised.
  induction hn : turn.rank using Nat.strongRecOn generalizing state past cancelled turn with
  | _ n ih =>
    cases turn with
    | done ending =>
      refine ⟨[], ?_, ?_⟩
      · rw [play_done]
        exact .done ending cancelled
      · rw [play_done, play_done, List.append_nil]
        rfl
    | ask request op =>
      match hask : channel.ask state cancelled request with
      | ⟨(after, .blocked hold), log⟩ =>
        refine ⟨[⟨request, cancelled, .blocked hold⟩], ?_, ?_⟩
        · rw [play_ask_blocked hask]
          exact .blocked request op cancelled hold
        · rw [play_ask_blocked hask, play_ask_blocked (Channel.recorded_ask hask past)]
      | ⟨(after, .answered answer cancels), log⟩ =>
        have hrank := rank_resume_lt op (cancelled || cancels) answer
        obtain ⟨rounds, hcourse, hplay⟩ := ih _ (hn ▸ hrank) after
          (past ++ [⟨request, cancelled, .answered answer cancels⟩]) (cancelled || cancels)
          (op.resume (cancelled || cancels) answer).value rfl
        refine ⟨⟨request, cancelled, .answered answer cancels⟩ :: rounds, ?_, ?_⟩
        · rw [play_ask_answered hask]
          exact .answered hcourse
        · rw [play_ask_answered hask, play_ask_answered (Channel.recorded_ask hask past), hplay,
            List.append_assoc, List.singleton_append]

end Turn

end ModemLink
