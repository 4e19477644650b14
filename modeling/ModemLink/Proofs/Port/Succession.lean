import ModemLink.Bench.PortRun
import ModemLink.Proofs.Port.Commands
import ModemLink.Proofs.Port.Echo

/-!
# A command after one that was given up

Two commands are called one after the other on a port that nothing was asked before. The modem
answers both, in order, but the first answer is not complete when the first command is given up:
its time is over, or its caller has withdrawn. What is left of the first answer comes in later,
before the port gets to the second command, while it drains leftover input, or after it has
written the command. The second command is called at any instant, also while the first one still
has the port.

This module sets the scene, and follows the port up to the instant at which it takes up the second
command.

## Main definitions

* `ModemAnswer`, `Asked`: an answer in bytes, and a command with its answer in pieces.
* `Succession`, `Succession.Valid`: two commands in succession, the first of which is given up.
* `Succession.GivenUp`: the port when the first command has been given up.

## Main results

* `Succession.exists_givenUp`: whenever the second command is called, the port takes it up after
  the first one has been given up, with the late lines of the first answer still to be read.
-/

namespace ModemLink

/-! ### Answers in bytes -/

/-- An answer as a modem sends it: the echo of the command line, lines of information, and a line
that tells the final result. -/
structure ModemAnswer where
  echo : List UInt8
  info : List (List UInt8)
  last : List UInt8
  result : FinalResult
  deriving DecidableEq, Repr

namespace ModemAnswer

/-- The lines of the answer. -/
def raw (a : ModemAnswer) : List (List UInt8) :=
  a.echo :: (a.info ++ [a.last])

/-- The answer is one to the command. Whatever white space the command line ends with is not part
of the line that a port reads. -/
structure To (a : ModemAnswer) (c : Command) : Prop where
  echo : lineOf a.echo = Text.trim ('A' :: 'T' :: c.body.toList)
  info : ∀ line ∈ a.info, IsInfo (lineOf line)
  last : FinalResult.ofLine? (lineOf a.last) = some a.result

/-- The echo of a command line opens like one. -/
theorem To.opensWith {a : ModemAnswer} {c : Command} (h : a.To c) :
    FinalResult.opensWith "AT" (lineOf a.echo) = true := by
  rw [h.echo]
  exact c.opensWith_echoLine

end ModemAnswer

/-- A command, and what the modem sends about it. -/
structure Asked where
  command : Command
  answer : ModemAnswer
  /-- The answer in pieces. -/
  chunks : List Chunk
  deriving DecidableEq, Repr

namespace Asked

/-- The pieces are an answer to the command. -/
structure Valid (a : Asked) : Prop where
  answer : a.answer.To a.command
  chunks : Encodes a.chunks a.answer.raw

/-- The lines that the pieces bring: an echo, information, and a final result. -/
theorem Valid.lines_eq {a : Asked} (h : a.Valid) (start : Nat) :
    ∃ init last, Chunk.lines start a.chunks = init ++ [last] ∧
      init.map DueLine.text = lineOf a.answer.echo :: a.answer.info.map lineOf ∧
      last.text = lineOf a.answer.last ∧ ∀ line ∈ init, line.due ≤ last.due := by
  have htexts := h.chunks.map_text_lines start
  rw [ModemAnswer.raw, ← List.cons_append, List.map_append] at htexts
  obtain ⟨init, tail, hlines, hinit, htail⟩ := List.map_eq_append_iff.mp htexts
  obtain ⟨last, tail, rfl, hlast, hnil⟩ := List.map_eq_cons_iff.mp htail
  obtain rfl := List.map_eq_nil_iff.mp hnil
  have hpairwise := (h.chunks.holdsFrom start).pairwise
  rw [hlines] at hpairwise
  exact ⟨init, last, hlines, hinit, hlast, fun line hline =>
    (List.pairwise_append.mp hpairwise).2.2 line hline last (List.mem_singleton.mpr rfl)⟩

theorem Valid.isInfo {a : Asked} (h : a.Valid) :
    ∀ text ∈ a.answer.info.map lineOf, IsInfo text := by
  simpa using h.answer.info

/-- The answer as it is. -/
def reply (a : Asked) : Answer :=
  replyOf (a.answer.raw.map lineOf) a.answer.result

end Asked

/-! ### Two commands in succession -/

/-- Two commands on one port. -/
structure Succession where
  port : Port
  first : Asked
  second : Asked
  /-- When the first command is cancelled, counted from its call. -/
  cancelAt : Option Nat
  /-- How much later the second command is called. -/
  later : Nat

namespace Succession

variable (s : Succession)

/-- The instant at which the first command is called. -/
def start : Nat := s.port.clock

/-- The instant at which the second command is called. -/
def next : Nat := s.start + s.later

/-- The instant at which the time of the first command is over. -/
def limit : Nat := s.start + s.first.command.timeout.micros

/-- The two calls, as they are tried out. -/
def attempts : List Bench.Attempt :=
  [{ command := s.first.command, cancelAt := s.cancelAt },
    { command := s.second.command, startAt := s.later }]

/-- What becomes of the port. -/
def run : Logged Port := Bench.runCalls s.port s.attempts

/-- The instant at which the caller of the first command withdraws, if that is in time. -/
def withdrawnAt : Option Nat :=
  (s.cancelAt.map (s.start + ·)).filter (· ≤ s.limit)

/-- How long somebody waits for the first answer. -/
def patience : Horizon :=
  match s.withdrawnAt with
  | some t => .before t
  | none => .upTo s.limit

/-- The instants at which the port listens for the first answer. -/
def awaits (t : Nat) : Bool := Intake.listens s.limit s.patience t

/-- The instant at which the first command is given up, if its answer is not complete by then. -/
def givenUpAt : Nat := s.withdrawnAt.getD s.limit

/-- Why the first command is given up. -/
def fault : Fault :=
  if s.withdrawnAt.isSome then .canceled else .timedOut s.first.command.timeout

/-- The first answer in lines. -/
def lines : List DueLine := Chunk.lines s.start s.first.chunks

/-- What is left of the first answer when the first command is given up. -/
def late : List DueLine := s.lines.dropWhile fun line => s.awaits line.due

/-- The instant at which the port takes up the second command. -/
def takenAt : Nat := max s.next s.givenUpAt

/-- The instant at which the time of the second command is over. -/
def deadline : Nat := s.takenAt + s.second.command.timeout.micros

/-- What draining leaves of the first answer, and the instant at which the second command is
written; there is none if its time is over before. -/
def drained : Option (List DueLine × Nat) :=
  drainAll s.deadline (s.takenAt + quietTime) (s.late.map (DueLine.raise s.takenAt))

/-- The port is free and has nothing to read; the modem answers both commands, in order; and the
first command is sent, but given up before its answer is complete. -/
structure Valid : Prop where
  idle : s.port.active = none
  queue : s.port.queue = []
  fresh : s.port.stale = false
  empty : s.port.intake.Holds []
  reactions : ∃ rest, s.port.reactions = .sends s.first.chunks :: .sends s.second.chunks :: rest
  first : s.first.Valid
  second : s.second.Valid
  sent : s.cancelAt ≠ some 0
  late : ∃ line ∈ s.lines, s.awaits line.due = false
  ordered : ∀ left now, s.drained = some (left, now) → ∀ line ∈ left,
    ∀ a ∈ Chunk.arrivals now s.second.chunks, line.due ≤ a.due

/-- The first call. -/
def firstCall : Call := ⟨0, s.first.command, false⟩

/-- The second call. -/
def secondCall : Call := ⟨1, s.second.command, false⟩

/-! ### The port while somebody waits for the first answer -/

/-- The port listens for the first answer, and these lines are left to read. -/
structure Underway (q : Port) (lines : List DueLine) (l : Listening) : Prop where
  active : q.active = some ⟨s.firstCall, s.limit, .listening l⟩
  holds : q.intake.Holds lines
  clock : q.clock ≤ s.limit
  heard : ∃ l', l.hearAll s.awaits lines = (s.late, .more l')
  ended : q.ended = s.port.ended
  reactions : ∃ rest, q.reactions = .sends s.second.chunks :: rest

/-- The first command has been given up, and this is the present instant. -/
structure GivenUp (q : Port) (now : Nat) : Prop where
  idle : q.active = none
  stale : q.stale = true
  clock : q.clock = now
  holds : q.intake.Holds (s.late.map (DueLine.raise now))
  ended : q.ended = s.port.ended ++ [⟨0, some (.error s.fault), s.givenUpAt⟩]
  reactions : ∃ rest, q.reactions = .sends s.second.chunks :: rest

theorem le_limit_of_withdrawnAt {t : Nat} (h : s.withdrawnAt = some t) : t ≤ s.limit := by
  have hfilter := (Option.filter_eq_some_iff.mp h).2
  simpa using hfilter

theorem givenUpAt_le_limit : s.givenUpAt ≤ s.limit := by
  cases h : s.withdrawnAt with
  | none => simp [givenUpAt, h]
  | some t => simpa [givenUpAt, h] using s.le_limit_of_withdrawnAt h

/-- The port listens as long as somebody waits. -/
theorem awaits_of_lt {t : Nat} (ht : t < s.givenUpAt) : s.awaits t = true := by
  have hlimit := s.givenUpAt_le_limit
  have hle : t ≤ s.limit := by omega
  cases h : s.withdrawnAt with
  | none => simp [awaits, patience, h, Intake.listens, Horizon.admits, hle]
  | some u =>
    have htu : t < u := by simpa [givenUpAt, h] using ht
    simp [awaits, patience, h, Intake.listens, Horizon.admits, hle, htu]

variable {s} {q : Port} {lines : List DueLine} {l : Listening}

namespace GivenUp

variable {now : Nat}

theorem withQueue (h : s.GivenUp q now) (queue : List Call) :
    s.GivenUp (q.withQueue queue) now :=
  ⟨h.idle, h.stale, h.clock, h.holds, h.ended, h.reactions⟩

/-- What is left of the first answer waits as long as time passes. -/
theorem elapse (h : s.GivenUp q now) {t : Nat} (ht : now ≤ t) : s.GivenUp (q.elapse t) t where
  idle := h.idle
  stale := h.stale
  clock := by
    have hclock : (q.elapse t).clock = max q.clock t := rfl
    rw [hclock, h.clock]
    omega
  holds := by
    have hraise := h.holds.raise t
    rwa [DueLine.map_raise_raise ht] at hraise
  ended := h.ended
  reactions := h.reactions

end GivenUp

namespace Underway

/-- The port goes on listening. -/
theorem goOn_eq (h : s.Underway q lines l) (horizon : Horizon) :
    q.goOn horizon = Port.listen { q with active := none } horizon s.firstCall s.limit l := by
  rw [Port.goOn, h.active]
  rfl

/-- The port is halted before the first command is given up. -/
theorem halt (h : s.Underway q lines l) {horizon : Horizon}
    (hhorizon : horizon.admits s.limit = false)
    (hawaits : ∀ t, Intake.listens s.limit horizon t = true → s.awaits t = true) :
    ∃ lines' l', s.Underway (q.goOn horizon).value lines' l' ∧
      ((q.goOn horizon).value.clock = q.clock ∨
        horizon.admits (q.goOn horizon).value.clock = true) ∧
      ∀ line ∈ lines'.head?, Intake.listens s.limit horizon line.due = false := by
  obtain ⟨l₁, hheard⟩ := h.heard
  obtain ⟨lines', l', hnear, hrest⟩ := Listening.exists_hearAll_near hawaits hheard
  obtain ⟨after, hhead, hle, hclock, hholds, hvalue⟩ := h.holds.listen_of_more hnear
  have hgoOn : (q.goOn horizon).value =
      { q with active := some ⟨s.firstCall, s.limit, .listening l'⟩, intake := after } := by
    rw [h.goOn_eq]
    simp only [Port.listen, Logged.value_bind, hvalue, hhorizon]
    rfl
  have hlistens : after.clock = q.clock ∨ Intake.listens s.limit horizon after.clock = true :=
    hclock
  rw [hgoOn]
  refine ⟨lines', l', ⟨rfl, hholds, ?_, ⟨l₁, hrest⟩, h.ended, h.reactions⟩, ?_, hhead⟩
  · change after.clock ≤ s.limit
    rcases hlistens with hclock | hclock
    · exact hclock ▸ h.clock
    · simp only [Intake.listens, Bool.and_eq_true, decide_eq_true_eq] at hclock
      exact hclock.1
  · refine hlistens.imp_right fun hclock => ?_
    simp only [Intake.listens, Bool.and_eq_true] at hclock
    exact hclock.2

/-- Time passes while somebody waits for the first answer. -/
theorem halt_elapse (h : s.Underway q lines l) {t : Nat} (hclock : q.clock ≤ t)
    (ht : t < s.givenUpAt) :
    ∃ lines' l', s.Underway ((q.goOn (.upTo t)).value.elapse t) lines' l' ∧
      ((q.goOn (.upTo t)).value.elapse t).clock = t := by
  have hlimit : t < s.limit := Nat.lt_of_lt_of_le ht s.givenUpAt_le_limit
  have hhorizon : (Horizon.upTo t).admits s.limit = false := by
    simp only [Horizon.admits, decide_eq_false_iff_not]
    omega
  obtain ⟨lines', l', hunder, hclock', hhead⟩ := h.halt hhorizon fun u hu => by
    simp only [Intake.listens, Horizon.admits, Bool.and_eq_true, decide_eq_true_eq] at hu
    exact s.awaits_of_lt (by omega)
  have hnow : max (q.goOn (.upTo t)).value.clock t = t := by
    rcases hclock' with hclock' | hclock'
    · omega
    · simp only [Horizon.admits, decide_eq_true_eq] at hclock'
      omega
  refine ⟨lines', l', ⟨hunder.active, hunder.holds.elapse ?_, ?_, hunder.heard, hunder.ended,
    hunder.reactions⟩, hnow⟩
  · refine hunder.holds.le_due_of_head fun line hline => ?_
    have hlate := hhead line hline
    simp only [Intake.listens, Horizon.admits, Bool.and_eq_false_iff,
      decide_eq_false_iff_not] at hlate
    omega
  · exact Nat.le_trans (Nat.le_of_eq hnow) (Nat.le_of_lt hlimit)

/-- The time of the first command is over. -/
theorem expire (h : s.Underway q lines l) (hwithdrawn : s.withdrawnAt = none) {horizon : Horizon}
    (hhorizon : horizon.admits s.limit = true) :
    s.GivenUp (q.goOn horizon).value s.limit := by
  have hlistens : Intake.listens s.limit horizon = s.awaits := by
    funext t
    rw [awaits, patience, hwithdrawn]
    by_cases ht : t ≤ s.limit
    · have hlimit : (Horizon.upTo s.limit).admits t = true := by simp [Horizon.admits, ht]
      simp only [Intake.listens, Horizon.admits_of_le hhorizon ht, hlimit]
    · simp [Intake.listens, ht]
  obtain ⟨l', hheard⟩ := h.heard
  rw [← hlistens] at hheard
  obtain ⟨after, hvalue, hclock, hholds⟩ := h.holds.listen_of_expired hheard hhorizon h.clock
  have hgoOn : (q.goOn horizon).value = (Port.finish { q with active := none, intake := after }
      s.firstCall (Port.timeout s.firstCall)).value := by
    rw [h.goOn_eq]
    simp only [Port.listen, Logged.value_bind, hvalue]
  rw [hgoOn, Port.value_finish]
  refine ⟨rfl, Bool.or_true _, hclock, ?_, ?_, h.reactions⟩
  · rwa [DueLine.map_raise (hclock ▸ Intake.HoldsFrom.le_due hholds)]
  · have hfault : s.fault = .timedOut s.first.command.timeout := by simp [fault, hwithdrawn]
    have hgivenUpAt : s.givenUpAt = s.limit := by simp [givenUpAt, hwithdrawn]
    rw [hfault, hgivenUpAt, ← hclock, ← h.ended]
    rfl

/-- The caller of the first command withdraws. -/
theorem withdraw (h : s.Underway q lines l) {t : Nat} (hwithdrawn : s.withdrawnAt = some t)
    (hclock : q.clock ≤ t) :
    ∃ x, (q.goOn (.before t)).value.active = some x ∧ x.call = s.firstCall ∧
      s.GivenUp (((q.goOn (.before t)).value.elapse t).finish x.call (.error .canceled)).value
        t := by
  have hlimit : t ≤ s.limit := s.le_limit_of_withdrawnAt hwithdrawn
  have hhorizon : (Horizon.before t).admits s.limit = false := by
    simp only [Horizon.admits, decide_eq_false_iff_not]
    omega
  have hawaits : s.awaits = Intake.listens s.limit (.before t) := by
    funext u
    rw [awaits, patience, hwithdrawn]
  obtain ⟨lines', l', hunder, hclock', hhead⟩ := h.halt hhorizon fun u hu => hawaits ▸ hu
  -- What is left is what comes too late for the first command.
  obtain ⟨l'', hheard⟩ := hunder.heard
  rw [hawaits, Listening.hearAll_of_head hhead] at hheard
  obtain ⟨hlate, -⟩ := Prod.mk.inj hheard
  refine ⟨_, hunder.active, rfl, ?_⟩
  have hnow : max (q.goOn (.before t)).value.clock t = t := by
    rcases hclock' with hclock' | hclock'
    · omega
    · simp only [Horizon.admits, decide_eq_true_eq] at hclock'
      omega
  rw [Port.value_finish]
  refine ⟨rfl, Bool.or_true _, hnow, ?_, ?_, hunder.reactions⟩
  · rw [← hlate]
    exact hunder.holds.raise t
  · have hfault : s.fault = .canceled := by simp [fault, hwithdrawn]
    have hgivenUpAt : s.givenUpAt = t := by simp [givenUpAt, hwithdrawn]
    have hinstant : ((q.goOn (.before t)).value.elapse t).clock = t := hnow
    rw [hfault, hgivenUpAt, hinstant, ← hunder.ended]
    rfl

/-- Advancing the port is going on with the first command, and then with the calls that wait. -/
theorem value_advance (q : Port) (horizon : Horizon) :
    (q.advance horizon).value = (Port.orServe horizon q.queue (q.goOn horizon).value).value := by
  rw [Port.advance_eq, Logged.value_bind]

end Underway

/-! ### What happens to the port -/

/-- From an instant on, the port does what one does that is under way, and these calls wait. -/
def Pending (s : Succession) (q : Port) (queue : List Call) (now : Nat) : Prop :=
  ∃ w lines l, s.Underway w lines l ∧ w.queue = queue ∧ w.clock ≤ now ∧
    ∀ horizon, (Horizon.upTo now).Within horizon →
      (q.advance horizon).value = (w.advance horizon).value

/-- The calls have had no part in the first one. -/
theorem GivenUp.value_orServe {now : Nat} (h : s.GivenUp q now) (horizon : Horizon)
    (calls : List Call) :
    (Port.orServe horizon calls q).value = (Port.serve horizon calls q).value := by
  rw [Port.orServe, if_neg (by simp [h.idle])]

namespace Pending

variable {queue : List Call} {now : Nat}

/-- The time of the first command is over, and the port is given to the calls that wait. -/
theorem expire (h : s.Pending q queue now) (hwithdrawn : s.withdrawnAt = none) {horizon : Horizon}
    (hwithin : (Horizon.upTo now).Within horizon) (hhorizon : horizon.admits s.limit = true) :
    ∃ g, s.GivenUp g s.limit ∧
      (q.advance horizon).value = (Port.serve horizon queue g).value := by
  obtain ⟨w, lines, l, hunder, rfl, -, hlike⟩ := h
  have hgivenUp := hunder.expire hwithdrawn hhorizon
  refine ⟨_, hgivenUp, ?_⟩
  rw [hlike horizon hwithin, Underway.value_advance, hgivenUp.value_orServe]

/-- The caller of the first command withdraws, and the port is given to the calls that wait. -/
theorem cancel (h : s.Pending q queue now) {t : Nat} (hwithdrawn : s.withdrawnAt = some t)
    (hnow : now < t) :
    ∃ g, s.GivenUp g t ∧ (q.cancel t 0).value = (Port.serve (.upTo t) queue g).value := by
  obtain ⟨w, lines, l, hunder, rfl, hclock, hlike⟩ := h
  obtain ⟨x, hactive, hcall, hgivenUp⟩ := hunder.withdraw hwithdrawn (by omega)
  refine ⟨_, hgivenUp.withQueue w.queue, ?_⟩
  have hwithin : (Horizon.upTo now).Within (.before t) := by
    intro u hu
    simp only [Horizon.admits, decide_eq_true_eq] at hu ⊢
    omega
  have hadvance : (q.advance (.before t)).value = (w.goOn (.before t)).value.withQueue w.queue := by
    rw [hlike _ hwithin, Underway.value_advance, Port.orServe, if_pos (by simp [hactive])]
    rfl
  have hactiveOf : ((w.goOn (.before t)).value.withQueue w.queue).activeOf? 0 = some x := by
    simp [Port.activeOf?, hactive, Option.filter, hcall, firstCall]
  have hfinish : ((((w.goOn (.before t)).value.withQueue w.queue).elapse t).finish x.call
      (.error .canceled)).value =
        (((w.goOn (.before t)).value.elapse t).finish x.call
          (.error .canceled)).value.withQueue w.queue :=
    congrArg Logged.value
      (Port.finish_withQueue w.queue ((w.goOn (.before t)).value.elapse t) x.call _)
  rw [Port.cancel, Logged.value_bind, hadvance, hactiveOf]
  simp only [Logged.value_bind, hfinish]
  rfl

/-- The second command is called while the first one has the port. -/
theorem call (h : s.Pending q [] now) {t : Nat} (hnow : now ≤ t) (ht : t < s.givenUpAt) :
    s.Pending (q.call t s.secondCall).value [s.secondCall] t := by
  obtain ⟨w, lines, l, hunder, hqueue, hclock, hlike⟩ := h
  obtain ⟨lines', l', hunder', hclock'⟩ := hunder.halt_elapse (Nat.le_trans hclock hnow) ht
  have hactive : (w.goOn (.upTo t)).value.active.isSome = true := by
    have hsome := hunder'.active
    change (w.goOn (.upTo t)).value.active = _ at hsome
    rw [hsome]
    rfl
  have hadvance : (q.advance (.upTo t)).value = (w.goOn (.upTo t)).value.withQueue [] := by
    rw [hlike _ (Horizon.upTo_within_upTo hnow), Underway.value_advance, hqueue, Port.orServe,
      if_pos hactive]
    rfl
  have hcall : (q.call t s.secondCall).value =
      ((w.goOn (.upTo t)).value.elapse t).withQueue [s.secondCall] := by
    rw [Port.call, Logged.value_bind, hadvance]
    have hactive' : (((w.goOn (.upTo t)).value.withQueue []).elapse t).active.isSome = true :=
      hactive
    simp only [hactive', if_true]
    rfl
  rw [hcall]
  exact ⟨((w.goOn (.upTo t)).value.elapse t).withQueue [s.secondCall], lines', l',
    ⟨hunder'.active, hunder'.holds, hunder'.clock, hunder'.heard, hunder'.ended,
      hunder'.reactions⟩, rfl, Nat.le_of_eq hclock', fun _ _ => rfl⟩

end Pending

/-- It makes no difference that a call is withdrawn which is over. -/
theorem value_cancel_of_over {t : Nat} (hqueue : (q.advance (.before t)).value.queue = [])
    (hactive : ∀ x ∈ (q.advance (.before t)).value.active, x.call = s.secondCall) :
    (q.cancel t 0).value = (q.advance (.before t)).value := by
  have hactiveOf : (q.advance (.before t)).value.activeOf? 0 = none := by
    rw [Port.activeOf?, Option.filter_eq_none_iff]
    intro x hx
    simp [hactive x hx, secondCall]
  rw [Port.cancel, Logged.value_bind, hactiveOf]
  simp only [Logged.value_pure, hqueue, List.map_nil]
  rw [← hqueue]

/-! ### Up to the second command -/

/-- The port when it has just sent the first command. -/
def written (s : Succession) (rest : List Reaction) : Port :=
  Port.write { s.port with reactions := rest } s.first.command.body s.first.chunks

/-- The port when it has sent the first command and listens for its answer. -/
def listening (s : Succession) (rest : List Reaction) : Port :=
  { s.written rest with
    active := some ⟨s.firstCall, s.limit, .listening (.toCommand s.first.command.body)⟩ }

theorem Valid.underway (h : s.Valid) (rest : List Reaction) :
    s.Underway (s.listening (.sends s.second.chunks :: rest)) s.lines
      (.toCommand s.first.command.body) := by
  have hholds : (s.listening (.sends s.second.chunks :: rest)).intake.Holds ([] ++ s.lines) :=
    h.empty.enqueue (h.first.chunks.holdsFrom s.start)
      (fun a ha => (Chunk.due_arrivals _ _ a ha).1) fun a ha => (Chunk.due_arrivals _ _ a ha).1
  refine ⟨rfl, hholds, Nat.le_add_right .., ?_, rfl, ⟨rest, rfl⟩⟩
  -- The first answer is complete with its last line, and some line of it is late.
  obtain ⟨init, last, hlines, hinit, -, hdue⟩ := h.first.lines_eq s.start
  obtain ⟨l', hl'⟩ : ∃ l', (Listening.toCommand s.first.command.body).hearTexts?
      (init.map DueLine.text) = some l' := by
    have hopens := Listening.opens_toCommand s.first.command.body
    rw [hinit]
    by_cases hecho : lineOf s.first.answer.echo = (Listening.toCommand s.first.command.body).echo
    · rw [hecho]
      exact ⟨_, Listening.hearTexts?_own hopens h.first.isInfo⟩
    · exact ⟨_, Listening.hearTexts?_other hopens h.first.answer.opensWith hecho h.first.isInfo⟩
  have hlast : s.awaits last.due = false := by
    obtain ⟨line, hline, hawaits⟩ := h.late
    rw [Bool.eq_false_iff]
    intro hlast
    have hle : line.due ≤ last.due := by
      rw [lines, hlines, List.mem_append, List.mem_singleton] at hline
      rcases hline with hline | rfl
      · exact hdue line hline
      · exact Nat.le_refl _
    rw [awaits, Intake.listens_of_le _ _ hle hlast] at hawaits
    cases hawaits
  obtain ⟨l'', hmore⟩ := Listening.hearAll_of_late hl' [last] fun line hline => by
    cases hline
    exact hlast
  rw [← hlines] at hmore
  have hheard := Listening.rest_hearAll (Prod.ext rfl hmore)
  exact ⟨l'', Prod.ext hheard hmore⟩

/-- The port has sent the first command and listens for its answer, whatever may follow. -/
theorem Valid.pending (h : s.Valid) :
    s.Pending (s.port.call s.start s.firstCall).value [] s.start := by
  obtain ⟨rest, hreactions⟩ := h.reactions
  refine ⟨_, _, _, h.underway rest, h.queue, Nat.le_refl _, fun horizon hwithin => ?_⟩
  -- The call gets the port at once.
  have hadvance : s.port.advance (.upTo s.start) = pure s.port :=
    Port.advance_of_idle h.idle h.queue _
  have hcall : (s.port.call s.start s.firstCall).value =
      (Port.serve (.upTo s.start) [s.firstCall] s.port).value := by
    rw [Port.value_call_of_idle (by rw [hadvance]; exact h.idle), hadvance]
    exact congrArg (fun p => (Port.serve (.upTo s.start) [s.firstCall] p).value)
      s.port.elapse_clock
  have hserve : ((Port.serve (.upTo s.start) [s.firstCall] s.port).value.advance horizon).value =
      (Port.serve horizon [s.firstCall] s.port).value :=
    Port.value_serve_advance h.idle hwithin [s.firstCall]
  have htake : (s.port.take horizon s.firstCall).value =
      ((s.listening (.sends s.second.chunks :: rest)).goOn horizon).value := by
    have hwritten : (s.written (.sends s.second.chunks :: rest)).active = none := h.idle
    rw [listening, Port.goOn_halted hwritten]
    simp only [Port.take, firstCall, Bool.false_eq_true, if_false, Logged.value_bind]
    rw [if_neg (by simp [h.fresh]), Port.send, hreactions]
    rfl
  have hqueue : (s.listening (.sends s.second.chunks :: rest)).queue = [] := h.queue
  rw [hcall, hserve, Port.serve_cons, Logged.value_bind, htake, Underway.value_advance, hqueue]

/-- A call that was withdrawn when it was over has no part in what is served since. -/
theorem GivenUp.cancel {g : Port} {now t : Nat} {calls : List Call} (h : s.GivenUp g now)
    (hadvance : (q.advance (.before t)).value = (Port.serve (.before t) calls g).value)
    (hcalls : calls = [] ∨ calls = [s.secondCall]) :
    (q.cancel t 0).value = (Port.serve (.before t) calls g).value := by
  rw [← hadvance]
  rcases hcalls with rfl | rfl
  · refine value_cancel_of_over (s := s) ?_ ?_
    · rw [hadvance]
      rfl
    · intro x hx
      have hnone : (q.advance (.before t)).value.active = none := by
        rw [hadvance]
        exact h.idle
      rw [hnone] at hx
      cases hx
  · refine value_cancel_of_over (s := s) ?_ ?_
    · rw [hadvance, Port.queue_serve]
    · rw [hadvance]
      exact Port.active_serve _ s.secondCall g

/-- The second command is called after the first one has been given up. -/
theorem GivenUp.call {g : Port} {now t : Nat} (h : s.GivenUp g now) {horizon : Horizon}
    (hq : (q.advance (.upTo t)).value = (Port.serve horizon [] g).value) (ht : now ≤ t) :
    ∃ g', s.GivenUp g' t ∧
      (q.call t s.secondCall).value = (Port.serve (.upTo t) [s.secondCall] g').value := by
  have hserve : (Port.serve horizon [] g).value = g.withQueue [] := rfl
  rw [hserve] at hq
  refine ⟨(g.withQueue []).elapse t, (h.withQueue []).elapse ht, ?_⟩
  rw [Port.value_call_of_idle (by rw [hq]; exact h.idle), hq]

/-- A port on which nobody waits behind the first command is free as long as nobody calls. -/
theorem GivenUp.advance_serve {g : Port} {now : Nat} (h : s.GivenUp g now)
    (near horizon : Horizon) :
    ((Port.serve near [] g).value.advance horizon).value = (Port.serve near [] g).value := by
  have hadvance : (g.withQueue []).advance horizon = pure (g.withQueue []) :=
    Port.advance_of_idle (h.withQueue []).idle rfl horizon
  exact congrArg Logged.value hadvance

/-! ### Orders of the calls -/

theorem run_of_none (hcancel : s.cancelAt = none) :
    s.run.value =
      (((s.port.call s.start s.firstCall).value.call s.next s.secondCall).value.advance
        .unbounded).value := by
  have hmoves : s.attempts.zipIdx.flatMap (fun a => a.1.moves s.start a.2) =
      [(s.start, .call s.firstCall), (s.next, .call s.secondCall)] := by
    simp [attempts, Bench.Attempt.moves, hcancel, firstCall, secondCall, next]
  have hschedule : Bench.schedule s.port.clock s.attempts =
      [(s.start, .call s.firstCall), (s.next, .call s.secondCall)] := by
    change Bench.schedule s.start s.attempts = _
    rw [Bench.schedule, hmoves]
    exact List.mergeSort_of_pairwise (by simp [next])
  rw [run, Bench.runCalls, hschedule]
  rfl

private theorem moves_of_some {c : Nat} (hcancel : s.cancelAt = some c) (hc : c ≠ 0) :
    s.attempts.zipIdx.flatMap (fun a => a.1.moves s.start a.2) =
      [(s.start, .call s.firstCall), (s.start + c, .cancel 0), (s.next, .call s.secondCall)] := by
  simp [attempts, Bench.Attempt.moves, hcancel, firstCall, secondCall, next, hc, Option.filter]

theorem run_of_le {c : Nat} (hcancel : s.cancelAt = some c) (hc : c ≠ 0) (hle : c ≤ s.later) :
    s.run.value =
      ((((s.port.call s.start s.firstCall).value.cancel (s.start + c) 0).value.call s.next
        s.secondCall).value.advance .unbounded).value := by
  have hschedule : Bench.schedule s.port.clock s.attempts =
      [(s.start, .call s.firstCall), (s.start + c, .cancel 0), (s.next, .call s.secondCall)] := by
    change Bench.schedule s.start s.attempts = _
    rw [Bench.schedule, moves_of_some hcancel hc]
    exact List.mergeSort_of_pairwise (by simp [next, hle])
  rw [run, Bench.runCalls, hschedule]
  rfl

theorem run_of_lt {c : Nat} (hcancel : s.cancelAt = some c) (hc : c ≠ 0) (hlt : s.later < c) :
    s.run.value =
      ((((s.port.call s.start s.firstCall).value.call s.next s.secondCall).value.cancel
        (s.start + c) 0).value.advance .unbounded).value := by
  have hschedule : Bench.schedule s.port.clock s.attempts =
      [(s.start, .call s.firstCall), (s.next, .call s.secondCall), (s.start + c, .cancel 0)] := by
    have hlater : ¬ c ≤ s.later := by omega
    change Bench.schedule s.start s.attempts = _
    rw [Bench.schedule, moves_of_some hcancel hc]
    simp [List.mergeSort, List.MergeSort.Internal.splitInTwo, next, hlater]
  rw [run, Bench.runCalls, hschedule]
  rfl

theorem withdrawnAt_eq_none {c : Nat} (hcancel : s.cancelAt = some c) (hc : s.limit < s.start + c) :
    s.withdrawnAt = none := by
  have hlimit : ¬ s.start + c ≤ s.limit := by omega
  simp [withdrawnAt, hcancel, Option.filter, hlimit]

theorem withdrawnAt_eq_some {c : Nat} (hcancel : s.cancelAt = some c) (hc : s.start + c ≤ s.limit) :
    s.withdrawnAt = some (s.start + c) := by
  simp [withdrawnAt, hcancel, Option.filter, hc]

theorem givenUpAt_of_none (h : s.withdrawnAt = none) : s.givenUpAt = s.limit := by
  rw [givenUpAt, h, Option.getD_none]

theorem givenUpAt_of_some {t : Nat} (h : s.withdrawnAt = some t) : s.givenUpAt = t := by
  rw [givenUpAt, h, Option.getD_some]

theorem start_le_next : s.start ≤ s.next :=
  Nat.le_add_right ..

theorem later_lt_iff {c : Nat} : s.later < c ↔ s.next < s.start + c :=
  (Nat.add_lt_add_iff_left (k := s.start)).symm

private theorem upTo_within_before {t u : Nat} (h : t < u) :
    (Horizon.upTo t).Within (.before u) := by
  intro v hv
  simp only [Horizon.admits, decide_eq_true_eq] at hv ⊢
  omega

/-- The second command is called while the first one has the port, and waits. -/
theorem Valid.exists_givenUp_of_lt (h : s.Valid) (hnext : s.next < s.givenUpAt) :
    ∃ g, s.GivenUp g s.takenAt ∧
      s.run.value = (Port.serve .unbounded [s.secondCall] g).value := by
  have htaken : s.takenAt = s.givenUpAt := Nat.max_eq_right (Nat.le_of_lt hnext)
  have hpending := h.pending.call start_le_next hnext
  rw [htaken]
  cases hcancel : s.cancelAt with
  | none =>
    have hwithdrawn : s.withdrawnAt = none := by simp [withdrawnAt, hcancel]
    obtain ⟨g, hg, hadvance⟩ := hpending.expire hwithdrawn (Horizon.within_unbounded _) rfl
    exact ⟨g, givenUpAt_of_none hwithdrawn ▸ hg, (run_of_none hcancel).trans hadvance⟩
  | some c =>
    have hc : c ≠ 0 := fun hc => h.sent (hc ▸ hcancel)
    by_cases hlimit : s.start + c ≤ s.limit
    · -- The caller withdraws after the second call.
      have hwithdrawn := withdrawnAt_eq_some hcancel hlimit
      rw [givenUpAt_of_some hwithdrawn] at hnext ⊢
      obtain ⟨g, hg, hcancelled⟩ := hpending.cancel hwithdrawn hnext
      refine ⟨g, hg, ?_⟩
      rw [run_of_lt hcancel hc (later_lt_iff.mpr hnext), hcancelled,
        Port.value_serve_advance hg.idle (Horizon.within_unbounded _)]
    · -- The first command times out before its caller would have withdrawn.
      have hlate : s.limit < s.start + c := by omega
      have hwithdrawn := withdrawnAt_eq_none hcancel hlate
      rw [givenUpAt_of_none hwithdrawn] at hnext ⊢
      obtain ⟨g, hg, hadvance⟩ := hpending.expire hwithdrawn
        (upTo_within_before (u := s.start + c) (by omega)) (by simp [Horizon.admits, hlate])
      have hlt : s.later < c := later_lt_iff.mpr (by omega)
      refine ⟨g, hg, ?_⟩
      rw [run_of_lt hcancel hc hlt, hg.cancel hadvance (.inr rfl),
        Port.value_serve_advance hg.idle (Horizon.within_unbounded _)]

/-- The second command is called when the first one has been given up. -/
theorem Valid.exists_givenUp_of_le (h : s.Valid) (hnext : s.givenUpAt ≤ s.next) :
    ∃ g, s.GivenUp g s.takenAt ∧
      s.run.value = (Port.serve .unbounded [s.secondCall] g).value := by
  have htaken : s.takenAt = s.next := Nat.max_eq_left hnext
  rw [htaken]
  cases hcancel : s.cancelAt with
  | none =>
    have hwithdrawn : s.withdrawnAt = none := by simp [withdrawnAt, hcancel]
    rw [givenUpAt_of_none hwithdrawn] at hnext
    obtain ⟨g, hg, hadvance⟩ := h.pending.expire hwithdrawn
      (Horizon.upTo_within_upTo start_le_next)
      (by simpa [Horizon.admits] using hnext)
    obtain ⟨g', hg', hcall⟩ := hg.call hadvance hnext
    refine ⟨g', hg', ?_⟩
    rw [run_of_none hcancel, hcall,
      Port.value_serve_advance hg'.idle (Horizon.within_unbounded _)]
  | some c =>
    have hc : c ≠ 0 := fun hc => h.sent (hc ▸ hcancel)
    by_cases hlimit : s.start + c ≤ s.limit
    · have hwithdrawn := withdrawnAt_eq_some hcancel hlimit
      rw [givenUpAt_of_some hwithdrawn] at hnext
      obtain ⟨g, hg, hcancelled⟩ := h.pending.cancel hwithdrawn (by omega)
      have hadvance := hg.advance_serve (.upTo (s.start + c)) (.upTo s.next)
      obtain ⟨g', hg', hcall⟩ := hg.call hadvance hnext
      have hle : c ≤ s.later := Nat.le_of_not_lt fun hlt => by
        have := later_lt_iff.mp hlt
        omega
      refine ⟨g', hg', ?_⟩
      rw [run_of_le hcancel hc hle, hcancelled, hcall,
        Port.value_serve_advance hg'.idle (Horizon.within_unbounded _)]
    · have hlate : s.limit < s.start + c := by omega
      have hwithdrawn := withdrawnAt_eq_none hcancel hlate
      rw [givenUpAt_of_none hwithdrawn] at hnext
      by_cases hle : c ≤ s.later
      · -- The caller would have withdrawn before the second call.
        obtain ⟨g, hg, hadvance⟩ := h.pending.expire hwithdrawn
          (upTo_within_before (u := s.start + c) (by omega)) (by simp [Horizon.admits, hlate])
        have hcancelled := hg.cancel hadvance (.inl rfl)
        have hadvance := hg.advance_serve (.before (s.start + c)) (.upTo s.next)
        obtain ⟨g', hg', hcall⟩ := hg.call hadvance hnext
        refine ⟨g', hg', ?_⟩
        rw [run_of_le hcancel hc hle, hcancelled, hcall,
          Port.value_serve_advance hg'.idle (Horizon.within_unbounded _)]
      · -- The caller would have withdrawn after the second call.
        have hlt : s.later < c := by omega
        obtain ⟨g, hg, hadvance⟩ := h.pending.expire hwithdrawn
          (Horizon.upTo_within_upTo start_le_next)
          (by simpa [Horizon.admits] using hnext)
        obtain ⟨g', hg', hcall⟩ := hg.call hadvance hnext
        have hadvance' : ((Port.serve (.upTo s.next) [s.secondCall] g').value.advance
            (.before (s.start + c))).value =
              (Port.serve (.before (s.start + c)) [s.secondCall] g').value :=
          Port.value_serve_advance hg'.idle
            (upTo_within_before (later_lt_iff.mp hlt)) _
        refine ⟨g', hg', ?_⟩
        rw [run_of_lt hcancel hc hlt, hcall, hg'.cancel hadvance' (.inr rfl),
          Port.value_serve_advance hg'.idle (Horizon.within_unbounded _)]

/-- Whenever the second command is called, the port takes it up after the first one has been given
up, and what is left of the first answer is still to be read. -/
theorem Valid.exists_givenUp (h : s.Valid) :
    ∃ g, s.GivenUp g s.takenAt ∧
      s.run.value = (Port.serve .unbounded [s.secondCall] g).value := by
  by_cases hnext : s.next < s.givenUpAt
  · exact h.exists_givenUp_of_lt hnext
  · exact h.exists_givenUp_of_le (by omega)

end Succession

end ModemLink
