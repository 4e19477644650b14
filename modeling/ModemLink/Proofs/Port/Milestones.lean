import Mathlib.Data.List.Chain
import ModemLink.Proofs.Port.Runs

/-!
# Milestones of a port

What a port does with its modem comes down to three things: it drains leftover input to the end, it
writes a command, and a call that has it is over. In a run these milestones are listed in the order
in which they are passed. They are told of the same steps that move the port, and so they agree with
what the port keeps: the texts written are those of the commands, and calls are over with the
outcomes that are on record.

Between a command and the end of its call there is no other milestone. A call that is dropped or
cancelled while it waits passes none. What the port has to remember of a command that was left
unfinished can be read off the milestones as well.

## Main definitions

* `Milestone`: what a port does with its modem.
* `Milestone.watch`, `Port.playMilestones`: the milestones of a run.
* `Milestone.Follows`: what can come next.
* `Milestone.unfinished`: the last command was left without its final result.
* `Milestone.givenUp`: the last call that had the port was given up.
* `Port.Charted`: a port is where its milestones have led it.

## Main results

* `Port.Charted.play`: in every run a port is where its milestones have led it.
-/

namespace ModemLink

/-- What a port does with its modem on behalf of a call. -/
inductive Milestone
  /-- Leftover input was discarded, up to a final result or until the line was quiet. -/
  | drained (ticket : Nat)
  /-- A command was written. -/
  | written (ticket : Nat) (text : String)
  /-- A call that had the port is over; it has no outcome where it was dropped. -/
  | ended (ticket : Nat) (answer : Option Answer)

namespace Milestone

/-- The text written, if there is one. -/
def text? : Milestone → Option String
  | written _ text => some text
  | _ => none

/-- The outcome of the call that is over, if there is one. -/
def outcome? : Milestone → Option (Nat × Option Answer)
  | ended ticket answer => some (ticket, answer)
  | _ => none

/-- After a command was written nothing else happens before its call is over. -/
def Follows (m next : Milestone) : Prop :=
  ∀ ticket text, m = written ticket text → ∃ answer, next = ended ticket answer

/-- A command at the end of the list is that of a call that satisfies `P`. -/
def EndsWith (ms : List Milestone) (P : Nat → Prop) : Prop :=
  ∀ ticket text, ms.getLast? = some (written ticket text) → P ticket

/-- A final result closes the answer. The fault of a line that failed holds no final result. -/
def isFinal : Answer → Bool
  | .ok _ | .error .noCarrier => true
  | .error (.failed text) => (FinalResult.ofLine? text.toList).isSome
  | .error _ => false

/-- The time of the call was over, or its caller cancelled it. -/
def isGivenUp : Option Answer → Bool
  | some (.error fault) => Port.isAbandonment fault
  | _ => false

/-- Whether a command is left unfinished after a milestone. -/
def leaves (unfinished : Bool) : Milestone → Bool
  | drained _ => false
  | written _ _ => true
  | ended _ answer => unfinished && !answer.any isFinal

/-- The last command that was written has no final result yet, and leftover input was not
discarded to the end since. -/
def unfinished (ms : List Milestone) : Bool :=
  ms.foldl leaves false

/-- The outcome of the last call that had the port. -/
def lastOutcome? (ms : List Milestone) : Option (Option Answer) :=
  (ms.filterMap (·.outcome?)).getLast?.map (·.2)

/-- The last call that had the port was given up. -/
def givenUp (ms : List Milestone) : Bool :=
  (lastOutcome? ms).any isGivenUp

variable {ms : List Milestone} {ticket : Nat}

/-- A line that fails tells no final result, whatever the reason. -/
theorem isFinal_lineBroken (reason : String) : isFinal (.error (.lineBroken reason)) = false := by
  have hhead : ∃ rest, ("serial I/O error: " ++ reason).toList = 's' :: rest :=
    ⟨_, by rw [String.toList_append]; rfl⟩
  obtain ⟨rest, hrest⟩ := hhead
  simp [isFinal, Fault.lineBroken, hrest, FinalResult.ofLine?, FinalResult.opensWith]

example : isFinal (.error .lineClosed) = false := by decide

theorem isFinal_of_isGivenUp {answer : Option Answer} (h : isGivenUp answer = true) :
    answer.any isFinal = false := by
  match answer, h with
  | some (.error .canceled), _ => rfl
  | some (.error (.timedOut _)), _ => rfl

@[simp] theorem unfinished_concat (ms : List Milestone) (m : Milestone) :
    unfinished (ms ++ [m]) = m.leaves (unfinished ms) := by
  rw [unfinished, List.foldl_append]
  rfl

@[simp] theorem lastOutcome?_concat_ended (ms : List Milestone) (ticket : Nat)
    (answer : Option Answer) : lastOutcome? (ms ++ [ended ticket answer]) = some answer := by
  simp [lastOutcome?, outcome?]

@[simp] theorem givenUp_concat_ended (ms : List Milestone) (ticket : Nat) (answer : Option Answer) :
    givenUp (ms ++ [ended ticket answer]) = isGivenUp answer := by
  simp [givenUp]

/-- The milestones of the steps that a port takes with its modem. -/
def watch : Port.Watch Milestone where
  written _ _ call := [.written call.ticket ("AT" ++ call.command.body ++ "\r")]
  drained call := [.drained call.ticket]
  ended ticket answer := [.ended ticket answer]
  injected _ _ := []

end Milestone

open Milestone (EndsWith isGivenUp unfinished givenUp)

namespace Port

/-! ### What is passed on the way -/

/-- The milestones that a port passes when it gives itself to a call. -/
def takeMilestones (p : Port) (horizon : Horizon) (call : Call) : List Milestone :=
  Milestone.watch.ofTake p horizon call

/-- The milestones that a port passes in a run. -/
def playMilestones (p : Port) (acts : List Act) : List Milestone :=
  Milestone.watch.ofPlay p acts

/-! ### Where milestones lead -/

/-- A port is where its milestones have led it. -/
structure Charted (p : Port) (ms : List Milestone) : Prop where
  /-- The texts written are those of the commands. -/
  sent : p.sent = ms.filterMap (·.text?)
  /-- Calls are over with the outcomes on record. -/
  ended : (ms.filterMap (·.outcome?)).Sublist (p.ended.map fun e => (e.ticket, e.answer))
  chain : ms.IsChain Milestone.Follows
  /-- A port that is free has been left by a call. -/
  idle_last : p.active = none → ∀ m ∈ ms.getLast?, ∃ ticket answer, m = .ended ticket answer
  /-- A command without an end is that of the call that has the port, and its answer is awaited. -/
  busy_last : ∀ x ∈ p.active,
    EndsWith ms fun ticket => ticket = x.call.ticket ∧ ∃ l, x.stage = .listening l
  /-- A free port is stale where the last command was left unfinished by a call that was given
  up. -/
  idle_stale : p.active = none → p.stale = (unfinished ms && givenUp ms)
  /-- A port that has begun to drain, or has sent a command, is not stale any more. -/
  busy_stale : ∀ x ∈ p.active, p.stale = false ∧ unfinished ms = true

/-- A port that works for a call is where its milestones have led it. -/
structure Underway (p : Port) (ms : List Milestone) (ticket : Nat) : Prop where
  sent : p.sent = ms.filterMap (·.text?)
  ended : (ms.filterMap (·.outcome?)).Sublist (p.ended.map fun e => (e.ticket, e.answer))
  chain : ms.IsChain Milestone.Follows
  last : EndsWith ms (· = ticket)
  stale : p.stale = false

variable {p : Port} {ms : List Milestone}

theorem charted_new (name : String) (intake : Intake) (reactions : List Reaction) :
    Charted { name, intake, reactions } [] where
  sent := rfl
  ended := .slnil
  chain := .nil
  idle_last := by rintro - m ⟨⟩
  busy_last := by simp
  idle_stale _ := rfl
  busy_stale := by simp

namespace Underway

variable {ticket : Nat} (h : p.Underway ms ticket)
include h

/-- The next milestone is on record, and can come next. -/
theorem concat {q : Port} {m : Milestone} (hsent : q.sent = p.sent ++ m.text?.toList)
    (hended : q.ended.map (fun e => (e.ticket, e.answer)) =
      p.ended.map (fun e => (e.ticket, e.answer)) ++ m.outcome?.toList)
    (hlast : EndsWith ms fun other => other = ticket → ∃ answer, m = .ended ticket answer) :
    q.sent = (ms ++ [m]).filterMap (·.text?) ∧
      ((ms ++ [m]).filterMap (·.outcome?)).Sublist
        (q.ended.map fun e => (e.ticket, e.answer)) ∧
      (ms ++ [m]).IsChain Milestone.Follows := by
  have htext : [m].filterMap (·.text?) = m.text?.toList := by cases m <;> rfl
  have houtcome : [m].filterMap (·.outcome?) = m.outcome?.toList := by cases m <;> rfl
  refine ⟨?_, ?_, List.isChain_append.mpr ⟨h.chain, .singleton _, ?_⟩⟩
  · rw [hsent, h.sent, List.filterMap_append, htext]
  · rw [hended, List.filterMap_append, houtcome]
    exact h.ended.append (.refl _)
  · intro before hbefore next hnext other text heq
    obtain rfl : m = next := by simpa using hnext
    obtain rfl := h.last other text (heq ▸ hbefore)
    exact hlast _ text (heq ▸ hbefore) rfl

/-- The call is over, and the port is stale where it was given up. -/
theorem record {stale : Bool} (answer : Option Answer) (hstale : stale = isGivenUp answer)
    (hun : isGivenUp answer = true → unfinished ms = true) :
    ({ p with stale }.record ticket answer).Charted (ms ++ [Milestone.ended ticket answer]) := by
  obtain ⟨hsent, hended, hchain⟩ := h.concat (q := { p with stale }.record ticket answer)
    (m := Milestone.ended ticket answer) (by simp [Port.record, Milestone.text?])
    (by simp [Port.record, Milestone.outcome?]) fun _ _ _ _ => ⟨answer, rfl⟩
  refine ⟨hsent, hended, hchain, fun _ m hm => ?_, by simp, fun _ => ?_, by simp⟩
  · rw [List.getLast?_concat, Option.mem_some_iff] at hm
    exact ⟨ticket, answer, hm.symm⟩
  · change stale = _
    rw [hstale, Milestone.unfinished_concat, Milestone.givenUp_concat_ended]
    cases hgiven : isGivenUp answer with
    | false => simp
    | true => simp [Milestone.leaves, hun hgiven, Milestone.isFinal_of_isGivenUp hgiven]

/-- The call keeps the port, and waits. -/
theorem halt (hun : unfinished ms = true) {x : Exchange} (hx : x.call.ticket = ticket)
    (hstage : EndsWith ms fun _ => ∃ l, x.stage = .listening l) :
    Charted { p with active := some x } ms where
  sent := h.sent
  ended := h.ended
  chain := h.chain
  idle_last hidle := by cases hidle
  busy_last := by
    rintro _ ⟨⟩ other text hlast
    exact ⟨(h.last other text hlast).trans hx.symm, hstage other text hlast⟩
  idle_stale hidle := by cases hidle
  busy_stale _ _ := ⟨h.stale, hun⟩

end Underway

namespace Underway

variable {horizon : Horizon} {call : Call} {deadline : Nat} (h : p.Underway ms call.ticket)
include h

theorem finish (answer : Answer) (hun : isGivenUp (some answer) = true → unfinished ms = true) :
    (p.finish call answer).value.Charted (ms ++ [Milestone.ended call.ticket (some answer)]) := by
  cases answer with
  | ok text => exact h.record (some (.ok text)) h.stale hun
  | error fault =>
    have hstale : (p.stale || isAbandonment fault) = isGivenUp (some (.error fault)) := by
      rw [h.stale]
      rfl
    exact h.record _ hstale hun

/-- Listening passes nothing but the end of the call. -/
theorem listen (hun : unfinished ms = true) (l : Listening) :
    (p.listen horizon call deadline l).value.Charted
      (ms ++ Milestone.watch.ofListen p horizon call deadline l) := by
  rw [Port.listen, Watch.ofListen, Logged.value_bind]
  obtain ⟨intake, heard⟩ := (p.intake.listen deadline horizon l).value
  cases heard with
  | answer _ | expired =>
    exact Underway.finish (p := { p with intake }) ⟨h.sent, h.ended, h.chain, h.last, h.stale⟩
      _ fun _ => hun
  | halted l =>
    rw [List.append_nil]
    exact Underway.halt (p := { p with intake }) ⟨h.sent, h.ended, h.chain, h.last, h.stale⟩ hun rfl
      fun _ _ _ => ⟨l, rfl⟩

variable (hlast : EndsWith ms fun _ => False)
include hlast

/-- Where no command waits for its end, the next one can be written. -/
theorem write (reactions : List Reaction) (chunks : List Chunk) :
    ({ p with reactions }.write call.command.body chunks).Underway
      (ms ++ [Milestone.written call.ticket ("AT" ++ call.command.body ++ "\r")]) call.ticket := by
  obtain ⟨hsent, hended, hchain⟩ := h.concat
    (q := { p with reactions }.write call.command.body chunks)
    (m := Milestone.written call.ticket ("AT" ++ call.command.body ++ "\r")) rfl
    (by simp [Port.write, Milestone.outcome?]) fun other text hw => (hlast other text hw).elim
  refine ⟨hsent, hended, hchain, ?_, h.stale⟩
  intro other text hwritten
  rw [List.getLast?_concat] at hwritten
  exact (Milestone.written.inj (Option.some.inj hwritten)).1.symm

theorem send :
    (p.send horizon call deadline).value.Charted
      (ms ++ Milestone.watch.ofSend p horizon call deadline) := by
  cases hreactions : p.reactions with
  | nil =>
    have hwritten := h.write hlast p.reactions []
    simp only [Port.send, Watch.ofSend, hreactions]
    rw [← List.append_assoc]
    exact hwritten.listen (by simp [Milestone.leaves]) _
  | cons r rest =>
    cases r with
    | sends chunks =>
      have hwritten := h.write hlast rest chunks
      simp only [Port.send, Watch.ofSend, hreactions]
      rw [← List.append_assoc]
      exact hwritten.listen (by simp [Milestone.leaves]) _
    | refuses reason =>
      simp only [Port.send, Watch.ofSend, hreactions]
      exact Underway.finish (p := { p with reactions := rest })
        ⟨h.sent, h.ended, h.chain, h.last, h.stale⟩ _ (by rintro ⟨⟩)

/-- Draining is begun only where a command was left unfinished. -/
theorem drain (hun : unfinished ms = true) (quietAt : Nat) :
    (p.drain horizon call deadline quietAt).value.Charted
      (ms ++ Milestone.watch.ofDrain p horizon call deadline quietAt) := by
  rw [Port.drain, Watch.ofDrain, Logged.value_bind]
  obtain ⟨intake, drained⟩ := (p.intake.drain deadline horizon quietAt).value
  cases drained with
  | clean =>
    have hnone : EndsWith (ms ++ [Milestone.drained call.ticket]) fun _ => False := by
      intro other text hdrained
      simp at hdrained
    obtain ⟨hsent, hended, hchain⟩ := h.concat (q := { p with intake })
      (m := Milestone.drained call.ticket) (by simp [Milestone.text?])
      (by simp [Milestone.outcome?]) fun other text hw => (hlast other text hw).elim
    have hdrained :
        Underway { p with intake } (ms ++ [Milestone.drained call.ticket]) call.ticket :=
      ⟨hsent, hended, hchain, fun other text hw => (hnone other text hw).elim, h.stale⟩
    dsimp only
    rw [← List.append_assoc]
    exact hdrained.send hnone
  | lost _ | expired =>
    exact Underway.finish (p := { p with intake }) ⟨h.sent, h.ended, h.chain, h.last, h.stale⟩
      _ fun _ => hun
  | halted quietAt =>
    rw [List.append_nil]
    exact Underway.halt (p := { p with intake }) ⟨h.sent, h.ended, h.chain, h.last, h.stale⟩ hun rfl
      fun other text hw => (hlast other text hw).elim

end Underway

namespace Charted

variable (h : p.Charted ms)
include h

/-- Nothing that is passed tells about the intake, the queue or the reactions of a port. -/
theorem of_eq {q : Port} (hsent : q.sent = p.sent) (hended : q.ended = p.ended)
    (hactive : q.active = p.active) (hstale : q.stale = p.stale) : q.Charted ms where
  sent := hsent.trans h.sent
  ended := hended ▸ h.ended
  chain := h.chain
  idle_last hidle := h.idle_last (hactive.symm.trans hidle)
  busy_last := hactive ▸ h.busy_last
  idle_stale hidle := hstale.trans (h.idle_stale (hactive.symm.trans hidle))
  busy_stale := by
    rw [hactive, hstale]
    exact h.busy_stale

/-- A call that is over without having done anything is on record and passes nothing. -/
theorem note {q : Port} (e : Ended) (hsent : q.sent = p.sent) (hended : q.ended = p.ended ++ [e])
    (hactive : q.active = p.active) (hstale : q.stale = p.stale) : q.Charted ms where
  sent := hsent.trans h.sent
  ended := by
    rw [hended, List.map_append]
    exact h.ended.trans (List.sublist_append_left ..)
  chain := h.chain
  idle_last hidle := h.idle_last (hactive.symm.trans hidle)
  busy_last := hactive ▸ h.busy_last
  idle_stale hidle := hstale.trans (h.idle_stale (hactive.symm.trans hidle))
  busy_stale := by
    rw [hactive, hstale]
    exact h.busy_stale

/-- A free port has no command that waits for its end. -/
theorem endsWith_of_idle (hidle : p.active = none) : EndsWith ms fun _ => False := by
  intro ticket text hlast
  obtain ⟨_, _, hover⟩ := h.idle_last hidle _ hlast
  cases hover

/-- The port as it is taken up again for the call that has it. -/
theorem underway {x : Exchange} (hx : p.active = some x) :
    Underway { p with active := none } ms x.call.ticket where
  sent := h.sent
  ended := h.ended
  chain := h.chain
  last ticket text hlast := (h.busy_last x hx ticket text hlast).1
  stale := (h.busy_stale x hx).1

theorem take (hidle : p.active = none) (horizon : Horizon) (call : Call) :
    (p.take horizon call).value.Charted (ms ++ Milestone.watch.ofTake p horizon call) := by
  have hnone := h.endsWith_of_idle hidle
  have hlast : EndsWith ms (· = call.ticket) := fun ticket text hw => (hnone ticket text hw).elim
  rw [Port.take, Watch.ofTake]
  split
  · rw [List.append_nil]
    exact h.note _ rfl rfl hidle.symm rfl
  · simp only [Logged.value_bind]
    cases hstale : p.stale with
    | true =>
      have hun : unfinished ms = true := by
        have hflag := (h.idle_stale hidle).symm.trans hstale
        exact (Bool.and_eq_true _ _ ▸ hflag).1
      exact Underway.drain (p := { p with stale := false })
        ⟨h.sent, h.ended, h.chain, hlast, rfl⟩ hnone hun _
    | false => exact Underway.send ⟨h.sent, h.ended, h.chain, hlast, hstale⟩ hnone

end Charted

namespace Charted

theorem serve {horizon : Horizon} {calls : List Call} (h : p.Charted ms) (hidle : p.active = none) :
    (Port.serve horizon calls p).value.Charted (ms ++ Milestone.watch.ofServe horizon calls p) := by
  induction calls generalizing p ms with
  | nil =>
    rw [Watch.ofServe, List.append_nil]
    exact h.of_eq rfl rfl rfl rfl
  | cons call rest ih =>
    have htake := h.take hidle horizon call
    rw [serve_cons, Watch.ofServe, Logged.value_bind, Port.orServe, ← List.append_assoc]
    split
    · rw [List.append_nil]
      exact htake.of_eq rfl rfl rfl rfl
    · next hfree => exact ih htake (by simpa using hfree)

variable (h : p.Charted ms)
include h

theorem orServe (horizon : Horizon) (calls : List Call) :
    (Port.orServe horizon calls p).value.Charted
      (ms ++ Milestone.watch.ofOrServe horizon calls p) := by
  rw [Port.orServe, Watch.ofOrServe]
  split
  · rw [List.append_nil]
    exact h.of_eq rfl rfl rfl rfl
  · next hfree => exact h.serve (by simpa using hfree)

theorem goOn (horizon : Horizon) :
    (p.goOn horizon).value.Charted (ms ++ Milestone.watch.ofGoOn p horizon) := by
  cases hactive : p.active with
  | none =>
    rw [goOn_of_idle hactive, Watch.ofGoOn, hactive, List.append_nil]
    exact h
  | some x =>
    have hunderway := h.underway hactive
    have hun := (h.busy_stale x hactive).2
    rw [Port.goOn, Watch.ofGoOn, hactive]
    dsimp only
    rw [Port.resume, Watch.ofResume]
    cases hstage : x.stage with
    | draining quietAt =>
      refine hunderway.drain ?_ hun quietAt
      intro ticket text hlast
      obtain ⟨-, l, hl⟩ := h.busy_last x hactive ticket text hlast
      rw [hstage] at hl
      cases hl
    | listening l => exact hunderway.listen hun l

theorem advance (horizon : Horizon) :
    (p.advance horizon).value.Charted (ms ++ Milestone.watch.ofAdvance p horizon) := by
  rw [advance_eq, Watch.ofAdvance, Logged.value_bind, ← List.append_assoc]
  exact (h.goOn horizon).orServe horizon p.queue

theorem elapse (now : Nat) : (p.elapse now).Charted ms :=
  h.of_eq rfl rfl rfl rfl

/-! ### Moves -/

theorem call (now : Nat) (c : Call) :
    (p.call now c).value.Charted (ms ++ Milestone.watch.ofCall p now c) := by
  have hnow := (h.advance (.upTo now)).elapse now
  rw [Port.call, Watch.ofCall, Watch.ofOrServe, Logged.value_bind, ← List.append_assoc]
  dsimp only
  split
  · rw [List.append_nil]
    exact hnow.of_eq rfl rfl rfl rfl
  · next hfree => exact hnow.serve (by simpa using hfree)

theorem cancel (now ticket : Nat) :
    (p.cancel now ticket).value.Charted (ms ++ Milestone.watch.ofCancel p now ticket) := by
  have hhalted := h.advance (.before now)
  rw [Port.cancel, Watch.ofCancel, Logged.value_bind, ← List.append_assoc]
  cases hactive : (p.advance (.before now)).value.activeOf? ticket with
  | none =>
    simp only [List.append_nil]
    exact hhalted.of_eq rfl rfl rfl rfl
  | some x =>
    have hx := (Option.filter_eq_some_iff.mp hactive).1
    have hun := (hhalted.busy_stale x hx).2
    have hfinished := ((hhalted.elapse now).underway hx).finish (.error .canceled)
      fun _ => hun
    simp only [Logged.value_bind]
    rw [← List.append_assoc]
    exact hfinished.serve (active_finish ..)

theorem abort (now ticket : Nat) :
    (p.abort now ticket).value.Charted (ms ++ Milestone.watch.ofAbort p now ticket) := by
  have hhalted := h.advance (.upTo now)
  rw [Port.abort, Watch.ofAbort, Logged.value_bind, ← List.append_assoc]
  cases hactive : (p.advance (.upTo now)).value.activeOf? ticket with
  | none =>
    simp only [List.append_nil]
    split
    · exact hhalted.note _ rfl rfl rfl rfl
    · exact hhalted
  | some x =>
    obtain ⟨hx, hticket⟩ := Option.filter_eq_some_iff.mp hactive
    obtain rfl : x.call.ticket = ticket := by simpa using hticket
    have hunderway := (hhalted.elapse now).underway hx
    have hdropped := hunderway.record none hunderway.stale (by rintro ⟨⟩)
    rw [← List.append_assoc]
    exact hdropped.serve rfl

theorem act (a : Act) : (p.act a).value.Charted (ms ++ Milestone.watch.ofAct p a) := by
  cases a with
  | move now m =>
    cases m with
    | call c => exact h.call now c
    | cancel ticket => exact h.cancel now ticket
    | abort ticket => exact h.abort now ticket
  | advance horizon => exact h.advance horizon
  | wait duration =>
    rw [Watch.ofAct, List.append_nil]
    exact h.elapse _
  | inject chunks =>
    have hinjected : Milestone.watch.ofAct p (.inject chunks) = [] := rfl
    rw [hinjected, List.append_nil]
    exact h.of_eq rfl rfl rfl rfl

end Charted

/-- In every run a port is where its milestones have led it. -/
theorem Charted.play (h : p.Charted ms) (acts : List Act) :
    (p.play acts).value.Charted (ms ++ p.playMilestones acts) := by
  rw [playMilestones]
  induction acts generalizing p ms with
  | nil =>
    rw [Watch.ofPlay, List.append_nil]
    exact h
  | cons a acts ih =>
    rw [Port.play, List.foldlM_cons, Logged.value_bind, Watch.ofPlay, ← List.append_assoc]
    exact ih (h.act a)

end Port

end ModemLink
