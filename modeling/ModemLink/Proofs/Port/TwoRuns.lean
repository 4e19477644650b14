import Mathlib.Data.List.Forall2
import ModemLink.Proofs.Port.CredentialEchoes
import ModemLink.Proofs.Port.Runs

/-!
# Ports in two runs

Two ports are akin if they are where two runs of the same calls are that differ in credentials
only: the same exchange is under way, the same calls wait, what is unread is akin, and the modems
either both send something about the next command or both refuse it. Whatever happens to both of
them leaves them akin, and they log the same, until one shows the echo of a command of a pair.

What a modem sends is counted from when a command is written, so two modems do the same only in the
light of when that is. For each move of a port the commands are listed that are written in the
course of it, with what is unread right after; that is where the inputs of both runs have to be
akin.

## Main definitions

* `Port.Akin`: the ports of two runs.
* `Write`, `WritesAkin`: commands that are written, and modems that do the same about them.
* `Port.ModemsAkin`: modems that do the same in two runs, save for the echoes of pairs.

## Main results

* `Port.Akin.advance`: ports that are akin stay so as time passes.
* `Port.Akin.call`, `Port.Akin.cancel`, `Port.Akin.abort`: and under the moves of a run.
* `Port.Akin.play`: runs that differ in credentials keep ports akin.
-/

namespace ModemLink

variable {pairs : Command → Command → Prop}

/-! ### Calls, exchanges and ports -/

/-- A call in two runs: of the same command, or of one of a pair. -/
structure Call.Akin (pairs : Command → Command → Prop) (c c' : Call) : Prop where
  ticket_eq : c.ticket = c'.ticket
  cancelled_eq : c.cancelled = c'.cancelled
  command : c.command = c'.command ∨ pairs c.command c'.command

namespace Call.Akin

variable {call call' : Call}

theorem timeout_eq (hpairs : ∀ c c', pairs c c' → c.Twin c') (h : call.Akin pairs call') :
    call.command.timeout = call'.command.timeout := by
  obtain heq | hpair := h.command
  · rw [heq]
  · exact (hpairs _ _ hpair).timeout_eq

/-- Calls that are akin are logged alike. -/
theorem loggable_eq (hpairs : ∀ c c', pairs c c' → c.Twin c') (h : call.Akin pairs call') :
    call.command.loggable = call'.command.loggable := by
  obtain heq | hpair := h.command
  · rw [heq]
  · exact (hpairs _ _ hpair).loggable_eq

/-- Ports begin alike to listen for the answers. -/
theorem toCommand (h : call.Akin pairs call') :
    (Listening.toCommand call.command.body).Akin pairs
      (Listening.toCommand call'.command.body) where
  echo := by
    obtain heq | hpair := h.command
    · exact .inl (by rw [heq])
    · exact .inr ⟨call.command, call'.command, hpair, rfl, rfl⟩
  info_eq := rfl
  skipping_eq := rfl

end Call.Akin

section Queue

variable {calls calls' : List Call} (h : List.Forall₂ (Call.Akin pairs) calls calls')
include h

/-- The calls that wait are told by their tickets. -/
theorem Call.Akin.any_ticket (ticket : Nat) :
    calls.any (·.ticket == ticket) = calls'.any (·.ticket == ticket) := by
  induction h with
  | nil => rfl
  | cons hcall _ ih => rw [List.any_cons, List.any_cons, hcall.ticket_eq, ih]

theorem Call.Akin.filter_ticket (ticket : Nat) :
    List.Forall₂ (Call.Akin pairs) (calls.filter (·.ticket != ticket))
      (calls'.filter (·.ticket != ticket)) := by
  induction h with
  | nil => exact .nil
  | cons hcall _ ih =>
    rw [List.filter_cons, List.filter_cons, hcall.ticket_eq]
    split
    · exact .cons hcall ih
    · exact ih

/-- Calls that wait are cancelled alike. -/
theorem Call.Akin.mark (ticket : Nat) :
    List.Forall₂ (Call.Akin pairs)
      (calls.map fun c => if c.ticket = ticket then { c with cancelled := true } else c)
      (calls'.map fun c => if c.ticket = ticket then { c with cancelled := true } else c) := by
  induction h with
  | nil => exact .nil
  | cons hcall _ ih =>
    refine .cons ?_ ih
    dsimp only
    rw [← hcall.ticket_eq]
    split
    · exact ⟨rfl, rfl, hcall.command⟩
    · exact hcall

end Queue

/-- Where an exchange is in two runs. -/
inductive Stage.Akin (pairs : Command → Command → Prop) : Stage → Stage → Prop
  | draining (quietAt : Nat) : Akin pairs (.draining quietAt) (.draining quietAt)
  | listening {l l' : Listening} (h : l.Akin pairs l') : Akin pairs (.listening l) (.listening l')

/-- The calls that have the port in two runs. -/
structure Exchange.Akin (pairs : Command → Command → Prop) (x x' : Exchange) : Prop where
  call : x.call.Akin pairs x'.call
  deadline_eq : x.deadline = x'.deadline
  stage : x.stage.Akin pairs x'.stage

/-- What modems do about a command: both send something, or both refuse it for one reason. -/
inductive Reaction.Akin : Reaction → Reaction → Prop
  | sends (chunks chunks' : List Chunk) : Akin (.sends chunks) (.sends chunks')
  | refuses (reason : String) : Akin (.refuses reason) (.refuses reason)

/-- The ports of two runs. -/
structure Port.Akin (pairs : Command → Command → Prop) (p p' : Port) : Prop where
  name_eq : p.name = p'.name
  intake : p.intake.Akin pairs p'.intake
  stale_eq : p.stale = p'.stale
  reactions : List.Forall₂ Reaction.Akin p.reactions p'.reactions
  active : Option.Rel (Exchange.Akin pairs) p.active p'.active
  queue : List.Forall₂ (Call.Akin pairs) p.queue p'.queue
  sent_eq : p.sent.length = p'.sent.length

/-! ### What is written -/

/-- A command that is written. -/
structure Write where
  /-- How many were written before it. -/
  place : Nat
  /-- What is unread right after, with what the modem sends about it. -/
  unread : Intake

/-- Where both runs write a command, the inputs are akin. -/
def WritesAkin (pairs : Command → Command → Prop) (ws ws' : List Write) : Prop :=
  ∀ w ∈ ws, ∀ w' ∈ ws', w.place = w'.place → w.unread.Akin pairs w'.unread

namespace WritesAkin

variable {ws ws' vs vs' : List Write}

theorem left (h : WritesAkin pairs (ws ++ vs) (ws' ++ vs')) : WritesAkin pairs ws ws' :=
  fun w hw w' hw' => h w (List.mem_append_left _ hw) w' (List.mem_append_left _ hw')

theorem single {w w' : Write} (h : WritesAkin pairs [w] [w']) (hplace : w.place = w'.place) :
    w.unread.Akin pairs w'.unread :=
  h w List.mem_cons_self w' List.mem_cons_self hplace

theorem right (h : WritesAkin pairs (ws ++ vs) (ws' ++ vs')) : WritesAkin pairs vs vs' :=
  fun w hw w' hw' => h w (List.mem_append_right _ hw) w' (List.mem_append_right _ hw')

end WritesAkin

/-- The commands that are written, and what the modem sends unasked. -/
def Write.watch : Port.Watch Write where
  written p chunks call := [⟨p.sent.length, (p.write call.command.body chunks).intake⟩]
  drained _ := []
  ended _ _ := []
  injected p chunks := [⟨p.sent.length, (p.inject chunks).intake⟩]

/-- Nothing is written while a port listens. -/
theorem Write.ofListen_eq_nil (p : Port) (horizon : Horizon) (call : Call) (deadline : Nat)
    (l : Listening) : Write.watch.ofListen p horizon call deadline l = [] := by
  rw [Port.Watch.ofListen]
  split <;> rfl

namespace Port

/-- What is unread where the modem has been asked or has sent something unasked. -/
def actWrites (p : Port) (a : Act) : List Write :=
  Write.watch.ofAct p a

namespace Akin

variable {p p' : Port} {horizon : Horizon}

theorem clock_eq (h : p.Akin pairs p') : p.clock = p'.clock :=
  h.intake.clock_eq

theorem elapse (h : p.Akin pairs p') (now : Nat) : (p.elapse now).Akin pairs (p'.elapse now) :=
  { h with intake := h.intake.elapse now }

theorem withIntake (h : p.Akin pairs p') {i i' : Intake} (hi : i.Akin pairs i') :
    Port.Akin pairs { p with intake := i } { p' with intake := i' } :=
  { h with intake := hi }

theorem withReactions (h : p.Akin pairs p') {reactions reactions' : List Reaction}
    (hreactions : List.Forall₂ Reaction.Akin reactions reactions') :
    Port.Akin pairs { p with reactions } { p' with reactions := reactions' } :=
  { h with reactions := hreactions }

theorem withStale (h : p.Akin pairs p') {stale stale' : Bool} (hstale : stale = stale') :
    Port.Akin pairs { p with stale } { p' with stale := stale' } :=
  { h with stale_eq := hstale }

theorem withActive (h : p.Akin pairs p') {x x' : Option Exchange}
    (hx : Option.Rel (Exchange.Akin pairs) x x') :
    Port.Akin pairs { p with active := x } { p' with active := x' } :=
  { h with active := hx }

theorem withQueue (h : p.Akin pairs p') {calls calls' : List Call}
    (hcalls : List.Forall₂ (Call.Akin pairs) calls calls') :
    (p.withQueue calls).Akin pairs (p'.withQueue calls') :=
  { h with queue := hcalls }

theorem record (h : p.Akin pairs p') (ticket ticket' : Nat) (answer answer' : Option Answer) :
    (p.record ticket answer).Akin pairs (p'.record ticket' answer') :=
  { h with active := .none }

theorem isSome_active (h : p.Akin pairs p') : p.active.isSome = p'.active.isSome := by
  have hactive := h.active
  generalize p.active = x, p'.active = x' at hactive ⊢
  cases hactive <;> rfl

theorem activeOf? (h : p.Akin pairs p') (ticket : Nat) :
    Option.Rel (Exchange.Akin pairs) (p.activeOf? ticket) (p'.activeOf? ticket) := by
  have hactive := h.active
  rw [Port.activeOf?, Port.activeOf?]
  generalize p.active = x, p'.active = x' at hactive ⊢
  cases hactive with
  | none => exact .none
  | some hx =>
    rw [Option.filter_some, Option.filter_some, ← hx.call.ticket_eq]
    split
    · exact .some hx
    · exact .none

/-- The ports when both have written a command. -/
theorem write (h : p.Akin pairs p') {i i' : Intake} (hi : i.Akin pairs i')
    {reactions reactions' : List Reaction}
    (hreactions : List.Forall₂ Reaction.Akin reactions reactions') (body body' : String) :
    Port.Akin pairs
      { p with reactions, intake := i, sent := p.sent ++ ["AT" ++ body ++ "\r"] }
      { p' with
        reactions := reactions', intake := i', sent := p'.sent ++ ["AT" ++ body' ++ "\r"] } :=
  { h with
    intake := hi
    reactions := hreactions
    sent_eq := by rw [List.length_append, List.length_append, h.sent_eq]; rfl }

variable (hpairs : ∀ c c', pairs c c' → c.Twin c') (h : p.Akin pairs p')
include hpairs h

/-! ### Exchanges -/

section Exchange

variable {call call' : Call} {deadline : Nat}

/-- A call ends alike in two runs. -/
theorem finish (hcall : call.Akin pairs call') (answer : Answer) :
    Logged.Agree (Event.Betrays pairs) (Port.Akin pairs)
      (p.finish call answer) (p'.finish call' answer) := by
  cases answer with
  | ok text =>
    have hevent : Event.replyReceived p.name text = .replyReceived p'.name text := by
      rw [h.name_eq]
    rw [Port.finish, Port.finish, hevent]
    exact .note _ (.pure (h.record ..))
  | error fault =>
    have hevent : Event.commandFailed p.name call.command.loggable fault =
        .commandFailed p'.name call'.command.loggable fault := by
      rw [h.name_eq, hcall.loggable_eq hpairs]
    rw [Port.finish, Port.finish, hevent]
    exact .note _ (.pure ((h.withStale (by rw [h.stale_eq])).record ..))

theorem listen (hcall : call.Akin pairs call') {l l' : Listening} (hl : l.Akin pairs l') :
    Logged.Agree (Event.Betrays pairs) (Port.Akin pairs)
      (p.listen horizon call deadline l) (p'.listen horizon call' deadline l') := by
  refine (h.intake.listen hl).bind fun ⟨i, heard⟩ ⟨i', heard'⟩ ⟨hi, hheard⟩ => ?_
  cases hheard with
  | answer a => exact (h.withIntake hi).finish hpairs hcall a
  | expired =>
    rw [timeout, timeout, hcall.timeout_eq hpairs]
    exact (h.withIntake hi).finish hpairs hcall _
  | halted hl =>
    exact .pure ((h.withIntake hi).withActive (.some ⟨hcall, rfl, .listening hl⟩))

/-- A command is sent in two runs, and the modems do the same about it. -/
theorem send (hcall : call.Akin pairs call')
    (hwrites : WritesAkin pairs (Write.watch.ofSend p horizon call deadline)
      (Write.watch.ofSend p' horizon call' deadline)) :
    Logged.Agree (Event.Betrays pairs) (Port.Akin pairs)
      (p.send horizon call deadline) (p'.send horizon call' deadline) := by
  cases hr : p.reactions with
  | nil =>
    have hr' : p'.reactions = [] := by simpa [hr] using h.reactions
    simp only [Watch.ofSend, hr, hr'] at hwrites
    simp only [Port.send, hr, hr']
    have hwritten :=
      h.write (hwrites.left.single h.sent_eq) h.reactions call.command.body call'.command.body
    exact hwritten.listen hpairs hcall hcall.toCommand
  | cons r rest =>
    obtain ⟨r', rest', hhead, htail, hr'⟩ := List.forall₂_cons_left_iff.mp (hr ▸ h.reactions)
    cases hhead with
    | sends chunks chunks' =>
      simp only [Watch.ofSend, hr, hr'] at hwrites
      simp only [Port.send, hr, hr']
      have hwritten :=
        h.write (hwrites.left.single h.sent_eq) htail call.command.body call'.command.body
      exact hwritten.listen hpairs hcall hcall.toCommand
    | refuses reason =>
      simp only [Port.send, hr, hr']
      exact (h.withReactions htail).finish hpairs hcall _

theorem drain (hcall : call.Akin pairs call') {quietAt : Nat}
    (hwrites : WritesAkin pairs (Write.watch.ofDrain p horizon call deadline quietAt)
      (Write.watch.ofDrain p' horizon call' deadline quietAt)) :
    Logged.Agree (Event.Betrays pairs) (Port.Akin pairs)
      (p.drain horizon call deadline quietAt) (p'.drain horizon call' deadline quietAt) := by
  refine h.intake.drain.bind_value fun hvalue => ?_
  unfold Watch.ofDrain at hwrites
  generalize (p.intake.drain deadline horizon quietAt).value = drained at hvalue hwrites ⊢
  generalize (p'.intake.drain deadline horizon quietAt).value = drained' at hvalue hwrites ⊢
  obtain ⟨i, d⟩ := drained
  obtain ⟨i', d'⟩ := drained'
  obtain ⟨hi, rfl⟩ : i.Akin pairs i' ∧ d = d' := hvalue
  have hp := h.withIntake hi
  cases d with
  | clean => exact hp.send hpairs hcall hwrites
  | lost fault => exact hp.finish hpairs hcall _
  | expired =>
    dsimp only
    rw [timeout, timeout, hcall.timeout_eq hpairs]
    exact hp.finish hpairs hcall _
  | halted quietAt => exact .pure (hp.withActive (.some ⟨hcall, rfl, .draining quietAt⟩))

/-- A call gets the port in two runs. -/
theorem take (hcall : call.Akin pairs call')
    (hwrites : WritesAkin pairs (Write.watch.ofTake p horizon call)
      (Write.watch.ofTake p' horizon call')) :
    Logged.Agree (Event.Betrays pairs) (Port.Akin pairs)
      (p.take horizon call) (p'.take horizon call') := by
  have hevent : Event.commandSent p'.name call'.command.loggable call'.command.timeout =
      .commandSent p.name call.command.loggable call.command.timeout := by
    rw [h.name_eq, hcall.loggable_eq hpairs, hcall.timeout_eq hpairs]
  rw [Port.take, Port.take, hevent, ← hcall.cancelled_eq, ← hcall.timeout_eq hpairs, ← h.stale_eq,
    ← h.clock_eq]
  rw [Watch.ofTake, Watch.ofTake, ← hcall.cancelled_eq, ← hcall.timeout_eq hpairs, ← h.stale_eq,
    ← h.clock_eq] at hwrites
  split
  · exact .pure (h.record ..)
  · next hcancelled =>
    rw [if_neg hcancelled, if_neg hcancelled] at hwrites
    refine .note _ ?_
    dsimp only
    split
    · next hstale =>
      rw [if_pos hstale, if_pos hstale] at hwrites
      exact (h.withStale rfl).drain hpairs hcall hwrites
    · next hstale =>
      rw [if_neg hstale, if_neg hstale] at hwrites
      exact h.send hpairs hcall hwrites

end Exchange

/-! ### The queue -/

/-- Calls that wait are served alike. -/
theorem serve {calls calls' : List Call} (hcalls : List.Forall₂ (Call.Akin pairs) calls calls')
    (hwrites : WritesAkin pairs (Write.watch.ofServe horizon calls p)
      (Write.watch.ofServe horizon calls' p')) :
    Logged.Agree (Event.Betrays pairs) (Port.Akin pairs)
      (Port.serve horizon calls p) (Port.serve horizon calls' p') := by
  induction hcalls generalizing p p' with
  | nil => exact .pure (h.withQueue .nil)
  | @cons call call' rest rest' hcall hrest ih =>
    rw [Watch.ofServe, Watch.ofServe] at hwrites
    refine (h.take hpairs hcall hwrites.left).bind_value fun hafter => ?_
    rw [← hafter.isSome_active]
    split
    · exact .pure (hafter.withQueue hrest)
    · next hfree =>
      have hlater := hwrites.right
      rw [← hafter.isSome_active, if_neg hfree, if_neg hfree] at hlater
      exact ih hafter hlater

theorem orServe {calls calls' : List Call} (hcalls : List.Forall₂ (Call.Akin pairs) calls calls')
    (hwrites : WritesAkin pairs (Write.watch.ofOrServe horizon calls p)
      (Write.watch.ofOrServe horizon calls' p')) :
    Logged.Agree (Event.Betrays pairs) (Port.Akin pairs)
      (Port.orServe horizon calls p) (Port.orServe horizon calls' p') := by
  rw [Port.orServe, Port.orServe, ← h.isSome_active]
  rw [Watch.ofOrServe, Watch.ofOrServe, ← h.isSome_active] at hwrites
  split
  · exact .pure (h.withQueue hcalls)
  · next hfree =>
    rw [if_neg hfree, if_neg hfree] at hwrites
    exact h.serve hpairs hcalls hwrites

theorem resume {x x' : Exchange} (hx : x.Akin pairs x')
    (hwrites : WritesAkin pairs (Write.watch.ofResume p horizon x)
      (Write.watch.ofResume p' horizon x')) :
    Logged.Agree (Event.Betrays pairs) (Port.Akin pairs)
      (p.resume horizon x) (p'.resume horizon x') := by
  have hstage := hx.stage
  rw [Port.resume, Port.resume, ← hx.deadline_eq]
  rw [Watch.ofResume, Watch.ofResume, ← hx.deadline_eq] at hwrites
  generalize x.stage = stage, x'.stage = stage' at hstage hwrites ⊢
  cases hstage with
  | draining quietAt => exact h.drain hpairs hx.call hwrites
  | listening hl => exact h.listen hpairs hx.call hl

theorem goOn (hwrites : WritesAkin pairs (Write.watch.ofGoOn p horizon)
      (Write.watch.ofGoOn p' horizon)) :
    Logged.Agree (Event.Betrays pairs) (Port.Akin pairs)
      (p.goOn horizon) (p'.goOn horizon) := by
  have hactive := h.active
  rw [Port.goOn, Port.goOn]
  rw [Watch.ofGoOn, Watch.ofGoOn] at hwrites
  generalize p.active = x, p'.active = x' at hactive hwrites ⊢
  cases hactive with
  | none => exact .pure h
  | some hx => exact (h.withActive .none).resume hpairs hx hwrites

/-- Ports that are akin stay so as time passes. -/
theorem advance
    (hwrites : WritesAkin pairs (Write.watch.ofAdvance p horizon)
      (Write.watch.ofAdvance p' horizon)) :
    Logged.Agree (Event.Betrays pairs) (Port.Akin pairs)
      (p.advance horizon) (p'.advance horizon) := by
  rw [advance_eq, advance_eq]
  exact (h.goOn hpairs hwrites.left).bind_value fun hafter =>
    hafter.orServe hpairs h.queue hwrites.right

/-! ### Moves -/

theorem call {now : Nat} {c c' : Call} (hcall : c.Akin pairs c')
    (hwrites : WritesAkin pairs (Write.watch.ofCall p now c) (Write.watch.ofCall p' now c')) :
    Logged.Agree (Event.Betrays pairs) (Port.Akin pairs) (p.call now c) (p'.call now c') := by
  refine (h.advance hpairs hwrites.left).bind_value fun hafter => ?_
  have hnow := hafter.elapse now
  have hlater := hwrites.right
  rw [Watch.ofOrServe, Watch.ofOrServe, ← hnow.isSome_active] at hlater
  dsimp only
  rw [← hnow.isSome_active]
  split
  · exact .pure (hnow.withQueue (List.rel_append hnow.queue (.cons hcall .nil)))
  · next hfree =>
    rw [if_neg hfree, if_neg hfree] at hlater
    exact hnow.serve hpairs (.cons hcall .nil) hlater

theorem cancel {now ticket : Nat}
    (hwrites : WritesAkin pairs (Write.watch.ofCancel p now ticket)
      (Write.watch.ofCancel p' now ticket)) :
    Logged.Agree (Event.Betrays pairs) (Port.Akin pairs)
      (p.cancel now ticket) (p'.cancel now ticket) := by
  refine (h.advance hpairs hwrites.left).bind_value fun hafter => ?_
  have hactive := hafter.activeOf? ticket
  have hlater := hwrites.right
  generalize (p.advance (.before now)).value.activeOf? ticket = x,
    (p'.advance (.before now)).value.activeOf? ticket = x' at hactive hlater ⊢
  cases hactive with
  | none => exact .pure (hafter.withQueue (Call.Akin.mark hafter.queue ticket))
  | some hx =>
    refine ((hafter.elapse now).finish hpairs hx.call _).bind_value fun hfree => ?_
    exact hfree.serve hpairs hfree.queue hlater

theorem abort {now ticket : Nat}
    (hwrites : WritesAkin pairs (Write.watch.ofAbort p now ticket)
      (Write.watch.ofAbort p' now ticket)) :
    Logged.Agree (Event.Betrays pairs) (Port.Akin pairs)
      (p.abort now ticket) (p'.abort now ticket) := by
  refine (h.advance hpairs hwrites.left).bind_value fun hafter => ?_
  have hactive := hafter.activeOf? ticket
  have hlater := hwrites.right
  generalize (p.advance (.upTo now)).value.activeOf? ticket = x,
    (p'.advance (.upTo now)).value.activeOf? ticket = x' at hactive hlater ⊢
  cases hactive with
  | none =>
    dsimp only
    rw [← Call.Akin.any_ticket hafter.queue ticket]
    split
    · have hwaiting := Call.Akin.filter_ticket hafter.queue ticket
      exact .pure { hafter.elapse now with queue := hwaiting }
    · exact .pure hafter
  | some hx =>
    have hfree := (hafter.elapse now).record ticket ticket none none
    exact hfree.serve hpairs hfree.queue hlater

end Akin

/-! ### Runs -/

/-- Acts of two runs that differ in credentials, and in what the modems send. -/
inductive Act.Akin (pairs : Command → Command → Prop) : Act → Act → Prop
  | call (now : Nat) {c c' : Call} (h : c.Akin pairs c') :
    Akin pairs (.move now (.call c)) (.move now (.call c'))
  | cancel (now ticket : Nat) : Akin pairs (.move now (.cancel ticket)) (.move now (.cancel ticket))
  | abort (now ticket : Nat) : Akin pairs (.move now (.abort ticket)) (.move now (.abort ticket))
  | advance (horizon : Horizon) : Akin pairs (.advance horizon) (.advance horizon)
  | wait (duration : Nat) : Akin pairs (.wait duration) (.wait duration)
  | inject (chunks chunks' : List Chunk) : Akin pairs (.inject chunks) (.inject chunks')

/-- The modems do the same in two runs, save for the echoes of pairs: whenever both have sent
something, the inputs are akin. -/
def ModemsAkin (pairs : Command → Command → Prop) : Port → Port → List Act → List Act → Prop
  | p, p', a :: acts, a' :: acts' =>
    WritesAkin pairs (p.actWrites a) (p'.actWrites a') ∧
      ModemsAkin pairs (p.act a).value (p'.act a').value acts acts'
  | _, _, _, _ => True

/-! ### Two runs -/

variable {p p' : Port} {acts acts' : List Act}

/-- A port that nothing was asked yet. -/
theorem akin_new (name : String) {reactions reactions' : List Reaction}
    (h : List.Forall₂ Reaction.Akin reactions reactions') :
    Port.Akin pairs { name, reactions } { name, reactions := reactions' } where
  name_eq := rfl
  intake := ⟨rfl, .nil⟩
  stale_eq := rfl
  reactions := h
  active := .none
  queue := .nil
  sent_eq := rfl

namespace Akin

variable (hpairs : ∀ c c', pairs c c' → c.Twin c')
include hpairs

theorem act (h : p.Akin pairs p') {a a' : Act} (ha : a.Akin pairs a')
    (hwrites : WritesAkin pairs (p.actWrites a) (p'.actWrites a')) :
    Logged.Agree (Event.Betrays pairs) (Port.Akin pairs) (p.act a) (p'.act a') := by
  cases ha with
  | call now hcall => exact h.call hpairs hcall hwrites
  | cancel now ticket => exact h.cancel hpairs hwrites
  | abort now ticket => exact h.abort hpairs hwrites
  | advance horizon => exact h.advance hpairs hwrites
  | wait duration =>
    rw [Port.act, Port.act, Port.wait, Port.wait, ← h.clock_eq]
    exact .pure (h.elapse _)
  | inject chunks chunks' => exact .pure (h.withIntake (hwrites.single h.sent_eq))

/-- Whatever happens to two ports that are akin leaves them so. -/
theorem play (h : p.Akin pairs p') (hacts : List.Forall₂ (Act.Akin pairs) acts acts')
    (hmodems : ModemsAkin pairs p p' acts acts') :
    Logged.Agree (Event.Betrays pairs) (Port.Akin pairs) (p.play acts) (p'.play acts') := by
  induction hacts generalizing p p' with
  | nil => exact .pure h
  | cons ha _ ih =>
    rw [Port.play, Port.play, List.foldlM_cons, List.foldlM_cons]
    exact (h.act hpairs ha hmodems.1).bind_value fun hafter => ih hafter hmodems.2

end Akin

end Port

end ModemLink
