import ModemLink.Proofs.Port.CallEnds
import ModemLink.Proofs.Port.Serving

/-!
# Own answers, to the instant

A modem that answers a command sends the echo of the command line or none, lines of information and
a final result. A port that is not stale and reads these lines ends the call when the final result
is complete, with what the answer tells; or at the end of the time of the command, with a timeout,
where the final result comes later than that.

The echo is a line that reads like the command line does. There is none for a command that ends
with white space, because lines are trimmed and the command line is not.

## Main definitions

* `OwnAnswer`: an answer to a command, in lines.
* `OwnAnswer.reply`: what the answer tells.
* `Port.Hears`: what a port reads about a call.

## Main results

* `OwnAnswer.completes`: a port that listens takes the reply from an own answer.
* `Port.value_send_of_completes`: a command whose answer is complete at an instant.
* `Port.Hears.value_settle`: a call on a port that nobody uses.
-/

namespace ModemLink

/-- An answer to a command as a modem gives it. -/
structure OwnAnswer (c : Command) where
  /-- The modem echoes the command line. -/
  echoed : Bool
  /-- Lines of information, blank ones among them. -/
  info : List (List Char)
  final : List Char
  result : FinalResult
  isInfo : ∀ line ∈ info, IsInfo line
  closes : FinalResult.ofLine? final = some result

namespace OwnAnswer

variable {c : Command} (a : OwnAnswer c)

/-- The command line as the modem echoes it. -/
def echo (c : Command) : List Char :=
  'A' :: 'T' :: c.body.toList

/-- The lines in front of the final result. -/
def opening : List (List Char) :=
  (if a.echoed then [echo c] else []) ++ a.info

/-- The lines of the answer. -/
def texts : List (List Char) :=
  a.opening ++ [a.final]

/-- What the answer tells: its final result, and its information if that is a success. -/
def reply : Answer :=
  replyOf a.info a.result

theorem known_opening : ∀ text ∈ a.opening, text = echo c ∨ IsInfo text := by
  intro text htext
  rcases List.mem_append.mp htext with hecho | hinfo
  · cases hechoed : a.echoed with
    | true =>
      rw [hechoed, if_pos rfl] at hecho
      exact .inl (List.mem_singleton.mp hecho)
    | false =>
      rw [hechoed, if_neg Bool.false_ne_true] at hecho
      cases hecho
  · exact .inr (a.isInfo text hinfo)

theorem filter_info : a.info.filter (fun text => IsInfo text) = a.info :=
  List.filter_eq_self.mpr fun text htext => decide_eq_true (a.isInfo text htext)

theorem filter_texts : a.texts.filter (fun text => IsInfo text) = a.info := by
  have hecho : ¬IsInfo (echo c) := (Listening.opens_toCommand c.body).not_isInfo
  rw [texts, Listening.filter_isInfo _ a.closes, opening, List.filter_append, a.filter_info]
  cases a.echoed <;> simp [hecho]

/-- A port that listens for the answer takes the reply from it. -/
theorem completes : (Listening.toCommand c.body).Completes a.texts a.reply := by
  have hreply : replyOf (a.opening ++ [a.final]) a.result = a.reply :=
    replyOf_congr a.result (a.filter_texts.trans a.filter_info.symm)
  rw [← hreply]
  exact Listening.completes_unskipped (Listening.opens_toCommand c.body) rfl rfl a.known_opening
    a.closes

theorem not_abandons_reply : Port.abandons a.reply = false := by
  rw [reply]
  cases a.result <;> rfl

end OwnAnswer

/-! ### Listening to a whole answer -/

namespace Intake.Holds

variable {i : Intake} {lines rest : List DueLine} {l l' : Listening} {a : Answer} {deadline : Nat}

/-- An answer is known when its last line can be read. -/
theorem listen_of_hearTexts? {init : List DueLine} {last : DueLine}
    (h : i.Holds (init ++ last :: rest)) (hinit : l.hearTexts? (init.map DueLine.text) = some l')
    (hlast : (l'.hear last.text).value = .answer a) (hdue : last.due ≤ deadline) :
    ∃ after : Intake, (i.listen deadline .unbounded l).value = (after, .answer a) ∧
      after.clock = last.due ∧ after.Holds rest := by
  induction init generalizing i l with
  | nil =>
    obtain rfl := Option.some.inj hinit
    obtain ⟨after, hread, hclock, hholds⟩ :=
      h.nextLine_of_admits listens_of_le ((Port.listens_unbounded ..).mpr hdue)
    refine ⟨after, ?_, hclock, hholds⟩
    rw [listen_eq, hread]
    simp only [Logged.value_bind, hlast]
    rfl
  | cons line init ih =>
    have hsorted := List.pairwise_cons.mp (HoldsFrom.pairwise h)
    have hline : line.due ≤ deadline :=
      Nat.le_trans (hsorted.1 last (by simp)) hdue
    obtain ⟨after, hread, -, hholds⟩ :=
      h.nextLine_of_admits listens_of_le ((Port.listens_unbounded ..).mpr hline)
    rw [List.map_cons, Listening.hearTexts?] at hinit
    cases htext : (l.hear line.text).value with
    | answer a =>
      rw [htext] at hinit
      cases hinit
    | more l'' =>
      rw [htext] at hinit
      obtain ⟨after', hvalue, hafter'⟩ := ih hholds hinit
      refine ⟨after', ?_, hafter'⟩
      rw [listen_eq, hread]
      simp only [Logged.value_bind, htext]
      exact hvalue

/-- Listening to the lines of an answer ends when the last of them can be read, or at the
deadline. -/
theorem listen_of_completes (h : i.Holds (lines ++ rest))
    (hcompletes : l.Completes (lines.map DueLine.text) a) (hclock : i.clock ≤ deadline) :
    let due := HoldsFrom.last i.clock lines
    ∃ after : Intake, after.clock = min due deadline ∧ (due ≤ deadline → after.Holds rest) ∧
      (i.listen deadline .unbounded l).value =
        (after, if due ≤ deadline then .answer a else .expired) := by
  intro due
  by_cases hdue : due ≤ deadline
  · obtain ⟨texts, text, l', htexts, hinit, hanswer⟩ := hcompletes
    obtain ⟨init, tail, rfl, rfl, htail⟩ := List.map_eq_append_iff.mp htexts
    obtain ⟨last, tail, rfl, rfl, hnil⟩ := List.map_eq_cons_iff.mp htail
    obtain rfl := List.map_eq_nil_iff.mp hnil
    have hlast : due = last.due := by simp [due, HoldsFrom.last]
    rw [List.append_assoc] at h
    obtain ⟨after, hvalue, hafter, hholds⟩ :=
      h.listen_of_hearTexts? hinit hanswer (hlast ▸ hdue)
    rw [if_pos hdue, Nat.min_eq_left hdue, hlast]
    exact ⟨after, hafter, fun _ => hholds, hvalue⟩
  · have hsorted := (List.pairwise_append.mp (HoldsFrom.pairwise h)).1
    have hheard := hcompletes.hearAll hsorted (@listens_of_le deadline .unbounded) rest
    have hlate : ¬∀ line ∈ lines, listens deadline .unbounded line.due = true := fun hlines =>
      hdue (HoldsFrom.last_le hclock fun line hline =>
        (Port.listens_unbounded ..).mp (hlines line hline))
    rw [if_neg hlate] at hheard
    obtain ⟨l'', hmore⟩ := hheard
    obtain ⟨after, hvalue, hafter, -⟩ :=
      h.listen_of_expired (Prod.ext rfl hmore) rfl hclock
    rw [if_neg hdue, Nat.min_eq_right (Nat.le_of_not_le hdue)]
    exact ⟨after, hafter, fun hle => absurd hle hdue, hvalue⟩

end Intake.Holds

namespace Port

variable {p : Port} {lines later : List DueLine} {deadline : Nat} {call : Call}

/-- A port listens to the lines of an answer, and the call ends when they are complete, or at its
deadline. -/
theorem value_listen_of_completes {l : Listening} {a : Answer}
    (hholds : p.intake.Holds (lines ++ later))
    (hcompletes : l.Completes (lines.map DueLine.text) a) (hclock : p.clock ≤ deadline)
    (call : Call) :
    let due := Intake.HoldsFrom.last p.clock lines
    ∃ intake : Intake, intake.clock = min due deadline ∧ (due ≤ deadline → intake.Holds later) ∧
      (p.listen .unbounded call deadline l).value =
        ({ p with intake }.finish call (if due ≤ deadline then a else timeout call)).value := by
  intro due
  obtain ⟨intake, hafter, hrest, hvalue⟩ := hholds.listen_of_completes hcompletes hclock
  refine ⟨intake, hafter, hrest, ?_⟩
  rw [listen, Logged.value_bind, hvalue]
  by_cases hdue : Intake.HoldsFrom.last p.intake.clock lines ≤ deadline
  · have hintime : due ≤ deadline := hdue
    simp only [hdue, hintime, if_true]
  · have hlate : ¬due ≤ deadline := hdue
    simp only [hdue, hlate, if_false]

/-- A command is sent, and the call ends when its answer is complete, or at its deadline. -/
theorem value_send_of_completes {chunks : List Chunk} {rest : List Reaction}
    (hreactions : p.reactions = .sends chunks :: rest)
    (hholds : (p.write call.command.body chunks).intake.Holds (lines ++ later)) {a : Answer}
    (hcompletes : (Listening.toCommand call.command.body).Completes (lines.map DueLine.text) a)
    (hclock : p.clock ≤ deadline) :
    let due := Intake.HoldsFrom.last p.clock lines
    ∃ intake : Intake, intake.clock = min due deadline ∧ (due ≤ deadline → intake.Holds later) ∧
      (p.send .unbounded call deadline).value =
        ({ p with
          intake
          reactions := rest
          sent := p.sent ++ ["AT" ++ call.command.body ++ "\r"] }.finish call
            (if due ≤ deadline then a else timeout call)).value := by
  intro due
  let written := { p with reactions := rest }.write call.command.body chunks
  obtain ⟨intake, hafter, hrest, hvalue⟩ :=
    value_listen_of_completes (p := written) hholds hcompletes hclock call
  refine ⟨intake, hafter, hrest, ?_⟩
  rw [send, hreactions]
  exact hvalue

/-- A call that gets a port which is not stale ends when its answer is complete, or at the end of
its time. -/
theorem value_take_of_completes (hstale : p.stale = false) (hcall : call.cancelled = false)
    {chunks : List Chunk} {rest : List Reaction} (hreactions : p.reactions = .sends chunks :: rest)
    (hholds : (p.write call.command.body chunks).intake.Holds (lines ++ later)) {a : Answer}
    (hcompletes : (Listening.toCommand call.command.body).Completes (lines.map DueLine.text) a)
    (hanswer : abandons a = false) :
    let due := Intake.HoldsFrom.last p.clock lines
    let deadline := p.clock + call.command.timeout.micros
    ∃ intake : Intake, intake.clock = min due deadline ∧ (due ≤ deadline → intake.Holds later) ∧
      (p.take .unbounded call).value =
        { p with
          intake
          stale := decide (deadline < due)
          reactions := rest
          active := none
          ended := p.ended ++
            [⟨call.ticket, some (if due ≤ deadline then a else timeout call), min due deadline⟩]
          sent := p.sent ++ ["AT" ++ call.command.body ++ "\r"] } := by
  intro due deadline
  obtain ⟨intake, hafter, hrest, hvalue⟩ :=
    value_send_of_completes hreactions hholds hcompletes (Nat.le_add_right ..)
  refine ⟨intake, hafter, hrest, ?_⟩
  have habandons : abandons (if due ≤ deadline then a else timeout call) =
      decide (deadline < due) := by
    split
    · next hdue => rw [hanswer, decide_eq_false (Nat.not_lt.mpr hdue)]
    · next hdue => rw [decide_eq_true (Nat.lt_of_not_le hdue)]; rfl
  rw [value_take hstale hcall, hvalue, value_finish, ← habandons, ← hafter]
  simp only [hstale, Bool.false_or]
  rfl

/-- What comes in about a call that is made on a port which nobody uses and which is not stale:
these lines first, whichever of them came in before, and then others. -/
structure Hears (p : Port) (t : Nat) (call : Call) (lines later : List DueLine) : Prop where
  vacant : p.Vacant
  fresh : p.stale = false
  asked : call.cancelled = false
  reads : ∃ chunks rest, p.reactions = .sends chunks :: rest ∧
    ((p.elapse t).write call.command.body chunks).intake.Holds (lines ++ later)

/-- The instant at which the time of a call is over that gets the port at an instant. -/
def deadlineOf (p : Port) (t : Nat) (call : Call) : Nat :=
  (p.elapse t).clock + call.command.timeout.micros

namespace Hears

variable {p : Port} {t : Nat} {call : Call} {lines later : List DueLine}

/-- Where nothing is left to read, only what the modem sends comes in. -/
theorem of_encodes (hvacant : p.Vacant) (hfresh : p.stale = false) (hasked : call.cancelled = false)
    (hempty : p.intake.Holds []) {chunks : List Chunk} {rest : List Reaction}
    (hreactions : p.reactions = .sends chunks :: rest) {raw : List (List UInt8)}
    (hencodes : Encodes chunks raw) :
    p.Hears t call (Chunk.lines (p.elapse t).clock chunks) [] := by
  refine ⟨hvacant, hfresh, hasked, chunks, rest, hreactions, ?_⟩
  rw [List.append_nil]
  exact hencodes.holds_enqueue (hempty.raise t)

/-- A call ends when its answer is complete, or at the end of its time. -/
theorem value_settle (h : p.Hears t call lines later) {a : Answer}
    (hcompletes : (Listening.toCommand call.command.body).Completes (lines.map DueLine.text) a)
    (hanswer : abandons a = false) :
    let due := Intake.HoldsFrom.last t lines
    let deadline := p.deadlineOf t call
    ∃ intake : Intake, intake.clock = min due deadline ∧ (due ≤ deadline → intake.Holds later) ∧
      settle [(t, .call call)] p =
        { p with
          intake
          stale := decide (deadline < due)
          reactions := p.reactions.tail
          ended := p.ended ++
            [⟨call.ticket, some (if due ≤ deadline then a else timeout call), min due deadline⟩]
          sent := p.sent ++ ["AT" ++ call.command.body ++ "\r"] } := by
  intro due deadline
  obtain ⟨chunks, rest, hreactions, hholds⟩ := h.reads
  have hne : lines ≠ [] := by
    rintro rfl
    obtain ⟨init, last, -, htexts, -⟩ := hcompletes
    simp at htexts
  have hdue : Intake.HoldsFrom.last (p.elapse t).clock lines = due :=
    Intake.HoldsFrom.last_eq_of_ne_nil hne (p.elapse t).clock t
  obtain ⟨intake, hclock, hrest, htake⟩ :=
    value_take_of_completes (p := p.elapse t) h.fresh h.asked hreactions hholds hcompletes hanswer
  rw [hdue] at hclock hrest htake
  refine ⟨intake, hclock, hrest, ?_⟩
  have hsettle : settle [(t, .call call)] p = ((p.elapse t).take .unbounded call).value :=
    h.vacant.value_call_advance call (Horizon.within_unbounded _)
  rw [hsettle, htake, hreactions, h.vacant.active]
  rfl

end Hears

end Port

end ModemLink
