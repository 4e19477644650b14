import ModemLink.Proofs.Port.Draining
import ModemLink.Proofs.Port.OwnAnswers

/-!
# Resynchronisation

A command that is written and then given up leaves the port stale. What is left to read are the last
of the lines that came in since it was written, wherever reading was given up: between two lines, or
in the middle of one, of which the bytes are kept. The next command drains these lines. If they come
in one soon after the other, it is written when the final result at their end is read, and ends with
its own answer; and if nothing comes in, it is written after the quiet time.

Source: the specification, section 10.2.

## Main definitions

* `Intake.Leaves`: the last of some lines are left to read.
* `Port.Attends`: a port that has written a command, and listens for the answer or is done.
* `Port.Abandoned`: a command that was given up after it was written.
* `Port.Recovers`: the command that comes next is written at an instant, and gets its own answer.

## Main results

* `Intake.Leaves.listen`: reading leaves the last of the lines.
* `Port.Abandoned.attends`: the port after a command that was given up.
* `Port.Abandoned.resynchronises`: the command that comes next.
-/

namespace ModemLink

/-! ### The last of some lines -/

namespace Intake

variable {i after : Intake} {lines left : List DueLine}

/-- Of some lines, the last ones are left to read, at the present instant or later. -/
def Leaves (i : Intake) (lines : List DueLine) : Prop :=
  ∃ left, left <:+ lines ∧ i.Holds (left.map (DueLine.raise i.clock))

theorem Holds.leaves (h : i.Holds lines) : i.Leaves lines := by
  refine ⟨lines, List.suffix_refl _, ?_⟩
  rwa [DueLine.map_raise (HoldsFrom.le_due h)]

theorem Leaves.of_later (hleft : left <:+ lines) (hclock : i.clock ≤ after.clock)
    (h : after.Holds (left.map (DueLine.raise i.clock))) : after.Leaves lines := by
  refine ⟨left, hleft, ?_⟩
  have hraise := DueLine.map_raise (HoldsFrom.le_due h)
  rw [DueLine.map_raise_raise hclock] at hraise
  rwa [hraise]

namespace Leaves

variable (h : i.Leaves lines)
include h

theorem elapse (t : Nat) : (i.elapse t).Leaves lines := by
  obtain ⟨left, hleft, hholds⟩ := h
  have hle : i.clock ≤ (i.elapse t).clock := Nat.le_max_left ..
  have hagain : i.elapse (i.elapse t).clock = i.elapse t := by
    rw [Intake.elapse, Nat.max_eq_right hle]
    rfl
  have hraise := hholds.raise (i.elapse t).clock
  rw [DueLine.map_raise_raise hle, hagain] at hraise
  exact ⟨left, hleft, hraise⟩

/-- A read takes the first of the lines that are left, or none. -/
theorem nextLine {admits : Nat → Bool} (hdown : ∀ t u, t ≤ u → admits u = true → admits t = true) :
    (i.nextLine admits).1.Leaves lines := by
  obtain ⟨left, hleft, hholds⟩ := h
  by_cases hhead : ∀ line ∈ (left.map (DueLine.raise i.clock)).head?, admits line.due = false
  · obtain ⟨after, hread, hclock, -, hafter⟩ := hholds.nextLine_of_not_admits hhead
    rw [hread]
    exact .of_later hleft hclock hafter
  · cases left with
    | nil => exact absurd (by simp) hhead
    | cons line left =>
      have hadmits : admits (line.raise i.clock).due = true := by simpa using hhead
      obtain ⟨after, hread, hclock, hafter⟩ := hholds.nextLine_of_admits hdown hadmits
      rw [hread]
      exact .of_later ((List.suffix_cons ..).trans hleft) (hclock ▸ Nat.le_max_right ..) hafter

/-- Reading leaves the last of the lines. -/
theorem listen (deadline : Nat) (horizon : Horizon) (l : Listening) :
    (i.listen deadline horizon l).value.1.Leaves lines := by
  induction hn : i.size using Nat.strongRecOn generalizing i l with
  | _ n ih =>
    have hafter : (i.nextLine (listens deadline horizon)).1.Leaves lines :=
      h.nextLine listens_of_le
    rw [listen_eq]
    rcases hread : i.nextLine (listens deadline horizon) with ⟨after, heard⟩
    rw [hread] at hafter
    cases heard with
    | line line =>
      simp only [Logged.value_bind]
      cases (l.hear line).value with
      | answer a => exact hafter
      | more l => exact ih after.size (hn ▸ size_nextLine_lt hread) hafter l rfl
    | ended | broken _ => exact hafter
    | silent =>
      dsimp only
      split
      · exact hafter.elapse deadline
      · exact hafter

end Leaves

end Intake

/-! ### A command that is given up -/

namespace Port

variable {p q g written : Port} {call : Call}

/-- A port that has written a command, and listens for the answer or is done. -/
structure Attends (written : Port) (p : Port) : Prop where
  listening : ∀ x ∈ p.active, ∃ l, x.stage = .listening l
  reactions : p.reactions = written.reactions
  sent : p.sent = written.sent
  /-- Whatever lines came in since, the last of them are left to read. -/
  leaves : ∀ lines, written.intake.Holds lines → p.intake.Leaves lines

namespace Attends

/-- What counts of a port are its reactions, what it has written, and the lines that are left. -/
theorem of_eq (h : written.Attends p) (hreactions : q.reactions = p.reactions)
    (hsent : q.sent = p.sent) (hactive : ∀ x ∈ q.active, ∃ l, x.stage = .listening l)
    (hleaves : ∀ lines, p.intake.Leaves lines → q.intake.Leaves lines) : written.Attends q where
  listening := hactive
  reactions := hreactions.trans h.reactions
  sent := hsent.trans h.sent
  leaves lines hlines := hleaves lines (h.leaves lines hlines)

theorem finish (h : written.Attends p) (call : Call) (a : Answer) :
    written.Attends (p.finish call a).value := by
  rw [value_finish]
  exact h.of_eq rfl rfl (by rintro x ⟨⟩) fun _ => id

theorem listen (h : written.Attends p) (horizon : Horizon) (call : Call) (deadline : Nat)
    (l : Listening) : written.Attends (p.listen horizon call deadline l).value := by
  have hleaves (lines : List DueLine) (hlines : p.intake.Leaves lines) :=
    hlines.listen deadline horizon l
  rw [Port.listen, Logged.value_bind]
  generalize (p.intake.listen deadline horizon l).value = came at hleaves ⊢
  obtain ⟨intake, heard⟩ := came
  have hread : written.Attends { p with intake } := h.of_eq rfl rfl h.listening hleaves
  cases heard with
  | answer a => exact hread.finish call a
  | expired => exact hread.finish call (timeout call)
  | halted l => exact hread.of_eq rfl rfl (by rintro x ⟨⟩; exact ⟨l, rfl⟩) fun _ => id

theorem goOn (h : written.Attends p) (horizon : Horizon) :
    written.Attends (p.goOn horizon).value := by
  cases hactive : p.active with
  | none => rwa [goOn_of_idle hactive]
  | some x =>
    obtain ⟨l, hstage⟩ := h.listening x hactive
    have hidle : written.Attends { p with active := none } :=
      h.of_eq rfl rfl (by rintro x ⟨⟩) fun _ => id
    rw [Port.goOn, hactive]
    dsimp only
    rw [resume, hstage]
    exact hidle.listen horizon x.call x.deadline l

/-- The caller of the command withdraws. -/
theorem close (h : written.Attends p) (w : Withdrawal) (call : Call) (t : Nat) :
    written.Attends (w.close call (p.elapse t)) := by
  have helapse : written.Attends (p.elapse t) :=
    h.of_eq rfl rfl h.listening fun _ hlines => hlines.elapse t
  cases w with
  | cancel => exact helapse.finish call _
  | drop => exact helapse.of_eq rfl rfl (by rintro x ⟨⟩) fun _ => id

end Attends

variable {first second : Visit} {e e' : Ended} {chunks chunks' : List Chunk} {rest : List Reaction}

/-- A call on a port that nobody used before and that was not stale was given up after its command
was written. -/
structure Abandoned (p : Port) (first : Visit) (e : Ended) (g : Port) : Prop where
  vacant : p.Vacant
  unrecorded : p.ended = []
  fresh : p.stale = false
  turn : InTurn p [first] [e] g
  givenUp : ∃ fault, e.answer = some (.error fault) ∧ isAbandonment fault = true
  written : g.sent = p.sent ++ ["AT" ++ first.call.command.body ++ "\r"]

/-- The port when it has just written a command. -/
def opening (p : Port) (v : Visit) (chunks : List Chunk) (rest : List Reaction) : Port :=
  { p.elapse (v.start p) with reactions := rest }.write v.call.command.body chunks

/-- The first call has had the port to itself. -/
theorem Abandoned.served (h : Abandoned p first e g) :
    first.call.cancelled = false ∧ ∃ p',
      Concludes first.call.ticket first.withdrawals (p.call (first.start p) first.call).value p' ∧
      p'.ended = [e] ∧ g = p'.bare := by
  have hsent := h.written
  obtain ⟨fault, hanswer, -⟩ := h.givenUp
  cases h.turn with
  | dropped => cases hanswer
  | cancelled cancel stays rest =>
    cases rest
    have hsame : p.sent = p.sent ++ [_] := hsent
    simp at hsame
  | served asked stays concludes ended inTime rest =>
    cases rest
    exact ⟨asked, _, concludes, ended, rfl⟩

/-- A port on which a command was given up is free and stale. It has done nothing since it wrote the
command but read. -/
theorem Abandoned.attends (h : Abandoned p first e g)
    (hreactions : p.reactions = .sends chunks :: rest) :
    g.Vacant ∧ g.ended = [] ∧ g.stale = true ∧ (p.opening first chunks rest).Attends g := by
  obtain ⟨hasked, p', hconcludes, hended, rfl⟩ := h.served
  obtain ⟨fault, hanswer, hfault⟩ := h.givenUp
  have hstart : p.clock ≤ first.start p := Nat.le_max_left ..
  have hcalled :
      (p.opening first chunks rest).Attends (p.call (first.start p) first.call).value := by
    have hopened : (p.opening first chunks rest).Attends (p.opening first chunks rest) :=
      ⟨fun x hx => (Option.some_ne_none x (hx.symm.trans h.vacant.active)).elim, rfl, rfl,
        fun _ hlines => hlines.leaves⟩
    have hsend : (p.elapse (first.start p)).reactions = .sends chunks :: rest := hreactions
    rw [h.vacant.value_call, value_take (p := p.elapse (first.start p)) h.fresh hasked, send, hsend]
    exact hopened.listen ..
  have htenure := h.vacant.tenure_call h.unrecorded hstart hasked
  have hkept : p'.Tenure first.call (first.start p) ∧ (p.opening first chunks rest).Attends p' :=
    hconcludes.keeps
      (fun s => s.Tenure first.call (first.start p) ∧ (p.opening first chunks rest).Attends s)
      (fun _ hs => hs.1.queue) (fun _ x hs hx => congrArg Call.ticket (hs.1.waits x hx).1)
      (fun _ _ horizon hs _ => ⟨hs.1.goOn horizon, hs.2.goOn horizon⟩)
      (fun _ x w t hs hx => ⟨hs.1.close hx w t, hs.2.close w x.call t⟩) ⟨htenure, hcalled⟩
  obtain ⟨hover, hattends⟩ := hkept
  have hidle := hover.active_eq hended
  obtain ⟨answer, hanswered, hgivenUp⟩ := hover.ends hidle
  have he : e = ⟨first.call.ticket, answer, p'.clock⟩ :=
    (List.cons.inj (hended.symm.trans hanswered)).1
  rw [he] at hanswer
  exact ⟨⟨hidle, rfl⟩, rfl, (hgivenUp fault hanswer hfault).1,
    hattends.of_eq rfl rfl hattends.listening fun _ => id⟩

/-! ### The command that comes next -/

/-- A call whose caller does not withdraw before it gets the port has it to itself. -/
theorem InTurn.served_of_later (hasked : second.call.cancelled = false)
    (hlater : ∀ x ∈ second.withdrawals, second.start g < x.1) (h : InTurn g [second] [e'] q) :
    ∃ p', Concludes second.call.ticket second.withdrawals
        (g.call (second.start g) second.call).value p' ∧ p'.ended = [e'] ∧ q = p'.bare := by
  cases h with
  | dropped drop waits rest => exact absurd waits (Nat.not_le.mpr (lt_of_find? hlater drop))
  | cancelled cancel stays rest =>
    rcases cancel with hcancel | ⟨t, hat, ht⟩
    · cases hasked.symm.trans hcancel
    · exact absurd ht (Nat.not_le.mpr (lt_of_find? hlater hat))
  | served asked stays concludes ended inTime rest =>
    cases rest
    exact ⟨_, concludes, ended, rfl⟩

/-- A call that is over before its caller withdraws comes to one end only. -/
theorem Vacant.inTurn_settle (h : g.Vacant) (hasked : second.call.cancelled = false)
    {answer : Option Answer} {now : Nat}
    (hended : (settle [(second.start g, .call second.call)] g).ended =
      [⟨second.call.ticket, answer, now⟩])
    (hclock : (settle [(second.start g, .call second.call)] g).clock = now)
    (hsince : second.start g ≤ now)
    (hintime : now ≤ second.start g + second.call.command.timeout.micros)
    (hlater : ∀ x ∈ second.withdrawals, now < x.1) :
    InTurn g [second] [⟨second.call.ticket, answer, now⟩]
        (settle [(second.start g, .call second.call)] g).bare ∧
      ∀ e q, InTurn g [second] [e] q → e = ⟨second.call.ticket, answer, now⟩ ∧
        q = (settle [(second.start g, .call second.call)] g).bare := by
  have hstart : g.clock ≤ second.start g := Nat.le_max_left ..
  have hstays : ∀ x ∈ second.withdrawals, second.start g < x.1 := fun x hx =>
    Nat.lt_of_le_of_lt hsince (hlater x hx)
  have hover : ∀ x ∈ second.withdrawals,
      (settle [(second.start g, .call second.call)] g).clock < x.1 := fun x hx =>
    hclock ▸ hlater x hx
  constructor
  · have hconcludes := h.concludes_settle hstart hover
    rw [← hclock] at hended hintime ⊢
    exact .served hasked (fun x hx => Nat.le_of_lt (hstays x hx)) hconcludes hended hintime (.nil _)
  · intro e q hturn
    obtain ⟨p', hconcludes, hended', rfl⟩ := hturn.served_of_later hasked hstays
    obtain rfl := h.eq_settle hstart hover hconcludes
    exact ⟨(List.cons.inj (hended'.symm.trans hended)).1, rfl⟩

/-- The command of a call is written at an instant, and no earlier or later. Where its answer is
complete in time, and before its caller withdraws, the call comes to one end only: it ends with the
answer at that instant, and the port has nothing left of it. -/
structure Recovers (g : Port) (v : Visit) (chunks : List Chunk) (now : Nat) : Prop where
  writes : g.WritesAt (v.start g) v.call now
  answered : ∀ (a : OwnAnswer v.call.command) raw, Encodes chunks raw → raw.map lineOf = a.texts →
    let due := Intake.HoldsFrom.last now (Chunk.lines now chunks)
    due ≤ v.start g + v.call.command.timeout.micros → (∀ x ∈ v.withdrawals, due < x.1) →
    ∃ q : Port, InTurn g [v] [⟨v.call.ticket, some a.reply, due⟩] q ∧
      (∀ e q', InTurn g [v] [e] q' → e = ⟨v.call.ticket, some a.reply, due⟩ ∧ q' = q) ∧
      q.stale = false ∧ q.sent = g.sent ++ ["AT" ++ v.call.command.body ++ "\r"] ∧
      q.intake.Holds []

/-- A call that gets a port on which draining is over at an instant. -/
theorem value_take_of_clean {t : Nat} (hclock : p.clock = t) (hstale : p.stale = true)
    (hcall : call.cancelled = false) {after : Intake}
    (hclean : (p.intake.drain (t + call.command.timeout.micros) .unbounded
      (t + quietTime)).value = (after, .clean)) :
    (p.take .unbounded call).value =
      (send { p with stale := false, intake := after } .unbounded call
        (t + call.command.timeout.micros)).value := by
  rw [value_take_of_stale hstale hcall, hclock, drain, Logged.value_bind, hclean]

/-- A call on a stale port from which draining leaves nothing ends with its own answer, if that is
complete in time. -/
theorem Vacant.settle_of_clean (h : g.Vacant) (hstale : g.stale = true)
    (hreactions : g.reactions = .sends chunks :: rest) (hcall : call.cancelled = false) {t : Nat}
    (ht : g.clock ≤ t) {after : Intake}
    (hclean : ((g.elapse t).intake.drain (t + call.command.timeout.micros) .unbounded
      (t + quietTime)).value = (after, .clean))
    (hempty : after.Holds []) (hsent : after.clock ≤ t + call.command.timeout.micros)
    (a : OwnAnswer call.command) {raw : List (List UInt8)} (hencodes : Encodes chunks raw)
    (htexts : raw.map lineOf = a.texts) :
    let due := Intake.HoldsFrom.last after.clock (Chunk.lines after.clock chunks)
    due ≤ t + call.command.timeout.micros →
      ∃ intake : Intake, intake.clock = due ∧ intake.Holds [] ∧
        settle [(t, .call call)] g =
          { g with
            intake
            stale := false
            reactions := rest
            ended := g.ended ++ [⟨call.ticket, some a.reply, due⟩]
            sent := g.sent ++ ["AT" ++ call.command.body ++ "\r"] } := by
  intro due hintime
  have hclock : (g.elapse t).clock = t := Nat.max_eq_right ht
  -- What comes in after draining is the answer and nothing else.
  let drained : Port := { g.elapse t with stale := false, intake := after }
  have hlines : (drained.write call.command.body chunks).intake.Holds
      (Chunk.lines after.clock chunks ++ []) := by
    rw [List.append_nil]
    exact hencodes.holds_enqueue hempty
  have hcompletes : (Listening.toCommand call.command.body).Completes
      ((Chunk.lines after.clock chunks).map DueLine.text) a.reply := by
    rw [hencodes.map_text_lines, htexts]
    exact a.completes
  obtain ⟨intake, hintake, hrest, hsend⟩ := value_send_of_completes (p := drained) hreactions
    hlines hcompletes hsent
  have hdue : Intake.HoldsFrom.last drained.clock (Chunk.lines after.clock chunks) = due := rfl
  rw [hdue, if_pos hintime, value_finish, a.not_abandons_reply] at hsend
  rw [hdue, Nat.min_eq_left hintime] at hintake
  refine ⟨intake, hintake, hrest hintime, ?_⟩
  have hsettle : settle [(t, .call call)] g = ((g.elapse t).take .unbounded call).value :=
    h.value_call_advance call (Horizon.within_unbounded _)
  rw [hsettle, value_take_of_clean hclock hstale hcall hclean, hsend, ← hintake, h.active]
  rfl

/-- On a stale port whose lines come in one soon after the other, up to a final result, the next
command is written then, and gets its own answer. -/
theorem Vacant.recovers (h : g.Vacant) (hended : g.ended = []) (hstale : g.stale = true)
    (hreactions : g.reactions = .sends chunks' :: rest) (hasked : second.call.cancelled = false)
    {late : List DueLine} (hholds : (g.elapse (second.start g)).intake.Holds late)
    (hconcluding : Concluding late) (hprompt : Prompt (second.start g) late)
    (hdue : Intake.HoldsFrom.last (second.start g) late ≤
      second.start g + second.call.command.timeout.micros) :
    g.Recovers second chunks' (Intake.HoldsFrom.last (second.start g) late) := by
  have hstart : g.clock ≤ second.start g := Nat.le_max_left ..
  have hclock : (g.elapse (second.start g)).clock = second.start g := Nat.max_eq_right hstart
  have hquiet : (g.elapse (second.start g)).clock ≤ second.start g + quietTime :=
    Nat.le_trans (Nat.le_of_eq hclock) (Nat.le_add_right ..)
  have hdrains : (g.elapse (second.start g)).intake.DrainsTo
      (second.start g + second.call.command.timeout.micros) (second.start g + quietTime)
      (drainAll _ _ late) := hholds.drainsTo hquiet
  rw [hconcluding.drainAll hprompt (Intake.HoldsFrom.pairwise hholds) hdue] at hdrains
  obtain ⟨after, hclean, hafter, hle, -, hempty⟩ := hdrains
  rw [← hafter] at hdue hle ⊢
  refine ⟨h.writesAt hstale hasked hstart hreactions hclean, ?_⟩
  intro a raw hencodes htexts due hintime hlater
  obtain ⟨intake, hintake, hnothing, hover⟩ := h.settle_of_clean hstale hreactions hasked hstart
    hclean hempty hdue a hencodes htexts hintime
  have hsince : second.start g ≤ after.clock := Nat.le_trans (Nat.le_of_eq hclock.symm) hle
  have hlate : second.start g ≤ due :=
    Intake.HoldsFrom.le_last hsince fun line hline => Nat.le_trans hsince
      ((hencodes.holdsFrom after.clock).le_due line hline)
  have hinstant : (settle [(second.start g, .call second.call)] g).clock = due := by
    rw [hover]
    exact hintake
  have hrecord : (settle [(second.start g, .call second.call)] g).ended =
      [⟨second.call.ticket, some a.reply, due⟩] := by
    rw [hover, hended]
    rfl
  obtain ⟨hturn, hunique⟩ := h.inTurn_settle hasked hrecord hinstant hlate hintime hlater
  refine ⟨_, hturn, hunique, ?_⟩
  rw [hover]
  exact ⟨rfl, rfl, hnothing⟩

/-- After a command that was given up when it was written, the next one is written when the final
result of the first is read, if the lines that are left come in one soon after the other, and it
ends with its own answer. Where nothing comes in, it is written after the quiet time. -/
theorem Abandoned.resynchronises (h : Abandoned p first e g)
    (hreactions : p.reactions = .sends chunks :: .sends chunks' :: rest) (second : Visit)
    (hasked : second.call.cancelled = false) :
    let t := second.start g
    let deadline := t + second.call.command.timeout.micros
    g.stale = true ∧
      (∀ lines, ((p.elapse (first.start p)).write first.call.command.body chunks).intake.Holds
          lines →
        ∃ left, left <:+ lines ∧
          let late := left.map (DueLine.raise t)
          (g.elapse t).intake.Holds late ∧
            (Concluding late → Prompt t late → Intake.HoldsFrom.last t late ≤ deadline →
              g.Recovers second chunks' (Intake.HoldsFrom.last t late))) ∧
      ((∀ a ∈ g.intake.arrivals, t + quietTime < a.due) → t + quietTime ≤ deadline →
        g.WritesAt t second.call (t + quietTime)) := by
  intro t deadline
  obtain ⟨hvacant, hended, hstale, hattends⟩ := h.attends hreactions
  have ht : g.clock ≤ t := Nat.le_max_left ..
  have hclock : (g.elapse t).clock = t := Nat.max_eq_right ht
  refine ⟨hstale, fun lines hholds => ?_, fun hnone hquiet => ?_⟩
  · obtain ⟨left, hleft, hleaves⟩ := (hattends.leaves lines hholds).elapse t
    rw [show (g.intake.elapse t).clock = t from hclock] at hleaves
    exact ⟨left, hleft, hleaves,
      hvacant.recovers hended hstale hattends.reactions hasked hleaves⟩
  · have hclean := Intake.drain_of_quiet (i := (g.elapse t).intake) hquiet hnone
    have hwrites := hvacant.writesAt hstale hasked ht hattends.reactions hclean
    have hafter : ((g.elapse t).intake.elapse (t + quietTime)).clock = t + quietTime :=
      Nat.max_eq_right (Nat.le_trans (Nat.le_of_eq hclock) (Nat.le_add_right ..))
    rwa [hafter] at hwrites

/-! ### A final result in two pieces -/

/-- A final result of which the first half comes in in time, and the second half late. -/
def halves : List Chunk :=
  [⟨500000, .bytes [0x4F]⟩, ⟨600000, .bytes [0x4B, 0x0D, 0x0A]⟩]

/-- A modem that halts in the middle of a final result, and answers the next command at once. -/
def halting : Port where
  name := "ttyACM0"
  reactions := [.sends halves, .sends [⟨50000, .bytes [0x4F, 0x4B, 0x0D, 0x0A]⟩]]

/-- An activation that may take a second. -/
def activation : Visit where
  call := ⟨0, ⟨"+CGACT=1,1", .ofSeconds 1, false⟩, false⟩
  calledAt := 0

/-- A query that is made while the activation has the port. -/
def query : Visit where
  call := ⟨1, .activationQuery, false⟩
  calledAt := 100000

/-- The port when the activation has timed out. -/
def halted : Port :=
  ((halting.call (activation.start halting) activation.call).value.advance .unbounded).value.bare

theorem abandoned_halting :
    halting.Abandoned activation ⟨0, some (.error (.timedOut (.ofSeconds 1))), 1000000⟩ halted where
  vacant := ⟨rfl, rfl⟩
  unrecorded := rfl
  fresh := rfl
  turn := by
    have hclock : ((halting.call (activation.start halting) activation.call).value.advance
      .unbounded).value.clock = 1000000 := by cbv
    have hended : ((halting.call (activation.start halting) activation.call).value.advance
      .unbounded).value.ended = [⟨0, some (.error (.timedOut (.ofSeconds 1))), 1000000⟩] := by cbv
    rw [← hclock] at hended ⊢
    exact .served rfl (by simp [activation]) (.alone _) hended (by rw [hclock]; decide) (.nil _)
  givenUp := ⟨_, rfl, rfl⟩
  written := by cbv

/-- The first half of the final result is kept, and the query is written when the second half has
come in. -/
theorem Abandoned.resynchronises_halting :
    halting.Abandoned activation ⟨0, some (.error (.timedOut (.ofSeconds 1))), 1000000⟩ halted ∧
      halted.intake.fragment = [0x4F] ∧ halted.stale = true ∧
      halted.Recovers query [⟨50000, .bytes [0x4F, 0x4B, 0x0D, 0x0A]⟩] 1100000 := by
  have hfragment : halted.intake.fragment = [0x4F] := by cbv
  have hlines : Chunk.lines 0 halves = [⟨1100000, "OK".toList⟩] := by decide +kernel
  have hencodes : Encodes halves [[0x4F, 0x4B, 0x0D]] :=
    ⟨[[0x4F], [0x4B, 0x0D, 0x0A]], rfl, rfl, by decide⟩
  have hempty : (halting.elapse (activation.start halting)).intake.Holds [] := .nil 0
  have hholds : ((halting.elapse (activation.start halting)).write activation.call.command.body
      halves).intake.Holds (Chunk.lines 0 halves) :=
    hencodes.holds_enqueue hempty
  rw [hlines] at hholds
  obtain ⟨hstale, hrecovers, -⟩ := abandoned_halting.resynchronises rfl query rfl
  obtain ⟨left, hleft, hleaves, hlate⟩ := hrecovers _ hholds
  have hne : left ≠ [] := by
    rintro rfl
    cases hfragment.symm.trans hleaves.eq_nil.1
  obtain rfl := hleft.eq_of_length_le (List.length_pos_iff.mpr hne)
  have hstart : query.start halted = 1000000 := by cbv
  rw [hstart] at hlate
  exact ⟨abandoned_halting, hfragment, hstale,
    hlate ⟨[], _, rfl, by simp, rfl⟩ ⟨by decide, trivial⟩ (by decide)⟩

end Port

end ModemLink
