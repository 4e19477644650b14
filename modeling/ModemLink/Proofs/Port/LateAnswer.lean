import ModemLink.Proofs.Port.Succession

/-!
# The late answer to a command that was given up

What the second of two commands comes to when the first was given up and the rest of its answer
comes in late. Only the echo of a command line tells whose answer it opens. So the rest of the
first answer is skipped where it still has its echo, and where draining discards its final result.
But where the first command, or draining, has taken in the echo, and draining is over before the
final result comes in, the port takes that final result for its own, with the lines of information
before it. The same happens where both commands have the same echo.

These are the only two cases: otherwise the second command ends with its own answer, or its time
is over.

Source: the specification, section 10.2.

## Main definitions

* `Succession.Leaks`: the rest of the first answer is taken for the second one.
* `Succession.Answered`: the second answer comes in as a whole, and in time.

## Main results

* `Succession.Valid.second_outcome`: what the second command comes to.
-/

namespace ModemLink

namespace Succession

variable (s : Succession)

/-- The echo that the port expects of the second command. -/
def echo : List Char := 'A' :: 'T' :: s.second.command.body.toList

/-- What the port makes of the lines that draining leaves and those of the second answer. -/
def heard (left : List DueLine) (now : Nat) : Heard :=
  ((Listening.toCommand s.second.command.body).hearAll (Intake.listens s.deadline .unbounded)
    (left ++ Chunk.lines now s.second.chunks)).2

/-- The outcome of the second command. -/
def outcome : Answer :=
  match s.drained with
  | some (left, now) => Port.outcome s.secondCall (s.heard left now)
  | none => Port.timeout s.secondCall

/-- Draining leaves these lines of the first answer, which come in in time, and nothing tells them
from the second answer. -/
structure Leaks (left : List DueLine) : Prop where
  drained : ∃ now, s.drained = some (left, now)
  ne_nil : left ≠ []
  mistaken : left.length < s.lines.length ∨ lineOf s.first.answer.echo = s.echo
  inTime : ∀ line ∈ left, line.due ≤ s.deadline

/-- The second command is written, and the port knows the echo of the answer, which comes in in
time. -/
def Answered : Prop :=
  ∃ left now, s.drained = some (left, now) ∧ lineOf s.second.answer.echo = s.echo ∧
    ∀ line ∈ Chunk.lines now s.second.chunks, line.due ≤ s.deadline

variable {s} {left : List DueLine} {now : Nat}

/-! ### The lines that draining leaves -/

/-- The lines that draining leaves, and those of the second answer, come in in this order. -/
theorem Valid.pairwise (h : s.Valid) (hdrained : s.drained = some (left, now)) :
    (left ++ Chunk.lines now s.second.chunks).Pairwise
      fun line line' => line.due ≤ line'.due := by
  have hnew := h.second.chunks.holdsFrom now
  have hlines : s.lines.Pairwise fun line line' => line.due ≤ line'.due :=
    (h.first.chunks.holdsFrom s.start).pairwise
  have hlate : (s.late.map (DueLine.raise s.takenAt)).Pairwise
      fun line line' => line.due ≤ line'.due := by
    refine List.Pairwise.map _ ?_ (hlines.sublist (List.dropWhile_sublist _))
    intro line line' hle
    have hmax : max line.due s.takenAt ≤ max line'.due s.takenAt := by omega
    exact hmax
  refine List.pairwise_append.mpr ⟨hlate.sublist (drainAll_suffix hdrained).sublist,
    hnew.pairwise, fun line hline line' hline' => ?_⟩
  obtain ⟨a, ha, hdue⟩ := hnew.exists_le_due line' hline'
  exact Nat.le_trans (h.ordered left now hdrained line hline a ha) hdue

/-- Draining leaves nothing of the first answer, or all of it, or its final result and some of its
information. -/
theorem Valid.left_cases (h : s.Valid) (hdrained : s.drained = some (left, now)) :
    left = [] ∨
      (left.length = s.lines.length ∧ left.map DueLine.text =
        lineOf s.first.answer.echo :: (s.first.answer.info.map lineOf ++
          [lineOf s.first.answer.last])) ∨
      (left.length < s.lines.length ∧ ∃ texts, (∀ text ∈ texts, IsInfo text) ∧
        left.map DueLine.text = texts ++ [lineOf s.first.answer.last]) := by
  have hsuffix : left <:+ s.late.map (DueLine.raise s.takenAt) := drainAll_suffix hdrained
  have hlate : s.late <:+ s.lines := List.dropWhile_suffix _
  have htexts : left.map DueLine.text <:+ s.lines.map DueLine.text := by
    have hraise : (s.late.map (DueLine.raise s.takenAt)).map DueLine.text =
        s.late.map DueLine.text := by
      rw [List.map_map]
      rfl
    have hmap := hsuffix.map DueLine.text
    rw [hraise] at hmap
    exact hmap.trans (hlate.map DueLine.text)
  have hlength : left.length ≤ s.lines.length := by
    simpa using htexts.length_le
  have hlines : s.lines.map DueLine.text = lineOf s.first.answer.echo ::
      (s.first.answer.info.map lineOf ++ [lineOf s.first.answer.last]) := by
    rw [lines, h.first.chunks.map_text_lines, ModemAnswer.raw, List.map_cons, List.map_append]
    rfl
  have hsame : left.length = (left.map DueLine.text).length := by simp
  have hall : s.lines.length = (s.lines.map DueLine.text).length := by simp
  rw [hlines] at htexts
  rcases List.suffix_cons_iff.mp htexts with hfull | hrest
  · refine .inr (.inl ⟨?_, hfull⟩)
    rw [hsame, hall, hfull, hlines]
  · have hlt : left.length < s.lines.length := by
      have hle := hrest.length_le
      rw [hsame, hall, hlines, List.length_cons]
      omega
    rcases List.suffix_concat_iff.mp hrest with hnil | ⟨texts, htexts, hsuffix⟩
    · exact .inl (List.map_eq_nil_iff.mp hnil)
    · exact .inr (.inr ⟨hlt, texts, fun text htext => h.first.isInfo text (hsuffix.mem htext),
        htexts⟩)

/-- Some line of the second answer comes in after those that draining leaves. -/
theorem Valid.left_inTime (h : s.Valid) (hdrained : s.drained = some (left, now))
    (hnew : ∀ line ∈ Chunk.lines now s.second.chunks, line.due ≤ s.deadline) :
    ∀ line ∈ left, line.due ≤ s.deadline := by
  intro line hline
  obtain ⟨init, last, hlines, -⟩ := h.second.lines_eq now
  have hlast : last ∈ Chunk.lines now s.second.chunks := by
    rw [hlines]
    exact List.mem_append_right _ (List.mem_singleton.mpr rfl)
  have hle : line.due ≤ last.due :=
    (List.pairwise_append.mp (h.pairwise hdrained)).2.2 line hline last hlast
  exact Nat.le_trans hle (hnew last hlast)

/-! ### What the port makes of them -/

/-- What the port takes for the second answer ends the second command, if it is in time. -/
theorem Valid.outcome_of_mistaken (h : s.Valid) (hdrained : s.drained = some (left, now))
    {a : Answer}
    (hleft : (Listening.toCommand s.second.command.body).Completes (left.map DueLine.text) a) :
    Port.outcome s.secondCall (s.heard left now) =
      if ∀ line ∈ left, line.due ≤ s.deadline then a else Port.timeout s.secondCall :=
  Port.outcome_of_completes s.secondCall s.deadline hleft
    (List.pairwise_append.mp (h.pairwise hdrained)).1 _

/-- Where the rest of the first answer is skipped, only the second answer counts. -/
theorem Valid.outcome_of_skipped (h : s.Valid) (hdrained : s.drained = some (left, now))
    (hleft : (Listening.toCommand s.second.command.body).hearTexts? (left.map DueLine.text) =
      some (.toCommand s.second.command.body)) :
    (s.Answered → Port.outcome s.secondCall (s.heard left now) = s.second.reply) ∧
      (¬s.Answered → Port.outcome s.secondCall (s.heard left now) =
        Port.timeout s.secondCall) := by
  have hopens := Listening.opens_toCommand s.second.command.body
  have hraw : (Chunk.lines now s.second.chunks).map DueLine.text =
      lineOf s.second.answer.echo :: (s.second.answer.info.map lineOf ++
        [lineOf s.second.answer.last]) := by
    rw [h.second.chunks.map_text_lines, ModemAnswer.raw, List.map_cons, List.map_append]
    rfl
  by_cases hecho : lineOf s.second.answer.echo = s.echo
  · have hcompletes : (Listening.toCommand s.second.command.body).Completes
        ((left ++ Chunk.lines now s.second.chunks).map DueLine.text) s.second.reply := by
      have hown := Listening.completes_own hopens rfl h.second.isInfo h.second.answer.last
      have hreply : s.second.reply = replyOf ((Chunk.lines now s.second.chunks).map DueLine.text)
          s.second.answer.result := by
        rw [Asked.reply, h.second.chunks.map_text_lines]
      rw [List.map_append, hreply, hraw, hecho]
      exact hown.prepend hleft
    have houtcome := Port.outcome_of_completes s.secondCall s.deadline hcompletes
      (h.pairwise hdrained) []
    rw [List.append_nil] at houtcome
    have hiff : s.Answered ↔
        ∀ line ∈ left ++ Chunk.lines now s.second.chunks, line.due ≤ s.deadline := by
      constructor
      · rintro ⟨left', now', hdrained', -, hnew⟩
        obtain ⟨rfl, rfl⟩ := Prod.mk.inj (Option.some.inj (hdrained'.symm.trans hdrained))
        exact List.forall_mem_append.mpr ⟨h.left_inTime hdrained hnew, hnew⟩
      · intro hall
        exact ⟨left, now, hdrained, hecho, (List.forall_mem_append.mp hall).2⟩
    constructor
    · intro hanswered
      exact houtcome.trans (if_pos (hiff.mp hanswered))
    · intro hanswered
      exact houtcome.trans (if_neg fun hall => hanswered (hiff.mpr hall))
  · -- The port takes the second answer for one to another command, and skips it as well.
    have hskipped : (Listening.toCommand s.second.command.body).hearTexts?
        ((left ++ Chunk.lines now s.second.chunks).map DueLine.text) =
          some { Listening.toCommand s.second.command.body with skipping := false } := by
      have hforeign := Listening.hearTexts?_foreign hopens h.second.answer.opensWith hecho
        h.second.isInfo (Option.isSome_of_eq_some h.second.answer.last)
      rw [List.map_append, Listening.hearTexts?_append hleft, hraw]
      exact hforeign
    constructor
    · rintro ⟨-, -, -, hecho', -⟩
      exact absurd hecho' hecho
    · intro _
      exact Port.outcome_of_incomplete s.secondCall s.deadline hskipped

/-- Where nothing tells the rest of the first answer from the second one, it leaks if it comes in
in time, and otherwise the second answer does not come in in time either. -/
theorem Valid.outcome_of_leaks (h : s.Valid) (hdrained : s.drained = some (left, now))
    (hmistaken : left.length < s.lines.length ∨ lineOf s.first.answer.echo = s.echo)
    (hleft : (Listening.toCommand s.second.command.body).Completes (left.map DueLine.text)
      (replyOf (left.map DueLine.text) s.first.answer.result)) :
    (∀ left', s.Leaks left' → Port.outcome s.secondCall (s.heard left now) =
      replyOf (left'.map DueLine.text) s.first.answer.result) ∧
    ((∀ left', ¬s.Leaks left') →
      (s.Answered → Port.outcome s.secondCall (s.heard left now) = s.second.reply) ∧
      (¬s.Answered → Port.outcome s.secondCall (s.heard left now) =
        Port.timeout s.secondCall)) := by
  have houtcome := h.outcome_of_mistaken hdrained hleft
  have hne : left ≠ [] := by
    rintro rfl
    obtain ⟨init, last, -, happend, -⟩ := hleft
    simp at happend
  refine ⟨fun left' hleaks => ?_, fun hnone => ?_⟩
  · obtain ⟨now', hdrained'⟩ := hleaks.drained
    obtain ⟨rfl, rfl⟩ := Prod.mk.inj (Option.some.inj (hdrained.symm.trans hdrained'))
    exact houtcome.trans (if_pos hleaks.inTime)
  · have hlate : ¬∀ line ∈ left, line.due ≤ s.deadline := fun hinTime =>
      hnone left ⟨⟨now, hdrained⟩, hne, hmistaken, hinTime⟩
    refine ⟨fun hanswered => ?_, fun _ => houtcome.trans (if_neg hlate)⟩
    obtain ⟨left', now', hdrained', -, hnew⟩ := hanswered
    obtain ⟨rfl, rfl⟩ := Prod.mk.inj (Option.some.inj (hdrained'.symm.trans hdrained))
    exact absurd (h.left_inTime hdrained hnew) hlate

/-! ### The end of both commands -/

/-- The port takes up the second command, drains what is left of the first answer, and listens. -/
theorem Valid.ended_run (h : s.Valid) :
    ∃ instant, s.run.value.ended =
      s.port.ended ++ [⟨0, some (.error s.fault), s.givenUpAt⟩,
        ⟨1, some s.outcome, instant⟩] := by
  obtain ⟨g, hg, hrun⟩ := h.exists_givenUp
  obtain ⟨rest, hreactions⟩ := hg.reactions
  have htake : s.run.value.ended = (g.take .unbounded s.secondCall).value.ended := by
    rw [hrun, Port.serve_cons, Logged.value_bind, Port.orServe]
    split <;> rfl
  have hdrain : (g.take .unbounded s.secondCall).value =
      (Port.drain { g with stale := false } .unbounded s.secondCall s.deadline
        (s.takenAt + quietTime)).value := by
    simp only [Port.take, secondCall, Bool.false_eq_true, if_false, Logged.value_bind, hg.clock]
    rw [if_pos hg.stale]
    rfl
  -- Ending the second command adds its outcome to that of the first.
  have hfinish (q : Port) (hq : q.ended = g.ended) (a : Answer) :
      ∃ instant, (q.finish s.secondCall a).value.ended =
        s.port.ended ++ [⟨0, some (.error s.fault), s.givenUpAt⟩, ⟨1, some a, instant⟩] := by
    refine ⟨q.clock, ?_⟩
    rw [Port.value_finish]
    have hended : q.ended ++ [⟨1, some a, q.clock⟩] =
        s.port.ended ++ [⟨0, some (.error s.fault), s.givenUpAt⟩, ⟨1, some a, q.clock⟩] := by
      rw [hq, hg.ended, List.append_assoc]
      rfl
    exact hended
  have hquiet : Port.clock { g with stale := false } ≤ s.takenAt + quietTime :=
    Nat.le_trans (Nat.le_of_eq hg.clock) (Nat.le_add_right ..)
  have hvalue := Port.value_drain (p := { g with stale := false }) hg.holds s.secondCall
    s.deadline hquiet
  rw [htake, hdrain]
  rcases hdrained : s.drained with _ | ⟨left, now⟩
  · rw [drained] at hdrained
    rw [hdrained] at hvalue
    obtain ⟨intake, hvalue⟩ := hvalue
    have houtcome : s.outcome = Port.timeout s.secondCall := by rw [outcome, drained, hdrained]
    rw [hvalue, houtcome]
    exact hfinish { g with stale := false, intake } rfl _
  · have hlast : ∀ a ∈ Chunk.arrivals now s.second.chunks,
        Intake.HoldsFrom.last now left ≤ a.due := by
      intro a ha
      exact Intake.HoldsFrom.last_le (Chunk.due_arrivals now _ a ha).1 fun line hline =>
        h.ordered left now hdrained line hline a ha
    rw [drained] at hdrained
    rw [hdrained] at hvalue
    obtain ⟨intake, hholds, rfl, hle, hvalue⟩ := hvalue
    have houtcome : s.outcome = Port.outcome s.secondCall (s.heard left intake.clock) := by
      rw [outcome, drained, hdrained]
    obtain ⟨intake', -, -, -, hsend⟩ := Port.value_send
      (p := { g with stale := false, intake }) hholds s.secondCall hle hreactions
      (h.second.chunks.holdsFrom intake.clock) hlast
    rw [hvalue, hsend, houtcome]
    apply hfinish
    rfl

/-- What the second command comes to. Only where the rest of the first answer leaks into it, that
decides: the second command ends with the final result of the first answer, and with the lines of
information that are left of it. Otherwise it ends with its own answer, as the modem sends it, or
its time is over. -/
theorem Valid.second_outcome (h : s.Valid) :
    ∃ outcome instant,
      s.run.value.ended = s.port.ended ++ [⟨0, some (.error s.fault), s.givenUpAt⟩,
        ⟨1, some outcome, instant⟩] ∧
      (∀ left, s.Leaks left →
        outcome = replyOf (left.map DueLine.text) s.first.answer.result) ∧
      ((∀ left, ¬s.Leaks left) →
        (s.Answered → outcome = s.second.reply) ∧
        (¬s.Answered → outcome = .error (.timedOut s.second.command.timeout))) := by
  obtain ⟨instant, hended⟩ := h.ended_run
  refine ⟨s.outcome, instant, hended, ?_⟩
  match hdrained : s.drained with
  | none =>
    have houtcome : s.outcome = Port.timeout s.secondCall := by rw [outcome, hdrained]
    refine ⟨fun left hleaks => ?_, fun _ => ⟨fun hanswered => ?_, fun _ => houtcome⟩⟩
    · obtain ⟨now, hsome⟩ := hleaks.drained
      rw [hdrained] at hsome
      cases hsome
    · obtain ⟨left, now, hsome, -⟩ := hanswered
      rw [hdrained] at hsome
      cases hsome
  | some (left, now) =>
    have houtcome : s.outcome = Port.outcome s.secondCall (s.heard left now) := by
      rw [outcome, hdrained]
    have hsame {left' : List DueLine} (hleaks : s.Leaks left') : left' = left := by
      obtain ⟨now', hsome⟩ := hleaks.drained
      rw [hdrained] at hsome
      exact (Prod.mk.inj (Option.some.inj hsome)).1.symm
    rw [houtcome]
    rcases h.left_cases hdrained with hnil | ⟨hlength, hfull⟩ | ⟨hlength, texts, hinfo, hpart⟩
    · refine ⟨fun left' hleaks => ?_, fun _ => h.outcome_of_skipped hdrained ?_⟩
      · exact absurd ((hsame hleaks).trans hnil) hleaks.ne_nil
      · rw [hnil]
        rfl
    · by_cases hecho : lineOf s.first.answer.echo = s.echo
      · refine h.outcome_of_leaks hdrained (.inr hecho) ?_
        rw [hfull, hecho]
        exact Listening.completes_own (Listening.opens_toCommand _) rfl h.first.isInfo
          h.first.answer.last
      · refine ⟨fun left' hleaks => ?_, fun _ => h.outcome_of_skipped hdrained ?_⟩
        · have hshort := hleaks.mistaken.resolve_right hecho
          rw [hsame hleaks] at hshort
          omega
        · rw [hfull]
          exact Listening.hearTexts?_foreign (Listening.opens_toCommand _)
            h.first.answer.opensWith hecho h.first.isInfo
            (Option.isSome_of_eq_some h.first.answer.last)
    · refine h.outcome_of_leaks hdrained (.inl hlength) ?_
      rw [hpart]
      exact Listening.completes_unskipped (Listening.opens_toCommand _) rfl rfl
        (fun text htext => .inr (hinfo text htext)) h.first.answer.last

/-! ### An answer that leaks -/

/-- A piece that spells a text. -/
def piece (after : Nat) (text : String) : Chunk :=
  ⟨after, .bytes (Text.Utf8.encode text.toList)⟩

/-- A modem that takes half a second longer to activate a context than it may, and is then asked
for the addresses of the context. -/
def slowActivation : Succession where
  port := {
    name := "ttyACM0"
    reactions := [
      .sends [piece 0 "AT+CGACT=1,1\r\r\n", piece 1500000 "OK\r\n"],
      .sends [piece 400000 "AT+CGPADDR=1\r\r\n+CGPADDR: 1,\"10.0.0.1\"\r\nOK\r\n"]] }
  first := {
    command := ⟨"+CGACT=1,1", .ofSeconds 1, false⟩
    answer := ⟨Text.Utf8.encode "AT+CGACT=1,1\r\r".toList, [], Text.Utf8.encode "OK\r".toList, .ok⟩
    chunks := [piece 0 "AT+CGACT=1,1\r\r\n", piece 1500000 "OK\r\n"] }
  second := {
    command := ⟨"+CGPADDR=1", .ofSeconds 3, false⟩
    answer := ⟨Text.Utf8.encode "AT+CGPADDR=1\r\r".toList,
      [Text.Utf8.encode "+CGPADDR: 1,\"10.0.0.1\"\r".toList], Text.Utf8.encode "OK\r".toList, .ok⟩
    chunks := [piece 400000 "AT+CGPADDR=1\r\r\n+CGPADDR: 1,\"10.0.0.1\"\r\nOK\r\n"] }
  cancelAt := none
  later := 1100000

theorem slowActivation_drained :
    slowActivation.drained = some ([⟨1500000, "OK".toList⟩], 1300000) := by
  decide +kernel

theorem slowActivation_valid : slowActivation.Valid where
  idle := rfl
  queue := rfl
  fresh := rfl
  empty := .nil 0
  reactions := ⟨[], rfl⟩
  first := ⟨⟨by decide +kernel, by decide +kernel, by decide +kernel⟩,
    [_, _], rfl, by decide +kernel, by decide +kernel⟩
  second := ⟨⟨by decide +kernel, by decide +kernel, by decide +kernel⟩,
    [_], rfl, by decide +kernel, by decide +kernel⟩
  sent := by decide
  late := by decide +kernel
  ordered := by
    intro left now hdrained
    obtain ⟨rfl, rfl⟩ := Prod.mk.inj (Option.some.inj (slowActivation_drained.symm.trans hdrained))
    decide +kernel

theorem slowActivation_leaks : slowActivation.Leaks [⟨1500000, "OK".toList⟩] where
  drained := ⟨_, slowActivation_drained⟩
  ne_nil := by simp
  mistaken := .inl (by decide +kernel)
  inTime := by decide +kernel

/-- The final result of the activation ends the query, which has lost its own answer. -/
theorem Valid.second_outcome_slowActivation :
    slowActivation.Valid ∧
      (∃ instant, slowActivation.run.value.ended =
        [⟨0, some (.error (.timedOut (.ofSeconds 1))), 1000000⟩, ⟨1, some (.ok ""), instant⟩]) ∧
      slowActivation.second.reply = .ok "+CGPADDR: 1,\"10.0.0.1\"" := by
  obtain ⟨outcome, instant, hended, hleaks, -⟩ := Valid.second_outcome slowActivation_valid
  have houtcome := hleaks _ slowActivation_leaks
  refine ⟨slowActivation_valid, ⟨instant, ?_⟩, by rfl⟩
  rw [hended, houtcome]
  rfl

end Succession

end ModemLink
