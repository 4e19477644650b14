import ModemLink.Proofs.Port.OwnAnswers

/-!
# Late answers in between

While a port listens for the answer to a command, whole answers to earlier commands may come in
between the lines of it. Each opens with its own echo, and the port skips it up to its final result.
Directly in front of the echo of the command, an earlier answer may also break off before its final
result: the echo ends the skipping as well. None of this makes a difference to the call.

Source: the specification, section 10.2.

## Main definitions

* `LateAnswer`: the echo of another command, and the information behind it.
* `Interrupted`: lines of an own answer with late answers in between.

## Main results

* `Interrupted.completes`: late answers do not take part in the answer that is complete.
* `Port.Hears.ended_eq_of_interrupted`: a call ends as it would end without late answers.
-/

namespace ModemLink

/-- The answer to an earlier command, up to its final result. -/
structure LateAnswer (echo : List Char) where
  command : List Char
  info : List (List Char)
  opens : FinalResult.opensWith "AT" command = true
  other : command ≠ echo
  isInfo : ∀ line ∈ info, IsInfo line

/-- The lines of a late answer that breaks off before its final result. -/
def LateAnswer.texts {echo : List Char} (b : LateAnswer echo) : List (List Char) :=
  b.command :: b.info

/-- Lines of an answer, with late answers in between. The last of the lines is the last line of the
answer. -/
inductive Interrupted (echo : List Char) : List (List Char) → List (List Char) → Prop
  | final (line : List Char) : Interrupted echo [line] [line]
  | own {own texts : List (List Char)} (line : List Char) (rest : Interrupted echo own texts) :
    Interrupted echo (line :: own) (line :: texts)
  /-- A late answer comes in with its final result. -/
  | whole {own texts : List (List Char)} (b : LateAnswer echo) {final : List Char}
    (closes : (FinalResult.ofLine? final).isSome = true) (rest : Interrupted echo own texts) :
    Interrupted echo own (b.texts ++ final :: texts)
  /-- A late answer breaks off, and the echo follows. -/
  | brokenOff {own texts : List (List Char)} (b : LateAnswer echo)
    (rest : Interrupted echo own texts) :
    Interrupted echo (echo :: own) (b.texts ++ echo :: texts)

namespace Listening

variable {l l' : Listening} {line : List Char} {texts : List (List Char)} {a : Answer}

/-- The first of several lines does not complete an answer. -/
theorem Completes.tail (h : l.Completes (line :: texts) a) (hne : texts ≠ [])
    (hline : (l.hear line).value = .more l') : l'.Completes texts a := by
  obtain ⟨init, last, l'', htexts, hinit, hanswer⟩ := h
  cases init with
  | nil => exact absurd (List.cons.inj htexts).2 hne
  | cons first init =>
    obtain ⟨rfl, htail⟩ := List.cons.inj htexts
    rw [hearTexts?_cons hline] at hinit
    exact ⟨init, last, l'', htail, hinit, hanswer⟩

theorem Completes.cons (h : l'.Completes texts a) (hline : (l.hear line).value = .more l') :
    l.Completes (line :: texts) a := by
  have hfirst : l.hearTexts? [line] = some l' := by rw [hearTexts?_cons hline, hearTexts?]
  exact h.prepend hfirst

/-- A port that does not skip takes in its own lines, and no other thing changes. -/
theorem value_hear_known (hopens : l.Opens) (hskipping : l.skipping = false)
    (hline : line = l.echo ∨ IsInfo line) :
    ∃ info, (l.hear line).value = .more { l with info } := by
  rcases hline with rfl | hline
  · refine ⟨l.info, ?_⟩
    rw [value_hear_echo hopens.echo_ne_nil, ← hskipping]
  · refine ⟨l.info ++ infoOf [line], ?_⟩
    rw [value_hear_info hline hopens, if_neg (by simp [hskipping])]

end Listening

namespace Interrupted

variable {l : Listening} {echo : List Char} {own texts : List (List Char)} {a : Answer}

theorem own_ne_nil (h : Interrupted echo own texts) : own ≠ [] := by
  induction h with
  | whole _ _ _ ih => exact ih
  | _ => exact List.cons_ne_nil _ _

/-- Late answers do not take part in an answer that is complete. -/
theorem completes (h : Interrupted l.echo own texts) (hopens : l.Opens)
    (hskipping : l.skipping = false)
    (hown : ∀ text ∈ own.dropLast, text = l.echo ∨ IsInfo text) (hcompletes : l.Completes own a) :
    l.Completes texts a := by
  generalize hecho : l.echo = echo at h
  induction h generalizing l with
  | final line => exact hcompletes
  | @own own texts line rest ih =>
    rw [List.dropLast_cons_of_ne_nil rest.own_ne_nil, List.forall_mem_cons] at hown
    obtain ⟨info, hline⟩ := Listening.value_hear_known hopens hskipping hown.1
    have hrest := hcompletes.tail rest.own_ne_nil hline
    exact (ih (l := { l with info }) hopens hskipping hown.2 hrest hecho).cons hline
  | @whole own texts b final closes rest ih =>
    have hskip : l.hearTexts? (b.texts ++ [final]) = some l := by
      have hother : b.command ≠ l.echo := hecho ▸ b.other
      have hforeign := Listening.hearTexts?_foreign hopens b.opens hother b.isInfo closes
      rwa [← hskipping] at hforeign
    rw [List.append_cons]
    exact (ih hopens hskipping hown hcompletes hecho).prepend hskip
  | @brokenOff own texts b rest ih =>
    subst hecho
    have hskip : l.hearTexts? (b.texts ++ [l.echo]) = some l := by
      have hother : l.hearTexts? b.texts = some { l with skipping := true } :=
        Listening.hearTexts?_other hopens b.opens b.other b.isInfo
      have hback := Listening.value_hear_echo (l := { l with skipping := true }) hopens.echo_ne_nil
      rw [Listening.hearTexts?_append hother, Listening.hearTexts?_cons hback, ← hskipping]
      rfl
    rw [List.dropLast_cons_of_ne_nil rest.own_ne_nil, List.forall_mem_cons] at hown
    have hline : (l.hear l.echo).value = .more l := by
      rw [Listening.value_hear_echo hopens.echo_ne_nil, ← hskipping]
    have hrest := hcompletes.tail rest.own_ne_nil hline
    rw [List.append_cons]
    exact (ih hopens hskipping hown.2 hrest rfl).prepend hskip

end Interrupted

namespace Port

namespace Hears

variable {p q : Port} {t : Nat} {call : Call} {lines later later' own : List DueLine}

/-- A call ends as it would end without the late answers that come in between the lines of its own
answer. -/
theorem ended_eq_of_interrupted (a : OwnAnswer call.command)
    (hp : p.Hears t call own later) (hown : own.map DueLine.text = a.texts)
    (hq : q.Hears t call lines later')
    (hlines : Interrupted (OwnAnswer.echo call.command) a.texts (lines.map DueLine.text))
    (hsame : Intake.HoldsFrom.last t own ≤ p.deadlineOf t call ↔
      Intake.HoldsFrom.last t lines ≤ q.deadlineOf t call) :
    ∃ answer,
      (settle [(t, .call call)] p).ended = p.ended ++
        [⟨call.ticket, some answer, min (Intake.HoldsFrom.last t own) (p.deadlineOf t call)⟩] ∧
      (settle [(t, .call call)] q).ended = q.ended ++
        [⟨call.ticket, some answer, min (Intake.HoldsFrom.last t lines) (q.deadlineOf t call)⟩] ∧
      (Intake.HoldsFrom.last t own ≤ p.deadlineOf t call → answer = a.reply) := by
  have hknown : ∀ text ∈ a.texts.dropLast,
      text = (Listening.toCommand call.command.body).echo ∨ IsInfo text := by
    rw [OwnAnswer.texts, List.dropLast_concat]
    exact a.known_opening
  have hcompletes : (Listening.toCommand call.command.body).Completes
      (lines.map DueLine.text) a.reply :=
    hlines.completes (Listening.opens_toCommand _) rfl hknown a.completes
  obtain ⟨_, -, -, hplain⟩ := hp.value_settle (hown.symm ▸ a.completes) a.not_abandons_reply
  obtain ⟨_, -, -, hothers⟩ := hq.value_settle hcompletes a.not_abandons_reply
  simp only [← hsame] at hothers
  exact ⟨_, congrArg Port.ended hplain, congrArg Port.ended hothers, fun hdue => if_pos hdue⟩

/-- The answer to a query that is echoed. -/
def queryAnswer : OwnAnswer .activationQuery where
  echoed := true
  info := ["+CGACT: 1,0".toList]
  final := "OK".toList
  result := .ok
  isInfo := by decide
  closes := rfl

/-- What a modem sends that spells lines, all at once. -/
def spoken (lines : List String) : List Chunk :=
  [⟨0, .bytes ((lines.map fun line => Text.Utf8.encode line.toList).flatMap (· ++ [lineFeed]))⟩]

theorem encodes_spoken (lines : List String)
    (h : ∀ line ∈ lines, lineFeed ∉ Text.Utf8.encode line.toList) :
    Encodes (spoken lines) (lines.map fun line => Text.Utf8.encode line.toList) :=
  ⟨[_], rfl, by simp, by simpa using h⟩

/-- A port on which a modem is asked once. -/
def answeredBy (lines : List String) : Port where
  name := "ttyACM0"
  reactions := [.sends (spoken lines)]

/-- The lines of an answer to a query. -/
def plainLines : List String :=
  ["AT+CGACT?\r\r", "+CGACT: 1,0\r", "OK\r"]

/-- The same lines with two late answers in between, and with one that breaks off. -/
def interruptedLines : List String :=
  ["AT+CGACT=1,1\r\r", "ERROR\r", "AT+XDNS?\r\r", "+XDNS: 1\r", "AT+CGACT?\r\r",
    "AT+CGPADDR=1\r\r", "+CGPADDR: 1,\"10.0.0.1\"\r", "OK\r", "+CGACT: 1,0\r", "OK\r"]

theorem interrupted_lines :
    Interrupted (OwnAnswer.echo .activationQuery) queryAnswer.texts
      ["AT+CGACT=1,1".toList, "ERROR".toList, "AT+XDNS?".toList, "+XDNS: 1".toList,
        "AT+CGACT?".toList, "AT+CGPADDR=1".toList, "+CGPADDR: 1,\"10.0.0.1\"".toList, "OK".toList,
        "+CGACT: 1,0".toList, "OK".toList] :=
  .whole ⟨"AT+CGACT=1,1".toList, [], rfl, by decide, by decide⟩ rfl <|
    .brokenOff ⟨"AT+XDNS?".toList, ["+XDNS: 1".toList], rfl, by decide, by decide⟩ <|
      .whole ⟨"AT+CGPADDR=1".toList, ["+CGPADDR: 1,\"10.0.0.1\"".toList], rfl, by decide,
        by decide⟩ rfl <|
        .own _ (.final _)

/-- Two late answers and one that breaks off make no difference to a query. -/
theorem ended_eq_of_interrupted_query :
    let call : Call := ⟨0, .activationQuery, false⟩
    (answeredBy plainLines).Hears 0 call (Chunk.lines 0 (spoken plainLines)) [] ∧
      (answeredBy interruptedLines).Hears 0 call (Chunk.lines 0 (spoken interruptedLines)) [] ∧
      (settle [(0, .call call)] (answeredBy plainLines)).ended =
        [⟨0, some (.ok "+CGACT: 1,0"), 0⟩] ∧
      (settle [(0, .call call)] (answeredBy interruptedLines)).ended =
        [⟨0, some (.ok "+CGACT: 1,0"), 0⟩] := by
  intro call
  have hplain := encodes_spoken plainLines (by decide +kernel)
  have hothers := encodes_spoken interruptedLines (by decide +kernel)
  have hp : (answeredBy plainLines).Hears 0 call (Chunk.lines 0 (spoken plainLines)) [] :=
    of_encodes (p := answeredBy plainLines) ⟨rfl, rfl⟩ rfl rfl (.nil 0) rfl hplain
  have hq : (answeredBy interruptedLines).Hears 0 call
      (Chunk.lines 0 (spoken interruptedLines)) [] :=
    of_encodes (p := answeredBy interruptedLines) ⟨rfl, rfl⟩ rfl rfl (.nil 0) rfl hothers
  have hown : (Chunk.lines 0 (spoken plainLines)).map DueLine.text = queryAnswer.texts := by
    rw [hplain.map_text_lines]
    decide +kernel
  have hlines : Interrupted (OwnAnswer.echo .activationQuery) queryAnswer.texts
      ((Chunk.lines 0 (spoken interruptedLines)).map DueLine.text) := by
    rw [hothers.map_text_lines]
    exact interrupted_lines
  have hdue : Intake.HoldsFrom.last 0 (Chunk.lines 0 (spoken plainLines)) = 0 := by
    decide +kernel
  have hdue' : Intake.HoldsFrom.last 0 (Chunk.lines 0 (spoken interruptedLines)) = 0 := by
    decide +kernel
  obtain ⟨answer, hended, hended', hreply⟩ :=
    ended_eq_of_interrupted queryAnswer hp hown hq hlines (by rw [hdue, hdue']; decide)
  have hanswer : answer = .ok "+CGACT: 1,0" :=
    (hreply (by rw [hdue]; decide)).trans rfl
  rw [hdue, hanswer] at hended
  rw [hdue', hanswer] at hended'
  exact ⟨hp, hq, hended, hended'⟩

end Hears

end Port

end ModemLink
