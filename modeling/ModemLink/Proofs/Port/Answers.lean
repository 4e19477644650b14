import ModemLink.Proofs.Port.Hearing

/-!
# Answers in lines

An answer is an echo of the command line, lines of information, and a final result. Information
is any line that is neither a command line nor a final result; blank lines are information that
is not kept. Here is what a port makes of such an answer: of its own, of a whole answer to another
command, which is skipped from its echo to its final result, and of one whose echo the port has
missed, which it cannot tell from its own.

## Main definitions

* `Listening.hearTexts?`: the state of a port after lines that do not complete its answer.
* `IsInfo`, `infoOf`: lines of information, and what is kept of them.
* `replyOf`: what lines tell that are taken for one answer.
* `Listening.Completes`: the answer that lines complete.

## Main results

* `Listening.hearTexts?_info`, `Listening.hearTexts?_unskipped`: information is kept.
* `Listening.hearTexts?_own`, `Listening.hearTexts?_other`: what follows an echo.
* `Listening.hearTexts?_foreign`: a whole answer to another command is skipped.
* `Listening.completes_own`, `Listening.completes_unskipped`: what a port takes for its own answer.
* `Listening.Completes.hearAll`: an answer is complete if all of its lines are in time.
-/

namespace ModemLink

/-- The line is neither a command line nor a final result. -/
def IsInfo (line : List Char) : Prop :=
  FinalResult.opensWith "AT" line = false ∧ FinalResult.ofLine? line = none

instance (line : List Char) : Decidable (IsInfo line) :=
  inferInstanceAs (Decidable (_ ∧ _))

/-- What is kept of lines of information. -/
def infoOf (lines : List (List Char)) : List (List Char) :=
  lines.filter (· ≠ [])

/-- What lines tell that are taken for one answer: the final result, and the information among them
if that is a success. -/
def replyOf (texts : List (List Char)) : FinalResult → Answer
  | .ok => .ok (String.ofList
      (List.intercalate ['\r', '\n'] (infoOf (texts.filter fun text => IsInfo text))))
  | .noCarrier => .error .noCarrier
  | .refused line => .error (.failed (String.ofList line))

/-- Only the information makes a difference to what lines tell. -/
theorem replyOf_congr {texts texts' : List (List Char)} (result : FinalResult)
    (h : texts.filter (fun text => IsInfo text) = texts'.filter fun text => IsInfo text) :
    replyOf texts result = replyOf texts' result := by
  cases result <;> simp only [replyOf, h]

namespace Listening

variable {l l' : Listening}

/-- The state after lines that do not complete the answer; there is none if they do. -/
def hearTexts? (l : Listening) : List (List Char) → Option Listening
  | [] => some l
  | text :: texts =>
    match (l.hear text).value with
    | .more l => hearTexts? l texts
    | .answer _ => none

theorem hearTexts?_cons {text : List Char} (h : (l.hear text).value = .more l')
    (texts : List (List Char)) : l.hearTexts? (text :: texts) = l'.hearTexts? texts := by
  rw [hearTexts?, h]

theorem hearTexts?_append {texts : List (List Char)} (h : l.hearTexts? texts = some l')
    (texts' : List (List Char)) : l.hearTexts? (texts ++ texts') = l'.hearTexts? texts' := by
  induction texts generalizing l with
  | nil =>
    obtain rfl := Option.some.inj h
    rfl
  | cons text texts ih =>
    cases htext : (l.hear text).value with
    | more l'' =>
      rw [hearTexts?_cons htext] at h
      rw [List.cons_append, hearTexts?_cons htext, ih h]
    | answer a => simp [hearTexts?, htext] at h

/-! ### Single lines -/

/-- The port takes the echo of its command for a command line. -/
def Opens (l : Listening) : Prop :=
  FinalResult.opensWith "AT" l.echo = true

theorem Opens.echo_ne_nil (h : l.Opens) : l.echo ≠ [] := by
  intro hnil
  rw [Opens, hnil] at h
  cases h

theorem Opens.not_isInfo (h : l.Opens) : ¬IsInfo l.echo := by
  intro hinfo
  rw [Opens, hinfo.1] at h
  cases h

theorem opens_toCommand (body : String) : (toCommand body).Opens := by
  simp [Opens, toCommand, FinalResult.opensWith]

theorem value_hear_echo (hne : l.echo ≠ []) :
    (l.hear l.echo).value = .more { l with skipping := false } := by
  simp [hear, hne]

theorem value_hear_command {line : List Char} (hopens : FinalResult.opensWith "AT" line = true)
    (hecho : line ≠ l.echo) : (l.hear line).value = .more { l with skipping := true } := by
  have hne : line ≠ [] := by
    rintro rfl
    cases hopens
  simp [hear, hne, hecho, hopens]

theorem value_hear_info {line : List Char} (h : IsInfo line) (hopens : l.Opens) :
    (l.hear line).value =
      .more (if l.skipping then l else { l with info := l.info ++ infoOf [line] }) := by
  have hecho : line ≠ l.echo := by
    rintro rfl
    exact hopens.not_isInfo h
  by_cases hne : line = []
  · subst hne
    simp [hear, infoOf]
  · cases hskipping : l.skipping with
    | true => simp [hear, hne, hecho, h.1, h.2, hskipping]
    | false => simp [hear, hne, hecho, h.1, h.2, hskipping, infoOf]

/-- A command line is no final result. -/
theorem ofLine?_of_opens {line : List Char} (h : FinalResult.opensWith "AT" line = true) :
    FinalResult.ofLine? line = none := by
  obtain ⟨rest, rfl⟩ : ∃ rest, line = 'A' :: 'T' :: rest := by
    obtain ⟨rest, hrest⟩ := List.isPrefixOf_iff_prefix.mp h
    exact ⟨rest, hrest.symm⟩
  simp [FinalResult.ofLine?, FinalResult.opensWith]

theorem value_hear_final {line : List Char} {f : FinalResult}
    (h : FinalResult.ofLine? line = some f) (hopens : l.Opens) :
    (l.hear line).value =
      if l.skipping then .more { l with skipping := false } else .answer (l.close f) := by
  have hne : line ≠ [] := by
    rintro rfl
    cases h
  have hcommand : FinalResult.opensWith "AT" line = false := by
    rw [Bool.eq_false_iff]
    intro hopens'
    cases (ofLine?_of_opens hopens').symm.trans h
  have hecho : line ≠ l.echo := by
    rintro rfl
    cases hcommand.symm.trans hopens
  cases hskipping : l.skipping with
  | true => simp [hear, hne, hecho, hcommand, h, hskipping]
  | false => simp [hear, hne, hecho, hcommand, h, hskipping]

/-! ### Parts of an answer -/

/-- Information is kept where the port takes it for its own, and skipped otherwise. -/
theorem hearTexts?_info (hopens : l.Opens) {texts : List (List Char)}
    (htexts : ∀ text ∈ texts, IsInfo text) :
    l.hearTexts? texts =
      some (if l.skipping then l else { l with info := l.info ++ infoOf texts }) := by
  induction texts generalizing l with
  | nil => simp [hearTexts?, infoOf]
  | cons text texts ih =>
    obtain ⟨htext, htexts⟩ := List.forall_mem_cons.mp htexts
    have hvalue := value_hear_info htext hopens
    rw [hearTexts?_cons hvalue]
    cases hskipping : l.skipping with
    | true =>
      simp only [if_true]
      rw [ih hopens htexts, hskipping]
      rfl
    | false =>
      have hinfo : infoOf (text :: texts) = infoOf [text] ++ infoOf texts :=
        List.filter_append [text] texts
      have hrest := ih (l := { l with info := l.info ++ infoOf [text] }) hopens htexts
      simp only [hskipping, Bool.false_eq_true, if_false] at hrest ⊢
      rw [hrest, hinfo, List.append_assoc]

/-- A port that does not skip keeps information, and its own echo changes nothing. -/
theorem hearTexts?_unskipped (hopens : l.Opens) (hskipping : l.skipping = false)
    {texts : List (List Char)} (htexts : ∀ text ∈ texts, text = l.echo ∨ IsInfo text) :
    l.hearTexts? texts =
      some { l with info := l.info ++ infoOf (texts.filter fun text => IsInfo text) } := by
  induction texts generalizing l with
  | nil => simp [hearTexts?, infoOf]
  | cons text texts ih =>
    obtain ⟨htext, hrest⟩ := List.forall_mem_cons.mp htexts
    rcases htext with rfl | htext
    · have hvalue : (l.hear l.echo).value = .more l := by
        rw [value_hear_echo hopens.echo_ne_nil, ← hskipping]
      rw [hearTexts?_cons hvalue, ih hopens hskipping hrest]
      simp [hopens.not_isInfo]
    · have hvalue : (l.hear text).value = .more { l with info := l.info ++ infoOf [text] } := by
        rw [value_hear_info htext hopens, hskipping]
        rfl
      have hinfo : infoOf ((text :: texts).filter fun text => IsInfo text) =
          infoOf [text] ++ infoOf (texts.filter fun text => IsInfo text) := by
        rw [List.filter_cons, if_pos (by simpa using htext)]
        exact List.filter_append [text] _
      rw [hearTexts?_cons hvalue, hinfo, ← List.append_assoc]
      exact ih (l := { l with info := l.info ++ infoOf [text] }) hopens hskipping hrest

/-- The port keeps the information that follows its own echo. -/
theorem hearTexts?_own (hopens : l.Opens) {texts : List (List Char)}
    (htexts : ∀ text ∈ texts, IsInfo text) :
    l.hearTexts? (l.echo :: texts) =
      some { l with skipping := false, info := l.info ++ infoOf texts } := by
  rw [hearTexts?_cons (value_hear_echo hopens.echo_ne_nil)]
  exact hearTexts?_info (l := { l with skipping := false }) hopens htexts

/-- The port skips the information that follows the echo of another command. -/
theorem hearTexts?_other (hopens : l.Opens) {echo : List Char} {texts : List (List Char)}
    (hcommand : FinalResult.opensWith "AT" echo = true) (hecho : echo ≠ l.echo)
    (htexts : ∀ text ∈ texts, IsInfo text) :
    l.hearTexts? (echo :: texts) = some { l with skipping := true } := by
  rw [hearTexts?_cons (value_hear_command hcommand hecho)]
  exact hearTexts?_info (l := { l with skipping := true }) hopens htexts

/-- An answer to another command is skipped, if its echo is there to tell. -/
theorem hearTexts?_foreign (hopens : l.Opens) {echo : List Char} {texts : List (List Char)}
    {final : List Char} (hcommand : FinalResult.opensWith "AT" echo = true) (hecho : echo ≠ l.echo)
    (htexts : ∀ text ∈ texts, IsInfo text) (hfinal : (FinalResult.ofLine? final).isSome = true) :
    l.hearTexts? (echo :: texts ++ [final]) = some { l with skipping := false } := by
  obtain ⟨f, hf⟩ := Option.isSome_iff_exists.mp hfinal
  have hlast : (({ l with skipping := true } : Listening).hear final).value =
      .more { l with skipping := false } :=
    value_hear_final (l := { l with skipping := true }) hf hopens
  rw [hearTexts?_append (hearTexts?_other hopens hcommand hecho htexts), hearTexts?_cons hlast]
  rfl

/-! ### A complete answer -/

/-- The last of the lines completes the answer, and no one before it does. -/
def Completes (l : Listening) (texts : List (List Char)) (a : Answer) : Prop :=
  ∃ init last l', texts = init ++ [last] ∧ l.hearTexts? init = some l' ∧
    (l'.hear last).value = .answer a

/-- A port that has kept the information of the lines makes of them what they tell. -/
theorem close_eq_replyOf {texts : List (List Char)} (f : FinalResult)
    (hinfo : l.info = infoOf (texts.filter fun text => IsInfo text)) :
    l.close f = replyOf texts f := by
  cases f with
  | ok => simp only [close, text, hinfo, replyOf]
  | noCarrier => rfl
  | refused line => rfl

theorem Completes.prepend {texts texts' : List (List Char)} {a : Answer}
    (h : l'.Completes texts' a) (htexts : l.hearTexts? texts = some l') :
    l.Completes (texts ++ texts') a := by
  obtain ⟨init, last, l'', rfl, hinit, hanswer⟩ := h
  refine ⟨texts ++ init, last, l'', (List.append_assoc ..).symm, ?_, hanswer⟩
  rw [hearTexts?_append htexts, hinit]

section Own

variable {texts : List (List Char)} {final : List Char} {f : FinalResult}

/-- A final result is no information. -/
theorem filter_isInfo (texts : List (List Char)) (hfinal : FinalResult.ofLine? final = some f) :
    (texts ++ [final]).filter (fun text => IsInfo text) =
      texts.filter fun text => IsInfo text := by
  have hlast : ¬IsInfo final := by
    intro h
    rw [h.2] at hfinal
    cases hfinal
  rw [List.filter_append]
  simp [hlast]

/-- A port that does not skip takes information for its own, whoever asked for it, and its echo may
be anywhere or missing. -/
theorem completes_unskipped (hopens : l.Opens) (hskipping : l.skipping = false)
    (hinfo : l.info = []) (htexts : ∀ text ∈ texts, text = l.echo ∨ IsInfo text)
    (hfinal : FinalResult.ofLine? final = some f) :
    l.Completes (texts ++ [final]) (replyOf (texts ++ [final]) f) := by
  let kept := infoOf (texts.filter fun text => IsInfo text)
  refine ⟨texts, final, { l with info := kept }, rfl, ?_, ?_⟩
  · rw [hearTexts?_unskipped hopens hskipping htexts, hinfo]
    rfl
  · have hclose : ({ l with info := kept } : Listening).close f = replyOf (texts ++ [final]) f :=
      close_eq_replyOf f (by rw [filter_isInfo texts hfinal])
    rw [value_hear_final (l := { l with info := kept }) hfinal hopens, if_neg (by simp [hskipping]),
      hclose]

/-- A port knows an answer that opens with its own echo. -/
theorem completes_own (hopens : l.Opens) (hinfo : l.info = [])
    (htexts : ∀ text ∈ texts, IsInfo text) (hfinal : FinalResult.ofLine? final = some f) :
    l.Completes (l.echo :: (texts ++ [final])) (replyOf (l.echo :: (texts ++ [final])) f) := by
  have hreply : replyOf (l.echo :: (texts ++ [final])) f = replyOf (texts ++ [final]) f :=
    replyOf_congr f (List.filter_cons_of_neg (by simpa using hopens.not_isInfo))
  rw [hreply]
  have hheard : l.hearTexts? [l.echo] = some { l with skipping := false } := by
    rw [hearTexts?_cons (value_hear_echo hopens.echo_ne_nil)]
    rfl
  have hrest := completes_unskipped (l := { l with skipping := false }) hopens rfl hinfo
    (fun text htext => .inr (htexts text htext)) hfinal
  exact hrest.prepend hheard

end Own

/-! ### Lines up to the end of an answer -/

variable {admits : Nat → Bool}

/-- Lines that come in time and do not complete the answer leave the port in their state. -/
theorem hearAll_of_hearTexts? {lines rest : List DueLine}
    (h : l.hearTexts? (lines.map DueLine.text) = some l')
    (hadmits : ∀ line ∈ lines, admits line.due = true) :
    l.hearAll admits (lines ++ rest) = l'.hearAll admits rest := by
  induction lines generalizing l with
  | nil =>
    obtain rfl := Option.some.inj h
    rfl
  | cons line lines ih =>
    obtain ⟨hline, hlines⟩ := List.forall_mem_cons.mp hadmits
    rw [List.map_cons, hearTexts?] at h
    cases htext : (l.hear line.text).value with
    | more l'' =>
      rw [htext] at h
      rw [List.cons_append, hearAll_of_more hline htext, ih h hlines]
    | answer a =>
      rw [htext] at h
      cases h

/-- Lines that do not complete the answer do not do so if some of them are late, and whatever comes
after those. -/
theorem hearAll_of_late {lines : List DueLine}
    (h : l.hearTexts? (lines.map DueLine.text) = some l') (rest : List DueLine)
    (hrest : ∀ line ∈ rest.head?, admits line.due = false) :
    ∃ l'', (l.hearAll admits (lines ++ rest)).2 = .more l'' := by
  induction lines generalizing l with
  | nil => exact ⟨l, by rw [List.nil_append, hearAll_of_head hrest]⟩
  | cons line lines ih =>
    rw [List.map_cons, hearTexts?] at h
    cases htext : (l.hear line.text).value with
    | more l'' =>
      rw [htext] at h
      by_cases hline : admits line.due = true
      · obtain ⟨l₁, hl₁⟩ := ih h
        exact ⟨l₁, by rw [List.cons_append, hearAll_of_more hline htext, hl₁]⟩
      · have hadmits : admits line.due = false := by simpa using hline
        exact ⟨l, by rw [List.cons_append, hearAll_of_not_admits hadmits]⟩
    | answer a =>
      rw [htext] at h
      cases h

/-- An answer is complete if all of its lines are in time, and otherwise is not. -/
theorem Completes.hearAll {lines : List DueLine} {a : Answer}
    (h : l.Completes (lines.map DueLine.text) a)
    (hsorted : lines.Pairwise fun line line' => line.due ≤ line'.due)
    (hdown : ∀ t u, t ≤ u → admits u = true → admits t = true) (rest : List DueLine) :
    if ∀ line ∈ lines, admits line.due = true then
      l.hearAll admits (lines ++ rest) = (rest, .answer a)
    else ∃ l'', (l.hearAll admits (lines ++ rest)).2 = .more l'' := by
  obtain ⟨texts, text, l', htexts, hinit, hanswer⟩ := h
  obtain ⟨init, tail, rfl, rfl, htail⟩ := List.map_eq_append_iff.mp htexts
  obtain ⟨last, tail, rfl, rfl, hnil⟩ := List.map_eq_cons_iff.mp htail
  obtain rfl := List.map_eq_nil_iff.mp hnil
  have hlast : ∀ line ∈ init, line.due ≤ last.due := fun line hline =>
    (List.pairwise_append.mp hsorted).2.2 line hline last (List.mem_singleton.mpr rfl)
  rw [List.append_assoc]
  split
  · next hadmits =>
    rw [hearAll_of_hearTexts? hinit fun line hline => hadmits line (List.mem_append_left _ hline)]
    exact hearAll_of_answer (hadmits last (by simp)) hanswer
  · next hadmits =>
    refine hearAll_of_late hinit _ ?_
    rintro line ⟨⟩
    rw [Bool.eq_false_iff]
    intro hline
    refine hadmits fun line' hline' => ?_
    rcases List.mem_append.mp hline' with hline' | hline'
    · exact hdown _ _ (hlast line' hline') hline
    · rwa [List.mem_singleton.mp hline']

end Listening

end ModemLink
