import ModemLink.Proofs.Port.Agreement
import ModemLink.Proofs.Port.Echo
import ModemLink.Proofs.Port.Hearing

/-!
# Commands that differ in credentials, and their echoes

Two commands are twins if both carry credentials and they differ in nothing but the text behind
the first equals sign. In two runs with twin commands, modems that do the same send the same
bytes, except in the echoes of such commands. Both inputs give lines at the same instants, and a
line is either the same in both runs or the echo of a command of a pair.

A port that listens for the answer to one of a pair of commands takes the two echoes alike. It
shows the line, however, if it is not the echo of the command that it has sent: as a stale line
while it drains leftover input, or as one that opens a late answer. From then on the logs of the two
runs differ.

## Main definitions

* `Command.Twin`: commands that differ in credentials.
* `Akin`, `Intake.Akin`: input that differs only in the echoes of pairs of commands.
* `Event.Betrays`: an event that shows the echo of a command of a pair.

## Main results

* `Command.Twin.loggable_eq`: twins are logged alike.
* `Akin.readLine`: input that is akin is read alike.
* `Intake.Akin.listen`, `Intake.Akin.drain`: the halves of an exchange, on input that is akin.
-/

namespace ModemLink

/-! ### Commands that differ in credentials -/

/-- Commands that carry credentials, and differ in the text behind the first equals sign. -/
structure Command.Twin (c c' : Command) : Prop where
  sensitive : c.sensitive = true
  sensitive' : c'.sensitive = true
  timeout_eq : c.timeout = c'.timeout
  body : ∃ opening text text' : List Char, '=' ∉ opening ∧
    c.body.toList = opening ++ '=' :: text ∧ c'.body.toList = opening ++ '=' :: text'

/-- Logs show of a command with credentials what stands in front of the first equals sign. -/
theorem Command.loggable_of_sensitive {c : Command} (h : c.sensitive = true)
    {opening text : List Char} (hbody : c.body.toList = opening ++ '=' :: text)
    (hopening : '=' ∉ opening) : c.loggable = String.ofList opening := by
  have hall : ∀ ch ∈ opening, (ch != '=') = true := by
    intro ch hch
    simpa using ne_of_mem_of_not_mem hch hopening
  rw [Command.loggable, if_pos h, hbody, List.takeWhile_append_of_pos hall]
  simp

/-- Logs show the same of twins. -/
theorem Command.Twin.loggable_eq {c c' : Command} (h : c.Twin c') : c.loggable = c'.loggable := by
  obtain ⟨opening, text, text', hopening, hbody, hbody'⟩ := h.body
  rw [c.loggable_of_sensitive h.sensitive hbody hopening,
    c'.loggable_of_sensitive h.sensitive' hbody' hopening]

variable {pairs : Command → Command → Prop}

/-! ### Lines -/

/-- A line that is the echo of a command of a pair. -/
def Echoes (pairs : Command → Command → Prop) (line : List Char) : Prop :=
  ∃ c c', pairs c c' ∧ (line = c.echoLine ∨ line = c'.echoLine)

/-- Lines that are read in two runs at a time: the same line, or the echoes of a pair. -/
inductive LinesAkin (pairs : Command → Command → Prop) : List Char → List Char → Prop
  | same {line : List Char} (htrim : Text.trim line = line) : LinesAkin pairs line line
  | echo {c c' : Command} (hpair : pairs c c') : LinesAkin pairs c.echoLine c'.echoLine

/-- An event that shows the echo of a command of a pair. -/
inductive Event.Betrays (pairs : Command → Command → Prop) : Event → Prop
  | stale {line : List Char} (h : Echoes pairs line) : Betrays pairs (.staleLine line)
  | late {line : List Char} (h : Echoes pairs line) : Betrays pairs (.lateReply line)

theorem Echoes.opensWith {line : List Char} (h : Echoes pairs line) :
    FinalResult.opensWith "AT" line = true := by
  obtain ⟨c, c', -, rfl | rfl⟩ := h
  · exact c.opensWith_echoLine
  · exact c'.opensWith_echoLine

theorem Echoes.ne_nil {line : List Char} (h : Echoes pairs line) : line ≠ [] := by
  obtain ⟨c, c', -, rfl | rfl⟩ := h
  · exact c.echoLine_ne_nil
  · exact c'.echoLine_ne_nil

/-! ### Input -/

/-- Input that differs in two runs only in the echoes of pairs: what comes in from an instant on,
when some bytes of a line have been read. Within a line either input may be ahead by bytes that can
be read at once, but line feeds come in at the same instants. -/
inductive Akin (pairs : Command → Command → Prop) :
    Nat → List UInt8 → List UInt8 → List Arrival → List Arrival → Prop
  | nil {clock : Nat} {f f' : List UInt8} : Akin pairs clock f f' [] []
  | both {clock due : Nat} {f f' : List UInt8} {b b' : UInt8} {as as' : List Arrival}
      (hb : b ≠ lineFeed) (hb' : b' ≠ lineFeed)
      (h : Akin pairs (max due clock) (f ++ [b]) (f' ++ [b']) as as') :
    Akin pairs clock f f' (⟨due, .byte b⟩ :: as) (⟨due, .byte b'⟩ :: as')
  | left {clock due : Nat} {f f' : List UInt8} {b : UInt8} {as as' : List Arrival}
      (hb : b ≠ lineFeed) (hdue : due ≤ clock) (h : Akin pairs clock (f ++ [b]) f' as as') :
    Akin pairs clock f f' (⟨due, .byte b⟩ :: as) as'
  | right {clock due : Nat} {f f' : List UInt8} {b' : UInt8} {as as' : List Arrival}
      (hb' : b' ≠ lineFeed) (hdue : due ≤ clock) (h : Akin pairs clock f (f' ++ [b']) as as') :
    Akin pairs clock f f' as (⟨due, .byte b'⟩ :: as')
  | feed {clock due : Nat} {f f' : List UInt8} {as as' : List Arrival}
      (hline : LinesAkin pairs (lineOf f) (lineOf f'))
      (h : Akin pairs (max due clock) [] [] as as') :
    Akin pairs clock f f' (⟨due, .byte lineFeed⟩ :: as) (⟨due, .byte lineFeed⟩ :: as')
  | closed {clock due : Nat} {f f' : List UInt8} {as as' : List Arrival}
      (hline : LinesAkin pairs (lineOf f) (lineOf f')) (hempty : f.isEmpty = f'.isEmpty) :
    Akin pairs clock f f' (⟨due, .closed⟩ :: as) (⟨due, .closed⟩ :: as')
  | broken {clock due : Nat} {f f' : List UInt8} {reason : String} {as as' : List Arrival}
      (h : Akin pairs (max due clock) f f' as as') :
    Akin pairs clock f f' (⟨due, .broken reason⟩ :: as) (⟨due, .broken reason⟩ :: as')

/-- What is unread in two runs is akin. -/
structure Intake.Akin (pairs : Command → Command → Prop) (i i' : Intake) : Prop where
  clock_eq : i.clock = i'.clock
  unread : ModemLink.Akin pairs i.clock i.fragment i'.fragment i.arrivals i'.arrivals

/-- Reads that end alike in two runs. -/
inductive Reading.Akin (pairs : Command → Command → Prop) : Reading → Reading → Prop
  | line {line line' : List Char} (h : LinesAkin pairs line line') :
    Akin pairs (.line line) (.line line')
  | ended : Akin pairs .ended .ended
  | broken (reason : String) : Akin pairs (.broken reason) (.broken reason)
  | silent : Akin pairs .silent .silent

namespace Akin

variable {clock : Nat} {f f' : List UInt8} {as as' : List Arrival}

/-- Input that is akin stays so as time passes. -/
theorem elapse (h : Akin pairs clock f f' as as') {now : Nat} (hnow : clock ≤ now) :
    Akin pairs now f f' as as' := by
  induction h generalizing now with
  | nil => exact .nil
  | both hb hb' _ ih => exact .both hb hb' (ih (by omega))
  | left hb hdue _ ih => exact .left hb (Nat.le_trans hdue hnow) (ih hnow)
  | right hb' hdue _ ih => exact .right hb' (Nat.le_trans hdue hnow) (ih hnow)
  | feed hline _ ih => exact .feed hline (ih (by omega))
  | closed hline hempty => exact .closed hline hempty
  | broken _ ih => exact .broken (ih (by omega))

/-- A read that is over at the present instant takes nothing. -/
theorem readLine_of_over {admits : Nat → Bool}
    (hdown : ∀ t u, t ≤ u → admits u = true → admits t = true) (hclock : admits clock ≠ true)
    (f : List UInt8) (as : List Arrival) :
    Intake.readLine admits clock f as = (⟨clock, f, as⟩, .silent) := by
  cases as with
  | nil => rfl
  | cons a rest =>
    have hnow : admits (max a.due clock) ≠ true := fun h => hclock (hdown _ _ (by omega) h)
    rw [Intake.readLine, if_neg hnow]

/-- Input that is akin is read alike, and what is left of it is akin. -/
theorem readLine {admits : Nat → Bool}
    (hdown : ∀ t u, t ≤ u → admits u = true → admits t = true)
    (h : Akin pairs clock f f' as as') :
    Reading.Akin pairs (Intake.readLine admits clock f as).2
        (Intake.readLine admits clock f' as').2 ∧
      Intake.Akin pairs (Intake.readLine admits clock f as).1
        (Intake.readLine admits clock f' as').1 := by
  induction h with
  | nil => exact ⟨.silent, rfl, .nil⟩
  | @both clock due f f' b b' as as' hb hb' h ih =>
    by_cases hadmits : admits (max due clock) = true
    · simp only [Intake.readLine, hadmits, if_true, if_neg hb, if_neg hb']
      exact ih
    · simp only [Intake.readLine, if_neg hadmits]
      exact ⟨.silent, rfl, .both hb hb' h⟩
  | @left clock due f f' b as as' hb hdue h ih =>
    by_cases hadmits : admits clock = true
    · simp only [Intake.readLine, Nat.max_eq_right hdue, hadmits, if_true, if_neg hb]
      exact ih
    · simp only [readLine_of_over hdown hadmits]
      exact ⟨.silent, rfl, .left hb hdue h⟩
  | @right clock due f f' b' as as' hb' hdue h ih =>
    by_cases hadmits : admits clock = true
    · simp only [Intake.readLine, Nat.max_eq_right hdue, hadmits, if_true, if_neg hb']
      exact ih
    · simp only [readLine_of_over hdown hadmits]
      exact ⟨.silent, rfl, .right hb' hdue h⟩
  | @feed clock due f f' as as' hline h ih =>
    by_cases hadmits : admits (max due clock) = true
    · simp only [Intake.readLine, hadmits, if_true]
      exact ⟨.line hline, rfl, h⟩
    · simp only [Intake.readLine, if_neg hadmits]
      exact ⟨.silent, rfl, .feed hline h⟩
  | @closed clock due f f' as as' hline hempty =>
    by_cases hadmits : admits (max due clock) = true
    · have hclosed : Intake.Akin pairs ⟨max due clock, [], ⟨due, .closed⟩ :: as⟩
          ⟨max due clock, [], ⟨due, .closed⟩ :: as'⟩ := ⟨rfl, .closed (.same rfl) rfl⟩
      simp only [Intake.readLine, hadmits, if_true, ← hempty]
      split
      · exact ⟨.ended, hclosed⟩
      · exact ⟨.line hline, hclosed⟩
    · simp only [Intake.readLine, if_neg hadmits]
      exact ⟨.silent, rfl, .closed hline hempty⟩
  | @broken clock due f f' reason as as' h ih =>
    by_cases hadmits : admits (max due clock) = true
    · simp only [Intake.readLine, hadmits, if_true]
      exact ⟨.broken reason, rfl, h⟩
    · simp only [Intake.readLine, if_neg hadmits]
      exact ⟨.silent, rfl, .broken h⟩

/-- Within a line, bytes that can be read at once may differ. -/
theorem of_due {due : Nat} (hdue : due ≤ clock) {bs bs' : List UInt8} (hbs : lineFeed ∉ bs)
    (hbs' : lineFeed ∉ bs') (h : Akin pairs clock (f ++ bs) (f' ++ bs') as as') :
    Akin pairs clock f f' (bs.map (⟨due, .byte ·⟩) ++ as) (bs'.map (⟨due, .byte ·⟩) ++ as') := by
  induction bs generalizing f with
  | nil =>
    rw [List.append_nil] at h
    induction bs' generalizing f' with
    | nil => simpa using h
    | cons b' bs' ih =>
      rw [List.mem_cons, not_or] at hbs'
      exact .right (Ne.symm hbs'.1) hdue (ih hbs'.2 (by simpa using h))
  | cons b bs ih =>
    rw [List.mem_cons, not_or] at hbs
    exact .left (Ne.symm hbs.1) hdue (ih hbs.2 (by simpa using h))

/-- The echoes of a pair of commands are akin, if each comes in as one line in one piece. -/
theorem of_echo {due : Nat} {c c' : Command} (hpair : pairs c c') (hc : lineFeed ∉ c.written)
    (hc' : lineFeed ∉ c'.written) (h : Akin pairs (max due clock) [] [] as as') :
    Akin pairs clock [] [] ((c.written ++ [lineFeed]).map (⟨due, .byte ·⟩) ++ as)
      ((c'.written ++ [lineFeed]).map (⟨due, .byte ·⟩) ++ as') := by
  obtain ⟨b, bs, hbs⟩ := List.exists_cons_of_ne_nil c.written_ne_nil
  obtain ⟨b', bs', hbs'⟩ := List.exists_cons_of_ne_nil c'.written_ne_nil
  have hlines : LinesAkin pairs (lineOf (b :: bs)) (lineOf (b' :: bs')) := by
    rw [← hbs, ← hbs', c.lineOf_written, c'.lineOf_written]
    exact .echo hpair
  rw [hbs, List.mem_cons, not_or] at hc
  rw [hbs', List.mem_cons, not_or] at hc'
  rw [hbs, hbs', List.map_append, List.map_append, List.append_assoc, List.append_assoc]
  refine .both (Ne.symm hc.1) (Ne.symm hc'.1) (of_due (Nat.le_max_left ..) hc.2 hc'.2 ?_)
  refine .feed hlines ?_
  rwa [← Nat.max_assoc, Nat.max_self]

end Akin

/-! ### Listening and draining -/

namespace Listening

/-- Ports that listen in two runs, for the answer to the same command or to one of a pair. -/
structure Akin (pairs : Command → Command → Prop) (l l' : Listening) : Prop where
  echo : l.echo = l'.echo ∨ ∃ c c', pairs c c' ∧
    l.echo = 'A' :: 'T' :: c.body.toList ∧ l'.echo = 'A' :: 'T' :: c'.body.toList
  info_eq : l.info = l'.info
  skipping_eq : l.skipping = l'.skipping

variable {l l' : Listening} {line line' : List Char}

/-- Where the echo of one port is a trimmed line and not the echo of the other, it is that of a
pair. -/
theorem Akin.echoes (h : l.Akin pairs l') (htrim : Text.trim line = line)
    (hne : ¬(line = l.echo ↔ line = l'.echo)) : Echoes pairs line := by
  obtain hecho | ⟨c, c', hpair, hecho, hecho'⟩ := h.echo
  · exact absurd (by rw [hecho]) hne
  · refine ⟨c, c', hpair, ?_⟩
    rw [hecho, hecho'] at hne
    by_cases hline : line = 'A' :: 'T' :: c.body.toList
    · exact .inl (htrim.symm.trans (by rw [hline, Command.echoLine]))
    · have hline' : line = 'A' :: 'T' :: c'.body.toList :=
        Decidable.byContradiction fun hline' => hne (iff_of_false hline hline')
      exact .inr (htrim.symm.trans (by rw [hline', Command.echoLine]))

/-- A line that opens like a command and is not the expected echo opens a late answer. -/
theorem hear_of_late (hnil : line ≠ []) (hecho : line ≠ l.echo)
    (hopens : FinalResult.opensWith "AT" line = true) :
    l.hear line = Logged.note (.lateReply line) >>= fun _ =>
      pure (.more { l with skipping := true }) := by
  rw [hear, if_neg hnil, if_neg hecho, if_pos hopens]

theorem hear_of_echo (hnil : line ≠ []) (hecho : line = l.echo) :
    l.hear line = pure (.more { l with skipping := false }) := by
  rw [hear, if_neg hnil, if_pos hecho]

end Listening

/-- What a line means in two runs. -/
inductive Heard.Akin (pairs : Command → Command → Prop) : Heard → Heard → Prop
  | more {l l' : Listening} (h : l.Akin pairs l') : Akin pairs (.more l) (.more l')
  | answer (a : Answer) : Akin pairs (.answer a) (.answer a)

namespace Listening

variable {l l' : Listening} {line line' : List Char}

/-- A line of one of a pair either is the echo of the command in both runs, or is shown. -/
theorem hear_of_echoes (hl : l.Akin pairs l') (h : Echoes pairs line) (h' : Echoes pairs line') :
    Logged.Agree (Event.Betrays pairs) (Heard.Akin pairs) (l.hear line) (l'.hear line') := by
  by_cases hecho : line = l.echo
  · by_cases hecho' : line' = l'.echo
    · rw [hear_of_echo h.ne_nil hecho, hear_of_echo h'.ne_nil hecho']
      exact .pure (.more ⟨hl.echo, hl.info_eq, rfl⟩)
    · rw [hear_of_late h'.ne_nil hecho' h'.opensWith]
      exact .of_betrays' (.late h') _ _
  · rw [hear_of_late h.ne_nil hecho h.opensWith]
    exact .of_betrays (.late h) _ _

/-- A line of the answer is taken alike. -/
theorem hear_of_answer (hl : l.Akin pairs l') (hnil : line ≠ []) (hecho : line ≠ l.echo)
    (hecho' : line ≠ l'.echo) (hopens : ¬FinalResult.opensWith "AT" line = true) :
    Logged.Agree (Event.Betrays pairs) (Heard.Akin pairs) (l.hear line) (l'.hear line) := by
  rw [hear, if_neg hnil, if_neg hecho, if_neg hopens, hear, if_neg hnil, if_neg hecho',
    if_neg hopens, ← hl.skipping_eq]
  cases FinalResult.ofLine? line with
  | some final =>
    have hclose : l.close final = l'.close final := by
      cases final <;> simp only [close, text, hl.info_eq]
    simp only [hclose]
    split
    · exact .pure (.more ⟨hl.echo, hl.info_eq, rfl⟩)
    · exact .pure (.answer _)
  | none =>
    dsimp only
    split
    · exact .pure (.more hl)
    · exact .pure (.more ⟨hl.echo, by rw [hl.info_eq], rfl⟩)

/-- A line that is the same in both runs. -/
theorem hear_of_same (hl : l.Akin pairs l') (htrim : Text.trim line = line) :
    Logged.Agree (Event.Betrays pairs) (Heard.Akin pairs) (l.hear line) (l'.hear line) := by
  by_cases hecho : line = l.echo ↔ line = l'.echo
  · by_cases hnil : line = []
    · rw [hear, if_pos hnil, hear, if_pos hnil]
      exact .pure (.more hl)
    · by_cases hown : line = l.echo
      · rw [hear_of_echo hnil hown, hear_of_echo hnil (hecho.mp hown)]
        exact .pure (.more ⟨hl.echo, hl.info_eq, rfl⟩)
      · have hother : line ≠ l'.echo := mt hecho.mpr hown
        by_cases hopens : FinalResult.opensWith "AT" line = true
        · rw [hear_of_late hnil hown hopens, hear_of_late hnil hother hopens]
          exact .note _ (.pure (.more ⟨hl.echo, hl.info_eq, rfl⟩))
        · exact hear_of_answer hl hnil hown hother hopens
  · have hechoes : Echoes pairs line := hl.echoes htrim hecho
    exact hear_of_echoes hl hechoes hechoes

/-- What a line means is the same in both runs, or one of them shows it. -/
theorem Akin.hear (hl : l.Akin pairs l') (hline : LinesAkin pairs line line') :
    Logged.Agree (Event.Betrays pairs) (Heard.Akin pairs) (l.hear line) (l'.hear line') := by
  cases hline with
  | same htrim => exact hear_of_same hl htrim
  | @echo c c' hpair =>
    exact hear_of_echoes hl ⟨c, c', hpair, .inl rfl⟩ ⟨c, c', hpair, .inr rfl⟩

end Listening

/-- Listening ends alike in two runs. -/
inductive Listened.Akin (pairs : Command → Command → Prop) : Listened → Listened → Prop
  | answer (a : Answer) : Akin pairs (.answer a) (.answer a)
  | expired : Akin pairs .expired .expired
  | halted {l l' : Listening} (h : l.Akin pairs l') : Akin pairs (.halted l) (.halted l')

namespace Intake.Akin

variable {i i' : Intake} {deadline : Nat} {horizon : Horizon}

theorem elapse (h : i.Akin pairs i') (now : Nat) : (i.elapse now).Akin pairs (i'.elapse now) where
  clock_eq := by
    change max i.clock now = max i'.clock now
    rw [h.clock_eq]
  unread := h.unread.elapse (Nat.le_max_left ..)

/-- Input that is akin is read alike. -/
theorem nextLine (h : i.Akin pairs i') {admits : Nat → Bool}
    (hdown : ∀ t u, t ≤ u → admits u = true → admits t = true) :
    Reading.Akin pairs (i.nextLine admits).2 (i'.nextLine admits).2 ∧
      Intake.Akin pairs (i.nextLine admits).1 (i'.nextLine admits).1 := by
  rw [Intake.nextLine, Intake.nextLine, ← h.clock_eq]
  exact h.unread.readLine hdown

/-- Ports that listen in two runs to input that is akin. -/
theorem listen (h : i.Akin pairs i') {l l' : Listening} (hl : l.Akin pairs l') :
    Logged.Agree (Event.Betrays pairs)
      (fun x y => Intake.Akin pairs x.1 y.1 ∧ Listened.Akin pairs x.2 y.2)
      (i.listen deadline horizon l) (i'.listen deadline horizon l') := by
  induction hn : i.size using Nat.strongRecOn generalizing i i' l l' with
  | _ n ih =>
    rw [listen_eq, listen_eq]
    have hdown : ∀ t u, t ≤ u → listens deadline horizon u = true →
        listens deadline horizon t = true := listens_of_le
    obtain ⟨hread, hafter⟩ := h.nextLine hdown
    generalize hi : i.nextLine (listens deadline horizon) = read at hread hafter ⊢
    generalize i'.nextLine (listens deadline horizon) = read' at hread hafter ⊢
    obtain ⟨after, r⟩ := read
    obtain ⟨after', r'⟩ := read'
    cases hread with
    | line hline =>
      refine (hl.hear hline).bind fun heard heard' hheard => ?_
      cases hheard with
      | more hl => exact ih after.size (hn ▸ size_nextLine_lt hi) hafter hl rfl
      | answer a => exact .pure ⟨hafter, .answer a⟩
    | ended => exact .pure ⟨hafter, .answer _⟩
    | broken reason => exact .pure ⟨hafter, .answer _⟩
    | silent =>
      dsimp only
      split
      · exact .pure ⟨hafter.elapse deadline, .expired⟩
      · exact .pure ⟨hafter, .halted hl⟩

/-- Ports that drain in two runs what is left over. -/
theorem drain (h : i.Akin pairs i') {quietAt : Nat} :
    Logged.Agree (Event.Betrays pairs) (fun x y => Intake.Akin pairs x.1 y.1 ∧ x.2 = y.2)
      (i.drain deadline horizon quietAt) (i'.drain deadline horizon quietAt) := by
  induction hn : i.size using Nat.strongRecOn generalizing i i' quietAt with
  | _ n ih =>
    rw [drain_eq, drain_eq]
    have hdown : ∀ t u, t ≤ u → drains quietAt deadline horizon u = true →
        drains quietAt deadline horizon t = true := drains_of_le
    obtain ⟨hread, hafter⟩ := h.nextLine hdown
    generalize hi : i.nextLine (drains quietAt deadline horizon) = read at hread hafter ⊢
    generalize i'.nextLine (drains quietAt deadline horizon) = read' at hread hafter ⊢
    obtain ⟨after, r⟩ := read
    obtain ⟨after', r'⟩ := read'
    cases hread with
    | line hline =>
      cases hline with
      | same =>
        refine .note _ ?_
        split
        · exact .pure ⟨hafter, rfl⟩
        · rw [← hafter.clock_eq]
          exact ih after.size (hn ▸ size_nextLine_lt hi) hafter rfl
      | @echo c c' hpair => exact .of_betrays (.stale ⟨c, c', hpair, .inl rfl⟩) _ _
    | ended => exact .pure ⟨hafter, rfl⟩
    | broken reason => exact .pure ⟨hafter, rfl⟩
    | silent =>
      dsimp only
      split
      · split
        · exact .pure ⟨hafter.elapse quietAt, rfl⟩
        · exact .pure ⟨hafter, rfl⟩
      · split
        · exact .pure ⟨hafter.elapse deadline, rfl⟩
        · exact .pure ⟨hafter, rfl⟩

end Intake.Akin

end ModemLink
