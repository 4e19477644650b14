import ModemLink.Proofs.Port.Halting

/-!
# The lines of an intake

Where all that comes in are bytes, and the last of them ends a line, an intake holds lines: texts
with the instants from which they can be read. A read gives the first line if its instant is
admitted, and otherwise changes nothing that is left to read; so what a port does with an intake
depends on its lines alone, and neither on how they were cut into pieces nor on the reads that
were given up on the way.

## Main definitions

* `DueLine`, `Intake.Holds`: the lines that an intake holds.
* `Encodes`: pieces that together are lines, each with the byte that ends it.
* `Chunk.lines`: the lines that pieces bring.

## Main results

* `Intake.Holds.nextLine_of_admits`, `Intake.Holds.nextLine_of_not_admits`: what a read gives.
* `Intake.Holds.elapse`, `Intake.Holds.enqueue`: how time and new input change the lines.
* `Encodes.holdsFrom`: pieces bring nothing but lines, whichever way they were cut.
-/

namespace ModemLink

/-- A complete line, and the instant from which it can be read. -/
structure DueLine where
  due : Nat
  text : List Char
  deriving DecidableEq, Repr

/-- The line where the present instant is a later one. -/
def DueLine.raise (now : Nat) (line : DueLine) : DueLine :=
  { line with due := max line.due now }

/-- Lines that are due later than an instant do not change when it comes. -/
theorem DueLine.map_raise {now : Nat} {lines : List DueLine} (h : ∀ l ∈ lines, now ≤ l.due) :
    lines.map (DueLine.raise now) = lines := by
  rw [List.map_congr_left (g := id), List.map_id]
  intro l hl
  rw [DueLine.raise, Nat.max_eq_left (h l hl)]
  rfl

/-- Of two instants that come, the later one counts. -/
theorem DueLine.map_raise_raise {now later : Nat} (h : now ≤ later) (lines : List DueLine) :
    (lines.map (DueLine.raise now)).map (DueLine.raise later) =
      lines.map (DueLine.raise later) := by
  rw [List.map_map]
  refine List.map_congr_left fun line _ => ?_
  have hmax : max (max line.due now) later = max line.due later := by omega
  simp only [Function.comp, DueLine.raise, hmax]

namespace Intake

/-- From an instant on, and after the bytes of an unfinished line, what comes in are these lines
and nothing else. -/
inductive HoldsFrom : Nat → List UInt8 → List Arrival → List DueLine → Prop
  | nil (clock : Nat) : HoldsFrom clock [] [] []
  | feed {clock due : Nat} {fragment : List UInt8} {arrivals : List Arrival}
    {lines : List DueLine} (rest : HoldsFrom (max due clock) [] arrivals lines) :
    HoldsFrom clock fragment (⟨due, .byte lineFeed⟩ :: arrivals)
      (⟨max due clock, lineOf fragment⟩ :: lines)
  | byte {clock due : Nat} {fragment : List UInt8} {b : UInt8} {arrivals : List Arrival}
    {lines : List DueLine} (hb : b ≠ lineFeed)
    (rest : HoldsFrom (max due clock) (fragment ++ [b]) arrivals lines) :
    HoldsFrom clock fragment (⟨due, .byte b⟩ :: arrivals) lines

/-- What is left to read are these lines. -/
def Holds (i : Intake) (lines : List DueLine) : Prop :=
  HoldsFrom i.clock i.fragment i.arrivals lines

/-- The lines that come in from an instant on, and after the bytes of an unfinished line. -/
def linesFrom (clock : Nat) (fragment : List UInt8) : List Arrival → List DueLine
  | [] => []
  | a :: rest =>
    let now := max a.due clock
    match a.input with
    | .byte b =>
      if b = lineFeed then ⟨now, lineOf fragment⟩ :: linesFrom now [] rest
      else linesFrom now (fragment ++ [b]) rest
    | _ => linesFrom now fragment rest

namespace HoldsFrom

variable {clock : Nat} {fragment : List UInt8} {arrivals : List Arrival} {lines : List DueLine}

/-- There is only one way to read input as lines. -/
theorem linesFrom_eq (h : HoldsFrom clock fragment arrivals lines) :
    linesFrom clock fragment arrivals = lines := by
  induction h with
  | nil clock => rfl
  | feed rest ih => simp [linesFrom, ih]
  | byte hb rest ih => simp [linesFrom, hb, ih]

/-- No line can be read before the present instant. -/
theorem le_due (h : HoldsFrom clock fragment arrivals lines) : ∀ l ∈ lines, clock ≤ l.due := by
  induction h with
  | nil clock => simp
  | @feed clock due fragment arrivals lines rest ih =>
    intro l hl
    rcases List.mem_cons.mp hl with rfl | hl
    · exact Nat.le_max_right ..
    · exact Nat.le_trans (Nat.le_max_right ..) (ih l hl)
  | @byte clock due fragment b arrivals lines hb rest ih =>
    exact fun l hl => Nat.le_trans (Nat.le_max_right ..) (ih l hl)

/-- Lines can be read in their order. -/
theorem pairwise (h : HoldsFrom clock fragment arrivals lines) :
    lines.Pairwise fun l l' => l.due ≤ l'.due := by
  induction h with
  | nil clock => exact .nil
  | feed rest ih => exact List.pairwise_cons.mpr ⟨fun l hl => rest.le_due l hl, ih⟩
  | byte hb rest ih => exact ih

/-- Where no lines are left, nothing is. -/
theorem eq_nil (h : HoldsFrom clock fragment arrivals []) : fragment = [] ∧ arrivals = [] := by
  generalize hlines : ([] : List DueLine) = lines at h
  induction h with
  | nil clock => exact ⟨rfl, rfl⟩
  | feed rest ih => cases hlines
  | byte hb rest ih => simpa using (ih hlines).1

/-- Input can be read when it is due, and not before the present instant. -/
theorem raise (h : HoldsFrom clock fragment arrivals lines) (now : Nat) :
    HoldsFrom (max clock now) fragment arrivals (lines.map (DueLine.raise now)) := by
  induction h with
  | nil clock => exact .nil _
  | @feed clock due fragment arrivals lines rest ih =>
    rw [Nat.max_assoc] at ih
    have h := @HoldsFrom.feed (max clock now) due fragment _ _ ih
    rwa [← Nat.max_assoc] at h
  | @byte clock due fragment b arrivals lines hb rest ih =>
    rw [Nat.max_assoc] at ih
    exact .byte hb ih

/-- Only the instants of the input count, if it comes later than the present. -/
theorem restart (h : HoldsFrom clock fragment arrivals lines)
    (hclock : ∀ a ∈ arrivals, clock ≤ a.due) {now : Nat}
    (hnow : ∀ a ∈ arrivals, now ≤ a.due) : HoldsFrom now fragment arrivals lines := by
  cases h with
  | nil => exact .nil now
  | @feed _ due _ arrivals lines rest =>
    have h₁ : clock ≤ due := hclock _ (List.mem_cons_self ..)
    have h₂ : now ≤ due := hnow _ (List.mem_cons_self ..)
    have h := @HoldsFrom.feed now due fragment arrivals lines
    rw [Nat.max_eq_left h₁] at rest ⊢
    rw [Nat.max_eq_left h₂] at h
    exact h rest
  | @byte _ due _ b arrivals lines hb rest =>
    have h₁ : clock ≤ due := hclock _ (List.mem_cons_self ..)
    have h₂ : now ≤ due := hnow _ (List.mem_cons_self ..)
    rw [Nat.max_eq_left h₁] at rest
    rw [← Nat.max_eq_left h₂] at rest
    exact .byte hb rest

/-- The instant at which the last line can be read. -/
def last (clock : Nat) (lines : List DueLine) : Nat :=
  (lines.getLast?.map DueLine.due).getD clock

theorem last_cons (clock : Nat) (l : DueLine) (lines : List DueLine) :
    last clock (l :: lines) = last l.due lines := by
  cases lines with
  | nil => rfl
  | cons l' lines => simp [last, List.getLast?_cons]

theorem last_eq_of_ne_nil (hlines : lines ≠ []) (clock clock' : Nat) :
    last clock lines = last clock' lines := by
  rw [last, last, List.getLast?_eq_some_getLast hlines]
  rfl

theorem last_le {n : Nat} (hclock : clock ≤ n) (hlines : ∀ l ∈ lines, l.due ≤ n) :
    last clock lines ≤ n := by
  cases h : lines.getLast? with
  | none => simpa [last, h] using hclock
  | some l => simpa [last, h] using hlines l (List.mem_of_getLast? h)

theorem le_last {n : Nat} (hclock : n ≤ clock) (hlines : ∀ l ∈ lines, n ≤ l.due) :
    n ≤ last clock lines := by
  cases h : lines.getLast? with
  | none => simpa [last, h] using hclock
  | some l => simpa [last, h] using hlines l (List.mem_of_getLast? h)

/-- Lines that come in after others come after them. -/
theorem append (h : HoldsFrom clock fragment arrivals lines) {arrivals' : List Arrival}
    {lines' : List DueLine} (h' : HoldsFrom (last clock lines) [] arrivals' lines') :
    HoldsFrom clock fragment (arrivals ++ arrivals') (lines ++ lines') := by
  induction h with
  | nil clock => exact h'
  | @feed clock due fragment arrivals lines rest ih =>
    rw [last_cons] at h'
    exact .feed (ih h')
  | @byte clock due fragment b arrivals lines hb rest ih =>
    have hlines : lines ≠ [] := by
      rintro rfl
      simpa using rest.eq_nil.1
    rw [last_eq_of_ne_nil hlines clock (max due clock)] at h'
    exact .byte hb (ih h')

/-! ### Reading -/

variable {admits : Nat → Bool}

/-- The first line is read if its instant is admitted. -/
theorem readLine_of_admits (hdown : ∀ t u, t ≤ u → admits u = true → admits t = true)
    {l : DueLine} (h : HoldsFrom clock fragment arrivals (l :: lines))
    (hadmits : admits l.due = true) :
    ∃ after : Intake, readLine admits clock fragment arrivals = (after, .line l.text) ∧
      after.clock = l.due ∧ after.Holds lines := by
  generalize hall : l :: lines = all at h
  induction h with
  | nil clock => cases hall
  | @feed clock due fragment arrivals lines' rest ih =>
    obtain ⟨rfl, rfl⟩ := List.cons.inj hall
    refine ⟨⟨max due clock, [], arrivals⟩, ?_, rfl, rest⟩
    rw [readLine]
    simp [hadmits]
  | @byte clock due fragment b arrivals all hb rest ih =>
    subst hall
    have hnow : admits (max due clock) = true :=
      hdown _ _ (rest.le_due l (List.mem_cons_self ..)) hadmits
    obtain ⟨after, hread, hafter⟩ := ih rfl
    refine ⟨after, ?_, hafter⟩
    rw [readLine]
    simpa [hnow, hb] using hread

/-- Otherwise nothing is lost of what is left to read. -/
theorem readLine_of_not_admits (h : HoldsFrom clock fragment arrivals lines)
    (hadmits : ∀ l ∈ lines.head?, admits l.due = false) :
    ∃ after : Intake, readLine admits clock fragment arrivals = (after, .silent) ∧
      clock ≤ after.clock ∧ (after.clock = clock ∨ admits after.clock = true) ∧
        after.Holds lines := by
  induction h with
  | nil clock => exact ⟨⟨clock, [], []⟩, rfl, Nat.le_refl _, .inl rfl, .nil clock⟩
  | @feed clock due fragment arrivals lines rest ih =>
    have hnow : admits (max due clock) = false := hadmits _ rfl
    refine ⟨⟨clock, fragment, ⟨due, .byte lineFeed⟩ :: arrivals⟩, ?_, Nat.le_refl _, .inl rfl,
      .feed rest⟩
    rw [readLine]
    simp [hnow]
  | @byte clock due fragment b arrivals lines hb rest ih =>
    cases hnow : admits (max due clock) with
    | true =>
      obtain ⟨after, hread, hclock, hafter, hholds⟩ := ih hadmits
      refine ⟨after, ?_, Nat.le_trans (Nat.le_max_right ..) hclock, ?_, hholds⟩
      · rw [readLine]
        simpa [hnow, hb] using hread
      · rcases hafter with hafter | hafter
        · exact .inr (hafter ▸ hnow)
        · exact .inr hafter
    | false =>
      refine ⟨⟨clock, fragment, ⟨due, .byte b⟩ :: arrivals⟩, ?_, Nat.le_refl _, .inl rfl,
        .byte hb rest⟩
      rw [readLine]
      simp [hnow]

/-! ### Lines as bytes -/

/-- No line can be read later than what comes in last. -/
theorem due_le (h : HoldsFrom clock fragment arrivals lines) {n : Nat} (hclock : clock ≤ n)
    (harrivals : ∀ a ∈ arrivals, a.due ≤ n) : ∀ l ∈ lines, l.due ≤ n := by
  induction h with
  | nil clock => simp
  | @feed clock due fragment arrivals lines rest ih =>
    obtain ⟨hdue, harrivals⟩ := List.forall_mem_cons.mp harrivals
    have hnow : max due clock ≤ n := Nat.max_le.mpr ⟨hdue, hclock⟩
    exact List.forall_mem_cons.mpr ⟨hnow, ih hnow harrivals⟩
  | @byte clock due fragment b arrivals lines hb rest ih =>
    obtain ⟨hdue, harrivals⟩ := List.forall_mem_cons.mp harrivals
    exact ih (Nat.max_le.mpr ⟨hdue, hclock⟩) harrivals

/-- Something comes in no later than a line can be read. -/
theorem exists_le_due (h : HoldsFrom clock fragment arrivals lines) :
    ∀ l ∈ lines, ∃ a ∈ arrivals, a.due ≤ l.due := by
  induction h with
  | nil clock => simp
  | @feed clock due fragment arrivals lines rest ih =>
    intro l hl
    rcases List.mem_cons.mp hl with rfl | hl
    · exact ⟨_, List.mem_cons_self .., Nat.le_max_left ..⟩
    · obtain ⟨a, ha, hdue⟩ := ih l hl
      exact ⟨a, List.mem_cons_of_mem _ ha, hdue⟩
  | byte hb rest ih =>
    intro l hl
    obtain ⟨a, ha, hdue⟩ := ih l hl
    exact ⟨a, List.mem_cons_of_mem _ ha, hdue⟩

/-- Nothing comes in later than the last line can be read. -/
theorem due_le_last (h : HoldsFrom clock fragment arrivals lines) :
    ∀ a ∈ arrivals, a.due ≤ last clock lines := by
  induction h with
  | nil clock => simp
  | @feed clock due fragment arrivals lines rest ih =>
    rw [last_cons]
    have hdue : due ≤ max due clock := Nat.le_max_left ..
    exact List.forall_mem_cons.mpr ⟨Nat.le_trans hdue (le_last (Nat.le_refl _) rest.le_due), ih⟩
  | @byte clock due fragment b arrivals lines hb rest ih =>
    have hlines : lines ≠ [] := by
      rintro rfl
      simpa using rest.eq_nil.1
    rw [last_eq_of_ne_nil hlines clock (max due clock)]
    have hdue : due ≤ max due clock := Nat.le_max_left ..
    exact List.forall_mem_cons.mpr ⟨Nat.le_trans hdue (le_last (Nat.le_refl _) rest.le_due), ih⟩

/-- The bytes of a line, and the one that ends it, come in before other lines. -/
theorem exists_of_line {line : List UInt8} (hline : lineFeed ∉ line) {arrivals : List Arrival}
    (harrivals : arrivals.map Arrival.input = line.map .byte) (clock due : Nat)
    (fragment : List UInt8) (rest : List Arrival) :
    ∃ now, ∀ lines, HoldsFrom now [] rest lines →
      HoldsFrom clock fragment (arrivals ++ ⟨due, .byte lineFeed⟩ :: rest)
        (⟨now, lineOf (fragment ++ line)⟩ :: lines) := by
  induction line generalizing arrivals clock fragment with
  | nil =>
    obtain rfl := List.map_eq_nil_iff.mp harrivals
    refine ⟨max due clock, fun lines h => ?_⟩
    rw [List.append_nil]
    exact .feed h
  | cons b line ih =>
    obtain ⟨⟨due', input⟩, arrivals, rfl, rfl, htail⟩ := List.map_eq_cons_iff.mp harrivals
    rw [List.mem_cons, not_or] at hline
    obtain ⟨now, hnow⟩ := ih hline.2 htail (max due' clock) (fragment ++ [b])
    refine ⟨now, fun lines h => ?_⟩
    have h := hnow lines h
    rw [List.append_assoc] at h
    exact .byte (fun heq => hline.1 heq.symm) h

/-- Bytes that are lines come in as these lines. -/
theorem exists_of_bytes {raw : List (List UInt8)} (hraw : ∀ line ∈ raw, lineFeed ∉ line)
    {arrivals : List Arrival}
    (harrivals : arrivals.map Arrival.input = (raw.flatMap (· ++ [lineFeed])).map .byte)
    (clock : Nat) :
    ∃ lines, HoldsFrom clock [] arrivals lines ∧ lines.map DueLine.text = raw.map lineOf := by
  induction raw generalizing arrivals clock with
  | nil =>
    obtain rfl := List.map_eq_nil_iff.mp harrivals
    exact ⟨[], .nil clock, rfl⟩
  | cons line raw ih =>
    rw [List.flatMap_cons, List.map_append, List.map_append] at harrivals
    obtain ⟨first, rest, rfl, hfirst, hrest⟩ := List.map_eq_append_iff.mp harrivals
    obtain ⟨line', feed, rfl, hline', hfeed⟩ := List.map_eq_append_iff.mp hfirst
    obtain ⟨⟨due, input⟩, feed, rfl, rfl, hnil⟩ := List.map_eq_cons_iff.mp hfeed
    obtain rfl := List.map_eq_nil_iff.mp hnil
    obtain ⟨hline, hraw⟩ := List.forall_mem_cons.mp hraw
    obtain ⟨now, hnow⟩ := exists_of_line hline hline' clock due [] rest
    obtain ⟨lines, hlines, htexts⟩ := ih hraw hrest now
    refine ⟨⟨now, lineOf line⟩ :: lines, ?_, ?_⟩
    · rw [List.append_assoc]
      exact hnow lines hlines
    · rw [List.map_cons, List.map_cons, htexts]

end HoldsFrom

namespace Holds

variable {i : Intake} {lines : List DueLine}

/-- Time that passes raises the lines. -/
theorem raise (h : i.Holds lines) (now : Nat) :
    (i.elapse now).Holds (lines.map (DueLine.raise now)) :=
  HoldsFrom.raise h now

/-- Lines that are due later than an instant are left as they are when it comes. -/
theorem elapse (h : i.Holds lines) {now : Nat} (hnow : ∀ l ∈ lines, now ≤ l.due) :
    (i.elapse now).Holds lines := by
  have hraise := h.raise now
  rwa [DueLine.map_raise hnow] at hraise

/-- Input that comes later than all lines comes after them. -/
theorem enqueue (h : i.Holds lines) {arrivals : List Arrival} {clock : Nat}
    {lines' : List DueLine} (h' : HoldsFrom clock [] arrivals lines')
    (hclock : ∀ a ∈ arrivals, clock ≤ a.due)
    (hlast : ∀ a ∈ arrivals, HoldsFrom.last i.clock lines ≤ a.due) :
    (i.enqueue arrivals).Holds (lines ++ lines') := by
  have hmerge : (i.arrivals.merge arrivals fun a b => a.due ≤ b.due) = i.arrivals ++ arrivals := by
    refine List.merge_of_le fun a b ha hb => ?_
    have := HoldsFrom.due_le_last h a ha
    have := hlast b hb
    simp only [decide_eq_true_eq]
    omega
  rw [Holds, Intake.enqueue, hmerge]
  exact HoldsFrom.append h (h'.restart hclock hlast)

end Holds

end Intake

/-! ### What pieces bring -/

/-- The pieces together are lines, each with the byte that ends it. -/
def Encodes (chunks : List Chunk) (raw : List (List UInt8)) : Prop :=
  ∃ pieces : List (List UInt8), chunks.map Chunk.content = pieces.map Content.bytes ∧
    pieces.flatten = raw.flatMap (· ++ [lineFeed]) ∧ ∀ line ∈ raw, lineFeed ∉ line

namespace Chunk

/-- How long after the first instant the last piece is sent. -/
def span : List Chunk → Nat
  | [] => 0
  | c :: chunks => c.after + span chunks

/-- What pieces bring comes in while they are sent. -/
theorem due_arrivals (start : Nat) (chunks : List Chunk) :
    ∀ a ∈ arrivals start chunks, start ≤ a.due ∧ a.due ≤ start + span chunks := by
  induction chunks generalizing start with
  | nil => simp [arrivals]
  | cons c chunks ih =>
    intro a ha
    have hspan : span (c :: chunks) = c.after + span chunks := rfl
    rw [hspan]
    rcases List.mem_append.mp ha with ha | ha
    · have hdue : a.due = start + c.after := by
        cases hc : c.content with
        | bytes pieces =>
          rw [hc] at ha
          obtain ⟨b, -, rfl⟩ := List.mem_map.mp ha
          rfl
        | closed | broken reason =>
          rw [hc] at ha
          obtain rfl := List.mem_singleton.mp ha
          rfl
      omega
    · have := ih (start + c.after) a ha
      omega

theorem map_input_arrivals {chunks : List Chunk} {pieces : List (List UInt8)}
    (h : chunks.map Chunk.content = pieces.map Content.bytes) (start : Nat) :
    (arrivals start chunks).map Arrival.input = pieces.flatten.map .byte := by
  induction chunks generalizing pieces start with
  | nil =>
    obtain rfl := List.map_eq_nil_iff.mp h.symm
    rfl
  | cons c chunks ih =>
    obtain ⟨piece, pieces, rfl, hc, htail⟩ := List.map_eq_cons_iff.mp h.symm
    rw [arrivals, ← hc, List.map_append, ih htail.symm, List.flatten_cons, List.map_append,
      Content.arrivals, List.map_map]
    rfl

/-- The lines that pieces bring when the first is counted from `start`. -/
def lines (start : Nat) (chunks : List Chunk) : List DueLine :=
  Intake.linesFrom start [] (arrivals start chunks)

end Chunk

namespace Encodes

variable {chunks : List Chunk} {raw : List (List UInt8)}

private theorem exists_holdsFrom (h : Encodes chunks raw) (start : Nat) :
    ∃ lines, Intake.HoldsFrom start [] (Chunk.arrivals start chunks) lines ∧
      lines.map DueLine.text = raw.map lineOf := by
  obtain ⟨pieces, hpieces, hflatten, hraw⟩ := h
  have hinput := Chunk.map_input_arrivals hpieces start
  rw [hflatten] at hinput
  exact Intake.HoldsFrom.exists_of_bytes hraw hinput start

/-- Pieces bring nothing but lines, whichever way they were cut. -/
theorem holdsFrom (h : Encodes chunks raw) (start : Nat) :
    Intake.HoldsFrom start [] (Chunk.arrivals start chunks) (Chunk.lines start chunks) := by
  obtain ⟨lines, hlines, -⟩ := h.exists_holdsFrom start
  rwa [Chunk.lines, hlines.linesFrom_eq]

/-- The lines that pieces bring are those that were cut into them. -/
theorem map_text_lines (h : Encodes chunks raw) (start : Nat) :
    (Chunk.lines start chunks).map DueLine.text = raw.map lineOf := by
  obtain ⟨lines, hlines, htexts⟩ := h.exists_holdsFrom start
  rwa [Chunk.lines, hlines.linesFrom_eq]

/-- Where nothing is left to read, only the lines that pieces bring are. -/
theorem holds_enqueue (h : Encodes chunks raw) {i : Intake} (hempty : i.Holds []) :
    (i.enqueue (Chunk.arrivals i.clock chunks)).Holds (Chunk.lines i.clock chunks) :=
  hempty.enqueue (h.holdsFrom i.clock) (fun a ha => (Chunk.due_arrivals _ _ a ha).1)
    fun a ha => (Chunk.due_arrivals _ _ a ha).1

/-- The lines that pieces bring can be read when the last piece is sent. -/
theorem due_le_span (h : Encodes chunks raw) (start : Nat) :
    ∀ l ∈ Chunk.lines start chunks, l.due ≤ start + Chunk.span chunks :=
  (h.holdsFrom start).due_le (by omega) fun a ha => (Chunk.due_arrivals start chunks a ha).2

end Encodes

end ModemLink
