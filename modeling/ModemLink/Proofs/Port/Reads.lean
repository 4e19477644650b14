import ModemLink.Port.Intake

/-!
# Lines however they are read

A read may be given up while it waits, or fail, in the middle of a line and between any two
pieces of the input. What it had taken by then is kept, so the lines that come of many reads are
those of the stream: its bytes, cut at each line feed, whatever the pieces were in which they came
in, and whichever reads were given up.

What reads give if none is given up is read off the input in advance, as its prospect. A read that
is given up leaves the prospect alone, and any other read takes its head off, except that the end
of the stream stays.

Source: the specification, section 10.2.

## Main definitions

* `Input.cut`: the lines of a stream.
* `Input.prospect`, `Intake.prospect`: what reads give if none is given up.
* `Intake.readAll`: several reads, each with the instants at which it still waits.
* `Intake.Faithful`: readings that give the lines of a stream.

## Main results

* `Intake.follows_readLine`: what one read does to the prospect.
* `Input.lines_prospect`: the lines of a prospect are those of the stream.
* `Intake.faithful_readAll`: whatever reads are made, they give the lines of the stream.
-/

namespace ModemLink

/-! ### Streams and their lines -/

namespace Reading

/-- The line that a read completed. -/
def line? : Reading → Option (List Char)
  | line text => some text
  | _ => none

/-- The reason for which a read failed. -/
def failure? : Reading → Option String
  | broken reason => some reason
  | _ => none

end Reading

/-- The lines among readings. -/
def linesIn (readings : List Reading) : List (List Char) :=
  readings.filterMap Reading.line?

/-- The failures among readings. -/
def failuresIn (readings : List Reading) : List String :=
  readings.filterMap Reading.failure?

namespace Input

/-- The bytes of a stream, up to its end. A read that fails takes none of them away. -/
def bytes : List Input → List UInt8
  | [] => []
  | .byte b :: rest => b :: bytes rest
  | .closed :: _ => []
  | .broken _ :: rest => bytes rest

/-- The failures of reads that a stream has in it, up to its end. -/
def failures : List Input → List String
  | [] => []
  | .byte _ :: rest => failures rest
  | .closed :: _ => []
  | .broken reason :: rest => reason :: failures rest

/-- The lines of a stream: its bytes, cut at each line feed. What follows the last line feed is a
line of its own only if the stream ends there, and if there is something of it. -/
def cut (stream : List Input) : List (List Char) :=
  let pieces := (bytes stream).splitOn lineFeed
  let rest := if .closed ∈ stream then pieces.getLast?.toList.filter (!·.isEmpty) else []
  (pieces.dropLast ++ rest).map lineOf

/-- What reads give of input if none of them is given up, when some bytes of a line have been
read. After its end a stream gives nothing else. -/
def prospect (fragment : List UInt8) : List Input → List Reading
  | [] => []
  | .byte b :: rest =>
    if b = lineFeed then .line (lineOf fragment) :: prospect [] rest
    else prospect (fragment ++ [b]) rest
  | .closed :: _ =>
    if fragment.isEmpty then [.ended] else [.line (lineOf fragment), .ended]
  | .broken reason :: rest => .broken reason :: prospect fragment rest

variable {fragment : List UInt8} {stream : List Input}

@[simp] theorem bytes_append_map (fragment : List UInt8) (stream : List Input) :
    bytes (fragment.map .byte ++ stream) = fragment ++ bytes stream := by
  induction fragment with
  | nil => rfl
  | cons b fragment ih => simpa [bytes] using ih

@[simp] theorem failures_append_map (fragment : List UInt8) (stream : List Input) :
    failures (fragment.map .byte ++ stream) = failures stream := by
  induction fragment with
  | nil => rfl
  | cons b fragment ih => simpa [failures] using ih

@[simp] theorem closed_mem_append_map :
    .closed ∈ fragment.map .byte ++ stream ↔ .closed ∈ stream := by
  simp

/-- A line feed ends the first line, and the others are those of what follows. -/
theorem cut_of_lineFeed (h : lineFeed ∉ fragment) (stream : List Input) :
    cut (fragment.map .byte ++ .byte lineFeed :: stream) = lineOf fragment :: cut stream := by
  have hsplit : (fragment ++ lineFeed :: bytes stream).splitOn lineFeed
      = fragment :: (bytes stream).splitOn lineFeed := by
    rw [List.splitOn_eq_splitOnP, List.splitOn_eq_splitOnP]
    refine List.splitOnP_append_cons_of_forall_mem ?_ lineFeed (by simp) _
    intro b hb
    simpa using ne_of_mem_of_not_mem hb h
  have hne : (bytes stream).splitOn lineFeed ≠ [] := by simp
  simp only [cut, bytes_append_map, bytes, hsplit, closed_mem_append_map, List.mem_cons,
    reduceCtorEq, false_or, List.dropLast_cons_of_ne_nil hne, List.cons_append, List.map_cons,
    List.getLast?_cons_of_ne_nil hne]

/-- Bytes without a line feed are no line as long as more may come. -/
theorem cut_of_open (h : lineFeed ∉ fragment) : cut (fragment.map .byte) = [] := by
  have hbytes : bytes (fragment.map .byte) = fragment := by
    simpa [bytes] using bytes_append_map fragment []
  simp [cut, hbytes, List.splitOn_eq_singleton h]

/-- At the end of the stream, bytes without a line feed are a line unless there are none. -/
theorem cut_of_closed (h : lineFeed ∉ fragment) (stream : List Input) :
    cut (fragment.map .byte ++ .closed :: stream)
      = if fragment.isEmpty then [] else [lineOf fragment] := by
  have hmem : .closed ∈ fragment.map .byte ++ .closed :: stream := by simp
  rw [cut, bytes_append_map, bytes, List.append_nil, List.splitOn_eq_singleton h, if_pos hmem]
  cases fragment <;> simp

theorem cut_of_broken (fragment : List UInt8) (reason : String) (stream : List Input) :
    cut (fragment.map .byte ++ .broken reason :: stream) = cut (fragment.map .byte ++ stream) := by
  simp [cut, bytes]

/-- The lines of a prospect are those of the stream. -/
theorem lines_prospect (h : lineFeed ∉ fragment) (stream : List Input) :
    linesIn (prospect fragment stream) = cut (fragment.map .byte ++ stream) := by
  induction stream generalizing fragment with
  | nil => rw [List.append_nil, cut_of_open h]; rfl
  | cons input stream ih =>
    cases input with
    | byte b =>
      rw [prospect]
      split
      · next hb =>
        subst hb
        rw [cut_of_lineFeed h]
        exact congrArg _ (ih (by simp))
      · next hb =>
        rw [ih (by simp [h, Ne.symm hb])]
        simp
    | closed =>
      rw [cut_of_closed h, prospect]
      split <;> rfl
    | broken reason =>
      rw [cut_of_broken, ← ih h]
      rfl

/-- The failures of a prospect are those of the stream. -/
theorem failures_prospect (fragment : List UInt8) (stream : List Input) :
    failuresIn (prospect fragment stream) = failures stream := by
  induction stream generalizing fragment with
  | nil => rfl
  | cons input stream ih =>
    cases input with
    | byte b =>
      rw [prospect]
      split
      · exact ih []
      · exact ih (fragment ++ [b])
    | closed =>
      rw [prospect]
      split <;> rfl
    | broken reason => exact congrArg (reason :: ·) (ih fragment)

theorem silent_not_mem_prospect : .silent ∉ prospect fragment stream := by
  induction stream generalizing fragment with
  | nil => simp [prospect]
  | cons input stream ih =>
    cases input with
    | byte b =>
      rw [prospect]
      split <;> simp [ih]
    | closed =>
      rw [prospect]
      split <;> simp
    | broken reason => simp [prospect, ih]

/-- The end is to be read of a stream if it ends. -/
theorem ended_mem_prospect : .ended ∈ prospect fragment stream ↔ .closed ∈ stream := by
  induction stream generalizing fragment with
  | nil => simp [prospect]
  | cons input stream ih =>
    cases input with
    | byte b =>
      rw [prospect]
      split <;> simp [ih]
    | closed =>
      rw [prospect]
      split <;> simp
    | broken reason => simp [prospect, ih]

end Input

/-! ### One read -/

/-- What a reading leaves of a prospect. -/
inductive Follows : List Reading → Reading → List Reading → Prop
  /-- A read that is given up takes nothing. -/
  | silent {prospect : List Reading} : Follows prospect .silent prospect
  /-- The end stays. -/
  | ended : Follows [.ended] .ended [.ended]
  | line {text : List Char} {rest : List Reading} : Follows (.line text :: rest) (.line text) rest
  | broken {reason : String} {rest : List Reading} :
    Follows (.broken reason :: rest) (.broken reason) rest

namespace Follows

variable {before after : List Reading} {r : Reading}

/-- Nothing is lost by a read, nothing comes twice, and all keeps its order. -/
theorem filterMap_eq {α : Type} {f : Reading → Option α} (hended : f .ended = none)
    (hsilent : f .silent = none) (h : Follows before r after) :
    [r].filterMap f ++ after.filterMap f = before.filterMap f := by
  cases h with
  | silent => simp [hsilent]
  | ended => simp [hended]
  | line => exact List.filterMap_append.symm
  | broken => exact List.filterMap_append.symm

theorem ended_mem (h : Follows before r after) : .ended ∈ after ↔ .ended ∈ before := by
  cases h <;> simp

/-- The end is read when nothing else is left. -/
theorem eq_of_ended (h : Follows before .ended after) : after = [.ended] := by
  cases h
  rfl

/-- After the end nothing else is read. -/
theorem of_ended (h : Follows [.ended] r after) :
    (r = .ended ∨ r = .silent) ∧ after = [.ended] := by
  cases h <;> simp

end Follows

/-- One read: when it begins, and the instants at which it still waits. -/
structure Attempt where
  now : Nat
  admits : Nat → Bool

/-- A read that is not given up. -/
def Attempt.patient (now : Nat) : Attempt :=
  ⟨now, fun _ => true⟩

namespace Intake

/-- What has not come out of the intake as part of a line. -/
def unread (i : Intake) : List Input :=
  i.fragment.map .byte ++ i.arrivals.map (·.input)

/-- What reads give of the intake if none of them is given up. -/
def prospect (i : Intake) : List Reading :=
  Input.prospect i.fragment (i.arrivals.map (·.input))

/-- The intake after a read, and what the read gave. -/
def read (i : Intake) (r : Attempt) : Intake × Reading :=
  (i.elapse r.now).nextLine r.admits

/-- The intake after several reads, and what they gave. -/
def readAll (i : Intake) : List Attempt → Intake × List Reading
  | [] => (i, [])
  | r :: reads =>
    let (after, reading) := i.read r
    let (final, readings) := after.readAll reads
    (final, reading :: readings)

theorem follows_readLine (admits : Nat → Bool) (clock : Nat) (fragment : List UInt8)
    (arrivals : List Arrival) :
    Follows (Input.prospect fragment (arrivals.map (·.input)))
      (readLine admits clock fragment arrivals).2
      (readLine admits clock fragment arrivals).1.prospect := by
  induction arrivals generalizing clock fragment with
  | nil => exact .silent
  | cons a rest ih =>
    obtain ⟨due, input⟩ := a
    rw [readLine]
    by_cases hadmits : admits (max due clock) = true
    · cases input with
      | byte b =>
        by_cases hb : b = lineFeed
        · simp only [hadmits, if_true, hb, List.map_cons, Input.prospect]
          exact .line
        · simp only [hadmits, if_true, if_neg hb, List.map_cons, Input.prospect]
          exact ih _ _
      | closed =>
        by_cases hf : fragment.isEmpty = true
        · simp only [hadmits, if_true, hf, List.map_cons, Input.prospect, Intake.prospect,
            List.isEmpty_nil]
          exact .ended
        · simp only [hadmits, if_true, if_neg hf, List.map_cons, Input.prospect, Intake.prospect,
            List.isEmpty_nil]
          exact .line
      | broken reason =>
        simp only [hadmits, if_true, List.map_cons, Input.prospect]
        exact .broken
    · simp only [if_neg hadmits]
      exact .silent

theorem readLine_patient (clock : Nat) (fragment : List UInt8) (arrivals : List Arrival) :
    (readLine (fun _ => true) clock fragment arrivals).2
      = (Input.prospect fragment (arrivals.map (·.input))).head?.getD .silent := by
  induction arrivals generalizing clock fragment with
  | nil => rfl
  | cons a rest ih =>
    obtain ⟨due, input⟩ := a
    cases input with
    | byte b =>
      by_cases hb : b = lineFeed
      · simp [readLine, hb, Input.prospect]
      · simpa [readLine, hb, Input.prospect] using ih _ _
    | closed =>
      by_cases hf : fragment.isEmpty = true <;> simp [readLine, hf, Input.prospect]
    | broken reason => simp [readLine, Input.prospect]

theorem lineFeed_not_mem_readLine (admits : Nat → Bool) (clock : Nat) {fragment : List UInt8}
    (arrivals : List Arrival) (h : lineFeed ∉ fragment) :
    lineFeed ∉ (readLine admits clock fragment arrivals).1.fragment := by
  induction arrivals generalizing clock fragment with
  | nil => exact h
  | cons a rest ih =>
    rw [readLine]
    split
    · split
      · split
        · simp
        · next b _ hb => exact ih _ (by simp [h, Ne.symm hb])
      · split <;> simp
      · exact h
    · exact h

variable (i : Intake) (r : Attempt) (reads : List Attempt)

/-- What one read does to the prospect. -/
theorem follows_read : Follows i.prospect (i.read r).2 (i.read r).1.prospect :=
  follows_readLine r.admits (max i.clock r.now) i.fragment i.arrivals

/-- A read that is not given up gives what comes first in the prospect. -/
theorem read_patient (now : Nat) :
    (i.read (.patient now)).2 = i.prospect.head?.getD .silent :=
  readLine_patient (max i.clock now) i.fragment i.arrivals

/-! ### Many reads -/

/-- What was read, with what is still to be read, is what the prospect was. -/
theorem filterMap_readAll {α : Type} {f : Reading → Option α} (hended : f .ended = none)
    (hsilent : f .silent = none) :
    (i.readAll reads).2.filterMap f ++ (i.readAll reads).1.prospect.filterMap f =
      i.prospect.filterMap f := by
  induction reads generalizing i with
  | nil => rfl
  | cons r reads ih =>
    calc (i.readAll (r :: reads)).2.filterMap f
          ++ (i.readAll (r :: reads)).1.prospect.filterMap f
        = ([(i.read r).2] ++ ((i.read r).1.readAll reads).2).filterMap f
          ++ ((i.read r).1.readAll reads).1.prospect.filterMap f := rfl
      _ = [(i.read r).2].filterMap f ++ (i.read r).1.prospect.filterMap f := by
          rw [List.filterMap_append, List.append_assoc, ih (i.read r).1]
      _ = i.prospect.filterMap f := (i.follows_read r).filterMap_eq hended hsilent

theorem lines_readAll :
    linesIn (i.readAll reads).2 ++ linesIn (i.readAll reads).1.prospect = linesIn i.prospect :=
  i.filterMap_readAll reads rfl rfl

theorem failures_readAll :
    failuresIn (i.readAll reads).2 ++ failuresIn (i.readAll reads).1.prospect =
      failuresIn i.prospect :=
  i.filterMap_readAll reads rfl rfl

/-- Whether the end is to be read does not change. -/
theorem ended_mem_readAll :
    .ended ∈ (i.readAll reads).1.prospect ↔ .ended ∈ i.prospect := by
  induction reads generalizing i with
  | nil => rfl
  | cons r reads ih => exact (ih (i.read r).1).trans (i.follows_read r).ended_mem

theorem lineFeed_not_mem_readAll (h : lineFeed ∉ i.fragment) :
    lineFeed ∉ (i.readAll reads).1.fragment := by
  induction reads generalizing i with
  | nil => exact h
  | cons r reads ih => exact ih (i.read r).1 (lineFeed_not_mem_readLine _ _ _ h)

/-- After the end nothing else is read. -/
theorem readAll_of_ended (h : i.prospect = [.ended]) :
    (∀ r ∈ (i.readAll reads).2, r = .ended ∨ r = .silent) ∧
      (i.readAll reads).1.prospect = [.ended] := by
  induction reads generalizing i with
  | nil => exact ⟨by simp [readAll], h⟩
  | cons r reads ih =>
    obtain ⟨hfirst, hafter⟩ := Follows.of_ended (h ▸ i.follows_read r)
    obtain ⟨hlater, hfinal⟩ := ih (i.read r).1 hafter
    exact ⟨List.forall_mem_cons.mpr ⟨hfirst, hlater⟩, hfinal⟩

/-- Once the end has been read, it is all that is left. -/
theorem prospect_of_ended_mem (h : .ended ∈ (i.readAll reads).2) :
    (i.readAll reads).1.prospect = [.ended] := by
  induction reads generalizing i with
  | nil => simp [readAll] at h
  | cons r reads ih =>
    obtain hfirst | hlater := List.mem_cons.mp h
    · exact ((i.read r).1.readAll_of_ended reads
        (Follows.eq_of_ended (hfirst ▸ i.follows_read r))).2
    · exact ih (i.read r).1 hlater

theorem pairwise_readAll :
    (i.readAll reads).2.Pairwise
      fun r later => r = .ended → later = .ended ∨ later = .silent := by
  induction reads generalizing i with
  | nil => exact .nil
  | cons r reads ih =>
    refine .cons (fun later hlater hended => ?_) (ih (i.read r).1)
    exact ((i.read r).1.readAll_of_ended reads
      (Follows.eq_of_ended (hended ▸ i.follows_read r))).1 later hlater

end Intake

/-! ### Pieces of input -/

/-- What a piece brings, whenever it comes. -/
def Content.inputs : Content → List Input
  | bytes pieces => pieces.map .byte
  | closed => [.closed]
  | broken reason => [.broken reason]

/-- The stream that pieces make up. -/
def Chunk.stream (chunks : List Chunk) : List Input :=
  chunks.flatMap (·.content.inputs)

theorem Content.inputs_eq (due : Nat) (c : Content) :
    (c.arrivals due).map (·.input) = c.inputs := by
  cases c with
  | bytes pieces => simp [Content.arrivals, Content.inputs, Function.comp_def]
  | closed => rfl
  | broken reason => rfl

theorem Chunk.stream_eq (start : Nat) (chunks : List Chunk) :
    (Chunk.arrivals start chunks).map (·.input) = Chunk.stream chunks := by
  induction chunks generalizing start with
  | nil => rfl
  | cons c rest ih =>
    rw [Chunk.arrivals, List.map_append, Content.inputs_eq, ih]
    rfl

namespace Intake

/-- The readings give the lines of the stream, and what they leave of it is in the intake. -/
structure Faithful (stream : List Input) (readings : List Reading) (i : Intake) : Prop where
  /-- The lines that were read and those still to be read are the lines of the stream, in order. -/
  lines_eq : linesIn readings ++ Input.cut i.unread = Input.cut stream
  failures_eq : failuresIn readings ++ Input.failures i.unread = Input.failures stream
  /-- The end is read only of a stream that ends, and after all of its lines. -/
  all_of_ended : .ended ∈ readings → .closed ∈ stream ∧ linesIn readings = Input.cut stream
  /-- After the end nothing else is read. -/
  pairwise : readings.Pairwise fun r later => r = .ended → later = .ended ∨ later = .silent
  /-- When all is read of a stream that ends, the end is what a read gives. -/
  ended_of_all : .closed ∈ stream → linesIn readings = Input.cut stream →
    failuresIn readings = Input.failures stream → ∀ now, (i.read (.patient now)).2 = .ended
  /-- A read finds nothing only if all is read of a stream that does not end. -/
  all_of_silent : ∀ now, (i.read (.patient now)).2 = .silent →
    .closed ∉ stream ∧ linesIn readings = Input.cut stream ∧
      failuresIn readings = Input.failures stream

theorem lines_prospect {i : Intake} (h : lineFeed ∉ i.fragment) :
    linesIn i.prospect = Input.cut i.unread :=
  Input.lines_prospect h _

theorem failures_prospect (i : Intake) : failuresIn i.prospect = Input.failures i.unread := by
  rw [unread, Input.failures_append_map]
  exact Input.failures_prospect _ _

theorem ended_mem_prospect (i : Intake) : .ended ∈ i.prospect ↔ .closed ∈ i.unread := by
  rw [unread, Input.closed_mem_append_map]
  exact Input.ended_mem_prospect

theorem silent_not_mem_prospect (i : Intake) : .silent ∉ i.prospect :=
  Input.silent_not_mem_prospect

/-- A read that is not given up finds nothing only if there is nothing. -/
theorem prospect_of_silent {i : Intake} {now : Nat} (h : (i.read (.patient now)).2 = .silent) :
    i.prospect = [] := by
  rw [read_patient] at h
  cases hp : i.prospect with
  | nil => rfl
  | cons reading rest =>
    have hreading : reading = .silent := by simpa [hp] using h
    exact absurd (hp ▸ hreading ▸ List.mem_cons_self) i.silent_not_mem_prospect

/-- A read that is not given up gives the end if it is all that is left. -/
theorem read_patient_of_ended_mem {i : Intake} (hlines : linesIn i.prospect = [])
    (hfailures : failuresIn i.prospect = []) (h : .ended ∈ i.prospect) (now : Nat) :
    (i.read (.patient now)).2 = .ended := by
  rw [read_patient]
  cases hp : i.prospect with
  | nil => simp [hp] at h
  | cons reading rest =>
    rw [hp] at hlines hfailures
    cases reading with
    | line text => simp [linesIn, Reading.line?] at hlines
    | ended => rfl
    | broken reason => simp [failuresIn, Reading.failure?] at hfailures
    | silent => exact absurd (hp ▸ List.mem_cons_self) i.silent_not_mem_prospect

/-- It is enough to know what readings leave of the prospect. -/
theorem faithful_of_prospect {stream : List Input} {readings : List Reading} {after : Intake}
    (hlines : linesIn readings ++ linesIn after.prospect = Input.cut stream)
    (hfailures : failuresIn readings ++ failuresIn after.prospect = Input.failures stream)
    (hended : .ended ∈ after.prospect ↔ .closed ∈ stream)
    (hlast : .ended ∈ readings → after.prospect = [.ended])
    (hlater : readings.Pairwise fun r later => r = .ended → later = .ended ∨ later = .silent)
    (hfragment : lineFeed ∉ after.fragment) : Faithful stream readings after where
  lines_eq := lines_prospect hfragment ▸ hlines
  failures_eq := after.failures_prospect ▸ hfailures
  all_of_ended := by
    intro hmem
    have hp : after.prospect = [.ended] := hlast hmem
    have hnone : linesIn after.prospect = [] := by rw [hp]; rfl
    rw [hnone, List.append_nil] at hlines
    exact ⟨hended.mp (by simp [hp]), hlines⟩
  pairwise := hlater
  ended_of_all := by
    intro hclosed hall hnone
    rw [← hall, List.append_right_eq_self] at hlines
    rw [← hnone, List.append_right_eq_self] at hfailures
    exact read_patient_of_ended_mem hlines hfailures (hended.mpr hclosed)
  all_of_silent := by
    intro now hsilent
    have hp : after.prospect = [] := prospect_of_silent hsilent
    refine ⟨fun hclosed => ?_, ?_, ?_⟩
    · simpa [hp] using hended.mpr hclosed
    · simpa [hp, linesIn] using hlines
    · simpa [hp, failuresIn] using hfailures

/-- Reads give the lines of what is unread. -/
theorem faithful_readAll_unread (i : Intake) (h : lineFeed ∉ i.fragment) (reads : List Attempt) :
    Faithful i.unread (i.readAll reads).2 (i.readAll reads).1 :=
  faithful_of_prospect ((i.lines_readAll reads).trans (lines_prospect h))
    ((i.failures_readAll reads).trans i.failures_prospect)
    ((i.ended_mem_readAll reads).trans i.ended_mem_prospect) (i.prospect_of_ended_mem reads)
    (i.pairwise_readAll reads) (i.lineFeed_not_mem_readAll reads h)

/-- Whatever the pieces are in which a stream comes in, and whichever reads are given up or fail,
reads give the lines of the stream. -/
theorem faithful_readAll (clock start : Nat) (chunks : List Chunk) (reads : List Attempt) :
    let i : Intake := { clock, arrivals := Chunk.arrivals start chunks }
    Faithful (Chunk.stream chunks) (i.readAll reads).2 (i.readAll reads).1 := by
  intro i
  have hunread : i.unread = Chunk.stream chunks := Chunk.stream_eq start chunks
  exact hunread ▸ i.faithful_readAll_unread (by simp [i]) reads

/-- A stream whose only line is cut in the middle of a character, where the line fails for a moment.
It ends without a line feed. -/
def cutCharacter : List Chunk :=
  [⟨0, .bytes [0x4F, 0xC3]⟩, ⟨5, .broken "device busy"⟩, ⟨5, .bytes [0xA9]⟩, ⟨5, .closed⟩]

/-- One read is given up in the middle of the character and the next one fails there, and what is
read then is the line of the stream. -/
theorem faithful_readAll_cutCharacter :
    let i : Intake := { arrivals := Chunk.arrivals 0 cutCharacter }
    let reads : List Attempt := [⟨0, (decide <| · < 3)⟩, .patient 3, .patient 5, .patient 10]
    (i.readAll reads).2 = [.silent, .broken "device busy", .line ['O', 'é'], .ended] ∧
      Faithful (Chunk.stream cutCharacter) (i.readAll reads).2 (i.readAll reads).1 ∧
      Input.cut (Chunk.stream cutCharacter) = [['O', 'é']] := by
  intro i reads
  have hread :
      (i.readAll reads).2 = [.silent, .broken "device busy", .line ['O', 'é'], .ended] := by
    decide
  have hfaithful := faithful_readAll 0 0 cutCharacter reads
  obtain ⟨-, hlines⟩ := hfaithful.all_of_ended (hread ▸ by simp)
  exact ⟨hread, hfaithful, hlines.symm.trans (congrArg linesIn hread)⟩

end Intake

end ModemLink
