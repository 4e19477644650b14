import Mathlib.Data.List.Forall2
import ModemLink.Proofs.Reply.RecordLines
import ModemLink.Proofs.Text.Numbers
import ModemLink.Reply.Activation

/-!
# What a reply tells of contexts, record by record

Each record of the reply to the activation query can be judged by itself: it tells of one context
whether this is active, or it is at fault. The first record at fault ends the reading with its
fault; where there is none, the reply tells of one context for each record, in their order. A record
is two fields without quotes, both numbers. One whose context is no number of 32 bits has a fault of
its own, so that no context is taken for another one; every other fault names the record.

## Main definitions

* `IsPair`: a record that spells two fields.
* `Activation.Gives`: what a record gives, the state of a context or a fault.
* `Activation.GiveAll`, `Activation.FailsFirst`: records without a fault, and the first fault.

## Main results

* `Activation.ofRecord_eq_iff`: what is read of a record is what it gives.
* `Activation.read_eq_ok_iff`, `Activation.read_eq_error_iff`: what is read of a reply.
-/

namespace ModemLink.Reply

open Text

/-! ### Reading one after another -/

section MapM

variable {α β ε : Type} {f : α → Except ε β}

theorem mapM_cons_of_ok {item : α} {value : β} (h : f item = .ok value) (items : List α) :
    (item :: items).mapM f = (items.mapM f).map (value :: ·) := by
  rw [List.mapM_cons, h]
  rfl

theorem mapM_cons_of_error {item : α} {fault : ε} (h : f item = .error fault) (items : List α) :
    (item :: items).mapM f = .error fault := by
  rw [List.mapM_cons, h]
  rfl

theorem mapM_eq_ok {items : List α} {values : List β}
    (h : List.Forall₂ (fun item value => f item = .ok value) items values) :
    items.mapM f = .ok values := by
  induction h with
  | nil => rfl
  | cons hitem _ ih =>
    rw [mapM_cons_of_ok hitem, ih]
    rfl

theorem mapM_eq_error {before : List α} {values : List β} {item : α} {fault : ε}
    (h : List.Forall₂ (fun item value => f item = .ok value) before values)
    (hfails : f item = .error fault) (after : List α) :
    (before ++ item :: after).mapM f = .error fault := by
  induction h with
  | nil => exact mapM_cons_of_error hfails after
  | cons hitem _ ih =>
    rw [List.cons_append, mapM_cons_of_ok hitem, ih]
    rfl

/-- All items are read, or one of them is the first that is not. -/
theorem forall₂_or_fails (f : α → Except ε β) (items : List α) :
    (∃ values, List.Forall₂ (fun item value => f item = .ok value) items values) ∨
      ∃ before item after values fault, items = before ++ item :: after ∧
        List.Forall₂ (fun item value => f item = .ok value) before values ∧
          f item = .error fault := by
  induction items with
  | nil => exact .inl ⟨[], .nil⟩
  | cons item items ih =>
    cases hitem : f item with
    | error fault => exact .inr ⟨[], item, items, [], fault, rfl, .nil, hitem⟩
    | ok value =>
      rcases ih with ⟨values, hvalues⟩ | ⟨before, item', after, values, fault, rfl, hvalues, hfails⟩
      · exact .inl ⟨value :: values, .cons hitem hvalues⟩
      · exact .inr ⟨item :: before, item', after, value :: values, fault, rfl,
          .cons hitem hvalues, hfails⟩

/-- Where every item is read, there is one value for each. -/
theorem mapM_eq_ok_iff {items : List α} {values : List β} :
    items.mapM f = .ok values ↔
      List.Forall₂ (fun item value => f item = .ok value) items values := by
  refine ⟨fun h => ?_, mapM_eq_ok⟩
  rcases forall₂_or_fails f items with
    ⟨values', hvalues⟩ | ⟨before, item, after, values', fault, rfl, hvalues, hfails⟩
  · rwa [← Except.ok.inj ((mapM_eq_ok hvalues).symm.trans h)]
  · cases (mapM_eq_error hvalues hfails after).symm.trans h

/-- Reading ends with the fault of the first item that cannot be read. -/
theorem mapM_eq_error_iff {items : List α} {fault : ε} :
    items.mapM f = .error fault ↔ ∃ before item after values, items = before ++ item :: after ∧
      List.Forall₂ (fun item value => f item = .ok value) before values ∧
        f item = .error fault := by
  constructor
  · intro h
    rcases forall₂_or_fails f items with
      ⟨values, hvalues⟩ | ⟨before, item, after, values, fault', rfl, hvalues, hfails⟩
    · cases (mapM_eq_ok hvalues).symm.trans h
    · cases (mapM_eq_error hvalues hfails after).symm.trans h
      exact ⟨before, item, after, values, rfl, hvalues, hfails⟩
  · rintro ⟨before, item, after, values, rfl, hvalues, hfails⟩
    exact mapM_eq_error hvalues hfails after

end MapM

/-! ### Records of two fields -/

/-- The record spells two fields, and no more. -/
structure IsPair (record : List Char) (first second : Field) : Prop where
  spaced : Spaced [first, second] record
  first : first.IsProper
  second : second.IsProper

variable {record : List Char} {first second : Field}

theorem splitFields_eq_pair_iff :
    splitFields record = some [first, second] ↔ IsPair record first second := by
  constructor
  · intro h
    rw [splitFields_eq_some_iff] at h
    split at h
    · cases h
    · exact ⟨h.2, h.1 first (by simp), h.1 second (by simp)⟩
  · intro h
    refine h.spaced.splitFields_eq ?_ (by simp)
    simpa using ⟨h.first, h.second⟩

namespace Activation

/-! ### What a record gives -/

/-- What a record gives: whether a context is active, or the fault that ends the reading. Its two
fields are the number of the context and then 0 or 1, both without quotes. -/
inductive Gives (record : List Char) : Except ReplyFault Activation → Prop
  | told {spelling state : List Char} {cid : UInt32} {active : Bool}
    (pair : IsPair record (.bare spelling) (.bare state)) (owner : Spells spelling cid.toNat)
    (tells : Spells state (if active then 1 else 0)) : Gives record (.ok ⟨cid, active⟩)
  | unowned {first second : Field} (pair : IsPair record first second)
    (owner : ∀ spelling value, first = .bare spelling → Spells spelling value →
      UInt32.size ≤ value) :
    Gives record (.error (.contextId .activation))
  | stateless {spelling : List Char} {cid : UInt32} {second : Field}
    (pair : IsPair record (.bare spelling) second) (owner : Spells spelling cid.toNat)
    (tells : ∀ state value, second = .bare state → Spells state value → 2 ≤ value) :
    Gives record (.error (.malformed .activation (String.ofList record)))
  | uncut (pair : ∀ first second, ¬ IsPair record first second) :
    Gives record (.error (.malformed .activation (String.ofList record)))

theorem number?_eq_none_iff {f : Field} : f.number? = none ↔
    ∀ spelling value, f = .bare spelling → Spells spelling value → UInt32.size ≤ value := by
  cases f with
  | bare text =>
    rw [Field.number?, Text.number?_eq_none_iff]
    constructor
    · rintro h spelling value ⟨⟩ hspells
      exact h value hspells
    · exact fun h value hspells => h text value rfl hspells
  | quoted text => simp [Field.number?]

theorem number?_eq_some_iff {f : Field} {n : UInt32} :
    f.number? = some n ↔ ∃ spelling, f = .bare spelling ∧ Spells spelling n.toNat := by
  cases f with
  | bare text =>
    rw [Field.number?, Text.number?_eq_some_iff]
    constructor
    · exact fun h => ⟨text, rfl, h⟩
    · rintro ⟨spelling, ⟨⟩, hspells⟩
      exact hspells
  | quoted text => simp [Field.number?]

/-- Every record gives the state of a context, or a fault. -/
theorem exists_gives (record : List Char) : ∃ verdict, Gives record verdict := by
  by_cases hpair : ∃ first second, IsPair record first second
  · obtain ⟨first, second, hpair⟩ := hpair
    cases hfirst : first.number? with
    | none => exact ⟨_, .unowned hpair (number?_eq_none_iff.mp hfirst)⟩
    | some cid =>
      obtain ⟨spelling, rfl, howner⟩ := number?_eq_some_iff.mp hfirst
      by_cases hstate : ∃ state active,
          second = .bare state ∧ Spells state (if active = true then 1 else 0)
      · obtain ⟨state, active, rfl, htells⟩ := hstate
        exact ⟨_, .told hpair howner htells⟩
      · refine ⟨_, .stateless hpair howner fun state value hsecond hspells => ?_⟩
        refine Nat.le_of_not_lt fun hlt => hstate ⟨state, value == 1, hsecond, ?_⟩
        have hvalue : (if (value == 1) = true then 1 else 0) = value := by
          match value with
          | 0 => rfl
          | 1 => rfl
        rwa [hvalue]
  · exact ⟨_, .uncut fun first second h => hpair ⟨first, second, h⟩⟩

theorem ofRecord_of_gives {verdict : Except ReplyFault Activation} (h : Gives record verdict) :
    ofRecord record = verdict := by
  cases h with
  | @told spelling state cid active pair owner tells =>
    have hcid : (Field.bare spelling).number? = some cid :=
      number?_eq_some_iff.mpr ⟨spelling, rfl, owner⟩
    rw [ofRecord, splitFields_eq_pair_iff.mpr pair]
    cases active with
    | false =>
      have hstate : (Field.bare state).number? = some 0 :=
        number?_eq_some_iff.mpr ⟨state, rfl, tells⟩
      simp only [hcid, hstate]
    | true =>
      have hstate : (Field.bare state).number? = some 1 :=
        number?_eq_some_iff.mpr ⟨state, rfl, tells⟩
      simp only [hcid, hstate]
  | unowned pair owner =>
    rw [ofRecord, splitFields_eq_pair_iff.mpr pair]
    simp only [number?_eq_none_iff.mpr owner]
  | @stateless spelling cid second pair owner tells =>
    have hcid : (Field.bare spelling).number? = some cid :=
      number?_eq_some_iff.mpr ⟨spelling, rfl, owner⟩
    have hstate (n : UInt32) (hn : n.toNat < 2) : second.number? ≠ some n := by
      intro hnumber
      obtain ⟨state, hsecond, hspells⟩ := number?_eq_some_iff.mp hnumber
      exact Nat.not_le_of_lt hn (tells state _ hsecond hspells)
    rw [ofRecord, splitFields_eq_pair_iff.mpr pair]
    simp only [hcid]
    split
    · next hzero => exact absurd hzero (hstate 0 (by decide))
    · next hone => exact absurd hone (hstate 1 (by decide))
    · rfl
  | uncut pair =>
    rw [ofRecord.eq_def]
    split
    · next first second hsplit =>
      exact absurd (splitFields_eq_pair_iff.mp hsplit) (pair first second)
    · rfl

/-- What is read of a record is what it gives. -/
theorem ofRecord_eq_iff {verdict : Except ReplyFault Activation} :
    ofRecord record = verdict ↔ Gives record verdict := by
  constructor
  · rintro rfl
    obtain ⟨verdict, hgives⟩ := exists_gives record
    rwa [ofRecord_of_gives hgives]
  · exact ofRecord_of_gives

/-! ### What the records of a reply give -/

/-- Records that are not at fault, each with the state that it tells. -/
abbrev GiveAll (records : List (List Char)) (contexts : List Activation) : Prop :=
  List.Forall₂ (fun record context => Gives record (.ok context)) records contexts

/-- Records of which one is at fault, with the fault of the first. -/
def FailsFirst (records : List (List Char)) (fault : ReplyFault) : Prop :=
  ∃ before record after contexts, records = before ++ record :: after ∧
    GiveAll before contexts ∧ Gives record (.error fault)

/-- A record gives one thing only. -/
theorem Gives.unique {verdict other : Except ReplyFault Activation} (h : Gives record verdict)
    (h' : Gives record other) : verdict = other :=
  (ofRecord_of_gives h).symm.trans (ofRecord_of_gives h')

/-- A number beyond 32 bits is no context, whatever it would be cut down to. -/
theorem gives_contextId_of_spells {spelling : List Char} {value : Nat}
    (pair : IsPair record (.bare spelling) second) (owner : Spells spelling value)
    (hvalue : UInt32.size ≤ value) : Gives record (.error (.contextId .activation)) := by
  refine .unowned pair ?_
  rintro spelling' value' ⟨⟩ hspells
  rwa [hspells.unique owner]

variable {reply : String} {recs : List (List Char)}

/-- What is told of a context is told by a record. -/
theorem GiveAll.mem_iff {contexts : List Activation} (h : GiveAll recs contexts)
    (a : Activation) : a ∈ contexts ↔ ∃ record ∈ recs, Gives record (.ok a) := by
  induction h with
  | nil => simp
  | @cons record context recs contexts hgives _ ih =>
    simp only [List.mem_cons, exists_eq_or_imp, ih]
    refine or_congr_left ?_
    constructor
    · rintro rfl
      exact hgives
    · exact fun hgives' => Except.ok.inj (hgives'.unique hgives)

theorem GiveAll.not_error {contexts : List Activation} (h : GiveAll recs contexts)
    (hmem : record ∈ recs) {fault : ReplyFault} : ¬ Gives record (.error fault) := by
  induction h with
  | nil => cases hmem
  | cons hgives _ ih =>
    rcases List.mem_cons.mp hmem with rfl | hmem
    · exact fun hfails => by cases hfails.unique hgives
    · exact ih hmem

/-- A reply is read where no record is at fault, and tells one state for each of them. -/
theorem read_eq_ok_iff (h : HasRecords tag reply.toList recs) {contexts : List Activation} :
    read reply = .ok contexts ↔ GiveAll recs contexts := by
  rw [read, h.records_eq (by decide), mapM_eq_ok_iff]
  simp only [ofRecord_eq_iff]

/-- A reply is refused with the fault of its first record that is at fault. -/
theorem read_eq_error_iff (h : HasRecords tag reply.toList recs) {fault : ReplyFault} :
    read reply = .error fault ↔ FailsFirst recs fault := by
  rw [read, h.records_eq (by decide), mapM_eq_error_iff]
  simp only [ofRecord_eq_iff, FailsFirst]

end Activation

end ModemLink.Reply
