import ModemLink.Proofs.Reply.ServerRecords
import ModemLink.Proofs.Reply.Usable

/-!
# Empty texts in a reply

That no address is assigned is told in many ways: its field can be missing, or have no quotes, or
hold one of the two zero addresses. An empty text between quotes is none of these. It has no colon,
and counts as an address of the shorter family that is not the zero address. So where a reply has an
empty text in the place of an address or of a server, an empty text is read; and of the longer
family none is read, whatever the reply has.

## Main definitions

* `Addresses.record?`, `Addresses.contextOf?`, `Addresses.addressAt?`: the record of a reply that
  counts, and its parts.
* `Addresses.TellsEmpty`, `NameServers.NamesEmpty`: replies with an empty text in a place that
  counts.

## Main results

* `Addresses.read_eq_noAddress_iff`: where a reply tells no address.
* `Addresses.ipv4_eq_empty_iff`, `NameServers.empty_mem_ipv4_iff`: where an empty text is read.
-/

namespace ModemLink.Reply

open Text

theorem ne_empty_of_hasColon {text : String} (h : HasColon text) : text ≠ "" := by
  rintro rfl
  cases h

/-! ### Addresses -/

namespace Addresses

variable {reply : String} {record : List Char} {a : Addresses}

/-- The record of a reply that counts, which is the first. -/
def record? (reply : String) : Option (List Char) :=
  (records tag reply.toList).head?

/-- The context that a record names. -/
def contextOf? (record : List Char) : Option UInt32 :=
  number? (trim (record.takeWhile (· != ',')))

/-- The text between quotes at a place behind the context. -/
def addressAt? (record : List Char) (place : Nat) : Option (List Char) :=
  quotedAt ((splitFields ((record.dropWhile (· != ',')).drop 1)).getD []) place

theorem read_of_record (h : record? reply = some record) : read reply = ofRecord record := by
  obtain ⟨more, hrecords⟩ := List.head?_eq_some_iff.mp h
  rw [read, hrecords]

theorem read_of_no_record (h : record? reply = none) : read reply = .error .noAddress := by
  rw [read, List.head?_eq_none_iff.mp h]

/-- What is read of a reply is read of its first record. -/
theorem read_eq_ok_iff :
    read reply = .ok a ↔ ∃ record, record? reply = some record ∧ ofRecord record = .ok a := by
  cases hrecord : record? reply with
  | none => simp [read_of_no_record hrecord]
  | some record => simp [read_of_record hrecord]

theorem ofRecord_of_context {cid : UInt32} (h : contextOf? record = some cid) :
    ofRecord record = select cid (addressAt? record 0) (addressAt? record 1) := by
  rw [contextOf?] at h
  rw [ofRecord, h]
  rfl

theorem ofRecord_of_no_context (h : contextOf? record = none) :
    ofRecord record = .error (.contextId .address) := by
  rw [contextOf?] at h
  rw [ofRecord, h]

/-- What is read of a record has its context, and the addresses that can be used. -/
theorem of_ofRecord_eq_ok (h : ofRecord record = .ok a) :
    contextOf? record = some a.cid ∧
      a.ipv4 = ((addressAt? record 0).filter usableIpv4).map String.ofList := by
  cases hcontext : contextOf? record with
  | none => cases (ofRecord_of_no_context hcontext).symm.trans h
  | some cid =>
    rw [ofRecord_of_context hcontext, select] at h
    split at h
    · cases h
    · cases h
      exact ⟨rfl, rfl⟩

/-- A text is an address of one family or of the other, or it says that there is none. -/
theorem usable_or_unassigned (text : List Char) :
    usableIpv4 text = true ∨ usableIpv6 text = true ∨
      text = unassignedIpv4 ∨ text = unassignedIpv6 := by
  by_cases hshort : text = unassignedIpv4
  · exact .inr (.inr (.inl hshort))
  · by_cases hlong : text = unassignedIpv6
    · exact .inr (.inr (.inr hlong))
    · cases hfamily : isIpv6 text with
      | true => exact .inr (.inl (by simp [usableIpv6, hfamily, hlong]))
      | false => exact .inl (by simp [usableIpv4, hfamily, hshort])

/-- No address can be used exactly where a text of one family or the other is none of its own, which
only a text that says so is. -/
theorem not_usable_iff {text : List Char} :
    usableIpv4 text = false ∧ usableIpv6 text = false ↔
      text = unassignedIpv4 ∨ text = unassignedIpv6 := by
  constructor
  · rintro ⟨hshort, hlong⟩
    rcases usable_or_unassigned text with h | h | h
    · cases hshort.symm.trans h
    · cases hlong.symm.trans h
    · exact h
  · rintro (rfl | rfl)
    · decide
    · decide

/-- The places of a record tell no address: the first has no text, or one that says that there is
none, and the second has no text of the longer family but one that says so. -/
structure TellNone (first second : Option (List Char)) : Prop where
  first : ∀ text ∈ first, text = unassignedIpv4 ∨ text = unassignedIpv6
  second : ∀ text ∈ second, isIpv6 text = true → text = unassignedIpv6

theorem tellNone_iff {first second : Option (List Char)} :
    TellNone first second ↔ first.filter usableIpv4 = none ∧
      (second.filter usableIpv6 = none ∧ first.filter usableIpv6 = none) := by
  simp only [Option.filter_eq_none_iff, Bool.not_eq_true]
  constructor
  · intro h
    have hfirst {text : List Char} (htext : first = some text) :=
      not_usable_iff.mpr (h.first text htext)
    refine ⟨fun text htext => (hfirst htext).1, fun text htext => ?_,
      fun text htext => (hfirst htext).2⟩
    have hsecond := h.second text htext
    simpa [usableIpv6] using hsecond
  · rintro ⟨hshort, hsecond, hlong⟩
    refine ⟨fun text htext => not_usable_iff.mp ⟨hshort text htext, hlong text htext⟩,
      fun text htext => ?_⟩
    simpa [usableIpv6] using hsecond text htext

theorem select_eq_error_iff {cid : UInt32} {first second : Option (List Char)}
    {fault : ReplyFault} :
    select cid first second = .error fault ↔ fault = .noAddress ∧ TellNone first second := by
  simp only [tellNone_iff, select, Bool.and_eq_true, Option.isNone_iff_eq_none,
    Option.or_eq_none_iff]
  split
  · next hnone => exact ⟨fun h => ⟨(Except.error.inj h).symm, hnone⟩, fun h => by rw [h.1]⟩
  · next hsome => exact iff_of_false (fun h => by cases h) fun h => hsome h.2

/-- A reply tells no address exactly where it has no record, or the first one names its context and
no address. -/
theorem read_eq_noAddress_iff : read reply = .error .noAddress ↔
    ∀ record, record? reply = some record → (contextOf? record).isSome = true ∧
      TellNone (addressAt? record 0) (addressAt? record 1) := by
  cases hrecord : record? reply with
  | none => simp [read_of_no_record hrecord]
  | some record =>
    rw [read_of_record hrecord]
    cases hcontext : contextOf? record with
    | none => simp [ofRecord_of_no_context hcontext, hcontext]
    | some cid => simp [ofRecord_of_context hcontext, hcontext, select_eq_error_iff]

/-- The first record has an empty text in the first place. -/
def TellsEmpty (reply : String) : Prop :=
  ∃ record, record? reply = some record ∧ addressAt? record 0 = some []

/-- An empty text is read where the first place has one. -/
theorem ipv4_eq_empty_iff (h : read reply = .ok a) : a.ipv4 = some "" ↔ TellsEmpty reply := by
  obtain ⟨record, hrecord, hread⟩ := read_eq_ok_iff.mp h
  have hempty : usableIpv4 [] = true := by decide
  rw [(of_ofRecord_eq_ok hread).2]
  constructor
  · intro hipv4
    obtain ⟨text, htext, heq⟩ := Option.map_eq_some_iff.mp hipv4
    obtain rfl : text = [] := by simpa using congrArg String.toList heq
    exact ⟨record, hrecord, (Option.filter_eq_some_iff.mp htext).1⟩
  · rintro ⟨record', hrecord', hplace⟩
    obtain rfl := Option.some.inj (hrecord'.symm.trans hrecord)
    rw [hplace, Option.filter_some, if_pos hempty]
    rfl

theorem ipv6_ne_empty (h : read reply = .ok a) : a.ipv6 ≠ some "" := fun hempty =>
  ne_empty_of_hasColon ((isUsable_read h).ipv6 "" hempty).1 rfl

end Addresses

/-! ### Name servers -/

namespace NameServers

variable {reply : String} {cid : UInt32} {servers : NameServers}

/-- The lines of a reply are not at fault, and name an empty text for a context. -/
def NamesEmpty (cid : UInt32) (reply : String) : Prop :=
  ∃ named, GiveAll cid (textLines reply.toList) named ∧ "" ∈ named.flatten

/-- An empty text is read where a record of the context has one. -/
theorem empty_mem_ipv4_iff (h : read reply cid = .ok servers) :
    "" ∈ servers.ipv4 ↔ NamesEmpty cid reply := by
  have hmem (named : List String) : "" ∈ (ofNamed named).ipv4 ↔ "" ∈ named := by
    have husable : usableIpv4 "".toList = true := by decide
    rw [ofNamed, List.mem_eraseDups, List.mem_filter]
    exact and_iff_left husable
  constructor
  · intro hempty
    obtain ⟨named, hall, rfl⟩ := (foldlM_eq_ok_iff []).mp h
    exact ⟨named, hall, (hmem _).mp hempty⟩
  · rintro ⟨named, hall, hempty⟩
    obtain rfl := Except.ok.inj (h.symm.trans (foldlM_of_giveAll hall []))
    exact (hmem _).mpr hempty

theorem empty_not_mem_ipv6 (h : read reply cid = .ok servers) : "" ∉ servers.ipv6 :=
  fun hempty => ne_empty_of_hasColon ((isUsable_read h).ipv6 "" hempty) rfl

end NameServers

end ModemLink.Reply
