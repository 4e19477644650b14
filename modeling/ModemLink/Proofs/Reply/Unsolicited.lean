import Mathlib.Control.Monad.Basic
import ModemLink.Proofs.Reply.Readings
import ModemLink.Proofs.Reply.RecordLines
import ModemLink.Reply.Address

/-!
# Unsolicited messages between records

Messages that nobody asked for can stand between the records of a reply. As long as one record
carries the name of the command they make no difference, wherever they stand and whatever the
records are. But the name is what a message is known by: where no line carries it, every line is a
record, and messages alone are read as though each of them were one. So a reply of messages alone is
not read as one without any line.

Source: the specification, section 10.1.

## Main definitions

* `Interleaves`: records with messages in between.
* `IgnoresUnsolicited`: how far a reading ignores messages.

## Main results

* `Interleaves.recordsOf_eq`: messages are no records where there is one.
* `ignores_unsolicited`: this holds of active contexts and of addresses.
* `not_ignores_unsolicited_alone`: a message alone is taken for a record.
-/

namespace ModemLink.Reply

open Text

/-- The records stand in order among the rows, each with the name in front, and the other rows are
messages that nobody asked for. -/
inductive Interleaves (tag : List Char) : List (List Char) → List (List Char) → Prop
  | nil : Interleaves tag [] []
  | record {rows recs : List (List Char)} (rest : List Char)
    (more : Interleaves tag rows recs) :
    Interleaves tag ((tag ++ rest) :: rows) ((tag ++ rest) :: recs)
  | unsolicited {row : List Char} {rows recs : List (List Char)} (h : IsUnsolicited tag row)
    (more : Interleaves tag rows recs) : Interleaves tag (row :: rows) recs

/-- How far a reading ignores messages that nobody asked for. -/
structure IgnoresUnsolicited {α : Type} (tag : List Char)
    (read : String → Except ReplyFault α) (nothing : Except ReplyFault α) : Prop where
  /-- Among records, one or more, messages make no difference. -/
  amid : ∀ reply alone : String, Interleaves tag (textLines reply.toList) (textLines alone.toList) →
    textLines alone.toList ≠ [] → read reply = read alone
  /-- A reply without any line tells nothing. -/
  blank : ∀ reply : String, textLines reply.toList = [] → read reply = nothing
  /-- Messages alone are read as though each of them carried the name. -/
  alone : ∀ reply named : String, (∀ row ∈ textLines reply.toList, IsUnsolicited tag row) →
    textLines named.toList = (textLines reply.toList).map (tag ++ ·) → read reply = read named

variable {tag reply : List Char} {rows recs : List (List Char)}

theorem Interleaves.filterMap_eq (h : Interleaves tag rows recs) :
    rows.filterMap (List.isPrefixOf? tag) = recs.filterMap (List.isPrefixOf? tag) := by
  induction h with
  | nil => rfl
  | record rest more ih => rw [List.filterMap_cons, List.filterMap_cons, ih]
  | unsolicited h more ih => rw [List.filterMap_cons, h.foreign, ih]

theorem Interleaves.filterMap_ne_nil (h : Interleaves tag rows recs) (hne : recs ≠ []) :
    rows.filterMap (List.isPrefixOf? tag) ≠ [] := by
  rw [h.filterMap_eq]
  induction h with
  | nil => exact absurd rfl hne
  | record rest more _ =>
    rw [List.filterMap_cons, List.isPrefixOf?_eq_some_iff_append_eq.mpr rfl]
    exact List.cons_ne_nil _ _
  | unsolicited _ _ ih => exact ih hne

/-- Where one record carries the name, messages are no records. -/
theorem Interleaves.recordsOf_eq (h : Interleaves tag rows recs) (hne : recs ≠ []) :
    recordsOf tag rows = recordsOf tag recs := by
  have hrows := h.filterMap_ne_nil hne
  have hrecords := hrows
  rw [h.filterMap_eq] at hrecords
  rw [recordsOf_of_ne_nil hrows, recordsOf_of_ne_nil hrecords, h.filterMap_eq]

theorem trim_of_mem_textLines {row : List Char} (h : row ∈ textLines reply) : trim row = row := by
  obtain ⟨line, -, rfl⟩ := List.mem_map.mp (List.mem_filter.mp h).1
  exact trim_trim line

/-- Messages alone are all records, and are the same records with the name in front. -/
theorem recordsOf_of_unsolicited (hrows : ∀ row ∈ rows, IsUnsolicited tag row)
    (htrim : ∀ row ∈ rows, trim row = row) :
    recordsOf tag rows = rows ∧ recordsOf tag (rows.map (tag ++ ·)) = rows := by
  have hforeign : rows.filterMap (List.isPrefixOf? tag) = [] :=
    List.filterMap_eq_nil_iff.mpr fun row hrow => (hrows row hrow).foreign
  have hnamed (rows : List (List Char)) :
      (rows.map (tag ++ ·)).filterMap (List.isPrefixOf? tag) = rows := by
    induction rows with
    | nil => rfl
    | cons row rows ih =>
      rw [List.map_cons, List.filterMap_cons, List.isPrefixOf?_eq_some_iff_append_eq.mpr rfl, ih]
  constructor
  · rw [recordsOf, hforeign]
  · by_cases hnil : rows = []
    · subst hnil
      rfl
    · have hne : (rows.map (tag ++ ·)).filterMap (List.isPrefixOf? tag) ≠ [] := by rwa [hnamed]
      rw [recordsOf_of_ne_nil hne, hnamed]
      exact (List.map_congr_left htrim).trans (List.map_id rows)

/-- A reading that goes by the records alone ignores messages as far as the records do. -/
theorem ignoresUnsolicited_of_records {α : Type} {read : String → Except ReplyFault α}
    {ofRecords : List (List Char) → Except ReplyFault α}
    (h : ∀ reply, read reply = ofRecords (records tag reply.toList)) :
    IgnoresUnsolicited tag read (ofRecords []) := by
  refine ⟨fun reply alone hrows hne => ?_, fun reply hblank => ?_,
    fun reply named hrows hnamed => ?_⟩
  · rw [h, h, records, records, hrows.recordsOf_eq hne]
  · rw [h, records, hblank]
    rfl
  · have hrecords := recordsOf_of_unsolicited hrows fun row hrow => trim_of_mem_textLines hrow
    rw [h, h, records, records, hnamed, hrecords.1, hrecords.2]

/-- What the first of some records tells, if there is one. -/
def Addresses.ofFirst : List (List Char) → Except ReplyFault Addresses
  | [] => .error .noAddress
  | record :: _ => Addresses.ofRecord record

theorem Addresses.read_eq_ofFirst (reply : String) :
    Addresses.read reply = Addresses.ofFirst (records Addresses.tag reply.toList) := by
  rw [Addresses.read]
  split
  · next hnil => rw [hnil, Addresses.ofFirst]
  · next record more hrecords => rw [hrecords, Addresses.ofFirst]

/-- Active contexts and addresses are read as though no message stood between the records, if there
is a record. Messages alone count as records. -/
theorem ignores_unsolicited :
    IgnoresUnsolicited Activation.tag Activation.read (.ok []) ∧
      IgnoresUnsolicited Addresses.tag Addresses.read (.error .noAddress) :=
  ⟨ignoresUnsolicited_of_records fun _ => rfl,
    ignoresUnsolicited_of_records Addresses.read_eq_ofFirst⟩

/-- A record is read as though no message stood in front of it and behind it, and a message alone as
though it carried the name. -/
theorem ignores_unsolicited_around :
    Activation.read "+CMTI: \"SM\",3\r\n+CGACT: 1,1\r\n+CREG: 1" = .ok [⟨1, true⟩] ∧
      Activation.read "+CREG: 1" = .error (.malformed .activation "+CREG: 1") ∧
    Addresses.read "+CMTI: \"SM\",3\r\n+CGPADDR: 1,\"10.0.0.1\"\r\n+CREG: 1" =
        .ok { cid := 1, ipv4 := some "10.0.0.1", ipv6 := none } ∧
      Addresses.read "+CREG: 1" = .error (.contextId .address) := by
  obtain ⟨hactivation, haddress⟩ := ignores_unsolicited
  have haround (record : String) (rest : List Char) {tag : List Char} {reply alone : String}
      (hreply : textLines reply.toList =
        ["+CMTI: \"SM\",3".toList, record.toList, "+CREG: 1".toList])
      (halone : textLines alone.toList = [record.toList]) (hrecord : record.toList = tag ++ rest)
      (hfront : tag.isPrefixOf? "+CMTI: \"SM\",3".toList = none)
      (hback : tag.isPrefixOf? "+CREG: 1".toList = none) :
      Interleaves tag (textLines reply.toList) (textLines alone.toList) := by
    rw [hreply, halone, hrecord]
    exact .unsolicited ⟨rfl, hfront⟩ (.record rest (.unsolicited ⟨rfl, hback⟩ .nil))
  have hmessage : textLines "+CREG: 1".toList = ["+CREG: 1".toList] := by decide +kernel
  have hforeign {tag : List Char} (h : tag.isPrefixOf? "+CREG: 1".toList = none) :
      ∀ row ∈ textLines "+CREG: 1".toList, IsUnsolicited tag row := by
    rw [hmessage, List.forall_mem_singleton]
    exact ⟨rfl, h⟩
  refine ⟨?_, ?_, ?_, ?_⟩
  · refine (hactivation.amid _ "+CGACT: 1,1" (haround "+CGACT: 1,1" " 1,1".toList
      ?_ ?_ rfl ?_ ?_) ?_).trans ?_ <;> decide +kernel
  · refine (hactivation.alone _ "+CGACT:+CREG: 1" (hforeign ?_) ?_).trans ?_ <;> decide +kernel
  · refine (haddress.amid _ "+CGPADDR: 1,\"10.0.0.1\"" (haround
      "+CGPADDR: 1,\"10.0.0.1\"" " 1,\"10.0.0.1\"".toList ?_ ?_ rfl ?_ ?_) ?_).trans ?_ <;>
      decide +kernel
  · refine (haddress.alone _ "+CGPADDR:+CREG: 1" (hforeign ?_) ?_).trans ?_ <;> decide +kernel

/-- Without any record, a single message changes what is read: a reply without lines lists no
context and no address, and a message alone is refused as a record. -/
theorem not_ignores_unsolicited_alone :
    Interleaves Activation.tag (textLines "+CREG: 1".toList) (textLines "".toList) ∧
      Activation.read "" = .ok [] ∧
      Activation.read "+CREG: 1" = .error (.malformed .activation "+CREG: 1") ∧
    Interleaves Addresses.tag (textLines "+CREG: 1".toList) (textLines "".toList) ∧
      Addresses.read "" = .error .noAddress ∧
      Addresses.read "+CREG: 1" = .error (.contextId .address) := by
  have hrows : textLines "+CREG: 1".toList = ["+CREG: 1".toList] := by decide +kernel
  have hnone : textLines "".toList = [] := by decide +kernel
  have hactivation : IsUnsolicited Activation.tag "+CREG: 1".toList := ⟨rfl, by decide +kernel⟩
  have haddress : IsUnsolicited Addresses.tag "+CREG: 1".toList := ⟨rfl, by decide +kernel⟩
  rw [hrows, hnone]
  exact ⟨.unsolicited hactivation .nil, by decide +kernel, by decide +kernel,
    .unsolicited haddress .nil, by decide +kernel, by decide +kernel⟩

end ModemLink.Reply
