import ModemLink.Proofs.Reply.EmptyTexts
import ModemLink.Proofs.Reply.RecordLines

/-!
# How an address record is decoded

The first record of a reply names a context and one address or two. However the record is spaced,
and whatever lines stand around it, the context and the texts of the addresses decide what is read:
the first address counts for either family, the second for the longer one alone and before the
first, and an address that says that there is none does not count. A context that is not spelled as
a number of 32 bits is refused, and is not taken for another one. So addresses that are read can be
written again, and are read back.

Source: the specification, sections 4.4 and 10.1.

## Main definitions

* `Addresses.Assigns`: the addresses that two texts assign to a context.
* `Addresses.Decodes`: a reply is read as the texts of its record say.
* `Addresses.canonical`: addresses as a modem writes them.

## Main results

* `Addresses.decodes_of_leads`: a record is decoded by its texts.
* `Addresses.read_eq_contextId_iff`: where the context is refused.
* `Addresses.read_canonical`: addresses that are written are read back.
* `Addresses.read_by_record`: what is read of a reply, from its lines to the addresses and back.
-/

namespace ModemLink.Reply.Addresses

open Text

/-- The addresses that the texts of a record assign to a context: of the shorter family the first
text, and of the longer one the second, or else the first. -/
structure Assigns (cid : UInt32) (first : String) (second : Option String) (a : Addresses) :
    Prop where
  cid : a.cid = cid
  ipv4 : ∀ text, a.ipv4 = some text ↔ text = first ∧ AssignedIpv4 text
  ipv6 : ∀ text, a.ipv6 = some text ↔ AssignedIpv6 text ∧
    (second = some text ∨ text = first ∧ ∀ other ∈ second, ¬ AssignedIpv6 other)

/-- The texts of a record assign nothing: the first is no address, and the second none of the longer
family. -/
structure AssignNone (first : String) (second : Option String) : Prop where
  ipv4 : ¬ AssignedIpv4 first
  ipv6 : ¬ AssignedIpv6 first
  second : ∀ other ∈ second, ¬ AssignedIpv6 other

/-- The reply is read as what the texts of its record assign to a context, and is refused exactly
where they assign nothing. -/
structure Decodes (reply : String) (cid : UInt32) (first : String) (second : Option String) :
    Prop where
  ok : ∀ a, read reply = .ok a ↔
    Assigns cid first second a ∧ (a.ipv4.isSome = true ∨ a.ipv6.isSome = true)
  error : ∀ fault, read reply = .error fault ↔ fault = .noAddress ∧ AssignNone first second

/-- The texts of a record can stand between quotes. -/
structure Quotable (first : String) (second : Option String) : Prop where
  first : '"' ∉ first.toList
  second : ∀ text ∈ second, '"' ∉ text.toList

/-- The addresses can be written in a line, between quotes. -/
structure IsPrintable (a : Addresses) : Prop where
  ipv4 : ∀ text ∈ a.ipv4, '"' ∉ text.toList ∧ '\n' ∉ text.toList
  ipv6 : ∀ text ∈ a.ipv6, '"' ∉ text.toList ∧ '\n' ∉ text.toList

/-- The first text of a record that assigns the addresses. -/
def firstText (a : Addresses) : String :=
  (a.ipv4.or a.ipv6).getD ""

/-- The second text of a record that assigns the addresses, if it needs one. -/
def secondText? (a : Addresses) : Option String :=
  if a.ipv4.isSome then a.ipv6 else none

/-- Addresses as they are written: that of the shorter family first, if there is one. -/
def canonical (a : Addresses) : String :=
  row a.cid a.firstText a.secondText?

variable {reply : String} {rest spelling : List Char} {cid : UInt32} {first : String}
  {second : Option String} {a : Addresses}

/-! ### What texts assign -/

theorem usableIpv4_iff {text : String} : usableIpv4 text.toList = true ↔ AssignedIpv4 text := by
  constructor
  · intro h
    have hassigned := assignedIpv4_of_usable h
    rwa [String.ofList_toList] at hassigned
  · rintro ⟨hcolon, hne⟩
    have hlist : text.toList ≠ unassignedIpv4 := fun heq =>
      hne (by rw [← String.ofList_toList (s := text), heq]; rfl)
    simp [usableIpv4, isIpv6, hcolon, hlist]

theorem usableIpv6_iff {text : String} : usableIpv6 text.toList = true ↔ AssignedIpv6 text := by
  constructor
  · intro h
    have hassigned := assignedIpv6_of_usable h
    rwa [String.ofList_toList] at hassigned
  · rintro ⟨hcolon, hne⟩
    have hlist : text.toList ≠ unassignedIpv6 := fun heq =>
      hne (by rw [← String.ofList_toList (s := text), heq]; rfl)
    have hmem : ':' ∈ text.toList := hcolon
    simp [usableIpv6, isIpv6, hmem, hlist]

/-- A text that is kept where it can be used. -/
theorem filter_toList_eq_some_iff {p : List Char → Bool} {place : Option String} {text : String} :
    ((place.map String.toList).filter p).map String.ofList = some text ↔
      place = some text ∧ p text.toList = true := by
  cases place with
  | none => simp
  | some other =>
    rw [Option.map_some, Option.filter_some]
    split
    · next hp =>
      rw [Option.map_some, String.ofList_toList]
      constructor
      · rintro ⟨⟩
        exact ⟨rfl, hp⟩
      · exact fun h => h.1
    · next hp =>
      refine iff_of_false (fun h => by cases h) ?_
      rintro ⟨⟨⟩, htext⟩
      exact hp htext

theorem selectIpv4_eq_some_iff {text : String} :
    ((some first.toList).filter usableIpv4).map String.ofList = some text ↔
      text = first ∧ AssignedIpv4 text := by
  rw [← Option.map_some, filter_toList_eq_some_iff, usableIpv4_iff, Option.some.injEq,
    eq_comm (b := text)]

theorem selectIpv6_eq_some_iff {text : String} :
    (((second.map String.toList).filter usableIpv6).or
        ((some first.toList).filter usableIpv6)).map String.ofList = some text ↔
      AssignedIpv6 text ∧
        (second = some text ∨ text = first ∧ ∀ other ∈ second, ¬ AssignedIpv6 other) := by
  have hfirst : ((some first.toList).filter usableIpv6).map String.ofList = some text ↔
      first = text ∧ AssignedIpv6 text := by
    rw [← Option.map_some, filter_toList_eq_some_iff, usableIpv6_iff, Option.some.injEq]
  have hsecond : ((second.map String.toList).filter usableIpv6).map String.ofList = none ↔
      ∀ other ∈ second, ¬ AssignedIpv6 other := by
    rw [Option.eq_none_iff_forall_ne_some]
    simp only [ne_eq, filter_toList_eq_some_iff, usableIpv6_iff, not_and]
    rfl
  rw [Option.map_or, Option.or_eq_some_iff, hsecond, hfirst, filter_toList_eq_some_iff,
    usableIpv6_iff]
  constructor
  · rintro (⟨hplace, htext⟩ | ⟨hnone, hplace, htext⟩)
    · exact ⟨htext, .inl hplace⟩
    · exact ⟨htext, .inr ⟨hplace.symm, hnone⟩⟩
  · rintro ⟨htext, hplace | ⟨hplace, hnone⟩⟩
    · exact .inl ⟨hplace, htext⟩
    · exact .inr ⟨hnone, hplace.symm, htext⟩

/-- The addresses that are selected are those that the texts assign. -/
theorem select_eq_ok_iff : select cid (some first.toList) (second.map String.toList) = .ok a ↔
    Assigns cid first second a ∧ (a.ipv4.isSome = true ∨ a.ipv6.isSome = true) := by
  have hassigns : Assigns cid first second a ↔
      a = ⟨cid, ((some first.toList).filter usableIpv4).map String.ofList,
        (((second.map String.toList).filter usableIpv6).or
          ((some first.toList).filter usableIpv6)).map String.ofList⟩ := by
    constructor
    · intro h
      obtain ⟨cid', ipv4, ipv6⟩ := a
      rw [Addresses.mk.injEq]
      refine ⟨h.cid, Option.ext fun text => ?_, Option.ext fun text => ?_⟩
      · rw [selectIpv4_eq_some_iff, ← h.ipv4]
      · rw [selectIpv6_eq_some_iff, ← h.ipv6]
    · rintro rfl
      exact ⟨rfl, fun text => selectIpv4_eq_some_iff, fun text => selectIpv6_eq_some_iff⟩
  rw [hassigns, select]
  split
  · next hnone =>
    rw [Bool.and_eq_true, Option.isNone_iff_eq_none, Option.isNone_iff_eq_none] at hnone
    refine iff_of_false (fun h => by cases h) ?_
    rintro ⟨rfl, hsome⟩
    rw [hnone.1, hnone.2] at hsome
    simp at hsome
  · next hsome =>
    rw [Bool.not_eq_true, Bool.and_eq_false_iff, Option.isNone_eq_false_iff,
      Option.isNone_eq_false_iff] at hsome
    rw [Except.ok.injEq, eq_comm]
    refine (and_iff_left_of_imp ?_).symm
    rintro rfl
    rwa [Option.isSome_map, Option.isSome_map]

theorem assignNone_iff :
    TellNone (some first.toList) (second.map String.toList) ↔ AssignNone first second := by
  rw [tellNone_iff]
  simp only [Option.filter_eq_none_iff, Option.some.injEq, forall_eq', usableIpv4_iff,
    usableIpv6_iff, Option.map_eq_some_iff, forall_exists_index, and_imp,
    forall_apply_eq_imp_iff₂]
  exact ⟨fun ⟨hipv4, hsecond, hipv6⟩ => ⟨hipv4, hipv6, hsecond⟩,
    fun h => ⟨h.ipv4, h.second, h.ipv6⟩⟩

/-! ### Decoding a record -/

theorem record?_of_leads (h : Leads tag reply.toList rest) : record? reply = some (trim rest) :=
  (head?_records_eq_some_iff (by decide) (by decide)).mpr ⟨rest, h, rfl⟩

/-- A reply is decoded by the texts of the record that leads it, however they are spaced. -/
theorem decodes_of_leads (h : Leads tag reply.toList rest) (hspells : Spells spelling cid.toNat)
    (hquotable : Quotable first second)
    (hspaced : Spaced (.bare spelling :: fields first second) rest) :
    Decodes reply cid first second := by
  have hread : read reply = select cid (some first.toList) (second.map String.toList) := by
    rw [read_of_record (record?_of_leads h)]
    exact ofRecord_of_spaced (number?_eq_some_iff.mpr hspells)
      (isPlain_fields hquotable.first hquotable.second) hspaced
  constructor
  · intro a
    rw [hread, select_eq_ok_iff]
  · intro fault
    rw [hread, select_eq_error_iff, assignNone_iff]

/-- White space around a record makes no difference to what stands in front of its first comma. -/
theorem trim_takeWhile_trim (rest : List Char) :
    trim ((trim rest).takeWhile (· != ',')) = trim (rest.takeWhile (· != ',')) := by
  have hcut : rest.takeWhile (· != ',') ++ rest.dropWhile (· != ',') = rest :=
    List.takeWhile_append_dropWhile
  have hcomma := not_mem_takeWhile_ne rest ','
  cases hrest : rest.dropWhile (· != ',') with
  | nil =>
    rw [hrest, List.append_nil] at hcut
    have htrim : ',' ∉ trim rest := fun hmem => hcomma (hcut.symm ▸ mem_of_mem_trim hmem)
    have hwhole : (trim rest ++ []).takeWhile (· != ',') = trim rest :=
      takeWhile_ne_append htrim (by simp)
    rw [List.append_nil] at hwhole
    rw [hwhole, hcut, trim_trim]
  | cons c more =>
    obtain rfl := eq_of_dropWhile_ne hrest
    rw [hrest] at hcut
    have hfront : ',' ∉ trimStart (rest.takeWhile (· != ',')) := fun hmem =>
      hcomma ((List.dropWhile_sublist _).mem hmem)
    rw [← hcut, trim_append_cons _ _ (by decide), hcut,
      takeWhile_ne_append hfront (by rintro d ⟨⟩; rfl), trim_trimStart]

/-- The context is refused exactly where what leads up to the first comma spells no number of 32
bits. -/
theorem read_eq_contextId_iff (h : Leads tag reply.toList rest) :
    read reply = .error (.contextId .address) ↔
      ∀ value, Spells (trim (rest.takeWhile (· != ','))) value → UInt32.size ≤ value := by
  rw [← number?_eq_none_iff, ← trim_takeWhile_trim, ← contextOf?,
    read_of_record (record?_of_leads h)]
  cases hcontext : contextOf? (trim rest) with
  | none => simp [ofRecord_of_no_context hcontext]
  | some cid =>
    rw [ofRecord_of_context hcontext]
    refine iff_of_false (fun hselect => ?_) (by simp)
    cases (select_eq_error_iff.mp hselect).1

/-- The context that is read is the number that is spelled in front of the first comma. -/
theorem spells_of_read (h : Leads tag reply.toList rest) (hread : read reply = .ok a) :
    Spells (trim (rest.takeWhile (· != ','))) a.cid.toNat := by
  rw [read_of_record (record?_of_leads h)] at hread
  rw [← number?_eq_some_iff, ← trim_takeWhile_trim, ← contextOf?]
  exact (of_ofRecord_eq_ok hread).1

/-! ### Writing addresses -/

/-- Addresses are what the texts assign that they are written by. -/
theorem assigns_firstText (h : a.IsUsable) : Assigns a.cid a.firstText a.secondText? a := by
  obtain ⟨cid, ipv4, ipv6⟩ := a
  cases ipv4 with
  | some short =>
    have hshort : AssignedIpv4 short := h.ipv4 short rfl
    have hcolon : ¬ AssignedIpv6 short := fun hlong => hshort.1 hlong.1
    refine ⟨rfl, fun text => ?_, fun text => ?_⟩
    · constructor
      · rintro ⟨⟩
        exact ⟨rfl, hshort⟩
      · rintro ⟨rfl, -⟩
        rfl
    · constructor
      · exact fun htext => ⟨h.ipv6 text htext, .inl htext⟩
      · rintro ⟨hlong, htext | ⟨rfl, -⟩⟩
        · exact htext
        · exact absurd hlong hcolon
  | none =>
    cases ipv6 with
    | none => simpa using h.assigned
    | some long =>
      have hlong : AssignedIpv6 long := h.ipv6 long rfl
      refine ⟨rfl, fun text => ?_, fun text => ?_⟩
      · refine iff_of_false (fun htext => by cases htext) ?_
        rintro ⟨rfl, hshort⟩
        exact hshort.1 hlong.1
      · constructor
        · rintro ⟨⟩
          exact ⟨hlong, .inr ⟨rfl, by rintro other ⟨⟩⟩⟩
        · rintro ⟨-, htext | ⟨rfl, -⟩⟩
          · cases htext
          · rfl

/-- A record that is written in one line leads the reply that is this line. -/
theorem leads_row (hfirst : '\n' ∉ first.toList) (hsecond : ∀ text ∈ second, '\n' ∉ text.toList) :
    Leads tag (row cid first second).toList
      (' ' :: printFields (.bare (toString cid).toList :: fields first second)) := by
  have hcid : '\n' ∉ (toString cid).toList := fun hmem =>
    absurd (isDigit_toString cid '\n' hmem) (by decide)
  have hfeed : '\n' ∉ (row cid first second).toList := by
    cases second with
    | none => simp [row, String.toList_append, hcid, hfirst]
    | some second => simp [row, String.toList_append, hcid, hfirst, hsecond second rfl]
  have hlines : lines (row cid first second).toList = [(row cid first second).toList] :=
    List.splitOn_eq_singleton hfeed
  have hcut : lines (row cid first second).toList =
      [] ++ ([] ++ (tag ++ ' ' :: printFields (.bare (toString cid).toList ::
        fields first second))) :: [] := by
    rw [hlines, toList_row]
    rfl
  exact .tagged hcut (by simp) (by simp)

theorem IsPrintable.firstText (h : a.IsPrintable) :
    '"' ∉ a.firstText.toList ∧ '\n' ∉ a.firstText.toList := by
  obtain ⟨cid, ipv4, ipv6⟩ := a
  cases ipv4 with
  | some short => exact h.ipv4 short rfl
  | none =>
    cases ipv6 with
    | some long => exact h.ipv6 long rfl
    | none => simp [Addresses.firstText]

theorem IsPrintable.secondText? (h : a.IsPrintable) :
    ∀ text ∈ a.secondText?, '"' ∉ text.toList ∧ '\n' ∉ text.toList := by
  intro text htext
  rw [Addresses.secondText?] at htext
  split at htext
  · exact h.ipv6 text htext
  · cases htext

/-- Addresses that are written are read back. -/
theorem read_canonical (husable : a.IsUsable) (hprint : a.IsPrintable) :
    read a.canonical = .ok a := by
  have hleads : Leads tag a.canonical.toList
      (' ' :: printFields (.bare (toString a.cid).toList :: fields a.firstText a.secondText?)) :=
    leads_row hprint.firstText.2 fun text htext => (hprint.secondText? text htext).2
  have hspells : Spells (toString a.cid).toList a.cid.toNat :=
    number?_eq_some_iff.mp (number?_toString a.cid)
  have hquotable : Quotable a.firstText a.secondText? :=
    ⟨hprint.firstText.1, fun text htext => (hprint.secondText? text htext).1⟩
  have hspaced : Spaced (.bare (toString a.cid).toList :: fields a.firstText a.secondText?)
      (' ' :: printFields (.bare (toString a.cid).toList :: fields a.firstText a.secondText?)) :=
    (spaced_printFields _ _).blank_append (List.forall_mem_singleton.mpr (by decide))
  exact ((decodes_of_leads hleads hspells hquotable hspaced).ok a).mpr
    ⟨assigns_firstText husable, husable.assigned⟩

/-- An address stands between quotes in its record. -/
theorem of_addressAt? {record text : List Char} {place : Nat}
    (h : addressAt? record place = some text) : '"' ∉ text ∧ ∀ c ∈ text, c ∈ record := by
  rw [addressAt?, quotedAt] at h
  obtain ⟨f, hf, htext⟩ := Option.bind_eq_some_iff.mp h
  obtain rfl : f = .quoted text := by
    cases f with
    | bare _ => cases htext
    | quoted _ =>
      cases htext
      rfl
  cases hsplit : splitFields ((record.dropWhile (· != ',')).drop 1) with
  | none =>
    rw [hsplit] at hf
    cases hf
  | some fields =>
    rw [hsplit] at hf
    obtain ⟨hproper, hmem⟩ := of_mem_splitFields hsplit (List.mem_of_getElem? hf)
    refine ⟨hproper, fun c hc => ?_⟩
    have hrow := hmem c (List.mem_cons_of_mem _ (List.mem_append_left _ hc))
    exact (List.dropWhile_sublist _).mem (List.mem_of_mem_drop hrow)

/-- Whatever is read of a reply can be written. -/
theorem isPrintable_read (h : read reply = .ok a) : a.IsPrintable := by
  obtain ⟨record, hrecord, hread⟩ := read_eq_ok_iff.mp h
  obtain ⟨rest, hleads, rfl⟩ := (head?_records_eq_some_iff (by decide) (by decide)).mp hrecord
  have hplace {text : List Char} {place : Nat} (h : addressAt? (trim rest) place = some text) :
      '"' ∉ text ∧ '\n' ∉ text :=
    ⟨(of_addressAt? h).1, fun hmem =>
      hleads.lineFeed_not_mem (mem_of_mem_trim ((of_addressAt? h).2 _ hmem))⟩
  cases hcontext : contextOf? (trim rest) with
  | none => cases (ofRecord_of_no_context hcontext).symm.trans hread
  | some cid =>
    rw [ofRecord_of_context hcontext, select] at hread
    split at hread
    · cases hread
    · cases hread
      constructor
      · intro text htext
        obtain ⟨address, haddress, rfl⟩ := Option.map_eq_some_iff.mp htext
        rw [String.toList_ofList]
        exact hplace (Option.filter_eq_some_iff.mp haddress).1
      · intro text htext
        obtain ⟨address, haddress, rfl⟩ := Option.map_eq_some_iff.mp htext
        rw [String.toList_ofList]
        rcases Option.or_eq_some_iff.mp haddress with hsecond | ⟨-, hfirst⟩
        · exact hplace (Option.filter_eq_some_iff.mp hsecond).1
        · exact hplace (Option.filter_eq_some_iff.mp hfirst).1

/-! ### The whole way -/

/-- A reply is read as the record that leads it says, however the record is spelled and spaced and
whatever other lines there are. The context is the number that is spelled, and is refused where
there is none of 32 bits. Addresses that can be assigned, and so all that are ever read, are read
back as they are written. -/
theorem read_by_record :
    (∀ (reply : String) (rest : List Char), Leads tag reply.toList rest →
      (∀ spelling cid first second, Spells spelling cid.toNat → Quotable first second →
        Spaced (.bare spelling :: fields first second) rest → Decodes reply cid first second) ∧
      (read reply = .error (.contextId .address) ↔
        ∀ value, Spells (trim (rest.takeWhile (· != ','))) value → UInt32.size ≤ value) ∧
      ∀ a, read reply = .ok a → Spells (trim (rest.takeWhile (· != ','))) a.cid.toNat) ∧
    (∀ a : Addresses, a.IsUsable → a.IsPrintable → read a.canonical = .ok a) ∧
    ∀ reply a, read reply = .ok a → read a.canonical = .ok a := by
  refine ⟨fun reply rest hleads => ⟨?_, read_eq_contextId_iff hleads, ?_⟩, ?_, ?_⟩
  · intro spelling cid first second hspells hquotable hspaced
    exact decodes_of_leads hleads hspells hquotable hspaced
  · exact fun a hread => spells_of_read hleads hread
  · exact fun a husable hprint => read_canonical husable hprint
  · exact fun reply a hread => read_canonical (isUsable_read hread) (isPrintable_read hread)

/-- A record with a signed context, white space of many kinds, and a second address that says that
there is none. -/
def spacedText : List Char :=
  " +007 ".toList ++ ',' :: ("\t\"fe80::1\" ".toList ++ ',' ::
    "\u00a0\"0:0:0:0:0:0:0:0\" \r".toList)

/-- The record between other lines. -/
def spacedReply : String :=
  "+CREG: 1\n \t+CGPADDR:" ++ String.ofList spacedText ++ "\nOK"

/-- The address of a record with much white space is read, and then written without. -/
theorem read_by_record_spaced :
    Leads tag spacedReply.toList spacedText ∧ Spells "+007".toList (7 : UInt32).toNat ∧
      Quotable "fe80::1" (some "0:0:0:0:0:0:0:0") ∧
      Spaced (.bare "+007".toList :: fields "fe80::1" (some "0:0:0:0:0:0:0:0")) spacedText ∧
      read spacedReply = .ok ⟨7, none, some "fe80::1"⟩ ∧
      read "+CGPADDR: 7,\"fe80::1\"" = .ok ⟨7, none, some "fe80::1"⟩ := by
  have hleads : Leads tag spacedReply.toList spacedText := by
    have hlines : lines spacedReply.toList = ["+CREG: 1".toList] ++
        (" \t".toList ++ (tag ++ spacedText)) :: ["OK".toList] := by decide +kernel
    exact .tagged hlines (by simp [isBlank]) (by decide)
  have hspells : Spells "+007".toList (7 : UInt32).toNat := by
    rw [← number?_eq_some_iff]
    decide
  have hquotable : Quotable "fe80::1" (some "0:0:0:0:0:0:0:0") := by
    constructor
    · decide
    · rintro text ⟨⟩
      decide
  have hspaced : Spaced (.bare "+007".toList :: fields "fe80::1" (some "0:0:0:0:0:0:0:0"))
      spacedText :=
    .next ((padded_iff (by decide)).mpr (by decide))
      (.next ((padded_iff (by decide)).mpr (by decide))
        (.last ((padded_iff (by decide)).mpr (by decide))))
  have hread : read spacedReply = .ok ⟨7, none, some "fe80::1"⟩ := by
    have hselect : select 7 (some "fe80::1".toList) ((some "0:0:0:0:0:0:0:0").map String.toList) =
        .ok ⟨7, none, some "fe80::1"⟩ := by decide +kernel
    have hdecodes := (read_by_record.1 _ _ hleads).1 _ _ _ _ hspells hquotable hspaced
    exact (hdecodes.ok _).mpr (select_eq_ok_iff.mp hselect)
  have hcanonical : canonical ⟨7, none, some "fe80::1"⟩ = "+CGPADDR: 7,\"fe80::1\"" := by
    decide +kernel
  refine ⟨hleads, hspells, hquotable, hspaced, hread, ?_⟩
  rw [← hcanonical]
  exact read_by_record.2.2 _ _ hread

end ModemLink.Reply.Addresses
