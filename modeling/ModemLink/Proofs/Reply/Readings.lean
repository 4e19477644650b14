import ModemLink.Proofs.Reply.Fields
import ModemLink.Reply.Activation
import ModemLink.Reply.NameServer

/-!
# What replies tell

A reply is rows: records as the modem writes them, and unsolicited messages in between. Reading it
gives back what the records tell, in their order, and nothing of the messages.

## Main definitions

* `Reply.IsUnsolicited`: a message that nobody asked for.
* `Reply.Tells`: rows that tell values.
* `Activation.row`, `Addresses.row`, `ServerRecord.row`: records as a modem writes them.
* `NameServers.ofNamed`: the servers of a context, given all that are named for it.

## Main results

* `Activation.read_of_tells`: which contexts are active.
* `Addresses.read_of_row`: the addresses of the first record.
* `NameServers.read_of_tells`: the servers of one context, each at its first place.
-/

namespace ModemLink.Reply

open Text

/-- The text of rows. -/
def textOf (rows : List (List Char)) : String :=
  String.ofList (List.intercalate ['\r', '\n'] rows)

/-- A message that nobody asked for: it begins with a plus sign as records do, but not with the
name that they carry. -/
structure IsUnsolicited (tag row : List Char) : Prop where
  plus : row.head? = some '+'
  foreign : tag.isPrefixOf? row = none

/-- Rows tell values: there is one for each of them, in order, and unsolicited messages stand in
between. -/
inductive Tells {α : Type} (tag : List Char) (record : α → String) :
    List (List Char) → List α → Prop
  | nil : Tells tag record [] []
  | value {rows : List (List Char)} {values : List α} (v : α)
    (rest : Tells tag record rows values) :
    Tells tag record ((record v).toList :: rows) (v :: values)
  | unsolicited {rows : List (List Char)} {values : List α} {row : List Char}
    (h : IsUnsolicited tag row) (rest : Tells tag record rows values) :
    Tells tag record (row :: rows) values

/-- The records among rows are what follows the name of each. -/
theorem Tells.filterMap_isPrefixOf? {α : Type} {tag : List Char} {record : α → String}
    {rows : List (List Char)} {values : List α} (h : Tells tag record rows values)
    {body : α → List Char} (hbody : ∀ v, (record v).toList = tag ++ body v) :
    rows.filterMap (List.isPrefixOf? tag) = values.map body := by
  induction h with
  | nil => rfl
  | value v rest ih =>
    rw [List.filterMap_cons, List.isPrefixOf?_eq_some_iff_append_eq.mpr (hbody v).symm, ih]
    rfl
  | unsolicited h rest ih => rw [List.filterMap_cons, h.foreign, ih]

/-- Where at least one row carries the name, only such rows count. -/
theorem records_textOf {tag : List Char} {rows bodies : List (List Char)}
    (hrows : ∀ row ∈ rows, IsRow row) (h : rows.filterMap (List.isPrefixOf? tag) = bodies)
    (hne : bodies ≠ []) : records tag (textOf rows).toList = bodies.map trim := by
  rw [records, textOf, String.toList_ofList, textLines_intercalate hrows, recordsOf, h]
  cases bodies with
  | nil => exact absurd rfl hne
  | cons body bodies => rfl

/-! ### Which contexts are active -/

namespace Activation

/-- A record as it is written. -/
def row (a : Activation) : String :=
  "+CGACT: " ++ toString a.cid ++ "," ++ (if a.active then "1" else "0")

/-- The fields of a record. -/
def fields (a : Activation) : List Field :=
  [.bare (toString a.cid).toList, .bare [if a.active then '1' else '0']]

theorem toList_row (a : Activation) : a.row.toList = tag ++ ' ' :: printFields a.fields := by
  rw [row, fields, printFields_cons_cons, printFields_singleton]
  cases a.active <;> simp [tag, Field.print, String.toList_append]

theorem isPlain_fields (a : Activation) : ∀ f ∈ a.fields, f.IsPlain := by
  refine List.forall_mem_cons.mpr ⟨isPlain_number a.cid, ?_⟩
  cases a.active with
  | true => simp [Field.IsPlain]; decide
  | false => simp [Field.IsPlain]; decide

theorem ofRecord_fields (a : Activation) : ofRecord (printFields a.fields) = .ok a := by
  rw [ofRecord, splitFields_printFields a.isPlain_fields]
  obtain ⟨cid, active⟩ := a
  have hcid : (Field.bare (toString cid).toList).number? = some cid := number?_toString cid
  cases active with
  | true => simp only [fields, hcid]; rfl
  | false => simp only [fields, hcid]; rfl

/-- A reply tells which contexts are active. -/
theorem read_of_tells {rows : List (List Char)} {contexts : List Activation}
    (hrows : ∀ row ∈ rows, IsRow row) (h : Tells tag row rows contexts) (hne : contexts ≠ []) :
    read (textOf rows) = .ok contexts := by
  have hrecords := records_textOf hrows (h.filterMap_isPrefixOf? toList_row) (by simpa using hne)
  have htrim (a : Activation) : trim (' ' :: printFields a.fields) = printFields a.fields :=
    trim_cons (trim_printFields a.isPlain_fields) (by decide)
  have hmapM (contexts : List Activation) :
      (contexts.map fun a => printFields a.fields).mapM ofRecord = .ok contexts := by
    induction contexts with
    | nil => rfl
    | cons a contexts ih =>
      rw [List.map_cons, List.mapM_cons, ofRecord_fields, ih]
      rfl
  rw [read, hrecords, List.map_map]
  simp only [Function.comp_def, htrim]
  exact hmapM contexts

end Activation

/-! ### Which addresses are assigned -/

namespace Addresses

/-- A record as it is written, with one address or two. -/
def row (cid : UInt32) (first : String) (second : Option String) : String :=
  "+CGPADDR: " ++ toString cid ++ ",\"" ++ first ++ "\"" ++
    second.elim "" fun address => ",\"" ++ address ++ "\""

/-- The addresses of a record. -/
def fields (first : String) (second : Option String) : List Field :=
  .quoted first.toList :: (second.map fun address => Field.quoted address.toList).toList

variable {cid : UInt32} {first : String} {second : Option String}

theorem toList_row (cid : UInt32) (first : String) (second : Option String) :
    (row cid first second).toList =
      tag ++ ' ' :: printFields (.bare (toString cid).toList :: fields first second) := by
  rw [row, fields, printFields_cons_cons]
  cases second with
  | none => simp [tag, printFields_singleton, Field.print, String.toList_append]
  | some second =>
    simp [tag, printFields_cons_cons, printFields_singleton, Field.print, String.toList_append]

theorem isPlain_fields (hfirst : '"' ∉ first.toList)
    (hsecond : ∀ address ∈ second, '"' ∉ address.toList) :
    ∀ f ∈ fields first second, f.IsPlain := by
  refine List.forall_mem_cons.mpr ⟨hfirst, ?_⟩
  cases second with
  | none => simp
  | some second => simpa [Field.IsPlain] using hsecond second rfl

/-- The context of a record is read by itself, and the addresses as fields, with any white space
around each. -/
theorem ofRecord_of_spaced {spelling rest : List Char} (hspelling : number? spelling = some cid)
    (hplain : ∀ f ∈ fields first second, f.IsPlain)
    (h : Spaced (.bare spelling :: fields first second) rest) :
    ofRecord (trim rest) = select cid (some first.toList) (second.map String.toList) := by
  have hcid := (isPlain_of_number? hspelling).isProper
  have hproper : ∀ f ∈ fields first second, f.IsProper := fun f hf => (hplain f hf).isProper
  have hquoted : fields first second ≠ [.bare []] := by
    rw [fields]
    rintro ⟨⟩
  cases h with
  | @next _ padded row _ hpadded hrow =>
    have hcomma : ',' ∉ trimStart padded := fun hmem =>
      hpadded.not_mem (by decide) hcid.2.1 ((List.dropWhile_sublist _).mem hmem)
    have hcut : ∀ c ∈ (',' :: trimEnd row).head?, c = ',' := by
      rintro c ⟨⟩
      rfl
    have hspelled : trim (trimStart padded) = spelling :=
      (trim_trimStart padded).trans ((padded_iff hcid.trim_print).mp hpadded)
    have hsplit : splitFields (trimEnd row) = some (fields first second) :=
      (hrow.trimEnd hproper).splitFields_eq hproper hquoted
    rw [trim_append_cons _ _ (by decide), ofRecord, takeWhile_ne_append hcomma hcut,
      dropWhile_ne_append hcomma hcut, hspelled, hspelling, List.drop_one, List.tail_cons, hsplit]
    cases second with
    | none => rfl
    | some second => rfl

/-- A reply tells the addresses of its first record. -/
theorem read_of_row {rows noise more : List (List Char)} (hrows : ∀ row ∈ rows, IsRow row)
    (hnoise : ∀ row ∈ noise, IsUnsolicited tag row)
    (h : rows = noise ++ (row cid first second).toList :: more)
    (hplain : ∀ f ∈ fields first second, f.IsPlain) :
    read (textOf rows) = select cid (some first.toList) (second.map String.toList) := by
  have hskip : noise.filterMap (List.isPrefixOf? tag) = [] :=
    List.filterMap_eq_nil_iff.mpr fun row hrow => (hnoise row hrow).foreign
  have hbodies : rows.filterMap (List.isPrefixOf? tag) =
      (' ' :: printFields (.bare (toString cid).toList :: fields first second)) ::
        more.filterMap (List.isPrefixOf? tag) := by
    rw [h, List.filterMap_append, hskip, List.nil_append, List.filterMap_cons,
      List.isPrefixOf?_eq_some_iff_append_eq.mpr (toList_row cid first second).symm]
  have hspaced : Spaced (.bare (toString cid).toList :: fields first second)
      (' ' :: printFields (.bare (toString cid).toList :: fields first second)) :=
    (spaced_printFields _ _).blank_append (List.forall_mem_singleton.mpr (by decide))
  rw [read, records_textOf hrows hbodies (by simp), List.map_cons]
  exact ofRecord_of_spaced (number?_toString cid) hplain hspaced

end Addresses

/-! ### Which name servers are named -/

/-- Two name servers of one context. -/
structure ServerRecord where
  owner : UInt32
  first : String
  second : String
  deriving DecidableEq, Repr

namespace ServerRecord

/-- A record as it is written. -/
def row (r : ServerRecord) : String :=
  "+XDNS: " ++ toString r.owner ++ ",\"" ++ r.first ++ "\",\"" ++ r.second ++ "\""

/-- The fields of a record. -/
def fields (r : ServerRecord) : List Field :=
  [.bare (toString r.owner).toList, .quoted r.first.toList, .quoted r.second.toList]

/-- No server is written with a quote. -/
structure IsPlain (r : ServerRecord) : Prop where
  first : '"' ∉ r.first.toList
  second : '"' ∉ r.second.toList

theorem toList_row (r : ServerRecord) :
    r.row.toList = NameServers.tag ++ ' ' :: printFields r.fields := by
  rw [row, fields, printFields_cons_cons, printFields_cons_cons, printFields_singleton]
  simp [NameServers.tag, Field.print, String.toList_append]

theorem IsPlain.fields {r : ServerRecord} (h : r.IsPlain) : ∀ f ∈ r.fields, f.IsPlain :=
  List.forall_mem_cons.mpr ⟨isPlain_number r.owner,
    List.forall_mem_cons.mpr ⟨h.first, List.forall_mem_singleton.mpr h.second⟩⟩

/-- The servers named for a context. -/
def namedFor (cid : UInt32) (records : List ServerRecord) : List String :=
  records.flatMap fun r => if r.owner = cid then [r.first, r.second] else []

end ServerRecord

namespace NameServers

/-- The servers of a context, given all that are named for it: those of either family that can be
used, each at its first place. -/
def ofNamed (named : List String) : NameServers where
  ipv4 := (named.filter (usableIpv4 ·.toList)).eraseDups
  ipv6 := (named.filter (isIpv6 ·.toList)).eraseDups

theorem addNew_eraseDups (known : List String) (entry : String) :
    addNew known.eraseDups entry = (known ++ [entry]).eraseDups := by
  rw [addNew, List.eraseDups_append]
  by_cases h : entry ∈ known
  · simp [List.mem_eraseDups, List.removeAll, h]
  · simp [List.mem_eraseDups, List.removeAll, List.eraseDups_cons, h]

theorem add_ofNamed (named : List String) (server : String) :
    (ofNamed named).add server.toList = ofNamed (named ++ [server]) := by
  rw [add, String.ofList_toList]
  by_cases hlong : isIpv6 server.toList = true
  · simp [hlong, ofNamed, usableIpv4, addNew_eraseDups]
  · by_cases hnone : server.toList = unassignedIpv4
    · have hshort : isIpv6 unassignedIpv4 = false := by decide
      simp [hnone, hshort, ofNamed, usableIpv4]
    · simp [hnone, hlong, ofNamed, usableIpv4, addNew_eraseDups]

variable {cid : UInt32}

/-- A message that nobody asked for is no record: it begins with a plus sign, and not with a
digit. -/
theorem addLine_of_unsolicited {row : List Char} (h : IsUnsolicited tag row)
    (servers : NameServers) : addLine cid servers row = .ok servers := by
  have hrecord : recordOn? row = none := by
    rw [recordOn?, h.foreign, h.plus]
    rfl
  rw [addLine, hrecord]

/-- A record of the context adds its servers, and a record of another one nothing. -/
theorem addLine_row {r : ServerRecord} (h : r.IsPlain) (named : List String) :
    addLine cid (ofNamed named) r.row.toList =
      .ok (ofNamed (named ++ ServerRecord.namedFor cid [r])) := by
  have hrecord : recordOn? r.row.toList = some (printFields r.fields) := by
    rw [recordOn?, List.isPrefixOf?_eq_some_iff_append_eq.mpr r.toList_row.symm]
    exact congrArg some (trim_cons (trim_printFields h.fields) (by decide))
  have howner : r.fields.head?.bind Field.number? = some r.owner := number?_toString r.owner
  rw [addLine, hrecord]
  simp only [splitFields_printFields h.fields, howner]
  by_cases hcid : r.owner = cid
  · have hadd : ((ofNamed named).add r.first.toList).add r.second.toList =
        ofNamed (named ++ [r.first, r.second]) := by
      rw [add_ofNamed, add_ofNamed, List.append_assoc, List.singleton_append]
    have hnamed : ServerRecord.namedFor cid [r] = [r.first, r.second] := by
      simp [ServerRecord.namedFor, hcid]
    rw [if_neg (fun hne => hne hcid), hnamed, ← hadd]
    rfl
  · have hnamed : ServerRecord.namedFor cid [r] = [] := by
      simp [ServerRecord.namedFor, hcid]
    rw [if_pos hcid, hnamed, List.append_nil]

theorem foldlM_addLine {rows : List (List Char)} {records : List ServerRecord}
    (h : Tells tag ServerRecord.row rows records) (hplain : ∀ r ∈ records, r.IsPlain)
    (named : List String) :
    rows.foldlM (addLine cid) (ofNamed named) =
      .ok (ofNamed (named ++ ServerRecord.namedFor cid records)) := by
  induction h generalizing named with
  | nil =>
    rw [ServerRecord.namedFor, List.flatMap_nil, List.append_nil]
    rfl
  | @value rows records r rest ih =>
    obtain ⟨hr, hplain⟩ := List.forall_mem_cons.mp hplain
    have hnamed : ServerRecord.namedFor cid (r :: records) =
        ServerRecord.namedFor cid [r] ++ ServerRecord.namedFor cid records := by
      simp [ServerRecord.namedFor]
    rw [List.foldlM_cons, addLine_row hr, hnamed, ← List.append_assoc]
    exact ih hplain _
  | unsolicited h rest ih =>
    rw [List.foldlM_cons, addLine_of_unsolicited h]
    exact ih hplain named

/-- A reply tells the name servers of every context, and those of one are read from it. -/
theorem read_of_tells {rows : List (List Char)} {records : List ServerRecord}
    (hrows : ∀ row ∈ rows, IsRow row) (h : Tells tag ServerRecord.row rows records)
    (hplain : ∀ r ∈ records, r.IsPlain) (cid : UInt32) :
    read (textOf rows) cid = .ok (ofNamed (ServerRecord.namedFor cid records)) := by
  rw [read, textOf, String.toList_ofList, textLines_intercalate hrows]
  exact foldlM_addLine h hplain []

end NameServers

end ModemLink.Reply
