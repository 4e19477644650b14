import Mathlib.Data.List.Forall2
import Mathlib.Data.List.Induction
import ModemLink.Proofs.Reply.Readings

/-!
# What a reply tells of name servers, line by line

The reply to the name server query is read line by line, and each line can be judged by itself: it
gives servers of the context, or it is at fault. The first line at fault ends the reading with
its fault. Where there is none, the servers are all those that the lines name, in their order, each
at its first place. So what is read of two replies in a row is read of each, and put together.

Source: the specification, sections 4.4 and 10.1.

## Main definitions

* `NameServers.HasRecord`: a line with a record on it.
* `NameServers.Gives`: what a line gives for a context, servers or a fault.
* `NameServers.GiveAll`, `NameServers.FailsFirst`: lines without a fault, and the first fault.
* `NameServers.followedBy`: servers, and others that are told after them.

## Main results

* `NameServers.addLine_of_gives`: what a line does is add what it gives.
* `NameServers.read_by_line`: what is read of a reply, and with which fault the reading ends.
-/

namespace ModemLink.Reply.NameServers

open Text

/-! ### What a line gives -/

/-- A line with a record on it: the line carries the name of the command, and the record is what
follows it; or it begins with a digit, and is the record itself. -/
inductive HasRecord (row : List Char) : List Char → Prop
  | tagged {rest : List Char} (eq : row = tag ++ rest) : HasRecord row (trim rest)
  | bare {d : Char} {rest : List Char} (eq : row = d :: rest) (digit : d.isDigit = true) :
    HasRecord row row

/-- Fields that begin with the number of a context. -/
def OwnedBy (owner : UInt32) (fields behind : List Field) : Prop :=
  ∃ spelling, number? spelling = some owner ∧ fields = .bare spelling :: behind

/-- What a line gives for a context: the servers that it names, or the fault that ends the reading.
A record of another context names none, and is at fault only where its fields cannot be told apart
or begin with no number. -/
inductive Gives (cid : UInt32) (row : List Char) : Except ReplyFault (List String) → Prop
  | nothing (noise : ∀ record, ¬ HasRecord row record) : Gives cid row (.ok [])
  | uncut {record : List Char} (on : HasRecord row record) (cut : splitFields record = none) :
    Gives cid row (.error (.malformed .nameServer (String.ofList row)))
  | unowned {record : List Char} {fields : List Field} (on : HasRecord row record)
    (cut : splitFields record = some fields)
    (unowned : ∀ owner behind, ¬ OwnedBy owner fields behind) :
    Gives cid row (.error (.contextId .nameServer))
  | foreign {record : List Char} {fields behind : List Field} {owner : UInt32}
    (on : HasRecord row record) (cut : splitFields record = some fields)
    (owned : OwnedBy owner fields behind) (ne : owner ≠ cid) : Gives cid row (.ok [])
  | serverless {record : List Char} {fields behind : List Field} (on : HasRecord row record)
    (cut : splitFields record = some fields) (owned : OwnedBy cid fields behind)
    (lacks : ∀ first second more, behind ≠ .quoted first :: .quoted second :: more) :
    Gives cid row (.error (.malformed .nameServer (String.ofList row)))
  | servers {record first second : List Char} {fields more : List Field}
    (on : HasRecord row record) (cut : splitFields record = some fields)
    (owned : OwnedBy cid fields (.quoted first :: .quoted second :: more)) :
    Gives cid row (.ok [String.ofList first, String.ofList second])

variable {cid : UInt32} {row record : List Char} {fields behind : List Field}

theorem recordOn?_eq_some_iff : recordOn? row = some record ↔ HasRecord row record := by
  constructor
  · intro h
    rw [recordOn?] at h
    split at h
    · next rest hafter =>
      obtain rfl := Option.some.inj h
      exact .tagged (List.isPrefixOf?_eq_some_iff_append_eq.mp hafter).symm
    · cases row with
      | nil => cases h
      | cons d rest =>
        rw [Option.ite_none_right_eq_some] at h
        obtain ⟨hdigit, hrow⟩ := h
        obtain rfl := Option.some.inj hrow
        exact .bare rfl hdigit
  · intro h
    cases h with
    | tagged eq => rw [recordOn?, List.isPrefixOf?_eq_some_iff_append_eq.mpr eq.symm]
    | @bare d rest eq digit =>
      -- The name of the command begins with a plus sign, which is no digit.
      have hafter : tag.isPrefixOf? row = none := by
        rw [Option.eq_none_iff_forall_ne_some]
        intro rest' hafter
        have hhead := eq.symm.trans (List.isPrefixOf?_eq_some_iff_append_eq.mp hafter).symm
        rw [(List.cons.inj hhead).1] at digit
        exact absurd digit (by decide)
      rw [recordOn?, hafter, eq]
      simp [digit]

theorem recordOn?_eq_none_iff : recordOn? row = none ↔ ∀ record, ¬ HasRecord row record := by
  simp only [Option.eq_none_iff_forall_ne_some, ne_eq, recordOn?_eq_some_iff]

theorem owner_eq_some_iff {owner : UInt32} :
    fields.head?.bind Field.number? = some owner ↔ ∃ behind, OwnedBy owner fields behind := by
  constructor
  · intro h
    match fields with
    | .bare spelling :: behind => exact ⟨behind, spelling, h, rfl⟩
    | .quoted _ :: _ => cases h
    | [] => cases h
  · rintro ⟨behind, spelling, hnumber, rfl⟩
    exact hnumber

theorem owner_eq_none_iff :
    fields.head?.bind Field.number? = none ↔ ∀ owner behind, ¬ OwnedBy owner fields behind := by
  simp only [Option.eq_none_iff_forall_ne_some, ne_eq, owner_eq_some_iff, not_exists]

/-- Every line gives servers, if only none, or a fault. -/
theorem exists_gives (cid : UInt32) (row : List Char) : ∃ verdict, Gives cid row verdict := by
  cases hrecord : recordOn? row with
  | none => exact ⟨_, .nothing (recordOn?_eq_none_iff.mp hrecord)⟩
  | some record =>
    have hon := recordOn?_eq_some_iff.mp hrecord
    cases hcut : splitFields record with
    | none => exact ⟨_, .uncut hon hcut⟩
    | some fields =>
      cases howner : fields.head?.bind Field.number? with
      | none => exact ⟨_, .unowned hon hcut (owner_eq_none_iff.mp howner)⟩
      | some owner =>
        obtain ⟨behind, howned⟩ := owner_eq_some_iff.mp howner
        by_cases hcid : owner = cid
        · subst hcid
          by_cases hservers : ∃ first second more, behind = .quoted first :: .quoted second :: more
          · obtain ⟨first, second, more, rfl⟩ := hservers
            exact ⟨_, .servers hon hcut howned⟩
          · exact ⟨_, .serverless hon hcut howned fun first second more heq =>
              hservers ⟨first, second, more, heq⟩⟩
        · exact ⟨_, .foreign hon hcut howned hcid⟩

/-- Fields with texts between quotes in the two places behind the first one. -/
theorem eq_of_quotedAt {f : Field} {first second : List Char}
    (hfirst : Addresses.quotedAt (f :: behind) 1 = some first)
    (hsecond : Addresses.quotedAt (f :: behind) 2 = some second) :
    ∃ more, behind = .quoted first :: .quoted second :: more := by
  have hquoted {f : Field} {text : List Char} (h : f.quoted? = some text) : f = .quoted text := by
    cases f with
    | bare spelling => cases h
    | quoted text' => rw [Option.some.inj h]
  cases behind with
  | nil => cases hfirst
  | cons g others =>
    cases others with
    | nil => cases hsecond
    | cons g' more => exact ⟨more, by rw [hquoted hfirst, hquoted hsecond]⟩

/-- The servers with more of them, one after the other. -/
def addAll (servers : NameServers) (named : List String) : NameServers :=
  named.foldl (fun servers server => servers.add server.toList) servers

/-- What a line does is add what it gives. -/
theorem addLine_of_gives {verdict : Except ReplyFault (List String)} (h : Gives cid row verdict)
    (servers : NameServers) : addLine cid servers row = verdict.map servers.addAll := by
  cases h with
  | nothing noise =>
    rw [addLine, recordOn?_eq_none_iff.mpr noise]
    rfl
  | uncut on cut =>
    rw [addLine, recordOn?_eq_some_iff.mpr on]
    simp only [cut]
    rfl
  | unowned on cut unowned =>
    rw [addLine, recordOn?_eq_some_iff.mpr on]
    simp only [cut, owner_eq_none_iff.mpr unowned]
    rfl
  | foreign on cut owned ne =>
    rw [addLine, recordOn?_eq_some_iff.mpr on]
    simp only [cut, owner_eq_some_iff.mpr ⟨_, owned⟩]
    rw [if_pos ne]
    rfl
  | @serverless record fields behind on cut owned lacks =>
    rw [addLine, recordOn?_eq_some_iff.mpr on]
    simp only [cut, owner_eq_some_iff.mpr ⟨_, owned⟩]
    rw [if_neg (not_not_intro rfl)]
    obtain ⟨spelling, -, rfl⟩ := owned
    split
    · next first second hfirst hsecond =>
      obtain ⟨more, rfl⟩ := eq_of_quotedAt hfirst hsecond
      exact absurd rfl (lacks first second more)
    · rfl
  | servers on cut owned =>
    rw [addLine, recordOn?_eq_some_iff.mpr on]
    simp only [cut, owner_eq_some_iff.mpr ⟨_, owned⟩]
    rw [if_neg (not_not_intro rfl)]
    obtain ⟨spelling, -, rfl⟩ := owned
    simp [addAll, Addresses.quotedAt, Field.quoted?, Except.map]

/-! ### What the lines of a reply give -/

/-- Lines that are not at fault, each with the servers that it names. -/
abbrev GiveAll (cid : UInt32) (rows : List (List Char)) (named : List (List String)) : Prop :=
  List.Forall₂ (fun row named => Gives cid row (.ok named)) rows named

/-- Lines of which one is at fault, with the fault of the first. -/
inductive FailsFirst (cid : UInt32) : List (List Char) → ReplyFault → Prop
  | mk {before after : List (List Char)} {row : List Char} {fault : ReplyFault}
    {named : List (List String)} (sound : GiveAll cid before named)
    (fails : Gives cid row (.error fault)) : FailsFirst cid (before ++ row :: after) fault

theorem addAll_ofNamed (known named : List String) :
    (ofNamed known).addAll named = ofNamed (known ++ named) := by
  induction named generalizing known with
  | nil => rw [List.append_nil]; rfl
  | cons server named ih =>
    rw [addAll, List.foldl_cons, add_ofNamed, ← addAll, ih, List.append_assoc,
      List.singleton_append]

variable {rows : List (List Char)} {fault : ReplyFault}

theorem foldlM_of_giveAll {named : List (List String)} (h : GiveAll cid rows named)
    (known : List String) :
    rows.foldlM (addLine cid) (ofNamed known) = .ok (ofNamed (known ++ named.flatten)) := by
  induction h generalizing known with
  | nil =>
    rw [List.flatten_nil, List.append_nil]
    rfl
  | cons gives _ ih =>
    rw [List.foldlM_cons, addLine_of_gives gives, List.flatten_cons, ← List.append_assoc, ← ih,
      ← addAll_ofNamed]
    rfl

theorem foldlM_of_failsFirst (h : FailsFirst cid rows fault) (known : List String) :
    rows.foldlM (addLine cid) (ofNamed known) = .error fault := by
  obtain ⟨sound, fails⟩ := h
  rw [List.foldlM_append, foldlM_of_giveAll sound]
  change List.foldlM (addLine cid) _ (_ :: _) = _
  rw [List.foldlM_cons, addLine_of_gives fails]
  rfl

/-- Lines are all sound, or one of them is the first at fault. -/
theorem giveAll_or_failsFirst (cid : UInt32) (rows : List (List Char)) :
    (∃ named, GiveAll cid rows named) ∨ ∃ fault, FailsFirst cid rows fault := by
  induction rows with
  | nil => exact .inl ⟨[], .nil⟩
  | cons row rows ih =>
    obtain ⟨verdict, hgives⟩ := exists_gives cid row
    match verdict with
    | .error fault =>
      have hfails : FailsFirst cid ([] ++ row :: rows) fault := .mk .nil hgives
      exact .inr ⟨fault, hfails⟩
    | .ok named =>
      rcases ih with ⟨nameds, hall⟩ | ⟨fault, hall, hfails⟩
      · exact .inl ⟨named :: nameds, .cons hgives hall⟩
      · exact .inr ⟨fault, .mk (.cons hgives hall) hfails⟩

/-- The fold over lines ends in a fault exactly where one is at fault, with the fault of the
first. -/
theorem foldlM_eq_error_iff (known : List String) :
    rows.foldlM (addLine cid) (ofNamed known) = .error fault ↔ FailsFirst cid rows fault := by
  refine ⟨fun h => ?_, fun h => foldlM_of_failsFirst h known⟩
  rcases giveAll_or_failsFirst cid rows with ⟨named, hall⟩ | ⟨fault', hfails⟩
  · cases (foldlM_of_giveAll hall known).symm.trans h
  · cases (foldlM_of_failsFirst hfails known).symm.trans h
    exact hfails

theorem foldlM_eq_ok_iff {servers : NameServers} (known : List String) :
    rows.foldlM (addLine cid) (ofNamed known) = .ok servers ↔
      ∃ named, GiveAll cid rows named ∧ servers = ofNamed (known ++ named.flatten) := by
  constructor
  · intro h
    rcases giveAll_or_failsFirst cid rows with ⟨named, hall⟩ | ⟨fault, hfails⟩
    · exact ⟨named, hall, (Except.ok.inj ((foldlM_of_giveAll hall known).symm.trans h)).symm⟩
    · cases (foldlM_of_failsFirst hfails known).symm.trans h
  · rintro ⟨named, hall, rfl⟩
    exact foldlM_of_giveAll hall known

/-! ### Replies in a row -/

/-- Servers, and behind them those of `more` that are not among them. -/
def followedBy (servers more : NameServers) : NameServers where
  ipv4 := servers.ipv4 ++ more.ipv4.filter (· ∉ servers.ipv4)
  ipv6 := servers.ipv6 ++ more.ipv6.filter (· ∉ servers.ipv6)

theorem addNew_filter (p : String → Bool) (known : List String) (entry : String) :
    (addNew known entry).filter p =
      if p entry then addNew (known.filter p) entry else known.filter p := by
  by_cases hp : p entry = true
  · by_cases hmem : entry ∈ known
    · simp [addNew, hp, hmem]
    · simp [addNew, hp, hmem]
  · by_cases hmem : entry ∈ known
    · simp [addNew, hp, hmem]
    · simp [addNew, hp, hmem]

/-- First places are not lost where some entries are left out. -/
theorem eraseDups_filter (p : String → Bool) (l : List String) :
    (l.filter p).eraseDups = l.eraseDups.filter p := by
  induction l using List.reverseRecOn with
  | nil => rfl
  | append_singleton l entry ih =>
    rw [← addNew_eraseDups, addNew_filter, ← ih, List.filter_append]
    by_cases hp : p entry = true
    · rw [if_pos hp, addNew_eraseDups, List.filter_singleton, hp]
      rfl
    · rw [if_neg hp, List.filter_singleton, eq_false_of_ne_true hp, cond_false, List.append_nil]

theorem eraseDups_append_eq_filter (known more : List String) :
    (known ++ more).eraseDups =
      known.eraseDups ++ more.eraseDups.filter (· ∉ known.eraseDups) := by
  rw [List.eraseDups_append, List.removeAll, eraseDups_filter]
  simp [List.mem_eraseDups]

theorem ofNamed_append (known more : List String) :
    ofNamed (known ++ more) = (ofNamed known).followedBy (ofNamed more) := by
  rw [ofNamed, followedBy, List.filter_append, List.filter_append, eraseDups_append_eq_filter,
    eraseDups_append_eq_filter]
  rfl

/-- What lines add to known servers is what they tell by themselves. -/
theorem foldlM_eq_map_followedBy (rows : List (List Char)) (known : List String) :
    rows.foldlM (addLine cid) (ofNamed known) =
      (rows.foldlM (addLine cid) {}).map (ofNamed known).followedBy := by
  have hnil : ofNamed [] = {} := rfl
  rcases giveAll_or_failsFirst cid rows with ⟨named, hall⟩ | ⟨fault, hfails⟩
  · rw [← hnil, foldlM_of_giveAll hall, foldlM_of_giveAll hall, ofNamed_append]
    rfl
  · rw [← hnil, foldlM_of_failsFirst hfails, foldlM_of_failsFirst hfails]
    rfl

theorem read_append (reply more : String) (cid : UInt32) :
    read (reply ++ "\n" ++ more) cid =
      (read reply cid).bind fun servers => (read more cid).map servers.followedBy := by
  have hnil : ofNamed [] = {} := rfl
  have hlines : textLines (reply ++ "\n" ++ more).toList =
      textLines reply.toList ++ textLines more.toList := by
    rw [String.toList_append, String.toList_append, List.append_assoc]
    exact textLines_append reply.toList more.toList
  rw [read, read, hlines, List.foldlM_append, ← hnil]
  rcases giveAll_or_failsFirst cid (textLines reply.toList) with ⟨named, hall⟩ | ⟨fault, hfails⟩
  · rw [foldlM_of_giveAll hall, List.nil_append]
    exact foldlM_eq_map_followedBy (textLines more.toList) named.flatten
  · rw [foldlM_of_failsFirst hfails]
    rfl

/-- What is read of a reply. The reading ends in a fault exactly where a line is at fault, with the
fault of the first such line; otherwise the servers are those that the lines name for the context,
each at its first place. Of two replies in a row, the first is read, and then the second: what it
adds is what it tells by itself, without the servers known already. -/
theorem read_by_line (reply : String) (cid : UInt32) :
    (∀ fault, read reply cid = .error fault ↔ FailsFirst cid (textLines reply.toList) fault) ∧
    (∀ servers, read reply cid = .ok servers ↔
      ∃ named, GiveAll cid (textLines reply.toList) named ∧ servers = ofNamed named.flatten) ∧
    ∀ more, read (reply ++ "\n" ++ more) cid =
      (read reply cid).bind fun servers => (read more cid).map servers.followedBy :=
  ⟨fun _ => foldlM_eq_error_iff [], fun _ => foldlM_eq_ok_iff [],
    fun more => read_append reply more cid⟩

/-- A reply with a message and with records of two contexts, of which one names a server twice. -/
def repeatedServer : String :=
  "+XDNS: 2,\"9.9.9.9\"\r\nRING\r\n+XDNS: 1,\"10.0.0.1\",\"2001:db8::1\"\r\n" ++
    "+XDNS: 1,\"10.0.0.1\",\"0.0.0.0\""

/-- A record that names one server only. -/
def loneServer : String := "+XDNS: 1,\"10.0.0.2\""

/-- A server is kept at its first place, and a record without a second server ends the reading of a
longer reply as it ends its own. -/
theorem read_by_line_repeatedServer :
    read repeatedServer 1 = .ok { ipv4 := ["10.0.0.1"], ipv6 := ["2001:db8::1"] } ∧
    (∃ named, GiveAll 1 (textLines repeatedServer.toList) named ∧
      ofNamed named.flatten = { ipv4 := ["10.0.0.1"], ipv6 := ["2001:db8::1"] }) ∧
    FailsFirst 1 (textLines loneServer.toList) (.malformed .nameServer loneServer) ∧
    read (repeatedServer ++ "\n" ++ loneServer) 1 = .error (.malformed .nameServer loneServer) := by
  obtain ⟨-, hok, hjoined⟩ := read_by_line repeatedServer 1
  have hread : read repeatedServer 1 = .ok { ipv4 := ["10.0.0.1"], ipv6 := ["2001:db8::1"] } := by
    decide +kernel
  have hlone : read loneServer 1 = .error (.malformed .nameServer loneServer) := by
    decide +kernel
  obtain ⟨named, hall, hnamed⟩ := (hok _).mp hread
  refine ⟨hread, ⟨named, hall, hnamed.symm⟩, ((read_by_line loneServer 1).1 _).mp hlone, ?_⟩
  rw [hjoined loneServer, hread, hlone]
  rfl

end ModemLink.Reply.NameServers
