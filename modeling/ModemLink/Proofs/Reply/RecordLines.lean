import ModemLink.Proofs.Reply.Spacing
import ModemLink.Reply.Record

/-!
# Which lines of a reply are records

Whether a line is a record is not told by the line alone. Where one line of the reply carries the
name of the command, the records are what follows the name on such lines, and no other line counts;
where none does, every line that is not blank is a record. White space around a line, or around a
record, does not belong to it.

## Main definitions

* `TaggedLines`, `BareLines`: the records of lines, one line after another.
* `HasRecords`: the records of a reply.
* `Leads`: the text of the first record, as it stands in its line.

## Main results

* `records_eq_iff`: the records of a reply are told by its lines.
* `head?_records_eq_some_iff`: the first record is the text that leads, without the white space
  around it.
-/

namespace ModemLink.Reply

open Text

/-- The records of lines of which those that carry the name count: what follows the name. -/
inductive TaggedLines (tag : List Char) : List (List Char) → List (List Char) → Prop
  | nil : TaggedLines tag [] []
  | record {line rest : List Char} {more recs : List (List Char)} (eq : trim line = tag ++ rest)
    (others : TaggedLines tag more recs) : TaggedLines tag (line :: more) (trim rest :: recs)
  | noise {line : List Char} {more recs : List (List Char)} (untagged : ¬ tag <+: trim line)
    (others : TaggedLines tag more recs) : TaggedLines tag (line :: more) recs

/-- The records of lines of which all count but the blank ones. -/
inductive BareLines : List (List Char) → List (List Char) → Prop
  | nil : BareLines [] []
  | record {line : List Char} {more recs : List (List Char)} (ne : trim line ≠ [])
    (others : BareLines more recs) : BareLines (line :: more) (trim line :: recs)
  | blank {line : List Char} {more recs : List (List Char)} (eq : trim line = [])
    (others : BareLines more recs) : BareLines (line :: more) recs

/-- The records of a reply, which are those that carry the name where one line does. -/
inductive HasRecords (tag reply : List Char) (recs : List (List Char)) : Prop
  | tagged (some : ∃ line ∈ lines reply, tag <+: trim line)
    (each : TaggedLines tag (lines reply) recs) : HasRecords tag reply recs
  | bare (none : ∀ line ∈ lines reply, ¬ tag <+: trim line)
    (each : BareLines (lines reply) recs) : HasRecords tag reply recs

/-- The text is what the first record is spelled by: the rest of the first line that carries the
name, whatever lines there are before and after it; or the first line that is not blank, where no
line carries the name. -/
inductive Leads (tag reply text : List Char) : Prop
  | tagged {before after : List (List Char)} {front : List Char}
    (eq : lines reply = before ++ (front ++ (tag ++ text)) :: after)
    (front_blank : ∀ c ∈ front, isBlank c = true)
    (untagged : ∀ line ∈ before, ¬ tag <+: trim line) : Leads tag reply text
  | bare {before after : List (List Char)} (eq : lines reply = before ++ text :: after)
    (before_blank : ∀ line ∈ before, trim line = []) (ne : trim text ≠ [])
    (untagged : ∀ line ∈ text :: after, ¬ tag <+: trim line) : Leads tag reply text

variable {tag reply text record : List Char} {rows recs : List (List Char)}

theorem isPrefixOf?_eq_none_iff {row : List Char} :
    tag.isPrefixOf? row = none ↔ ¬ tag <+: row := by
  rw [← Option.not_isSome_iff_eq_none, List.isSome_isPrefixOf?_eq_isPrefixOf,
    List.isPrefixOf_iff_prefix]

theorem recordsOf_of_ne_nil (h : rows.filterMap (List.isPrefixOf? tag) ≠ []) :
    recordsOf tag rows = (rows.filterMap (List.isPrefixOf? tag)).map trim := by
  rw [recordsOf]
  split
  · next hnil => exact absurd hnil h
  · rfl

/-! ### The records of lines -/

theorem TaggedLines.eq (h : TaggedLines tag rows recs) :
    ((rows.map trim).filterMap (List.isPrefixOf? tag)).map trim = recs := by
  induction h with
  | nil => rfl
  | record eq others ih =>
    rw [List.map_cons, List.filterMap_cons, List.isPrefixOf?_eq_some_iff_append_eq.mpr eq.symm,
      List.map_cons, ih]
  | noise untagged others ih =>
    rw [List.map_cons, List.filterMap_cons, isPrefixOf?_eq_none_iff.mpr untagged, ih]

theorem BareLines.eq (h : BareLines rows recs) :
    (rows.map trim).filter (!·.isEmpty) = recs := by
  induction h with
  | nil => rfl
  | @record line more recs ne others ih =>
    rw [List.map_cons, List.filter_cons, if_pos (by simpa using ne), ih]
  | blank eq others ih => rw [List.map_cons, List.filter_cons, if_neg (by simp [eq]), ih]

theorem exists_taggedLines (tag : List Char) (rows : List (List Char)) :
    ∃ recs, TaggedLines tag rows recs := by
  induction rows with
  | nil => exact ⟨[], .nil⟩
  | cons line rows ih =>
    obtain ⟨recs, hrecs⟩ := ih
    by_cases htagged : tag <+: trim line
    · obtain ⟨rest, hrest⟩ := htagged
      exact ⟨_, .record hrest.symm hrecs⟩
    · exact ⟨recs, .noise htagged hrecs⟩

theorem exists_bareLines (rows : List (List Char)) : ∃ recs, BareLines rows recs := by
  induction rows with
  | nil => exact ⟨[], .nil⟩
  | cons line rows ih =>
    obtain ⟨recs, hrecs⟩ := ih
    by_cases hblank : trim line = []
    · exact ⟨recs, .blank hblank hrecs⟩
    · exact ⟨_, .record hblank hrecs⟩

theorem TaggedLines.noise_append {before : List (List Char)} (h : TaggedLines tag rows recs)
    (hbefore : ∀ line ∈ before, ¬ tag <+: trim line) : TaggedLines tag (before ++ rows) recs := by
  induction before with
  | nil => exact h
  | cons line before ih =>
    obtain ⟨hline, hbefore⟩ := List.forall_mem_cons.mp hbefore
    exact .noise hline (ih hbefore)

theorem BareLines.blank_append {before : List (List Char)} (h : BareLines rows recs)
    (hbefore : ∀ line ∈ before, trim line = []) : BareLines (before ++ rows) recs := by
  induction before with
  | nil => exact h
  | cons line before ih =>
    obtain ⟨hline, hbefore⟩ := List.forall_mem_cons.mp hbefore
    exact .blank hline (ih hbefore)

/-- The first record is on the first line that carries the name. -/
theorem TaggedLines.exists_first (h : TaggedLines tag rows (record :: recs)) :
    ∃ before line rest after, rows = before ++ line :: after ∧
      (∀ line ∈ before, ¬ tag <+: trim line) ∧ trim line = tag ++ rest ∧ trim rest = record := by
  induction rows with
  | nil => cases h
  | cons line rows ih =>
    cases h with
    | record eq others => exact ⟨[], line, _, rows, rfl, by simp, eq, rfl⟩
    | noise untagged others =>
      obtain ⟨before, first, rest, after, rfl, hbefore, hfirst⟩ := ih others
      exact ⟨line :: before, first, rest, after, rfl,
        List.forall_mem_cons.mpr ⟨untagged, hbefore⟩, hfirst⟩

theorem BareLines.exists_first (h : BareLines rows (record :: recs)) :
    ∃ before line after, rows = before ++ line :: after ∧ (∀ line ∈ before, trim line = []) ∧
      trim line = record ∧ trim line ≠ [] := by
  induction rows with
  | nil => cases h
  | cons line rows ih =>
    cases h with
    | record ne others => exact ⟨[], line, rows, rfl, by simp, rfl, ne⟩
    | blank eq others =>
      obtain ⟨before, first, after, rfl, hbefore, hfirst⟩ := ih others
      exact ⟨line :: before, first, after, rfl, List.forall_mem_cons.mpr ⟨eq, hbefore⟩, hfirst⟩

/-! ### The records of a reply -/

section Records

variable (htag : tag ≠ [])
include htag

/-- A blank line carries no name, so that nothing is lost where these lines are left out first. -/
theorem filterMap_isPrefixOf?_textLines (reply : List Char) :
    (textLines reply).filterMap (List.isPrefixOf? tag) =
      ((lines reply).map trim).filterMap (List.isPrefixOf? tag) := by
  rw [textLines]
  generalize (lines reply).map trim = rows
  induction rows with
  | nil => rfl
  | cons row rows ih =>
    rw [List.filter_cons]
    split
    · rw [List.filterMap_cons, List.filterMap_cons, ih]
    · next hempty =>
      have hrow : row = [] := by simpa using hempty
      have hafter : tag.isPrefixOf? row = none :=
        isPrefixOf?_eq_none_iff.mpr fun htagged => htag (List.prefix_nil.mp (hrow ▸ htagged))
      rw [List.filterMap_cons, hafter, ih]

theorem HasRecords.records_eq (h : HasRecords tag reply recs) : records tag reply = recs := by
  cases h with
  | tagged some each =>
    obtain ⟨line, hline, rest, hrest⟩ := some
    have hmem : rest ∈ (textLines reply).filterMap (List.isPrefixOf? tag) := by
      rw [filterMap_isPrefixOf?_textLines htag]
      exact List.mem_filterMap.mpr
        ⟨trim line, List.mem_map_of_mem hline, List.isPrefixOf?_eq_some_iff_append_eq.mpr hrest⟩
    rw [records, recordsOf_of_ne_nil (List.ne_nil_of_mem hmem),
      filterMap_isPrefixOf?_textLines htag,
      each.eq]
  | bare none each =>
    have hnil : (textLines reply).filterMap (List.isPrefixOf? tag) = [] := by
      rw [filterMap_isPrefixOf?_textLines htag, List.filterMap_eq_nil_iff]
      intro row hrow
      obtain ⟨line, hline, rfl⟩ := List.mem_map.mp hrow
      exact isPrefixOf?_eq_none_iff.mpr (none line hline)
    rw [records, recordsOf, hnil]
    exact each.eq

theorem hasRecords_records (reply : List Char) : HasRecords tag reply (records tag reply) := by
  by_cases hsome : ∃ line ∈ lines reply, tag <+: trim line
  · obtain ⟨recs, hrecs⟩ := exists_taggedLines tag (lines reply)
    have h : HasRecords tag reply recs := .tagged hsome hrecs
    rwa [h.records_eq htag]
  · obtain ⟨recs, hrecs⟩ := exists_bareLines (lines reply)
    have h : HasRecords tag reply recs :=
      .bare (fun line hline htagged => hsome ⟨line, hline, htagged⟩) hrecs
    rwa [h.records_eq htag]

/-- The records of a reply are those that its lines tell, and no others. -/
theorem records_eq_iff : records tag reply = recs ↔ HasRecords tag reply recs := by
  constructor
  · rintro rfl
    exact hasRecords_records htag reply
  · exact fun h => h.records_eq htag

end Records

/-! ### The first record -/

/-- What leads a reply stands in one line of it. -/
theorem Leads.lineFeed_not_mem (h : Leads tag reply text) : '\n' ∉ text := by
  cases h with
  | @tagged before after front eq front_blank untagged =>
    have hline : front ++ (tag ++ text) ∈ lines reply := by simp [eq]
    have hfeed := lineFeed_not_mem_of_mem_lines hline
    exact fun hmem => hfeed (List.mem_append_right _ (List.mem_append_right _ hmem))
  | @bare before after eq before_blank ne untagged =>
    exact lineFeed_not_mem_of_mem_lines (s := reply) (by simp [eq])

/-- Whatever the first record is, a text of the reply leads that spells it. -/
theorem HasRecords.exists_leads (h : HasRecords tag reply (record :: recs)) :
    ∃ text, Leads tag reply text ∧ trim text = record := by
  cases h with
  | tagged some each =>
    obtain ⟨before, line, rest, after, eq, hbefore, hline, hrest⟩ := each.exists_first
    obtain ⟨front, back, hfront, hback, hpadded⟩ := padded_trim line
    rw [hpadded, hline, List.append_assoc] at eq
    refine ⟨rest ++ back, .tagged eq hfront hbefore, ?_⟩
    rw [← trim_trimEnd, trimEnd_append_blank hback, trim_trimEnd, hrest]
  | bare none each =>
    obtain ⟨before, line, after, eq, hbefore, hline, hne⟩ := each.exists_first
    refine ⟨line, .bare eq hbefore hne fun row hrow => none row ?_, hline⟩
    rw [eq]
    exact List.mem_append_right _ hrow

section First

variable (htrim : trim tag = tag) (htag : tag ≠ [])
include htrim htag

/-- White space in front of the name and behind what follows it does not belong to a line. -/
theorem trim_tagged {front : List Char} (hfront : ∀ c ∈ front, isBlank c = true)
    (text : List Char) : trim (front ++ (tag ++ text)) = tag ++ trimEnd text := by
  have hlast : ∀ c ∈ tag.getLast?, isBlank c = false := fun c hc =>
    getLast?_trim tag c (by rwa [htrim])
  have hhead : ∀ c ∈ (tag ++ text).head?, isBlank c = false := by
    intro c hc
    obtain ⟨d, t, rfl⟩ := List.exists_cons_of_ne_nil htag
    exact head?_trim (d :: t) c (by rwa [htrim])
  rw [trim, trimStart_blank_append hfront, trimStart_eq_self hhead, trimEnd_append hlast htag]

theorem Leads.exists_hasRecords (h : Leads tag reply text) :
    ∃ recs, HasRecords tag reply (trim text :: recs) := by
  cases h with
  | @tagged before after front eq front_blank untagged =>
    obtain ⟨recs, hrecs⟩ := exists_taggedLines tag after
    have hline := trim_tagged htrim htag front_blank text
    have heach : TaggedLines tag (lines reply) (trim text :: recs) := by
      rw [eq, ← trim_trimEnd text]
      exact TaggedLines.noise_append (.record hline hrecs) untagged
    refine ⟨recs, .tagged ⟨front ++ (tag ++ text), ?_, trimEnd text, hline.symm⟩ heach⟩
    rw [eq]
    exact List.mem_append_right _ (List.mem_cons_self ..)
  | @bare before after eq before_blank ne untagged =>
    obtain ⟨recs, hrecs⟩ := exists_bareLines after
    have heach : BareLines (lines reply) (trim text :: recs) := by
      rw [eq]
      exact BareLines.blank_append (.record ne hrecs) before_blank
    refine ⟨recs, .bare (fun line hline htagged => ?_) heach⟩
    rw [eq, List.mem_append] at hline
    rcases hline with hline | hline
    · rw [before_blank line hline, List.prefix_nil] at htagged
      exact htag htagged
    · exact untagged line hline htagged

/-- A reply has a first record exactly where a text of it leads, and the record is this text. -/
theorem head?_records_eq_some_iff : (records tag reply).head? = some record ↔
    ∃ text, Leads tag reply text ∧ trim text = record := by
  constructor
  · intro h
    obtain ⟨recs, hrecs⟩ := List.head?_eq_some_iff.mp h
    exact ((records_eq_iff htag).mp hrecs).exists_leads
  · rintro ⟨text, hleads, rfl⟩
    obtain ⟨recs, hrecs⟩ := hleads.exists_hasRecords htrim htag
    rw [hrecs.records_eq htag]
    rfl

end First

end ModemLink.Reply
