import ModemLink.Profile
import ModemLink.Proofs.Text.Lines

/-!
# The methods that a written set names

A written set is read item by item, but what it means is a matter of which methods its items name.
An item counts by what it says once the white space around it and the case of its letters are put
aside; a blank item says nothing. The first item that says something other than the name of a method
ends the reading. Where there is none, order and repetition of the items, the separators between
them, blank items, case and white space make no difference, neither to the set nor to the method
that is chosen by it.

Source: the specification, sections 4.1 and 10.8.

## Main definitions

* `Text.Separated`: the items that stand between the separators of a text.
* `AllowedAuth.word`, `AllowedAuth.Says`: what items say.
* `AllowedAuth.Names`: the methods that items name.
* `Profile.Chooses`: the method that follows from the methods named.

## Main results

* `AllowedAuth.read_eq_ok_iff`, `AllowedAuth.read_eq_error_iff`: what is read of a written set.
* `AllowedAuth.read_append`: the sets that two written sets name are united.
* `Profile.authMethod_eq_iff`: how the choice depends on the methods named.
* `AllowedAuth.read_by_item`: all of this of one written set.
-/

namespace ModemLink

namespace Text

/-! ### Items between separators -/

/-- The items are the text between its separators, of which they hold none. -/
inductive Separated (sep : Char → Bool) : List (List Char) → List Char → Prop
  | last {item : List Char} (plain : ∀ c ∈ item, sep c = false) : Separated sep [item] item
  | next {item rest : List Char} {items : List (List Char)} {d : Char}
    (plain : ∀ c ∈ item, sep c = false) (hd : sep d = true) (more : Separated sep items rest) :
    Separated sep (item :: items) (item ++ d :: rest)

variable {sep : Char → Bool} {s : List Char} {items : List (List Char)}

theorem Separated.splitOnP_eq (h : Separated sep items s) : s.splitOnP sep = items := by
  induction h with
  | last plain => exact List.splitOnP_eq_singleton plain
  | next plain hd more ih => rw [List.splitOnP_append_cons_of_forall_mem plain _ hd, ih]

/-- Every text is cut into the items between its separators. -/
theorem separated_splitOnP (sep : Char → Bool) (s : List Char) :
    Separated sep (s.splitOnP sep) s := by
  induction s with
  | nil => exact .last (by simp)
  | cons c s ih =>
    rw [List.splitOnP_cons_eq_if_modifyHead]
    by_cases hc : sep c = true
    · rw [if_pos hc]
      exact .next (by simp) hc ih
    · have hplain {item : List Char} (h : ∀ e ∈ item, sep e = false) :
          ∀ e ∈ c :: item, sep e = false :=
        List.forall_mem_cons.mpr ⟨by simpa using hc, h⟩
      rw [if_neg hc]
      generalize s.splitOnP sep = items at ih
      cases ih with
      | last plain => exact .last (hplain plain)
      | next plain hd more => exact .next (hplain plain) hd more

end Text

namespace AllowedAuth

open Text

/-! ### Sets of methods -/

variable {a b : AllowedAuth}

theorem allows_union (a b : AllowedAuth) (m : AuthMethod) :
    (a.union b).allows m = true ↔ a.allows m = true ∨ b.allows m = true := by
  cases m with
  | none => simp [union, allows]
  | pap => simp [union, allows]
  | chap => simp [union, allows]

theorem allows_only (m m' : AuthMethod) : (only m).allows m' = true ↔ m = m' := by
  cases m <;> cases m' <;> decide

theorem not_allows_unspecified (m : AuthMethod) : ¬ unspecified.allows m = true := by
  cases m <;> decide

/-- A set is told by the methods in it. -/
theorem ext_allows (h : ∀ m, a.allows m = true ↔ b.allows m = true) : a = b := by
  obtain ⟨none, pap, chap⟩ := a
  obtain ⟨none', pap', chap'⟩ := b
  have hnone := h .none
  have hpap := h .pap
  have hchap := h .chap
  simp only [allows, Bool.coe_iff_coe] at hnone hpap hchap
  rw [hnone, hpap, hchap]

theorem eq_unspecified_iff : a = unspecified ↔ ∀ m, ¬ a.allows m = true := by
  constructor
  · rintro rfl
    exact not_allows_unspecified
  · intro h
    exact ext_allows fun m => iff_of_false (h m) (not_allows_unspecified m)

theorem union_unspecified (a : AllowedAuth) : a.union unspecified = a :=
  ext_allows fun m => by rw [allows_union, or_iff_left (not_allows_unspecified m)]

theorem union_assoc (a b c : AllowedAuth) : (a.union b).union c = a.union (b.union c) :=
  ext_allows fun m => by simp only [allows_union, or_assoc]

/-! ### What items say -/

/-- The separators of a written set. -/
def isSeparator (c : Char) : Bool :=
  c == '|' || c == ','

/-- What an item says: its text without the white space around it, in lower case. -/
def word (item : List Char) : List Char :=
  (trim item).map Char.toLower

/-- One of the items says the word. -/
def Says (items : List (List Char)) (said : List Char) : Prop :=
  said ≠ [] ∧ ∃ item ∈ items, word item = said

/-- One of the items names the method. -/
def Names (items : List (List Char)) (m : AuthMethod) : Prop :=
  ∃ item ∈ items, word item = (nameOf m).toList

/-- The item is blank, or it names a method. -/
def IsAccepted (item : List Char) : Prop :=
  trim item = [] ∨ ∃ m, word item = (nameOf m).toList

variable {item : List Char} {items others : List (List Char)}

theorem nameOf_ne_nil (m : AuthMethod) : (nameOf m).toList ≠ [] := by
  cases m <;> decide

theorem nameOf_injective {m m' : AuthMethod} (h : (nameOf m).toList = (nameOf m').toList) :
    m = m' := by
  revert h
  cases m <;> cases m' <;> decide

theorem word_eq_nil_iff : word item = [] ↔ trim item = [] :=
  List.map_eq_nil_iff

theorem trim_ne_nil_of_word {m : AuthMethod} (h : word item = (nameOf m).toList) :
    trim item ≠ [] := fun hblank =>
  nameOf_ne_nil m (h.symm.trans (word_eq_nil_iff.mpr hblank))

theorem names_cons_iff {m : AuthMethod} :
    Names (item :: items) m ↔ word item = (nameOf m).toList ∨ Names items m := by
  simp [Names]

theorem says_nameOf_iff {m : AuthMethod} : Says items (nameOf m).toList ↔ Names items m :=
  and_iff_right (nameOf_ne_nil m)

/-- Items are accepted where all that they say are names of methods. -/
theorem forall_isAccepted_iff : (∀ item ∈ items, IsAccepted item) ↔
    ∀ said, Says items said → ∃ m, said = (nameOf m).toList := by
  constructor
  · rintro h said ⟨hne, item, hitem, rfl⟩
    exact (h item hitem).resolve_left fun hblank => hne (word_eq_nil_iff.mpr hblank)
  · intro h item hitem
    by_cases hblank : trim item = []
    · exact .inl hblank
    · exact .inr (h _ ⟨fun hnil => hblank (word_eq_nil_iff.mp hnil), item, hitem, rfl⟩)

/-! ### Reading items -/

theorem readMethod_eq_ok {text : List Char} {m : AuthMethod}
    (h : text.map Char.toLower = (nameOf m).toList) : readMethod text = .ok m := by
  rw [readMethod, h, String.ofList_toList]
  cases m <;> rfl

theorem readMethod_eq_error {text : List Char}
    (h : ∀ m, text.map Char.toLower ≠ (nameOf m).toList) :
    readMethod text = .error (.auth (String.ofList (text.map Char.toLower))) := by
  have hother (m : AuthMethod) : String.ofList (text.map Char.toLower) ≠ nameOf m := fun heq =>
    h m (by rw [← heq, String.toList_ofList])
  rw [readMethod]
  split
  · next heq => exact absurd heq (hother .none)
  · next heq => exact absurd heq (hother .pap)
  · next heq => exact absurd heq (hother .chap)
  · rfl

/-- What is read of items, as they stand between the separators, when some methods are known. -/
def readItems (a : AllowedAuth) (items : List (List Char)) : Except ChoiceFault AllowedAuth :=
  addItems a ((items.map trim).filter (!·.isEmpty))

theorem read_eq_readItems {s : String} (h : Separated isSeparator items s.toList) :
    read s = readItems unspecified items := by
  have hsplit : (s.toList.splitOnP fun c => c == '|' || c == ',') = items := h.splitOnP_eq
  rw [read, AllowedAuth.items, hsplit, readItems]

theorem readItems_cons_blank (h : trim item = []) (a : AllowedAuth) (rest : List (List Char)) :
    readItems a (item :: rest) = readItems a rest := by
  simp [readItems, h]

theorem readItems_cons_name {m : AuthMethod} (h : word item = (nameOf m).toList)
    (a : AllowedAuth) (rest : List (List Char)) :
    readItems a (item :: rest) = readItems (a.union (only m)) rest := by
  have hkept : (!(trim item).isEmpty) = true := by simpa using trim_ne_nil_of_word h
  rw [readItems, List.map_cons, List.filter_cons, if_pos hkept, addItems, readMethod_eq_ok h,
    readItems]

theorem readItems_cons_error (h : ¬ IsAccepted item) (a : AllowedAuth)
    (rest : List (List Char)) :
    readItems a (item :: rest) = .error (.auth (String.ofList (word item))) := by
  obtain ⟨hblank, hname⟩ := not_or.mp h
  have hkept : (!(trim item).isEmpty) = true := by simpa using hblank
  rw [readItems, List.map_cons, List.filter_cons, if_pos hkept, addItems,
    readMethod_eq_error fun m hm => hname ⟨m, hm⟩, word]

/-- Items that are accepted add the methods that they name to those known. -/
theorem exists_readItems_eq_ok (h : ∀ item ∈ items, IsAccepted item) (a : AllowedAuth) :
    ∃ set, readItems a items = .ok set ∧
      ∀ m, set.allows m = true ↔ a.allows m = true ∨ Names items m := by
  induction items generalizing a with
  | nil => exact ⟨a, rfl, fun m => by simp [Names]⟩
  | cons item items ih =>
    obtain ⟨hitem, hitems⟩ := List.forall_mem_cons.mp h
    rcases hitem with hblank | ⟨named, hnamed⟩
    · obtain ⟨set, hset, hallows⟩ := ih hitems a
      have hword (m : AuthMethod) : word item ≠ (nameOf m).toList := fun hm =>
        trim_ne_nil_of_word hm hblank
      refine ⟨set, (readItems_cons_blank hblank a items).trans hset, fun m => ?_⟩
      rw [hallows, names_cons_iff, or_iff_right (hword m)]
    · obtain ⟨set, hset, hallows⟩ := ih hitems (a.union (only named))
      have hword (m : AuthMethod) : word item = (nameOf m).toList ↔ named = m := by
        rw [hnamed]
        exact ⟨nameOf_injective, fun h => by rw [h]⟩
      refine ⟨set, (readItems_cons_name hnamed a items).trans hset, fun m => ?_⟩
      rw [hallows, allows_union, allows_only, names_cons_iff, hword, or_assoc]

theorem readItems_eq_error {before : List (List Char)} (h : ∀ item ∈ before, IsAccepted item)
    (hitem : ¬ IsAccepted item) (a : AllowedAuth) (after : List (List Char)) :
    readItems a (before ++ item :: after) = .error (.auth (String.ofList (word item))) := by
  induction before generalizing a with
  | nil => exact readItems_cons_error hitem a after
  | cons first before ih =>
    obtain ⟨hfirst, hbefore⟩ := List.forall_mem_cons.mp h
    rw [List.cons_append]
    rcases hfirst with hblank | ⟨named, hnamed⟩
    · rw [readItems_cons_blank hblank, ih hbefore]
    · rw [readItems_cons_name hnamed, ih hbefore]

/-- All items are accepted, or one of them is the first that is not. -/
theorem isAccepted_or_offends (items : List (List Char)) :
    (∀ item ∈ items, IsAccepted item) ∨ ∃ before item after, items = before ++ item :: after ∧
      (∀ i ∈ before, IsAccepted i) ∧ ¬ IsAccepted item := by
  induction items with
  | nil => exact .inl (by simp)
  | cons item items ih =>
    by_cases hitem : IsAccepted item
    · rcases ih with hitems | ⟨before, offending, after, rfl, hbefore, hoffends⟩
      · exact .inl (List.forall_mem_cons.mpr ⟨hitem, hitems⟩)
      · exact .inr ⟨item :: before, offending, after, rfl,
          List.forall_mem_cons.mpr ⟨hitem, hbefore⟩, hoffends⟩
    · exact .inr ⟨[], item, items, rfl, by simp, hitem⟩

/-! ### Reading a written set -/

section Read

variable {s : String} (hs : Separated isSeparator items s.toList)
include hs

/-- A written set is read where its items are accepted, and it has the methods that they name. -/
theorem read_eq_ok_iff {set : AllowedAuth} : read s = .ok set ↔
    (∀ item ∈ items, IsAccepted item) ∧ ∀ m, set.allows m = true ↔ Names items m := by
  rw [read_eq_readItems hs]
  rcases isAccepted_or_offends items with
    haccepted | ⟨before, item, after, rfl, hbefore, hoffends⟩
  · obtain ⟨named, hnamed, hadded⟩ := exists_readItems_eq_ok haccepted unspecified
    have hallows (m : AuthMethod) : named.allows m = true ↔ Names items m :=
      (hadded m).trans (or_iff_right (not_allows_unspecified m))
    rw [hnamed, Except.ok.injEq, and_iff_right haccepted]
    constructor
    · rintro rfl
      exact hallows
    · exact fun hset => ext_allows fun m => (hallows m).trans (hset m).symm
  · rw [readItems_eq_error hbefore hoffends]
    refine iff_of_false (fun h => by cases h) fun h => hoffends (h.1 item ?_)
    exact List.mem_append_right _ (List.mem_cons_self ..)

/-- The first item that is not accepted is named in the fault. -/
theorem read_eq_error_iff {fault : ChoiceFault} : read s = .error fault ↔
    ∃ before item after, items = before ++ item :: after ∧ (∀ i ∈ before, IsAccepted i) ∧
      ¬ IsAccepted item ∧ fault = .auth (String.ofList (word item)) := by
  rw [read_eq_readItems hs]
  constructor
  · intro h
    rcases isAccepted_or_offends items with
      haccepted | ⟨before, item, after, rfl, hbefore, hoffends⟩
    · obtain ⟨set, hset, -⟩ := exists_readItems_eq_ok haccepted unspecified
      cases hset.symm.trans h
    · rw [readItems_eq_error hbefore hoffends] at h
      cases h
      exact ⟨before, item, after, rfl, hbefore, hoffends, rfl⟩
  · rintro ⟨before, item, after, rfl, hbefore, hoffends, rfl⟩
    exact readItems_eq_error hbefore hoffends unspecified after

/-- Items that say the same are read as the same set. -/
theorem read_eq_ok_congr {t : String} (ht : Separated isSeparator others t.toList)
    (h : ∀ said, Says items said ↔ Says others said) (set : AllowedAuth) :
    read s = .ok set ↔ read t = .ok set := by
  simp only [read_eq_ok_iff hs, read_eq_ok_iff ht, forall_isAccepted_iff, ← says_nameOf_iff, h]

end Read

theorem addItems_append (a : AllowedAuth) (words more : List (List Char)) :
    addItems a (words ++ more) = (addItems a words).bind fun b => addItems b more := by
  induction words generalizing a with
  | nil => rfl
  | cons item words ih =>
    rw [List.cons_append, addItems, addItems]
    cases readMethod item with
    | error fault => rfl
    | ok m => exact ih _

/-- What is known before the reading is united with what is read. -/
theorem addItems_eq_map (a : AllowedAuth) (words : List (List Char)) :
    addItems a words = (addItems unspecified words).map a.union := by
  have hunion (b : AllowedAuth) : addItems (a.union b) words = (addItems b words).map a.union := by
    induction words generalizing b with
    | nil => rfl
    | cons item words ih =>
      rw [addItems, addItems]
      cases readMethod item with
      | error fault => rfl
      | ok m => exact (congrArg (addItems · words) (union_assoc a b (only m))).trans (ih _)
  rw [← hunion, union_unspecified]

/-- Of two written sets with a separator in between, the first fault is reported, or else the sets
are united. -/
theorem read_append {d : Char} (hd : isSeparator d = true) (s t : String) :
    read (s ++ String.singleton d ++ t) =
      (read s).bind fun a => (read t).map a.union := by
  have hitems : AllowedAuth.items (s ++ String.singleton d ++ t).toList =
      AllowedAuth.items s.toList ++ AllowedAuth.items t.toList := by
    have htext : (s ++ String.singleton d ++ t).toList = s.toList ++ d :: t.toList := by simp
    have hsplit : ((s.toList ++ d :: t.toList).splitOnP fun c => c == '|' || c == ',') =
        s.toList.splitOnP isSeparator ++ t.toList.splitOnP isSeparator :=
      List.splitOnP_append_cons _ _ hd
    rw [htext, AllowedAuth.items, hsplit, List.map_append, List.filter_append]
    rfl
  rw [read, hitems, addItems_append]
  exact congrArg _ (funext fun a => addItems_eq_map a _)

end AllowedAuth

/-! ### The choice of a method -/

namespace Profile

/-- The method that a bearer chooses when some are named: none without credentials, and else the
challenge before the plain password; where nothing is named the challenge, and where `none` is named
alone no method. -/
inductive Chooses (p : Profile) (Named : AuthMethod → Prop) : AuthMethod → Prop
  | absent (user : p.user = none) (password : p.password = none) : Chooses p Named .none
  | challenge (credentials : p.user ≠ none ∨ p.password ≠ none) (chap : Named .chap) :
    Chooses p Named .chap
  | password (credentials : p.user ≠ none ∨ p.password ≠ none) (pap : Named .pap)
    (chap : ¬ Named .chap) : Chooses p Named .pap
  | unspecified (credentials : p.user ≠ none ∨ p.password ≠ none) (nothing : ∀ m, ¬ Named m) :
    Chooses p Named .chap
  | declined (credentials : p.user ≠ none ∨ p.password ≠ none) (none : Named .none)
    (pap : ¬ Named .pap) (chap : ¬ Named .chap) : Chooses p Named .none

theorem hasCredentials_iff {p : Profile} :
    p.hasCredentials = true ↔ p.user ≠ none ∨ p.password ≠ none := by
  rw [hasCredentials, Bool.or_eq_true, Option.isSome_iff_ne_none, Option.isSome_iff_ne_none]

section Choice

variable {p : Profile} {Named : AuthMethod → Prop}
  (hnamed : ∀ m, p.allowedAuth.allows m = true ↔ Named m)
include hnamed

theorem isUnspecified_iff : p.allowedAuth.isUnspecified = true ↔ ∀ m, ¬ Named m := by
  rw [AllowedAuth.isUnspecified, beq_iff_eq, AllowedAuth.eq_unspecified_iff]
  exact forall_congr' fun m => not_congr (hnamed m)

theorem chooses_authMethod : p.Chooses Named p.authMethod := by
  have hpap : p.allowedAuth.pap = true ↔ Named .pap := hnamed .pap
  have hchap : p.allowedAuth.chap = true ↔ Named .chap := hnamed .chap
  rw [authMethod]
  split
  · next hnone =>
    have habsent : p.user = none ∧ p.password = none := by
      simpa [hasCredentials] using hnone
    exact .absent habsent.1 habsent.2
  · next hsome =>
    have hcredentials := hasCredentials_iff.mp (by simpa using hsome)
    split
    · next hallows => exact .challenge hcredentials (hchap.mp hallows)
    · next hnotChap =>
      split
      · next hallows => exact .password hcredentials (hpap.mp hallows) (mt hchap.mpr hnotChap)
      · next hnotPap =>
        split
        · next hnothing =>
          exact .unspecified hcredentials ((isUnspecified_iff hnamed).mp hnothing)
        · next hsomething =>
          -- Something is named, and it is neither of the two methods that prove who asks.
          refine .declined hcredentials ?_ (mt hpap.mpr hnotPap) (mt hchap.mpr hnotChap)
          refine Classical.byContradiction fun hnotNone => hsomething ?_
          refine (isUnspecified_iff hnamed).mpr fun m => ?_
          cases m with
          | none => exact hnotNone
          | pap => exact mt hpap.mpr hnotPap
          | chap => exact mt hchap.mpr hnotChap

theorem Chooses.authMethod_eq {m : AuthMethod} (h : p.Chooses Named m) : p.authMethod = m := by
  have hpap : p.allowedAuth.pap = true ↔ Named .pap := hnamed .pap
  have hchap : p.allowedAuth.chap = true ↔ Named .chap := hnamed .chap
  have hunspecified := isUnspecified_iff hnamed
  cases h with
  | absent huser hpassword => simp [authMethod, hasCredentials, huser, hpassword]
  | challenge hcredentials chap =>
    simp [authMethod, hasCredentials_iff.mpr hcredentials, hchap.mpr chap]
  | password hcredentials pap chap =>
    simp [authMethod, hasCredentials_iff.mpr hcredentials, hpap.mpr pap, mt hchap.mp chap]
  | unspecified hcredentials nothing =>
    simp [authMethod, hasCredentials_iff.mpr hcredentials, hunspecified.mpr nothing,
      mt hpap.mp (nothing .pap), mt hchap.mp (nothing .chap)]
  | declined hcredentials none pap chap =>
    have hsomething : ¬ p.allowedAuth.isUnspecified = true := fun hnothing =>
      hunspecified.mp hnothing .none none
    simp [authMethod, hasCredentials_iff.mpr hcredentials, hsomething, mt hpap.mp pap,
      mt hchap.mp chap]

/-- The method depends on the credentials and on which methods are named, and on nothing else. -/
theorem authMethod_eq_iff (m : AuthMethod) : p.authMethod = m ↔ p.Chooses Named m := by
  constructor
  · rintro rfl
    exact chooses_authMethod hnamed
  · exact Chooses.authMethod_eq hnamed

end Choice

end Profile

namespace AllowedAuth

open Text

/-! ### What a written set means -/

/-- What a written set of some items means. -/
structure Means (s : String) (items : List (List Char)) : Prop where
  /-- It is read where every item is blank or the name of a method, as the set of those named. -/
  read : ∀ set, AllowedAuth.read s = .ok set ↔
    (∀ item ∈ items, IsAccepted item) ∧ ∀ m, set.allows m = true ↔ Names items m
  /-- Where no method is named, the user did not say. -/
  unspecified : ∀ set, AllowedAuth.read s = .ok set →
    (set = .unspecified ↔ ∀ m, ¬ Names items m)
  /-- The fault is the first item that is neither, trimmed and in lower case. -/
  refused : ∀ fault, AllowedAuth.read s = .error fault ↔
    ∃ before item after, items = before ++ item :: after ∧ (∀ i ∈ before, IsAccepted i) ∧
      ¬ IsAccepted item ∧ fault = .auth (String.ofList (word item))
  /-- With another set behind a separator, the first fault is reported, or the sets are united. -/
  joined : ∀ d t, isSeparator d = true → AllowedAuth.read (s ++ String.singleton d ++ t) =
    (AllowedAuth.read s).bind fun a => (AllowedAuth.read t).map a.union
  /-- Only what is said matters: neither the order of the items nor how often each is there, which
  separators stand between them, how many of them are blank, and how each is spelled. -/
  unaffected : ∀ t others, Separated isSeparator others t.toList →
    (∀ said, Says items said ↔ Says others said) →
    ∀ set, AllowedAuth.read s = .ok set ↔ AllowedAuth.read t = .ok set
  /-- The method that is chosen depends on the methods named and on nothing else of the text. -/
  chosen : ∀ p : Profile, AllowedAuth.read s = .ok p.allowedAuth →
    ∀ m, p.authMethod = m ↔ p.Chooses (Names items) m

/-- Every written set has items, and means what they say. -/
theorem read_by_item (s : String) :
    ∃ items, Separated isSeparator items s.toList ∧ Means s items := by
  have hs := separated_splitOnP isSeparator s.toList
  refine ⟨_, hs, fun _ => read_eq_ok_iff hs, fun set hset => ?_, fun _ => read_eq_error_iff hs,
    fun d t hd => read_append hd s t, fun t others ht h => read_eq_ok_congr hs ht h,
    fun p hp => Profile.authMethod_eq_iff ((read_eq_ok_iff hs).mp hp).2⟩
  rw [eq_unspecified_iff]
  exact forall_congr' fun m => not_congr (((read_eq_ok_iff hs).mp hset).2 m)

/-- A set that names the challenge twice, and the plain password and blank items in between, is the
set of both names. Of these the challenge is chosen, and an item behind another separator that names
no method is at fault. -/
theorem read_by_item_twiceChap :
    ∃ items, Separated isSeparator items "Chap|, pap\t,CHAP".toList ∧
      (∀ item ∈ items, IsAccepted item) ∧ Names items .pap ∧ Names items .chap ∧
      ¬ Names items .none ∧
      read "pap,chap" = .ok { pap := true, chap := true } ∧
      read "Chap|, pap\t,CHAP|none;pap" = .error (.auth "none;pap") ∧
      ({ user := some "user", allowedAuth := { pap := true, chap := true }, cid := 1 } :
        Profile).Chooses (Names items) .chap := by
  obtain ⟨items, hitems, hmeans⟩ := read_by_item "Chap|, pap\t,CHAP"
  have hread : read "Chap|, pap\t,CHAP" = .ok { pap := true, chap := true } := rfl
  obtain ⟨haccepted, hallows⟩ := (hmeans.read _).mp hread
  let others : List (List Char) := [['p', 'a', 'p'], ['c', 'h', 'a', 'p']]
  have hothers : Separated isSeparator others (['p', 'a', 'p'] ++ ',' :: ['c', 'h', 'a', 'p']) :=
    .next (by simp [isSeparator]) rfl (.last (by simp [isSeparator]))
  have hnames : ∀ m, Names items m ↔ Names others m := fun m => by
    rw [← hallows m]
    cases m <;> simp [Names, others, allows] <;> decide
  -- Both sets say the names of the methods that they name, and nothing else.
  have hsaid : ∀ said, Says items said ↔ Says others said := by
    have haccepted' : ∀ item ∈ others, IsAccepted item := by
      intro item hitem
      rcases List.mem_pair.mp hitem with rfl | rfl
      · exact .inr ⟨.pap, by decide⟩
      · exact .inr ⟨.chap, by decide⟩
    intro said
    constructor
    · intro h
      obtain ⟨m, rfl⟩ := forall_isAccepted_iff.mp haccepted said h
      exact says_nameOf_iff.mpr ((hnames m).mp (says_nameOf_iff.mp h))
    · intro h
      obtain ⟨m, rfl⟩ := forall_isAccepted_iff.mp haccepted' said h
      exact says_nameOf_iff.mpr ((hnames m).mpr (says_nameOf_iff.mp h))
  refine ⟨items, hitems, haccepted, (hallows .pap).mp rfl, (hallows .chap).mp rfl,
    mt (hallows .none).mpr Bool.false_ne_true,
    (hmeans.unaffected _ _ hothers hsaid _).mp hread, ?_, (hmeans.chosen _ hread .chap).mp rfl⟩
  exact (hmeans.joined '|' "none;pap" rfl).trans rfl

end AllowedAuth

end ModemLink
