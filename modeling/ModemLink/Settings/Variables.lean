/-!
# Variables

Texts by name. A variable that has a value keeps it: a later definition of the same name
changes nothing, so what the caller sets is preferred to what a file says, and an earlier line
of a file to a later one.

A reference to a variable is resolved on definitions written out, `NAME=VALUE`. It may therefore
hold an equals sign and with it the beginning of a value, and refers to the rest of the value
then, as the search of a process's environment is observed to do.

Source: the specification, section 10.8.
-/

namespace ModemLink

/-- Names with their values. The first entry of a name counts. -/
abbrev Variables := List (String × String)

namespace Variables

/-- The value of a variable, if it is set. -/
def value? (v : Variables) (name : String) : Option String :=
  v.lookup name

/-- The variables with one more, unless its name is set already. -/
def define (v : Variables) (name value : String) : Variables :=
  if (v.value? name).isSome then v else v ++ [(name, value)]

/-- The definitions as they are written out. -/
def written (v : Variables) : List (List Char) :=
  v.map fun (name, value) => name.toList ++ '=' :: value.toList

/-- The text that a name refers to: what follows the name and an equals sign in the first
definition that begins with both. -/
def referent? (v : Variables) (name : List Char) : Option (List Char) :=
  v.written.findSome? (List.isPrefixOf? (name ++ ['=']))

private theorem isPrefixOf?_cons_cons (c d : Char) (cs ds : List Char) :
    (c :: cs).isPrefixOf? (d :: ds) = if c == d then cs.isPrefixOf? ds else none :=
  rfl

/-- Of names without an equals sign, a definition begins with its own only. -/
theorem isPrefixOf?_written {name key : List Char} (value : List Char) (hn : '=' ∉ name)
    (hk : '=' ∉ key) :
    (name ++ ['=']).isPrefixOf? (key ++ '=' :: value) =
      if name = key then some value else none := by
  induction name generalizing key with
  | nil =>
    cases key with
    | nil => rfl
    | cons k ks =>
      have hne : ('=' == k) = false := beq_eq_false_iff_ne.mpr (List.ne_of_not_mem_cons hk)
      simp [isPrefixOf?_cons_cons, hne]
  | cons c cs ih =>
    cases key with
    | nil =>
      have hne : (c == '=') = false := beq_eq_false_iff_ne.mpr (List.ne_of_not_mem_cons hn).symm
      simp [isPrefixOf?_cons_cons, hne]
    | cons k ks =>
      simp only [List.mem_cons, not_or] at hn hk
      by_cases h : c = k
      · simp [isPrefixOf?_cons_cons, h, ih hn.2 hk.2]
      · simp [isPrefixOf?_cons_cons, h]

/-- A name without an equals sign refers to the value of its variable. -/
theorem referent?_eq_value? {v : Variables} {name : String} (hn : '=' ∉ name.toList)
    (hv : ∀ d ∈ v, '=' ∉ d.1.toList) :
    v.referent? name.toList = (v.value? name).map String.toList := by
  induction v with
  | nil => rfl
  | cons d rest ih =>
    obtain ⟨key, value⟩ := d
    have hd := isPrefixOf?_written value.toList hn (hv (key, value) List.mem_cons_self)
    have hr := ih fun e he => hv e (List.mem_cons_of_mem (key, value) he)
    simp only [referent?, written, value?, List.map_cons, List.findSome?_cons, hd] at hr ⊢
    by_cases h : name = key
    · simp [h]
    · have hb : (name == key) = false := by simp [h]
      simp [List.lookup_cons, hb, hr, h, String.toList_inj]

/-- A definition counts for its own name, and only where that was not set. -/
theorem value?_define (v : Variables) (name value other : String) :
    (v.define name value).value? other =
      (v.value? other).or (if other = name then some value else none) := by
  unfold define
  split
  · next hs =>
    obtain ⟨known, hv⟩ := Option.isSome_iff_exists.mp hs
    by_cases h : other = name
    · simp [h, hv]
    · simp [h]
  · rw [value?, value?, List.lookup_append]
    by_cases h : other = name
    · simp [h]
    · have hb : (other == name) = false := by simp [h]
      simp [List.lookup_cons, h, hb]

end Variables

end ModemLink
