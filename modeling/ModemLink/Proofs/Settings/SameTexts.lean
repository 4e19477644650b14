import ModemLink.Proofs.Text.Numbers
import ModemLink.Settings.Basic

/-!
# Settings from the command line and from variables

A bearer can be described on the command line or in variables. The two are read by different rules:
variables are looked up by name, an empty one counts as absent, and there are variables for choices
that the command line does not offer. Given the same texts they agree all the same. What is left
to the defaults is left to the same ones, and the one text that can be at fault, the number of the
context, is read alike.

Source: the specification, section 10.8.

## Main definitions

* `SettingTexts`: the texts that describe a bearer, on the command line or in variables.
* `SettingTexts.Gives`: the settings that these texts give, or the fault.

## Main results

* `SettingTexts.ofArguments_toArguments`, `SettingTexts.ofVariables_toVariables`: what is read of
  each.
* `SettingTexts.ofArguments_eq_ofVariables`: the two are the same, and are what the texts give.
-/

namespace ModemLink

open Text

/-- The texts that describe one bearer. -/
structure SettingTexts where
  /-- The path of the command port. -/
  device : String
  /-- The network interface of the session. -/
  dataPort : String
  acmId : String
  ncmId : String
  /-- The number of the context, as it is written. -/
  cid : String
  /-- The user and the password, if there are any. -/
  credentials : Option (String × String) := none
  /-- Neither the user nor the password is the empty text. -/
  nonEmpty : ∀ c ∈ credentials, c.1 ≠ "" ∧ c.2 ≠ "" := by simp

namespace SettingTexts

/-- The texts as arguments of a command line. -/
def toArguments (t : SettingTexts) : List String :=
  ["useInline", t.device, t.dataPort, t.acmId, t.ncmId, t.cid] ++
    t.credentials.elim [] fun c => [c.1, c.2]

/-- The texts as variables, with no other variable set. -/
def toVariables (t : SettingTexts) : Variables :=
  [("XMM_DEVICE", t.device), ("XMM_DATA_PORT", t.dataPort), ("XMM_ACM_ID", t.acmId),
    ("XMM_NCM_ID", t.ncmId), ("XMM_CID", t.cid)] ++
    t.credentials.elim [] fun c => [("XMM_USER", c.1), ("XMM_PASSWORD", c.2)]

/-- The settings that the texts describe, given the number of the context. Nothing is said of the
character set, the address family and the allowed methods. -/
def settings (t : SettingTexts) (cid : UInt32) : Settings where
  device := t.device
  dataPort := t.dataPort
  acmId := t.acmId
  ncmId := t.ncmId
  charset := .ira
  profile :=
    { user := t.credentials.map Prod.fst
      password := t.credentials.map Prod.snd
      allowedAuth := .unspecified
      family := .ipv4v6
      cid }

/-- What the texts give. The number of the context may have white space around it and a plus sign in
front. Zero is reported apart from a text that spells no number of 32 bits; with this one goes the
reason. -/
inductive Gives (t : SettingTexts) : Except SettingsFault Settings → Prop
  | settings {cid : UInt32} (spelled : Spells (trim t.cid.toList) cid.toNat) (pos : 1 ≤ cid) :
    Gives t (.ok (t.settings cid))
  | zero (spelled : Spells (trim t.cid.toList) 0) : Gives t (.error .zeroCid)
  | misspelt {reason : NumberFault} (why : readNumber (trim t.cid.toList) = .error reason)
    (unspelled : ∀ value < UInt32.size, ¬ Spells (trim t.cid.toList) value) :
    Gives t (.error (.cid t.cid reason))

/-! ### Two readings -/

variable (t : SettingTexts)

theorem ofArguments_toArguments (env : Variables) (file : Option String) :
    Settings.ofArguments t.toArguments env file = (Settings.readCid t.cid).map t.settings := by
  obtain ⟨device, dataPort, acmId, ncmId, cid, credentials, hne⟩ := t
  cases credentials with
  | none =>
    simp only [toArguments, Option.elim, List.append_nil, Settings.ofArguments]
    cases Settings.readCid cid with
    | error fault => rfl
    | ok n => rfl
  | some c =>
    simp only [toArguments, Option.elim, List.cons_append, List.nil_append, Settings.ofArguments]
    cases Settings.readCid cid with
    | error fault => rfl
    | ok n => rfl

/-- A credential that is not empty counts as it is. -/
theorem nonEmpty_toVariables :
    Settings.nonEmpty t.toVariables.value? "XMM_USER" = t.credentials.map Prod.fst ∧
      Settings.nonEmpty t.toVariables.value? "XMM_PASSWORD" = t.credentials.map Prod.snd := by
  obtain ⟨device, dataPort, acmId, ncmId, cid, credentials, hne⟩ := t
  cases credentials with
  | none => simp [Settings.nonEmpty, toVariables, Variables.value?, List.lookup_cons]
  | some c =>
    obtain ⟨huser, hpassword⟩ := hne c rfl
    simp [Settings.nonEmpty, toVariables, Variables.value?, List.lookup_cons, huser, hpassword]

/-- What the command line leaves open is in no variable, and so it is left to the default. -/
theorem choice_toVariables {α : Type} [Inhabited α] (read : String → Except ChoiceFault α)
    {key : String} (h : key ∈ ["XMM_IP_TYPE", "XMM_ALLOWED_AUTH", "XMM_CHARSET"]) :
    Settings.choice t.toVariables.value? key read = .ok default := by
  have hunset : t.toVariables.value? key = none := by
    obtain ⟨device, dataPort, acmId, ncmId, cid, credentials, hne⟩ := t
    simp only [List.mem_cons, List.not_mem_nil, or_false] at h
    cases credentials with
    | none => rcases h with rfl | rfl | rfl <;> rfl
    | some c => rcases h with rfl | rfl | rfl <;> rfl
  rw [Settings.choice, Settings.nonEmpty, hunset]
  rfl

theorem ofVariables_toVariables :
    Settings.ofVariables t.toVariables.value? = (Settings.readCid t.cid).map t.settings := by
  obtain ⟨huser, hpassword⟩ := t.nonEmpty_toVariables
  have hcid : t.toVariables.value? "XMM_CID" = some t.cid := by
    simp [toVariables, Variables.value?, List.lookup_cons]
  have hdevice : Settings.required t.toVariables.value? "XMM_DEVICE" = .ok t.device := rfl
  have hport : Settings.required t.toVariables.value? "XMM_DATA_PORT" = .ok t.dataPort := rfl
  have hacm : Settings.required t.toVariables.value? "XMM_ACM_ID" = .ok t.acmId := rfl
  have hncm : Settings.required t.toVariables.value? "XMM_NCM_ID" = .ok t.ncmId := rfl
  rw [Settings.ofVariables, hcid, t.choice_toVariables IpFamily.read (by simp),
    t.choice_toVariables AllowedAuth.read (by simp), t.choice_toVariables Charset.read (by simp),
    hdevice, hport, hacm, hncm, huser, hpassword]
  dsimp only
  cases Settings.readCid t.cid with
  | error fault => rfl
  | ok n => rfl

/-! ### The number of the context -/

/-- The texts are at fault exactly as far as the number of the context is. -/
theorem gives_readCid : t.Gives ((Settings.readCid t.cid).map t.settings) := by
  rw [Settings.readCid]
  cases hread : readNumber (trim t.cid.toList) with
  | error reason =>
    have hnone : number? (trim t.cid.toList) = none := by rw [number?, hread]; rfl
    refine .misspelt hread fun value hvalue hspells => ?_
    exact Nat.not_le_of_lt hvalue (number?_eq_none_iff.mp hnone value hspells)
  | ok cid =>
    have hsome : number? (trim t.cid.toList) = some cid := by rw [number?, hread]; rfl
    have hspells := number?_eq_some_iff.mp hsome
    by_cases hzero : cid = 0
    · subst hzero
      exact .zero hspells
    · have hpos : 1 ≤ cid := by
        rw [UInt32.le_iff_toNat_le]
        have hne : cid.toNat ≠ 0 := fun h => hzero (UInt32.toNat_inj.mp h)
        change 1 ≤ cid.toNat
        omega
      simp only [if_neg hzero]
      exact .settings hspells hpos

/-- The same texts give the same settings on the command line and in variables, or the same fault.
The context is then one or more, and what was not said is left to the same defaults. -/
theorem ofArguments_eq_ofVariables (env : Variables) (file : Option String) :
    Settings.ofArguments t.toArguments env file = Settings.ofVariables t.toVariables.value? ∧
      t.Gives (Settings.ofVariables t.toVariables.value?) := by
  rw [ofArguments_toArguments, ofVariables_toVariables]
  exact ⟨rfl, t.gives_readCid⟩

/-- A plus sign and white space in front of the number of the context are read over. -/
theorem ofArguments_eq_ofVariables_signed :
    let t : SettingTexts := { device := "/dev/ttyACM0", dataPort := "wwan0", acmId := "acm",
                              ncmId := "ncm", cid := " +3", credentials := some ("user", "pass") }
    Settings.ofArguments t.toArguments [] none = .ok (t.settings 3) ∧
      Settings.ofVariables t.toVariables.value? = .ok (t.settings 3) := by
  intro t
  have hcid : Settings.readCid " +3" = .ok 3 := by rfl
  obtain ⟨hsame, -⟩ := t.ofArguments_eq_ofVariables [] none
  have hargs : Settings.ofArguments t.toArguments [] none = .ok (t.settings 3) := by
    rw [ofArguments_toArguments, hcid]
    rfl
  exact ⟨hargs, hsame.symm.trans hargs⟩

end SettingTexts

end ModemLink
