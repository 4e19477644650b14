import ModemLink.Command
import ModemLink.Proofs.Port.Echo
import ModemLink.Proofs.Reply.Fields
import ModemLink.Proofs.Text.Ucs2

/-!
# Credentials between quotes

The command that sets the credentials of a context has four fields: the method, the context, the
user and the password, the last two between quotes. A credential is put there as its character set
encodes it, and no quote is escaped. So the fields can be told apart exactly where no credential is
encoded with a quote, and the command is a single line exactly where none is encoded with a line
break. UCS-2 encodes neither; the seven bit sets let quotes through, and UTF-8 lets everything
through.

Source: the specification, sections 10.1 and 10.3.

## Main definitions

* `Command.arguments`: what stands behind the first equals sign of a command.
* `Command.credentialFields`: the fields that the command is to have.
* `Command.IsCommandLine`: a text that ends with a carriage return and has no other line break.

## Main results

* `Command.splitFields_arguments_iff`: where the fields are told apart.
* `Command.isCommandLine_credentials_iff`: where the command is a single line.
* `Command.credentials_confined`: how far credentials keep to their places.
-/

namespace ModemLink

namespace Command

open Reply

/-! ### The command as fields -/

/-- What stands behind the first equals sign. -/
def arguments (c : Command) : List Char :=
  (c.body.toList.dropWhile (· != '=')).drop 1

/-- The fields that the command is to have. -/
def credentialFields (set : Charset) (p : Profile) : List Field :=
  [.bare (toString p.authMethod.code).toList, .bare (toString p.cid).toList,
    .quoted (encoded set p.user).toList, .quoted (encoded set p.password).toList]

variable {set : Charset} {p : Profile}

theorem body_credentials (set : Charset) (p : Profile) :
    (credentials set p).body.toList =
      ['+', 'W', 'P', 'P', 'P', '='] ++ printFields (credentialFields set p) := by
  simp only [credentialFields, printFields_cons_cons, printFields_singleton, Field.print]
  by_cases hp : p.hasCredentials = true
  · simp [credentials, hp, String.toList_append]
  · have habsent : p.user = none ∧ p.password = none := by
      simpa [Profile.hasCredentials] using hp
    have hmethod : p.authMethod = .none := by simp [Profile.authMethod, hp]
    simp [credentials, hp, habsent, hmethod, encoded, AuthMethod.code, String.toList_append]

theorem arguments_credentials (set : Charset) (p : Profile) :
    (credentials set p).arguments = printFields (credentialFields set p) := by
  rw [arguments, body_credentials]
  rfl

theorem isDigit_code (m : AuthMethod) : ∀ c ∈ (toString m.code).toList, c.isDigit = true := by
  intro c hc
  have htext : (toString m.code).toList = Nat.toDigits 10 m.code := Nat.toList_repr
  rw [htext] at hc
  exact Nat.isDigit_of_mem_toDigits (by decide) (by decide) hc

/-- The fields can be told apart where neither credential is encoded with a quote. -/
theorem isPlain_credentialFields (huser : '"' ∉ (encoded set p.user).toList)
    (hpassword : '"' ∉ (encoded set p.password).toList) :
    ∀ f ∈ credentialFields set p, f.IsPlain := by
  have hcode : (Field.bare (toString p.authMethod.code).toList).IsPlain :=
    isPlain_of_isDigit (by cases p.authMethod <;> decide) (isDigit_code p.authMethod)
  simp only [credentialFields, List.forall_mem_cons]
  exact ⟨hcode, isPlain_number p.cid, huser, hpassword, by simp⟩

theorem splitFields_arguments_iff (set : Charset) (p : Profile) :
    splitFields (credentials set p).arguments = some (credentialFields set p) ↔
      '"' ∉ (encoded set p.user).toList ∧ '"' ∉ (encoded set p.password).toList := by
  constructor
  · intro h
    have huser : Field.quoted (encoded set p.user).toList ∈ credentialFields set p := by
      simp [credentialFields]
    have hpassword : Field.quoted (encoded set p.password).toList ∈ credentialFields set p := by
      simp [credentialFields]
    exact ⟨(of_mem_splitFields h huser).1, (of_mem_splitFields h hpassword).1⟩
  · rintro ⟨huser, hpassword⟩
    rw [arguments_credentials]
    exact splitFields_printFields (isPlain_credentialFields huser hpassword)

/-! ### What the credentials bring in -/

/-- In front of the user the command has one quote and no white space, and behind it nothing comes
but the password and the quotes and the comma in between. -/
theorem exists_body_eq (set : Charset) (p : Profile) :
    ∃ front, (∀ c ∈ front, Text.isBlank c = false) ∧ front.count '"' = 1 ∧
      (credentials set p).body.toList =
        front ++ ((encoded set p.user).toList ++
          '"' :: ',' :: '"' :: ((encoded set p.password).toList ++ ['"'])) := by
  have hblank {digits : List Char} (h : ∀ c ∈ digits, c.isDigit = true) :
      ∀ c ∈ digits, Text.isBlank c = false := fun c hc => Text.isBlank_of_isDigit (h c hc)
  have hquote {digits : List Char} (h : ∀ c ∈ digits, c.isDigit = true) :
      digits.count '"' = 0 :=
    List.count_eq_zero.mpr fun hmem => absurd (h '"' hmem) (by decide)
  have hcode := isDigit_code p.authMethod
  have hcid := Text.isDigit_toString p.cid
  refine ⟨['+', 'W', 'P', 'P', 'P', '='] ++ ((toString p.authMethod.code).toList ++
    ',' :: ((toString p.cid).toList ++ [',', '"'])), ?_, ?_, ?_⟩
  · simp only [List.forall_mem_append, List.forall_mem_cons, List.not_mem_nil, false_imp_iff,
      implies_true, and_true]
    exact ⟨by decide, hblank hcode, by decide, hblank hcid, by decide⟩
  · simp only [List.count_append, List.count_cons, hquote hcode, hquote hcid]
    decide
  · rw [body_credentials]
    simp [credentialFields, printFields_cons_cons, printFields_singleton, Field.print]

/-- White space comes into the command with the credentials alone. -/
theorem mem_body_of_isBlank {c : Char} (hblank : Text.isBlank c = true) :
    c ∈ (credentials set p).body.toList ↔
      c ∈ (encoded set p.user).toList ∨ c ∈ (encoded set p.password).toList := by
  obtain ⟨front, hfront, -, hbody⟩ := exists_body_eq set p
  have hnot : c ∉ front := fun hmem => by simp [hfront c hmem] at hblank
  have hquote : c ≠ '"' := by
    rintro rfl
    exact absurd hblank (by decide)
  have hcomma : c ≠ ',' := by
    rintro rfl
    exact absurd hblank (by decide)
  simp [hbody, hnot, hquote, hcomma]

/-- The command has four quotes of its own. -/
theorem count_quote_body (set : Charset) (p : Profile) :
    (credentials set p).body.toList.count '"' =
      4 + (encoded set p.user).toList.count '"' + (encoded set p.password).toList.count '"' := by
  obtain ⟨front, -, hfront, hbody⟩ := exists_body_eq set p
  rw [hbody, List.count_append, List.count_append, List.count_cons_self,
    List.count_cons_of_ne (by decide), List.count_cons_self, List.count_append,
    List.count_singleton_self, hfront]
  omega

/-- Commands that are the same set the same fields, if one of them has no quotes but its own. -/
theorem credentialFields_eq_of_body_eq {set' : Charset} {p' : Profile}
    (h : (credentials set' p').body = (credentials set p).body)
    (huser : '"' ∉ (encoded set p.user).toList)
    (hpassword : '"' ∉ (encoded set p.password).toList) :
    credentialFields set' p' = credentialFields set p := by
  have hcount := congrArg (fun body : String => body.toList.count '"') h
  simp only [count_quote_body, List.count_eq_zero.mpr huser,
    List.count_eq_zero.mpr hpassword] at hcount
  have huser' : '"' ∉ (encoded set' p'.user).toList := List.count_eq_zero.mp (by omega)
  have hpassword' : '"' ∉ (encoded set' p'.password).toList := List.count_eq_zero.mp (by omega)
  have hsplit := (splitFields_arguments_iff set p).mpr ⟨huser, hpassword⟩
  have hsplit' := (splitFields_arguments_iff set' p').mpr ⟨huser', hpassword'⟩
  rw [arguments, h, ← arguments] at hsplit'
  exact Option.some.inj (hsplit'.symm.trans hsplit)

/-! ### What the character sets let through -/

theorem isPlain_of_mem_encoded {text : Option String} {c : Char} (hset : set = .ira ∨ set = .gsm)
    (h : c ∈ (encoded set text).toList) : Charset.isPlain c = true := by
  cases text with
  | none => simp [encoded] at h
  | some text =>
    by_cases hall : text.toList.all Charset.isPlain = true
    · have hmem : c ∈ text.toList := by
        rcases hset with rfl | rfl
        · simpa [encoded, Charset.encode?, hall] using h
        · simpa [encoded, Charset.encode?, hall] using h
      exact List.all_eq_true.mp hall c hmem
    · rcases hset with rfl | rfl
      · simp [encoded, Charset.encode?, hall] at h
      · simp [encoded, Charset.encode?, hall] at h

theorem exists_hexDigit_of_mem_encoded {text : Option String} {c : Char}
    (h : c ∈ (encoded .ucs2 text).toList) : ∃ n < 16, Charset.hexDigit n = c := by
  cases text with
  | none => simp [encoded] at h
  | some text =>
    cases hspelled : Charset.encode? .ucs2 text with
    | none => simp [encoded, hspelled] at h
    | some spelled =>
      have hc : c ∈ spelled.toList := by simpa [encoded, hspelled] using h
      exact (Charset.of_encode?_ucs2 hspelled).2 c hc

/-- Only UTF-8 lets a line break through. -/
theorem not_mem_encoded_of_ne_utf8 (hset : set ≠ .utf8) (text : Option String) :
    '\r' ∉ (encoded set text).toList ∧ '\n' ∉ (encoded set text).toList := by
  have hhex : ∀ n < 16, Charset.hexDigit n ≠ '\r' ∧ Charset.hexDigit n ≠ '\n' := by decide
  cases set with
  | ira =>
    exact ⟨fun h => absurd (isPlain_of_mem_encoded (.inl rfl) h) (by decide),
      fun h => absurd (isPlain_of_mem_encoded (.inl rfl) h) (by decide)⟩
  | gsm =>
    exact ⟨fun h => absurd (isPlain_of_mem_encoded (.inr rfl) h) (by decide),
      fun h => absurd (isPlain_of_mem_encoded (.inr rfl) h) (by decide)⟩
  | utf8 => exact absurd rfl hset
  | ucs2 =>
    constructor
    · intro h
      obtain ⟨n, hn, hdigit⟩ := exists_hexDigit_of_mem_encoded h
      exact (hhex n hn).1 hdigit
    · intro h
      obtain ⟨n, hn, hdigit⟩ := exists_hexDigit_of_mem_encoded h
      exact (hhex n hn).2 hdigit

/-- UCS-2 lets no quote through. -/
theorem quote_not_mem_encoded_ucs2 (text : Option String) :
    '"' ∉ (encoded .ucs2 text).toList := by
  have hhex : ∀ n < 16, Charset.hexDigit n ≠ '"' := by decide
  intro h
  obtain ⟨n, hn, hdigit⟩ := exists_hexDigit_of_mem_encoded h
  exact hhex n hn hdigit

/-! ### The command as a line -/

/-- The text ends with a carriage return, and has no other one and no line feed. -/
def IsCommandLine (text : List Char) : Prop :=
  ∃ front, text = front ++ ['\r'] ∧ '\r' ∉ front ∧ '\n' ∉ front

theorem isCommandLine_iff (c : Command) :
    IsCommandLine ("AT" ++ c.body ++ "\r").toList ↔
      '\r' ∉ c.body.toList ∧ '\n' ∉ c.body.toList := by
  rw [toList_line]
  constructor
  · rintro ⟨front, heq, hreturn, hfeed⟩
    rw [← List.append_cancel_right heq] at hreturn hfeed
    simp only [List.mem_cons, not_or] at hreturn hfeed
    exact ⟨hreturn.2.2, hfeed.2.2⟩
  · rintro ⟨hreturn, hfeed⟩
    exact ⟨_, rfl, by simpa using hreturn, by simpa using hfeed⟩

theorem isCommandLine_credentials_iff (set : Charset) (p : Profile) :
    IsCommandLine ("AT" ++ (credentials set p).body ++ "\r").toList ↔
      ∀ text ∈ [p.user, p.password],
        '\r' ∉ (encoded set text).toList ∧ '\n' ∉ (encoded set text).toList := by
  rw [isCommandLine_iff, mem_body_of_isBlank (by decide), mem_body_of_isBlank (by decide)]
  simp only [List.forall_mem_cons, List.not_mem_nil, false_imp_iff, implies_true, and_true]
  rw [not_or, not_or, and_and_and_comm]

/-! ### Credentials that keep to their places -/

/-- Credentials keep to their places exactly as far as they are encoded without quotes and line
breaks. Without a line break the command is a single line, as it is in every set but UTF-8; without
a quote it has the four fields that it is to have, as it always has in UCS-2, and no other
credentials make up the same command, whatever the set. -/
theorem credentials_confined (set : Charset) (p : Profile) :
    (IsCommandLine ("AT" ++ (credentials set p).body ++ "\r").toList ↔
      ∀ text ∈ [p.user, p.password],
        '\r' ∉ (encoded set text).toList ∧ '\n' ∉ (encoded set text).toList) ∧
    (set ≠ .utf8 → IsCommandLine ("AT" ++ (credentials set p).body ++ "\r").toList) ∧
    (splitFields (credentials set p).arguments = some (credentialFields set p) ↔
      '"' ∉ (encoded set p.user).toList ∧ '"' ∉ (encoded set p.password).toList) ∧
    (set = .ucs2 → splitFields (credentials set p).arguments = some (credentialFields set p)) ∧
    ∀ set' p', (credentials set' p').body = (credentials set p).body →
      '"' ∉ (encoded set p.user).toList → '"' ∉ (encoded set p.password).toList →
      credentialFields set' p' = credentialFields set p := by
  have hline := isCommandLine_credentials_iff set p
  have hsplit := splitFields_arguments_iff set p
  refine ⟨hline, fun hset => ?_, hsplit, fun hset => ?_, fun set' p' h huser hpassword => ?_⟩
  · exact hline.mpr fun text _ => not_mem_encoded_of_ne_utf8 hset text
  · subst hset
    exact hsplit.mpr ⟨quote_not_mem_encoded_ucs2 p.user, quote_not_mem_encoded_ucs2 p.password⟩
  · exact credentialFields_eq_of_body_eq h huser hpassword

/-- A password that begins in the place of the user. -/
def forgedUser : Profile := { user := some "a\",\"b", password := some "c", cid := 1 }

/-- A password that ends behind its place. -/
def forgedPassword : Profile := { user := some "a", password := some "b\",\"c", cid := 1 }

/-- A user with a line break. -/
def brokenUser : Profile := { user := some "a\rAT", cid := 1 }

/-- A quote among the credentials makes five fields of four, and other credentials make up the same
command. A carriage return among them makes two lines of one. -/
theorem credentials_unconfined :
    splitFields (credentials .ira forgedUser).arguments =
      some [.bare ['2'], .bare ['1'], .quoted ['a'], .quoted ['b'], .quoted ['c']] ∧
    (credentials .ira forgedPassword).body = (credentials .ira forgedUser).body ∧
    encoded .ira forgedPassword.user ≠ encoded .ira forgedUser.user ∧
    ¬ IsCommandLine ("AT" ++ (credentials .utf8 brokenUser).body ++ "\r").toList := by
  have hplain : ∀ f ∈ [Field.bare ['2'], .bare ['1'], .quoted ['a'], .quoted ['b'],
      .quoted ['c']], f.IsPlain := by
    have hdigit {d : Char} (h : d.isDigit = true) : (Field.bare [d]).IsPlain :=
      isPlain_of_isDigit (List.cons_ne_nil d []) (List.forall_mem_singleton.mpr h)
    simp only [List.forall_mem_cons]
    exact ⟨hdigit rfl, hdigit rfl, by simp [Field.IsPlain]⟩
  have hprint : (credentials .ira forgedUser).arguments =
      printFields [.bare ['2'], .bare ['1'], .quoted ['a'], .quoted ['b'], .quoted ['c']] := by
    decide +kernel
  refine ⟨?_, by decide +kernel, by decide +kernel, ?_⟩
  · rw [hprint, splitFields_printFields hplain]
  · rw [isCommandLine_iff]
    decide +kernel

/-- A quote and a line break in UCS-2 are spelled in digits. Only the same digits in another set
make up the same command. -/
theorem credentials_confined_ucs2 :
    let p : Profile := { user := some "\"", password := some "\r", cid := 1 }
    let spelled : Profile := { user := some "0022", password := some "000D", cid := 1 }
    IsCommandLine ("AT" ++ (credentials .ucs2 p).body ++ "\r").toList ∧
    splitFields (credentials .ucs2 p).arguments = some (credentialFields .ucs2 p) ∧
    credentialFields .ira spelled = credentialFields .ucs2 p := by
  intro p spelled
  obtain ⟨-, hline, -, hsplit, hsame⟩ := credentials_confined .ucs2 p
  exact ⟨hline (by decide), hsplit rfl,
    hsame .ira spelled (by decide +kernel) (by decide +kernel) (by decide +kernel)⟩

end Command

end ModemLink
