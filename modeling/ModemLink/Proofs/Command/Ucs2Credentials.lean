import ModemLink.Proofs.Command.Credentials

/-!
# Credentials in UCS-2

The command that sets the credentials of a context spells them in digits when the modem is set to
UCS-2. No quote or comma of a credential appears between the quotes, and the digits stand for one
text only, so the user and the password can be read off the command again. A credential that is
absent, or that has a character beyond the basic plane, is read as the empty text, because nothing
is written for it.

Source: the specification, section 10.3.

## Main definitions

* `Command.sent`: a credential as the modem learns it.
* `Command.readCredentials`: the user and the password that a command sets.

## Main results

* `Command.readCredentials_credentials`: the credentials are read off the command.
* `Command.ucs2_determines_credentials`: digits that stand for one text only, and commands that set
  one user and one password only.
-/

namespace ModemLink.Command

open Reply Charset

/-- A credential as the modem learns it: the text itself, or nothing where it is absent or lies
beyond the basic plane. -/
def sent : Option String → String
  | none => ""
  | some text => if InBasicPlane text then text else ""

/-- The user and the password that a command sets, spelled in digits between quotes. -/
def readCredentials (c : Command) : Option (String × String) :=
  match splitFields c.arguments with
  | some [_, _, .quoted user, .quoted password] =>
    match decodeUcs2? (String.ofList user), decodeUcs2? (String.ofList password) with
    | some user, some password => some (user, password)
    | _, _ => none
  | _ => none

/-- The digits of a credential stand for it. -/
theorem decodeUcs2?_encoded (text : Option String) :
    decodeUcs2? (encoded .ucs2 text) = some (sent text) := by
  have hempty : decodeUcs2? "" = some "" := by decide
  cases text with
  | none => exact hempty
  | some text =>
    by_cases hplane : InBasicPlane text
    · obtain ⟨spelled, hspelled⟩ :=
        Option.isSome_iff_exists.mp ((isSome_encode?_ucs2 text).mpr hplane)
      simpa [encoded, sent, hplane, hspelled] using encode?_ucs2_eq_some_iff.mp hspelled
    · have hnone : encode? .ucs2 text = none := by rw [encode?_ucs2, if_neg hplane]
      simpa [encoded, sent, hplane, hnone] using hempty

/-- The credentials are read off the command that sets them. -/
theorem readCredentials_credentials (p : Profile) :
    readCredentials (credentials .ucs2 p) = some (sent p.user, sent p.password) := by
  have hsplit := (splitFields_arguments_iff .ucs2 p).mpr
    ⟨quote_not_mem_encoded_ucs2 p.user, quote_not_mem_encoded_ucs2 p.password⟩
  rw [readCredentials, hsplit, credentialFields]
  simp only [String.ofList_toList, decodeUcs2?_encoded]

/-- Commands that are the same set the same credentials. -/
theorem readCredentials_congr {c c' : Command} (h : c.body = c'.body) :
    readCredentials c = readCredentials c' := by
  rw [readCredentials, readCredentials, arguments, arguments, h]

/-- A digit is one of the ten, or one of the six letters in upper case. -/
theorem isDigit_or_letter_of_hexDigit {n : Nat} (h : n < 16) :
    (hexDigit n).isDigit = true ∨ 'A' ≤ hexDigit n ∧ hexDigit n ≤ 'F' := by
  have hall : ∀ n < 16, (hexDigit n).isDigit = true ∨ 'A' ≤ hexDigit n ∧ hexDigit n ≤ 'F' := by
    decide
  exact hall n h

/-- A text of the basic plane is written in four upper case hexadecimal digits for each character,
part by part, and no other text is written. The digits are read back as the text, and nothing else
that can be read is ever written. So whatever the credentials hold, the command tells the user and
the password as the modem is to learn them, and two commands that are the same tell the same. -/
theorem ucs2_determines_credentials :
    (∀ text, (encode? .ucs2 text).isSome = true ↔ ∀ c ∈ text.toList, c.toNat ≤ 0xFFFF) ∧
    (∀ text spelled, encode? .ucs2 text = some spelled →
      spelled.length = 4 * text.length ∧
      ∀ c ∈ spelled.toList, c.isDigit = true ∨ 'A' ≤ c ∧ c ≤ 'F') ∧
    (∀ text spelled, encode? .ucs2 text = some spelled ↔ decodeUcs2? spelled = some text) ∧
    (∀ text other spelled, encode? .ucs2 text = some spelled →
      encode? .ucs2 other = some spelled → text = other) ∧
    (∀ text more, encode? .ucs2 (text ++ more) =
      (encode? .ucs2 text).bind fun spelled => (encode? .ucs2 more).map (spelled ++ ·)) ∧
    (∀ p, readCredentials (credentials .ucs2 p) = some (sent p.user, sent p.password)) ∧
    ∀ p p', (credentials .ucs2 p).body = (credentials .ucs2 p').body →
      sent p.user = sent p'.user ∧ sent p.password = sent p'.password := by
  refine ⟨isSome_encode?_ucs2, fun text spelled h => ?_, fun _ _ => encode?_ucs2_eq_some_iff,
    fun _ _ _ => eq_of_encode?_ucs2, encode?_ucs2_append, readCredentials_credentials,
    fun p p' h => ?_⟩
  · obtain ⟨hlength, hdigits⟩ := of_encode?_ucs2 h
    refine ⟨hlength, fun c hc => ?_⟩
    obtain ⟨n, hn, rfl⟩ := hdigits c hc
    exact isDigit_or_letter_of_hexDigit hn
  · have hread := readCredentials_congr h
    rw [readCredentials_credentials, readCredentials_credentials] at hread
    exact Prod.mk.inj (Option.some.inj hread)

/-- A user of a quote, a comma and a carriage return is told as it is, and so is the password that
is not sent because of its last character. -/
theorem ucs2_determines_credentials_unsentPassword :
    let p : Profile := { user := some "\u00e9\",\r", password := some "x😀", cid := 1 }
    encode? .ucs2 "\u00e9\",\r" = some "00E90022002C000D" ∧
    "00E90022002C000D".length = 4 * "\u00e9\",\r".length ∧
    decodeUcs2? "00E90022002C000D" = some "\u00e9\",\r" ∧
    encode? .ucs2 "x😀" = none ∧
    readCredentials (credentials .ucs2 p) = some ("\u00e9\",\r", "") := by
  intro p
  obtain ⟨-, hdigits, hinverse, -, -, hread, -⟩ := ucs2_determines_credentials
  have hencode : encode? .ucs2 "\u00e9\",\r" = some "00E90022002C000D" := by decide +kernel
  have hsent : sent p.user = "\u00e9\",\r" ∧ sent p.password = "" := by decide +kernel
  refine ⟨hencode, (hdigits _ _ hencode).1, (hinverse _ _).mp hencode, by decide +kernel, ?_⟩
  rw [hread p, hsent.1, hsent.2]

end ModemLink.Command
