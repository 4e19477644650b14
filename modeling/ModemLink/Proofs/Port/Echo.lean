import ModemLink.Command
import ModemLink.Port.Listening
import ModemLink.Proofs.Text.Lines
import ModemLink.Proofs.Text.Numbers
import ModemLink.Proofs.Text.Utf8

/-!
# Echoes of command lines

A modem that echoes sends back what was written to it. A port knows the echo if the command line is
a single line that does not end with white space: only then is a line that is read the line that
was written. All commands of a session are such lines, if no line break comes in with the
credentials.

## Main definitions

* `IsEcho`: a line that a port takes for the echo of a command.
* `Command.echoLine`: the line that a port reads when a command is echoed.
* `Command.IsLine`: a command that makes up a single line.

## Main results

* `Command.opensWith_echoLine`: every echo opens like a command line.
* `Command.lineOf_written`, `Command.IsLine.isEcho`: what was written is read back as the echo.
* `Command.isLine_credentials`: credentials without a line break do no harm.
-/

namespace ModemLink

/-- The line is what a port takes for the echo of the command. -/
def IsEcho (c : Command) (line : List UInt8) : Prop :=
  lineOf line = 'A' :: 'T' :: c.body.toList

instance (c : Command) (line : List UInt8) : Decidable (IsEcho c line) :=
  inferInstanceAs (Decidable (_ = _))

namespace Command

/-- The command makes up a single line, which does not end with white space. -/
structure IsLine (c : Command) : Prop where
  single : '\n' ∉ c.body.toList
  ends : ∀ ch ∈ c.body.toList.getLast?, Text.isBlank ch = false

/-- The bytes of a command line. -/
def written (c : Command) : List UInt8 :=
  Text.Utf8.encode ("AT" ++ c.body ++ "\r").toList

theorem toList_line (c : Command) :
    ("AT" ++ c.body ++ "\r").toList = ('A' :: 'T' :: c.body.toList) ++ ['\r'] := by
  simp [String.toList_append]

/-- The line that a port reads when the command is echoed. It is the echo that the port looks for
unless the command ends with white space. -/
def echoLine (c : Command) : List Char :=
  Text.trim ('A' :: 'T' :: c.body.toList)

/-- Trimming a command line leaves its first letters alone. -/
theorem trim_line (body : List Char) :
    Text.trim ('A' :: 'T' :: body) = 'A' :: 'T' :: Text.trimEnd body := by
  rw [Text.trim, Text.trimStart_eq_self (by rintro _ ⟨⟩; decide),
    Text.trimEnd_cons _ (by decide), Text.trimEnd_cons _ (by decide)]

/-- Every echo opens like a command line. -/
theorem opensWith_echoLine (c : Command) : FinalResult.opensWith "AT" c.echoLine = true := by
  rw [echoLine, trim_line]
  rfl

theorem echoLine_ne_nil (c : Command) : c.echoLine ≠ [] := by
  simp [echoLine, trim_line]

/-- What was written is read back as the echo. -/
theorem lineOf_written (c : Command) : lineOf c.written = c.echoLine := by
  have hend : Text.trimEnd (c.body.toList ++ ['\r']) = Text.trimEnd c.body.toList :=
    List.rdropWhile_concat_pos Text.isBlank c.body.toList '\r' (by decide)
  rw [lineOf, written, Text.Utf8.decode_encode, toList_line, List.cons_append, List.cons_append,
    trim_line, hend, echoLine, trim_line]

theorem written_ne_nil (c : Command) : c.written ≠ [] := by
  rw [written, toList_line, List.cons_append, Text.Utf8.encode, List.flatMap_cons]
  exact List.append_ne_nil_of_left_ne_nil (by decide) _

variable {c : Command}

/-- A port knows it as the echo if white space at the end is no part of the command. -/
theorem IsLine.isEcho (h : c.IsLine) : IsEcho c c.written := by
  rw [IsEcho, lineOf_written, echoLine, trim_line, Text.trimEnd_eq_self h.ends]

/-- It is written as a single line. -/
theorem IsLine.lineFeed_not_mem_written (h : c.IsLine) : lineFeed ∉ c.written := by
  refine Text.Utf8.lineFeed_not_mem_encode ?_
  rw [toList_line, List.mem_append, not_or]
  exact ⟨by simpa using h.single, by decide⟩

/-! ### The commands of a session -/

theorem lineFeed_not_mem_toString (n : UInt32) : '\n' ∉ (toString n).toList := by
  intro hmem
  exact absurd (Text.isDigit_toString n '\n' hmem) (by decide)

/-- A command line is told by its parts. -/
theorem isLine_of_append {opening closing : String} (hbody : c.body = opening ++ closing)
    (hopening : '\n' ∉ opening.toList) (hclosing : '\n' ∉ closing.toList) {last : Char}
    (hlast : closing.toList.getLast? = some last) (hblank : Text.isBlank last = false) :
    c.IsLine where
  single := by
    rw [hbody, String.toList_append, List.mem_append, not_or]
    exact ⟨hopening, hclosing⟩
  ends := by
    intro ch hch
    rw [hbody, String.toList_append, List.getLast?_append, hlast] at hch
    obtain rfl := Option.some.inj hch
    exact hblank

theorem isLine_of_number {opening : String} (n : UInt32) (hbody : c.body = opening ++ toString n)
    (hopening : '\n' ∉ opening.toList) : c.IsLine :=
  isLine_of_append hbody hopening (lineFeed_not_mem_toString n)
    (List.getLast?_eq_some_getLast (Text.toString_ne_nil n))
    (Text.isBlank_of_isDigit (Text.isDigit_toString n _ (List.getLast_mem _)))

theorem isLine_activationQuery : activationQuery.IsLine := by
  have hbody : activationQuery.body = "+CGACT" ++ "?" := rfl
  exact isLine_of_append hbody (by decide) (by decide) rfl (by decide)

theorem isLine_nameServerQuery : nameServerQuery.IsLine := by
  have hbody : nameServerQuery.body = "+XDNS" ++ "?" := rfl
  exact isLine_of_append hbody (by decide) (by decide) rfl (by decide)

theorem isLine_requestNameServers (cid : UInt32) (family : IpFamily) :
    (requestNameServers cid family).IsLine := by
  have hopening : '\n' ∉ ("+XDNS=" ++ toString cid ++ ",").toList := by
    simp [String.toList_append, lineFeed_not_mem_toString]
  cases family with
  | ipv4 => exact isLine_of_append rfl hopening (by decide) rfl (by decide)
  | ipv6 => exact isLine_of_append rfl hopening (by decide) rfl (by decide)
  | ipv4v6 | any => exact isLine_of_append rfl hopening (by decide) rfl (by decide)

theorem isLine_setActivation (activate : Bool) (cid : UInt32) :
    (setActivation activate cid).IsLine := by
  cases activate with
  | true => exact isLine_of_number cid rfl (by decide)
  | false => exact isLine_of_number cid rfl (by decide)

theorem isLine_mapDataChannel (acm ncm cid : UInt32) : (mapDataChannel acm ncm cid).IsLine := by
  refine isLine_of_number cid rfl ?_
  simp [String.toList_append, lineFeed_not_mem_toString]

theorem isLine_startFraming (cid : UInt32) : (startFraming cid).IsLine :=
  isLine_of_number cid rfl (by decide)

theorem isLine_addressQuery (cid : UInt32) : (addressQuery cid).IsLine :=
  isLine_of_number cid rfl (by decide)

theorem hexDigit_ne_lineFeed (n : Nat) : Charset.hexDigit (n % 16) ≠ '\n' := by
  have hall : ∀ n < 16, Charset.hexDigit n ≠ '\n' := by decide
  exact hall (n % 16) (Nat.mod_lt n (by decide))

/-- No text gets a line feed by being encoded. -/
theorem lineFeed_not_mem_encoded (set : Charset) {text : Option String}
    (h : ∀ s ∈ text, '\n' ∉ s.toList) : '\n' ∉ (encoded set text).toList := by
  cases text with
  | none => simp [encoded]
  | some text =>
    have hplain : '\n' ∉ text.toList := h text rfl
    cases set with
    | ira | gsm =>
      by_cases hall : text.toList.all Charset.isPlain = true
      · simpa [encoded, Charset.encode?, hall] using hplain
      · simp [encoded, Charset.encode?, hall]
    | utf8 => simpa [encoded, Charset.encode?] using hplain
    | ucs2 =>
      by_cases hall : text.toList.all (·.toNat ≤ 0xFFFF) = true
      · have hunits : '\n' ∉ text.toList.flatMap fun c => Charset.hexUnit c.toNat := by
          intro hmem
          obtain ⟨ch, -, hunit⟩ := List.mem_flatMap.mp hmem
          simp only [Charset.hexUnit, List.mem_cons, List.not_mem_nil, or_false] at hunit
          rcases hunit with hunit | hunit | hunit | hunit <;>
            exact hexDigit_ne_lineFeed _ hunit.symm
        simpa [encoded, Charset.encode?, hall] using hunits
      · simp [encoded, Charset.encode?, hall]

/-- Credentials without a line break do no harm. -/
theorem isLine_credentials (set : Charset) {p : Profile} (huser : ∀ s ∈ p.user, '\n' ∉ s.toList)
    (hpassword : ∀ s ∈ p.password, '\n' ∉ s.toList) : (credentials set p).IsLine := by
  by_cases hp : p.hasCredentials = true
  · have hbody : (credentials set p).body =
        "+WPPP=" ++ toString p.authMethod.code ++ "," ++ toString p.cid ++ ",\"" ++
          encoded set p.user ++ "\",\"" ++ encoded set p.password ++ "\"" := by
      simp [credentials, hp]
    have hcode : '\n' ∉ Nat.toDigits 10 p.authMethod.code := by
      cases p.authMethod with
      | none | pap | chap => decide
    refine isLine_of_append hbody ?_ (by decide) rfl (by decide)
    simp [String.toList_append, lineFeed_not_mem_toString, hcode,
      lineFeed_not_mem_encoded set huser, lineFeed_not_mem_encoded set hpassword]
  · have hbody : (credentials set p).body = "+WPPP=0," ++ toString p.cid ++ ",\"\",\"\"" := by
      simp [credentials, hp]
    refine isLine_of_append hbody ?_ (by decide) rfl (by decide)
    simp [String.toList_append, lineFeed_not_mem_toString]

end Command

end ModemLink
