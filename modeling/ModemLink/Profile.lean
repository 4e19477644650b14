import ModemLink.Auth
import ModemLink.Text.Quoted

/-!
# What a bearer is asked to be

The context, the address family and the credentials of a packet data session, and the
authentication method that follows from them. A description of a profile never shows the
password.

Source: the specification, sections 3 and 4.1.
-/

namespace ModemLink

/-- The address family of a session. -/
inductive IpFamily
  | ipv4
  | ipv6
  | ipv4v6
  | any
  deriving DecidableEq, Repr

instance : Inhabited IpFamily := ⟨.ipv4v6⟩

namespace IpFamily

/-- The name of a family. -/
def name : IpFamily → String
  | ipv4 => "Ipv4"
  | ipv6 => "Ipv6"
  | ipv4v6 => "Ipv4v6"
  | any => "Any"

/-- Reads the name of a family in any case. The empty name means any family. -/
def read (s : String) : Except ChoiceFault IpFamily :=
  match String.ofList ((Text.trim s.toList).map Char.toLower) with
  | "ipv4" | "v4" => .ok ipv4
  | "ipv6" | "v6" => .ok ipv6
  | "ipv4v6" | "v4v6" => .ok ipv4v6
  | "any" | "" => .ok any
  | other => .error (.family other)

/-- The number that asks for the name servers of the family. -/
def dnsRequest : IpFamily → Nat
  | ipv4 => 1
  | ipv6 => 2
  | ipv4v6 | any => 3

end IpFamily

/-- The settings of one bearer. -/
structure Profile where
  user : Option String := none
  password : Option String := none
  allowedAuth : AllowedAuth := .unspecified
  family : IpFamily := default
  /-- The context of the modem that the session runs on. -/
  cid : UInt32
  deriving DecidableEq, Repr

namespace Profile

/-- The profile names a user or a password. -/
def hasCredentials (p : Profile) : Bool :=
  p.user.isSome || p.password.isSome

/-- The method to authenticate by. Without credentials there is none; the challenge is
preferred to the plain password, and taken when the user did not say. -/
def authMethod (p : Profile) : AuthMethod :=
  if !p.hasCredentials then .none
  else if p.allowedAuth.chap then .chap
  else if p.allowedAuth.pap then .pap
  else if p.allowedAuth.isUnspecified then .chap
  else .none

/-- An optional text in words. -/
def describeText : Option String → String
  | none => "None"
  | some text => "Some(" ++ Text.quote text ++ ")"

/-- The profile in words, the password hidden. -/
def describe (p : Profile) : String :=
  "BearerConfig \x7b user: " ++ describeText p.user ++
    ", password: " ++ describeText (p.password.map fun _ => "<hidden>") ++
    ", allowed_auth: " ++ p.allowedAuth.text ++
    ", ip_family: " ++ p.family.name ++
    ", cid: " ++ toString p.cid ++ " \x7d"

end Profile

end ModemLink
