import ModemLink.Charset
import ModemLink.Profile
import ModemLink.Settings.EnvFile
import ModemLink.Text.Number

/-!
# Settings of the daemon

Everything that is needed to bring one bearer up, read from the command line or from
variables. Both ways read the context id alike. Of several faults the one of the text read
first is reported: the context id, then the choices, then the variables that must be set.

Source: the specification, section 10.8.
-/

namespace ModemLink

/-- Everything that is needed to bring one bearer up. -/
structure Settings where
  /-- The path of the command port. -/
  device : String
  /-- The network interface of the session. -/
  dataPort : String
  acmId : String
  ncmId : String
  charset : Charset := .ira
  profile : Profile
  deriving DecidableEq, Repr

/-- Why settings cannot be read. -/
inductive SettingsFault
  /-- The arguments fit no form of the command line. -/
  | usage
  /-- The context id is no number. -/
  | cid (text : String) (fault : Text.NumberFault)
  /-- The context id is zero. -/
  | zeroCid
  /-- The value of a variable names none of the choices offered. -/
  | choice (key : String) (fault : ChoiceFault)
  /-- A variable that is needed is not set. -/
  | unset (key : String)
  deriving DecidableEq, Repr

namespace SettingsFault

/-- The fault in words. -/
def message : SettingsFault → String
  | usage =>
    "Please either use 'useEnv' with XMM_* environment variables or " ++
      "'useInline <device> <data-port> <acm-id> <ncm-id> <cid> [<user> <password>]'"
  | cid text _ => "invalid context id '" ++ text ++ "'"
  | zeroCid => "context id must be 1 or greater"
  | choice key _ => key
  | unset key => key ++ " is not set"

/-- The fault behind the fault, in words. -/
def cause? : SettingsFault → Option String
  | cid _ fault => some fault.message
  | choice _ fault => some fault.message
  | usage | zeroCid | unset _ => none

end SettingsFault

namespace Settings

/-- Reads a context id. -/
def readCid (text : String) : Except SettingsFault UInt32 :=
  match Text.readNumber (Text.trim text.toList) with
  | .error fault => .error (.cid text fault)
  | .ok n => if n = 0 then .error .zeroCid else .ok n

/-- The value of a variable that must be set. -/
def required (var : String → Option String) (key : String) : Except SettingsFault String :=
  match var key with
  | none => .error (.unset key)
  | some value => .ok value

/-- The value of a variable, an empty one counted as absent. -/
def nonEmpty (var : String → Option String) (key : String) : Option String :=
  (var key).filter (· != "")

/-- The choice that a variable names, or the default if it is absent. -/
def choice {α : Type} [Inhabited α] (var : String → Option String) (key : String)
    (read : String → Except ChoiceFault α) : Except SettingsFault α :=
  match nonEmpty var key with
  | none => .ok default
  | some text => (read text).mapError (.choice key)

/-- Reads settings from variables. -/
def ofVariables (var : String → Option String) : Except SettingsFault Settings := do
  let cid ← match var "XMM_CID" with
    | some text => readCid text
    | none => .ok 1
  let family ← choice var "XMM_IP_TYPE" IpFamily.read
  let allowedAuth ← choice var "XMM_ALLOWED_AUTH" AllowedAuth.read
  let charset ← choice var "XMM_CHARSET" Charset.read
  let device ← required var "XMM_DEVICE"
  let dataPort ← required var "XMM_DATA_PORT"
  let acmId ← required var "XMM_ACM_ID"
  let ncmId ← required var "XMM_NCM_ID"
  let user := nonEmpty var "XMM_USER"
  let password := nonEmpty var "XMM_PASSWORD"
  return { device, dataPort, acmId, ncmId, charset,
           profile := { user, password, allowedAuth, family, cid } }

/-- The credentials at the end of a command line: both or neither. -/
def readCredentials : List String → Except SettingsFault (Option String × Option String)
  | [] => .ok (none, none)
  | [user, password] => .ok (some user, some password)
  | _ => .error .usage

/-- Reads settings from the arguments of a command line, the program name left out. Variables
come from `env` and, where that lacks them, from a variable file. -/
def ofArguments (arguments : List String) (env : Variables) (file : Option String) :
    Except SettingsFault Settings :=
  match arguments with
  | ["useEnv"] => ofVariables (file.elim env (EnvFile.read env)).value?
  | "useInline" :: device :: dataPort :: acmId :: ncmId :: cid :: credentials => do
    let (user, password) ← readCredentials credentials
    let cid ← readCid cid
    return { device, dataPort, acmId, ncmId, profile := { user, password, cid } }
  | _ => .error .usage

end Settings

end ModemLink
