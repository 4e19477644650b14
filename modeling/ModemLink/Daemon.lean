import ModemLink.Modem
import ModemLink.Settings.Basic

/-!
# The daemon

The daemon reads its settings, opens the command port, connects one bearer and holds its
session. Whatever ends it early is reported as one message and, where there is one, the cause
behind it.

Source: the specification, section 10.9, and 10.6 for the reports.
-/

namespace ModemLink

/-- Why the daemon gives up. -/
inductive DaemonFault
  /-- The settings cannot be read. -/
  | settings (fault : SettingsFault)
  /-- The command port cannot be opened. -/
  | device (path : String) (reason : String)
  /-- The session failed. -/
  | session (fault : Fault)
  deriving DecidableEq, Repr

namespace DaemonFault

/-- The fault in words. -/
def message : DaemonFault → String
  | settings fault => fault.message
  | device path _ => "failed to open AT port " ++ path
  | session fault => fault.message

/-- The fault behind the fault, in words. -/
def cause? : DaemonFault → Option String
  | settings fault => fault.cause?
  | device _ reason => some reason
  | session _ => none

/-- A text with every line moved to the right. -/
def indent (text : String) : String :=
  String.intercalate "\n" ((Text.lines text.toList).map fun line => "    " ++ String.ofList line)

/-- The fault as it is reported to the user. -/
def report (fault : DaemonFault) : String :=
  "Error: " ++ fault.message ++ "\n" ++
    match fault.cause? with
    | none => ""
    | some cause => "\nCaused by:\n" ++ indent cause ++ "\n"

end DaemonFault

namespace Settings

/-- The data port that the settings describe. -/
def port (s : Settings) : DataPort :=
  (DataPort.withProperty { name := s.dataPort } DataPort.acmKey s.acmId).withProperty
    DataPort.ncmKey s.ncmId

/-- The modem that the settings describe. -/
def modem (s : Settings) : Modem :=
  { dataPorts := [s.port], charset := s.charset }

/-- The variables that settings are read from. -/
def variableNames : List String :=
  ["XMM_DEVICE", "XMM_DATA_PORT", "XMM_ACM_ID", "XMM_NCM_ID", "XMM_CID", "XMM_USER",
    "XMM_PASSWORD", "XMM_IP_TYPE", "XMM_ALLOWED_AUTH", "XMM_CHARSET"]

end Settings

end ModemLink
