import ModemLink.Charset
import ModemLink.Profile

/-!
# Commands

The commands a session needs, each with the time the modem may take for it. A command that
carries credentials is sensitive: logs show it only up to its first equals sign.

Source: the specification, sections 6 and 10.1.
-/

namespace ModemLink

/-- A command, without the letters that open a command line. -/
structure Command where
  body : String
  /-- How long the modem may take to answer. -/
  timeout : Duration
  /-- The command carries credentials. -/
  sensitive : Bool := false
  deriving DecidableEq, Repr

namespace Command

/-- What logs may show of the command. -/
def loggable (c : Command) : String :=
  if c.sensitive then String.ofList (c.body.toList.takeWhile (· != '=')) else c.body

/-- The command and its time limit in words. -/
def describe (c : Command) : String :=
  "AT" ++ c.loggable ++ " (" ++ c.timeout.text ++ ")"

/-- The time for a command that the modem answers by itself. -/
def shortTimeout : Duration := .ofSeconds 3

/-- The time for a command that starts or ends a session in the network. -/
def activationTimeout : Duration := .ofSeconds 30

/-- The time for switching the data channel on. -/
def dataTimeout : Duration := .ofSeconds 10

/-- Asks which contexts are active. -/
def activationQuery : Command :=
  ⟨"+CGACT?", shortTimeout, false⟩

/-- The text as the modem's character set writes it, empty if it is absent or cannot be
written. -/
def encoded (set : Charset) (text : Option String) : String :=
  ((text.bind set.encode?).getD "")

/-- Sets how a context authenticates. -/
def credentials (set : Charset) (p : Profile) : Command :=
  let body :=
    if p.hasCredentials then
      "+WPPP=" ++ toString p.authMethod.code ++ "," ++ toString p.cid ++
        ",\"" ++ encoded set p.user ++ "\",\"" ++ encoded set p.password ++ "\""
    else "+WPPP=0," ++ toString p.cid ++ ",\"\",\"\""
  ⟨body, shortTimeout, true⟩

/-- Asks the network for the name servers of a family. -/
def requestNameServers (cid : UInt32) (family : IpFamily) : Command :=
  ⟨"+XDNS=" ++ toString cid ++ "," ++ toString family.dnsRequest, shortTimeout, false⟩

/-- Activates a context, or deactivates it. -/
def setActivation (activate : Bool) (cid : UInt32) : Command :=
  ⟨"+CGACT=" ++ (if activate then "1" else "0") ++ "," ++ toString cid, activationTimeout, false⟩

/-- Maps the data channel of a context onto two interfaces of the modem. -/
def mapDataChannel (acm ncm cid : UInt32) : Command :=
  ⟨"+XDATACHANNEL=1,1,\"/USBCDC/" ++ toString acm ++ "\",\"/USBHS/NCM/" ++ toString ncm ++
    "\",2," ++ toString cid, shortTimeout, false⟩

/-- Starts raw packets on the data channel. -/
def startFraming (cid : UInt32) : Command :=
  ⟨"+CGDATA=\"M-RAW_IP\"," ++ toString cid, dataTimeout, false⟩

/-- Asks for the addresses of a context. -/
def addressQuery (cid : UInt32) : Command :=
  ⟨"+CGPADDR=" ++ toString cid, shortTimeout, false⟩

/-- Asks for the name servers of every context. -/
def nameServerQuery : Command :=
  ⟨"+XDNS?", shortTimeout, false⟩

end Command

end ModemLink
