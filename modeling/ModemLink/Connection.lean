import ModemLink.Modem

/-!
# Connections

What a session was assigned by the network: the data port it runs on and, for each address
family, the address and its name servers.

Source: the specification, sections 3 and 4.2.
-/

namespace ModemLink

/-- How an interface gets its address. -/
inductive IpMethod
  /-- The address is set by hand. -/
  | static
  deriving DecidableEq, Repr

/-- The name of a method. -/
def IpMethod.name : IpMethod → String
  | static => "Static"

/-- The configuration of one address family. -/
structure IpConfig where
  method : IpMethod := .static
  address : String
  /-- The length of the network part; the modem never tells one. -/
  prefixLength : Nat := 0
  dns : List String := []
  deriving DecidableEq, Repr

/-- What a session was assigned. -/
structure Connection where
  port : DataPort
  ipv4 : Option IpConfig := none
  ipv6 : Option IpConfig := none
  deriving DecidableEq, Repr

end ModemLink
