import ModemLink.Reply.Address

/-!
# The name servers of a context

The reply to the name server query lists every context. A line is a record where it carries
the name of the command or begins with a digit, and every other line is noise. Each record
names two servers of either family. A server is kept at its first place only; the zero address
of the shorter family means none and is left out, and that of the longer family is kept.

Source: the specification, sections 4.4 and 10.1.
-/

namespace ModemLink.Reply

/-- Name servers of both families, in the order in which they were first named. -/
structure NameServers where
  ipv4 : List String := []
  ipv6 : List String := []
  deriving DecidableEq, Repr

namespace NameServers

/-- The name that records of this kind carry. -/
def tag : List Char := ['+', 'X', 'D', 'N', 'S', ':']

/-- The record on a trimmed line, if there is one. -/
def recordOn? (row : List Char) : Option (List Char) :=
  match tag.isPrefixOf? row with
  | some record => some (Text.trim record)
  | none => if (row.head?.map Char.isDigit).getD false then some row else none

/-- A list with an entry added at its end, unless it is there already. -/
def addNew (known : List String) (entry : String) : List String :=
  if entry ∈ known then known else known ++ [entry]

/-- The servers with one more of either family. -/
def add (servers : NameServers) (server : List Char) : NameServers :=
  if isIpv6 server then { servers with ipv6 := addNew servers.ipv6 (String.ofList server) }
  else if server = unassignedIpv4 then servers
  else { servers with ipv4 := addNew servers.ipv4 (String.ofList server) }

/-- The servers after one trimmed line of the reply. -/
def addLine (cid : UInt32) (servers : NameServers) (row : List Char) :
    Except ReplyFault NameServers :=
  match recordOn? row with
  | none => .ok servers
  | some record =>
    let malformed := .error (.malformed .nameServer (String.ofList row))
    match splitFields record with
    | none => malformed
    | some fields =>
      match fields.head?.bind Field.number? with
      | none => .error (.contextId .nameServer)
      | some owner =>
        if owner ≠ cid then .ok servers
        else
          match Addresses.quotedAt fields 1, Addresses.quotedAt fields 2 with
          | some first, some second => .ok ((servers.add first).add second)
          | _, _ => malformed

/-- Reads the servers of one context from a reply. -/
def read (reply : String) (cid : UInt32) : Except ReplyFault NameServers :=
  (textLines reply.toList).foldlM (addLine cid) {}

end NameServers

end ModemLink.Reply
