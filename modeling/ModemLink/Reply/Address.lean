import ModemLink.Fault
import ModemLink.Reply.Field
import ModemLink.Reply.Record

/-!
# The addresses of a context

The reply to the address query names a context and its addresses. The first address is of
either family; the second is of the longer family alone, and is preferred to a first one of
that family. An address of zeros means that none is assigned, and a reply that assigns no
address at all is refused.

Source: the specification, sections 4.4 and 10.1.
-/

namespace ModemLink.Reply

/-- An address of the longer family is written with colons. -/
def isIpv6 (address : List Char) : Bool :=
  address.contains ':'

/-- The address of the shorter family that means none. -/
def unassignedIpv4 : List Char := ['0', '.', '0', '.', '0', '.', '0']

/-- The address of the longer family that means none. -/
def unassignedIpv6 : List Char :=
  ['0', ':', '0', ':', '0', ':', '0', ':', '0', ':', '0', ':', '0', ':', '0']

/-- The address is one of the shorter family and is assigned. -/
def usableIpv4 (address : List Char) : Bool :=
  !isIpv6 address && address != unassignedIpv4

/-- The address is one of the longer family and is assigned. -/
def usableIpv6 (address : List Char) : Bool :=
  isIpv6 address && address != unassignedIpv6

/-- The addresses assigned to a context. -/
structure Addresses where
  cid : UInt32
  ipv4 : Option String
  ipv6 : Option String
  deriving DecidableEq, Repr

namespace Addresses

/-- The name that records of this kind carry. -/
def tag : List Char := ['+', 'C', 'G', 'P', 'A', 'D', 'D', 'R', ':']

/-- Chooses the addresses of both families from the two places of a record. -/
def select (cid : UInt32) (first second : Option (List Char)) : Except ReplyFault Addresses :=
  let ipv4 := first.filter usableIpv4
  let ipv6 := (second.filter usableIpv6).or (first.filter usableIpv6)
  if ipv4.isNone && ipv6.isNone then .error .noAddress
  else .ok ⟨cid, ipv4.map String.ofList, ipv6.map String.ofList⟩

/-- The text of the field at a place, if it is there and quoted. -/
def quotedAt (fields : List Field) (place : Nat) : Option (List Char) :=
  fields[place]?.bind Field.quoted?

/-- Reads one record. Addresses that do not split into fields count as absent. -/
def ofRecord (record : List Char) : Except ReplyFault Addresses :=
  match Text.number? (Text.trim (record.takeWhile (· != ','))) with
  | none => .error (.contextId .address)
  | some cid =>
    let fields := (splitFields ((record.dropWhile (· != ',')).drop 1)).getD []
    select cid (quotedAt fields 0) (quotedAt fields 1)

/-- Reads the first record of a reply. -/
def read (reply : String) : Except ReplyFault Addresses :=
  match records tag reply.toList with
  | [] => .error .noAddress
  | record :: _ => ofRecord record

end Addresses

end ModemLink.Reply
