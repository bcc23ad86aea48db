import LinkLedger.Address.Domain
import LinkLedger.Address.Fault
import LinkLedger.Address.Ipv6
import LinkLedger.Text.Percent

/-!
# Hosts

The host of an address is an IPv6 address in brackets, an IPv4 address, or a domain name. On the
web the name may be percent-escaped and in any script; elsewhere it is taken as it stands.
-/

set_option autoImplicit false

namespace LinkLedger.Address

open LinkLedger.Text

/-- Where an address leads. -/
inductive Host where
  | domain (name : String)
  /-- An IPv4 address as a number below 2 ^ 32. -/
  | ipv4 (address : Nat)
  /-- An IPv6 address as eight groups. -/
  | ipv6 (groups : List Nat)
  deriving DecidableEq, Repr

/-- Reads a host that begins with a bracket. -/
def Host.ofBracketed (text : List Char) : Except Fault Host :=
  if text.getLast? = some ']' then
    match ipv6? (text.dropLast.drop 1) with
    | some groups => .ok (.ipv6 groups)
    | none => .error .badIpv6
  else .error .badIpv6

/-- Reads the host of a web address. -/
def Host.ofWeb (text : List Char) : Except Fault Host :=
  if text.head? = some '[' then Host.ofBracketed text
  else
    match (String.fromUTF8? (percentDecode text).toByteArray).bind fun name =>
      domainToAscii? name.toList with
    | none => .error .badDomain
    | some [] => .error .emptyHost
    | some name =>
      if endsInNumber name then
        match ipv4? name with
        | some address => .ok (.ipv4 address)
        | none => .error .badIpv4
      else .ok (.domain (String.ofList name))

/-- Characters that no host may hold as they stand. -/
def isHostDelimiter (c : Char) : Bool :=
  ['\x00', '\t', '\n', '\r', ' ', '#', '/', ':', '<', '>', '?', '@', '[', '\\', ']', '^',
    '|'].contains c

/-- Reads the host of an address that is not of the web. -/
def Host.ofPlain (text : List Char) : Except Fault Host :=
  if text.head? = some '[' then Host.ofBracketed text
  else if text.any isHostDelimiter then .error .badHostCharacter
  else .ok (.domain (String.ofList text))

end LinkLedger.Address
