/-!
# What can be wrong with an address

The ways in which reading an address fails, and the words for each.
-/

set_option autoImplicit false

namespace LinkLedger.Address

/-- Why a text is no address. -/
inductive Fault where
  /-- A scheme that needs a host has none. -/
  | emptyHost
  /-- The host is no domain name, however it is prepared. -/
  | badDomain
  | badPort
  | badIpv4
  | badIpv6
  /-- A host outside the web's schemes holds a character that ends or delimits hosts. -/
  | badHostCharacter
  /-- The text does not begin with a scheme. -/
  | noScheme
  deriving DecidableEq, Repr

/-- The fault in words. -/
def Fault.message : Fault → String
  | .emptyHost => "empty host"
  | .badDomain => "invalid international domain name"
  | .badPort => "invalid port number"
  | .badIpv4 => "invalid IPv4 address"
  | .badIpv6 => "invalid IPv6 address"
  | .badHostCharacter => "invalid domain character"
  | .noScheme => "relative URL without a base"

end LinkLedger.Address
