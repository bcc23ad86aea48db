import LinkLedger.Address.Ipv4

/-!
# Bracketed hosts

IPv6 addresses: groups of up to four hexadecimal digits apart by colons, at most one `::` for a run
of zero groups, and perhaps a dotted IPv4 address in place of the last two groups. A gap counts
for one of the eight groups while reading, so it always stands for at least one.
-/

set_option autoImplicit false

namespace LinkLedger.Address

open LinkLedger.Text

/-- A part of a dotted address inside an IPv6 address: decimal, at most 255, no leading zero. -/
def plainByte? (digits : List Char) : Option Nat :=
  if digits.isEmpty || !digits.all isDecimal then none
  else if digits.head? = some '0' ∧ 1 < digits.length then none
  else
    let n := decimalNumber digits
    if 255 < n then none else some n

/-- The two groups that a dotted address fills. -/
def dottedGroups? (text : List Char) : Option (List (Option Nat)) := do
  match ← (text.splitOn '.').mapM plainByte? with
  | [a, b, c, d] => some [some (a * 256 + b), some (c * 256 + d)]
  | _ => none

/-- Reads groups until the text ends; `slots` of the eight are still free, and a gap is `none`. -/
def ipv6Groups? (slots : Nat) (gap : Bool) (text : List Char) : Option (List (Option Nat)) :=
  match text, slots with
  | [], _ => some []
  | _ :: _, 0 => none
  | ':' :: rest, slots + 1 =>
    if gap then none else (ipv6Groups? slots true rest).map (none :: ·)
  | text, slots + 1 =>
    let digits := (text.take 4).takeWhile isHexDigit
    match text.drop digits.length with
    | [] => some [some (hexNumber digits)]
    | '.' :: _ => if digits.isEmpty || slots = 0 then none else dottedGroups? text
    | [':'] => none
    | ':' :: rest => (ipv6Groups? slots gap rest).map (some (hexNumber digits) :: ·)
    | _ => none

/-- The eight groups, zeros in place of the gap. -/
def fillGap (groups : List (Option Nat)) : Option (List Nat) :=
  if groups.contains none then
    some (groups.flatMap fun
      | some n => [n]
      | none => List.replicate (9 - groups.length) 0)
  else if groups.length = 8 then some (groups.filterMap id)
  else none

/-- Reads what stands between the brackets. -/
def ipv6? (text : List Char) : Option (List Nat) := do
  if text.length < 2 then none
  else match text with
    | ':' :: ':' :: rest => (ipv6Groups? 7 true rest).bind fun groups => fillGap (none :: groups)
    | ':' :: _ => none
    | _ => (ipv6Groups? 8 false text).bind fillGap

end LinkLedger.Address
