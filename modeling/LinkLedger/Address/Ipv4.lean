import LinkLedger.Text.Decimal
import LinkLedger.Text.Hex

/-!
# Numeric hosts

The lenient reading of IPv4 addresses: one to four parts apart by dots, each decimal, octal with a
leading `0` or hexadecimal with a leading `0x`, the last part filling all the bytes that the others
leave. A host whose last label is a number is meant as such an address, and is wrong if it is none.
-/

set_option autoImplicit false

namespace LinkLedger.Address

open LinkLedger.Text

/-- The number written by digits of a base. -/
def numberIn (base : Nat) (digits : List Char) : Nat :=
  digits.foldl (fun n c => n * base + (hexDigit? c).getD 0) 0

/-- Reads one part. A bare `0x` is zero. -/
def ipv4Part? : List Char → Option Nat
  | [] => none
  | '0' :: x :: digits =>
    if x = 'x' ∨ x = 'X' then
      if digits.all isHexDigit then some (numberIn 16 digits) else none
    else if (x :: digits).all (fun c => '0' ≤ c && c ≤ '7') then some (numberIn 8 (x :: digits))
    else none
  | digits => if digits.all isDecimal then some (decimalNumber digits) else none

/-- The labels of a host name, without the empty one after a final dot. -/
def dottedLabels (name : List Char) : List (List Char) :=
  let labels := name.splitOn '.'
  if labels.getLast? = some [] then labels.dropLast else labels

/-- Whether a host name ends in a number: its last label holds digits only or reads as a part. -/
def endsInNumber (name : List Char) : Bool :=
  match (dottedLabels name).getLast? with
  | none => false
  | some [] => false
  | some label => label.all isDecimal || (ipv4Part? label).isSome

/-- Reads an address as a number below 2 ^ 32. The last part fills the bytes that the parts in front
of it leave. -/
def ipv4? (name : List Char) : Option Nat := do
  let labels := dottedLabels name
  if 4 < labels.length then none
  else
    let parts ← labels.mapM ipv4Part?
    let last ← parts.getLast?
    let upper := parts.dropLast
    let bound := Nat.pow 256 (4 - upper.length)
    if bound ≤ last ∨ upper.any (fun n => 255 < n) then none
    else some (upper.foldl (fun n part => n * 256 + part) 0 * bound + last)

end LinkLedger.Address
