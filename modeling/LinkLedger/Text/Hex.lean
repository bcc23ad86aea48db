/-!
# Hexadecimal digits

Digits of base sixteen as characters: reading one digit in either case, reading a run of them
most significant first, and writing a number in lower case without leading zeros. Percent
escapes, `\u` escapes, table rows and quoted text all share these four functions.
-/

set_option autoImplicit false

namespace LinkLedger.Text

/-- The value of a hexadecimal digit, in either case. -/
def hexDigit? (c : Char) : Option Nat :=
  if '0' ≤ c ∧ c ≤ '9' then some (c.toNat - '0'.toNat)
  else if 'a' ≤ c ∧ c ≤ 'f' then some (c.toNat - 'a'.toNat + 10)
  else if 'A' ≤ c ∧ c ≤ 'F' then some (c.toNat - 'A'.toNat + 10)
  else none

def isHexDigit (c : Char) : Bool := (hexDigit? c).isSome

/-- The number a run of digits writes in base sixteen. A character that is no digit counts as
zero, so callers pass runs that `isHexDigit` accepts. -/
def hexNumber (digits : List Char) : Nat :=
  digits.foldl (fun n c => n * 16 + (hexDigit? c).getD 0) 0

/-- The lower-case digit of a value below sixteen. -/
def hexDigitOf (n : Nat) : Char :=
  if n < 10 then Char.ofNat ('0'.toNat + n) else Char.ofNat ('a'.toNat + n - 10)

/-- The upper-case digit of a value below sixteen, as percent escapes are written. -/
def hexDigitUpper (n : Nat) : Char :=
  if n < 10 then Char.ofNat ('0'.toNat + n) else Char.ofNat ('A'.toNat + n - 10)

/-- A number in lower-case base sixteen, at least one digit, no leading zeros. -/
def lowerHex (n : Nat) : List Char :=
  if n < 16 then [hexDigitOf n] else lowerHex (n / 16) ++ [hexDigitOf (n % 16)]
termination_by n
decreasing_by omega

end LinkLedger.Text
