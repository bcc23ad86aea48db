import LinkLedger.Text.Hex

/-!
# Percent escapes

`%` and two hexadecimal digits stand for a byte; everything else stands for its own bytes. A `%`
that two digits do not follow is an ordinary character.
-/

set_option autoImplicit false

namespace LinkLedger.Text

/-- The bytes a percent-escaped text stands for. -/
def percentDecode : List Char → List UInt8
  | [] => []
  | '%' :: a :: b :: rest =>
    match hexDigit? a, hexDigit? b with
    | some x, some y => UInt8.ofNat (16 * x + y) :: percentDecode rest
    | _, _ => String.utf8EncodeChar '%' ++ percentDecode (a :: b :: rest)
  | c :: rest => String.utf8EncodeChar c ++ percentDecode rest

/-- A byte as `%` and two capital digits. -/
def percentByte (b : UInt8) : List Char :=
  ['%', hexDigitUpper (b.toNat / 16), hexDigitUpper (b.toNat % 16)]

end LinkLedger.Text
