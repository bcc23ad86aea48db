import LinkLedger.Text.Decimal
import LinkLedger.Text.Hex

/-!
# Writing JSON

Objects without blanks, members in the order in which they are given. In strings the quote, the
backslash and the controls below the space are escaped, all else is written as it is.
-/

set_option autoImplicit false

namespace LinkLedger.Json

open LinkLedger.Text

/-- How a character is written in a string. -/
def stringChar (c : Char) : List Char :=
  if c = '"' then ['\\', '"']
  else if c = '\\' then ['\\', '\\']
  else if c = '\n' then ['\\', 'n']
  else if c = '\r' then ['\\', 'r']
  else if c = '\t' then ['\\', 't']
  else if c = '\x08' then ['\\', 'b']
  else if c = '\x0c' then ['\\', 'f']
  else if c.toNat < 0x20 then
    ['\\', 'u', '0', '0', hexDigitOf (c.toNat / 16), hexDigitOf (c.toNat % 16)]
  else [c]

def writeString (text : String) : List Char := '"' :: text.toList.flatMap stringChar ++ ['"']

/-- A value that can be written: what the program's objects hold. -/
inductive Value where
  | number (n : Nat)
  | string (text : String)
  deriving DecidableEq, Repr

def Value.write : Value → List Char
  | .number n => decimal n
  | .string text => writeString text

/-- Writes the members of an object, a comma between them. -/
def writeMembers : List (String × Value) → List Char
  | [] => []
  | [(key, value)] => writeString key ++ ':' :: value.write
  | (key, value) :: more => writeString key ++ ':' :: value.write ++ ',' :: writeMembers more

def writeObject (members : List (String × Value)) : String :=
  String.ofList ('{' :: writeMembers members ++ ['}'])

end LinkLedger.Json
