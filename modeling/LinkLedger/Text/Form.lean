import LinkLedger.Text.Percent
import LinkLedger.Text.Utf8

/-!
# Form fields

The `application/x-www-form-urlencoded` format: fields apart by `&`, key and value apart by the
first `=`, a space written `+`, other bytes percent-escaped. Reading never fails: empty fields are
dropped, a field without `=` has an empty value, and bytes that are not UTF-8 read as U+FFFD.
-/

set_option autoImplicit false

namespace LinkLedger.Text.Form

/-- A key and its value, both decoded. -/
structure Field where
  key : String
  value : String
  deriving DecidableEq, Repr

/-! ## Reading -/

/-- The text that an escaped key or value stands for. -/
def decode (text : List Char) : String :=
  lossy (percentDecode (text.map fun c => if c = '+' then ' ' else c)).toByteArray

/-- Reads one field: the key ends at the first `=`. -/
def Field.ofText (text : List Char) : Field :=
  ⟨decode (text.takeWhile (· ≠ '=')), decode ((text.dropWhile (· ≠ '=')).drop 1)⟩

/-- The non-empty fields of a text as they are written. -/
def rawFields (text : List Char) : List (List Char) :=
  (text.splitOn '&').filter (fun field => !field.isEmpty)

/-- Reads all fields of a text, in one pass from the front: each `&` ends a field. -/
def parse (text : List Char) : List Field := go [] text
where
  /-- `seen` holds the field being read, last character first. -/
  go (seen : List Char) : List Char → List Field
    | [] => close seen []
    | c :: rest => if c = '&' then close seen (go [] rest) else go (c :: seen) rest
  /-- Puts the field that was read in front of the fields after it, unless it is empty. -/
  close (seen : List Char) (rest : List Field) : List Field :=
    if seen.isEmpty then rest else Field.ofText seen.reverse :: rest

/-! ## Writing -/

/-- Whether a byte is written as itself: letters, digits and four marks. -/
def isPlainByte (b : UInt8) : Bool :=
  let c := Char.ofNat b.toNat
  c.isAlphanum || c == '*' || c == '-' || c == '.' || c == '_'

/-- A byte as it is written in a form field. -/
def encodeByte (b : UInt8) : List Char :=
  if isPlainByte b then [Char.ofNat b.toNat]
  else if b = 0x20 then ['+']
  else percentByte b

/-- A text as it is written in a form field. -/
def encode (text : String) : List Char := text.toByteArray.toList.flatMap encodeByte

end LinkLedger.Text.Form
