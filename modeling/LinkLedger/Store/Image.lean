import LinkLedger.Store.Table
import LinkLedger.Text.Hex

/-!
# Images of databases

How a database is written to a file and read back. A file without a table is empty. Otherwise the
first line holds the largest key that was ever used, and each further line holds a row: its key,
whether its url column is text or bytes, and the column byte by byte in hexadecimal digits, so that
no column can be mistaken for the end of its line.
-/

set_option autoImplicit false

namespace LinkLedger

open LinkLedger.Text

/-! ## Writing -/

def hexOfBytes (bytes : ByteArray) : List Char :=
  bytes.toList.flatMap fun b => [hexDigitOf (b.toNat / 16), hexDigitOf (b.toNat % 16)]

/-- A whole number with its sign. -/
def keyText (key : Int) : List Char :=
  if key < 0 then '-' :: decimal key.natAbs else decimal key.natAbs

def Row.line (row : Row) : List Char :=
  let (kind, bytes) := match row.cell with
    | .text bytes => ('t', bytes)
    | .blob bytes => ('b', bytes)
  keyText row.key ++ [' ', kind, ' '] ++ hexOfBytes bytes

def Database.image (d : Database) : String :=
  match d.table with
  | none => ""
  | some t =>
    let lines := decimal t.lastKey :: t.rows.map Row.line
    String.ofList (lines.flatMap fun line => line ++ ['\n'])

/-! ## Reading -/

/-- The bytes that pairs of hexadecimal digits write. -/
def bytesOfHex? : List Char → Option (List UInt8)
  | [] => some []
  | [_] => none
  | high :: low :: rest => do
    let h ← hexDigit? high
    let l ← hexDigit? low
    return UInt8.ofNat (16 * h + l) :: (← bytesOfHex? rest)

/-- Reads a number without a sign. -/
def natural? (text : List Char) : Option Nat :=
  if text.isEmpty || !text.all isDecimal then none else some (decimalNumber text)

/-- Reads a whole number. -/
def key? : List Char → Option Int
  | '-' :: text => (natural? text).map fun n => -(n : Int)
  | text => (natural? text).map fun n => (n : Int)

def Row.ofLine? (line : List Char) : Option Row :=
  match line.splitOn ' ' with
  | [key, kind, hex] => do
    let key ← key? key
    let bytes := (← bytesOfHex? hex).toByteArray
    match kind with
    | ['t'] => return ⟨key, .text bytes⟩
    | ['b'] => return ⟨key, .blob bytes⟩
    | _ => none
  | _ => none

/-- Reads the image of a database; there is none in a file that was written by somebody else. -/
def Database.ofImage? (image : String) : Option Database :=
  match image.toList with
  | [] => some .empty
  | text =>
    match (text.splitOn '\n').reverse with
    | [] :: lines =>
      match lines.reverse with
      | lastKey :: rows => do
        let lastKey ← natural? lastKey
        return ⟨some ⟨← rows.mapM Row.ofLine?, lastKey⟩⟩
      | [] => none
    | _ => none

end LinkLedger
