import LinkLedger.Text.Decimal
import LinkLedger.Text.Quoted

/-!
# What can be wrong with a JSON text

Three categories: the text ends too early, it is no JSON, or it is JSON of the wrong shape. A
problem inside a value of an object or an array is found together with the key or the index that
leads to the value.
-/

set_option autoImplicit false

namespace LinkLedger.Json

open LinkLedger.Text

/-- A JSON value as far as it is looked at when it is not the one that is wanted. -/
inductive Found where
  | null
  | boolean (value : Bool)
  | unsigned (value : Nat)
  /-- A negative whole number, by its absolute value. -/
  | negative (value : Nat)
  /-- Any other number, as it is shown. -/
  | float (shown : String)
  | string (value : String)
  | sequence
  | map
  deriving DecidableEq, Repr

/-- What was found, in words. -/
def Found.phrase : Found → String
  | .null => "null"
  | .boolean value => if value then "boolean `true`" else "boolean `false`"
  | .unsigned value => s!"integer `{decimalText value}`"
  | .negative value => s!"integer `-{decimalText value}`"
  | .float shown => s!"floating point `{shown}`"
  | .string value => s!"string {quoted value}"
  | .sequence => "sequence"
  | .map => "map"

inductive Problem where
  | endInList
  | endInObject
  | endInString
  | endInValue
  | wantColon
  | wantCommaOrBracket
  | wantCommaOrBrace
  /-- A word that begins like `true`, `false` or `null` goes on differently. -/
  | wantWord
  | wantValue
  | badEscape
  | badNumber
  | numberTooLarge
  /-- A string holds bytes that are no characters. -/
  | notText
  | controlInString
  | keyNotString
  | loneSurrogate
  | brokenSurrogate
  | trailingComma
  | trailingText
  | wrongType (found : Found) (expected : String)
  | wrongValue (found : Found) (expected : String)
  | wrongLength (length : Nat) (expected : String)
  | missingField (name : String)
  | duplicateField (name : String)
  deriving DecidableEq, Repr

/-- The categories of problems. -/
inductive Category where
  /-- The text ends too early. -/
  | eof
  /-- The text is no JSON. -/
  | syntaxError
  /-- The text is JSON of the wrong shape. -/
  | data
  deriving DecidableEq, Repr

/-- The category of a problem. -/
def Problem.category : Problem → Category
  | .endInList | .endInObject | .endInString | .endInValue => .eof
  | .wrongType _ _ | .wrongValue _ _ | .wrongLength _ _ | .missingField _ | .duplicateField _ =>
    .data
  | _ => .syntaxError

def Problem.message : Problem → String
  | .endInList => "EOF while parsing a list"
  | .endInObject => "EOF while parsing an object"
  | .endInString => "EOF while parsing a string"
  | .endInValue => "EOF while parsing a value"
  | .wantColon => "expected `:`"
  | .wantCommaOrBracket => "expected `,` or `]`"
  | .wantCommaOrBrace => "expected `,` or `\x7d`"
  | .wantWord => "expected ident"
  | .wantValue => "expected value"
  | .badEscape => "invalid escape"
  | .badNumber => "invalid number"
  | .numberTooLarge => "number out of range"
  | .notText => "invalid unicode code point"
  | .controlInString => "control character (\\u0000-\\u001F) found while parsing a string"
  | .keyNotString => "key must be a string"
  | .loneSurrogate => "lone leading surrogate in hex escape"
  | .brokenSurrogate => "unexpected end of hex escape"
  | .trailingComma => "trailing comma"
  | .trailingText => "trailing characters"
  | .wrongType found expected => s!"invalid type: {found.phrase}, expected {expected}"
  | .wrongValue found expected => s!"invalid value: {found.phrase}, expected {expected}"
  | .wrongLength length expected => s!"invalid length {length}, expected {expected}"
  | .missingField name => s!"missing field `{name}`"
  | .duplicateField name => s!"duplicate field `{name}`"

inductive Place where
  | top
  /-- Inside the value of a key. -/
  | key (name : String)
  /-- Inside an element of an array. -/
  | index (i : Nat)
  deriving DecidableEq, Repr

/-- A problem and its place. -/
structure Located where
  place : Place
  problem : Problem
  deriving DecidableEq, Repr

/-- The problem in words, behind the way to its place if that is inside a value. -/
def Located.message (l : Located) : String :=
  match l.place with
  | .top => l.problem.message
  | .key name => s!"{name}: {l.problem.message}"
  | .index i => s!"[{i}]: {l.problem.message}"

end LinkLedger.Json
