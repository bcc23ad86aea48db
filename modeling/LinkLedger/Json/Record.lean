import LinkLedger.Json.Values

/-!
# Reading records

A record has named fields, each a word of 64 bits or a string. It is read from an object, whose
members may come in any order and beside members that the record does not know, or from an array of
the values in the order of the fields. No field may be missing or be given twice.

`readWhole` reads a text that holds one value and nothing after it.
-/

set_option autoImplicit false

namespace LinkLedger.Json

open LinkLedger.Text

/-! ## Shapes -/

inductive FieldKind where
  | word
  | text
  deriving DecidableEq, Repr

inductive FieldValue where
  | word (value : UInt64)
  | text (value : String)
  deriving DecidableEq, Repr

/-- A record's name and its fields in order. -/
structure Shape where
  name : String
  fields : List (String × FieldKind)

/-- Where fields that were read are kept, by name. -/
abbrev Fields := List (String × FieldValue)

def FieldKind.read (kind : FieldKind) (input : Input) : Except Problem (FieldValue × Input) :=
  match kind with
  | .word => (readWord64 input).map fun (value, rest) => (.word value, rest)
  | .text => (readText input).map fun (value, rest) => (.text value, rest)

/-- Tells where a problem was found. -/
def inside {α : Type} (place : Place) : Except Problem α → Except Located α
  | .ok a => .ok a
  | .error problem => .error ⟨place, problem⟩

/-! ## Objects -/

/-- Reads a member from its opening quote, key and value, and keeps it if the record knows it. -/
def Shape.readMember (shape : Shape) (seen : Fields) (input : Input) :
    Except Located (Fields × Input) := do
  let (key, rest) ← inside .top (readString [] true input)
  match shape.fields.lookup key with
  | some kind =>
    if (seen.lookup key).isSome then throw ⟨.top, .duplicateField key⟩
    let rest ← inside .top (colon rest)
    let (value, rest) ← inside (.key key) (kind.read rest)
    return (seen ++ [(key, value)], rest)
  | none =>
    let rest ← inside .top (colon rest)
    let rest ← inside (.key key) (skipValue (skipBlank rest))
    return (seen, rest)
where
  /-- The text after the colon behind a key. -/
  colon (input : Input) : Except Problem Input :=
    match skipBlank input with
    | .char ':' :: rest => .ok rest
    | [] => .error .endInObject
    | _ => .error .wantColon

/-- Reads members up to the closing brace, and the brace. Each takes at least one character. -/
def Shape.readMembers (shape : Shape) :
    Nat → (isFirst : Bool) → Fields → Input → Except Located (Fields × Input)
  | 0, _, _, _ => .error ⟨.top, .endInObject⟩
  | steps + 1, isFirst, seen, input =>
    let member (input : Input) : Except Located (Fields × Input) := do
      let (seen, rest) ← shape.readMember seen input
      shape.readMembers steps false seen rest
    match skipBlank input with
    | [] => .error ⟨.top, .endInObject⟩
    | .char '}' :: rest => .ok (seen, rest)
    | .char c :: rest =>
      if isFirst then
        if c = '"' then member rest else .error ⟨.top, .keyNotString⟩
      else if c = ',' then
        match skipBlank rest with
        | .char '"' :: rest => member rest
        | .char '}' :: _ => .error ⟨.top, .trailingComma⟩
        | [] => .error ⟨.top, .endInValue⟩
        | _ => .error ⟨.top, .keyNotString⟩
      else .error ⟨.top, .wantCommaOrBrace⟩
    | _ => .error ⟨.top, if isFirst then .keyNotString else .wantCommaOrBrace⟩

/-- The fields in the order of the record, or the first one that is missing. -/
def Shape.collect (shape : Shape) (seen : Fields) : Except Located (List FieldValue) :=
  shape.fields.mapM fun (name, _) =>
    match seen.lookup name with
    | some value => .ok value
    | none => .error ⟨.top, .missingField name⟩

/-! ## Arrays -/

/-- What an array for the record should have been. -/
def Shape.arrayPhrase (shape : Shape) : String :=
  let n := shape.fields.length
  let noun := if n = 1 then "element" else "elements"
  s!"struct {shape.name} with {n} {noun}"

/-- Reads the values of the fields from number `i` on. -/
def Shape.readElements (shape : Shape) (i : Nat) (seen : List FieldValue) :
    List (String × FieldKind) → Input → Except Located (List FieldValue × Input)
  | [], input => .ok (seen, input)
  | (_, kind) :: more, input =>
    let element (input : Input) : Except Located (List FieldValue × Input) := do
      let (value, rest) ← inside (.index i) (kind.read input)
      shape.readElements (i + 1) (seen ++ [value]) more rest
    match skipBlank input with
    | [] => .error ⟨.top, .endInList⟩
    | .char ']' :: _ => .error ⟨.top, .wrongLength i shape.arrayPhrase⟩
    | .char c :: rest =>
      if i = 0 then element (.char c :: rest)
      else if c = ',' then
        match skipBlank rest with
        | [] => .error ⟨.top, .endInValue⟩
        | .char ']' :: _ => .error ⟨.top, .trailingComma⟩
        | rest => element rest
      else .error ⟨.top, .wantCommaOrBracket⟩
    | input => if i = 0 then element input else .error ⟨.top, .wantCommaOrBracket⟩

/-- Reads the closing bracket behind the last field. -/
def closeArray (input : Input) : Except Problem Input :=
  match skipBlank input with
  | .char ']' :: rest => .ok rest
  | [] => .error .endInList
  | .char ',' :: rest =>
    match skipBlank rest with
    | .char ']' :: _ => .error .trailingComma
    | _ => .error .trailingText
  | _ => .error .trailingText

/-! ## Records and whole texts -/

def Shape.read (shape : Shape) (input : Input) : Except Located (List FieldValue × Input) :=
  match skipBlank input with
  | [] => .error ⟨.top, .endInValue⟩
  | .char '{' :: rest => do
    let (seen, rest) ← shape.readMembers (rest.length + 1) true [] rest
    return (← shape.collect seen, rest)
  | .char '[' :: rest => do
    let (values, rest) ← shape.readElements 0 [] shape.fields rest
    return (values, ← inside .top (closeArray rest))
  | input => .error ⟨.top, wrongType s!"struct {shape.name}" input⟩

/-- Refuses anything but blanks after a value. -/
def atEnd (input : Input) : Except Problem Unit :=
  if (skipBlank input).isEmpty then .ok () else .error .trailingText

/-- Reads a text that holds one record. -/
def Shape.readWhole (shape : Shape) (input : Input) : Except Located (List FieldValue) := do
  let (values, rest) ← shape.read input
  inside .top (atEnd rest)
  return values

def readWholeWord (input : Input) : Except Problem UInt64 := do
  let (value, rest) ← readWord64 input
  atEnd rest
  return value

end LinkLedger.Json
