import LinkLedger.Json.Numbers

/-!
# Reading JSON values

Three ways to go through a value: reading the number or the string that is wanted, skipping a value
that nobody asked for, and looking at a value of the wrong type just far enough to say what it is.
-/

set_option autoImplicit false

namespace LinkLedger.Json

open LinkLedger.Text

/-- Reads the rest of a word such as `true`. -/
def readWord : List Char → Input → Except Problem Input
  | [], rest => .ok rest
  | _, [] => .error .endInValue
  | c :: word, .char d :: rest => if c = d then readWord word rest else .error .wantWord
  | _, .stray _ _ :: _ => .error .wantWord

/-! ## Values of the wrong type -/

/-- What is wrong with a value that is not of the expected type: its type, unless it is no value at
all. Arrays and objects are not looked into. -/
def wrongType (expected : String) (input : Input) : Problem :=
  let word (letters : List Char) (rest : Input) (found : Found) : Problem :=
    match readWord letters rest with
    | .ok _ => .wrongType found expected
    | .error problem => problem
  match input with
  | .char 'n' :: rest => word ['u', 'l', 'l'] rest .null
  | .char 't' :: rest => word ['r', 'u', 'e'] rest (.boolean true)
  | .char 'f' :: rest => word ['a', 'l', 's', 'e'] rest (.boolean false)
  | .char '"' :: rest =>
    match readString [] true rest with
    | .ok (text, _) => .wrongType (.string text) expected
    | .error problem => problem
  | .char '[' :: _ => .wrongType .sequence expected
  | .char '{' :: _ => .wrongType .map expected
  | .char c :: _ =>
    if c = '-' || isDecimal c then
      match readNumber input with
      | .ok (number, _) => .wrongType number.found expected
      | .error problem => problem
    else .wantValue
  | _ => .wantValue

/-! ## Values that are wanted -/

def readWord64 (input : Input) : Except Problem (UInt64 × Input) :=
  let expected := "u64"
  match skipBlank input with
  | [] => .error .endInValue
  | .char c :: rest =>
    if c = '-' || isDecimal c then
      match readNumber (.char c :: rest) with
      | .ok (.unsigned n, rest) => .ok (UInt64.ofNat n, rest)
      | .ok (.negative n, _) => .error (.wrongValue (.negative n) expected)
      | .ok (number, _) => .error (.wrongType number.found expected)
      | .error problem => .error problem
    else .error (wrongType expected (.char c :: rest))
  | input => .error (wrongType expected input)

def readText (input : Input) : Except Problem (String × Input) :=
  match skipBlank input with
  | [] => .error .endInValue
  | .char '"' :: rest => readString [] true rest
  | input => .error (wrongType "a string" input)

/-! ## Values that nobody asked for -/

/-- What an open bracket is closed with. -/
inductive Bracket where
  | list
  | object
  deriving DecidableEq, Repr

/-- What the text lacks if it ends inside a bracket. -/
def Bracket.atEnd : Bracket → Problem
  | .list => .endInList
  | .object => .endInObject

/-- What is wrong if neither a comma nor the closing bracket follows a value. -/
def Bracket.atValue : Bracket → Problem
  | .list => .wantCommaOrBracket
  | .object => .wantCommaOrBrace

def Bracket.isClosedBy : Bracket → Char → Bool
  | .list, c => c == ']'
  | .object, c => c == '}'

/-- Where skipping stands: before a value, or after one, or just inside a bracket. -/
inductive SkipState where
  | value
  | afterValue
  | afterOpening
  deriving DecidableEq, Repr

/-- Skips a key and its colon. -/
def skipKey (input : Input) : Except Problem Input := do
  match skipBlank input with
  | [] => throw .endInObject
  | .char '"' :: rest =>
    match skipBlank (← skipString rest) with
    | .char ':' :: rest => return rest
    | [] => throw .endInObject
    | _ => throw .wantColon
  | _ => throw .keyNotString

/-- Skips a value without brackets from its first character. -/
def skipPlain (input : Input) : Except Problem Input :=
  match input with
  | [] => .error .endInValue
  | .char 'n' :: rest => readWord ['u', 'l', 'l'] rest
  | .char 't' :: rest => readWord ['r', 'u', 'e'] rest
  | .char 'f' :: rest => readWord ['a', 'l', 's', 'e'] rest
  | .char '-' :: rest => skipNumber rest
  | .char '"' :: rest => skipString rest
  | .char c :: rest => if isDecimal c then skipNumber (.char c :: rest) else .error .wantValue
  | _ => .error .wantValue

/-- Goes through a value, the open brackets innermost first. Every step takes a character or leaves
the state before a value, so twice as many steps as characters are enough. -/
def skipSteps : Nat → List Bracket → SkipState → Input → Except Problem Input
  | 0, _, _, _ => .error .wantValue
  | steps + 1, brackets, state, input =>
    match state, brackets with
    | .value, _ =>
      match skipBlank input with
      | .char '[' :: rest => skipSteps steps (.list :: brackets) .afterOpening rest
      | .char '{' :: rest => skipSteps steps (.object :: brackets) .afterOpening rest
      | input => do skipSteps steps brackets .afterValue (← skipPlain input)
    | .afterValue, [] => .ok input
    | .afterOpening, [] => .ok input
    | _, bracket :: outer =>
      let member (input : Input) : Except Problem Input := do
        let input ← if bracket = .object then skipKey input else pure input
        skipSteps steps brackets .value input
      match skipBlank input with
      | [] => .error bracket.atEnd
      | .char c :: rest =>
        if bracket.isClosedBy c then skipSteps steps outer .afterValue rest
        else if state = .afterOpening then member (.char c :: rest)
        else if c = ',' then member rest
        else .error bracket.atValue
      | input => if state = .afterOpening then member input else .error bracket.atValue

def skipValue (input : Input) : Except Problem Input :=
  skipSteps (2 * input.length + 2) [] .value input

end LinkLedger.Json
