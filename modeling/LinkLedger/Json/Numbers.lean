import LinkLedger.Decimal.Shortest
import LinkLedger.Json.Strings

/-!
# Reading JSON numbers

Whole numbers that fit into 64 bits are kept as they are. All others become doubles: the digits that
fit into a word of 64 bits times a power of ten, rounded after each of the two steps. Such numbers
never stand where this program wants one, so all that is done with them is to show them in the
message that says so.
-/

set_option autoImplicit false

namespace LinkLedger.Json

open LinkLedger.Text LinkLedger.Decimal

/-! ## Showing doubles -/

/-- Where doubles are written with an exponent. -/
structure FloatLayout where
  /-- The least power of ten of the first digit that is written without one. -/
  leastPlain : Int
  /-- The largest such power. -/
  largestPlain : Int
  /-- How many digits an exponent has at least. -/
  exponentDigits : Nat

/-- Doubles in messages: without an exponent from `0.00001` to below `1e16`, and always with a
point or an exponent. -/
def shownLayout : FloatLayout := ⟨-5, 15, 2⟩

/-- An exponent with its sign. -/
def FloatLayout.exponent (layout : FloatLayout) (power : Int) : List Char :=
  let digits := decimal power.natAbs
  ['e', if power < 0 then '-' else '+']
    ++ List.replicate (layout.exponentDigits - digits.length) '0' ++ digits

def FloatLayout.write (layout : FloatLayout) (s : Scientific) : List Char :=
  let digits := decimal s.digits
  let power : Int := s.exponent + digits.length - 1
  if layout.leastPlain ≤ power ∧ power ≤ layout.largestPlain then
    if power < 0 then ['0', '.'] ++ List.replicate (-power - 1).toNat '0' ++ digits
    else if s.exponent < 0 then
      digits.take (power.toNat + 1) ++ '.' :: digits.drop (power.toNat + 1)
    else digits ++ List.replicate s.exponent.toNat '0' ++ ['.', '0']
  else
    (match digits with
      | [d] => [d]
      | d :: more => d :: '.' :: more
      | [] => [])
      ++ layout.exponent power

/-- The bit of a word that says that a number is negative. -/
def signBit : Nat := 9223372036854775808

def shownFloat (f : Float) : String :=
  let bits := f.toBits.toNat
  let size := bits % signBit
  let sign := if signBit ≤ bits then ['-'] else []
  String.ofList (sign ++
    if size = 0 then ['0', '.', '0'] else shownLayout.write (shortest size))

/-! ## Doubles from digits and powers of ten -/

/-- A power of ten up to `1e308`, rounded. -/
def powerOfTen (n : Nat) : Float := Float.ofScientific 1 false n

/-- Divides by `1e308` until the exponent is at least `-308` or nothing is left. -/
def scaleUp : Nat → Float → Nat → Float
  | 0, f, _ => f
  | steps + 1, f, down =>
    if down ≤ 308 then f / powerOfTen down
    else if f == 0.0 then f
    else scaleUp steps (f / powerOfTen 308) (down - 308)

/-- `significand * 10 ^ exponent`, or none if it is too large. -/
def toFloat? (significand : Nat) (exponent : Int) : Option Float :=
  let f := (UInt64.ofNat significand).toFloat
  if exponent < 0 then some (scaleUp 4 f (-exponent).toNat)
  else if exponent ≤ 308 then
    let scaled := f * powerOfTen exponent.toNat
    if scaled.isInf then none else some scaled
  else if significand = 0 then some f
  else none

/-! ## Reading -/

inductive Number where
  | unsigned (value : Nat)
  /-- A negative whole number that fits into 64 bits, by its absolute value. -/
  | negative (value : Nat)
  | float (value : Float)

/-- The number as what was found. -/
def Number.found : Number → Found
  | .unsigned value => .unsigned value
  | .negative value => .negative value
  | .float value => .float (shownFloat value)

def isDigitPiece : Piece → Bool
  | .char c => isDecimal c
  | .stray _ _ => false

def digitOfPiece : Piece → Nat
  | .char c => decimalValue c
  | .stray _ _ => 0

def takeDigits (input : Input) : List Nat := (input.takeWhile isDigitPiece).map digitOfPiece

def dropDigits (input : Input) : Input := input.dropWhile isDigitPiece

def maxWord : Nat := 18446744073709551615

/-- Appends digits to a significand as long as it fits into a word; the second part counts the
digits that were left out. -/
def appendDigits : Nat → List Nat → Nat × Nat
  | significand, [] => (significand, 0)
  | significand, d :: more =>
    if maxWord < significand * 10 + d then (significand, more.length + 1)
    else appendDigits (significand * 10 + d) more

def signedFloat (isNegative : Bool) (significand : Nat) (exponent : Int) :
    Except Problem Number :=
  match toFloat? significand exponent with
  | none => .error .numberTooLarge
  | some f => .ok (.float (if isNegative then -f else f))

/-- The largest exponent that is told from larger ones. -/
def maxExponent : Nat := 2147483647

/-- Reads what follows the `e` of a number. -/
def readExponent (isNegative : Bool) (significand : Nat) (exponent : Int) (input : Input) :
    Except Problem (Number × Input) :=
  let (isDown, input) := match input with
    | .char '+' :: rest => (false, rest)
    | .char '-' :: rest => (true, rest)
    | _ => (false, input)
  match takeDigits input with
  | [] => .error (if input.isEmpty then .endInValue else .badNumber)
  | digits => do
    let power := digits.foldl (fun n d => n * 10 + d) 0
    let rest := dropDigits input
    if maxExponent < power then
      if significand ≠ 0 ∧ !isDown then throw .numberTooLarge
      return (.float (if isNegative then -0.0 else 0.0), rest)
    let exponent : Int := if isDown then exponent - power else exponent + power
    return (← signedFloat isNegative significand exponent, rest)

/-- Reads what follows the whole part of a number; `exponent` counts the digits of it that did not
fit. -/
def readFraction (isNegative : Bool) (significand exponent : Nat) (input : Input) :
    Except Problem (Number × Input) := do
  match input with
  | .char '.' :: rest =>
    let digits := takeDigits rest
    if digits.isEmpty then throw (if rest.isEmpty then .endInValue else .badNumber)
    let (significand, left) := appendDigits significand digits
    let exponent : Int := exponent - (digits.length - left : Nat)
    match dropDigits rest with
    | .char 'e' :: rest | .char 'E' :: rest => readExponent isNegative significand exponent rest
    | rest => return (← signedFloat isNegative significand exponent, rest)
  | .char 'e' :: rest | .char 'E' :: rest => readExponent isNegative significand exponent rest
  | rest =>
    if 0 < exponent then return (← signedFloat isNegative significand exponent, rest)
    else if !isNegative then return (.unsigned significand, rest)
    else if 0 < significand ∧ significand ≤ signBit then return (.negative significand, rest)
    else return (← signedFloat true significand 0, rest)

/-- Reads the digits of a number. A zero in front stands alone. -/
def readDigits (isNegative : Bool) (input : Input) : Except Problem (Number × Input) :=
  match takeDigits input with
  | [] => .error (if input.isEmpty then .endInValue else .badNumber)
  | 0 :: _ :: _ => .error .badNumber
  | digits =>
    let (significand, left) := appendDigits 0 digits
    readFraction isNegative significand left (dropDigits input)

/-- Reads a number from its sign or its first digit. -/
def readNumber : Input → Except Problem (Number × Input)
  | .char '-' :: rest => readDigits true rest
  | input => readDigits false input

/-! ## Skipping -/

/-- Skips what follows the `e` of a number. -/
def skipExponent (input : Input) : Except Problem Input :=
  let input := match input with
    | .char '+' :: rest | .char '-' :: rest => rest
    | _ => input
  if (takeDigits input).isEmpty then .error .badNumber else .ok (dropDigits input)

/-- Skips a number from its first digit. -/
def skipNumber (input : Input) : Except Problem Input :=
  match takeDigits input with
  | [] | 0 :: _ :: _ => .error .badNumber
  | _ =>
    match dropDigits input with
    | .char '.' :: rest =>
      if (takeDigits rest).isEmpty then .error .badNumber
      else match dropDigits rest with
        | .char 'e' :: rest | .char 'E' :: rest => skipExponent rest
        | rest => .ok rest
    | .char 'e' :: rest | .char 'E' :: rest => skipExponent rest
    | rest => .ok rest

end LinkLedger.Json
