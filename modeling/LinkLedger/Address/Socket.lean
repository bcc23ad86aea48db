import LinkLedger.Text.Decimal
import LinkLedger.Text.Hex

/-!
# Socket addresses

Where a server listens: an address and a port. The reading is strict: four decimal bytes without
leading zeros, or an IPv6 address between brackets, then a colon and the port. An IPv6 address has
eight groups, of which `::` replaces one or more that are zero; a dotted address may stand for the
last two. A zone, written as a number behind a percent sign, belongs to the address.

Addresses are written in their shortest form: the first of the longest runs of zero groups becomes
`::` if it is longer than one group, and addresses that wrap an IPv4 address show it dotted.
-/

set_option autoImplicit false

namespace LinkLedger.Address

open LinkLedger.Text

/-! ## Reading -/

/-- Reads a byte in base ten, at most three digits without a leading zero, and gives what follows
it. -/
def dottedByte? (text : List Char) : Option (Nat × List Char) :=
  let digits := text.takeWhile isDecimal
  let n := decimalNumber digits
  if digits.isEmpty || 3 < digits.length || (digits.head? = some '0' && 1 < digits.length)
      || 255 < n then none
  else some (n, text.drop digits.length)

/-- Reads four bytes apart by dots. -/
def dotted? (text : List Char) : Option (List Nat × List Char) := do
  let (a, text) ← dottedByte? text
  let (b, text) ← dottedByte? (← dot text)
  let (c, text) ← dottedByte? (← dot text)
  let (d, text) ← dottedByte? (← dot text)
  return ([a, b, c, d], text)
where
  /-- What follows a dot. -/
  dot : List Char → Option (List Char)
    | '.' :: rest => some rest
    | _ => none

/-- Reads a group: up to four hexadecimal digits. -/
def group? (text : List Char) : Option (Nat × List Char) :=
  let digits := text.takeWhile isHexDigit
  if digits.isEmpty || 4 < digits.length then none
  else some (hexNumber digits, text.drop digits.length)

/-- Groups that were read, whether they end in a dotted address, and what follows them. -/
structure Groups where
  groups : List Nat
  endsDotted : Bool
  rest : List Char

/-- Reads as many groups as there are, apart by colons and at most `slots`. A dotted address takes
two slots. -/
def takeGroups (slots : Nat) (isFirst : Bool) (text : List Char) : Groups :=
  match slots with
  | 0 => ⟨[], false, text⟩
  | slots + 1 =>
    match behindColon isFirst text with
    | none => ⟨[], false, text⟩
    | some here =>
      match if slots = 0 then none else dotted? here with
      | some ([a, b, c, d], rest) => ⟨[a * 256 + b, c * 256 + d], true, rest⟩
      | _ =>
        match group? here with
        | none => ⟨[], false, text⟩
        | some (group, rest) =>
          let more := takeGroups slots false rest
          { more with groups := group :: more.groups }
where
  /-- Where a group begins: at once for the first one, behind a colon for the others. -/
  behindColon (isFirst : Bool) (text : List Char) : Option (List Char) :=
    if isFirst then some text
    else match text with
      | ':' :: rest => some rest
      | _ => none

/-- Reads the eight groups of an IPv6 address. -/
def eightGroups? (text : List Char) : Option (List Nat × List Char) :=
  let front := takeGroups 8 true text
  if front.groups.length = 8 then some (front.groups, front.rest)
  else if front.endsDotted then none
  else
    match front.rest with
    | ':' :: ':' :: rest =>
      let back := takeGroups (7 - front.groups.length) true rest
      let zeros := 8 - front.groups.length - back.groups.length
      some (front.groups ++ List.replicate zeros 0 ++ back.groups, back.rest)
    | _ => none

/-- Reads a number below a bound. Leading zeros make no difference. -/
def boundedNumber? (bound : Nat) (text : List Char) : Option (Nat × List Char) :=
  let digits := text.takeWhile isDecimal
  let n := decimalNumber digits
  if digits.isEmpty || bound ≤ n then none else some (n, text.drop digits.length)

/-- An address and a port to listen on. -/
inductive SocketAddress where
  | v4 (bytes : List Nat) (port : Nat)
  /-- Zone zero is none. -/
  | v6 (groups : List Nat) (zone port : Nat)
  deriving DecidableEq, Repr

namespace SocketAddress

/-- Reads a colon and the port behind it, up to the end of the text. -/
def port? : List Char → Option Nat
  | ':' :: text =>
    match boundedNumber? 65536 text with
    | some (port, []) => some port
    | _ => none
  | _ => none

/-- Reads the zone of an address; there may be none. -/
def takeZone (text : List Char) : Nat × List Char :=
  match text with
  | '%' :: rest => (boundedNumber? 4294967296 rest).getD (0, text)
  | _ => (0, text)

def parse? (text : String) : Option SocketAddress :=
  match dotted? text.toList with
  | some (bytes, rest) => (port? rest).map (v4 bytes)
  | none =>
    match text.toList with
    | '[' :: inside =>
      match eightGroups? inside with
      | none => none
      | some (groups, rest) =>
        match takeZone rest with
        | (zone, ']' :: rest) => (port? rest).map (v6 groups zone)
        | _ => none
    | _ => none

/-! ## Writing -/

/-- Bytes apart by dots. -/
def dottedText (bytes : List Nat) : String := String.intercalate "." (bytes.map decimalText)

/-- How many of the groups from a position on are zero in a row. -/
def zerosFrom (groups : List Nat) (i : Nat) : Nat := ((groups.drop i).takeWhile (· = 0)).length

/-- Where the first of the longest runs of zero groups begins, and how long it is. -/
def longestZeros (groups : List Nat) : Nat × Nat :=
  (List.range groups.length).foldl
    (fun best i => if best.2 < zerosFrom groups i then (i, zerosFrom groups i) else best) (0, 0)

/-- Groups apart by colons. -/
def colonText (groups : List Nat) : String :=
  String.intercalate ":" (groups.map fun group => String.ofList (lowerHex group))

/-- An IPv6 address in its shortest form. -/
def groupsText (groups : List Nat) : String :=
  match groups with
  | [0, 0, 0, 0, 0, 0xFFFF, a, b] =>
    "::ffff:" ++ dottedText [a / 256, a % 256, b / 256, b % 256]
  | _ =>
    let (start, length) := longestZeros groups
    if 1 < length then
      colonText (groups.take start) ++ "::" ++ colonText (groups.drop (start + length))
    else colonText groups

def text : SocketAddress → String
  | v4 bytes port => s!"{dottedText bytes}:{decimalText port}"
  | v6 groups zone port =>
    let zoneText := if zone = 0 then "" else s!"%{decimalText zone}"
    s!"[{groupsText groups}{zoneText}]:{decimalText port}"

end SocketAddress

end LinkLedger.Address
