import LinkLedger.Json.Problem
import LinkLedger.Text.Utf8

/-!
# Reading JSON strings

A text is read as pieces, so that bytes which are no characters are noticed where they matter: a
string with such bytes is wrong once its end is reached, and one that is skipped may hold them.

An escape by number stands for a UTF-16 unit. Units of the high half of a surrogate pair must be
followed by one of the low half; the pair stands for one character.
-/

set_option autoImplicit false

namespace LinkLedger.Json

open LinkLedger.Text

/-- What is left of a text. -/
abbrev Input := List Piece

/-- The text after blanks: space, tab and line ends. -/
def skipBlank : Input → Input
  | .char c :: rest =>
    if c = ' ' ∨ c = '\n' ∨ c = '\t' ∨ c = '\r' then skipBlank rest else .char c :: rest
  | input => input

/-! ## Escapes -/

/-- The character that a letter after a backslash stands for. -/
def shortEscape? : Char → Option Char
  | '"' => some '"'
  | '\\' => some '\\'
  | '/' => some '/'
  | 'b' => some '\x08'
  | 'f' => some '\x0c'
  | 'n' => some '\n'
  | 'r' => some '\r'
  | 't' => some '\t'
  | _ => none

def pieceDigit? : Piece → Option Nat
  | .char c => hexDigit? c
  | .stray _ _ => none

/-- The number that four hexadecimal digits write. -/
def quad? (a b c d : Piece) : Option Nat := do
  some (((← pieceDigit? a) * 16 + (← pieceDigit? b)) * 256
    + ((← pieceDigit? c) * 16 + (← pieceDigit? d)))

/-- What is wrong if fewer than four pieces follow `\u`: with four bytes among them they are read
and refused, with fewer the text has ended. -/
def shortQuad (rest : Input) : Problem :=
  if 4 ≤ rest.foldl (fun n piece => n + piece.size) 0 then .badEscape else .endInString

/-- Whether a unit is the first half of a surrogate pair. -/
def isHighHalf (unit : Nat) : Bool := 0xD800 ≤ unit && unit ≤ 0xDBFF

/-- Whether a unit is the second half of a surrogate pair. -/
def isLowHalf (unit : Nat) : Bool := 0xDC00 ≤ unit && unit ≤ 0xDFFF

def pairChar (high low : Nat) : Char :=
  Char.ofNat (0x10000 + (high - 0xD800) * 0x400 + (low - 0xDC00))

/-- What is wrong if no whole escape follows the first half of a pair. -/
def brokenPair : Input → Problem
  | [] | [.char '\\'] => .endInString
  | .char '\\' :: .char 'u' :: rest => shortQuad rest
  | _ => .brokenSurrogate

/-! ## Strings -/

/-- Reads a string up to its closing quote. `seen` holds its characters, last first; `isText` says
that all of its bytes so far were characters. -/
def readString (seen : List Char) (isText : Bool) : Input → Except Problem (String × Input)
  | [] => .error .endInString
  | .char '"' :: rest =>
    if isText then .ok (String.ofList seen.reverse, rest) else .error .notText
  | .char '\\' :: .char 'u' :: a :: b :: c :: d :: rest =>
    match quad? a b c d with
    | none => .error .badEscape
    | some unit =>
      if isLowHalf unit then .error .loneSurrogate
      else if isHighHalf unit then
        match rest with
        | .char '\\' :: .char 'u' :: e :: f :: g :: h :: rest =>
          match quad? e f g h with
          | none => .error .badEscape
          | some low =>
            if isLowHalf low then readString (pairChar unit low :: seen) isText rest
            else .error .loneSurrogate
        | rest => .error (brokenPair rest)
      else readString (Char.ofNat unit :: seen) isText rest
  | .char '\\' :: .char 'u' :: rest => .error (shortQuad rest)
  | .char '\\' :: .char e :: rest =>
    match shortEscape? e with
    | some c => readString (c :: seen) isText rest
    | none => .error .badEscape
  | .char '\\' :: .stray _ _ :: _ => .error .badEscape
  | [.char '\\'] => .error .endInString
  | .char c :: rest =>
    if c.toNat < 0x20 then .error .controlInString else readString (c :: seen) isText rest
  | .stray _ _ :: rest => readString seen false rest

/-- Skips a string up to its closing quote. Units of surrogate pairs need not go together here. -/
def skipString : Input → Except Problem Input
  | [] => .error .endInString
  | .char '"' :: rest => .ok rest
  | .char '\\' :: .char 'u' :: a :: b :: c :: d :: rest =>
    match quad? a b c d with
    | none => .error .badEscape
    | some _ => skipString rest
  | .char '\\' :: .char 'u' :: rest => .error (shortQuad rest)
  | .char '\\' :: .char e :: rest =>
    match shortEscape? e with
    | some _ => skipString rest
    | none => .error .badEscape
  | .char '\\' :: .stray _ _ :: _ => .error .badEscape
  | [.char '\\'] => .error .endInString
  | .char c :: rest => if c.toNat < 0x20 then .error .controlInString else skipString rest
  | .stray _ _ :: rest => skipString rest

end LinkLedger.Json
