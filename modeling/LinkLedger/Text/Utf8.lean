/-!
# Text that arrives as bytes

Bytes are read as UTF-8 without loss: `pieces` gives the characters and, between them, the bytes
that belong to none. Bytes that are well formed give characters only, and those of the text they
write. Bytes that are not are cut as the Unicode standard recommends: a stray piece is the longest
beginning of a character that stands there, so the next piece starts where a character can start.

Readers that must refuse malformed text look for the first stray piece (`fault?`), readers that
must show something put U+FFFD in its place (`lossy`).
-/

set_option autoImplicit false

namespace LinkLedger.Text

/-! ## Pieces -/

/-- A character, or bytes that belong to none. -/
inductive Piece where
  | char (c : Char)
  /-- The beginning of a character, or a byte none begins with. `cut` says that the bytes ended
  before the character could. -/
  | stray (bytes : List UInt8) (cut : Bool)
  deriving DecidableEq, Repr

/-- A character that has begun: how many bytes are still to come, between which bounds the next
one lies, the bits read so far, and the bytes they came from. -/
structure Begun where
  missing : Nat
  low : UInt8
  high : UInt8
  bits : Nat
  taken : List UInt8

/-- What a byte at the start of a character announces. -/
inductive Start where
  | whole (c : Char)
  | begun (b : Begun)
  | stray

/-- Reads a first byte. The bounds on the second byte leave out overlong forms, surrogates and
everything above U+10FFFF. -/
def Start.ofByte (b : UInt8) : Start :=
  if b < 0x80 then .whole (Char.ofNat b.toNat)
  else if 0xC2 ≤ b ∧ b ≤ 0xDF then .begun ⟨1, 0x80, 0xBF, b.toNat - 0xC0, [b]⟩
  else if b = 0xE0 then .begun ⟨2, 0xA0, 0xBF, 0, [b]⟩
  else if b = 0xED then .begun ⟨2, 0x80, 0x9F, 0xD, [b]⟩
  else if 0xE1 ≤ b ∧ b ≤ 0xEF then .begun ⟨2, 0x80, 0xBF, b.toNat - 0xE0, [b]⟩
  else if b = 0xF0 then .begun ⟨3, 0x90, 0xBF, 0, [b]⟩
  else if b = 0xF4 then .begun ⟨3, 0x80, 0x8F, 4, [b]⟩
  else if 0xF1 ≤ b ∧ b ≤ 0xF3 then .begun ⟨3, 0x80, 0xBF, b.toNat - 0xF0, [b]⟩
  else .stray

/-- Cuts bytes into pieces; the first argument is the character that has begun, if one has. -/
def scan : Option Begun → List UInt8 → List Piece
  | none, [] => []
  | some p, [] => [.stray p.taken true]
  | pending, b :: bs =>
    let start (before : List Piece) : List Piece :=
      match Start.ofByte b with
      | .whole c => before ++ .char c :: scan none bs
      | .begun p => before ++ scan (some p) bs
      | .stray => before ++ .stray [b] false :: scan none bs
    match pending with
    | none => start []
    | some p =>
      if p.low ≤ b ∧ b ≤ p.high then
        let bits := p.bits * 64 + (b.toNat - 0x80)
        if p.missing ≤ 1 then .char (Char.ofNat bits) :: scan none bs
        else scan (some ⟨p.missing - 1, 0x80, 0xBF, bits, p.taken ++ [b]⟩) bs
      else start [.stray p.taken false]

/-- The pieces of a text: its characters. -/
def piecesOf (text : String) : List Piece := text.toList.map Piece.char

def pieces (bytes : ByteArray) : List Piece :=
  match String.fromUTF8? bytes with
  | some text => piecesOf text
  | none => scan none bytes.toList

/-! ## Sizes -/

/-- How many bytes a piece takes up. -/
def Piece.size : Piece → Nat
  | .char c => c.utf8Size
  | .stray bytes _ => bytes.length

/-- Where the first bytes that are no character stand, how many they are, and whether the text
ended within a character there. -/
structure Utf8Fault where
  offset : Nat
  length : Nat
  cut : Bool
  deriving DecidableEq, Repr

/-- The first stray piece, counted in bytes from `offset`. -/
def firstFault (offset : Nat) : List Piece → Option Utf8Fault
  | [] => none
  | .stray bytes cut :: _ => some ⟨offset, bytes.length, cut⟩
  | .char c :: rest => firstFault (offset + c.utf8Size) rest

/-- What keeps bytes from being text, if anything does. -/
def fault? (bytes : ByteArray) : Option Utf8Fault := firstFault 0 (pieces bytes)

def Utf8Fault.message (f : Utf8Fault) : String :=
  if f.cut then s!"incomplete utf-8 byte sequence from index {f.offset}"
  else s!"invalid utf-8 sequence of {f.length} bytes from index {f.offset}"

/-! ## Reading as text -/

/-- The character that stands for a piece: itself, or U+FFFD for stray bytes. -/
def Piece.shown : Piece → Char
  | .char c => c
  | .stray _ _ => Char.ofNat 0xFFFD

/-- The text of some bytes, U+FFFD in place of each stray piece. -/
def lossy (bytes : ByteArray) : String := String.ofList ((pieces bytes).map Piece.shown)

/-- Well-formed bytes have the pieces of the text they write. -/
theorem pieces_toByteArray (text : String) : pieces text.toByteArray = piecesOf text := by
  have h : String.fromUTF8? text.toByteArray = some text := by
    rw [String.fromUTF8?, dif_pos text.isValidUTF8]
    exact congrArg some (String.toByteArray_inj.1 rfl)
  simp [pieces, h]

/-- Well-formed bytes read back as the text they write. -/
theorem lossy_toByteArray (text : String) : lossy text.toByteArray = text := by
  rw [lossy, pieces_toByteArray, piecesOf, List.map_map]
  exact (congrArg String.ofList (List.map_id _)).trans String.ofList_toList

end LinkLedger.Text
