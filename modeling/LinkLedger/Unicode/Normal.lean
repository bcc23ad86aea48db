import LinkLedger.Unicode.CombiningClass
import LinkLedger.Unicode.Composition

/-!
# Normalization Form C

Canonical equivalence made decidable: take every character apart, put the marks on each base into
the order of their combining classes, then put together what composes. Text below U+0300 is
already in this form, and `compose` leaves it alone without looking at a table.
-/

set_option autoImplicit false

namespace LinkLedger.Unicode

/-! ## Hangul -/

/-- The parts of a Hangul syllable: a leading consonant, a vowel, and perhaps a trailing
consonant. -/
def hangulParts? (c : Char) : Option (List Char) :=
  if 0xAC00 ≤ c.toNat ∧ c.toNat ≤ 0xD7A3 then
    let index := c.toNat - 0xAC00
    let lead := Char.ofNat (0x1100 + index / 588)
    let vowel := Char.ofNat (0x1161 + index % 588 / 28)
    if index % 28 = 0 then some [lead, vowel]
    else some [lead, vowel, Char.ofNat (0x11A7 + index % 28)]
  else none

/-- The syllable of a consonant and a vowel, or of an open syllable and a trailing consonant. -/
def hangulPair? (a b : Char) : Option Char :=
  let x := a.toNat
  let y := b.toNat
  if 0x1100 ≤ x ∧ x < 0x1113 ∧ 0x1161 ≤ y ∧ y < 0x1176 then
    some (Char.ofNat (0xAC00 + ((x - 0x1100) * 21 + (y - 0x1161)) * 28))
  else if 0xAC00 ≤ x ∧ x ≤ 0xD7A3 ∧ (x - 0xAC00) % 28 = 0 ∧ 0x11A7 < y ∧ y < 0x11C3 then
    some (Char.ofNat (x + (y - 0x11A7)))
  else none

/-! ## Decomposition and order -/

/-- What a character is made of. -/
def parts (c : Char) : List Char :=
  if c.toNat < 0xC0 then [c]
  else match hangulParts? c with
    | some syllable => syllable
    | none => (decompositions.get? c).getD [c]

/-- Puts a character into a run of marks, behind all that do not belong after it. -/
def insertMark (c : Char) : List Char → List Char
  | [] => [c]
  | d :: ds => if combiningClass c < combiningClass d then c :: d :: ds else d :: insertMark c ds

/-- Each run of marks in the order of the combining classes; starters stay where they are. -/
def reorder (text : List Char) : List Char :=
  let step (state : List Char × List Char) (c : Char) : List Char × List Char :=
    if combiningClass c = 0 then (state.1 ++ state.2 ++ [c], [])
    else (state.1, insertMark c state.2)
  let (settled, marks) := text.foldl step ([], [])
  settled ++ marks

/-- Canonical decomposition. -/
def decompose (text : List Char) : List Char := reorder (text.flatMap parts)

/-! ## Composition -/

/-- The single character that stands for a pair, if there is one. -/
def composite? (a b : Char) : Option Char :=
  match hangulPair? a b with
  | some c => some c
  | none => (compositions.get? a).bind (fun pairs => pairs.lookup b)

/-- Composition in progress: the text before the last starter, that starter, and the marks after
it that did not join it. -/
structure Joining where
  before : List Char
  starter : Option Char
  marks : List Char

/-- The text of a composition in progress. -/
def Joining.text (j : Joining) : List Char := j.before ++ j.starter.toList ++ j.marks

/-- Takes the next character: it joins the last starter if the pair composes and nothing between
them blocks it, that is, every mark in between has a lower class. -/
def Joining.push (j : Joining) (c : Char) : Joining :=
  let fresh : Joining :=
    if combiningClass c = 0 then ⟨j.text, some c, []⟩ else ⟨j.before, j.starter, j.marks ++ [c]⟩
  match j.starter with
  | none => fresh
  | some s =>
    let blocked := match j.marks.getLast? with
      | none => false
      | some m => combiningClass c ≤ combiningClass m
    if blocked then fresh
    else match composite? s c with
      | some joined => { j with starter := some joined }
      | none => fresh

/-- Whether nothing in a text can change: it lies below the first combining mark. -/
def isPlain (text : List Char) : Bool := text.all fun c => c.toNat < 0x300

/-- Normalization Form C. -/
def compose (text : List Char) : List Char :=
  if isPlain text then text
  else ((decompose text).foldl Joining.push ⟨[], none, []⟩).text

end LinkLedger.Unicode
