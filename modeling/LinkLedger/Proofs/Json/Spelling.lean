import Mathlib.Tactic.SplitIfs
import LinkLedger.Json.Values
import LinkLedger.Json.Writer
import LinkLedger.Proofs.Text.Numerals

/-!
# Spellings of strings and words

A string has many spellings: each of its characters may stand as it is, behind a backslash, or by
its UTF-16 units in hexadecimal digits of either case (`SpellsChar`). A word of 64 bits has one, its
decimal numeral. Any value may have blanks in front of it.

**Every spelling of a string is read as that string** (`readString_spelled`), and that of a word as
that word (`readWord64_decimal`), with what follows left over.
-/

set_option autoImplicit false

namespace LinkLedger.Json

open LinkLedger.Text

/-! ## Blanks -/

def Blanks (text : List Char) : Prop := ∀ c ∈ text, c = ' ' ∨ c = '\n' ∨ c = '\t' ∨ c = '\r'

theorem blanks_nil : Blanks [] := List.forall_mem_nil _

theorem skipBlank_append {blanks : List Char} (h : Blanks blanks) (rest : Input) :
    skipBlank (blanks.map Piece.char ++ rest) = skipBlank rest := by
  induction blanks with
  | nil => rfl
  | cons c blanks ih =>
    obtain ⟨blank, more⟩ := List.forall_mem_cons.mp h
    rw [List.map_cons, List.cons_append, skipBlank, if_pos blank, ih more]

theorem skipBlank_skipBlank (input : Input) : skipBlank (skipBlank input) = skipBlank input := by
  fun_induction skipBlank input with
  | case1 c rest blank ih => exact ih
  | case2 c rest solid => rw [skipBlank, if_neg solid]
  | case3 input notChar =>
    cases input with
    | nil => rfl
    | cons piece rest =>
      cases piece with
      | char c => exact absurd rfl (notChar c rest)
      | stray bytes cut => rfl

/-! ## Units -/

/-- Four hexadecimal digits write a number. -/
structure WritesUnit (unit : Nat) (digits : List Char) : Prop where
  length : digits.length = 4
  all : ∀ c ∈ digits, isHexDigit c = true
  value : hexNumber digits = unit

theorem WritesUnit.exists_quad {unit : Nat} {digits : List Char} (h : WritesUnit unit digits) :
    ∃ a b c d, digits = [a, b, c, d] ∧
      quad? (.char a) (.char b) (.char c) (.char d) = some unit := by
  obtain ⟨a, b, c, d, rfl⟩ := List.length_eq_four.mp h.length
  refine ⟨a, b, c, d, rfl, ?_⟩
  have digit : ∀ e ∈ [a, b, c, d], ∃ n, hexDigit? e = some n := fun e he =>
    Option.isSome_iff_exists.mp (h.all e he)
  obtain ⟨i, hi⟩ := digit a (by simp)
  obtain ⟨j, hj⟩ := digit b (by simp)
  obtain ⟨k, hk⟩ := digit c (by simp)
  obtain ⟨l, hl⟩ := digit d (by simp)
  have value := h.value
  simp only [hexNumber, List.foldl_cons, List.foldl_nil, hi, hj, hk, hl, Option.getD_some] at value
  simp only [quad?, pieceDigit?, hi, hj, hk, hl, Option.bind_eq_bind, Option.bind_some]
  congr 1
  omega

/-! ## Strings -/

/-- The letters that stand behind a backslash, each with the character that it stands for. -/
def shortEscapes : List (Char × Char) :=
  [('"', '"'), ('\\', '\\'), ('/', '/'), ('b', '\x08'), ('f', '\x0c'), ('n', '\n'), ('r', '\r'),
    ('t', '\t')]

/-- How a character may be spelled in a string. -/
inductive SpellsChar (c : Char) : List Char → Prop
  /-- As it is: quotes, backslashes and controls may not. -/
  | plain (noQuote : c ≠ '"') (noSlash : c ≠ '\\') (noControl : 0x20 ≤ c.toNat) : SpellsChar c [c]
  /-- By a letter behind a backslash, if there is one for it. -/
  | short {letter : Char} (escape : (letter, c) ∈ shortEscapes) : SpellsChar c ['\\', letter]
  /-- By its number, if that fits into four digits. -/
  | unit {digits : List Char} (writes : WritesUnit c.toNat digits) :
    SpellsChar c ('\\' :: 'u' :: digits)
  /-- By a surrogate pair, if it does not. -/
  | pair {high low : List Char} (beyond : 0x10000 ≤ c.toNat)
    (first : WritesUnit (0xD800 + (c.toNat - 0x10000) / 0x400) high)
    (second : WritesUnit (0xDC00 + (c.toNat - 0x10000) % 0x400) low) :
    SpellsChar c ('\\' :: 'u' :: high ++ '\\' :: 'u' :: low)

/-- Characters that are spelled one after another. -/
inductive SpellsChars : List Char → List Char → Prop
  | nil : SpellsChars [] []
  | cons {c : Char} {text spelled more : List Char} (first : SpellsChar c spelled)
    (rest : SpellsChars text more) : SpellsChars (c :: text) (spelled ++ more)

/-- A string between its quotes. -/
inductive SpellsString (text : String) : List Char → Prop
  | intro {inner : List Char} (chars : SpellsChars text.toList inner) :
    SpellsString text ('"' :: inner ++ ['"'])

theorem shortEscape?_of_mem {letter c : Char} (escape : (letter, c) ∈ shortEscapes) :
    shortEscape? letter = some c ∧ letter ≠ 'u' := by
  have all : (shortEscapes.all fun escape =>
      shortEscape? escape.1 = some escape.2 ∧ escape.1 ≠ 'u') = true := by decide
  exact of_decide_eq_true (List.all_eq_true.mp all _ escape)

/-- No character is half of a surrogate pair. -/
theorem not_half_of_char (c : Char) :
    isLowHalf c.toNat = false ∧ isHighHalf c.toNat = false := by
  have valid : c.toNat < 0xD800 ∨ 0xDFFF < c.toNat ∧ c.toNat < 0x110000 := c.valid
  simp only [isLowHalf, isHighHalf, Bool.and_eq_false_iff, decide_eq_false_iff_not]
  omega

/-- The halves of a pair are halves, and stand for the character that they were made for. -/
theorem halves_of_char {c : Char} (beyond : 0x10000 ≤ c.toNat) :
    let high := 0xD800 + (c.toNat - 0x10000) / 0x400
    let low := 0xDC00 + (c.toNat - 0x10000) % 0x400
    isLowHalf high = false ∧ isHighHalf high = true ∧ isLowHalf low = true ∧
      pairChar high low = c := by
  intro high low
  have valid : c.toNat < 0xD800 ∨ 0xDFFF < c.toNat ∧ c.toNat < 0x110000 := c.valid
  refine ⟨?_, ?_, ?_, ?_⟩
  · simp only [isLowHalf, Bool.and_eq_false_iff, decide_eq_false_iff_not]
    omega
  · simp only [isHighHalf, Bool.and_eq_true, decide_eq_true_eq]
    omega
  · simp only [isLowHalf, Bool.and_eq_true, decide_eq_true_eq]
    omega
  · have whole : 0x10000 + (high - 0xD800) * 0x400 + (low - 0xDC00) = c.toNat := by omega
    rw [pairChar, whole, Char.ofNat_toNat]

theorem readString_char {c : Char} {spelled : List Char} (h : SpellsChar c spelled)
    (seen : List Char) (rest : Input) :
    readString seen true (spelled.map Piece.char ++ rest) = readString (c :: seen) true rest := by
  cases h with
  | plain noQuote noSlash noControl =>
    simp [readString, noSlash, Nat.not_lt.mpr noControl]
  | short escape =>
    obtain ⟨found, notUnit⟩ := shortEscape?_of_mem escape
    simp [readString, found, notUnit]
  | unit writes =>
    obtain ⟨a, b, c', d, rfl, quad⟩ := writes.exists_quad
    obtain ⟨notLow, notHigh⟩ := not_half_of_char c
    simp [readString, quad, notLow, notHigh]
  | pair beyond first second =>
    obtain ⟨a, b, c', d, rfl, high⟩ := first.exists_quad
    obtain ⟨e, f, g, h, rfl, low⟩ := second.exists_quad
    obtain ⟨notLow, isHigh, isLow, whole⟩ := halves_of_char beyond
    simp [readString, high, low, notLow, isHigh, isLow, whole]

theorem readString_chars {text inner : List Char} (h : SpellsChars text inner) (seen : List Char)
    (rest : Input) :
    readString seen true (inner.map Piece.char ++ .char '"' :: rest) =
      .ok (String.ofList (seen.reverse ++ text), rest) := by
  induction h generalizing seen with
  | nil => simp [readString]
  | cons first _ ih =>
    rw [List.map_append, List.append_assoc, readString_char first, ih]
    simp

/-- **Every spelling of a string is read as that string**, up to its closing quote. -/
theorem readString_spelled {text : String} {spelled : List Char} (h : SpellsString text spelled)
    (rest : Input) :
    ∃ behind, spelled.map Piece.char ++ rest = .char '"' :: behind ∧
      readString [] true behind = .ok (text, rest) := by
  obtain @⟨inner, chars⟩ := h
  refine ⟨inner.map Piece.char ++ .char '"' :: rest, by simp, ?_⟩
  rw [readString_chars chars, List.reverse_nil, List.nil_append, String.ofList_toList]

theorem readText_spelled {text : String} {blanks spelled : List Char} (blank : Blanks blanks)
    (h : SpellsString text spelled) (rest : Input) :
    readText (blanks.map Piece.char ++ (spelled.map Piece.char ++ rest)) = .ok (text, rest) := by
  obtain ⟨behind, same, read⟩ := readString_spelled h rest
  rw [readText, skipBlank_append blank, same]
  exact read

/-! ## Strings as they are written -/

theorem hexDigit?_hexDigitOf {n : Nat} (h : n < 16) : hexDigit? (hexDigitOf n) = some n := by
  have all : ∀ k ∈ List.range 16, hexDigit? (hexDigitOf k) = some k := by decide
  exact all n (List.mem_range.mpr h)

/-- The four digits in which a control is written. -/
theorem writesUnit_control {n : Nat} (h : n < 0x20) :
    WritesUnit n ['0', '0', hexDigitOf (n / 16), hexDigitOf (n % 16)] := by
  have high := hexDigit?_hexDigitOf (show n / 16 < 16 by omega)
  have low := hexDigit?_hexDigitOf (show n % 16 < 16 by omega)
  have zero : hexDigit? '0' = some 0 := by decide
  refine ⟨rfl, ?_, ?_⟩
  · simp [isHexDigit, high, low, zero]
  · simp only [hexNumber, List.foldl_cons, List.foldl_nil, high, low, zero, Option.getD_some]
    omega

theorem spellsChar_stringChar (c : Char) : SpellsChar c (stringChar c) := by
  unfold stringChar
  split_ifs with quote slash line carriage tab back feed control
  · exact .short (by rw [quote]; decide)
  · exact .short (by rw [slash]; decide)
  · exact .short (by rw [line]; decide)
  · exact .short (by rw [carriage]; decide)
  · exact .short (by rw [tab]; decide)
  · exact .short (by rw [back]; decide)
  · exact .short (by rw [feed]; decide)
  · exact .unit (writesUnit_control control)
  · exact .plain quote slash (Nat.not_lt.mp control)

theorem spellsString_writeString (text : String) : SpellsString text (writeString text) := by
  refine .intro ?_
  induction text.toList with
  | nil => exact .nil
  | cons c text ih => exact .cons (spellsChar_stringChar c) ih

/-! ## Numerals -/

/-- Whether a number may go on with a piece. -/
def goesOn (piece : Piece) : Bool :=
  isDigitPiece piece || piece = .char '.' || piece = .char 'e' || piece = .char 'E'

/-- What stands behind a number: it does not go on with it. -/
def EndsNumber (rest : Input) : Prop := rest.head?.any goesOn = false

theorem EndsNumber.endsDigits {rest : Input} (h : EndsNumber rest) :
    rest.head?.any isDigitPiece = false := by
  cases rest with
  | nil => rfl
  | cons piece rest =>
    simp only [EndsNumber, List.head?_cons, Option.any_some, goesOn, Bool.or_eq_false_iff] at h ⊢
    exact h.1.1.1

theorem ne_of_digit {c other : Char} (digit : isDecimal c = true)
    (notDigit : isDecimal other = false) : c ≠ other := by
  rintro rfl
  exact Bool.false_ne_true (notDigit.symm.trans digit)

section

variable {digits : List Char} {rest : Input}

theorem takeDigits_append (all : ∀ c ∈ digits, isDecimal c = true)
    (ends : rest.head?.any isDigitPiece = false) :
    takeDigits (digits.map Piece.char ++ rest) = digits.map decimalValue := by
  have pieces : ∀ piece ∈ digits.map Piece.char, isDigitPiece piece = true :=
    List.forall_mem_map.mpr all
  have none : rest.takeWhile isDigitPiece = [] := by
    cases rest with
    | nil => rfl
    | cons piece rest => exact List.takeWhile_cons_of_neg (by simpa using ends)
  rw [takeDigits, List.takeWhile_append_of_pos pieces, none, List.append_nil, List.map_map]
  rfl

theorem dropDigits_append (all : ∀ c ∈ digits, isDecimal c = true)
    (ends : rest.head?.any isDigitPiece = false) :
    dropDigits (digits.map Piece.char ++ rest) = rest := by
  have pieces : ∀ piece ∈ digits.map Piece.char, isDigitPiece piece = true :=
    List.forall_mem_map.mpr all
  rw [dropDigits, List.dropWhile_append_of_pos pieces]
  cases rest with
  | nil => rfl
  | cons piece rest => exact List.dropWhile_cons_of_neg (by simpa using ends)

end

structure IsDigits (digits : List Char) : Prop where
  ne_nil : digits ≠ []
  all : ∀ c ∈ digits, isDecimal c = true

/-- Digits with no zero in front of others. -/
structure IsWhole (digits : List Char) : Prop extends IsDigits digits where
  alone : digits.head? = some '0' → digits = ['0']

theorem IsDigits.begins {digits : List Char} (h : IsDigits digits) :
    ∃ c more, digits = c :: more ∧ isDecimal c = true := by
  obtain ⟨c, more, rfl⟩ := List.exists_cons_of_ne_nil h.ne_nil
  exact ⟨c, more, rfl, h.all c List.mem_cons_self⟩

theorem IsWhole.values_ne {digits : List Char} (h : IsWhole digits) (d : Nat) (more : List Nat) :
    digits.map decimalValue ≠ 0 :: d :: more := by
  intro begins
  obtain ⟨c, others, rfl, zero, more⟩ := List.map_eq_cons_iff.mp begins
  obtain rfl : '0' = c := by
    rw [← (decimalDigit_decimalValue (h.all c List.mem_cons_self)).2, zero]
    rfl
  obtain rfl : others = [] := (List.cons.inj (h.alone rfl)).2
  cases more

/-- A numeral has no zero in front of other digits, since it is its digits without those. -/
theorem isWhole_decimal (n : Nat) : IsWhole (decimal n) := by
  have all := List.all_eq_true.mp (all_isDecimal_decimal n)
  have same := decimal_decimalNumber all
  rw [decimalNumber_decimal, withoutZeros] at same
  refine ⟨⟨decimal_ne_nil n, all⟩, fun zero => ?_⟩
  split at same
  next => exact same
  next =>
    have head := List.head?_dropWhile_not (· = '0') (decimal n)
    rw [← significant, ← same, zero] at head
    cases head

/-- Digits whose number fits into a word are all kept. -/
theorem appendDigits_of_le {significand : Nat} {digits : List Nat}
    (fits : digits.foldl (fun n d => n * 10 + d) significand ≤ maxWord) :
    appendDigits significand digits = (digits.foldl (fun n d => n * 10 + d) significand, 0) := by
  have grows : ∀ (more : List Nat) (n : Nat), n ≤ more.foldl (fun n d => n * 10 + d) n := by
    intro more
    induction more with
    | nil => exact fun n => Nat.le_refl n
    | cons d more ih => exact fun n => Nat.le_trans (by omega) (ih (n * 10 + d))
  induction digits generalizing significand with
  | nil => rfl
  | cons d more ih =>
    have first : ¬maxWord < significand * 10 + d :=
      Nat.not_lt.mpr (Nat.le_trans (grows more _) fits)
    rw [appendDigits, if_neg first, ih fits, List.foldl_cons]

theorem readFraction_of_ends {rest : Input} (ends : EndsNumber rest) (significand : Nat) :
    readFraction false significand 0 rest = .ok (.unsigned significand, rest) := by
  unfold readFraction
  split
  all_goals first | cases ends | rfl

theorem readDigits_decimal {n : Nat} (fits : n ≤ maxWord) {rest : Input} (ends : EndsNumber rest) :
    readDigits false ((decimal n).map Piece.char ++ rest) = .ok (.unsigned n, rest) := by
  have whole := isWhole_decimal n
  have value : ((decimal n).map decimalValue).foldl (fun n d => n * 10 + d) 0 = n := by
    rw [List.foldl_map]
    exact decimalNumber_decimal n
  unfold readDigits
  rw [takeDigits_append whole.all ends.endsDigits, dropDigits_append whole.all ends.endsDigits]
  split
  next nothing => exact absurd (List.map_eq_nil_iff.mp nothing) whole.ne_nil
  next zero => exact absurd zero (whole.values_ne _ _)
  next =>
    rw [appendDigits_of_le (by rw [value]; exact fits), value]
    exact readFraction_of_ends ends n

/-- **A word is read from its numeral**, in front of all but a digit, a point or an exponent. -/
theorem readWord64_decimal {blanks : List Char} (blank : Blanks blanks) (word : UInt64)
    {rest : Input} (ends : EndsNumber rest) :
    readWord64 (blanks.map Piece.char ++ ((decimal word.toNat).map Piece.char ++ rest)) =
      .ok (word, rest) := by
  have fits : word.toNat ≤ maxWord := Nat.le_of_lt_succ word.toNat_lt
  have read := readDigits_decimal fits ends
  obtain ⟨c, more, same, digit⟩ := (isWhole_decimal word.toNat).begins
  have solid : ¬(c = ' ' ∨ c = '\n' ∨ c = '\t' ∨ c = '\r') := by
    rintro (h | h | h | h) <;> exact ne_of_digit digit rfl h
  have unsigned : c ≠ '-' := ne_of_digit digit rfl
  rw [same, List.map_cons, List.cons_append] at read ⊢
  rw [readWord64, skipBlank_append blank, skipBlank, if_neg solid]
  simp [digit, readNumber, unsigned, read]

end LinkLedger.Json
