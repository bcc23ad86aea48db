import LinkLedger.Proofs.Json.Spelling

/-!
# Values that are skipped

The grammar of JSON values (`IsValue`), and that a value of it can be skipped whatever it is: a
word, a number, a string whose escapes need not make characters, or lists and objects to any depth.

Skipping keeps the open brackets in a list and goes on step by step, so the induction is over the
two kinds of text that a value is made of, values and what stands between two brackets (`Part`), and
counts the steps that each takes. There are never more than two for a character.

**`skipValue_of_isValue`: every value is skipped, and all that follows it is left over.**
-/

set_option autoImplicit false

namespace LinkLedger.Json

open LinkLedger.Text

/-! ## Strings -/

/-- What may stand between quotes. An escape by number may name any unit, also half of a pair. -/
inductive IsInner : List Char → Prop
  | nil : IsInner []
  | plain {c : Char} {more : List Char} (noQuote : c ≠ '"') (noSlash : c ≠ '\\')
    (noControl : 0x20 ≤ c.toNat) (rest : IsInner more) : IsInner (c :: more)
  | short {letter c : Char} {more : List Char} (escape : (letter, c) ∈ shortEscapes)
    (rest : IsInner more) : IsInner ('\\' :: letter :: more)
  | unit {n : Nat} {digits more : List Char} (writes : WritesUnit n digits) (rest : IsInner more) :
    IsInner ('\\' :: 'u' :: digits ++ more)

inductive IsString : List Char → Prop
  | intro {inner : List Char} (h : IsInner inner) : IsString ('"' :: inner ++ ['"'])

theorem skipString_inner {inner : List Char} (h : IsInner inner) (rest : Input) :
    skipString (inner.map Piece.char ++ .char '"' :: rest) = .ok rest := by
  induction h with
  | nil => rfl
  | plain noQuote noSlash noControl _ ih =>
    simpa [skipString, noSlash, Nat.not_lt.mpr noControl] using ih
  | short escape _ ih =>
    obtain ⟨found, notUnit⟩ := shortEscape?_of_mem escape
    simpa [skipString, found, notUnit] using ih
  | unit writes _ ih =>
    obtain ⟨a, b, c, d, rfl, quad⟩ := writes.exists_quad
    simpa [skipString, quad] using ih

/-! ## Numbers -/

inductive IsFraction : List Char → Prop
  | none : IsFraction []
  | some {digits : List Char} (h : IsDigits digits) : IsFraction ('.' :: digits)

inductive IsExponent : List Char → Prop
  | none : IsExponent []
  | some {letter : Char} {sign digits : List Char} (isLetter : letter = 'e' ∨ letter = 'E')
    (isSign : sign = [] ∨ sign = ['+'] ∨ sign = ['-']) (h : IsDigits digits) :
    IsExponent (letter :: sign ++ digits)

inductive IsNumber : List Char → Prop
  | intro {sign whole fraction exponent : List Char} (isSign : sign = [] ∨ sign = ['-'])
    (isWhole : IsWhole whole) (isFraction : IsFraction fraction)
    (isExponent : IsExponent exponent) : IsNumber (sign ++ (whole ++ (fraction ++ exponent)))

section

variable {digits : List Char} {rest : Input}

theorem IsDigits.takeDigits_ne_nil (h : IsDigits digits)
    (ends : rest.head?.any isDigitPiece = false) :
    takeDigits (digits.map Piece.char ++ rest) ≠ [] := by
  rw [takeDigits_append h.all ends]
  exact mt List.map_eq_nil_iff.mp h.ne_nil

theorem skipExponent_append {sign : List Char} (isSign : sign = [] ∨ sign = ['+'] ∨ sign = ['-'])
    (h : IsDigits digits) (ends : EndsNumber rest) :
    skipExponent (sign.map Piece.char ++ (digits.map Piece.char ++ rest)) = .ok rest := by
  have taken : (if (takeDigits (digits.map Piece.char ++ rest)).isEmpty then .error .badNumber
      else .ok (dropDigits (digits.map Piece.char ++ rest)) : Except Problem Input) = .ok rest := by
    rw [if_neg (mt List.isEmpty_iff.mp (h.takeDigits_ne_nil ends.endsDigits)),
      dropDigits_append h.all ends.endsDigits]
  rcases isSign with rfl | rfl | rfl
  · -- Without a sign there is a digit, which is not taken for one.
    obtain ⟨c, more, rfl, digit⟩ := h.begins
    rw [List.map_nil, List.nil_append]
    unfold skipExponent
    split
    next _ same => exact absurd (Piece.char.inj (List.cons.inj same).1) (ne_of_digit digit rfl)
    next _ same => exact absurd (Piece.char.inj (List.cons.inj same).1) (ne_of_digit digit rfl)
    next => exact taken
  · exact taken
  · exact taken

theorem IsExponent.endsDigits {exponent : List Char} (h : IsExponent exponent)
    (ends : EndsNumber rest) :
    (exponent.map Piece.char ++ rest).head?.any isDigitPiece = false := by
  cases h with
  | none => exact ends.endsDigits
  | some isLetter => rcases isLetter with rfl | rfl <;> rfl

theorem IsFraction.endsDigits {fraction exponent : List Char} (h : IsFraction fraction)
    (isExponent : IsExponent exponent) (ends : EndsNumber rest) :
    (fraction.map Piece.char ++ (exponent.map Piece.char ++ rest)).head?.any isDigitPiece =
      false := by
  cases h with
  | none => exact isExponent.endsDigits ends
  | some => rfl

theorem IsExponent.skipped {exponent : List Char} (h : IsExponent exponent)
    (ends : EndsNumber rest) :
    (match exponent.map Piece.char ++ rest with
      | .char 'e' :: rest | .char 'E' :: rest => skipExponent rest
      | rest => .ok rest) = .ok rest := by
  cases h with
  | none =>
    rw [List.map_nil, List.nil_append]
    split
    · cases ends
    · cases ends
    · rfl
  | some isLetter isSign h =>
    have skipped := skipExponent_append isSign h ends
    rw [← List.append_assoc, ← List.map_append] at skipped
    rcases isLetter with rfl | rfl <;> exact skipped

theorem skipNumber_append {whole fraction exponent : List Char} (isWhole : IsWhole whole)
    (isFraction : IsFraction fraction) (isExponent : IsExponent exponent)
    (ends : EndsNumber rest) :
    skipNumber (whole.map Piece.char ++ (fraction.map Piece.char ++
      (exponent.map Piece.char ++ rest))) = .ok rest := by
  have endsWhole := isFraction.endsDigits isExponent ends
  unfold skipNumber
  rw [takeDigits_append isWhole.all endsWhole, dropDigits_append isWhole.all endsWhole]
  split
  next nothing => exact absurd (List.map_eq_nil_iff.mp nothing) isWhole.ne_nil
  next zero => exact absurd zero (isWhole.values_ne _ _)
  next =>
    cases isFraction with
    | none =>
      have skipped := isExponent.skipped ends
      rw [List.map_nil, List.nil_append]
      cases isExponent with
      | none =>
        rw [List.map_nil, List.nil_append]
        clear endsWhole skipped
        split
        · cases ends
        · cases ends
        · cases ends
        · rfl
      | some isLetter => rcases isLetter with rfl | rfl <;> exact skipped
    | some digits =>
      have endsFraction := isExponent.endsDigits ends
      simp only [List.map_cons, List.cons_append]
      rw [if_neg (mt List.isEmpty_iff.mp (digits.takeDigits_ne_nil endsFraction)),
        dropDigits_append digits.all endsFraction]
      exact isExponent.skipped ends

end

/-! ## Values without brackets -/

/-- The words, numbers and strings. -/
inductive IsPlain : List Char → Prop
  | wordNull : IsPlain ['n', 'u', 'l', 'l']
  | wordTrue : IsPlain ['t', 'r', 'u', 'e']
  | wordFalse : IsPlain ['f', 'a', 'l', 's', 'e']
  | number {text : List Char} (h : IsNumber text) : IsPlain text
  | string {text : List Char} (h : IsString text) : IsPlain text

theorem skipPlain_digit {c : Char} (digit : isDecimal c = true) (rest : Input) :
    skipPlain (.char c :: rest) = skipNumber (.char c :: rest) := by
  rw [skipPlain, if_pos digit]
  all_goals exact ne_of_digit digit rfl

theorem skipPlain_append {text : List Char} (h : IsPlain text) {rest : Input}
    (ends : EndsNumber rest) : skipPlain (text.map Piece.char ++ rest) = .ok rest := by
  cases h with
  | wordNull => rfl
  | wordTrue => rfl
  | wordFalse => rfl
  | string h =>
    obtain ⟨inner⟩ := h
    rw [List.map_append, List.append_assoc]
    exact skipString_inner inner rest
  | number h =>
    obtain ⟨isSign, isWhole, isFraction, isExponent⟩ := h
    have skipped := skipNumber_append isWhole isFraction isExponent ends
    simp only [List.map_append, List.append_assoc]
    rcases isSign with rfl | rfl
    · obtain ⟨c, more, rfl, digit⟩ := isWhole.begins
      exact (skipPlain_digit digit _).trans skipped
    · exact skipped

/-! ## Values -/

def Bracket.opening : Bracket → Char
  | .list => '['
  | .object => '{'

def Bracket.closing : Bracket → Char
  | .list => ']'
  | .object => '}'

/-- What stands in front of a value in a list or an object. -/
inductive IsKey : Bracket → List Char → Prop
  | list : IsKey .list []
  | object {before key after : List Char} (blank : Blanks before) (isString : IsString key)
    (blank' : Blanks after) : IsKey .object (before ++ (key ++ (after ++ [':'])))

/-- The texts that values are made of: values, and what stands between two brackets if anything
    does. -/
inductive Part where
  | value
  | items (bracket : Bracket)

inductive IsPart : Part → List Char → Prop
  | plain {text : List Char} (h : IsPlain text) : IsPart .value text
  | empty (bracket : Bracket) {blanks : List Char} (blank : Blanks blanks) :
    IsPart .value (bracket.opening :: blanks ++ [bracket.closing])
  | full {bracket : Bracket} {items : List Char} (h : IsPart (.items bracket) items) :
    IsPart .value (bracket.opening :: items ++ [bracket.closing])
  | last {bracket : Bracket} {key before value after : List Char} (isKey : IsKey bracket key)
    (blank : Blanks before) (isValue : IsPart .value value) (blank' : Blanks after) :
    IsPart (.items bracket) (key ++ (before ++ (value ++ after)))
  | more {bracket : Bracket} {key before value after items : List Char}
    (isKey : IsKey bracket key) (blank : Blanks before) (isValue : IsPart .value value)
    (blank' : Blanks after) (rest : IsPart (.items bracket) items) :
    IsPart (.items bracket) (key ++ (before ++ (value ++ (after ++ ',' :: items))))

abbrev IsValue (text : List Char) : Prop := IsPart .value text

/-! ## Beginnings -/

def opensValue (c : Char) : Bool := isDecimal c || c ∈ ['n', 't', 'f', '-', '"', '[', '{']

theorem not_opensValue_of_blank {c : Char} (blank : c = ' ' ∨ c = '\n' ∨ c = '\t' ∨ c = '\r') :
    opensValue c = false := by
  rcases blank with rfl | rfl | rfl | rfl <;> rfl

/-- In front of a value there is nothing to skip. -/
theorem skipBlank_of_opensValue {c : Char} (opens : opensValue c = true) (rest : Input) :
    skipBlank (.char c :: rest) = .char c :: rest := by
  rw [skipBlank, if_neg fun blank => ?_]
  exact Bool.false_ne_true ((not_opensValue_of_blank blank).symm.trans opens)

theorem IsPlain.begins {text : List Char} (h : IsPlain text) :
    ∃ c more, text = c :: more ∧ opensValue c = true ∧ c ≠ '[' ∧ c ≠ '{' := by
  cases h with
  | wordNull => exact ⟨'n', _, rfl, by decide⟩
  | wordTrue => exact ⟨'t', _, rfl, by decide⟩
  | wordFalse => exact ⟨'f', _, rfl, by decide⟩
  | string h =>
    obtain ⟨inner⟩ := h
    exact ⟨'"', _, rfl, by decide⟩
  | number h =>
    obtain ⟨isSign, isWhole, -, -⟩ := h
    rcases isSign with rfl | rfl
    · obtain ⟨c, more, rfl, digit⟩ := isWhole.begins
      exact ⟨c, _, rfl, by rw [opensValue, digit]; rfl, ne_of_digit digit rfl,
        ne_of_digit digit rfl⟩
    · exact ⟨'-', _, rfl, by decide⟩

theorem IsPart.begins {text : List Char} (h : IsValue text) :
    ∃ c more, text = c :: more ∧ opensValue c = true := by
  cases h with
  | plain h =>
    obtain ⟨c, more, same, opens, -⟩ := h.begins
    exact ⟨c, more, same, opens⟩
  | empty bracket => exact ⟨_, _, rfl, by cases bracket <;> rfl⟩
  | @full bracket => exact ⟨_, _, rfl, by cases bracket <;> rfl⟩

theorem IsPart.length_pos {text : List Char} (h : IsValue text) : 0 < text.length := by
  obtain ⟨c, more, rfl, -⟩ := h.begins
  exact Nat.zero_lt_succ _

/-! ## Steps -/

/-- Goes on inside a bracket in front of an item. -/
def enter (steps : Nat) (outer : List Bracket) (bracket : Bracket) (input : Input) :
    Except Problem Input := do
  let input ← if bracket = .object then skipKey input else pure input
  skipSteps steps (bracket :: outer) .value input

section

variable {brackets outer : List Bracket} {bracket : Bracket} {blanks : List Char}

theorem skipSteps_skipBlank (steps : Nat) (brackets : List Bracket) (input : Input) :
    skipSteps steps brackets .value (skipBlank input) = skipSteps steps brackets .value input := by
  cases steps with
  | zero => rfl
  | succ steps => simp only [skipSteps, skipBlank_skipBlank]

theorem skipSteps_blank (blank : Blanks blanks) (steps : Nat) (brackets : List Bracket)
    (rest : Input) :
    skipSteps steps brackets .value (blanks.map Piece.char ++ rest) =
      skipSteps steps brackets .value rest := by
  rw [← skipSteps_skipBlank, skipBlank_append blank, skipSteps_skipBlank]

theorem skipSteps_plain {text : List Char} (h : IsPlain text) (steps : Nat) {rest : Input}
    (ends : EndsNumber rest) :
    skipSteps (steps + 1) brackets .value (text.map Piece.char ++ rest) =
      skipSteps steps brackets .afterValue rest := by
  have skipped := skipPlain_append h ends
  obtain ⟨c, more, rfl, opens, noList, noObject⟩ := h.begins
  rw [List.map_cons, List.cons_append] at skipped ⊢
  rw [skipSteps, skipBlank_of_opensValue opens]
  simp [noList, noObject, skipped, bind, Except.bind]

theorem skipSteps_opening (steps : Nat) (bracket : Bracket) (rest : Input) :
    skipSteps (steps + 1) brackets .value (.char bracket.opening :: rest) =
      skipSteps steps (bracket :: brackets) .afterOpening rest := by
  cases bracket <;> simp [skipSteps, skipBlank, Bracket.opening]

theorem skipSteps_closing (blank : Blanks blanks) {state : SkipState} (inside : state ≠ .value)
    (steps : Nat) (rest : Input) :
    skipSteps (steps + 1) (bracket :: outer) state
        (blanks.map Piece.char ++ .char bracket.closing :: rest) =
      skipSteps steps outer .afterValue rest := by
  cases state with
  | value => exact absurd rfl inside
  | afterValue =>
    cases bracket <;>
      simp [skipSteps, skipBlank_append blank, skipBlank, Bracket.closing, Bracket.isClosedBy]
  | afterOpening =>
    cases bracket <;>
      simp [skipSteps, skipBlank_append blank, skipBlank, Bracket.closing, Bracket.isClosedBy]

theorem skipSteps_comma (blank : Blanks blanks) (steps : Nat) (rest : Input) :
    skipSteps (steps + 1) (bracket :: outer) .afterValue
        (blanks.map Piece.char ++ .char ',' :: rest) =
      enter steps outer bracket rest := by
  have notClosed : bracket.isClosedBy ',' = false := by cases bracket <;> rfl
  simp [skipSteps, skipBlank_append blank, skipBlank, notClosed, enter]

theorem enter_skipBlank (steps : Nat) (outer : List Bracket) (bracket : Bracket) (input : Input) :
    enter steps outer bracket (skipBlank input) = enter steps outer bracket input := by
  cases bracket with
  | list => exact skipSteps_skipBlank steps _ input
  | object => simp only [enter, skipKey, skipBlank_skipBlank, if_true]

theorem skipSteps_items {input rest : Input} {c : Char} (begins : skipBlank input = .char c :: rest)
    (notClosed : bracket.isClosedBy c = false) (steps : Nat) :
    skipSteps (steps + 1) (bracket :: outer) .afterOpening input =
      enter steps outer bracket input := by
  rw [← enter_skipBlank, begins]
  simp [skipSteps, begins, notClosed, enter]

theorem enter_key {key : List Char} (h : IsKey bracket key) (steps : Nat) (rest : Input) :
    enter steps outer bracket (key.map Piece.char ++ rest) =
      skipSteps steps (bracket :: outer) .value rest := by
  cases h with
  | list => rfl
  | object blank isString blank' =>
    obtain ⟨inner⟩ := isString
    have skipped := fun rest => skipString_inner inner rest
    simp [enter, skipKey, skipBlank_append blank, skipBlank_append blank', skipBlank, skipped, bind,
      Except.bind, pure, Except.pure]

end

/-! ## Whole values -/

theorem EndsNumber.blank {blanks : List Char} (blank : Blanks blanks) {rest : Input}
    (ends : EndsNumber rest) : EndsNumber (blanks.map Piece.char ++ rest) := by
  cases blanks with
  | nil => exact ends
  | cons c blanks => rcases blank c List.mem_cons_self with rfl | rfl | rfl | rfl <;> rfl

theorem endsNumber_closing (bracket : Bracket) (rest : Input) :
    EndsNumber (.char bracket.closing :: rest) := by
  cases bracket <;> rfl

theorem endsNumber_comma (rest : Input) : EndsNumber (.char ',' :: rest) := rfl

theorem not_isClosedBy_of_opensValue {c : Char} (opens : opensValue c = true) (bracket : Bracket) :
    bracket.isClosedBy c = false := by
  cases bracket with
  | list =>
    refine beq_eq_false_iff_ne.mpr ?_
    rintro rfl
    cases opens
  | object =>
    refine beq_eq_false_iff_ne.mpr ?_
    rintro rfl
    cases opens

/-- Behind blanks, what stands between two brackets does not begin with the end of them. -/
theorem IsPart.items_begin {bracket : Bracket} {items : List Char}
    (h : IsPart (.items bracket) items) (behind : Input) :
    ∃ c rest, skipBlank (items.map Piece.char ++ behind) = .char c :: rest ∧
      bracket.isClosedBy c = false := by
  have first : ∀ {key before value : List Char} (behind : Input), IsKey bracket key →
      Blanks before → IsValue value → ∃ c rest, skipBlank (key.map Piece.char ++
        (before.map Piece.char ++ (value.map Piece.char ++ behind))) = .char c :: rest ∧
        bracket.isClosedBy c = false := by
    intro key before value behind isKey blank isValue
    cases isKey with
    | list =>
      obtain ⟨c, more, rfl, opens⟩ := isValue.begins
      refine ⟨c, more.map Piece.char ++ behind, ?_, not_isClosedBy_of_opensValue opens _⟩
      rw [List.map_nil, List.nil_append, skipBlank_append blank, List.map_cons, List.cons_append,
        skipBlank_of_opensValue opens]
    | object blank' isString =>
      obtain ⟨inner⟩ := isString
      simp [skipBlank_append blank', skipBlank, Bracket.isClosedBy]
  cases h with
  | last isKey blank isValue =>
    simp only [List.map_append, List.append_assoc]
    exact first _ isKey blank isValue
  | more isKey blank isValue =>
    simp only [List.map_append, List.append_assoc]
    exact first _ isKey blank isValue

/-- What a part of a value does to the text in front of which it stands. Steps are counted, so that
    they can be told to be enough. -/
def Part.Passes (part : Part) (text : List Char) (steps : Nat) : Prop :=
  match part with
  | value => ∀ (more : Nat) (brackets : List Bracket) (rest : Input), EndsNumber rest →
    skipSteps (steps + more) brackets .value (text.map Piece.char ++ rest) =
      skipSteps more brackets .afterValue rest
  | items bracket => ∀ (more : Nat) (outer : List Bracket) (rest : Input),
    enter (steps + more) outer bracket (text.map Piece.char ++ .char bracket.closing :: rest) =
      skipSteps more outer .afterValue rest

/-- The most steps that a part takes: for a value, one less than two for each character. -/
def Part.most (text : List Char) : Part → Nat
  | value => 2 * text.length - 1
  | items _ => 2 * text.length

theorem IsPart.passes {part : Part} {text : List Char} (h : IsPart part text) :
    ∃ steps ≤ part.most text, part.Passes text steps := by
  induction h with
  | plain h =>
    have some := IsPart.length_pos (.plain h)
    refine ⟨1, by simp only [Part.most]; omega, fun more brackets rest ends => ?_⟩
    rw [Nat.add_comm]
    exact skipSteps_plain h more ends
  | empty bracket blank =>
    refine ⟨2, ?_, fun more brackets rest _ => ?_⟩
    · simp only [Part.most, List.length_append, List.length_cons, List.length_nil]
      omega
    · rw [show 2 + more = more + 1 + 1 by omega]
      simp only [List.map_append, List.map_cons, List.map_nil, List.cons_append, List.append_assoc,
        List.nil_append]
      rw [skipSteps_opening, skipSteps_closing blank (by decide)]
  | full h ih =>
    obtain ⟨steps, most, passes⟩ := ih
    refine ⟨steps + 2, ?_, fun more brackets rest _ => ?_⟩
    · simp only [Part.most, List.length_append, List.length_cons, List.length_nil] at most ⊢
      omega
    · rw [show steps + 2 + more = steps + more + 1 + 1 by omega]
      simp only [List.map_append, List.map_cons, List.map_nil, List.cons_append, List.append_assoc,
        List.nil_append]
      obtain ⟨c, behind, begins, notClosed⟩ := h.items_begin _
      rw [skipSteps_opening, skipSteps_items begins notClosed, passes]
  | last isKey blank isValue blank' ih =>
    obtain ⟨steps, most, passes⟩ := ih
    have some := isValue.length_pos
    refine ⟨steps + 1, ?_, fun more outer rest => ?_⟩
    · simp only [Part.most, List.length_append] at most ⊢
      omega
    · rw [show steps + 1 + more = steps + (more + 1) by omega]
      simp only [List.map_append, List.append_assoc]
      rw [enter_key isKey, skipSteps_blank blank,
        passes _ _ _ (.blank blank' (endsNumber_closing _ _)), skipSteps_closing blank' (by decide)]
  | more isKey blank isValue blank' rest ih ih' =>
    obtain ⟨steps, most, passes⟩ := ih
    obtain ⟨steps', most', passes'⟩ := ih'
    refine ⟨steps + 1 + steps', ?_, fun more outer rest => ?_⟩
    · simp only [Part.most, List.length_append, List.length_cons] at most most' ⊢
      omega
    · rw [show steps + 1 + steps' + more = steps + (steps' + more + 1) by omega]
      simp only [List.map_append, List.map_cons, List.append_assoc, List.cons_append]
      rw [enter_key isKey, skipSteps_blank blank,
        passes _ _ _ (.blank blank' (endsNumber_comma _)), skipSteps_comma blank', passes']

/-- **Every value is skipped**, and all that follows it is left over. -/
theorem skipValue_of_isValue {before text : List Char} (blank : Blanks before) (h : IsValue text)
    {rest : Input} (ends : EndsNumber rest) :
    skipValue (skipBlank (before.map Piece.char ++ (text.map Piece.char ++ rest))) = .ok rest := by
  obtain ⟨steps, most, passes⟩ := h.passes
  have enough : ∃ more, 2 * (text.map Piece.char ++ rest).length + 2 = steps + (more + 1) := by
    refine ⟨2 * (text.map Piece.char ++ rest).length + 1 - steps, ?_⟩
    simp only [Part.most, List.length_append, List.length_map] at most ⊢
    omega
  have solid : skipBlank (text.map Piece.char ++ rest) = text.map Piece.char ++ rest := by
    obtain ⟨c, more, rfl, opens⟩ := h.begins
    exact skipBlank_of_opensValue opens _
  obtain ⟨more, enough⟩ := enough
  rw [skipBlank_append blank, solid, skipValue, enough, passes _ _ _ ends, skipSteps]

end LinkLedger.Json
