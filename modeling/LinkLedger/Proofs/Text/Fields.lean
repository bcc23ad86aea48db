import Mathlib.Tactic.SplitIfs
import LinkLedger.Proofs.Text.Escapes

/-!
# Form fields, as characters and as bytes

Fields are read in one pass from the front (`Form.parse`). Cut apart first and read one by one, they
are the same (`Form.parse_eq_map`).

The format itself is one of bytes. `Form.parseBytes` reads the bytes of a text as the format says:
one field after the other is cut off at the next `&`, each is cut at its first `=`, and of both
parts the pluses and then the escapes are read before the bytes are taken for text. **That comes to
the same as reading characters (`Form.parseBytes_utf8`)**: the characters that mean something are
single bytes, and these bytes are in no other character (`IsMark`).
-/

set_option autoImplicit false

namespace LinkLedger.Text

/-! ## Cutting at a mark -/

section

variable {α : Type} [DecidableEq α] {mark : α}

/-- What stands in front of the first mark. -/
def before (mark : α) (text : List α) : List α := text.takeWhile (· ≠ mark)

/-- What stands behind the first mark. -/
def behind (mark : α) (text : List α) : List α := (text.dropWhile (· ≠ mark)).drop 1

theorem before_cons (a : α) (rest : List α) :
    before mark (a :: rest) = if a = mark then [] else a :: before mark rest := by
  by_cases h : a = mark <;> simp [before, h]

theorem behind_cons (a : α) (rest : List α) :
    behind mark (a :: rest) = if a = mark then rest else behind mark rest := by
  by_cases h : a = mark <;> simp [behind, h]

/-- Without a mark in front, the cut is further back. -/
theorem before_append {front : List α} (h : mark ∉ front) (back : List α) :
    before mark (front ++ back) = front ++ before mark back := by
  induction front with
  | nil => rfl
  | cons a front ih =>
    obtain ⟨ha, hfront⟩ := not_or.mp (mt List.mem_cons.mpr h)
    rw [List.cons_append, before_cons, if_neg (Ne.symm ha), ih hfront, List.cons_append]

theorem behind_append {front : List α} (h : mark ∉ front) (back : List α) :
    behind mark (front ++ back) = behind mark back := by
  induction front with
  | nil => rfl
  | cons a front ih =>
    obtain ⟨ha, hfront⟩ := not_or.mp (mt List.mem_cons.mpr h)
    rw [List.cons_append, behind_cons, if_neg (Ne.symm ha), ih hfront]

theorem length_behind_lt (a : α) (rest : List α) :
    (behind mark (a :: rest)).length < (a :: rest).length := by
  rw [behind, List.length_drop]
  have shorter : ((a :: rest).dropWhile (· ≠ mark)).length ≤ (a :: rest).length :=
    (List.dropWhile_suffix _).length_le
  have some : 0 < (a :: rest).length := Nat.succ_pos _
  omega

end

/-! ## Bytes of a text -/

def utf8 (text : List Char) : List UInt8 := text.flatMap String.utf8EncodeChar

@[simp] theorem utf8_nil : utf8 [] = [] := rfl

@[simp] theorem utf8_cons (c : Char) (rest : List Char) :
    utf8 (c :: rest) = String.utf8EncodeChar c ++ utf8 rest := rfl

theorem isEmpty_utf8 (text : List Char) : (utf8 text).isEmpty = text.isEmpty := by
  cases text with
  | nil => rfl
  | cons c rest => simp

theorem utf8EncodeChar_of_lt {c : Char} (h : c.toNat < 128) :
    String.utf8EncodeChar c = [UInt8.ofNat c.toNat] :=
  if_pos (Nat.le_of_lt_succ h)

theorem le_of_mem_utf8EncodeChar {c : Char} (h : 128 ≤ c.toNat) {b : UInt8}
    (hb : b ∈ String.utf8EncodeChar c) : 128 ≤ b.toNat := by
  have large : ¬ c.val.toNat ≤ 127 := Nat.not_le_of_lt h
  -- Of the bytes of a longer character each has the highest bit set.
  have all : ∀ b ∈ String.utf8EncodeChar c, 128 ≤ b.toNat := by
    simp only [String.utf8EncodeChar, if_neg large]
    split_ifs
    all_goals
      simp only [List.forall_mem_cons, List.not_mem_nil, false_imp_iff, implies_true, and_true,
        UInt8.toNat_ofNat']
      omega
  exact all b hb

/-- A character that is written as a byte, which is in no other character. -/
structure IsMark (c : Char) (b : UInt8) : Prop where
  bytes : String.utf8EncodeChar c = [b]
  only : ∀ d, b ∈ String.utf8EncodeChar d → d = c

theorem isMark_of_lt {c : Char} (h : c.toNat < 128) : IsMark c (UInt8.ofNat c.toNat) := by
  have number : (UInt8.ofNat c.toNat).toNat = c.toNat := by
    rw [UInt8.toNat_ofNat']
    omega
  refine ⟨utf8EncodeChar_of_lt h, fun d hd => ?_⟩
  by_cases small : d.toNat < 128
  · rw [utf8EncodeChar_of_lt small, List.mem_singleton] at hd
    have same := congrArg UInt8.toNat hd
    rw [number, UInt8.toNat_ofNat'] at same
    refine Char.toNat_inj.mp ?_
    omega
  · have := le_of_mem_utf8EncodeChar (Nat.le_of_not_lt small) hd
    omega

namespace IsMark

variable {c : Char} {b : UInt8}

theorem not_mem (mark : IsMark c b) {d : Char} (h : d ≠ c) : b ∉ String.utf8EncodeChar d :=
  fun hd => h (mark.only d hd)

theorem before_utf8 (mark : IsMark c b) (text : List Char) :
    before b (utf8 text) = utf8 (before c text) := by
  induction text with
  | nil => rfl
  | cons d rest ih =>
    rw [utf8_cons, before_cons]
    by_cases h : d = c
    · rw [h, mark.bytes, List.singleton_append, before_cons, if_pos rfl, if_pos rfl, utf8_nil]
    · rw [before_append (mark.not_mem h), ih, if_neg h, utf8_cons]

theorem behind_utf8 (mark : IsMark c b) (text : List Char) :
    behind b (utf8 text) = utf8 (behind c text) := by
  induction text with
  | nil => rfl
  | cons d rest ih =>
    rw [utf8_cons, behind_cons]
    by_cases h : d = c
    · rw [h, mark.bytes, List.singleton_append, behind_cons, if_pos rfl, if_pos rfl]
    · rw [behind_append (mark.not_mem h), ih, if_neg h]

end IsMark

theorem isMark_ampersand : IsMark '&' 0x26 := isMark_of_lt (by decide)

theorem isMark_equals : IsMark '=' 0x3D := isMark_of_lt (by decide)

theorem isMark_plus : IsMark '+' 0x2B := isMark_of_lt (by decide)

theorem isMark_percent : IsMark '%' 0x25 := isMark_of_lt (by decide)

/-! ## Escaped bytes -/

/-- The value of a byte that writes a hexadecimal digit. -/
def hexValue? (b : UInt8) : Option Nat := hexDigit? (Char.ofNat b.toNat)

/-- The bytes that escaped bytes stand for: `%` and two digits are a byte, and a `%` that two digits
    do not follow is itself. -/
def unescape : List UInt8 → List UInt8
  | [] => []
  | 0x25 :: x :: y :: rest =>
    match hexValue? x, hexValue? y with
    | some m, some n => UInt8.ofNat (16 * m + n) :: unescape rest
    | _, _ => 0x25 :: unescape (x :: y :: rest)
  | b :: rest => b :: unescape rest

theorem unescape_append {front : List UInt8} (h : 0x25 ∉ front) (back : List UInt8) :
    unescape (front ++ back) = front ++ unescape back := by
  induction front with
  | nil => rfl
  | cons b front ih =>
    obtain ⟨hb, hfront⟩ := not_or.mp (mt List.mem_cons.mpr h)
    rw [List.cons_append, unescape, ih hfront, List.cons_append]
    intro x y rest percent
    exact absurd percent.symm hb

theorem unescape_percent {bytes : List UInt8}
    (h : ∀ x y rest, bytes = x :: y :: rest → hexValue? x = none ∨ hexValue? y = none) :
    unescape (0x25 :: bytes) = 0x25 :: unescape bytes := by
  rcases bytes with _ | ⟨x, _ | ⟨y, rest⟩⟩
  · rfl
  · rfl
  · rcases h x y rest rfl with hx | hy
    · simp only [unescape, hx]
    · cases hx : hexValue? x <;> simp only [unescape, hx, hy]

theorem lt_of_hexDigit? {c : Char} {n : Nat} (h : hexDigit? c = some n) : c.toNat < 128 := by
  have upTo {last : Char} (hlast : last.toNat < 128) (hc : c ≤ last) : c.toNat < 128 :=
    Nat.lt_of_le_of_lt (Char.le_def.mp hc) hlast
  unfold hexDigit? at h
  split_ifs at h with digit small capital
  · exact upTo (by decide) digit.2
  · exact upTo (by decide) small.2
  · exact upTo (by decide) capital.2

theorem hexValue?_of_lt {c : Char} (h : c.toNat < 128) :
    hexValue? (UInt8.ofNat c.toNat) = hexDigit? c := by
  rw [hexValue?, UInt8.toNat_ofNat', Nat.mod_eq_of_lt (by omega), Char.ofNat_toNat]

theorem lt_of_hexValue? {b : UInt8} {n : Nat} (h : hexValue? b = some n) : b.toNat < 128 := by
  have number : (Char.ofNat b.toNat).toNat = b.toNat :=
    Form.forall_byte (P := fun b => (Char.ofNat b.toNat).toNat = b.toNat) (by decide +kernel) b
  rw [← number]
  exact lt_of_hexDigit? h

/-- A digit is a digit as a byte. -/
theorem utf8EncodeChar_of_hexDigit? {c : Char} {n : Nat} (h : hexDigit? c = some n) :
    ∃ b, String.utf8EncodeChar c = [b] ∧ hexValue? b = some n :=
  ⟨_, utf8EncodeChar_of_lt (lt_of_hexDigit? h), (hexValue?_of_lt (lt_of_hexDigit? h)).trans h⟩

/-- A byte that is a digit comes from a digit. -/
theorem of_utf8_eq_cons {text : List Char} {b : UInt8} {more : List UInt8} {n : Nat}
    (h : utf8 text = b :: more) (digit : hexValue? b = some n) :
    ∃ c rest, text = c :: rest ∧ hexDigit? c = some n ∧ utf8 rest = more := by
  cases text with
  | nil => cases h
  | cons c rest =>
    rw [utf8_cons] at h
    by_cases small : c.toNat < 128
    · rw [utf8EncodeChar_of_lt small, List.singleton_append, List.cons.injEq] at h
      obtain ⟨rfl, rfl⟩ := h
      exact ⟨c, rest, rfl, (hexValue?_of_lt small).symm.trans digit, rfl⟩
    · obtain ⟨first, others, bytes⟩ :=
        List.exists_cons_of_ne_nil (String.utf8EncodeChar_ne_nil (c := c))
      rw [bytes, List.cons_append, List.cons.injEq] at h
      obtain ⟨rfl, -⟩ := h
      have large := le_of_mem_utf8EncodeChar (Nat.le_of_not_lt small) (bytes ▸ List.mem_cons_self)
      exact absurd (lt_of_hexValue? digit) (Nat.not_lt_of_le large)

/-- A percent sign that two digits do not follow is not followed by bytes of two digits either. -/
theorem unescape_utf8_percent {rest : List Char}
    (h : ∀ c d more m n, rest = c :: d :: more → hexDigit? c = some m → hexDigit? d = some n →
      False) :
    unescape (utf8 ('%' :: rest)) = String.utf8EncodeChar '%' ++ unescape (utf8 rest) := by
  rw [utf8_cons, isMark_percent.bytes]
  refine unescape_percent fun x y more bytes => ?_
  cases hx : hexValue? x with
  | none => exact .inl rfl
  | some m =>
    cases hy : hexValue? y with
    | none => exact .inr rfl
    | some n =>
      obtain ⟨c, behind, rfl, hc, others⟩ := of_utf8_eq_cons bytes hx
      obtain ⟨d, behind, rfl, hd, -⟩ := of_utf8_eq_cons others hy
      exact (h c d behind m n rfl hc hd).elim

/-- **Escapes are read alike** from characters and from bytes. -/
theorem unescape_utf8 (text : List Char) : unescape (utf8 text) = percentDecode text := by
  fun_induction percentDecode text with
  | case1 => rfl
  | case2 c d rest m n hd hc ih =>
    obtain ⟨x, bytes, hx⟩ := utf8EncodeChar_of_hexDigit? hc
    obtain ⟨y, bytes', hy⟩ := utf8EncodeChar_of_hexDigit? hd
    simp only [utf8_cons, isMark_percent.bytes, bytes, bytes', List.singleton_append, unescape, hx,
      hy, ih]
  | case3 c d rest h ih =>
    rw [unescape_utf8_percent, ih]
    intro c' d' more m n same hc hd
    cases same
    exact h m n hc hd
  | case4 c rest h ih =>
    by_cases hc : c = '%'
    · rw [hc, unescape_utf8_percent, ih]
      intro d e more m n same _ _
      exact h d e more hc same
    · rw [utf8_cons, unescape_append (isMark_percent.not_mem hc), ih]

namespace Form

/-! ## Cutting into fields -/

theorem rawFields_of_not_mem {text : List Char} (h : '&' ∉ text) :
    rawFields text = if text.isEmpty then [] else [text] := by
  rw [rawFields, List.splitOn_eq_singleton h]
  cases text <;> rfl

/-- Fields apart by a separator are those in front of it and those behind it. -/
theorem rawFields_append (front back : List Char) :
    rawFields (front ++ '&' :: back) = rawFields front ++ rawFields back := by
  simp only [rawFields, List.splitOn_append_cons_self, List.filter_append]

theorem parse_close {seen : List Char} (h : '&' ∉ seen) (rest : List Field) :
    parse.close seen rest = (rawFields seen.reverse).map .ofText ++ rest := by
  rw [rawFields_of_not_mem (by simpa using h), parse.close, List.isEmpty_reverse]
  split <;> rfl

/-- In the middle of a field, what has been read of it counts. -/
theorem parse_go (text : List Char) : ∀ {seen : List Char}, '&' ∉ seen →
    parse.go seen text = (rawFields (seen.reverse ++ text)).map .ofText := by
  -- A separator starts over with nothing seen, so the hypothesis is for all that may have been.
  induction text with
  | nil =>
    intro seen h
    rw [parse.go, parse_close h, List.append_nil, List.append_nil]
  | cons c rest ih =>
    intro seen h
    rw [parse.go]
    by_cases hc : c = '&'
    · rw [if_pos hc, parse_close h, ih List.not_mem_nil, hc, rawFields_append, List.map_append]
      rfl
    · have hseen : '&' ∉ c :: seen := by simp [h, Ne.symm hc]
      rw [if_neg hc, ih hseen, List.reverse_cons, List.append_assoc]
      rfl

/-- **Fields are read in one pass as they are one by one.** -/
theorem parse_eq_map (text : List Char) : parse text = (rawFields text).map .ofText :=
  parse_go text List.not_mem_nil

/-- What has no separator in it is one field. -/
theorem parse_of_not_mem {text : List Char} (h : '&' ∉ text) (hne : text ≠ []) :
    parse text = [.ofText text] := by
  rw [parse_eq_map, rawFields_of_not_mem h, if_neg (by simpa using hne)]
  rfl

/-! ## Fields of bytes -/

/-- The text that the bytes of an escaped key or value stand for. -/
def decodeBytes (bytes : List UInt8) : String :=
  lossy (unescape (bytes.map fun b => if b = 0x2B then 0x20 else b)).toByteArray

/-- Reads one field: the key ends at the first `=`. -/
def Field.ofBytes (bytes : List UInt8) : Field :=
  ⟨decodeBytes (before 0x3D bytes), decodeBytes (behind 0x3D bytes)⟩

/-- Reads all fields of some bytes: one after the other is cut off at the next `&`. -/
def parseBytes : List UInt8 → List Field
  | [] => []
  | b :: rest =>
    let field := before 0x26 (b :: rest)
    let more := parseBytes (behind 0x26 (b :: rest))
    if field.isEmpty then more else .ofBytes field :: more
termination_by bytes => bytes.length
decreasing_by exact length_behind_lt b rest

theorem map_utf8 (text : List Char) :
    (utf8 text).map (fun b => if b = 0x2B then 0x20 else b) = utf8 (text.map spaceOfPlus) := by
  induction text with
  | nil => rfl
  | cons c rest ih =>
    rw [utf8_cons, List.map_append, ih, List.map_cons, utf8_cons, spaceOfPlus]
    by_cases hc : c = '+'
    · rw [hc]
      rfl
    · rw [if_neg hc]
      refine congrArg (· ++ _) ((List.map_congr_left fun b hb => if_neg ?_).trans (List.map_id _))
      rintro rfl
      exact isMark_plus.not_mem hc hb

theorem decodeBytes_utf8 (text : List Char) : decodeBytes (utf8 text) = decode text := by
  rw [decodeBytes, map_utf8, unescape_utf8]
  rfl

theorem ofBytes_utf8 (text : List Char) : Field.ofBytes (utf8 text) = .ofText text := by
  rw [Field.ofBytes, isMark_equals.before_utf8, isMark_equals.behind_utf8, decodeBytes_utf8,
    decodeBytes_utf8]
  rfl

theorem parseBytes_cut (bytes : List UInt8) :
    parseBytes bytes =
      (if (before 0x26 bytes).isEmpty then [] else [.ofBytes (before 0x26 bytes)]) ++
        parseBytes (behind 0x26 bytes) := by
  cases bytes with
  | nil => simp [before, behind, parseBytes]
  | cons b rest =>
    rw [parseBytes]
    split <;> rfl

theorem rawFields_cut (text : List Char) :
    rawFields text =
      (if (before '&' text).isEmpty then [] else [before '&' text]) ++
        rawFields (behind '&' text) := by
  by_cases h : '&' ∈ text
  · obtain ⟨front, back, rfl, hfront⟩ := List.eq_append_cons_of_mem h
    rw [before_append hfront, behind_append hfront, before_cons, behind_cons, if_pos rfl,
      if_pos rfl, List.append_nil, rawFields_append, rawFields_of_not_mem hfront]
  · have whole : before '&' text = text := by simpa [before] using before_append h []
    have nothing : behind '&' text = [] := by simpa [behind] using behind_append h []
    rw [whole, nothing, rawFields_of_not_mem h]
    exact (List.append_nil _).symm

/-- **The bytes of a text have the fields of the text.** -/
theorem parseBytes_utf8 (text : List Char) : parseBytes (utf8 text) = parse text := by
  -- Both go on behind the first separator, so it is the length that the induction is on.
  induction hlength : text.length using Nat.strongRecOn generalizing text with
  | ind length ih =>
    subst hlength
    cases text with
    | nil =>
      rw [utf8_nil, parseBytes]
      rfl
    | cons c rest =>
      rw [parseBytes_cut, isMark_ampersand.before_utf8, isMark_ampersand.behind_utf8,
        ih _ (length_behind_lt c rest) _ rfl, parse_eq_map (c :: rest), rawFields_cut,
        List.map_append, ← parse_eq_map, isEmpty_utf8, ofBytes_utf8]
      split <;> rfl

end Form

end LinkLedger.Text
