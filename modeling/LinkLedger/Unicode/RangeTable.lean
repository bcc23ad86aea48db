import LinkLedger.Text.Hex

/-!
# Tables over ranges of code points

A property of characters is kept as an array of closed ranges in ascending order, each with the
value that its characters share. The rows are written as text: words apart by blanks, each a
code point or a range of them in hexadecimal, then whatever the property adds after it.

`RangeTable.find?` is a binary search: the ranges that start at or before a character form an
initial segment of the table, and only the last of them can hold it.
-/

set_option autoImplicit false

namespace LinkLedger.Unicode

open LinkLedger.Text

/-! ## Rows of text -/

/-- One word of a table: the range it names, and what is written after the range. -/
structure Row where
  first : Nat
  last : Nat
  rest : List Char

/-- The words of a text, apart by blanks and line ends. -/
def words (text : List Char) : List (List Char) :=
  let step (c : Char) (acc : List (List Char)) : List (List Char) :=
    if c = ' ' ∨ c = '\n' then [] :: acc
    else match acc with
      | [] => [[c]]
      | w :: ws => (c :: w) :: ws
  (text.foldr step [[]]).filter (fun w => !w.isEmpty)

/-- Reads `first` or `first-last`; the rest of the word is left as it is. -/
def Row.ofWord (word : List Char) : Row :=
  let first := word.takeWhile isHexDigit
  match word.dropWhile isHexDigit with
  | '-' :: more =>
    ⟨hexNumber first, hexNumber (more.takeWhile isHexDigit), more.dropWhile isHexDigit⟩
  | rest => ⟨hexNumber first, hexNumber first, rest⟩

/-- The rows of a table's text. -/
def rows (text : String) : List Row := (words text.toList).map Row.ofWord

/-- The numbers of a run such as `2A.300`, in order. -/
def dottedNumbers (text : List Char) : List Nat :=
  ((String.ofList text).splitOn ".").filterMap fun part =>
    if part.isEmpty then none else some (hexNumber part.toList)

/-! ## Tables -/

/-- A closed range of code points and the value its characters share. -/
structure Range (α : Type) where
  first : Nat
  last : Nat
  value : α

/-- Ranges in ascending order, none overlapping another. -/
structure RangeTable (α : Type) where
  ranges : Array (Range α)

/-- How many of the ranges from `lo` up to `hi` start at or before `n`, counted from the front. -/
def startsUpTo {α : Type} (ranges : Array (Range α)) (n lo hi : Nat) : Nat :=
  if _ : lo < hi then
    let mid := (lo + hi) / 2
    match ranges[mid]? with
    | some r => if r.first ≤ n then startsUpTo ranges n (mid + 1) hi else startsUpTo ranges n lo mid
    | none => lo
  else lo
termination_by hi - lo
decreasing_by all_goals omega

/-- The range that holds a character, if the table has one. -/
def RangeTable.find? {α : Type} (t : RangeTable α) (c : Char) : Option (Range α) :=
  match t.ranges[startsUpTo t.ranges c.toNat 0 t.ranges.size - 1]? with
  | some r => if r.first ≤ c.toNat ∧ c.toNat ≤ r.last then some r else none
  | none => none

/-- The value the table gives a character. -/
def RangeTable.get? {α : Type} (t : RangeTable α) (c : Char) : Option α :=
  (t.find? c).map Range.value

/-- Whether some range of the table holds a character. -/
def RangeTable.contains {α : Type} (t : RangeTable α) (c : Char) : Bool := (t.find? c).isSome

/-- A table from its text; `value` reads what each word adds after its range. -/
def RangeTable.ofText {α : Type} (value : List Char → α) (text : String) : RangeTable α :=
  ⟨((rows text).map fun r => ⟨r.first, r.last, value r.rest⟩).toArray⟩

/-- A table that only says which characters belong to it. -/
def RangeTable.ofRanges (text : String) : RangeTable Unit := .ofText (fun _ => ()) text

end LinkLedger.Unicode
