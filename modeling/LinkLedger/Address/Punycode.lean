/-!
# Punycode

The encoding of Unicode labels in letters, digits and hyphens (Bootstring with the parameters for
host names). The ASCII characters of the label come first, then, after a hyphen, one number for
each other character in ascending order: how many places and code points to skip before it is put
in. The numbers are written in base 36 with thresholds that adapt to the numbers before.
-/

set_option autoImplicit false

namespace LinkLedger.Address.Punycode

/-! ## Digits and thresholds -/

/-- The value of a digit: letters from zero, then the figures. -/
def digit? (c : Char) : Option Nat :=
  if 'a' ≤ c ∧ c ≤ 'z' then some (c.toNat - 'a'.toNat)
  else if 'A' ≤ c ∧ c ≤ 'Z' then some (c.toNat - 'A'.toNat)
  else if '0' ≤ c ∧ c ≤ '9' then some (c.toNat - '0'.toNat + 26)
  else none

/-- The digit of a value below 36. -/
def digitOf (n : Nat) : Char :=
  if n < 26 then Char.ofNat ('a'.toNat + n) else Char.ofNat ('0'.toNat + (n - 26))

/-- The least digit that another follows, at distance `k` from the start of its number. -/
def threshold (k bias : Nat) : Nat := min 26 (max 1 (k - bias))

/-- Divides a number by 35 until it is at most 455; the second part counts the steps. -/
def scaleDown (delta steps : Nat) : Nat × Nat :=
  if 455 < delta then scaleDown (delta / 35) (steps + 1) else (delta, steps)
termination_by delta
decreasing_by omega

/-- The bias after a number: large if the numbers are. -/
def adapt (delta length : Nat) (first : Bool) : Nat :=
  let scaled := if first then delta / 700 else delta / 2
  let (rest, steps) := scaleDown (scaled + scaled / length) 0
  36 * steps + 36 * rest / (rest + 38)

/-! ## Decoding -/

/-- Reads one number: its value and what follows it. -/
def readDelta (bias : Nat) : Nat → Nat → Nat → List Char → Option (Nat × List Char)
  | _, _, _, [] => none
  | k, weight, sum, c :: rest =>
    match digit? c with
    | none => none
    | some d =>
      let t := threshold k bias
      if d < t then some (sum + d * weight, rest)
      else readDelta bias (k + 36) (weight * (36 - t)) (sum + d * weight) rest

/-- A label being put together: its text, the code point reached, the place reached, the bias. -/
structure Progress where
  text : List Char
  code : Nat
  place : Nat
  bias : Nat

/-- Puts one character in, `delta` places and code points further on. Fails beyond Unicode. -/
def Progress.insert (p : Progress) (delta : Nat) : Option Progress :=
  let room := p.text.length + 1
  let i := p.place + delta
  let code := p.code + i / room
  let place := i % room
  if code.isValidChar then
    some ⟨p.text.take place ++ Char.ofNat code :: p.text.drop place, code, place + 1,
      adapt delta room (p.place = 0)⟩
  else none

/-- Reads numbers until the text ends; each takes at least one character of it, so as many steps
as there are characters are enough. -/
def readAll : Nat → Progress → List Char → Option (List Char)
  | _, p, [] => some p.text
  | 0, _, _ => none
  | steps + 1, p, text => do
    let (delta, rest) ← readDelta p.bias 36 1 0 text
    readAll steps (← p.insert delta) rest

/-- The label that a text encodes. The last hyphen ends the ASCII characters; a hyphen in front
of everything ends nothing and is no digit either. -/
def decode? (text : List Char) : Option (List Char) :=
  let tail := (text.reverse.takeWhile (· ≠ '-')).reverse
  let head := text.take (text.length - tail.length)
  match head with
  | [] => readAll tail.length ⟨[], 128, 0, 72⟩ tail
  | ['-'] => none
  | _ => readAll tail.length ⟨head.dropLast, 128, 0, 72⟩ tail

/-! ## Encoding -/

/-- Writes one number. -/
def writeDelta (bias k n : Nat) : List Char :=
  let t := threshold k bias
  if n < t then [digitOf n]
  else digitOf (t + (n - t) % (36 - t)) :: writeDelta bias (k + 36) ((n - t) / (36 - t))
termination_by n
decreasing_by
  have _ : 1 ≤ threshold k bias := by simp only [threshold]; omega
  have := Nat.div_le_self (n - threshold k bias) (36 - threshold k bias)
  omega

/-- A label being written: the digits so far, the skipped places since the last character, how
many characters are out, and the bias. -/
structure Writing where
  digits : List Char
  delta : Nat
  done : Nat
  bias : Nat

/-- Passes one character of the label while the characters with code point `code` are written. -/
def Writing.pass (basic code : Nat) (w : Writing) (c : Char) : Writing :=
  if c.toNat < code then { w with delta := w.delta + 1 }
  else if c.toNat = code then
    ⟨w.digits ++ writeDelta w.bias 36 w.delta, 0, w.done + 1,
      adapt w.delta (w.done + 1) (w.done = basic)⟩
  else w

/-- Writes the characters of each code point in turn; `next` is the least one not yet passed. -/
def writeCodes (label : List Char) (basic : Nat) : Nat → Writing → List Nat → Writing
  | _, w, [] => w
  | next, w, code :: codes =>
    let w := { w with delta := w.delta + (code - next) * (w.done + 1) }
    let w := label.foldl (Writing.pass basic code) w
    writeCodes label basic (code + 1) { w with delta := w.delta + 1 } codes

/-- A label in letters, digits and hyphens. -/
def encode (label : List Char) : List Char :=
  let basic := label.filter (fun c => c.toNat < 0x80)
  let codes := ((label.filter (fun c => 0x80 ≤ c.toNat)).map Char.toNat).mergeSort.eraseDups
  basic ++ (if basic.isEmpty then [] else ['-'])
    ++ (writeCodes label basic.length 128 ⟨[], 0, basic.length, 72⟩ codes).digits

end LinkLedger.Address.Punycode
