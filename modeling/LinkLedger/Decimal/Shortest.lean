/-!
# The shortest decimal that reads back

A floating-point number stands for an interval: all reals that are nearer to it than to any other
number of its format. Among the decimals in that interval this module finds the one with the fewest
digits, and of those the one nearest to the number itself. Everything is done in exact integer
arithmetic on the number's parts.
-/

set_option autoImplicit false

namespace LinkLedger.Decimal

/-- A positive binary number `significand * 2 ^ exponent`, and whether the number below it is only
half as far away as the one above. -/
structure Binary where
  significand : Nat
  exponent : Int
  isLowerCloser : Bool

/-- The bit above the fraction of a double; normal numbers have it in their significand. -/
def leadingBit : Nat := 4503599627370496

/-- The parts of a finite, positive double from its bits. -/
def Binary.ofBits (bits : Nat) : Binary :=
  let fraction : Nat := bits % leadingBit
  let biased : Nat := bits / leadingBit % 2048
  if biased = 0 then ⟨fraction, -1074, false⟩
  else ⟨leadingBit + fraction, (biased : Int) - 1075, fraction = 0 && 1 < biased⟩

/-- The interval of a number, scaled by `unit`: its value and its ends are numerators over the same
denominator, and its ends belong to it if the significand is even. -/
structure Interval where
  low : Nat
  value : Nat
  high : Nat
  denominator : Nat
  isClosed : Bool

/-- Scales a number by `4 * 2 ^ -e` so that half steps below it are whole. -/
def Binary.interval (b : Binary) : Interval :=
  let value := 4 * b.significand
  let low := value - (if b.isLowerCloser then 1 else 2)
  let high := value + 2
  let isClosed := b.significand % 2 = 0
  if 0 ≤ b.exponent then
    let scale := Nat.pow 2 b.exponent.toNat
    ⟨low * scale, value * scale, high * scale, 4, isClosed⟩
  else ⟨low, value, high, 4 * Nat.pow 2 (-b.exponent).toNat, isClosed⟩

/-- Whether `numerator / scale` lies in the interval; both sides are brought to one denominator. -/
def Interval.holds (i : Interval) (numerator scale : Nat) : Bool :=
  let x := numerator * i.denominator
  let low := i.low * scale
  let high := i.high * scale
  if i.isClosed then low ≤ x && x ≤ high else low < x && x < high

/-- A decimal `digits * 10 ^ exponent`. -/
structure Scientific where
  digits : Nat
  exponent : Int
  deriving DecidableEq, Repr

/-- The decimal with steps of `10 ^ exponent` that is nearest to the value and lies in the
interval, if one of the two neighbours of the value does. -/
def Interval.onGrid? (i : Interval) (exponent : Int) : Option Scientific :=
  let up := Nat.pow 10 exponent.toNat
  let down := Nat.pow 10 (-exponent).toNat
  let below := i.value * down / (i.denominator * up)
  let candidates := [below, below + 1].filter fun n => 0 < n && i.holds (n * up) down
  let distance (n : Nat) : Nat :=
    let x := n * up * i.denominator
    let v := i.value * down
    if x ≤ v then v - x else x - v
  match candidates with
  | [] => none
  | [n] => some ⟨n, exponent⟩
  | a :: b :: _ =>
    if distance b < distance a || (distance b = distance a && a % 2 = 1) then some ⟨b, exponent⟩
    else some ⟨a, exponent⟩

/-- Tries finer and finer grids. -/
def Interval.shortest (i : Interval) : Nat → Int → Scientific
  | 0, exponent => ⟨0, exponent⟩
  | steps + 1, exponent =>
    match i.onGrid? exponent with
    | some found => found
    | none => i.shortest steps (exponent - 1)

/-- Drops final zeros. -/
def Scientific.trim (s : Scientific) : Nat → Scientific
  | 0 => s
  | steps + 1 =>
    if 0 < s.digits ∧ s.digits % 10 = 0 then
      Scientific.trim ⟨s.digits / 10, s.exponent + 1⟩ steps
    else s

/-- The shortest decimal of a positive finite double. No double is above `10 ^ 309`, and the grid of
`10 ^ -400` is finer than any interval. -/
def shortest (bits : Nat) : Scientific :=
  ((Binary.ofBits bits).interval.shortest 720 310).trim 20

end LinkLedger.Decimal
