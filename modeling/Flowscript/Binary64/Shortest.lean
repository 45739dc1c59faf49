import Flowscript.Binary64.Basic

/-!
# The shortest decimal digits of a number

A number is written with the fewest digits that read back as it.  Where several texts of that
length do, the nearest to the number is taken, and of two equally near the one whose last digit
is even.

* `Decimal` is a natural number times a power of ten.
* `halfGaps` bounds the reals that round to a number.
* `shortest` gives the digits.
-/

set_option autoImplicit false

namespace Flowscript

/-- The number `digits * 10 ^ exponent`. -/
structure Decimal where
  digits : Nat
  exponent : Int
  deriving DecidableEq, Repr

namespace Decimal

/-- The power of ten of the first digit of `digits`. -/
def leadingExponent (d : Decimal) : Int :=
  d.exponent + ((Nat.toDigits 10 d.digits).length : Int) - 1

/-- Trailing zeros of `digits` moved into the exponent, at most `steps` of them. -/
def trimZeros : Nat → Decimal → Decimal
  | 0, d => d
  | steps + 1, d =>
    if d.digits % 10 = 0 && d.digits != 0 then trimZeros steps ⟨d.digits / 10, d.exponent + 1⟩
    else d

end Decimal

namespace Binary64

/-- Numerators over one denominator of a magnitude and of the two ends of the interval that
rounds to it.  The gap below a mantissa of exactly 53 bits that is a power of two is half the gap
above. -/
structure Interval where
  lower : Nat
  value : Nat
  upper : Nat
  denominator : Nat
  closed : Bool

/-- The reals that round to a magnitude: half a gap to either side, ends included where the
mantissa is even. -/
def halfGaps (x : Binary64) : Interval :=
  let m := x.mantissa
  let narrow := m == 2 ^ 52 && x.exponent != minExponent
  let lower := if narrow then 4 * m - 1 else 4 * m - 2
  let upper := 4 * m + 2
  let closed := m % 2 == 0
  if 0 ≤ x.exponent then
    let s := 2 ^ x.exponent.toNat
    ⟨lower * s, 4 * m * s, upper * s, 4, closed⟩
  else ⟨lower, 4 * m, upper, 4 * 2 ^ (-x.exponent).toNat, closed⟩

/-- Whether `digits * 10 ^ exponent` lies in an interval. -/
def Interval.contains (i : Interval) (d : Decimal) : Bool :=
  let (a, b) :=
    if 0 ≤ d.exponent then (d.digits * 10 ^ d.exponent.toNat * i.denominator, 1)
    else (d.digits * i.denominator, 10 ^ (-d.exponent).toNat)
  if i.closed then i.lower * b ≤ a && a ≤ i.upper * b else i.lower * b < a && a < i.upper * b

/-- The value over `10 ^ exponent` as a numerator and a denominator. -/
def Interval.over (i : Interval) (exponent : Int) : Nat × Nat :=
  if 0 ≤ exponent then (i.value, i.denominator * 10 ^ exponent.toNat)
  else (i.value * 10 ^ (-exponent).toNat, i.denominator)

/-- The decimals on either side of the value on the grid of multiples of `10 ^ exponent` that lie
in the interval, the nearer one first chosen, the even one of two equally near. -/
def Interval.hit? (i : Interval) (exponent : Int) : Option Decimal :=
  let (n, d) := i.over exponent
  let below : Decimal := ⟨n / d, exponent⟩
  let above : Decimal := ⟨n / d + 1, exponent⟩
  match i.contains below && below.digits != 0, i.contains above with
  | false, false => none
  | true, false => some below
  | false, true => some above
  | true, true => some ⟨roundDiv n d, exponent⟩

/-- The greatest `k` up to `bound` with `10 ^ k ≤ num / den`, else nought. -/
def powerBelow (num den : Nat) : Nat → Nat
  | 0 => 0
  | k + 1 => if 10 ^ (k + 1) * den ≤ num then k + 1 else powerBelow num den k

/-- The power of ten of the first digit of a magnitude above zero. -/
def Interval.leadingExponent (i : Interval) : Int :=
  if i.denominator ≤ i.value then powerBelow i.value i.denominator 308
  else
    let k := powerBelow i.denominator i.value 324
    if 10 ^ k * i.value = i.denominator then -k else -k - 1

/-- The first grid with a hit, from the given number of digits on. -/
def Interval.firstHit (i : Interval) (leading : Int) (digits : Nat) : Nat → Decimal
  | 0 => ⟨roundDiv (i.over (leading - 16)).1 (i.over (leading - 16)).2, leading - 16⟩
  | steps + 1 =>
    match i.hit? (leading - digits + 1) with
    | some d => d
    | none => i.firstHit leading (digits + 1) steps

/-- The fewest digits that read back as the magnitude of a number. -/
def shortest (x : Binary64) : Decimal :=
  if x.isZero then ⟨0, 0⟩
  else
    let i := x.halfGaps
    (i.firstHit i.leadingExponent 1 16).trimZeros 17

end Binary64

end Flowscript
