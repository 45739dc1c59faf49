import Flowscript.Instances

/-!
# Binary floating-point numbers of 64 bits

Positions on the canvas, shares of progress and lengths of time are finite numbers of the format
binary64 of IEEE 754.  They are kept here as what they mean, a sign and a natural number times a
power of two, so that every operation is exact arithmetic followed by one rounding.

* `Binary64` is a sign, a mantissa and an exponent.
* `roundDiv` is the nearest natural number to a quotient, the even one of two.
* `nearest?` is the nearest number of the format to a quotient, if it has one.
* `add?`, `mul?` and `div?` are the operations on magnitudes, each rounded once.
* `bits` is the encoding in 64 bits.
-/

set_option autoImplicit false

namespace Flowscript

/-- A finite number `± mantissa * 2 ^ exponent` of the format.  Either the mantissa has 53 bits,
or it has fewer and the exponent is `Binary64.minExponent`. -/
structure Binary64 where
  negative : Bool
  mantissa : Nat
  exponent : Int
  deriving DecidableEq, Repr

namespace Binary64

/-- The exponent of the numbers next to zero. -/
def minExponent : Int := -1074

/-- The exponent of the largest numbers. -/
def maxExponent : Int := 971

/-- Zero, which has a sign. -/
def zero (negative : Bool) : Binary64 := ⟨negative, 0, minExponent⟩

instance : Inhabited Binary64 := ⟨zero false⟩

/-- The natural number nearest to `num / den`, the even one where two are equally near. -/
def roundDiv (num den : Nat) : Nat :=
  let q := num / den
  let r := num % den
  if 2 * r < den || (2 * r == den && q % 2 == 0) then q else q + 1

/-- The quotient `num / (den * 2 ^ e)` as a numerator and a denominator. -/
def unscale (num den : Nat) (e : Int) : Nat × Nat :=
  if 0 ≤ e then (num, den * 2 ^ e.toNat) else (num * 2 ^ (-e).toNat, den)

/-- The exponent at which `num / den`, above zero, has 53 bits before the point, or the least
exponent of the format where that is lower. -/
def exponentFor (num den : Nat) : Int :=
  let e : Int := (num.log2 : Int) - den.log2 - 52
  let (n, d) := unscale num den e
  max (if n / d < 2 ^ 52 then e - 1 else e) minExponent

/-- The number of the format nearest to `± num / den`, the one of even mantissa where two are
equally near.  There is none past the largest numbers. -/
def nearest? (negative : Bool) (num den : Nat) : Option Binary64 :=
  if num = 0 then some (zero negative)
  else
    let e := exponentFor num den
    let (n, d) := unscale num den e
    let m := roundDiv n d
    let (m, e) := if m = 2 ^ 53 then (2 ^ 52, e + 1) else (m, e)
    if e ≤ maxExponent then some ⟨negative, m, e⟩ else none

/-- The magnitude as a numerator and a denominator. -/
def ratio (x : Binary64) : Nat × Nat :=
  if 0 ≤ x.exponent then (x.mantissa * 2 ^ x.exponent.toNat, 1)
  else (x.mantissa, 2 ^ (-x.exponent).toNat)

/-- The same magnitude with the given sign. -/
def withSign (negative : Bool) (x : Binary64) : Binary64 := { x with negative }

/-- Whether the number is a zero of either sign. -/
def isZero (x : Binary64) : Bool := x.mantissa == 0

/-- The sum of two magnitudes. -/
def add? (x y : Binary64) : Option Binary64 :=
  let (a, b) := x.ratio
  let (c, d) := y.ratio
  nearest? false (a * d + c * b) (b * d)

/-- The product of two magnitudes. -/
def mul? (x y : Binary64) : Option Binary64 :=
  let (a, b) := x.ratio
  let (c, d) := y.ratio
  nearest? false (a * c) (b * d)

/-- The quotient of two magnitudes, the second not zero. -/
def div? (x y : Binary64) : Option Binary64 :=
  let (a, b) := x.ratio
  let (c, d) := y.ratio
  nearest? false (a * d) (b * c)

/-- The encoding: the sign, eleven bits of exponent, and the mantissa less its leading bit. -/
def bits (x : Binary64) : Nat :=
  let sign := if x.negative then 2 ^ 63 else 0
  if x.mantissa < 2 ^ 52 then sign + x.mantissa
  else sign + (x.exponent - minExponent + 1).toNat * 2 ^ 52 + (x.mantissa - 2 ^ 52)

end Binary64

end Flowscript
