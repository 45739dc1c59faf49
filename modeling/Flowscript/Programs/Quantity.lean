import Flowscript.Binary64.Basic
import Flowscript.Programs.Text.CharClass

/-!
# Quantities

Numbers of arbitrary size and precision, and how they are read.

* `BinaryFormat` is a format: how many bits a magnitude has, and how large and small it can be.
* `Quantity` is a number of some format, or a value that is none.
* `BinaryFormat.nearest` is the number of a format that is nearest to a quotient.
* `Quantity.fixedDigits` and `Quantity.leadingDigits` are decimal digits, those of the nearest
  decimal, the even one of two.
* `BinaryFormat.scan` reads the longest start of a text that is a number: decimal digits or
  hexadecimal ones after `0x`, with or without a point and an exponent, or a name of what is none.
-/

set_option autoImplicit false

namespace Flowscript

/-! ## Numbers of binary formats

Programs calculate with numbers of some format, and it shows in what they print how exact it is. -/

/-- A format of numbers: the bits of a magnitude, and the least and the greatest exponent of two by
which it is multiplied. -/
structure BinaryFormat where
  bits : Nat
  leastExponent : Int
  mostExponent : Int
  deriving DecidableEq, Repr

namespace BinaryFormat

/-- The format of 64 bits. -/
def double : BinaryFormat := ⟨53, -1074, 971⟩

/-- The format of 80 bits. -/
def extended : BinaryFormat := ⟨64, -16445, 16320⟩

end BinaryFormat

/-- A number `± mantissa * 2 ^ exponent`, one past all others, or no number. -/
inductive Quantity where
  | finite (isNegative : Bool) (mantissa : Nat) (exponent : Int)
  | endless (isNegative : Bool)
  | undefined (isNegative : Bool)
  deriving DecidableEq, Repr

namespace Quantity

/-- Zero. -/
def zero : Quantity := .finite false 0 0

instance : Inhabited Quantity := ⟨zero⟩

/-- A finite number of 64 bits. -/
def ofBinary64 (x : Binary64) : Quantity := .finite x.negative x.mantissa x.exponent

/-- The magnitude of a finite number as a numerator and a denominator. -/
def ratio (mantissa : Nat) (exponent : Int) : Nat × Nat :=
  if 0 ≤ exponent then (mantissa * 2 ^ exponent.toNat, 1) else (mantissa, 2 ^ (-exponent).toNat)

/-- A finite number as a quotient of an integer and a natural number. -/
def quotient? : Quantity → Option (Int × Nat)
  | .finite isNegative mantissa exponent =>
    let (num, den) := ratio mantissa exponent
    some (if isNegative then -(num : Int) else num, den)
  | _ => none

/-- Whether a number has a minus. -/
def isNegative : Quantity → Bool
  | .finite s _ _ => s
  | .endless s => s
  | .undefined s => s

/-! ### Digits -/

/-- The digits of a quotient, with the given number of them after the point and at least one before
it. -/
def fixedDigits (num den places : Nat) : List Char :=
  let digits := Nat.toDigits 10 (Binary64.roundDiv (num * 10 ^ places) den)
  List.replicate (places + 1 - digits.length) '0' ++ digits

/-- The digits of a quotient less than one power of ten and not less than the one before, as a
natural number, from the exponent of the first digit. -/
def digitsAt (num den count : Nat) (exponent : Int) : Nat :=
  let shift : Int := (count : Int) - 1 - exponent
  if 0 ≤ shift then Binary64.roundDiv (num * 10 ^ shift.toNat) den
  else Binary64.roundDiv num (den * 10 ^ (-shift).toNat)

/-- The exponent of the first digit of a quotient, from an estimate that is not too large. -/
def firstExponent (num den : Nat) (fuel : Nat) (estimate : Int) : Int :=
  match fuel with
  | 0 => estimate
  | fuel + 1 =>
    let next := estimate + 1
    let reached := if 0 ≤ next then den * 10 ^ next.toNat ≤ num
      else den ≤ num * 10 ^ (-next).toNat
    if reached then firstExponent num den fuel next else estimate

/-- A number of digits of a quotient, from the first one that is not zero on, and the exponent of
that one.  Zero has the exponent zero. -/
def leadingDigits (num den count : Nat) : List Char × Int :=
  if num == 0 then (List.replicate count '0', 0)
  else
    let bits : Int := (num.log2 : Int) - den.log2 - 1
    let estimate : Int := if 0 ≤ bits then bits * 301 / 1000 - 1 else bits * 302 / 1000 - 2
    let exponent := firstExponent num den 1000 estimate
    let digits := Nat.toDigits 10 (digitsAt num den count exponent)
    if count < digits.length then (digits.take count, exponent + 1) else (digits, exponent)

end Quantity

namespace BinaryFormat

/-- The number nearest to `± num / den`, the one of even mantissa where two are equally near, and
whether its magnitude is in the range of the format. -/
def nearest (f : BinaryFormat) (isNegative : Bool) (num den : Nat) : Quantity × Bool :=
  if num == 0 then (.finite isNegative 0 f.leastExponent, true)
  else
    let e : Int := (num.log2 : Int) - den.log2 - (f.bits - 1)
    let (n, d) := Binary64.unscale num den e
    let e := max (if n / d < 2 ^ (f.bits - 1) then e - 1 else e) f.leastExponent
    let (n, d) := Binary64.unscale num den e
    let m := Binary64.roundDiv n d
    let (m, e) := if m == 2 ^ f.bits then (2 ^ (f.bits - 1), e + 1) else (m, e)
    if f.mostExponent < e then (.endless isNegative, false)
    else (.finite isNegative m e, 2 ^ (f.bits - 1) ≤ m || n % d == 0)

/-- The number nearest to an integer. -/
def ofInt (f : BinaryFormat) (n : Int) : Quantity := (f.nearest (n < 0) n.natAbs 1).1

/-- The number nearest to a quotient. -/
def ofQuotient (f : BinaryFormat) (num : Int) (den : Nat) : Quantity :=
  (f.nearest (num < 0) num.natAbs den).1

end BinaryFormat

/-! ## How numbers are written -/

namespace BinaryFormat

/-- The digits of a number with or without a point: how many have been read, how many of them stand
after the point, their value, and what follows them. -/
structure ScannedDigits where
  count : Nat
  places : Nat
  value : Nat
  rest : List Char

/-- Reads digits to a base. -/
def scanDigits (base : Nat) (cs : List Char) : ScannedDigits :=
  let isMember (c : Char) : Bool := Text.wideDigitValue c < base
  let value (cs : List Char) : Nat := cs.foldl (fun n c => n * base + Text.wideDigitValue c) 0
  let whole := cs.takeWhile isMember
  let rest := cs.drop whole.length
  match rest with
  | '.' :: r =>
    let fraction := r.takeWhile isMember
    let digits := whole ++ fraction
    if digits.isEmpty then ⟨0, 0, 0, cs⟩
    else ⟨digits.length, fraction.length, value digits, r.drop fraction.length⟩
  | _ => ⟨whole.length, 0, value whole, rest⟩

/-- Reads an exponent after one of two marks; without one it is zero. -/
def scanExponent (marks : List Char) (cs : List Char) : Int × List Char :=
  match cs with
  | mark :: r =>
    if !marks.contains mark then (0, cs)
    else
      let (isNegative, digits) := match r with
        | '-' :: r => (true, r)
        | '+' :: r => (false, r)
        | _ => (false, r)
      let scanned := digits.takeWhile Char.isDigit
      if scanned.isEmpty then (0, cs)
      else
        let n : Int := (scanDigits 10 (scanned.dropWhile (· == '0'))).value
        (if isNegative then -n else n, digits.drop scanned.length)
  | [] => (0, [])

/-- How far exponents are worked out. -/
def greatestPower : Int := 20000

/-- The number nearest to `± n * base ^ exponent`, where `n` has a number of digits. -/
def scaled (f : BinaryFormat) (isNegative : Bool) (base n digits : Nat) (exponent : Int) :
    Quantity × Bool :=
  if n == 0 then (.finite isNegative 0 f.leastExponent, true)
  else if greatestPower < exponent then (.endless isNegative, false)
  else if exponent + digits < -greatestPower then (.finite isNegative 0 f.leastExponent, false)
  else if 0 ≤ exponent then f.nearest isNegative (n * base ^ exponent.toNat) 1
  else f.nearest isNegative n (base ^ (-exponent).toNat)

/-- Names of what is no finite number, the longer ones first, each with whether it is past all. -/
def endlessNames : List (String × Bool) := [("infinity", true), ("inf", true), ("nan", false)]

/-- Reads a number at the start of a text, and says whether it is in range, and what follows it. -/
def scan (f : BinaryFormat) (cs : List Char) : Option (Quantity × Bool × List Char) :=
  let (isNegative, r) := match cs with
    | '-' :: r => (true, r)
    | '+' :: r => (false, r)
    | _ => (false, cs)
  let decimal : Option (Quantity × Bool × List Char) :=
    let digits := scanDigits 10 r
    if digits.count == 0 then none
    else
      let (exponent, rest) := scanExponent ['e', 'E'] digits.rest
      let (q, isInRange) := f.scaled isNegative 10 digits.value digits.count (exponent - digits.places)
      some (q, isInRange, rest)
  match r with
  | '0' :: x :: more =>
    let digits := scanDigits 16 more
    if (x == 'x' || x == 'X') && digits.count != 0 then
      let (exponent, rest) := scanExponent ['p', 'P'] digits.rest
      let (q, isInRange) := f.scaled isNegative 2 digits.value (4 * digits.count)
        (exponent - 4 * digits.places)
      some (q, isInRange, rest)
    else decimal
  | _ =>
    let isAtStart (name : String) : Bool :=
      String.ofList ((r.take name.length).map Char.toLower) == name
    match endlessNames.find? fun p => isAtStart p.1 with
    | some (name, isEndless) =>
      let value := if isEndless then Quantity.endless isNegative else .undefined isNegative
      some (value, true, r.drop name.length)
    | none => decimal

end BinaryFormat

end Flowscript
