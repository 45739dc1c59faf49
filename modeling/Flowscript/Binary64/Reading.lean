import Flowscript.Binary64.Basic

/-!
# Numbers as text

Whole texts that are numbers, and numbers at the start of texts.

* `Binary64.read?` reads a number in decimal notation, with or without an exponent, and takes the
  nearest one of the format.
* `Binary64.scan` reads the longest start of a text that is a decimal number.
* `Binary64.truncate` and `Binary64.quotient` take a number as an integer and as a quotient.
-/

set_option autoImplicit false

namespace Flowscript.Binary64

/-! ## Reading numbers -/

/-- The natural number that digits stand for. -/
def digitsValue (digits : List Char) : Nat :=
  digits.foldl (fun n d => n * 10 + (d.toNat - '0'.toNat)) 0

/-- Cuts a sign off a text, and says whether it was a minus. -/
def takeSign (cs : List Char) : Bool × List Char :=
  match cs with
  | '-' :: r => (true, r)
  | '+' :: r => (false, r)
  | _ => (false, cs)

/-- The exponent at the end of a number, which may be left out. -/
def readExponent? (cs : List Char) : Option Int :=
  match cs with
  | [] => some 0
  | e :: r =>
    let (negative, digits) := takeSign r
    if (e == 'e' || e == 'E') && !digits.isEmpty && digits.all Char.isDigit then
      let n : Int := digitsValue digits
      some (if negative then -n else n)
    else none

/-- The number nearest to `± n * 10 ^ exponent`, where `n` has a number of digits.  Exponents far
out of the format's range are not worked out. -/
def scaled? (negative : Bool) (n digits : Nat) (exponent : Int) : Option Binary64 :=
  if n = 0 || exponent + digits < -400 then some (zero negative)
  else if exponent > 400 then none
  else if 0 ≤ exponent then nearest? negative (n * 10 ^ exponent.toNat) 1
  else nearest? negative n (10 ^ (-exponent).toNat)

/-- The names of what is no finite number. -/
def notFinite : List String := ["inf", "infinity", "nan"]

/-- Reads a number.  There is one without a value if it is not finite, or too large. -/
def read? (cs : List Char) : Option (Option Binary64) :=
  let (negative, cs) := takeSign cs
  if notFinite.contains (String.ofList (cs.map Char.toLower)) then some none
  else
    let whole := cs.takeWhile Char.isDigit
    let r := cs.dropWhile Char.isDigit
    let (fraction, r) := match r with
      | '.' :: r => (r.takeWhile Char.isDigit, r.dropWhile Char.isDigit)
      | _ => ([], r)
    let digits := whole ++ fraction
    if digits.isEmpty then none
    else (readExponent? r).map fun exponent =>
      scaled? negative (digitsValue digits) digits.length (exponent - fraction.length)

/-! ## Numbers at the start of texts -/

/-- Reads the longest start of a text that is a decimal number, and gives what follows it.  Numbers
that are too large have no value. -/
def scan (cs : List Char) : Option (Option Binary64 × List Char) :=
  let (negative, r) := takeSign cs
  let whole := r.takeWhile Char.isDigit
  let r := r.dropWhile Char.isDigit
  let (fraction, r) := match r with
    | '.' :: s => (s.takeWhile Char.isDigit, if whole.isEmpty && (s.takeWhile Char.isDigit).isEmpty
        then r else s.dropWhile Char.isDigit)
    | _ => ([], r)
  let digits := whole ++ fraction
  if digits.isEmpty then none
  else
    let (exponent, r) : Int × List Char := match r with
      | e :: s =>
        let (isBelow, s) := takeSign s
        let digits := s.takeWhile Char.isDigit
        if (e == 'e' || e == 'E') && !digits.isEmpty then
          let n : Int := digitsValue digits
          (if isBelow then -n else n, s.dropWhile Char.isDigit)
        else (0, r)
      | [] => (0, r)
    some (scaled? negative (digitsValue digits) digits.length (exponent - fraction.length), r)

/-- The integer next to a number, towards zero. -/
def truncate (x : Binary64) : Int :=
  let (num, den) := x.ratio
  let n : Int := num / den
  if x.negative then -n else n

/-- The number nearest to an integer. -/
def ofInt (n : Int) : Binary64 := (nearest? (n < 0) n.natAbs 1).getD (zero false)

/-- Whether a number is an integer. -/
def isInteger (x : Binary64) : Bool :=
  let (num, den) := x.ratio
  num % den == 0

/-- A number as a quotient of an integer and a natural number. -/
def quotient (x : Binary64) : Int × Nat :=
  let (num, den) := x.ratio
  (if x.negative then -(num : Int) else num, den)

/-- The number nearest to a quotient. -/
def ofQuotient? (num : Int) (den : Nat) : Option Binary64 :=
  nearest? (num < 0) num.natAbs den

end Flowscript.Binary64
