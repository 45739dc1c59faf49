import Flowscript.Programs.Quantity
import Flowscript.Text.Octets

/-!
# Directives of formats

A directive says how a value is written: how wide, with how many digits, with which sign.

* `Directive.scan` reads the flags of a directive.
* `Directive.text`, `Directive.signed`, `Directive.unsigned` and `Directive.real` write values.
-/

set_option autoImplicit false

namespace Flowscript.Text

/-- How a value is written. -/
structure Directive where
  isLeft : Bool
  hasZeros : Bool
  hasPlus : Bool
  hasSpace : Bool
  isAlternate : Bool
  width : Nat
  precision : Option Nat

namespace Directive

/-- A directive without anything special. -/
def plain : Directive := ⟨false, false, false, false, false, 0, none⟩

/-- Whether a character is a flag of a directive. -/
def isFlag (c : Char) : Bool := c == '#' || c == '-' || c == '+' || c == ' ' || c == '0'

/-- A directive with flags. -/
def ofFlags (flags : Octets) : Directive :=
  ⟨flags.contains '-', flags.contains '0', flags.contains '+', flags.contains ' ',
    flags.contains '#', 0, none⟩

/-- A directive with a width; a negative one means that the value stands to the left. -/
def withWidth (d : Directive) (width : Int) : Directive :=
  { d with width := width.natAbs, isLeft := d.isLeft || width < 0 }

/-- Fills a value up to the width: with zeros after what stands before the digits, or with blanks. -/
def fill (d : Directive) (zeros : Bool) (lead body : Octets) : Octets :=
  let gap := d.width - (lead.length + body.length)
  if d.isLeft then lead ++ body ++ List.replicate gap ' '
  else if zeros then lead ++ List.replicate gap '0' ++ body
  else List.replicate gap ' ' ++ lead ++ body

/-- Writes a text, of which the precision says how much. -/
def text (d : Directive) (o : Octets) : Octets :=
  d.fill false [] (match d.precision with
    | some n => o.take n
    | none => o)

/-- What stands before the digits of a number. -/
def sign (d : Directive) (isNegative : Bool) : Octets :=
  if isNegative then ['-'] else if d.hasPlus then ['+'] else if d.hasSpace then [' '] else []

/-- Digits, at least as many as the precision says. -/
def atLeast (d : Directive) (digits : Octets) : Octets :=
  match d.precision with
  | some 0 => if digits == ['0'] then [] else digits
  | some n => List.replicate (n - digits.length) '0' ++ digits
  | none => digits

/-- Writes an integer. -/
def signed (d : Directive) (n : Int) : Octets :=
  d.fill (d.hasZeros && d.precision.isNone) (d.sign (n < 0))
    (d.atLeast (Nat.toDigits 10 n.natAbs))

/-- Writes a natural number as a conversion says. -/
def unsigned (d : Directive) (conversion : Char) (n : Nat) : Octets :=
  let base := match conversion with
    | 'o' => 8
    | 'x' => 16
    | 'X' => 16
    | _ => 10
  let digits := d.atLeast (Nat.toDigits base n)
  let digits := if conversion == 'X' then digits.map Char.toUpper else digits
  let digits :=
    if d.isAlternate && conversion == 'o' && digits.head? != some '0' then '0' :: digits else digits
  let lead := if d.isAlternate && base == 16 && n != 0 then ['0', conversion] else []
  d.fill (d.hasZeros && d.precision.isNone) lead digits

/-- The digits of a number with a point before the last ones. -/
def pointed (d : Directive) (digits : Octets) (places : Nat) : Octets :=
  let whole := digits.take (digits.length - places)
  let fraction := digits.drop (digits.length - places)
  if fraction.isEmpty && !d.isAlternate then whole else whole ++ '.' :: fraction

/-- An exponent of at least two digits. -/
def exponentText (mark : Char) (exponent : Int) (least : Nat) : Octets :=
  let digits := Nat.toDigits 10 exponent.natAbs
  mark :: (if exponent < 0 then '-' else '+')
    :: List.replicate (least - digits.length) '0' ++ digits

/-- Digits and a point before the last ones, without zeros at the end. -/
def withoutZeros (o : Octets) : Octets :=
  if o.contains '.' then
    ((o.reverse.dropWhile (· == '0')).dropWhile (· == '.')).reverse
  else o

/-- The digits of a magnitude in the shorter of two notations. -/
def general (d : Directive) (mark : Char) (num den : Nat) : Octets :=
  let precision := max 1 (d.precision.getD 6)
  let (digits, exponent) := Quantity.leadingDigits num den precision
  let trim (o : Octets) : Octets := if d.isAlternate then o else withoutZeros o
  if exponent < -4 || (precision : Int) ≤ exponent then
    trim (d.pointed digits (precision - 1)) ++ exponentText mark exponent 2
  else
    let places := ((precision : Int) - 1 - exponent).toNat
    trim (d.pointed (Quantity.fixedDigits num den places) places)

/-- The digits of a magnitude to the base sixteen.  Before the point stand as many bits as the
format has beyond a multiple of four, or four. -/
def hexadecimal (d : Directive) (f : BinaryFormat) (mantissa : Nat) (exponent : Int) : Octets :=
  let places := (f.bits - 1) / 4
  let kept := (d.precision.getD places).min places
  let scale := 2 ^ (4 * (places - kept))
  let m := Binary64.roundDiv mantissa scale
  let lead := m / 2 ^ (4 * kept)
  let power : Int := if mantissa == 0 then 0 else exponent + 4 * places
  let (lead, power) := if lead == 16 then (1, power + 4) else (lead, power)
  let digits := (Nat.toDigits 16 (2 ^ (4 * kept) + m % 2 ^ (4 * kept))).drop 1
  let fraction := match d.precision with
    | some n => digits ++ List.replicate (n - kept) '0'
    | none => (digits.reverse.dropWhile (· == '0')).reverse
  let point := if fraction.isEmpty && !d.isAlternate then [] else '.' :: fraction
  Nat.toDigits 16 lead ++ point ++ exponentText 'p' power 1

/-- Writes a number of a format as a conversion says. -/
def real (d : Directive) (f : BinaryFormat) (conversion : Char) (q : Quantity) : Octets :=
  let mark := if conversion.isUpper then 'E' else 'e'
  let cased (o : Octets) : Octets := if conversion.isUpper then o.map Char.toUpper else o
  let sign := d.sign q.isNegative
  match q with
  | .endless _ => d.fill false sign (cased ['i', 'n', 'f'])
  | .undefined _ => d.fill false sign (cased ['n', 'a', 'n'])
  | .finite _ mantissa exponent =>
    let (num, den) := Quantity.ratio mantissa exponent
    match conversion.toLower with
    | 'f' =>
      let places := d.precision.getD 6
      d.fill d.hasZeros sign (d.pointed (Quantity.fixedDigits num den places) places)
    | 'e' =>
      let places := d.precision.getD 6
      let (digits, power) := Quantity.leadingDigits num den (places + 1)
      d.fill d.hasZeros sign (d.pointed digits places ++ exponentText mark power 2)
    | 'a' =>
      d.fill d.hasZeros (sign ++ cased ['0', 'x']) (cased (d.hexadecimal f mantissa exponent))
    | _ => d.fill d.hasZeros sign (d.general mark num den)

end Directive

end Flowscript.Text
