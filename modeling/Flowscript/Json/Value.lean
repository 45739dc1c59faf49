import Flowscript.Binary64.Shortest
import Flowscript.Text.Basic

/-!
# JSON values

Numbers are kept as they are spelled and values as they are written, and records are taken out of
them.

* `Numeral` is the spelling.
* `Numeral.natural?` is the value of a numeral that is a natural number of 64 bits.
* `Numeral.binary64?` is the value of any numeral, unless it is too large.
* `Numeral.ofBinary64` writes the shortest digits.
* `Value` is a JSON value as it is written: numbers keep their spelling, objects keep the order of
  their members and repeated names.
* `Value.record?` finds the fields of a record.
* `required?`, `optional?` and `withDefault?` take one field out.
* `Value.string?`, `Value.natural?` and their like are the values that a field may ask for.
-/

set_option autoImplicit false

namespace Flowscript.Json

/-! ## Numbers in JSON

A number is kept as it is spelled, because a whole number may be written neither with a fraction
nor with an exponent, and because reading a fractional number takes its digits from the left. -/

/-- A number as it is spelled: digits before the point, digits after it if there is one, and the
exponent with its sign if there is one. -/
structure Numeral where
  negative : Bool
  whole : List Char
  fraction : List Char
  exponent : Option (Bool × List Char)
  deriving DecidableEq, Repr

namespace Numeral

/-- The sign at the start of a numeral, which only a negative one has. -/
def takeSign : List Char → Bool × List Char
  | '-' :: cs => (true, cs)
  | cs => (false, cs)

/-- The point and the digits after it, if there is a point. -/
def takePoint? : List Char → Option (List Char × List Char)
  | '.' :: cs =>
    let digits := cs.takeWhile Char.isDigit
    if digits.isEmpty then none else some (digits, cs.dropWhile Char.isDigit)
  | cs => some ([], cs)

/-- The sign of an exponent, which may be left out. -/
def takePowerSign : List Char → Bool × List Char
  | '-' :: cs => (true, cs)
  | '+' :: cs => (false, cs)
  | cs => (false, cs)

/-- The exponent, if there is one. -/
def takePower? : List Char → Option (Option (Bool × List Char) × List Char)
  | [] => some (none, [])
  | c :: cs =>
    if c == 'e' || c == 'E' then
      let (below, cs) := takePowerSign cs
      let digits := cs.takeWhile Char.isDigit
      if digits.isEmpty then none else some (some (below, digits), cs.dropWhile Char.isDigit)
    else some (none, c :: cs)

/-- Reads a numeral: no leading zero, and at least one digit in each part. -/
def read? (cs : List Char) : Option (Numeral × List Char) :=
  let (negative, cs) := takeSign cs
  let whole := cs.takeWhile Char.isDigit
  if whole.isEmpty || (whole.head? == some '0' && 1 < whole.length) then none
  else do
    let (fraction, cs) ← takePoint? (cs.dropWhile Char.isDigit)
    let (exponent, cs) ← takePower? cs
    some (⟨negative, whole, fraction, exponent⟩, cs)

/-- The numeral as text; an exponent always has its sign. -/
def spelling (n : Numeral) : String :=
  (if n.negative then "-" else "") ++ String.ofList n.whole
    ++ (if n.fraction.isEmpty then "" else "." ++ String.ofList n.fraction)
    ++ (match n.exponent with
      | none => ""
      | some (below, digits) => (if below then "e-" else "e+") ++ String.ofList digits)

/-- The numeral of a natural number. -/
def ofNat (n : Nat) : Numeral := ⟨false, Nat.toDigits 10 n, [], none⟩

/-- Whether the numeral has neither fraction nor exponent. -/
def isWhole (n : Numeral) : Bool := n.fraction.isEmpty && n.exponent.isNone

/-- The value of a numeral without sign, fraction and exponent that 64 bits can hold. -/
def natural? (n : Numeral) : Option Nat :=
  if n.isWhole && !n.negative then (Text.readDigits 0 n.whole).toOption else none

/-! ### Reading fractional numbers -/

/-- The leading digits of a number as a natural number of 64 bits, and the power of ten that
scales it. -/
structure Significand where
  value : Nat
  scale : Int

/-- Takes the digits before the point: as many as fit, and each one after those only scales. -/
def takeWhole (s : Significand) : List Char → Significand
  | [] => s
  | c :: cs =>
    let value := 10 * s.value + Text.digitValue c
    if value < Text.word64Limit then takeWhole { s with value } cs
    else { s with scale := s.scale + (cs.length + 1) }

/-- Takes the digits after the point: as many as fit, and those after them do not count. -/
def takeFraction (s : Significand) : List Char → Significand
  | [] => s
  | c :: cs =>
    let value := 10 * s.value + Text.digitValue c
    if value < Text.word64Limit then takeFraction ⟨value, s.scale - 1⟩ cs else s

/-- The largest power of ten of the format. -/
def greatestPower : Nat := 308

/-- The number of the format nearest to a power of ten. -/
def powerOfTen? (k : Nat) : Option Binary64 := Binary64.nearest? false (10 ^ k) 1

/-- A magnitude divided by a power of ten, in steps that the format has powers for. -/
def scaleDown? (x : Binary64) (k : Nat) : Option Binary64 :=
  if k ≤ greatestPower then do Binary64.div? x (← powerOfTen? k)
  else if x.isZero then some x
  else do scaleDown? (← Binary64.div? x (← powerOfTen? greatestPower)) (k - greatestPower)
termination_by k
decreasing_by simp_all [greatestPower]; omega

/-- The magnitude `value * 10 ^ scale`: the value is rounded, then its product with or quotient by
the power of ten.  There is none when it is too large. -/
def Significand.magnitude? (s : Significand) : Option Binary64 := do
  let x ← Binary64.nearest? false s.value 1
  if s.scale < 0 then scaleDown? x (-s.scale).toNat
  else if s.scale.toNat ≤ greatestPower then Binary64.mul? x (← powerOfTen? s.scale.toNat)
  else if x.isZero then some x
  else none

/-- The greatest number that 31 bits can hold; exponents beyond it are not read. -/
def exponentLimit : Nat := 2 ^ 31 - 1

/-- The value of the digits of an exponent, where it is not beyond the limit. -/
def exponentValue? (digits : List Char) : Option Nat :=
  let value := digits.foldl (fun n c => 10 * n + Text.digitValue c) 0
  if value ≤ exponentLimit then some value else none

/-- The value of a numeral, unless it is too large for the format. -/
def binary64? (n : Numeral) : Option Binary64 :=
  let s := takeFraction (takeWhole ⟨0, 0⟩ n.whole) n.fraction
  let magnitude := match n.exponent with
    | none => s.magnitude?
    | some (below, digits) =>
      match exponentValue? digits with
      | some e => (Significand.mk s.value (if below then s.scale - e else s.scale + e)).magnitude?
      | none => if s.value != 0 && !below then none else some (Binary64.zero false)
  magnitude.map (·.withSign n.negative)

/-! ### Writing fractional numbers -/

/-- The least and the greatest power of ten of a first digit that is written without exponent. -/
def plainRange : Int × Int := (-5, 15)

/-- The shortest digits of a number: with a point and at least one digit after it where the first
digit stands within `plainRange`, else with one digit before the point and an exponent. -/
def ofBinary64 (x : Binary64) : Numeral :=
  let d := x.shortest
  let digits := Nat.toDigits 10 d.digits
  let lead := d.leadingExponent
  if plainRange.1 ≤ lead && lead ≤ plainRange.2 then
    if 0 ≤ d.exponent then
      ⟨x.negative, digits ++ List.replicate d.exponent.toNat '0', ['0'], none⟩
    else if 0 ≤ lead then
      ⟨x.negative, digits.take (lead.toNat + 1), digits.drop (lead.toNat + 1), none⟩
    else ⟨x.negative, ['0'], List.replicate (-lead - 1).toNat '0' ++ digits, none⟩
  else
    ⟨x.negative, digits.take 1, digits.drop 1,
      some (decide (lead < 0), Nat.toDigits 10 lead.natAbs)⟩

end Numeral

/-! ## JSON values

A text can be written with an escape that names half of a surrogate pair.  Such a text stands for
no sequence of characters, which matters only to those who ask for its content. -/

/-- A JSON value.  The content of an ill-formed text or name is `none`. -/
inductive Value where
  | null
  | bool (value : Bool)
  | number (value : Numeral)
  | text (content : Option String)
  | array (items : List Value)
  | object (members : List (Option String × Value))

namespace Value

/-- The value of a well-formed text. -/
def ofString (s : String) : Value := .text (some s)

/-- The value of a natural number. -/
def ofNat (n : Nat) : Value := .number (.ofNat n)

/-- The value of a fractional number. -/
def ofBinary64 (x : Binary64) : Value := .number (.ofBinary64 x)

/-- An object with well-formed names. -/
def ofMembers (members : List (String × Value)) : Value :=
  .object (members.map fun m => (some m.1, m.2))

end Value

/-! ## Taking records out of JSON

A record is written as an object or as an array of its fields in the order of their declaration.
Members of an object that name no field are passed over, and no field may be given twice; an array
may stop early, which leaves the rest of the fields out, but may not go on past the last one. -/

namespace Value

/-- The content of a well-formed text. -/
def string? : Value → Option String
  | .text content => content
  | _ => none

/-- A truth value. -/
def bool? : Value → Option Bool
  | .bool b => some b
  | _ => none

/-- A natural number of 64 bits, written as one. -/
def natural? : Value → Option Nat
  | .number n => n.natural?
  | _ => none

/-- A natural number up to a bound. -/
def naturalUpTo? (bound : Nat) (v : Value) : Option Nat := do
  let n ← v.natural?
  if n ≤ bound then some n else none

/-- A fractional number, however it is written. -/
def binary64? : Value → Option Binary64
  | .number n => n.binary64?
  | _ => none

/-- An array of which every item can be taken. -/
def list? {α : Type} (item? : Value → Option α) : Value → Option (List α)
  | .array items => items.mapM item?
  | _ => none

/-- A value that may be `null`. -/
def nullable? {α : Type} (item? : Value → Option α) : Value → Option (Option α)
  | .null => some none
  | v => (item? v).map some

/-- The members of an object, all with well-formed names. -/
def members? : Value → Option (List (String × Value))
  | .object members => members.mapM fun m => m.1.map (·, m.2)
  | _ => none

end Value

/-- The fields of a record that were given. -/
abbrev Fields := List (String × Value)

/-- The fields of a record with the given names, as far as they are given. -/
def Value.record? (names : List String) : Value → Option Fields
  | .array items => if items.length ≤ names.length then some (names.zip items) else none
  | v => do
    let known := (← v.members?).filter fun m => names.contains m.1
    if (known.map Prod.fst).Nodup then some known else none

namespace Fields

/-- A field that has to be given. -/
def required? {α : Type} (fields : Fields) (name : String) (item? : Value → Option α) :
    Option α := do
  item? (← fields.lookup name)

/-- A field that has a value where it is not given. -/
def withDefault? {α : Type} (fields : Fields) (name : String) (default : α)
    (item? : Value → Option α) : Option α :=
  match fields.lookup name with
  | none => some default
  | some v => item? v

end Fields

end Flowscript.Json
