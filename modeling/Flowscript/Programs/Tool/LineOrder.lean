import Flowscript.Programs.Quantity
import Flowscript.Text.Octets
import Flowscript.Programs.Tool.Basic

/-!
# Orders of lines

The order of versions, and the orders that lines are sorted by.

* `Text.compareVersions` compares names with numbers in them: by what stands between numbers, and by the
  values of the numbers.
* `Text.compareFileVersions` compares names of files so; endings count only if the rest is the same.
* `Tool.SortStyle` says how parts of lines are compared, and `Tool.SortStyle.compare` compares them.
* `Tool.SortKey` is a part of a line, and `Tool.SortOrder.compare` compares lines by some keys.
-/

set_option autoImplicit false

namespace Flowscript

/-! ## The order of versions -/

namespace Text

/-- The weight of the character that a text starts with. -/
def versionWeight (o : Octets) : Int :=
  match o with
  | [] => -1
  | c :: _ =>
    if c.isDigit then 0
    else if c.isAlpha then c.toNat
    else if c == '~' then -2
    else c.toNat + 256

/-- Compares names with numbers in them. -/
def compareVersions (fuel : Nat) (a b : Octets) : Ordering :=
  match fuel with
  | 0 => .eq
  | fuel + 1 =>
    let startsWord (o : Octets) : Bool := o.head?.any fun c => !c.isDigit
    if a.isEmpty && b.isEmpty then .eq
    else if startsWord a || startsWord b then
      (compare (versionWeight a) (versionWeight b)).then
        (compareVersions fuel (a.drop 1) (b.drop 1))
    else
      let value (o : Octets) : Nat := (Octets.natural? (o.takeWhile Char.isDigit)).getD 0
      (compare (value a) (value b)).then
        (compareVersions fuel (a.dropWhile Char.isDigit) (b.dropWhile Char.isDigit))

/-- What is left after endings, each of which is a dot, a letter, and letters and digits. -/
def withoutEndings (fuel : Nat) (o : Octets) : Octets :=
  match fuel with
  | 0 => o
  | fuel + 1 =>
    match o with
    | '.' :: c :: r =>
      if c.isAlpha || c == '~' then
        withoutEndings fuel (r.dropWhile fun d => d.isAlphanum || d == '~')
      else o
    | _ => o

/-- The length of a name without the endings that end it; something always stands before them. -/
def stemLength (fuel place : Nat) (o : Octets) : Nat :=
  match fuel, o with
  | 0, _ => place
  | _, [] => place
  | fuel + 1, _ :: r =>
    let rest := withoutEndings r.length r
    if rest.isEmpty then place + 1
    else stemLength fuel (place + 1 + r.length - rest.length) rest

/-- Compares names of files: one dot, two dots and hidden files come first. -/
def compareFileVersions (a b : Octets) : Ordering :=
  let rank (o : Octets) : Nat :=
    match o with
    | [] => 0
    | ['.'] => 1
    | ['.', '.'] => 2
    | '.' :: _ => 3
    | _ => 4
  let order := compare (rank a) (rank b)
  if order != .eq || rank a < 3 then order
  else
    let fuel := a.length + b.length + 1
    (compareVersions fuel (a.take (stemLength a.length 0 a))
      (b.take (stemLength b.length 0 b))).then (compareVersions fuel a b)

end Text

/-! ## The order of lines -/

namespace Tool

/-! ### Numbers and names -/

/-- What a part of a line is read as. -/
inductive SortKind where
  | number
  | general
  | human
  | month
  | random
  | version
  deriving DecidableEq, Repr

/-- How a key compares. -/
structure SortStyle where
  kinds : List SortKind
  isReversed : Bool
  skipsStartBlanks : Bool
  skipsEndBlanks : Bool
  foldsCase : Bool
  isDictionary : Bool
  isPrintable : Bool
  deriving DecidableEq, Repr

/-- Plain comparison of bytes. -/
def SortStyle.plain : SortStyle := ⟨[], false, false, false, false, false, false⟩

/-- Compares bytes one after the other. -/
def compareOctets : Octets → Octets → Ordering
  | [], [] => .eq
  | [], _ :: _ => .lt
  | _ :: _, [] => .gt
  | a :: r, b :: s => (compare a.toNat b.toNat).then (compareOctets r s)

/-- A decimal number at the start of a text, as a quotient with a power of ten. -/
def leadingNumber (o : Octets) : Int × Nat × Octets :=
  let o := o.dropWhile fun c => c == ' ' || c == '\t'
  let (isNegative, o) := match o with
    | '-' :: r => (true, r)
    | _ => (false, o)
  let whole := o.takeWhile Char.isDigit
  let rest := o.drop whole.length
  let (fraction, rest) := match rest with
    | '.' :: r => (r.takeWhile Char.isDigit, r.dropWhile Char.isDigit)
    | _ => ([], rest)
  let n : Int := ((Octets.natural? (whole ++ fraction)).getD 0 : Nat)
  (if isNegative then -n else n, fraction.length, rest)

/-- Compares the numbers at the start of texts. -/
def compareNumbers (a b : Octets) : Ordering :=
  let (m, p, _) := leadingNumber a
  let (n, q, _) := leadingNumber b
  compare (m * (10 ^ q : Nat)) (n * (10 ^ p : Nat))

/-- The rank of the unit after a number. -/
def unitRank (o : Octets) : Int :=
  match o with
  | c :: _ =>
    ("KMGTPEZY".toList.idxOf? (if c == 'k' then 'K' else c)).elim 0 fun i => (i : Int) + 1
  | [] => 0

/-- Compares numbers with units: first by the units. -/
def compareHuman (a b : Octets) : Ordering :=
  let rank (o : Octets) : Int :=
    let (n, _, rest) := leadingNumber o
    if n < 0 then -unitRank rest else if n == 0 then 0 else unitRank rest
  (compare (rank a) (rank b)).then (compareNumbers a b)

/-- Where a number that a text starts with comes among others that are not both quotients: first
what is none, then what is undefined, then what is before all others, quotients, and what is past
all others. -/
def quantityRank : Option Quantity → Nat
  | none => 0
  | some (.undefined _) => 1
  | some (.endless true) => 2
  | some (.finite ..) => 3
  | some (.endless false) => 4

/-- Compares numbers with exponents. -/
def compareGeneral (a b : Octets) : Ordering :=
  let read (o : Octets) : Option Quantity :=
    (BinaryFormat.extended.scan (o.dropWhile Text.isSpace)).map (·.1)
  match (read a).bind (·.quotient?), (read b).bind (·.quotient?) with
  | some (m, p), some (n, q) => compare (m * (q : Int)) (n * (p : Int))
  | _, _ => compare (quantityRank (read a)) (quantityRank (read b))

/-- The number of the month that a text starts with. -/
def monthOf (o : Octets) : Nat :=
  let name := ((o.dropWhile Text.isSpace).take 3).map Char.toUpper
  let months := ["JAN", "FEB", "MAR", "APR", "MAY", "JUN", "JUL", "AUG", "SEP", "OCT", "NOV",
    "DEC"]
  (months.idxOf? (String.ofList name)).elim 0 (· + 1)

/-- Compares texts as a kind says. -/
def SortKind.compare (kind : SortKind) (a b : Octets) : Ordering :=
  match kind with
  | .number => compareNumbers a b
  | .general => compareGeneral a b
  | .human => compareHuman a b
  | .month => Ord.compare (monthOf a) (monthOf b)
  | .random => compareOctets a b
  | .version => Text.compareFileVersions a b

/-- A text with what a style leaves out, and in capitals if it does not tell them apart. -/
def SortStyle.clean (style : SortStyle) (o : Octets) : Octets :=
  let o := if style.isDictionary then
      o.filter fun c => c.isAlphanum || c == ' ' || c == '\t'
    else if style.isPrintable then o.filter fun c => 32 ≤ c.toNat && c.toNat < 127
    else o
  if style.foldsCase then o.map Char.toUpper else o

/-- Compares as a style says. -/
def SortStyle.compare (style : SortStyle) (a b : Octets) : Ordering :=
  let order := match style.kinds with
    | kind :: _ => kind.compare (style.clean a) (style.clean b)
    | [] => compareOctets (style.clean a) (style.clean b)
  if style.isReversed then order.swap else order

/-! ### Keys -/

/-- A place in a line: after some fields and some characters. -/
structure SortPlace where
  fields : Nat
  chars : Nat

/-- A part of a line, and how it is compared. -/
structure SortKey where
  start : SortPlace
  stop : Option SortPlace
  style : SortStyle

/-- Whether a character is a blank between fields. -/
def isFieldBlank (c : Char) : Bool := c == ' ' || c == '\t' || c == '\n'

/-- What is left of a line after some fields.  A field without a mark takes the blanks before it. -/
def afterFields (mark : Option Char) (count : Nat) (o : Octets) : Octets :=
  match count with
  | 0 => o
  | count + 1 =>
    match mark with
    | some c => afterFields mark count ((o.dropWhile (· != c)).drop 1)
    | none =>
      afterFields mark count ((o.dropWhile isFieldBlank).dropWhile fun c => !isFieldBlank c)

/-- The length of a line up to the end of some fields. -/
def lengthOfFields (mark : Option Char) (count : Nat) (o : Octets) : Nat :=
  let before := afterFields mark (count - 1) o
  let rest := match mark with
    | some c => before.dropWhile (· != c)
    | none => (before.dropWhile isFieldBlank).dropWhile fun c => !isFieldBlank c
  o.length - rest.length

/-- The part of a line that a key means. -/
def SortKey.part (key : SortKey) (mark : Option Char) (line : Octets) : Octets :=
  let skip (skips : Bool) (o : Octets) : Octets := if skips then o.dropWhile isFieldBlank else o
  let start := line.length - ((skip key.style.skipsStartBlanks
    (afterFields mark key.start.fields line)).drop key.start.chars).length
  let stop := match key.stop with
    | none => line.length
    | some place =>
      if place.chars == 0 then lengthOfFields mark (place.fields + 1) line
      else
        line.length - ((skip key.style.skipsEndBlanks
          (afterFields mark place.fields line)).drop place.chars).length
  (line.drop start).take (stop - start)

/-- Compares lines by keys. -/
def compareKeys (mark : Option Char) (a b : Octets) : List SortKey → Ordering
  | [] => .eq
  | key :: rest =>
    (key.style.compare (key.part mark a) (key.part mark b)).then (compareKeys mark a b rest)

/-- How lines are sorted. -/
structure SortOrder where
  mark : Option Char
  keys : List SortKey
  /-- Whether lines that have the same keys are compared as a whole. -/
  isTotal : Bool
  isReversed : Bool

/-- Compares lines. -/
def SortOrder.compare (order : SortOrder) (a b : Octets) : Ordering :=
  let whole := if !order.isTotal then Ordering.eq
    else if order.isReversed then (compareOctets a b).swap else compareOctets a b
  (compareKeys order.mark a b order.keys).then whole

end Tool

end Flowscript
