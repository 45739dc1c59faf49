import Flowscript.Text.Octets

/-!
# Classes of characters, integers and quoting

What shells and tools need to know about characters.

* `Text.charClass?` is the class with a name, such as `alpha`, as it is written in patterns.
* `Int64s.wrap` brings a number into range as arithmetic of 64 bits does.
* `Int64s.scan` reads the longest start of a text that is a number, in the base that its first
  characters tell, or in a given one.
* `Text.quotedPlainly` puts a text between single quotes, with a backslash before what is special.
* `Text.quotedForShell` writes a name as a shell would read it, with quotes only where they are needed.
-/

set_option autoImplicit false

namespace Flowscript

/-! ## Classes of characters

Bytes past 127 are in no class. -/

namespace Text

/-- Whether a character is a punctuation mark. -/
def isPunctuation (c : Char) : Bool := 33 ≤ c.toNat && c.toNat ≤ 126 && !c.isAlphanum

/-- Whether a character is a blank of any kind. -/
def isSpace (c : Char) : Bool := c == ' ' || (9 ≤ c.toNat && c.toNat ≤ 13)

/-- Whether a character is a hexadecimal digit. -/
def isHexDigit (c : Char) : Bool :=
  c.isDigit || ('a' ≤ c && c ≤ 'f') || ('A' ≤ c && c ≤ 'F')

/-- Whether a character is an octal digit. -/
def isOctalDigit (c : Char) : Bool := '0' ≤ c && c ≤ '7'

/-- The value of a digit to a base up to 36. -/
def wideDigitValue (c : Char) : Nat :=
  if c.isDigit then c.toNat - '0'.toNat
  else if c.isLower then c.toNat - 'a'.toNat + 10
  else if c.isUpper then c.toNat - 'A'.toNat + 10
  else 36

/-- The class with a name. -/
def charClass? (name : String) : Option (Char → Bool) :=
  match name with
  | "alpha" => some Char.isAlpha
  | "digit" => some Char.isDigit
  | "alnum" => some Char.isAlphanum
  | "upper" => some Char.isUpper
  | "lower" => some Char.isLower
  | "space" => some isSpace
  | "blank" => some fun c => c == ' ' || c == '\t'
  | "punct" => some isPunctuation
  | "print" => some fun c => 32 ≤ c.toNat && c.toNat ≤ 126
  | "graph" => some fun c => 33 ≤ c.toNat && c.toNat ≤ 126
  | "cntrl" => some fun c => c.toNat < 32 || c.toNat == 127
  | "xdigit" => some isHexDigit
  | _ => none

end Text

/-! ## Integers of 64 bits -/

namespace Int64s

/-- The number of values. -/
def values : Nat := 18446744073709551616

/-- The largest number. -/
def greatest : Int := 9223372036854775807

/-- The smallest number. -/
def least : Int := -9223372036854775808

/-- The number in range that is the same modulo the number of values. -/
def wrap (n : Int) : Int := Int.bmod n values

/-- A number as one without a sign. -/
def unsigned (n : Int) : Nat := (n % (values : Int)).toNat

/-- An operation on the bits of two numbers. -/
def bitwise (f : Nat → Nat → Nat) (a b : Int) : Int := wrap (f (unsigned a) (unsigned b))

/-- A number that was read: its value, whether it was in range, and what follows it. -/
structure Scanned where
  value : Int
  isInRange : Bool
  rest : Octets

/-- Reads digits to a base. -/
def digits (base : Nat) (cs : Octets) : Nat × Octets :=
  let isMember (c : Char) : Bool := Text.wideDigitValue c < base
  ((cs.takeWhile isMember).foldl (fun n c => n * base + Text.wideDigitValue c) 0,
    cs.dropWhile isMember)

/-- Reads the digits of a number, after its sign; a zero or `0x` tells the base if none is given. -/
def magnitude? (base : Option Nat) (cs : Octets) : Option (Nat × Octets) :=
  let withBase (base : Nat) (cs : Octets) : Option (Nat × Octets) :=
    match cs with
    | c :: _ => if Text.wideDigitValue c < base then some (digits base cs) else none
    | [] => none
  match base with
  | some base => withBase base cs
  | none =>
    match cs with
    | '0' :: x :: d :: r =>
      if (x == 'x' || x == 'X') && Text.isHexDigit d then some (digits 16 (d :: r))
      else some (digits 8 cs)
    | '0' :: _ => some (digits 8 cs)
    | _ => withBase 10 cs

/-- Reads a number after blanks, with or without a sign.  One that is too large is the largest or
the smallest of all. -/
def scan (base : Option Nat) (cs : Octets) : Option Scanned :=
  let cs := cs.dropWhile Text.isSpace
  let (isNegative, cs) := match cs with
    | '-' :: r => (true, r)
    | '+' :: r => (false, r)
    | _ => (false, cs)
  (magnitude? base cs).map fun (n, rest) =>
    let value : Int := if isNegative then -(n : Int) else n
    if value < least then ⟨least, false, rest⟩
    else if greatest < value then ⟨greatest, false, rest⟩
    else ⟨value, true, rest⟩

/-- Reads a number as `scan` does, but as one without a sign: a minus gives what is left to the
number of values. -/
def scanUnsigned (base : Option Nat) (cs : Octets) : Option (Nat × Bool × Octets) :=
  let cs := cs.dropWhile Text.isSpace
  let (isNegative, cs) := match cs with
    | '-' :: r => (true, r)
    | '+' :: r => (false, r)
    | _ => (false, cs)
  (magnitude? base cs).map fun (n, rest) =>
    if values ≤ n then (values - 1, false, rest)
    else (if isNegative then (values - n) % values else n, true, rest)

/-- The number that a whole text is, blanks around it aside. -/
def ofOctets? (base : Option Nat) (cs : Octets) : Option Int := do
  let scanned ← scan base cs
  if scanned.isInRange && scanned.rest.all Text.isSpace then some scanned.value else none

end Int64s

/-! ## Text between quotes -/

namespace Text

/-- What stands after a backslash for a character that cannot be printed. -/
def escapeLetters (c : Char) : Octets :=
  match c with
  | '\x07' => ['a']
  | '\x08' => ['b']
  | '\x09' => ['t']
  | '\x0a' => ['n']
  | '\x0b' => ['v']
  | '\x0c' => ['f']
  | '\x0d' => ['r']
  | c =>
    let digit (n : Nat) : Char := Char.ofNat ('0'.toNat + n % 8)
    [digit (c.toNat / 64), digit (c.toNat / 8), digit c.toNat]

/-- Whether a character can be printed. -/
def isPrintableOctet (c : Char) : Bool := 32 ≤ c.toNat && c.toNat < 127

/-- A text between quotes. -/
def quotedPlainly (o : Octets) : Octets :=
  '\'' :: (o.flatMap fun c =>
    if c == '\'' || c == '\\' then ['\\', c]
    else if isPrintableOctet c then [c]
    else '\\' :: escapeLetters c) ++ ['\'']

/-- Whether a shell would take a character at a place, from zero on, for something else. -/
def isShellSpecial (isAlone : Bool) (place : Nat) (c : Char) : Bool :=
  !isPrintableOctet c || " !\"$&()*;<=>[^\x60|'\\?".toList.contains c
    || (place == 0 && (c == '#' || c == '~'))
    || (isAlone && (c == '\x7b' || c == '\x7d'))

/-- Whether a character means the same between single and double quotes. -/
def isSameQuoted (isAlone : Bool) (place : Nat) (c : Char) : Bool :=
  c == ' ' || c == '\'' || (isPrintableOctet c && !isShellSpecial isAlone place c
    && c != '#' && c != '~' && c != '\x7b' && c != '\x7d')
    || (place == 0 && (c == '#' || c == '~'))

/-- A text between single quotes; `isEscaping` says that an escape has begun. -/
def shellPieces (isEscaping : Bool) : Octets → Octets
  | [] => []
  | c :: r =>
    if c == '\'' then '\'' :: '\\' :: '\'' :: '\'' :: shellPieces false r
    else if isPrintableOctet c then
      (if isEscaping then ['\'', '\''] else []) ++ c :: shellPieces false r
    else
      (if isEscaping then [] else ['\'', '$', '\'']) ++ '\\' :: escapeLetters c
        ++ shellPieces true r

/-- A name as a shell would read it; `always` says whether it has quotes in any case. -/
def quotedForShell (always : Bool) (o : Octets) : Octets :=
  let isAlone := o.length == 1
  let needsQuotes := o.isEmpty || o.zipIdx.any fun (c, i) => isShellSpecial isAlone i c
  if !always && !needsQuotes then o
  else if o.contains '\'' && o.zipIdx.all fun (c, i) => isSameQuoted isAlone i c then
    '"' :: o ++ ['"']
  else '\'' :: shellPieces false o ++ ['\'']

end Text

end Flowscript
