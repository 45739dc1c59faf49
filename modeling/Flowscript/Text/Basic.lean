import Flowscript.Instances

/-!
# Texts

Classes of characters, the parts of a text, and numbers of 64 bits.

* `isBlank` is the class of blank characters.
* `trim` takes blanks off both ends.
* `splitAt` cuts a text at every character of a class, keeping empty pieces.
* `words` cuts a text at blanks and keeps the pieces that hold something.
* `lines` gives the lines of a text, without their ends.
* `isNameChar` is the class of characters of plain names, and `isPlainName` says that a text is a
  non-empty run of them.
* `isDecimalDigit` is the Unicode general category Nd (decimal number): the digits nought to nine
  of every script that has them.
* `readWord64` reads a natural number of 64 bits, with at most one leading `+`, or says what is wrong with the
  first character that cannot be taken.
-/

set_option autoImplicit false

namespace Flowscript.Text

/-! ## Blank characters

Blank means the Unicode property White_Space.  Cells of a table, words of a ratio and the names of
modules are all trimmed and split at such characters, and at no others: the information separators
U+001C to U+001F, the zero width space and the byte order mark are ordinary text. -/

/-- The ranges of the property White_Space, ends included. -/
def blankRanges : List (Nat × Nat) :=
  [(0x9, 0xd), (0x20, 0x20), (0x85, 0x85), (0xa0, 0xa0), (0x1680, 0x1680), (0x2000, 0x200a),
   (0x2028, 0x2029), (0x202f, 0x202f), (0x205f, 0x205f), (0x3000, 0x3000)]

/-- Whether a code point lies in one of the ranges. -/
def inRanges (ranges : List (Nat × Nat)) (c : Char) : Bool :=
  ranges.any fun r => r.1 ≤ c.toNat && c.toNat ≤ r.2

/-- Whether a character has the property White_Space. -/
def isBlank (c : Char) : Bool := inRanges blankRanges c

/-- Leading and trailing blanks taken off. -/
def trimChars (cs : List Char) : List Char :=
  ((cs.dropWhile isBlank).reverse.dropWhile isBlank).reverse

/-- Leading and trailing blanks taken off. -/
def trim (s : String) : String := String.ofList (trimChars s.toList)

/-- Whether nothing but blanks is there. -/
def isAllBlank (cs : List Char) : Bool := cs.all isBlank

/-- The pieces between the characters of a class.  There is one piece more than such characters,
so the empty text has one empty piece. -/
def splitAt (cut : Char → Bool) : List Char → List (List Char)
  | [] => [[]]
  | c :: cs =>
    match splitAt cut cs with
    | [] => [[c]]
    | piece :: pieces => if cut c then [] :: piece :: pieces else (c :: piece) :: pieces

/-- The maximal runs of characters that are not blank. -/
def words (cs : List Char) : List (List Char) := (splitAt isBlank cs).filter (!·.isEmpty)

/-! ## Lines

A line feed ends a line, and a carriage return just before it belongs to the line end.  Text after
the last line feed is a line too unless it is empty, and keeps a carriage return at its end. -/

/-- A text without one carriage return at its end. -/
def dropReturn (line : List Char) : List Char :=
  if line.getLast? = some '\r' then line.dropLast else line

/-- The lines of a text, in order, without the characters that end them. -/
def lines (text : List Char) : List (List Char) :=
  let pieces := splitAt (· == '\n') text
  pieces.dropLast.map dropReturn ++ (pieces.getLast?.toList.filter (!·.isEmpty))

/-! ## Plain names

Port names and row ids are written into command lines and file names as they are, so they are
confined to ASCII letters, digits, `_`, `.` and `-`. -/

/-- ASCII letters, ASCII digits, `_`, `.` and `-`. -/
def isNameChar (c : Char) : Bool :=
  c.isAlphanum || c == '_' || c == '.' || c == '-'

/-- A non-empty text of name characters. -/
def isPlainName (name : String) : Bool :=
  !name.toList.isEmpty && name.toList.all isNameChar

/-! ## Decimal digits of every script -/

/-- The ranges of the general category Nd, ends included. -/
def decimalDigitRanges : List (Nat × Nat) := [
  (0x30, 0x39), (0x660, 0x669), (0x6f0, 0x6f9), (0x7c0, 0x7c9), (0x966, 0x96f), (0x9e6, 0x9ef),
  (0xa66, 0xa6f), (0xae6, 0xaef), (0xb66, 0xb6f), (0xbe6, 0xbef), (0xc66, 0xc6f), (0xce6, 0xcef),
  (0xd66, 0xd6f), (0xde6, 0xdef), (0xe50, 0xe59), (0xed0, 0xed9), (0xf20, 0xf29),
  (0x1040, 0x1049), (0x1090, 0x1099), (0x17e0, 0x17e9), (0x1810, 0x1819), (0x1946, 0x194f),
  (0x19d0, 0x19d9), (0x1a80, 0x1a89), (0x1a90, 0x1a99), (0x1b50, 0x1b59), (0x1bb0, 0x1bb9),
  (0x1c40, 0x1c49), (0x1c50, 0x1c59), (0xa620, 0xa629), (0xa8d0, 0xa8d9), (0xa900, 0xa909),
  (0xa9d0, 0xa9d9), (0xa9f0, 0xa9f9), (0xaa50, 0xaa59), (0xabf0, 0xabf9), (0xff10, 0xff19),
  (0x104a0, 0x104a9), (0x10d30, 0x10d39), (0x10d40, 0x10d49), (0x11066, 0x1106f),
  (0x110f0, 0x110f9), (0x11136, 0x1113f), (0x111d0, 0x111d9), (0x112f0, 0x112f9),
  (0x11450, 0x11459), (0x114d0, 0x114d9), (0x11650, 0x11659), (0x116c0, 0x116c9),
  (0x116d0, 0x116e3), (0x11730, 0x11739), (0x118e0, 0x118e9), (0x11950, 0x11959),
  (0x11bf0, 0x11bf9), (0x11c50, 0x11c59), (0x11d50, 0x11d59), (0x11da0, 0x11da9),
  (0x11f50, 0x11f59), (0x16130, 0x16139), (0x16a60, 0x16a69), (0x16ac0, 0x16ac9),
  (0x16b50, 0x16b59), (0x16d70, 0x16d79), (0x1ccf0, 0x1ccf9), (0x1d7ce, 0x1d7ff),
  (0x1e140, 0x1e149), (0x1e2f0, 0x1e2f9), (0x1e4f0, 0x1e4f9), (0x1e5f1, 0x1e5fa),
  (0x1e950, 0x1e959), (0x1fbf0, 0x1fbf9)]

/-- Whether a character is a decimal digit of some script. -/
def isDecimalDigit (c : Char) : Bool := inRanges decimalDigitRanges c

/-! ## Natural numbers of 64 bits

Block ids, counts and limits are written in ASCII decimal digits and are below `2 ^ 64`. -/

/-- The least number that 64 bits cannot hold. -/
def word64Limit : Nat := 2 ^ 64

/-- What keeps a text from being a number of 64 bits. -/
inductive NumeralFault where
  | empty
  | notDigit
  | tooLarge
  deriving DecidableEq, Repr

/-- The wording of a fault. -/
def NumeralFault.message : NumeralFault → String
  | .empty => "cannot parse integer from empty string"
  | .notDigit => "invalid digit found in string"
  | .tooLarge => "number too large to fit in target type"

/-- The value of an ASCII digit. -/
def digitValue (c : Char) : Nat := c.toNat - '0'.toNat

/-- Goes on reading digits after a number of the given value.  The first character that is no
digit, or that makes the number too large, decides. -/
def readDigits (value : Nat) : List Char → Except NumeralFault Nat
  | [] => .ok value
  | c :: cs =>
    if c.isDigit then
      let value := 10 * value + digitValue c
      if value < word64Limit then readDigits value cs else .error .tooLarge
    else .error .notDigit

/-- Reads a number of 64 bits that may start with one `+`. -/
def readWord64 (text : String) : Except NumeralFault Nat :=
  match text.toList with
  | [] => .error .empty
  | ['+'] => .error .notDigit
  | '+' :: digits => readDigits 0 digits
  | digits => readDigits 0 digits

end Flowscript.Text
