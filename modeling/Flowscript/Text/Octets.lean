import Flowscript.Text.Basic

/-!
# Texts as bytes

The encoding of characters, and bytes that need not be one.

* `Text.decodeLossy` reads bytes as text and puts U+FFFD where they are ill-formed.
* `Octets.ofText` and `Octets.toText` go from and to text, by way of its bytes.
* `Octets.ofBytes` and `Octets.toBytes` go from and to byte arrays.
* `Octets.lines` cuts at the ends of lines.
-/

set_option autoImplicit false

namespace Flowscript

/-! ## Bytes as text

What a program prints need not be well-formed UTF-8.

Each longest run of bytes that begins a character but is broken off, and each other byte that begins
none, becomes one U+FFFD. -/

namespace Text

/-- How many bytes follow the first byte of a character, and between what bounds the next of them
has to lie.  The bounds keep out overlong forms, surrogates, and what is past the last code
point. -/
def continuation? (b : Nat) : Option (Nat × Nat × Nat) :=
  if b < 0x80 then some (0, 0x80, 0xbf)
  else if b < 0xc2 then none
  else if b < 0xe0 then some (1, 0x80, 0xbf)
  else if b == 0xe0 then some (2, 0xa0, 0xbf)
  else if b == 0xed then some (2, 0x80, 0x9f)
  else if b < 0xf0 then some (2, 0x80, 0xbf)
  else if b == 0xf0 then some (3, 0x90, 0xbf)
  else if b < 0xf4 then some (3, 0x80, 0xbf)
  else if b == 0xf4 then some (3, 0x80, 0x8f)
  else none

/-- The payload of a first byte that `more` bytes follow. -/
def leadBits (b more : Nat) : Nat :=
  if more = 0 then b else if more = 1 then b % 32 else if more = 2 then b % 16 else b % 8

/-- A character whose bytes are being read: its bits so far, how many bytes are to come, and the
bounds of the next. -/
structure PartialChar where
  bits : Nat
  more : Nat
  lower : Nat
  upper : Nat

/-- The character that stands for ill-formed bytes. -/
def replacement : Char := '\ufffd'

/-- Reads a byte at the start of a character: the characters that are complete, last one first, and
the character that is not. -/
def decodeFirst (done : List Char) (b : Nat) : List Char × Option PartialChar :=
  match continuation? b with
  | none => (replacement :: done, none)
  | some (0, _, _) => (Char.ofNat b :: done, none)
  | some (more, lower, upper) => (done, some ⟨leadBits b more, more, lower, upper⟩)

/-- Reads one byte more. -/
def decodeByte (state : List Char × Option PartialChar) (byte : UInt8) :
    List Char × Option PartialChar :=
  let b := byte.toNat
  match state with
  | (done, none) => decodeFirst done b
  | (done, some c) =>
    if c.lower ≤ b && b ≤ c.upper then
      let bits := c.bits * 64 + b % 64
      if c.more = 1 then (Char.ofNat bits :: done, none)
      else (done, some ⟨bits, c.more - 1, 0x80, 0xbf⟩)
    else decodeFirst (replacement :: done) b

/-- Bytes as text, with U+FFFD where they are ill-formed. -/
def decodeLossy (bytes : List UInt8) : String :=
  match bytes.foldl decodeByte ([], none) with
  | (done, none) => String.ofList done.reverse
  | (done, some _) => String.ofList (replacement :: done).reverse

end Text

/-! ## Bytes as characters

Scripts and the programs that they start take text apart byte by byte.  Such a text is a list of
characters below 256, each of which stands for one byte; patterns can then be written with ordinary
characters. -/

/-- A text by its bytes: each character is below 256 and stands for one byte. -/
abbrev Octets := List Char

namespace Octets

/-- The bytes of an array. -/
def ofBytes (bytes : ByteArray) : Octets := bytes.data.toList.map fun b => Char.ofNat b.toNat

/-- The array of some bytes. -/
def toBytes (o : Octets) : ByteArray :=
  o.foldl (fun bytes c => bytes.push c.toNat.toUInt8) .empty

/-- The bytes of a text. -/
def ofText (s : String) : Octets := ofBytes s.toUTF8

/-- Bytes as text, with U+FFFD where they are ill-formed. -/
def toText (o : Octets) : String :=
  if o.all fun c => c.toNat < 128 then String.ofList o
  else Text.decodeLossy (o.map fun c => c.toNat.toUInt8)

/-- The lines of a text, each without its end, and whether the last one has an end. -/
def lines (o : Octets) : List Octets × Bool :=
  let pieces := Text.splitAt (· == '\n') o
  if pieces.getLast? == some [] then (pieces.dropLast, true) else (pieces, false)

/-- Whether bytes are in order: by the first byte that differs, and a start comes before the
whole. -/
def le : Octets → Octets → Bool
  | [], _ => true
  | _ :: _, [] => false
  | a :: r, b :: s => if a == b then le r s else a.toNat < b.toNat

/-- Pieces with bytes between them. -/
def join (between : Octets) (pieces : List Octets) : Octets :=
  (pieces.intersperse between).flatten

/-- Whether one text starts another. -/
def starts (start o : Octets) : Bool := start.isPrefixOf o

/-- The value of decimal digits, and nothing else, unless there are none. -/
def natural? (o : Octets) : Option Nat :=
  if o.isEmpty || !o.all Char.isDigit then none
  else some (o.foldl (fun n d => n * 10 + (d.toNat - '0'.toNat)) 0)

end Octets

end Flowscript
