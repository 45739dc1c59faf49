import Flowscript.Text.Octets

/-!
# Archives of files

* `ArchiveEntry` is a file in an archive, with its name and what is known of it.
* `ArchiveEntry.write` puts one into an archive, and `Archive.read` takes all of them out.
-/

set_option autoImplicit false

namespace Flowscript

/-- What a file in an archive is. -/
inductive ArchivedKind where
  | regular
  /-- Another name of a file with a name that came before. -/
  | sameAs (name : Octets)
  | link (target : Octets)
  | character
  | block
  | directory
  | pipe
  deriving DecidableEq, Repr

/-- A file in an archive: its time is in seconds. -/
structure ArchiveEntry where
  name : Octets
  kind : ArchivedKind
  mode : Nat
  owner : Nat
  group : Nat
  ownerName : Octets
  groupName : Octets
  second : Nat
  content : ByteArray

namespace ArchivedKind

/-- The letter for a kind. -/
def letter : ArchivedKind → Char
  | .regular => '0'
  | .sameAs _ => '1'
  | .link _ => '2'
  | .character => '3'
  | .block => '4'
  | .directory => '5'
  | .pipe => '6'

/-- The name that a file leads to. -/
def target : ArchivedKind → Octets
  | .sameAs name | .link name => name
  | _ => []

/-- The kind for a letter, with the name that it leads to. -/
def ofLetter (c : Char) (target : Octets) : ArchivedKind :=
  match c with
  | '1' => .sameAs target
  | '2' => .link target
  | '3' => .character
  | '4' => .block
  | '5' => .directory
  | '6' => .pipe
  | _ => .regular

end ArchivedKind

namespace Archive

/-- The size of the blocks of which an archive is made up, and how many of them are written at once.
-/
def blockSize : Nat := 512
def blocksAtOnce : Nat := 20

/-- The longest name that has room in a head. -/
def nameRoom : Nat := 100

/-- Zero bytes. -/
def zeros (count : Nat) : ByteArray := ⟨Array.replicate count 0⟩

/-- Bytes that are filled up to whole blocks. -/
def inBlocks (bytes : ByteArray) : ByteArray :=
  bytes ++ zeros ((blockSize - bytes.size % blockSize) % blockSize)

/-- A text that is filled up with zero bytes. -/
def field (width : Nat) (o : Octets) : ByteArray :=
  let bytes := Octets.toBytes (o.take width)
  bytes ++ zeros (width - bytes.size)

/-- A number in octal digits with a zero byte at the end. -/
def octalField (width n : Nat) : ByteArray :=
  let digits := Nat.toDigits 8 n
  field width (List.replicate (width - 1 - digits.length) '0' ++ digits)

/-- The sum of bytes. -/
def sumOf (bytes : ByteArray) : Nat := bytes.data.foldl (fun sum b => sum + b.toNat) 0

/-- The head of a file in an archive: where the sum of its bytes is written, blanks are counted. -/
def head (name target : Octets) (letter : Char) (mode owner group size second : Nat)
    (ownerName groupName : Octets) : ByteArray :=
  let before := field nameRoom name ++ octalField 8 mode ++ octalField 8 owner
    ++ octalField 8 group ++ octalField 12 size ++ octalField 12 second
  let after := field 1 [letter] ++ field nameRoom target ++ field 8 (Octets.ofText "ustar  ")
    ++ field 32 ownerName ++ field 32 groupName
  let sum := sumOf before + sumOf after + 8 * 32
  inBlocks (before ++ octalField 7 sum ++ field 1 [' '] ++ after)

/-- A name that has no room in a head, in front of the file. -/
def longName (letter : Char) (name : Octets) : ByteArray :=
  if name.length < nameRoom + 1 then .empty
  else
    let content := Octets.toBytes name ++ zeros 1
    head (Octets.ofText "././@LongLink") [] letter 0o644 0 0 content.size 0
        (Octets.ofText "root") (Octets.ofText "root")
      ++ inBlocks content

end Archive

/-- Writes a file into an archive. -/
def ArchiveEntry.write (e : ArchiveEntry) : ByteArray :=
  let target := e.kind.target
  Archive.longName 'K' target ++ Archive.longName 'L' e.name
    ++ Archive.head e.name target e.kind.letter e.mode e.owner e.group e.content.size e.second
      e.ownerName e.groupName
    ++ Archive.inBlocks e.content

namespace Archive

/-- The end of an archive of some size. -/
def ending (size : Nat) : ByteArray :=
  let unit := blockSize * blocksAtOnce
  zeros (2 * blockSize + (unit - (size + 2 * blockSize) % unit) % unit)

/-- Writes an archive. -/
def write (entries : List ArchiveEntry) : ByteArray :=
  let body := entries.foldl (fun bytes e => bytes ++ e.write) .empty
  body ++ ending body.size

/-- What can be wrong with an archive: it is none, or it ends too early. -/
inductive ReadFault where
  | foreign
  | short
  deriving DecidableEq, Repr

/-- The text of a field up to a zero byte. -/
def textAt (bytes : ByteArray) (place width : Nat) : Octets :=
  (Octets.ofBytes (bytes.extract place (place + width))).takeWhile (· != '\x00')

/-- The number of a field. -/
def numberAt (bytes : ByteArray) (place width : Nat) : Nat :=
  let digits := (textAt bytes place width).dropWhile (· == ' ')
  (digits.takeWhile fun c => '0' ≤ c && c ≤ '7').foldl (fun n c => 8 * n + (c.toNat - 48)) 0

/-- Whether there is the head of a file at a place. -/
def isHead (bytes : ByteArray) (place : Nat) : Bool :=
  let all := sumOf (bytes.extract place (place + blockSize))
  let own := sumOf (bytes.extract (place + 148) (place + 156))
  all - own + 8 * 32 == numberAt bytes (place + 148) 8

/-- Names that did not have room in the head of the file that comes next. -/
structure LongNames where
  name : Option Octets
  target : Option Octets

/-- The file whose head is at a place. -/
def entryAt (bytes : ByteArray) (place : Nat) (long : LongNames) : ArchiveEntry :=
  let text (start width : Nat) : Octets := textAt bytes (place + start) width
  let number (start width : Nat) : Nat := numberAt bytes (place + start) width
  let lead := if text 257 6 == Octets.ofText "ustar" then text 345 155 else []
  let short := if lead.isEmpty then text 0 nameRoom else lead ++ '/' :: text 0 nameRoom
  let name := long.name.getD short
  let letter := ((text 156 1).head?).getD '0'
  let kind := ArchivedKind.ofLetter letter (long.target.getD (text 157 nameRoom))
  let isOldDirectory := kind == .regular && name.getLast? == some '/'
  let start := place + blockSize
  { name := name, kind := if isOldDirectory then .directory else kind
    mode := number 100 8, owner := number 108 8, group := number 116 8
    ownerName := text 265 32, groupName := text 297 32, second := number 136 12
    content := if kind == .regular then bytes.extract start (start + number 124 12) else .empty }

/-- Reads the files of an archive from a place on; those before it are given, the last one first. -/
def readFrom (fuel : Nat) (bytes : ByteArray) (place : Nat) (long : LongNames)
    (before : List ArchiveEntry) : List ArchiveEntry × Option ReadFault :=
  match fuel with
  | 0 => (before.reverse, none)
  | fuel + 1 =>
    let left := bytes.size - place
    if left < blockSize then
      (before.reverse, if before.isEmpty then some .foreign
        else if left == 0 then none else some .short)
    else if sumOf (bytes.extract place (place + blockSize)) == 0 then (before.reverse, none)
    else if !isHead bytes place then
      if before.isEmpty then ([], some .foreign)
      else readFrom fuel bytes (place + blockSize) long before
    else
      let size := numberAt bytes (place + 124) 12
      let letter := (textAt bytes (place + 156) 1).head?
      let isLink := letter == some '1' || letter == some '2'
      let size := if isLink then 0 else size
      let next := place + blockSize + (size + blockSize - 1) / blockSize * blockSize
      let content := textAt bytes (place + blockSize) size
      if letter == some 'L' then
        readFrom fuel bytes next { long with name := some content } before
      else if letter == some 'K' then
        readFrom fuel bytes next { long with target := some content } before
      else if letter == some 'x' || letter == some 'g' then readFrom fuel bytes next long before
      else
        let all := entryAt bytes place long :: before
        if bytes.size < next then (all.reverse, some .short)
        else readFrom fuel bytes next ⟨none, none⟩ all

/-- Reads an archive, and says what is wrong with it. -/
def read (bytes : ByteArray) : List ArchiveEntry × Option ReadFault :=
  readFrom (bytes.size / blockSize + 1) bytes 0 ⟨none, none⟩ []

end Archive

end Flowscript
