import Flowscript.Programs.Compression.Basic
import Flowscript.Programs.Compression.Deflating
import Flowscript.Programs.Digest

/-!
# Members of compressed files

Data is taken out of its codes, and a member wraps it with a header and a checksum.

* `CodeBook` finds the symbols that codes stand for.
* `inflate` takes the text out of the blocks of compressed data.
* `pack` makes a compressed file of a text, with its name and the time of it.
* `unpack` takes the text out of a compressed file, which can be several ones in a row.
-/

set_option autoImplicit false

namespace Flowscript.Compression

/-! ## Text out of compressed data -/

/-- What can be wrong with compressed data: it ends too early, or has a wrong form. -/
inductive InflateFault where
  | short
  | malformed
  deriving DecidableEq, Repr

/-- The symbols of codes: how many codes have each length, and the symbols in the order of their
codes. -/
structure CodeBook where
  counts : Array Nat
  symbols : Array Nat

namespace CodeBook

/-- The symbols of codes of given lengths. -/
def ofLengths (lengths : Array Nat) : CodeBook :=
  let ofLength (n : Nat) : List Nat :=
    (List.range lengths.size).filter fun k => lengths.getD k 0 == n
  ⟨countsOf lengths, ((List.range 15).flatMap fun n => ofLength (n + 1)).toArray⟩

/-- Whether more codes have a length than there are. -/
def isOverfull (b : CodeBook) : Bool :=
  let step (left : Int) (n : Nat) : Int :=
    if left < 0 then left else 2 * left - (b.counts.getD (n + 1) 0 : Nat)
  (List.range 15).foldl step 1 < 0

/-- Takes a symbol, where as many bits as can come have been counted. -/
def takeFrom (b : CodeBook) (fuel length code first index : Nat) (s : BitSource) :
    Except InflateFault (Nat × BitSource) :=
  match fuel with
  | 0 => .error .malformed
  | fuel + 1 =>
    match s.bit? with
    | none => .error .short
    | some (bit, s) =>
      let code := 2 * code + bit
      let first := 2 * first
      let count := b.counts.getD length 0
      if code < first + count then .ok (b.symbols.getD (index + (code - first)) 0, s)
      else takeFrom b fuel (length + 1) code (first + count) (index + count) s

/-- Takes a symbol. -/
def take (b : CodeBook) (s : BitSource) : Except InflateFault (Nat × BitSource) :=
  b.takeFrom 15 1 0 0 0 s

end CodeBook

/-- Takes some bits. -/
def takeBits (count : Nat) (s : BitSource) : Except InflateFault (Nat × BitSource) :=
  match s.bits? count with
  | none => .error .short
  | some found => .ok found

/-- Adds a copy of what stands some distance before. -/
def copyBack (count distance : Nat) (out : ByteArray) : ByteArray :=
  match count with
  | 0 => out
  | count + 1 => copyBack count distance (out.push (out.get! (out.size - distance)))

/-- The text so far, which data has led to, and what is left or wrong. -/
abbrev Inflated := ByteArray × Except InflateFault BitSource

/-- Takes the text of a block whose codes are known. -/
def inflateCodes (letters distances : CodeBook) (fuel : Nat) (out : ByteArray) (s : BitSource) :
    Inflated :=
  match fuel with
  | 0 => (out, .error .short)
  | fuel + 1 =>
    match letters.take s with
    | .error fault => (out, .error fault)
    | .ok (symbol, s) =>
      if symbol < endSymbol then
        inflateCodes letters distances fuel (out.push (UInt8.ofNat symbol)) s
      else if symbol == endSymbol then (out, .ok s)
      else
        let k := symbol - endSymbol - 1
        let copy : Except InflateFault (Nat × Nat × BitSource) := do
          if lengthBases.size ≤ k then throw .malformed
          let (more, s) ← takeBits (lengthBits.getD k 0) s
          let (far, s) ← distances.take s
          if distanceBases.size ≤ far then throw .malformed
          let (extra, s) ← takeBits (distanceBits.getD far 0) s
          return (lengthBases.getD k 0 + more, distanceBases.getD far 0 + extra, s)
        match copy with
        | .error fault => (out, .error fault)
        | .ok (length, distance, s) =>
          if out.size < distance then (out, .error .malformed)
          else inflateCodes letters distances fuel (copyBack length distance out) s

/-- Takes the lengths of codes, where some have been taken. -/
def takeLengths (book : CodeBook) (wanted fuel : Nat) (lengths : Array Nat) (s : BitSource) :
    Except InflateFault (Array Nat × BitSource) :=
  match fuel with
  | 0 => .error .malformed
  | fuel + 1 =>
    if lengths.size == wanted then .ok (lengths, s)
    else do
      let (symbol, s) ← book.take s
      if symbol < 16 then takeLengths book wanted fuel (lengths.push symbol) s
      else
        if symbol == 16 && lengths.isEmpty then throw .malformed
        let (base, bits, value) := match symbol with
          | 16 => (3, 2, lengths.getD (lengths.size - 1) 0)
          | 17 => (3, 3, 0)
          | _ => (11, 7, 0)
        let (more, s) ← takeBits bits s
        if wanted < lengths.size + base + more then throw .malformed
        takeLengths book wanted fuel (lengths ++ Array.replicate (base + more) value) s

/-- Takes the codes of a block. -/
def takeBooks (s : BitSource) : Except InflateFault (CodeBook × CodeBook × BitSource) := do
  let (letters, s) ← takeBits 5 s
  let (distances, s) ← takeBits 5 s
  let (count, s) ← takeBits 4 s
  let (letters, distances) := (letters + 257, distances + 1)
  if 286 < letters || 30 < distances then throw .malformed
  let mut rest := s
  let mut lengths := Array.replicate 19 0
  for place in lengthOrder.take (count + 4) do
    let (n, s) ← takeBits 3 rest
    lengths := lengths.set! place n
    rest := s
  let book := CodeBook.ofLengths lengths
  if book.isOverfull then throw .malformed
  let (all, s) ← takeLengths book (letters + distances) (letters + distances + 1) #[] rest
  let first := CodeBook.ofLengths (all.extract 0 letters)
  let second := CodeBook.ofLengths (all.extract letters all.size)
  if first.isOverfull || second.isOverfull then throw .malformed
  return (first, second, s)

/-- Takes the text of a block that is not compressed. -/
def inflateStored (out : ByteArray) (s : BitSource) : Inflated :=
  let s := s.align
  let sizes : Except InflateFault (Nat × BitSource) := do
    let (size, s) ← takeBits 16 s
    let (check, s) ← takeBits 16 s
    if size + check != 0xFFFF then throw .malformed
    return (size, s)
  match sizes with
  | .error fault => (out, .error fault)
  | .ok (size, s) =>
    let start := s.place / 8
    let out := out ++ s.bytes.extract start (start + size)
    if s.bytes.size < start + size then (out, .error .short)
    else (out, .ok { s with place := s.place + 8 * size })

/-- Takes the text out of blocks, after some text that has been taken. -/
def inflateFrom (fuel : Nat) (out : ByteArray) (s : BitSource) : Inflated :=
  match fuel with
  | 0 => (out, .error .short)
  | fuel + 1 =>
    match takeBits 3 s with
    | .error fault => (out, .error fault)
    | .ok (head, s) =>
      let many := 8 * s.bytes.size + 1
      let (out, result) : Inflated := match head / 2 with
        | 0 => inflateStored out s
        | 1 => inflateCodes (.ofLengths agreedLengths) (.ofLengths agreedDistances) many out s
        | 2 =>
          match takeBooks s with
          | .error fault => (out, .error fault)
          | .ok (letters, distances, s) => inflateCodes letters distances many out s
        | _ => (out, .error .malformed)
      match result with
      | .error fault => (out, .error fault)
      | .ok s => if head % 2 == 1 then (out, .ok s) else inflateFrom fuel out s

/-- Takes the text out of the blocks from a place on, and gives it with the place after them, or
with what is wrong. -/
def inflate (bytes : ByteArray) (start : Nat) : ByteArray × Except InflateFault Nat :=
  let (out, result) := inflateFrom (8 * bytes.size + 1) .empty ⟨bytes, 8 * start⟩
  (out, result.map fun s => (s.place + 7) / 8)

/-! ## Compressed files -/

/-- Whose text a compressed file has: its name, and the second in which it was written. -/
structure Label where
  name : Option Octets
  second : Nat

/-- A number as bytes, the least one first. -/
def smallFirst (count n : Nat) : ByteArray :=
  (List.range count).foldl (fun bytes k => bytes.push (UInt8.ofNat (n / 256 ^ k % 256))) .empty

/-- The number of bytes of a head without the name. -/
def headSize : Nat := 10

/-- The number of bytes after the data. -/
def tailSize : Nat := 8

/-- Compresses a text. -/
def pack (label : Label) (level : Nat) (text : ByteArray) : ByteArray :=
  let name := match label.name with
    | some o => Octets.toBytes (o ++ ['\x00'])
    | none => .empty
  let effort := if level == 1 then 4 else if level == 9 then 2 else 0
  ⟨#[0x1f, 0x8b, 8, if label.name.isSome then 8 else 0]⟩ ++ smallFirst 4 label.second
    ++ ⟨#[effort, 3]⟩ ++ name ++ deflate level text
    ++ smallFirst 4 (Digest.archiveSum (Octets.ofBytes text)) ++ smallFirst 4 text.size

/-- What can be wrong with a compressed file. -/
inductive UnpackFault where
  | short
  | foreign
  | method (n : Nat)
  | encrypted
  | flags (n : Nat)
  | malformed
  | badSum
  | badLength
  deriving DecidableEq, Repr

/-- The wording of a fault, with the name of the file. -/
def UnpackFault.message (name : Octets) (fault : UnpackFault) : Octets :=
  let after (text : String) : Octets := name ++ Octets.ofText (": " ++ text)
  match fault with
  | .short => after "unexpected end of file"
  | .foreign => after "not in gzip format"
  | .method n => after ("unknown method " ++ toString n ++ " -- not supported")
  | .encrypted => name ++ Octets.ofText " is encrypted -- not supported"
  | .flags n =>
    name ++ Octets.ofText " has flags 0x" ++ Nat.toDigits 16 n ++ Octets.ofText " -- not supported"
  | .malformed => after "invalid compressed data--format violated"
  | .badSum => after "invalid compressed data--crc error"
  | .badLength => after "invalid compressed data--length error"

/-- Whether the wording of a fault is written on a line of its own. -/
def UnpackFault.standsAlone : UnpackFault → Bool
  | .method _ | .encrypted | .flags _ => false
  | _ => true

/-- What is read of a file: its text, its label, its check sum, and what is wrong with it. -/
structure Unpacked where
  text : ByteArray
  label : Label
  sum : Nat
  fault : Option UnpackFault
  /-- There is something after the compressed files. -/
  hasMore : Bool

/-- The byte at a place. -/
def byteOf (bytes : ByteArray) (place : Nat) : Option Nat := (bytes[place]?).map (·.toNat)

/-- A number out of some bytes, the least one first. -/
def numberAt (bytes : ByteArray) (place count : Nat) : Option Nat :=
  (List.range count).foldr (fun k n => do return (← byteOf bytes (place + k)) + 256 * (← n)) (some 0)

/-- Takes a text up to a zero byte, and gives the place after it. -/
def textAt (bytes : ByteArray) (fuel place : Nat) (o : Octets) : Option (Octets × Nat) :=
  match fuel with
  | 0 => none
  | fuel + 1 => do
    let b ← byteOf bytes place
    if b == 0 then return (o.reverse, place + 1)
    else textAt bytes fuel (place + 1) (Char.ofNat b :: o)

/-- Reads the head of a compressed file: the label, and the place of the data. -/
def readHead (bytes : ByteArray) (start : Nat) : Except UnpackFault (Label × Nat) := do
  let get (place : Nat) : Except UnpackFault Nat :=
    match byteOf bytes (start + place) with
    | some b => .ok b
    | none => .error .short
  let first ← get 0
  let second ← get 1
  if first != 0x1f || second != 0x8b then throw .foreign
  let method ← get 2
  if method != 8 then throw (.method method)
  let flags ← get 3
  if flags &&& 0x20 != 0 then throw .encrypted
  if flags &&& 0xC0 != 0 then throw (.flags flags)
  let written ← match numberAt bytes (start + 4) 4 with
    | some n => .ok n
    | none => .error .short
  let _ ← get 9
  let place := start + headSize
  let place ← if flags &&& 4 == 0 then .ok place
    else match numberAt bytes place 2 with
      | some n => .ok (place + 2 + n)
      | none => .error .short
  let text (isThere : Bool) (place : Nat) : Except UnpackFault (Octets × Nat) :=
    if isThere then
      match textAt bytes (bytes.size + 1) place [] with
      | some found => .ok found
      | none => .error .short
    else .ok ([], place)
  let hasName := flags &&& 8 != 0
  let (name, place) ← text hasName place
  let (_, place) ← text (flags &&& 16 != 0) place
  let place := if flags &&& 2 == 0 then place else place + 2
  return (⟨if hasName then some name else none, written⟩, place)

/-- Takes the text out of the compressed files from a place on, after the text of those before. -/
def unpackFrom (fuel : Nat) (bytes : ByteArray) (start : Nat) (before : Unpacked) : Unpacked :=
  match fuel with
  | 0 => before
  | fuel + 1 =>
    let isFirst := start == 0
    match readHead bytes start with
    | .error fault =>
      if isFirst then { before with fault := some fault }
      else if fault == .foreign || fault == .short then
        let rest := bytes.extract start bytes.size
        { before with hasMore := rest.data.any (· != 0) }
      else { before with fault := some fault }
    | .ok (label, place) =>
      let label := if isFirst then label else before.label
      let (out, result) := inflate bytes place
      let sum := Digest.archiveSum (Octets.ofBytes out)
      let all : Unpacked := ⟨before.text ++ out, label, sum, none, false⟩
      match result with
      | .error .short => { all with fault := some .short }
      | .error .malformed => { all with fault := some .malformed }
      | .ok place =>
        match numberAt bytes place 4, numberAt bytes (place + 4) 4 with
        | some check, some size =>
          if check != sum then { all with fault := some .badSum }
          else if size != out.size % 2 ^ 32 then { all with fault := some .badLength }
          else if place + tailSize < bytes.size then
            unpackFrom fuel bytes (place + tailSize) all
          else all
        | _, _ => { all with fault := some .short }

/-- Takes the text out of compressed files in a row. -/
def unpack (bytes : ByteArray) : Unpacked :=
  unpackFrom (bytes.size + 1) bytes 0 ⟨.empty, ⟨none, 0⟩, 0, none, false⟩

end Flowscript.Compression
