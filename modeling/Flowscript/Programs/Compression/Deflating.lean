import Flowscript.Programs.Compression.Basic

/-!
# Compressing

Repetitions are found first and written down afterwards.

* `Effort` says how long is searched for copies.
* `Matcher` remembers where three bytes stood before, and `Matcher.longest` finds the longest copy.
* `Lempel.blocksOf` takes a text apart into bytes and copies, block by block.
* `CodeChoice` are the codes for the pieces of a block.
* `deflate` compresses a text.
-/

set_option autoImplicit false

namespace Flowscript.Compression

/-! ## Finding what came before -/

/-- How long is searched for copies: from which length of a copy on the search is shorter, up to
which one a longer copy is looked for at the next byte, which one is good enough, and how many places
are looked at.  A hasty search takes the first copy. -/
structure Effort where
  level : Nat
  good : Nat
  lazy : Nat
  nice : Nat
  chain : Nat

namespace Effort

/-- The effort of a level from one to nine. -/
def ofLevel (level : Nat) : Effort :=
  let (good, lazy, nice, chain) := match level with
    | 1 => (4, 4, 8, 4)
    | 2 => (4, 5, 16, 8)
    | 3 => (4, 6, 32, 32)
    | 4 => (4, 4, 16, 16)
    | 5 => (8, 16, 32, 32)
    | 6 => (8, 16, 128, 128)
    | 7 => (8, 32, 128, 256)
    | 8 => (32, 128, 258, 1024)
    | _ => (32, 258, 258, 4096)
  ⟨level, good, lazy, nice, chain⟩

/-- Whether the first copy is taken. -/
def isHasty (e : Effort) : Bool := e.level ≤ 3

end Effort

/-- How many bytes are wanted beyond a place. -/
def lookahead : Nat := 262

/-- The farthest copy that is looked for, and the farthest one of the shortest length. -/
def reach : Nat := windowSize - lookahead
def shortReach : Nat := 4096

/-- What is known about a text up to a place: for three bytes with some key, one more than the place
where they stood last, and for each place the one before with the same key.  The window of bytes
starts at `base` and has been filled up to `filled`. -/
structure Matcher where
  heads : Array Nat
  links : Array Nat
  key : Nat
  base : Nat
  filled : Nat
  isEnded : Bool
  place : Nat

namespace Matcher

/-- The byte at a place.  Past the end there is what the window had there before. -/
def byteAt (text : ByteArray) (m : Matcher) (p : Nat) : Nat :=
  if p < m.filled then (text.get! p).toNat
  else if m.base == 0 || (m.isEnded && p < m.filled + 2) then 0
  else if p - windowSize < m.filled then (text.get! (p - windowSize)).toNat
  else 0

/-- The key of three bytes, from that of the two first ones. -/
def addKey (key byte : Nat) : Nat := ((key <<< 5) ^^^ byte) &&& 0x7FFF

/-- Reads on into the window, which moves if it is full. -/
def fill (size : Nat) (m : Matcher) : Matcher :=
  let base := if windowSize + reach ≤ m.place - m.base then m.base + windowSize else m.base
  let filled := min size (base + 2 * windowSize)
  { m with base := base, filled := filled, isEnded := m.isEnded || filled == m.filled }

/-- Reads on until enough is there. -/
def fillEnough (fuel size : Nat) (m : Matcher) : Matcher :=
  match fuel with
  | 0 => m
  | fuel + 1 =>
    if m.filled - m.place < lookahead && !m.isEnded then fillEnough fuel size (fill size m) else m

/-- The start of a text. -/
def start (text : ByteArray) : Matcher :=
  let filled := min text.size (2 * windowSize)
  let m : Matcher :=
    ⟨Array.replicate 0x8000 0, Array.replicate windowSize 0, 0, 0, filled, text.isEmpty, 0⟩
  let m := m.fillEnough 3 text.size
  { m with key := addKey (addKey 0 (m.byteAt text 0)) (m.byteAt text 1) }

/-- Notes the three bytes at a place, and gives one more than the place where they stood last. -/
def note (text : ByteArray) (p : Nat) (m : Matcher) : Nat × Matcher :=
  let key := addKey m.key (m.byteAt text (p + 2))
  let last := m.heads.getD key 0
  (last, { m with
    key := key, heads := m.heads.set! key (p + 1), links := m.links.set! (p % windowSize) last })

/-- Notes the three bytes at some places. -/
def noteAll (text : ByteArray) (count p : Nat) (m : Matcher) : Matcher :=
  match count with
  | 0 => m
  | count + 1 => noteAll text count (p + 1) (m.note text p).2

/-- The number of bytes from two places on that are the same, up to some number. -/
def common (text : ByteArray) (m : Matcher) (fuel a b : Nat) : Nat :=
  match fuel with
  | 0 => 0
  | fuel + 1 =>
    if m.byteAt text a == m.byteAt text b then common text m fuel (a + 1) (b + 1) + 1 else 0

/-- The longest copy among a chain of places, where it has to be longer than one that is known: its
length and where it stands. -/
def longestIn (text : ByteArray) (m : Matcher) (nice : Nat) (fuel : Nat) (last best found : Nat) :
    Nat × Nat :=
  match fuel with
  | 0 => (best, found)
  | fuel + 1 =>
    let p := last - 1
    let agrees := m.byteAt text (p + best) == m.byteAt text (m.place + best)
      && m.byteAt text (p + best - 1) == m.byteAt text (m.place + best - 1)
    let length := if agrees then m.common text longestCopy p m.place else 0
    let (best, found) := if best < length then (length, p) else (best, found)
    let next := m.links.getD (p % windowSize) 0
    if nice ≤ length && best == length then (best, found)
    else if max m.base (m.place - reach) + 1 < next then
      longestIn text m nice fuel next best found
    else (best, found)

/-- Whether a place, given as one more than it, can be copied from. -/
def canReach (m : Matcher) (last : Nat) : Bool :=
  m.base + 1 < last && m.place ≤ last - 1 + reach
    && m.place - m.base ≤ 2 * windowSize - lookahead

/-- The longest copy of what stands from the place on, which has to be longer than one that is
known. -/
def longest (text : ByteArray) (e : Effort) (m : Matcher) (last known found : Nat) : Nat × Nat :=
  let chain := if e.good ≤ known then e.chain / 4 else e.chain
  let (length, p) := m.longestIn text e.nice chain last known found
  (min length (m.filled - m.place), p)

end Matcher

/-- A part of a text, taken apart, from a place up to another one.  The bytes themselves are still
there if `isKept` says so. -/
structure Block where
  pieces : Array Lempel
  start : Nat
  stop : Nat
  isKept : Bool

/-- A block that grows: its pieces, how many of them are copies, how many bits the distances of those
need, and where it starts. -/
structure GrowingBlock where
  pieces : Array Lempel
  copies : Nat
  bits : Nat
  start : Nat

namespace GrowingBlock

/-- A block without pieces. -/
def empty (start : Nat) : GrowingBlock := ⟨#[], 0, 0, start⟩

/-- Adds a piece. -/
def push (b : GrowingBlock) (piece : Lempel) : GrowingBlock :=
  match piece with
  | .literal _ => { b with pieces := b.pieces.push piece }
  | .copy _ distance =>
    { b with
      pieces := b.pieces.push piece
      copies := b.copies + 1
      bits := b.bits + 5 + distanceBits.getD (distanceSymbol distance) 0 }

/-- Whether a block should end: it is full, or does well enough. -/
def isDone (b : GrowingBlock) (level place : Nat) : Bool :=
  let count := b.pieces.size
  (2 < level && count % 0x1000 == 0 && b.copies < count / 2
      && (count * 8 + b.bits) / 8 < (place - b.start) / 2)
    || count == 0x7FFF || b.copies == 0x8000

/-- The block up to a place. -/
def close (b : GrowingBlock) (m : Matcher) (stop : Nat) : Block :=
  ⟨b.pieces, b.start, stop, m.base ≤ b.start⟩

end GrowingBlock

namespace Lempel

/-- What is known while a text is taken apart: the blocks so far, the one that grows, and a copy or a
byte that waits for a longer copy at the next place. -/
structure Progress where
  matcher : Matcher
  blocks : Array Block
  block : GrowingBlock
  length : Nat
  found : Nat
  isWaiting : Bool

/-- Ends a block. -/
def Progress.closeIf (s : Progress) (isDone : Bool) : Progress :=
  if isDone then
    let place := s.matcher.place
    { s with blocks := s.blocks.push (s.block.close s.matcher place), block := .empty place }
  else s

/-- Goes one piece on, where the first copy is taken. -/
def hastyStep (text : ByteArray) (e : Effort) (s : Progress) : Progress :=
  let m := s.matcher
  let p := m.place
  let (last, m) := m.note text p
  let (length, found) := if m.canReach last then m.longest text e last 2 s.found else (0, s.found)
  if shortestCopy ≤ length then
    let block := s.block.push (.copy length (p - found))
    let isDone := block.isDone e.level p
    let m := if length ≤ e.lazy then { m.noteAll text (length - 1) (p + 1) with place := p + length }
      else
        { m with
          place := p + length
          key := Matcher.addKey (m.byteAt text (p + length)) (m.byteAt text (p + length + 1)) }
    { s with matcher := m, block := block, found := found : Progress }.closeIf isDone
  else
    let block := s.block.push (.literal (m.byteAt text p))
    let isDone := block.isDone e.level p
    { s with matcher := { m with place := p + 1 }, block := block, found := found : Progress }.closeIf isDone

/-- Goes one place on, or past a copy, where a copy waits for a longer one at the next place. -/
def lazyStep (text : ByteArray) (e : Effort) (s : Progress) : Progress :=
  let m := s.matcher
  let p := m.place
  let (last, m) := m.note text p
  let (oldLength, oldFound) := (s.length, s.found)
  let (length, found) :=
    if oldLength < e.lazy && m.canReach last then
      let (length, found) := m.longest text e last oldLength oldFound
      if length == shortestCopy && shortReach < p - found then (shortestCopy - 1, found)
      else (length, found)
    else (shortestCopy - 1, oldFound)
  if shortestCopy ≤ oldLength && length ≤ oldLength then
    let block := s.block.push (.copy oldLength (p - 1 - oldFound))
    let isDone := block.isDone e.level p
    let m := m.noteAll text (oldLength - 2) (p + 1)
    { s with
      matcher := { m with place := p + oldLength - 1 }, block := block
      length := shortestCopy - 1, found := found, isWaiting := false : Progress }.closeIf isDone
  else if s.isWaiting then
    let block := s.block.push (.literal (m.byteAt text (p - 1)))
    let isDone := block.isDone e.level p
    let s : Progress :=
      { s with matcher := m, block := block, length := length, found := found }.closeIf isDone
    { s with matcher := { s.matcher with place := p + 1 } }
  else
    { s with
      matcher := { m with place := p + 1 }, length := length, found := found, isWaiting := true }

/-- Goes on to the end. -/
def steps (text : ByteArray) (e : Effort) (fuel : Nat) (s : Progress) : Progress :=
  match fuel with
  | 0 => s
  | fuel + 1 =>
    if s.matcher.filled ≤ s.matcher.place then s
    else
      let s := if e.isHasty then hastyStep text e s else lazyStep text e s
      steps text e fuel { s with matcher := s.matcher.fillEnough 3 text.size }

/-- Takes a text apart, block by block. -/
def blocksOf (e : Effort) (text : ByteArray) : Array Block :=
  let start : Progress := ⟨.start text, #[], .empty 0, shortestCopy - 1, 0, false⟩
  let s := steps text e (text.size + 1) start
  let block := if s.isWaiting then
      s.block.push (.literal (s.matcher.byteAt text (s.matcher.place - 1)))
    else s.block
  s.blocks.push (block.close s.matcher s.matcher.place)

end Lempel

/-! ## Compressed data out of text -/

/-- The codes of a block: the lengths for bytes and lengths of copies, and those for distances. -/
structure CodeChoice where
  letters : Array Nat
  distances : Array Nat

/-- How often each symbol of a block occurs: bytes and lengths of copies, and distances. -/
def weightsOf (pieces : Array Lempel) : Array Nat × Array Nat :=
  let count (a : Array Nat) (n : Nat) : Array Nat := a.set! n (a.getD n 0 + 1)
  pieces.foldl (fun (letters, distances) piece =>
    match piece with
    | .literal byte => (count letters byte, distances)
    | .copy length distance =>
      (count letters (endSymbol + 1 + lengthSymbol length),
        count distances (distanceSymbol distance)))
    ((Array.replicate 286 0).set! endSymbol 1, Array.replicate 30 0)

/-- Weights of which at least two are not nought. -/
def withTwo (weights : Array Nat) : Array Nat :=
  let used := (List.range weights.size).filter fun n => weights.getD n 0 != 0
  match used with
  | [] => (weights.set! 0 1).set! 1 1
  | [n] => weights.set! (if n < 2 then n + 1 else 0) 1
  | _ => weights

/-- The number of symbols up to the last one that has a code. -/
def usedSize (lengths : Array Nat) (least : Nat) : Nat :=
  max least ((lengths.foldl (fun (k, last) n => (k + 1, if n == 0 then last else k + 1)) (0, 0)).2)

/-- The bits of a block after its codes. -/
def bitsOf (weights : Array Nat × Array Nat) (choice : CodeChoice) : Nat :=
  let letters := (List.range weights.1.size).foldl (fun sum n =>
    let more := if endSymbol < n then lengthBits.getD (n - endSymbol - 1) 0 else 0
    sum + weights.1.getD n 0 * (choice.letters.getD n 0 + more)) 0
  (List.range weights.2.size).foldl (fun sum n =>
    sum + weights.2.getD n 0 * (choice.distances.getD n 0 + distanceBits.getD n 0)) letters

/-- A number for the lengths of codes, with some bits of another number after it. -/
structure LengthWord where
  symbol : Nat
  more : Nat
  bits : Nat

/-- The words for some equal lengths in a row, of which the one before is known. -/
def wordsOfRun (least : Nat) (previous : Option Nat) (length count : Nat) : List LengthWord :=
  let plain : LengthWord := ⟨length, 0, 0⟩
  if count < least then List.replicate count plain
  else if length != 0 then
    if previous == some length then [⟨16, count - 3, 2⟩] else [plain, ⟨16, count - 4, 2⟩]
  else if count ≤ 10 then [⟨17, count - 3, 3⟩]
  else [⟨18, count - 11, 7⟩]

/-- The words for lengths, where some equal ones at the end have been counted. -/
def wordsFrom (previous : Option Nat) (most least count : Nat) : List Nat → List LengthWord
  | [] => []
  | n :: rest =>
    let count := count + 1
    let next := rest.head?
    if count < most && next == some n then wordsFrom previous most least count rest
    else
      let (most, following) :=
        if next == some 0 then (138, 3) else if next == some n then (6, 3) else (7, 4)
      wordsOfRun least previous n count ++ wordsFrom (some n) most following 0 rest

/-- The words for lengths. -/
def lengthWords (lengths : List Nat) : List LengthWord :=
  if lengths.head? == some 0 then wordsFrom none 138 3 0 lengths else wordsFrom none 7 4 0 lengths

/-- Writes the pieces of a block. -/
def putPieces (choice : CodeChoice) (pieces : Array Lempel) (s : BitSink) : BitSink :=
  let letters := codesOf choice.letters
  let distances := codesOf choice.distances
  let putLetter (s : BitSink) (n : Nat) : BitSink :=
    s.put (letters.getD n 0) (choice.letters.getD n 0)
  let s := pieces.foldl (fun s piece =>
    match piece with
    | .literal byte => putLetter s byte
    | .copy length distance =>
      let k := lengthSymbol length
      let s := putLetter s (endSymbol + 1 + k)
      let s := s.put (length - lengthBases.getD k 0) (lengthBits.getD k 0)
      let far := distanceSymbol distance
      let s := s.put (distances.getD far 0) (choice.distances.getD far 0)
      s.put (distance - distanceBases.getD far 0) (distanceBits.getD far 0)) s
  putLetter s endSymbol

/-- Writes a block in the shortest of three ways. -/
def putBlock (text : ByteArray) (b : Block) (isLast : Bool) (s : BitSink) : BitSink :=
  let weights := weightsOf b.pieces
  let own : CodeChoice :=
    ⟨CodeTree.lengthsOf 15 (withTwo weights.1), CodeTree.lengthsOf 15 (withTwo weights.2)⟩
  let agreed : CodeChoice := ⟨agreedLengths, agreedDistances⟩
  let letterSize := usedSize own.letters 257
  let distanceSize := usedSize own.distances 1
  let words := lengthWords (own.letters.extract 0 letterSize).toList
    ++ lengthWords (own.distances.extract 0 distanceSize).toList
  let wordWeights := words.foldl (fun (a : Array Nat) w =>
    a.set! w.symbol (a.getD w.symbol 0 + 1)) (Array.replicate 19 0)
  let wordLengths := CodeTree.lengthsOf 7 (withTwo wordWeights)
  let wordCount := max 4 (lengthOrder.zipIdx.foldl (fun last (n, k) =>
    if wordLengths.getD n 0 == 0 then last else k + 1) 0)
  let wordBits := words.foldl (fun sum w => sum + wordLengths.getD w.symbol 0 + w.bits) 0
  let toBytes (bits : Nat) : Nat := (bits + 3 + 7) / 8
  let ownBytes := toBytes (bitsOf weights own + wordBits + 3 * wordCount + 14)
  let agreedBytes := toBytes (bitsOf weights agreed)
  let last := if isLast then 1 else 0
  let size := b.stop - b.start
  if size + 4 ≤ min ownBytes agreedBytes && b.isKept then
    let s := (s.put last 3).align
    let s := (s.put size 16).put (0xFFFF - size) 16
    s.putBytes (text.extract b.start b.stop)
  else if agreedBytes ≤ ownBytes then putPieces agreed b.pieces (s.put (2 + last) 3)
  else
    let s := (((s.put (4 + last) 3).put (letterSize - 257) 5).put (distanceSize - 1) 5).put
      (wordCount - 4) 4
    let s := (lengthOrder.take wordCount).foldl (fun s n => s.put (wordLengths.getD n 0) 3) s
    let codes := codesOf wordLengths
    let s := words.foldl (fun s w =>
      (s.put (codes.getD w.symbol 0) (wordLengths.getD w.symbol 0)).put w.more w.bits) s
    putPieces own b.pieces s

/-- Compresses a text. -/
def deflate (level : Nat) (text : ByteArray) : ByteArray :=
  let blocks := Lempel.blocksOf (.ofLevel level) text
  let s := (List.range blocks.size).foldl (fun s k =>
    match blocks[k]? with
    | some b => putBlock text b (k + 1 == blocks.size) s
    | none => s) BitSink.empty
  s.align.bytes

end Flowscript.Compression
