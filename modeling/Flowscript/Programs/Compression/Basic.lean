import Flowscript.Instances

/-!
# Compressed data and its codes

The parts of compressed data, and how the lengths of codes are written.

* `BitSink` gathers bits into bytes, the least bit of a byte first, and `BitSource` takes them out.
* `Lempel` is a piece of text: a byte, or a copy of what came before.
* `lengthSymbol` and `distanceSymbol` are the symbols that stand for copies, with some more bits.
* `CodeTree.lengthsOf` gives each symbol a code that is the shorter the more often the symbol
  occurs, and no longer than some number of bits.
* `codesOf` are the codes of given lengths, as they are written.
-/

set_option autoImplicit false

namespace Flowscript.Compression

/-! ## Bits and the words of compressed data -/

/-- Bytes that are put together bit by bit, with the bits that do not fill one yet. -/
structure BitSink where
  bytes : ByteArray
  held : Nat
  count : Nat

namespace BitSink

/-- Nothing yet. -/
def empty : BitSink := ⟨.empty, 0, 0⟩

/-- Takes full bytes off some bits. -/
def settle (fuel : Nat) (s : BitSink) : BitSink :=
  match fuel with
  | 0 => s
  | fuel + 1 =>
    if s.count < 8 then s
    else settle fuel ⟨s.bytes.push (UInt8.ofNat (s.held % 256)), s.held / 256, s.count - 8⟩

/-- Adds some bits of a number, the least first. -/
def put (s : BitSink) (value count : Nat) : BitSink :=
  settle 8 ⟨s.bytes, s.held + value % 2 ^ count * 2 ^ s.count, s.count + count⟩

/-- Fills the last byte up. -/
def align (s : BitSink) : BitSink := if s.count == 0 then s else s.put 0 (8 - s.count)

/-- Adds bytes to whole bytes. -/
def putBytes (s : BitSink) (bytes : ByteArray) : BitSink := { s with bytes := s.bytes ++ bytes }

end BitSink

/-- Bytes out of which bits are taken from a place on. -/
structure BitSource where
  bytes : ByteArray
  place : Nat

namespace BitSource

/-- Takes a bit, if there is one. -/
def bit? (s : BitSource) : Option (Nat × BitSource) :=
  match s.bytes[s.place / 8]? with
  | none => none
  | some b => some (b.toNat / 2 ^ (s.place % 8) % 2, { s with place := s.place + 1 })

/-- Takes some bits as a number, the least first. -/
def bits? (s : BitSource) (count : Nat) : Option (Nat × BitSource) :=
  match count with
  | 0 => some (0, s)
  | count + 1 => do
    let (low, s) ← s.bit?
    let (high, s) ← s.bits? count
    return (low + 2 * high, s)

/-- Goes to the next whole byte. -/
def align (s : BitSource) : BitSource := { s with place := (s.place + 7) / 8 * 8 }

end BitSource

/-- A piece of text: a byte, or a copy of what stands some distance before. -/
inductive Lempel where
  | literal (byte : Nat)
  | copy (length distance : Nat)
  deriving DecidableEq, Repr

/-- The shortest and the longest copy, and the farthest one. -/
def shortestCopy : Nat := 3
def longestCopy : Nat := 258
def windowSize : Nat := 32768

/-- The symbol for the end of a block; those of lengths come after it. -/
def endSymbol : Nat := 256

/-- The bits that come after the symbol of a length. -/
def lengthBits : Array Nat :=
  #[0, 0, 0, 0, 0, 0, 0, 0, 1, 1, 1, 1, 2, 2, 2, 2, 3, 3, 3, 3, 4, 4, 4, 4, 5, 5, 5, 5, 0]

/-- The least lengths of symbols. -/
def lengthBases : Array Nat :=
  #[3, 4, 5, 6, 7, 8, 9, 10, 11, 13, 15, 17, 19, 23, 27, 31, 35, 43, 51, 59, 67, 83, 99, 115, 131,
    163, 195, 227, 258]

/-- The bits that come after the symbol of a distance. -/
def distanceBits : Array Nat := (Array.range 30).map fun k => (k - 2) / 2

/-- The least distances of symbols. -/
def distanceBases : Array Nat :=
  (Array.range 30).map fun k => if k < 4 then k + 1 else (2 + k % 2) * 2 ^ ((k - 2) / 2) + 1

/-- The last place of a list at which there is at most some number. -/
def lastAtMost (a : Array Nat) (n : Nat) : Nat :=
  (a.foldl (fun (i, found) m => (i + 1, if m ≤ n then i else found)) (0, 0)).2

/-- The symbols of all lengths, from the shortest one on. -/
def lengthSymbols : Array Nat := (Array.range 256).map fun n => lastAtMost lengthBases (n + 3)

/-- The symbol of a length, counted from the first symbol of one. -/
def lengthSymbol (length : Nat) : Nat := lengthSymbols.getD (length - shortestCopy) 0

/-- The symbol of a distance. -/
def distanceSymbol (distance : Nat) : Nat :=
  let n := distance - 1
  if n < 4 then n
  else
    let size := n.log2
    2 * size + n / 2 ^ (size - 1) % 2

/-- The order in which the lengths of the codes for lengths are written. -/
def lengthOrder : List Nat := [16, 17, 18, 0, 8, 7, 9, 6, 10, 5, 11, 4, 12, 3, 13, 2, 14, 1, 15]

/-- The lengths of codes that are agreed on: of lengths and bytes, and of distances. -/
def agreedLengths : Array Nat :=
  (Array.range 288).map fun n => if n < 144 then 8 else if n < 256 then 9 else if n < 280 then 7 else 8
def agreedDistances : Array Nat := Array.replicate 30 5

/-! ## Codes of different lengths -/

/-- A tree of codes that is built up from below.  The nodes that have no parent yet stand in a heap;
those that have one are listed, the last one first. -/
structure CodeTree where
  weight : Array Nat
  depth : Array Nat
  parent : Array Nat
  heap : Array Nat
  joined : List Nat

namespace CodeTree

/-- Whether a node comes before another one: it is lighter, or as light and not deeper. -/
def comesBefore (t : CodeTree) (a b : Nat) : Bool :=
  let (v, w) := (t.weight.getD a 0, t.weight.getD b 0)
  v < w || (v == w && t.depth.getD a 0 ≤ t.depth.getD b 0)

/-- Lets a node sink in the heap from a place on. -/
def sink (fuel : Nat) (t : CodeTree) (place node : Nat) : CodeTree :=
  match fuel with
  | 0 => t
  | fuel + 1 =>
    let left := 2 * place + 1
    if left < t.heap.size then
      let right := left + 1
      let child := if right < t.heap.size
          && t.comesBefore (t.heap.getD right 0) (t.heap.getD left 0) then right else left
      let other := t.heap.getD child 0
      if t.comesBefore node other then { t with heap := t.heap.set! place node }
      else sink fuel { t with heap := t.heap.set! place other } child node
    else { t with heap := t.heap.set! place node }

/-- Lets the node at a place sink. -/
def sinkAt (t : CodeTree) (place : Nat) : CodeTree :=
  sink (t.heap.size + 1) t place (t.heap.getD place 0)

/-- Takes the first node off the heap. -/
def takeFirst (t : CodeTree) : Nat × CodeTree :=
  let first := t.heap.getD 0 0
  let last := t.heap.getD (t.heap.size - 1) 0
  (first, ({ t with heap := t.heap.pop.set! 0 last }).sinkAt 0)

/-- Joins the two first nodes until one is left. -/
def join (fuel : Nat) (t : CodeTree) : CodeTree :=
  match fuel with
  | 0 => t
  | fuel + 1 =>
    if t.heap.size < 2 then { t with joined := t.heap.getD 0 0 :: t.joined }
    else
      let (a, t) := t.takeFirst
      let b := t.heap.getD 0 0
      let node := t.weight.size
      let depth := max (t.depth.getD a 0) (t.depth.getD b 0) + 1
      join fuel (({ t with
        weight := t.weight.push (t.weight.getD a 0 + t.weight.getD b 0)
        depth := t.depth.push depth
        parent := ((t.parent.push 0).set! a node).set! b node
        heap := t.heap.set! 0 node
        joined := b :: a :: t.joined }).sinkAt 0)

/-- The tree of symbols that occur so often, of which there are at least two. -/
def ofWeights (weights : Array Nat) : CodeTree :=
  let used := (List.range weights.size).filter fun n => weights.getD n 0 != 0
  let none := Array.replicate weights.size 0
  let start : CodeTree := ⟨weights, none, none, used.toArray, []⟩
  let heaped := (List.range (used.length / 2)).reverse.foldl (fun t k => t.sinkAt k) start
  heaped.join (used.length + 1)

/-- Shortens the longest codes of some length, of which there are too many, in pairs. -/
def shorten (most : Nat) (counts : Array Nat) (extra : Nat) : Array Nat :=
  (List.range ((extra + 1) / 2)).foldl (fun counts _ =>
    let bits := ((List.range most).reverse.find? fun b => counts.getD b 0 != 0).getD 0
    let counts := counts.set! bits (counts.getD bits 0 - 1)
    let counts := counts.set! (bits + 1) (counts.getD (bits + 1) 0 + 2)
    counts.set! most (counts.getD most 0 - 1)) counts

/-- The lengths of the codes of symbols that occur so often, of which there are at least two. -/
def lengthsOf (most : Nat) (weights : Array Nat) : Array Nat :=
  let t := ofWeights weights
  let isLeaf (n : Nat) : Bool := n < weights.size
  let step (s : Array Nat × Array Nat × Nat) (n : Nat) : Array Nat × Array Nat × Nat :=
    let (lengths, counts, extra) := s
    let bits := lengths.getD (t.parent.getD n 0) 0 + 1
    let (bits, extra) := if most < bits then (most, extra + 1) else (bits, extra)
    let counts := if isLeaf n then counts.set! bits (counts.getD bits 0 + 1) else counts
    (lengths.set! n bits, counts, extra)
  let none := Array.replicate t.weight.size 0
  let (lengths, counts, extra) :=
    t.joined.tail.foldl step (none, Array.replicate (most + 2) 0, 0)
  if extra == 0 then lengths.extract 0 weights.size
  else
    let counts := shorten most counts extra
    let leaves := t.joined.reverse.filter isLeaf
    let wanted := (List.range most).reverse.flatMap fun b =>
      List.replicate (counts.getD (b + 1) 0) (b + 1)
    (leaves.zip wanted).foldl (fun lengths (n, bits) => lengths.set! n bits)
      (Array.replicate weights.size 0)

end CodeTree

/-- The number whose bits are those of another one in reverse. -/
def reversed (count n : Nat) : Nat :=
  match count with
  | 0 => 0
  | count + 1 => n % 2 * 2 ^ count + reversed count (n / 2)

/-- How many codes have each length up to fifteen. -/
def countsOf (lengths : Array Nat) : Array Nat :=
  lengths.foldl (fun counts n => if n == 0 then counts else counts.set! n (counts.getD n 0 + 1))
    (Array.replicate 16 0)

/-- The codes of given lengths, the first bit as the least one. -/
def codesOf (lengths : Array Nat) : Array Nat :=
  let counts := countsOf lengths
  let starts := (List.range 15).foldl (fun (starts : Array Nat) b =>
    starts.push ((starts.getD b 0 + counts.getD b 0) * 2)) #[0]
  let step (s : Array Nat × Array Nat) (n : Nat) : Array Nat × Array Nat :=
    let code := s.2.getD n 0
    (s.1.push (reversed n code), s.2.set! n (code + 1))
  (lengths.foldl step (#[], starts)).1

end Flowscript.Compression
