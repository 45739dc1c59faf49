import Flowscript.Text.Octets

/-!
# Digests

Digests and checksums of bytes: what they share, and then one family after the other.

* `Digest.blocks` cuts a text into blocks of sixteen words, after its length has been put at its
  end.
* `Digest.hexDigits` writes bytes as digits to the base sixteen.
* `Digest.md5` is the digest of a text.
* `Digest.sha1` is the digest of a text.
* `Sha2` is one of them: how wide its words are, how they are mixed, and with what it begins.
* `Sha2.digest` is the digest of a text.
* `Digest.blake2` is the digest of a text, of some bytes.
* `Digest.crc` is the remainder of a text and its length by a polynomial.
* `Digest.turningSum` and `Digest.plainSum` are sums of bytes.
* `Digest.archiveSum` is the remainder that compressed files carry.
-/

set_option autoImplicit false

namespace Flowscript.Digest

/-! ## Words and blocks of digests

A digest goes through the blocks; a block changes a few words, which are the digest in the end. -/

/-- Turns a word to the left. -/
def rotate (x : UInt32) (count : Nat) : UInt32 :=
  (x <<< UInt32.ofNat count) ||| (x >>> UInt32.ofNat (32 - count))

/-- Some bytes of a number, the greatest first. -/
def numberBytes (count n : Nat) : List Nat :=
  ((List.range count).map fun i => n / 256 ^ i % 256).reverse

/-- The number that bytes make up, the greatest first. -/
def bytesNumber (bytes : List Nat) : Nat := bytes.foldl (fun n b => n * 256 + b) 0

/-- Groups of some length. -/
def groupsOf {α : Type} (size fuel : Nat) (all : List α) : List (List α) :=
  match fuel with
  | 0 => []
  | fuel + 1 => if all.isEmpty then [] else all.take size :: groupsOf size fuel (all.drop size)

/-- The blocks of a text, each of sixteen words of some bytes: after the text come a bit that is set,
zeros, and the number of its bits. -/
def blocks (wordBytes : Nat) (greatestFirst : Bool) (o : Octets) : List (List Nat) :=
  let size := 16 * wordBytes
  let lengthBytes := 2 * wordBytes
  let count := o.length
  let zeros := (2 * size - 1 - lengthBytes - count % size) % size
  let length := numberBytes lengthBytes (8 * count)
  let bytes := o.map Char.toNat ++ 0x80 :: List.replicate zeros 0
    ++ if greatestFirst then length else length.reverse
  let words := (groupsOf wordBytes (bytes.length + 1) bytes).map fun word =>
    bytesNumber (if greatestFirst then word else word.reverse)
  groupsOf 16 (words.length + 1) words

/-- The blocks of a text whose words have four bytes. -/
def narrowBlocks (greatestFirst : Bool) (o : Octets) : List (Array UInt32) :=
  (blocks 4 greatestFirst o).map fun block => (block.map UInt32.ofNat).toArray

/-- Bytes as digits to the base sixteen. -/
def hexDigits (bytes : List Nat) : Octets :=
  bytes.flatMap fun b => [Nat.digitChar (b / 16), Nat.digitChar (b % 16)]

/-- The word at a place. -/
def wordAt (a : Array UInt32) (i : Nat) : UInt32 := a.getD i 0

/-! ## The digest MD5 -/

/-- The whole part of `2 ^ 32 * |sin (i + 1)|`, with angles in radians. -/
def sines : Array UInt32 :=
  #[0xd76aa478, 0xe8c7b756, 0x242070db, 0xc1bdceee, 0xf57c0faf, 0x4787c62a,
    0xa8304613, 0xfd469501, 0x698098d8, 0x8b44f7af, 0xffff5bb1, 0x895cd7be,
    0x6b901122, 0xfd987193, 0xa679438e, 0x49b40821, 0xf61e2562, 0xc040b340,
    0x265e5a51, 0xe9b6c7aa, 0xd62f105d, 0x02441453, 0xd8a1e681, 0xe7d3fbc8,
    0x21e1cde6, 0xc33707d6, 0xf4d50d87, 0x455a14ed, 0xa9e3e905, 0xfcefa3f8,
    0x676f02d9, 0x8d2a4c8a, 0xfffa3942, 0x8771f681, 0x6d9d6122, 0xfde5380c,
    0xa4beea44, 0x4bdecfa9, 0xf6bb4b60, 0xbebfbc70, 0x289b7ec6, 0xeaa127fa,
    0xd4ef3085, 0x04881d05, 0xd9d4d039, 0xe6db99e5, 0x1fa27cf8, 0xc4ac5665,
    0xf4292244, 0x432aff97, 0xab9423a7, 0xfc93a039, 0x655b59c3, 0x8f0ccc92,
    0xffeff47d, 0x85845dd1, 0x6fa87e4f, 0xfe2ce6e0, 0xa3014314, 0x4e0811a1,
    0xf7537e82, 0xbd3af235, 0x2ad7d2bb, 0xeb86d391]

/-- How far words are turned in each of the four rounds. -/
def turns : Array (Array Nat) :=
  #[#[7, 12, 17, 22], #[5, 9, 14, 20], #[4, 11, 16, 23], #[6, 10, 15, 21]]

/-- What one step makes of four words. -/
def md5Step (block : Array UInt32) (s : UInt32 × UInt32 × UInt32 × UInt32) (i : Nat) :
    UInt32 × UInt32 × UInt32 × UInt32 :=
  let (a, b, c, d) := s
  let (f, place) :=
    match i / 16 with
    | 0 => ((b &&& c) ||| (~~~b &&& d), i)
    | 1 => ((d &&& b) ||| (~~~d &&& c), (5 * i + 1) % 16)
    | 2 => (b ^^^ c ^^^ d, (3 * i + 5) % 16)
    | _ => (c ^^^ (b ||| ~~~d), 7 * i % 16)
  let turn := ((turns.getD (i / 16) #[]).getD (i % 4) 0)
  (d, b + rotate (a + f + wordAt sines i + wordAt block place) turn, b, c)

/-- The bytes of the digest of a text by the rules of MD5. -/
def md5 (o : Octets) : List Nat :=
  let (a, b, c, d) := (narrowBlocks false o).foldl (fun (a, b, c, d) block =>
    let (p, q, r, s) := (List.range 64).foldl (md5Step block) (a, b, c, d)
    (a + p, b + q, c + r, d + s)) (0x67452301, 0xefcdab89, 0x98badcfe, 0x10325476)
  [a, b, c, d].flatMap fun x => (numberBytes 4 x.toNat).reverse

/-! ## The digest SHA-1 -/

/-- More words from those of a block, each from four before it. -/
def sha1Words (block : Array UInt32) : Array UInt32 :=
  (List.range 64).foldl (fun w _ =>
    let n := w.size
    let mixed := wordAt w (n - 3) ^^^ wordAt w (n - 8) ^^^ wordAt w (n - 14) ^^^ wordAt w (n - 16)
    w.push (rotate mixed 1)) block

/-- What one step makes of five words. -/
def sha1Step (w : Array UInt32) (s : UInt32 × UInt32 × UInt32 × UInt32 × UInt32) (i : Nat) :
    UInt32 × UInt32 × UInt32 × UInt32 × UInt32 :=
  let (a, b, c, d, e) := s
  let (f, k) : UInt32 × UInt32 :=
    match i / 20 with
    | 0 => ((b &&& c) ||| (~~~b &&& d), 0x5a827999)
    | 1 => (b ^^^ c ^^^ d, 0x6ed9eba1)
    | 2 => ((b &&& c) ||| (b &&& d) ||| (c &&& d), 0x8f1bbcdc)
    | _ => (b ^^^ c ^^^ d, 0xca62c1d6)
  (rotate a 5 + f + e + k + wordAt w i, a, rotate b 30, c, d)

/-- The bytes of the digest of a text by the rules of SHA-1. -/
def sha1 (o : Octets) : List Nat :=
  let (a, b, c, d, e) := (narrowBlocks true o).foldl (fun (a, b, c, d, e) block =>
    let (p, q, r, s, t) := (List.range 80).foldl (sha1Step (sha1Words block)) (a, b, c, d, e)
    (a + p, b + q, c + r, d + s, e + t))
    (0x67452301, 0xefcdab89, 0x98badcfe, 0x10325476, 0xc3d2e1f0)
  [a, b, c, d, e].flatMap fun x => numberBytes 4 x.toNat

/-! ## The digests SHA-2

The words to begin with, and those that are added, are the first bits after the point of roots of
prime numbers. -/

/-! ### Roots of prime numbers -/

/-- The first `count` prime numbers. -/
def primes (count : Nat) : List Nat :=
  ((List.range 410).filter fun n =>
    2 ≤ n && (List.range n).all fun d => d < 2 || n % d != 0).take count

/-- The greatest number of some bits whose power does not exceed `n`. -/
def rootBelow (power n bits : Nat) : Nat :=
  (List.range bits).foldl (fun r i =>
    let next := r + 2 ^ (bits - 1 - i)
    if next ^ power ≤ n then next else r) 0

/-- The first bits after the point of a root of a number. -/
def rootFraction (bits power n : Nat) : Nat :=
  rootBelow power (n * 2 ^ (bits * power)) (bits + 8) % 2 ^ bits

/-- Words from the cube roots of prime numbers. -/
def cubeRoots : Array Nat := ((primes 80).map (rootFraction 64 3)).toArray

/-- Words from the square roots of prime numbers. -/
def squareRoots : Array Nat := ((primes 16).map (rootFraction 64 2)).toArray

/-! ### Rounds -/

/-- How bits are mixed: a word is turned by two numbers, and by a third one or moved by it. -/
structure Mixing where
  first : Nat
  second : Nat
  third : Nat
  isMoved : Bool

/-- A digest: the bits of a word, how many rounds a block takes, how words are mixed, the words to
begin with, and the bytes of the result. -/
structure Sha2 where
  bits : Nat
  rounds : Nat
  early : Mixing
  late : Mixing
  high : Mixing
  low : Mixing
  start : Array Nat
  size : Nat

namespace Sha2

/-- Turns a word to the right. -/
def turn (d : Sha2) (x count : Nat) : Nat :=
  (x >>> count) ||| ((x <<< (d.bits - count)) % 2 ^ d.bits)

/-- Mixes the bits of a word. -/
def mix (d : Sha2) (m : Mixing) (x : Nat) : Nat :=
  d.turn x m.first ^^^ d.turn x m.second
    ^^^ (if m.isMoved then x >>> m.third else d.turn x m.third)

/-- More words from those of a block, each from four before it. -/
def words (d : Sha2) (block : List Nat) : Array Nat :=
  (List.range (d.rounds - 16)).foldl (fun w _ =>
    let n := w.size
    let before (i : Nat) : Nat := w.getD (n - i) 0
    w.push ((before 16 + d.mix d.early (before 15) + before 7 + d.mix d.late (before 2))
      % 2 ^ d.bits)) block.toArray

/-- The words that are added, one for each round. -/
def constant (d : Sha2) (i : Nat) : Nat := cubeRoots.getD i 0 >>> (64 - d.bits)

/-- What one round makes of eight words. -/
def round (d : Sha2) (w s : Array Nat) (i : Nat) : Array Nat :=
  let word (i : Nat) : Nat := s.getD i 0
  let a := word 0
  let e := word 4
  let most := 2 ^ d.bits - 1
  let choice := (e &&& word 5) ^^^ ((e ^^^ most) &&& word 6)
  let majority := (a &&& word 1) ^^^ (a &&& word 2) ^^^ (word 1 &&& word 2)
  let first := word 7 + d.mix d.high e + choice + d.constant i + w.getD i 0
  #[(first + d.mix d.low a + majority) % 2 ^ d.bits, a, word 1, word 2,
    (word 3 + first) % 2 ^ d.bits, e, word 5, word 6]

/-- The bytes of the digest of a text. -/
def digest (d : Sha2) (o : Octets) : List Nat :=
  let state := (blocks (d.bits / 8) true o).foldl (fun s block =>
    let next := (List.range d.rounds).foldl (d.round (d.words block)) s
    (Array.range 8).map fun i => (s.getD i 0 + next.getD i 0) % 2 ^ d.bits) d.start
  (state.toList.flatMap (numberBytes (d.bits / 8))).take d.size

/-- Words of 32 bits. -/
def narrow (start : Array Nat) (size : Nat) : Sha2 :=
  ⟨32, 64, ⟨7, 18, 3, true⟩, ⟨17, 19, 10, true⟩, ⟨6, 11, 25, false⟩, ⟨2, 13, 22, false⟩, start, size⟩

/-- Words of 64 bits. -/
def wide (start : Array Nat) (size : Nat) : Sha2 :=
  ⟨64, 80, ⟨1, 8, 7, true⟩, ⟨19, 61, 6, true⟩, ⟨14, 18, 41, false⟩, ⟨28, 34, 39, false⟩, start, size⟩

/-- The digest of 224 bits. -/
def sha224 : Sha2 := narrow ((squareRoots.extract 8 16).map (· % 2 ^ 32)) 28

/-- The digest of 256 bits. -/
def sha256 : Sha2 := narrow ((squareRoots.extract 0 8).map (· >>> 32)) 32

/-- The digest of 384 bits. -/
def sha384 : Sha2 := wide (squareRoots.extract 8 16) 48

/-- The digest of 512 bits. -/
def sha512 : Sha2 := wide (squareRoots.extract 0 8) 64

end Sha2

/-! ## The digest BLAKE2b -/

/-- Turns a word to the right. -/
def turnWide (x : UInt64) (count : Nat) : UInt64 :=
  (x >>> UInt64.ofNat count) ||| (x <<< UInt64.ofNat (64 - count))

/-- In which order each of ten rounds takes the words of a block. -/
def blockOrders : Array (Array Nat) :=
  #[#[0, 1, 2, 3, 4, 5, 6, 7, 8, 9, 10, 11, 12, 13, 14, 15],
    #[14, 10, 4, 8, 9, 15, 13, 6, 1, 12, 0, 2, 11, 7, 5, 3],
    #[11, 8, 12, 0, 5, 2, 15, 13, 10, 14, 3, 6, 7, 1, 9, 4],
    #[7, 9, 3, 1, 13, 12, 11, 14, 2, 6, 5, 10, 4, 0, 15, 8],
    #[9, 0, 5, 7, 2, 4, 10, 15, 14, 1, 11, 12, 6, 8, 3, 13],
    #[2, 12, 6, 10, 0, 11, 8, 3, 4, 13, 7, 5, 15, 14, 1, 9],
    #[12, 5, 1, 15, 14, 13, 4, 10, 0, 7, 6, 3, 9, 2, 8, 11],
    #[13, 11, 7, 14, 12, 1, 3, 9, 5, 0, 15, 4, 8, 6, 2, 10],
    #[6, 15, 14, 9, 11, 3, 0, 8, 12, 2, 13, 7, 1, 4, 10, 5],
    #[10, 2, 8, 4, 7, 6, 1, 5, 15, 11, 9, 14, 3, 12, 13, 0]]

/-- The places of four words that are mixed with one another: columns, then diagonals. -/
def mixedPlaces : List (Nat × Nat × Nat × Nat) :=
  [(0, 4, 8, 12), (1, 5, 9, 13), (2, 6, 10, 14), (3, 7, 11, 15),
    (0, 5, 10, 15), (1, 6, 11, 12), (2, 7, 8, 13), (3, 4, 9, 14)]

/-- Mixes four words with two of a block. -/
def mixFour (v : Array UInt64) (places : Nat × Nat × Nat × Nat) (x y : UInt64) :
    Array UInt64 :=
  let (i, j, k, l) := places
  let half (s : UInt64 × UInt64 × UInt64 × UInt64) (x : UInt64) (p q : Nat) :
      UInt64 × UInt64 × UInt64 × UInt64 :=
    let (a, b, c, d) := s
    let a := a + b + x
    let d := turnWide (d ^^^ a) p
    let c := c + d
    (a, turnWide (b ^^^ c) q, c, d)
  let s := half (v.getD i 0, v.getD j 0, v.getD k 0, v.getD l 0) x 32 24
  let (a, b, c, d) := half s y 16 63
  (((v.set! i a).set! j b).set! k c).set! l d

/-- The words to begin with. -/
def blakeStart : Array UInt64 := (squareRoots.extract 0 8).map UInt64.ofNat

/-- What a block makes of eight words; `count` bytes have been gone through with it. -/
def blakeBlock (h : Array UInt64) (block : Array UInt64) (count : Nat) (isLast : Bool) :
    Array UInt64 :=
  let v := h ++ blakeStart
  let v := v.modify 12 (· ^^^ UInt64.ofNat count)
  let v := if isLast then v.modify 14 (~~~ ·) else v
  let v := (List.range 12).foldl (fun v round =>
    let order := blockOrders.getD (round % 10) #[]
    mixedPlaces.zipIdx.foldl (fun v (places, i) =>
      mixFour v places (block.getD (order.getD (2 * i) 0) 0)
        (block.getD (order.getD (2 * i + 1) 0) 0)) v) v
  (Array.range 8).map fun i => h.getD i 0 ^^^ v.getD i 0 ^^^ v.getD (i + 8) 0

/-- The bytes of the digest of a text, so many of them. -/
def blake2 (size : Nat) (o : Octets) : List Nat :=
  let groups := groupsOf 128 (o.length + 1) (o.map Char.toNat)
  let groups := if groups.isEmpty then [[]] else groups
  let start := blakeStart.modify 0 (· ^^^ UInt64.ofNat (0x01010000 + size))
  let state := groups.zipIdx.foldl (fun h (group, i) =>
    let isLast := i + 1 == groups.length
    let padded := group ++ List.replicate (128 - group.length) 0
    let block := (groupsOf 8 17 padded).map fun word => UInt64.ofNat (bytesNumber word.reverse)
    blakeBlock h block.toArray (128 * i + group.length) isLast) start
  (state.toList.flatMap fun x => (numberBytes 8 x.toNat).reverse).take size

/-! ## Checksums -/

/-- The remainder of one byte, the greatest bit first. -/
def crcOfByte (byte : Nat) : UInt32 :=
  (List.range 8).foldl (fun (sum : UInt32) _ =>
    if sum >>> 31 == 1 then (sum <<< 1) ^^^ 0x04C11DB7 else sum <<< 1) (UInt32.ofNat byte <<< 24)

/-- The remainders of all bytes. -/
def crcTable : Array UInt32 := (Array.range 256).map crcOfByte

/-- One step of the remainder. -/
def crcStep (sum : UInt32) (byte : Nat) : UInt32 :=
  (sum <<< 8) ^^^ crcTable.getD ((sum >>> 24).toNat ^^^ byte) 0

/-- The bytes of a length, the least first. -/
def lengthBytes (fuel n : Nat) : List Nat :=
  match fuel with
  | 0 => []
  | fuel + 1 => if n == 0 then [] else n % 256 :: lengthBytes fuel (n / 256)

/-- The remainder of a text and its length. -/
def crc (o : Octets) : Nat :=
  let sum := o.foldl (fun sum c => crcStep sum c.toNat) 0
  ((lengthBytes 8 o.length).foldl crcStep sum ^^^ 0xFFFFFFFF).toNat

/-- A sum of 16 bits that is turned to the right before each byte. -/
def turningSum (o : Octets) : Nat :=
  o.foldl (fun sum c => (sum / 2 + sum % 2 * 0x8000 + c.toNat) % 0x10000) 0

/-- The sum of all bytes in 16 bits, to which what does not fit is added. -/
def plainSum (o : Octets) : Nat :=
  let sum := o.foldl (fun sum c => (sum + c.toNat) % 2 ^ 32) 0
  let once := sum % 0x10000 + sum / 0x10000
  once % 0x10000 + once / 0x10000

/-- The remainder of one byte, the least bit first. -/
def archiveSumOfByte (byte : Nat) : UInt32 :=
  (List.range 8).foldl (fun (sum : UInt32) _ =>
    if sum &&& 1 == 1 then (sum >>> 1) ^^^ 0xEDB88320 else sum >>> 1) (UInt32.ofNat byte)

/-- The remainders of all bytes, the least bit first. -/
def archiveSums : Array UInt32 := (Array.range 256).map archiveSumOfByte

/-- The remainder of a text, the least bit first. -/
def archiveSum (o : Octets) : Nat :=
  (o.foldl (fun (sum : UInt32) c =>
    (sum >>> 8) ^^^ archiveSums.getD ((sum.toNat ^^^ c.toNat) % 256) 0) 0xFFFFFFFF
    ^^^ 0xFFFFFFFF).toNat

end Flowscript.Digest
