import Flowscript.Text.Octets
import Flowscript.Programs.Tool.Basic

/-!
# Bytes as letters

Codes that write bytes with letters, and the tools that use them.

* `LetterCode` writes bytes with letters that each stand for some bits.
* `LetterCode.encode` writes, and `LetterCode.decode` reads.
* `LetterCode.encodeBy85` and `LetterCode.decodeBy85` write four bytes as a number of five digits.
* `Tool.encodeTool` writes with one code, and `Tool.chooseCodeTool` with one that is chosen.
-/

set_option autoImplicit false

namespace Flowscript

/-! ## Bytes written with few letters -/

namespace Text

/-- A code: its letters, the bits that each stands for, how many bytes make a group, whether a group
is filled up with a sign, whether a group that is cut off is read up to its end, and whether the
least bit of a byte comes first. -/
structure LetterCode where
  letters : Array Char
  bits : Nat
  groupBytes : Nat
  isFilled : Bool
  readsShort : Bool
  leastFirst : Bool

namespace LetterCode

/-- A code with some letters. -/
def ofLetters (letters : String) (bits groupBytes : Nat) (isFilled readsShort : Bool) :
    LetterCode := ⟨letters.toList.toArray, bits, groupBytes, isFilled, readsShort, false⟩

/-- The letters and the digits. -/
def alphabet : String := "ABCDEFGHIJKLMNOPQRSTUVWXYZabcdefghijklmnopqrstuvwxyz0123456789"

/-- Six bits a letter. -/
def base64 : LetterCode := ofLetters (alphabet ++ "+/") 6 3 true true

/-- Six bits a letter, all of which can stand in names of files. -/
def base64url : LetterCode := ofLetters (alphabet ++ "-_") 6 3 true true

/-- Five bits a letter. -/
def base32 : LetterCode := ofLetters "ABCDEFGHIJKLMNOPQRSTUVWXYZ234567" 5 5 true false

/-- Five bits a letter, in the order of digits to a base. -/
def base32hex : LetterCode := ofLetters "0123456789ABCDEFGHIJKLMNOPQRSTUV" 5 5 true false

/-- Four bits a letter. -/
def base16 : LetterCode := ofLetters "0123456789ABCDEF" 4 1 false true

/-- One bit a letter. -/
def base2 (leastFirst : Bool) : LetterCode :=
  { ofLetters "01" 1 1 false false with leastFirst := leastFirst }

/-- How many letters make a group. -/
def groupLetters (code : LetterCode) : Nat := 8 * code.groupBytes / code.bits

/-- The number that values to some base make up, the greatest first. -/
def numberOf (base : Nat) (values : List Nat) : Nat := values.foldl (fun n v => n * base + v) 0

/-- The digits of a number to some base, the greatest first. -/
def digitsOf (base count n : Nat) : List Nat :=
  ((List.range count).map fun i => n / base ^ i % base).reverse

/-- Groups of at most some members. -/
def groupsOf {α : Type} (size fuel : Nat) (items : List α) : List (List α) :=
  match fuel with
  | 0 => []
  | fuel + 1 =>
    if items.isEmpty then [] else items.take size :: groupsOf size fuel (items.drop size)

/-- The letters of a group of bytes. -/
def encodeGroup (code : LetterCode) (bytes : Octets) : Octets :=
  let values := bytes.map Char.toNat ++ List.replicate (code.groupBytes - bytes.length) 0
  let digits := digitsOf (2 ^ code.bits) code.groupLetters (numberOf 256 values)
  let digits := if code.leastFirst then digits.reverse else digits
  let count := (8 * bytes.length + code.bits - 1) / code.bits
  (digits.take count).map (fun d => code.letters.getD d '=')
    ++ List.replicate (code.groupLetters - count) '='

/-- The letters for bytes. -/
def encode (code : LetterCode) (o : Octets) : Octets :=
  (groupsOf code.groupBytes (o.length + 1) o).flatMap code.encodeGroup

/-- The bytes of a group of letters as far as it makes sense, and whether all of it does. -/
def decodeGroup (code : LetterCode) (letters : Octets) : Octets × Bool :=
  let values := (letters.map fun c => code.letters.idxOf? c).takeWhile (·.isSome)
  let values := values.filterMap id
  let values := if code.leastFirst then values.reverse else values
  let size := values.length * code.bits / 8
  let number := numberOf (2 ^ code.bits) values >>> (values.length * code.bits % 8)
  let bytes := (digitsOf 256 size number).map Char.ofNat
  let isWhole := letters.length == code.groupLetters
  let isFit := values.length == (8 * size + code.bits - 1) / code.bits && 0 < size
    && (letters.drop values.length).all (· == '=')
    && (code.isFilled || values.length == code.groupLetters)
  (if isWhole || code.readsShort then bytes else [], isWhole && isFit)

/-- The bytes of groups of letters up to one that makes no sense, and whether there is none. -/
def decodeGroups (code : LetterCode) : List Octets → Octets × Bool
  | [] => ([], true)
  | group :: rest =>
    match code.decodeGroup group with
    | (bytes, false) => (bytes, false)
    | (bytes, true) =>
      let (more, isGood) := code.decodeGroups rest
      (bytes ++ more, isGood)

/-- The bytes that letters stand for, and whether all of them make sense. -/
def decode (code : LetterCode) (o : Octets) : Octets × Bool :=
  code.decodeGroups (groupsOf code.groupLetters (o.length + 1) o)

/-! ### Groups of four bytes -/

/-- The digits to the base 85. -/
def digits85 : Array Char :=
  ("0123456789abcdefghijklmnopqrstuvwxyzABCDEFGHIJKLMNOPQRSTUVWXYZ"
    ++ ".-:+=^!/*?&<>()[]\x7b\x7d@%$#").toList.toArray

/-- Each four bytes as five digits. -/
def encodeBy85 (o : Octets) : Octets :=
  (groupsOf 4 (o.length + 1) o).flatMap fun group =>
    (digitsOf 85 5 (numberOf 256 (group.map Char.toNat))).map fun d => digits85.getD d '0'

/-- Each five digits as four bytes, and whether all of them make sense. -/
def decodeBy85 (o : Octets) : Octets × Bool :=
  (groupsOf 5 (o.length + 1) o).foldl (fun (bytes, isGood) group =>
    if !isGood then (bytes, false)
    else
      match group.mapM fun c => digits85.idxOf? c with
      | some values =>
        let n := numberOf 85 values
        if values.length == 5 && n < 2 ^ 32 then
          (bytes ++ (digitsOf 256 4 n).map Char.ofNat, true)
        else (bytes, false)
      | none => (bytes, false)) ([], true)

end LetterCode

end Text

/-! ## Programs that write bytes with few letters -/

namespace Tool

/-- How bytes are written with letters, and which other characters count when they are read. -/
structure ByteCode where
  encode : Octets → Option Octets
  decode : Octets → Octets × Bool
  isLetter : Char → Bool

namespace ByteCode

/-- A code whose letters stand for bits. -/
def ofLetters (code : Text.LetterCode) : ByteCode :=
  ⟨fun o => some (code.encode o), code.decode, fun c => code.letters.contains c || c == '='⟩

/-- The code with digits to the base 85, which takes four bytes at a time. -/
def by85 : ByteCode :=
  ⟨fun o => if o.length % 4 == 0 then some (Text.LetterCode.encodeBy85 o) else none,
    Text.LetterCode.decodeBy85, Text.LetterCode.digits85.contains⟩

end ByteCode

/-- How many letters stand on a line, or that there are no lines. -/
def wrapWidth (given : List GivenOption) : ToolRun Nat := do
  match valueOf? given "wrap" with
  | none => return 76
  | some o =>
    match Octets.natural? (if o.head? == some '+' then o.drop 1 else o) with
    | some n => return if 2 ^ 63 ≤ n then 0 else n
    | none => giveUp 1 (octets "invalid wrap size: " ++ quote o)

/-- Writes an input with letters, or reads it. -/
def runCode (code : ByteCode) (given : List GivenOption) (operands : List Octets) :
    ToolRun Nat := do
  let width ← wrapWidth given
  refuseExtra 1 1 operands
  let path := operands.headD ['-']
  match ← openInput path with
  | .error fault => giveUp 1 (quoteName path ++ octets (": " ++ fault.message))
  | .ok descriptor =>
    match ← liftM (Run.readAll descriptor) with
    | .error fault => giveUp 1 (octets ("read error: " ++ fault.message))
    | .ok bytes =>
      let content := Octets.ofBytes bytes
      if has given "decode" then
        let letters := content.filter fun c =>
          c != '\n' && (!has given "ignore-garbage" || code.isLetter c)
        let (bytes, isGood) := code.decode letters
        print bytes
        if !isGood then giveUp 1 (octets "invalid input")
        return 0
      match code.encode content with
      | none => giveUp 1 (octets "invalid input (length must be multiple of 4 characters)")
      | some letters =>
        if width == 0 then print letters
        else
          for row in Text.LetterCode.groupsOf width (letters.length + 1) letters do
            printLine row
        return 0

/-- The options of programs that write bytes with letters. -/
def codeOptions : List OptionSpec :=
  [.flag 'd' "decode", .setting 'w' "wrap", .flag 'i' "ignore-garbage"]

/-- Writes bytes with the letters of a code, or reads them. -/
def encodeTool (code : Text.LetterCode) : Procedure := fun _ arguments => do
  let (given, operands) ← options codeOptions 1 arguments
  runCode (.ofLetters code) given operands

/-- The codes that can be chosen. -/
def namedCodes : List (String × ByteCode) :=
  [("base64", .ofLetters .base64), ("base64url", .ofLetters .base64url),
    ("base32", .ofLetters .base32), ("base32hex", .ofLetters .base32hex),
    ("base16", .ofLetters .base16), ("base2msbf", .ofLetters (.base2 false)),
    ("base2lsbf", .ofLetters (.base2 true)), ("z85", .by85)]

/-- Writes bytes with the letters of a code that is chosen, or reads them. -/
def chooseCodeTool : Procedure := fun _ arguments => do
  let (given, operands) ← options
    (codeOptions ++ namedCodes.map fun c => .flag OptionSpec.noLetter c.1) 1 arguments
  match (given.reverse.filterMap fun o => namedCodes.lookup o.1).head? with
  | some code => runCode code given operands
  | none =>
    let _ ← wrapWidth given
    giveUpUsage 1 (octets "missing encoding type")

end Tool

end Flowscript
