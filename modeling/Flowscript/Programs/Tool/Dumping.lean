import Flowscript.Programs.Quantity
import Flowscript.Programs.Text.Directive
import Flowscript.Programs.Tool.Measure

/-!
# A program that shows bytes as numbers

* `DumpFormat` says how some bytes are shown, and `readDumpFormats` reads formats.
* `dumpTool` shows the bytes of its inputs, each row of them in every format.
-/

set_option autoImplicit false

namespace Flowscript.Tool

/-! ## Formats -/

/-- What some bytes are shown as. -/
inductive DumpKind where
  | names
  | chars
  | signed
  | unsigned (base : Nat)
  | real

/-- How bytes are shown: as what, how many together, and whether those that can be printed follow on
the right. -/
structure DumpFormat where
  kind : DumpKind
  size : Nat
  hasText : Bool

namespace DumpFormat

/-- How wide bytes are shown, without what keeps them apart. -/
def width (f : DumpFormat) : Nat :=
  match f.kind with
  | .names | .chars => 3
  | .signed => [(1, 4), (2, 6), (4, 11), (8, 20)].lookup f.size |>.getD 20
  | .unsigned 8 => (8 * f.size + 2) / 3
  | .unsigned 16 => 2 * f.size
  | .unsigned _ => [(1, 3), (2, 5), (4, 10), (8, 20)].lookup f.size |>.getD 20
  | .real => [(4, 15), (8, 24)].lookup f.size |>.getD 29

end DumpFormat

/-- The names of the first characters. -/
def characterNames : List String :=
  ["nul", "soh", "stx", "etx", "eot", "enq", "ack", "bel", "bs", "ht", "nl", "vt", "ff", "cr", "so",
    "si", "dle", "dc1", "dc2", "dc3", "dc4", "nak", "syn", "etb", "can", "em", "sub", "esc", "fs",
    "gs", "rs", "us", "sp"]

/-- The name of a byte, of which one bit does not count. -/
def byteName (c : Char) : Octets :=
  let n := c.toNat % 128
  if n == 127 then octets "del"
  else
    match characterNames[n]? with
    | some name => octets name
    | none => [Char.ofNat n]

/-- A byte as a character or as an escape. -/
def byteEscape (c : Char) : Octets :=
  match c with
  | '\x00' => ['\\', '0']
  | '\x07' => ['\\', 'a']
  | '\x08' => ['\\', 'b']
  | '\t' => ['\\', 't']
  | '\n' => ['\\', 'n']
  | '\x0b' => ['\\', 'v']
  | '\x0c' => ['\\', 'f']
  | '\r' => ['\\', 'r']
  | c =>
    if 32 ≤ c.toNat && c.toNat < 127 then [c]
    else
      let digits := Nat.toDigits 8 c.toNat
      List.replicate (3 - digits.length) '0' ++ digits

/-- The number that the bits of a format mean: an exponent of some bits, and a fraction. -/
def quantityOfBits (exponentBits fractionBits bits : Nat) : Quantity :=
  let fraction := bits % 2 ^ fractionBits
  let exponent := bits >>> fractionBits % 2 ^ exponentBits
  let isNegative := bits >>> (fractionBits + exponentBits) % 2 == 1
  let least : Int := 2 - 2 ^ (exponentBits - 1) - fractionBits
  if exponent == 2 ^ exponentBits - 1 then
    if fraction == 0 then .endless isNegative else .undefined isNegative
  else if exponent == 0 then .finite isNegative fraction least
  else .finite isNegative (2 ^ fractionBits + fraction) (least + exponent - 1)

/-- The number that the bits of 80 mean, whose fraction has its first bit with it. -/
def quantityOfWideBits (bits : Nat) : Quantity :=
  let mantissa := bits % 2 ^ 64
  let exponent := bits >>> 64 % 2 ^ 15
  let isNegative := bits >>> 79 % 2 == 1
  if exponent == 2 ^ 15 - 1 then
    if mantissa == 2 ^ 63 then .endless isNegative else .undefined isNegative
  else if exponent != 0 && mantissa < 2 ^ 63 then .undefined isNegative
  else .finite isNegative mantissa ((if exponent == 0 then 1 else exponent : Nat) - 16446 : Int)

/-- The text of a number with as few digits as tell it from others, but not fewer than some. -/
def realDigits (f : BinaryFormat) (q : Quantity) (fuel precision : Nat) : Octets :=
  let o := ({ Text.Directive.plain with precision := some precision }).real f 'g' q
  match fuel with
  | 0 => o
  | fuel + 1 =>
    match f.scan o, q with
    | some (.finite _ m e, _, _), .finite _ n d =>
      let (a, b) := Quantity.ratio m e
      let (c, d) := Quantity.ratio n d
      if a * d == c * b then o else realDigits f q fuel (precision + 1)
    | _, _ => o

/-- Bytes as a number: the first byte is the least one, unless it is said to be the greatest. -/
def bytesValue (greatestFirst : Bool) (bytes : Octets) : Nat :=
  let ordered := if greatestFirst then bytes else bytes.reverse
  ordered.foldl (fun n c => n * 256 + c.toNat) 0

/-- The text of a number of some bytes. -/
def realItemText (size n : Nat) : Octets :=
  let (format, quantity, digits) : BinaryFormat × Quantity × Nat := match size with
    | 4 => (⟨24, -149, 104⟩, quantityOfBits 8 23 n, 6)
    | 8 => (.double, quantityOfBits 11 52 n, 15)
    | _ => (.extended, quantityOfWideBits n, 18)
  let isSmall : Bool := match quantity with
    | .finite _ m _ => m < 2 ^ (format.bits - 1)
    | _ => false
  realDigits format quantity 20 (if isSmall then 1 else digits)

/-- The text of some bytes. -/
def DumpFormat.text (f : DumpFormat) (greatestFirst : Bool) (bytes : Octets) : Octets :=
  let n := bytesValue greatestFirst bytes
  match f.kind with
  | .names => byteName (bytes.headD '\x00')
  | .chars => byteEscape (bytes.headD '\x00')
  | .signed =>
    let half := 2 ^ (8 * f.size - 1)
    if half ≤ n then '-' :: Nat.toDigits 10 (2 * half - n) else Nat.toDigits 10 n
  | .unsigned 10 => Nat.toDigits 10 n
  | .unsigned base =>
    let digits := Nat.toDigits base n
    List.replicate (f.width - digits.length) '0' ++ digits
  | .real => realItemText f.size n

/-- Takes the size after the letter of a format, by a letter or by digits. -/
def takeDumpSize (letters : List (Char × Nat)) (standard : Nat) (o : Octets) :
    Option (Nat × Octets) :=
  match o with
  | c :: r =>
    match letters.lookup c with
    | some size => some (size, r)
    | none =>
      let digits := o.takeWhile Char.isDigit
      if digits.isEmpty then some (standard, o)
      else
        match Octets.natural? digits with
        | some n => if n < 2 ^ 64 then some (n, o.drop digits.length) else none
        | none => none
  | [] => some (standard, [])

/-- Reads formats that stand one after the other. -/
def readDumpFormats (whole : Octets) (fuel : Nat) (o : Octets) : ToolRun (List DumpFormat) :=
  match fuel, o with
  | 0, _ => return []
  | _, [] => return []
  | fuel + 1, c :: r => do
    let finish (kind : DumpKind) (size : Nat) (r : Octets) : ToolRun (List DumpFormat) := do
      let hasText := r.head? == some 'z'
      return ⟨kind, size, hasText⟩
        :: (← readDumpFormats whole fuel (if hasText then r.drop 1 else r))
    let sized (kind : DumpKind) (letters : List (Char × Nat)) (standard : Nat)
        (sizes : List Nat) (what : String) : ToolRun (List DumpFormat) := do
      match takeDumpSize letters standard r with
      | none => giveUp 1 (octets "invalid type string " ++ quote whole)
      | some (size, r) =>
        if !sizes.contains size then
          giveUp 1 (octets "invalid type string " ++ quote whole
            ++ octets s!";\nthis system doesn't provide a {size}-byte {what} type")
        finish kind size r
    let integer (kind : DumpKind) : ToolRun (List DumpFormat) :=
      sized kind [('C', 1), ('S', 2), ('I', 4), ('L', 8)] 4 [1, 2, 4, 8] "integral"
    match c with
    | 'a' => finish .names 1 r
    | 'c' => finish .chars 1 r
    | 'd' => integer .signed
    | 'o' => integer (.unsigned 8)
    | 'u' => integer (.unsigned 10)
    | 'x' => integer (.unsigned 16)
    | 'f' => sized .real [('F', 4), ('D', 8), ('L', 16)] 8 [4, 8, 16] "floating point"
    | _ =>
      giveUp 1 (octets "invalid character '" ++ c :: octets "' in type string " ++ quote whole)

/-- The formats of options that are letters. -/
def letterFormats : List (Char × String) :=
  [('a', "a"), ('b', "o1"), ('B', "o2"), ('c', "c"), ('D', "u4"), ('d', "u2"), ('e', "fD"),
    ('F', "fD"), ('f', "fF"), ('H', "x4"), ('h', "x2"), ('I', "dL"), ('i', "dI"), ('L', "dL"),
    ('l', "dL"), ('O', "o4"), ('o', "o2"), ('s', "d2"), ('X', "x4"), ('x', "x2")]

/-! ## Rows -/

/-- How rows are shown: the formats, how many bytes make a row, the text of an address, and whether
the first of some bytes is the greatest. -/
structure DumpStyle where
  formats : List DumpFormat
  rowSize : Nat
  address : Nat → Octets
  greatestFirst : Bool

namespace DumpStyle

/-- The width that all formats need for a row. -/
def rowWidth (style : DumpStyle) : Nat :=
  (style.formats.map fun f => (f.width + 1) * (style.rowSize / f.size)).foldl max 0

/-- Texts in their columns from some column on.  What is left of the width is spread over the
columns. -/
def columns (width fields pad : Nat) (place left : Nat) : List Octets → Octets
  | [] => []
  | o :: rest =>
    let next := pad * (fields - 1 - place) / fields
    let room := left - next + width
    List.replicate (room - o.length) ' ' ++ o ++ columns width fields pad (place + 1) next rest

/-- A row in one format. -/
def formatRow (style : DumpStyle) (f : DumpFormat) (row : Octets) : Octets :=
  let fields := style.rowSize / f.size
  let blank := (style.rowSize - row.length) / f.size
  let pad := style.rowWidth - f.width * fields
  let bytes := row ++ List.replicate (style.rowSize - row.length) '\x00'
  let texts := (List.range (fields - blank)).map fun i =>
    f.text style.greatestFirst ((bytes.drop (i * f.size)).take f.size)
  let shown := columns f.width fields pad 0 pad texts
  if !f.hasText then shown
  else
    let gap := blank * f.width + pad * blank / fields
    shown ++ List.replicate gap ' ' ++ octets "  >"
      ++ (row.map fun c => if ' ' ≤ c && c ≤ '~' then c else '.') ++ ['<']

/-- Shows rows from an address on.  A whole row that is the same as the one before is left out. -/
def showRows (style : DumpStyle) (keepsAll : Bool) (fuel address : Nat) (before : Option Octets)
    (isStarred : Bool) (content : Octets) : ToolRun Nat :=
  match fuel with
  | 0 => return address
  | fuel + 1 => do
    let row := content.take style.rowSize
    if row.isEmpty then return address
    let rest := content.drop style.rowSize
    let next := address + row.length
    if !keepsAll && row.length == style.rowSize && before == some row then
      if !isStarred then printLine ['*']
      showRows style keepsAll fuel next before true rest
    else
      let gap := List.replicate (style.address 0).length ' '
      for (f, i) in style.formats.zipIdx do
        printLine ((if i == 0 then style.address address else gap) ++ style.formatRow f row)
      showRows style keepsAll fuel next (some row) false rest

end DumpStyle

/-- Shows texts that can be printed, have some length, and end with a zero. -/
def showStrings (address : Nat → Octets) (least : Nat) (start : Nat) (run : Octets) :
    Octets → ToolRun Unit
  | [] => return ()
  | c :: r => do
    if ' ' ≤ c && c ≤ '~' then showStrings address least start (c :: run) r
    else
      if c == '\x00' && least ≤ run.length && 0 < run.length then
        let o := address start
        printLine (o ++ ' ' :: run.reverse)
      showStrings address least (start + run.length + 1) [] r

/-! ## Options -/

/-- The place in the input that an argument after the names means. -/
def placeInInput? (o : Octets) : Option Nat :=
  let digits := if o.head? == some '+' then o.drop 1 else o
  let (base, digits) := match digits with
    | '0' :: 'x' :: r => (16, r)
    | '0' :: 'X' :: r => (16, r)
    | _ => (8, digits)
  if o.contains '.' then none else (scanMeasure (some base) "Bb" digits).toOption

/-- The options of the program. -/
def dumpOptions : List OptionSpec :=
  letterFormats.map (fun p => .flag p.1 ("type-" ++ p.2))
    ++ [.setting 'A' "address-radix", .setting 't' "format", .setting 'N' "read-bytes",
      .setting 'j' "skip-bytes", .flag 'v' "output-duplicates",
      ⟨OptionSpec.noLetter, "strings", .optional⟩, .setting 'S' "strings",
      ⟨'w', "width", .optional⟩, .setting OptionSpec.noLetter "endian",
      .flag OptionSpec.noLetter "traditional"]

/-- Reads inputs one after the other, and says whether one could be read. -/
def readAllOf (paths : List Octets) : ToolRun (Octets × Bool) := do
  let mut all : Octets := []
  let mut hasOpened := false
  for path in paths do
    match ← openInput path with
    | .error fault =>
      complainAbout path fault
      noteFailure 1
    | .ok descriptor =>
      hasOpened := true
      match ← liftM (Run.readAll descriptor) with
      | .ok bytes => all := all ++ Octets.ofBytes bytes
      | .error fault =>
        complainAbout path fault
        noteFailure 1
      closeInput descriptor
  return (all, hasOpened)

/-- Shows bytes as numbers. -/
def dumpTool : Procedure := fun _ arguments => do
  let (given, operands) ← options dumpOptions 1 arguments
  let radix := (valueOf? given "address-radix").getD ['o']
  let (base, width) ← match radix.headD ' ' with
    | 'o' => pure (8, 7)
    | 'd' => pure (10, 7)
    | 'x' => pure (16, 6)
    | 'n' => pure (0, 0)
    | c =>
      giveUp 1 (octets "invalid output address radix '" ++ c
        :: octets "'; it must be one character from [doxn]")
  let address (n : Nat) : Octets :=
    if base == 0 then []
    else
      let digits := Nat.toDigits base n
      List.replicate (width - digits.length) '0' ++ digits
  let units := "bEGKkMmPTYZ0"
  let mut formats : List DumpFormat := []
  let mut skipped := 0
  let mut most : Option Nat := none
  let mut texts : Option Nat := none
  let mut rowSize : Option Nat := none
  let mut greatestFirst := false
  for (name, o) in given do
    match name with
    | "format" => formats := formats ++ (← readDumpFormats o (o.length + 1) o)
    | "read-bytes" => most := some (← optionMeasure units "-N" o)
    | "skip-bytes" => skipped ← optionMeasure units "-j" o
    | "strings" => texts := some (← if o.isEmpty then pure 3 else optionMeasure units "-S" o)
    | "width" => rowSize := some (← if o.isEmpty then pure 32 else optionMeasure units "-w" o)
    | "endian" =>
      greatestFirst := (← chooseWord "--endian" [["little"], ["big"]] o) == "big"
    | _ =>
      if name.startsWith "type-" then
        let o := octets (String.ofList (name.toList.drop 5))
        formats := formats ++ (← readDumpFormats o (o.length + 1) o)
  let isModern := given.any fun o => !o.1.startsWith "type-" && o.1 != "traditional"
  let isTraditional := has given "traditional"
  let (paths, place) := if isModern then (operands, none)
    else
      match operands with
      | [o] =>
        if isTraditional || o.head? == some '+' then
          match placeInInput? o with
          | some n => ([], some n)
          | none => (operands, none)
        else (operands, none)
      | [path, o] =>
        if isTraditional || o.head?.any fun c => c == '+' || c.isDigit then
          match placeInInput? o with
          | some n => ([path], some n)
          | none => (operands, none)
        else (operands, none)
      | _ => (operands, none)
  skipped := place.getD skipped
  let (content, hasOpened) ← readAllOf (inputsOr paths)
  if !hasOpened then return ← notedStatus
  if content.length < skipped then
    giveUp 1 (octets "cannot skip past end of combined input")
  let content := content.drop skipped
  let content := match most with
    | some n => content.take n
    | none => content
  match texts with
  | some least =>
    showStrings address least skipped [] content
    notedStatus
  | none =>
    if formats.isEmpty then formats := [⟨.unsigned 8, 2, false⟩]
    let step := (formats.map (·.size)).foldl Nat.lcm 1
    let row ← match rowSize with
      | none => pure (if step < 16 then 16 / step * step else step)
      | some n =>
        if n != 0 && n % step == 0 then pure n
        else
          complain (octets s!"warning: invalid width {n}; using {step} instead")
          pure step
    let style : DumpStyle := ⟨formats, row, address, greatestFirst⟩
    let last ← style.showRows (has given "output-duplicates") (content.length + 1) skipped none
      false content
    if base != 0 then printLine (address last)
    notedStatus

end Flowscript.Tool
