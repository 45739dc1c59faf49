import Flowscript.Programs.Text.Directive
import Flowscript.Programs.Tool.Fields
import Flowscript.Programs.Tool.Measure

/-!
# Numbers for people to read

* `Extended` is the arithmetic of numbers of 80 bits.
* `scanScaled` reads a number that can have a letter for a power of 1000 or 1024.
* `ScalingStyle.write` writes a number with such a letter.
* `numfmtTool` changes numbers from one notation into another.
-/

set_option autoImplicit false

namespace Flowscript.Tool

/-! ## Arithmetic -/

/-- A quotient that is a number of 80 bits. -/
structure Extended where
  num : Int
  den : Nat

namespace Extended

/-- The number nearest to a quotient. -/
def nearest (num : Int) (den : Nat) : Extended :=
  match (BinaryFormat.extended.ofQuotient num den).quotient? with
  | some (num, den) => ⟨num, den⟩
  | none => ⟨num, den⟩

/-- The number nearest to an integer. -/
def ofInt (n : Int) : Extended := nearest n 1

def add (a b : Extended) : Extended := nearest (a.num * b.den + b.num * a.den) (a.den * b.den)

def sub (a b : Extended) : Extended := add a ⟨-b.num, b.den⟩

def mul (a b : Extended) : Extended := nearest (a.num * b.num) (a.den * b.den)

/-- The quotient by a number that is positive. -/
def div (a b : Extended) : Extended := nearest (a.num * b.den) (a.den * b.num.toNat)

/-- A power of a natural number. -/
def power (base : Nat) : Nat → Extended
  | 0 => ofInt 1
  | n + 1 => mul (power base n) (ofInt base)

/-- Whether the magnitude is at least a natural number. -/
def reaches (a : Extended) (n : Nat) : Bool := n * a.den ≤ a.num.natAbs

/-- A number less than a base, from which the magnitude arises by so many multiplications. -/
def reduce (base : Nat) (fuel : Nat) (a : Extended) : Extended × Nat :=
  match fuel with
  | 0 => (a, 0)
  | fuel + 1 =>
    if a.reaches base then
      let (b, n) := reduce base fuel (div a (ofInt base))
      (b, n + 1)
    else (a, 0)

/-- The number as it can be written. -/
def quantity (a : Extended) : Quantity := (BinaryFormat.extended.nearest (a.num < 0) a.num.natAbs a.den).1

end Extended

/-- Which integer stands for a number between two of them. -/
inductive RoundingWay where
  | up
  | down
  | fromZero
  | towardsZero
  | nearest
  deriving DecidableEq, Repr

/-- The integer that stands for a number. -/
def RoundingWay.round (w : RoundingWay) (a : Extended) : Int :=
  let down : Int := a.num.fdiv a.den
  let up : Int := -((-a.num).fdiv a.den)
  let half : Extended := ⟨1, 2⟩
  match w with
  | .up => up
  | .down => down
  | .fromZero => if a.num < 0 then down else up
  | .towardsZero => a.num.tdiv a.den
  | .nearest =>
    let b := if a.num < 0 then a.sub half else a.add half
    b.num.tdiv b.den

/-! ## Reading -/

/-- How the powers of a number are written. -/
inductive ScaleKind where
  | none
  /-- With powers of 1024 if there is an `i` after the letter. -/
  | auto
  | si
  | iec
  | iecMarked
  deriving DecidableEq, Repr

/-- The base of the powers. -/
def ScaleKind.base : ScaleKind → Nat
  | .iec | .iecMarked => 1024
  | _ => 1000

/-- The letters for powers, from the first one on. -/
def powerLetters : Octets := "KMGTPEZY".toList

/-- Why a text is no number. -/
inductive ScaledFault where
  | tooLarge
  | malformed
  | forbiddenLetter
  | wrongLetter
  | missingMark

/-- The complaint about a text. -/
def ScaledFault.complaint (f : ScaledFault) (o : Octets) : Octets :=
  let (before, after) := match f with
    | .tooLarge => ("value too large to be converted: ", "")
    | .malformed => ("invalid number: ", "")
    | .forbiddenLetter => ("rejecting suffix in input: ", " (consider using --from)")
    | .wrongLetter => ("invalid suffix in input: ", "")
    | .missingMark => ("missing 'i' suffix in input: ", " (e.g Ki/Mi/Gi)")
  octets before ++ quote o ++ octets after

/-- How many digits a number keeps, and how many it can have. -/
def exactDigits : Nat := 18
def mostDigits : Nat := 27

/-- A number that was read: its value, whether it has a minus, whether all digits count, and what
follows it. -/
structure ScannedNumber where
  value : Extended
  isNegative : Bool
  isExact : Bool
  rest : Octets

/-- Reads an integer, with or without a minus. -/
def scanWhole (o : Octets) : Except ScaledFault ScannedNumber := do
  let (isNegative, digits) := match o with
    | '-' :: r => (true, r)
    | _ => (false, o)
  let whole := digits.takeWhile Char.isDigit
  let rest := digits.drop whole.length
  let count := (whole.dropWhile (· == '0')).length
  if mostDigits < count then throw .tooLarge
  if whole.isEmpty && rest.head? != some '.' then throw .malformed
  let value := whole.foldl (fun v c =>
    Extended.add (Extended.mul v (Extended.ofInt 10)) (Extended.ofInt (c.toNat - 48 : Nat)))
    (Extended.ofInt 0)
  return ⟨if isNegative then ⟨-value.num, value.den⟩ else value, isNegative, count ≤ exactDigits,
    rest⟩

/-- Reads a number that can have a point, and gives the count of digits after that. -/
def scanPointed (o : Octets) : Except ScaledFault (ScannedNumber × Nat) := do
  let whole ← scanWhole o
  match whole.rest with
  | '.' :: r =>
    let fraction ← scanWhole r
    if fraction.isNegative then throw .malformed
    let places := r.length - fraction.rest.length
    let part := Extended.div fraction.value (Extended.power 10 places)
    let value := if whole.isNegative then whole.value.sub part else whole.value.add part
    return (⟨value, whole.isNegative, whole.isExact && fraction.isExact, fraction.rest⟩, places)
  | _ => return (whole, 0)

/-- Reads a number with a letter for a power; gives it with the count of digits after the point. -/
def scanScaled (kind : ScaleKind) (o : Octets) : Except ScaledFault (ScannedNumber × Nat) := do
  let (number, places) ← scanPointed o
  let isBlank (c : Char) : Bool := c == ' ' || c == '\t'
  let (base, power, places, rest) ← match number.rest with
    | [] => pure (kind.base, 0, places, [])
    | rest =>
      match rest.dropWhile isBlank with
      | [] => throw .wrongLetter
      | c :: rest =>
        if !powerLetters.contains c then throw .wrongLetter
        if kind == .none then throw .forbiddenLetter
        let power := (powerLetters.takeWhile (· != c)).length + 1
        if kind == .auto && rest.head? == some 'i' then pure (1024, power, 0, rest.drop 1)
        else pure (kind.base, power, 0, rest)
  let rest ← match kind, rest with
    | .iecMarked, 'i' :: rest => pure rest
    | .iecMarked, _ => throw .missingMark
    | _, rest => pure rest
  return ({ number with
    value := Extended.mul number.value (Extended.power base power), rest := rest }, places)

/-! ## Writing -/

/-- What is done about texts that are no numbers. -/
inductive WrongNumbers where
  | abort
  | fail
  | warn
  | ignore
  deriving DecidableEq, Repr

/-- How numbers are changed. -/
structure ScalingStyle where
  source : ScaleKind
  target : ScaleKind
  sourceUnit : Nat
  targetUnit : Nat
  way : RoundingWay
  padding : Nat
  isLeft : Bool
  zeros : Nat
  precision : Option Nat
  before : Octets
  after : Octets
  ending : Octets
  fields : Option (List PositionRange)
  delimiter : Option Char
  mark : Char
  wrong : WrongNumbers
  isTalkative : Bool
  hasAutomaticPadding : Bool

namespace ScalingStyle

/-- Writes a number. -/
def write (s : ScalingStyle) (value : Extended) (places : Nat) : Octets :=
  let directive : Text.Directive :=
    { Text.Directive.plain with hasZeros := s.zeros != 0, width := s.zeros }
  let text (value : Extended) (places : Nat) : Octets :=
    ({ directive with precision := some places }).real .extended 'f' value.quantity
  let roundTo (value : Extended) (places : Nat) : Extended :=
    let scale := Extended.power 10 places
    Extended.div (Extended.ofInt (s.way.round (Extended.mul value scale))) scale
  if s.target == .none then text (roundTo value places) places
  else
    let base := s.target.base
    let (value, power) := value.reduce base 100
    let kept := match s.precision with
      | some n => min (power * 3) n
      | none => if value.reaches 10 then 0 else 1
    let value := roundTo value kept
    let (value, power) :=
      if value.reaches base then (value.div (Extended.ofInt base), power + 1) else (value, power)
    let hasPoint := value.num != 0 && !value.reaches 10 && 0 < power
    let places := s.precision.getD (if hasPoint then 1 else 0)
    let letter := if power == 0 then [] else (powerLetters.drop (power - 1)).take 1
    text value places ++ letter ++ if s.target == .iecMarked && 0 < power then ['i'] else []

/-- The width that a text is filled to. -/
def widthOf (s : ScalingStyle) (text : Octets) (field : Nat) : Nat :=
  if s.hasAutomaticPadding then
    if text.head?.any (fun c => c == ' ' || c == '\t') || 1 < field then text.length else 0
  else s.padding

/-- Complains about a number; that can end the program. -/
def object (s : ScalingStyle) (message : Octets) : ToolRun (Option Octets) := do
  match s.wrong with
  | .abort => giveUp 2 message
  | .ignore => return none
  | _ =>
    complain message
    return none

/-- What is printed for a number with the given digits after the point, if it is not too large. -/
def present (s : ScalingStyle) (value : Extended) (places width : Nat) :
    ToolRun (Option Octets) := do
  let (_, power) := value.reduce 10 6000
  let places := s.precision.getD places
  let general := Text.Directive.plain.real .extended 'g' value.quantity
  if s.target == .none && exactDigits < power + places then
    let (what, size) := if places == 0 then ("value", [])
      else ("value/precision", '/' :: Nat.toDigits 10 places)
    return ← s.object (octets (what ++ " too large to be printed: '") ++ general ++ size
      ++ octets "' (consider using --to)")
  if mostDigits - 1 < power then
    return ← s.object (octets "value too large to be printed: '" ++ general
      ++ octets "' (cannot handle values > 999Y)")
  let body := s.write value places ++ s.ending
  let gap := List.replicate (width - body.length) ' '
  return some (s.before ++ (if s.isLeft then body ++ gap else gap ++ body) ++ s.after)

/-- What is printed for a field, if it is a number. -/
def convert (s : ScalingStyle) (text : Octets) (field : Nat) : ToolRun (Option Octets) := do
  let text := if s.ending.length < text.length && !s.ending.isEmpty
      && Octets.starts s.ending.reverse text.reverse then
    text.take (text.length - s.ending.length) else text
  let number := text.dropWhile fun c => c == ' ' || c == '\t'
  match scanScaled s.source number with
  | .error fault => s.object (fault.complaint number)
  | .ok (scanned, places) =>
    if !scanned.rest.isEmpty then
      return ← s.object (octets "invalid suffix in input " ++ quote number ++ octets ": "
        ++ quote scanned.rest)
    if s.isTalkative && !scanned.isExact then
      complain (octets "large input value " ++ quote number
        ++ octets ": possible precision loss")
    let value := if s.sourceUnit == 1 && s.targetUnit == 1 then scanned.value
      else Extended.div (Extended.mul scanned.value (Extended.ofInt s.sourceUnit))
        (Extended.ofInt s.targetUnit)
    s.present value places (s.widthOf text field)

/-- The first field of a line, and what follows it. -/
def splitField (s : ScalingStyle) (line : Octets) : Octets × Octets :=
  match s.delimiter with
  | some c => (line.takeWhile (· != c), line.dropWhile (· != c))
  | none =>
    let isGap (c : Char) : Bool := c == ' ' || c == '\t' || c == '\n'
    let gap := line.takeWhile isGap
    let word := (line.drop gap.length).takeWhile fun c => !isGap c
    (gap ++ word, line.drop (gap.length + word.length))

/-- Prints the fields of a line, some of them changed; gives whether those are numbers. -/
def printFields (s : ScalingStyle) (fuel field : Nat) (line : Octets) : ToolRun Bool :=
  match fuel with
  | 0 => return true
  | fuel + 1 => do
    let (text, rest) := s.splitField line
    let isChosen := match s.fields with
      | some ranges => inRanges ranges field
      | none => field == 1
    let shown ← if isChosen then s.convert text field else pure (some text)
    let cut := if isChosen && !s.ending.isEmpty && s.ending.length < text.length
        && Octets.starts s.ending.reverse text.reverse then
      text.take (text.length - s.ending.length) else text
    print (shown.getD cut)
    match rest with
    | [] => return shown.isSome
    | _ :: rest =>
      print [s.delimiter.getD ' ']
      return (← printFields s fuel (field + 1) rest) && shown.isSome

end ScalingStyle

/-! ## Options -/

/-- A format for numbers. -/
def ScalingStyle.withFormat (s : ScalingStyle) (o : Octets) : ToolRun ScalingStyle := do
  let rec lead (fuel : Nat) (o : Octets) : Option (Nat × Octets) :=
    match fuel, o with
    | 0, _ | _, [] => none
    | fuel + 1, '%' :: '%' :: r => (lead fuel r).map fun (n, r) => (n + 1, r)
    | _, '%' :: r => some (0, r)
    | fuel + 1, _ :: r => (lead fuel r).map fun (n, r) => (n + 1, r)
  let (count, r) ← match lead (o.length + 1) o with
    | some found => pure found
    | none => giveUp 1 (octets "format " ++ quote o ++ octets " has no % directive")
  let flags := r.takeWhile fun c => c == ' ' || c == '\'' || c == '0'
  let hasZeros := flags.contains '0'
  if flags.contains '\'' && s.target != .none then
    giveUp 1 (octets "grouping cannot be combined with --to")
  let r := r.drop flags.length
  let refuse {α : Type} (reason : Octets) : ToolRun α :=
    giveUp 1 (octets "invalid format " ++ quote o ++ reason)
  let (width, r) ← match Int64s.scan (some 10) r with
    | none => pure ((0 : Int), r)
    | some scanned =>
      if !scanned.isInRange then refuse (octets " (width overflow)")
      pure (scanned.value, scanned.rest)
  if s.isTalkative && width != 0 && s.padding != 0 && !(hasZeros && 0 < width) then
    complain (octets "--format padding overriding --padding")
  let s := if width < 0 then { s with isLeft := true, padding := width.natAbs }
    else if width == 0 then s
    else if hasZeros then { s with zeros := width.toNat }
    else { s with padding := width.toNat }
  if r.isEmpty then giveUp 1 (octets "format " ++ quote o ++ octets " ends in %")
  let (precision, r) ← match r with
    | '.' :: r =>
      let wrong : ToolRun (Option Nat × Octets) :=
        giveUp 1 (octets "invalid precision in format " ++ quote o)
      if r.head?.any fun c => c == ' ' || c == '\t' || c == '+' then wrong
      else
        match Int64s.scan (some 10) r with
        | none => pure (some 0, r)
        | some scanned =>
          if !scanned.isInRange || scanned.value < 0 then wrong
          else pure (some scanned.value.toNat, scanned.rest)
    | _ => pure (none, r)
  match r with
  | 'f' :: after =>
    if (lead (after.length + 1) after).isSome then
      giveUp 1 (octets "format " ++ quote o ++ octets " has too many % directives")
    return { s with precision := precision, before := o.take count, after := after }
  | _ => refuse (octets ", directive must be %[0]['][-][N][.][N]f")

/-- The size of a unit. -/
def unitSize (o : Octets) : ToolRun Nat := do
  let (number, letters) := match o.reverse with
    | [] => (o, "KMGTPEZY")
    | c :: r =>
      if c.isDigit then (o, "KMGTPEZY")
      else if c == 'i' && r.head?.any (!·.isDigit) then (r.reverse, "KMGTPEZY")
      else (o ++ ['B'], "0KMGTPEZY")
  match scanMeasure (some 10) letters number with
  | .ok n =>
    if n != 0 then return n
    giveUp 1 (octets "invalid unit size: " ++ quote o)
  | .error _ => giveUp 1 (octets "invalid unit size: " ++ quote o)

/-- The style that options say. -/
def ScalingStyle.withOption (s : ScalingStyle) : GivenOption → ToolRun ScalingStyle
  | ("from", o) => do
    let kind ← chooseWord "--from" [["none"], ["auto"], ["si"], ["iec"], ["iec-i"]] o
    return { s with source := kindOf kind }
  | ("to", o) => do
    let kind ← chooseWord "--to" [["none"], ["si"], ["iec"], ["iec-i"]] o
    return { s with target := kindOf kind }
  | ("from-unit", o) => do return { s with sourceUnit := ← unitSize o }
  | ("to-unit", o) => do return { s with targetUnit := ← unitSize o }
  | ("round", o) => do
    let way ← chooseWord "--round"
      [["up"], ["down"], ["from-zero"], ["towards-zero"], ["nearest"]] o
    return { s with way := match way with
      | "up" => .up
      | "down" => .down
      | "from-zero" => .fromZero
      | "towards-zero" => .towardsZero
      | _ => .nearest }
  | ("padding", o) => do
    match Int64s.ofOctets? (some 10) o with
    | some n =>
      if n == 0 then giveUp 1 (octets "invalid padding value " ++ quote o)
      return { s with padding := n.natAbs, isLeft := s.isLeft || n < 0 }
    | none => giveUp 1 (octets "invalid padding value " ++ quote o)
  | ("field", o) => do
    if s.fields.isSome then giveUp 1 (octets "multiple field specifications")
    let ranges ← if o == ['-'] then pure [(1, none)] else readRanges true (o.length + 1) o
    return { s with fields := some ranges }
  | ("delimiter", o) => do
    if 1 < o.length then giveUp 1 (octets "the delimiter must be a single character")
    return { s with delimiter := some (o.headD '\x00') }
  | ("zero-terminated", _) => return { s with mark := '\x00' }
  | ("suffix", o) => return { s with ending := o }
  | ("debug", _) => return { s with isTalkative := true }
  | ("invalid", o) => do
    let what ← chooseWord "--invalid" [["abort"], ["fail"], ["warn"], ["ignore"]] o
    return { s with wrong := match what with
      | "abort" => .abort
      | "fail" => .fail
      | "warn" => .warn
      | _ => .ignore }
  | _ => return s
where
  kindOf : String → ScaleKind
    | "auto" => .auto
    | "si" => .si
    | "iec" => .iec
    | "iec-i" => .iecMarked
    | _ => .none

/-- Changes numbers from one notation into another. -/
def numfmtTool : Procedure := fun _ arguments => do
  let long (name : String) : OptionSpec := .setting OptionSpec.noLetter name
  let (given, words) ← options
    [long "from", long "from-unit", long "to", long "to-unit", long "round", long "padding",
      long "suffix", .flag OptionSpec.noLetter "grouping", .setting 'd' "delimiter", long "field",
      .flag OptionSpec.noLetter "debug", ⟨OptionSpec.noLetter, "header", .optional⟩,
      long "format", long "invalid", .flag 'z' "zero-terminated"] 1 arguments
  let plain : ScalingStyle :=
    { source := .none, target := .none, sourceUnit := 1, targetUnit := 1, way := .fromZero
      padding := 0, isLeft := false, zeros := 0, precision := none, before := [], after := []
      ending := [], fields := none, delimiter := none, mark := '\n', wrong := .abort
      isTalkative := false, hasAutomaticPadding := false }
  let s ← given.foldlM (fun s o => s.withOption o) plain
  let header ← match valueOf? given "header" with
    | none => pure 0
    | some [] => pure 1
    | some o =>
      match scanMeasure (some 10) "" o with
      | .ok n => if n == 0 then giveUp 1 (octets "invalid header value " ++ quote o) else pure n
      | .error _ => giveUp 1 (octets "invalid header value " ++ quote o)
  let grouping := has given "grouping"
  if has given "format" && grouping then
    giveUp 1 (octets "--grouping cannot be combined with --format")
  if s.isTalkative && s.source == .none && s.target == .none && !grouping && s.padding == 0
      && !has given "format" then
    complain (octets "no conversion option specified")
  let s ← match valueOf? given "format" with
    | some o => s.withFormat o
    | none => pure s
  if grouping then
    if s.target != .none then giveUp 1 (octets "grouping cannot be combined with --to")
    if s.isTalkative then complain (octets "grouping has no effect in this locale")
  let s := { s with hasAutomaticPadding := s.padding == 0 && s.delimiter.isNone }
  let mut isGood := true
  if words.isEmpty then
    let step (known : Nat × Bool) (line : Octets) (isEnded : Bool) :
        ToolRun (Onward (Nat × Bool)) := do
      let (left, isGood) := known
      let tail := if isEnded then [s.mark] else []
      if 0 < left then
        print (line ++ tail)
        return ((left - 1, isGood), true)
      let isNumber ← s.printFields (line.length + 2) 1 line
      print tail
      return ((0, isGood && isNumber), true)
    let ((_, good), _) ← eachLine s.mark step 1 (header, true) [['-']]
    isGood := good
  else
    if s.isTalkative && header != 0 then
      complain (octets "--header ignored with command-line input")
    for word in words do
      let isNumber ← s.printFields (word.length + 2) 1 word
      print [s.mark]
      isGood := isGood && isNumber
  if s.isTalkative && !isGood then
    complain (octets "failed to convert some of the input numbers")
  return if isGood || s.wrong == .warn || s.wrong == .ignore then 0 else 2

end Flowscript.Tool
