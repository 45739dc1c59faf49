import Flowscript.Programs.Quantity
import Flowscript.Programs.Text.Directive
import Flowscript.Programs.Tool.Basic

/-!
# Numbers

Tools that write factors and sequences of numbers.

* `isProbablePrime` tests a number with some bases.
* `primeFactors` are the prime factors of a number, the least first: small ones by division, others
  where a sequence of squares comes round.
* `factorTool` prints them.
* `SequenceNumber` is a number as it was written, and `readSequenceNumber` reads one.
* `sequenceTool` prints the numbers from one to another.
-/

set_option autoImplicit false

namespace Flowscript.Tool

/-! ## A program that takes numbers apart -/

/-! ### Prime numbers -/

/-- A power modulo a number. -/
def powerModulo (modulus base exponent : Nat) : Nat :=
  if _h : exponent = 0 then 1 % modulus
  else
    let half := powerModulo modulus (base * base % modulus) (exponent / 2)
    if exponent % 2 == 1 then base * half % modulus else half
termination_by exponent
decreasing_by omega

/-- How often two divides a number, and what is left. -/
def splitTwos (n : Nat) : Nat × Nat :=
  if _h : n = 0 ∨ n % 2 = 1 then (0, n)
  else
    let (count, odd) := splitTwos (n / 2)
    (count + 1, odd)
termination_by n
decreasing_by omega

/-- Whether a number looks like a prime to a base: some power of it is one, or squares of that power
come to one less than the number. -/
def looksPrime (n base : Nat) : Bool :=
  let (twos, odd) := splitTwos (n - 1)
  let start := powerModulo n base odd
  let squares := (List.range twos).foldl (fun (s : Nat × Bool) _ =>
    (s.1 * s.1 % n, s.2 || s.1 == n - 1)) (start, false)
  start == 1 || squares.2

/-- The bases with which numbers are tested. -/
def testBases : List Nat := [2, 3, 5, 7, 11, 13, 17, 19, 23, 29, 31, 37, 41, 43, 47, 53, 59, 61]

/-- Whether a number is a prime, as far as some bases tell. -/
def isProbablePrime (n : Nat) : Bool :=
  if n < 2 then false
  else if testBases.contains n then true
  else if testBases.any fun p => n % p == 0 then false
  else testBases.all (looksPrime n)

/-! ### Factors -/

/-- The factors of a number from a candidate on up to a bound, and what is left. -/
def smallFactors (bound fuel d n : Nat) : List Nat × Nat :=
  match fuel with
  | 0 => ([], n)
  | fuel + 1 =>
    if n ≤ 1 || bound < d then ([], n)
    else if n < d * d then ([n], 1)
    else if n % d == 0 then
      let (more, rest) := smallFactors bound fuel d (n / d)
      (d :: more, rest)
    else smallFactors bound fuel (if d == 2 then 3 else d + 2) n

/-- A factor of a number that is found where a sequence of squares comes round, one runner being
twice as fast as the other. -/
def cycleFactor? (n shift fuel slow fast : Nat) : Option Nat :=
  match fuel with
  | 0 => none
  | fuel + 1 =>
    let next (x : Nat) : Nat := (x * x + shift) % n
    let slow := next slow
    let fast := next (next fast)
    let d := Nat.gcd (if slow < fast then fast - slow else slow - fast) n
    if d == n then none
    else if 1 < d then some d
    else cycleFactor? n shift fuel slow fast

/-- How far a sequence is followed. -/
def longestCycle : Nat := 10000000

/-- The prime factors of a number without small ones, in any order. -/
def largeFactors (fuel n : Nat) : List Nat :=
  match fuel with
  | 0 => [n]
  | fuel + 1 =>
    if n ≤ 1 then []
    else if isProbablePrime n then [n]
    else
      match (List.range 20).findSome? fun i => cycleFactor? n (i + 1) longestCycle 2 2 with
      | some d => largeFactors fuel d ++ largeFactors fuel (n / d)
      | none => [n]

/-- The prime factors of a number, the least first. -/
def primeFactors (n : Nat) : List Nat :=
  let (small, rest) := smallFactors 5000 (5000 + n.log2) 2 n
  small ++ (largeFactors (rest.log2 + 1) rest).mergeSort

/-- Prints the prime factors of numbers. -/
def factorTool : Procedure := fun _ arguments => do
  let (_, operands) ← options [] 1 arguments
  let words ← if operands.isEmpty then do
      let o ← readInputs 1 []
      pure ((Text.splitAt (fun c => c == ' ' || c == '\t' || c == '\n') o).filter (!·.isEmpty))
    else pure operands
  for word in words do
    let digits := word.dropWhile (· == ' ')
    match Octets.natural? (if digits.head? == some '+' then digits.drop 1 else digits) with
    | some n =>
      printLine (Octets.join [' '] ((Nat.toDigits 10 n ++ [':'])
        :: (primeFactors n).map (Nat.toDigits 10)))
    | none =>
      complain (quote word ++ octets " is not a valid positive integer")
      noteFailure 1
  notedStatus

/-! ## A program that counts

Numbers of 80 bits are calculated with, but integers that are counted up by small steps are exact.
-/

/-! ### Numbers as they are written -/

/-- A number as it was written: how many characters it takes if it is written out, and how many
places it has after the point if that is known. -/
structure SequenceNumber where
  value : Quantity
  width : Int
  places : Option Nat

/-- How a number is written that is no hexadecimal one: how many characters it takes if it is
written out, and its places. -/
def writtenLayout (o : Octets) : Int × Nat :=
  let isExponentMark (c : Char) : Bool := c == 'e' || c == 'E'
  let before := o.takeWhile (· != '.')
  let point := o.drop before.length
  let hasPoint := !point.isEmpty
  let fraction := (point.drop 1).takeWhile fun c => !isExponentMark c
  let gain : Int := if !hasPoint then 0
    else if fraction.isEmpty then -1
    else if before.getLast?.any Char.isDigit then 0
    else 1
  let width : Int := (o.length : Int) + gain
  let mantissa := o.takeWhile fun c => !isExponentMark c
  let places := fraction.length
  match o.drop mantissa.length with
  | [] => (width, places)
  | _ :: digits =>
    let exponent := ((Int64s.scan (some 10) digits).map (·.value)).getD 0
    let width := width - ((o.length : Int) - mantissa.length)
    if exponent < 0 then
      let undone := !hasPoint || fraction.isEmpty
      (width + (if undone then 1 else 0) + exponent.natAbs, places + exponent.natAbs)
    else
      let left := places - exponent.toNat
      let width := if hasPoint && left == 0 && !fraction.isEmpty then width - 1 else width
      (width + ((exponent.toNat - places : Nat) : Int), left)

/-- Reads a number. -/
def readSequenceNumber (o : Octets) : ToolRun SequenceNumber := do
  match BinaryFormat.extended.scan (o.dropWhile Text.isSpace) with
  | some (.undefined _, _, []) =>
    giveUpUsage 1 (octets "invalid " ++ quote (octets "not-a-number") ++ octets " argument: "
      ++ quote o)
  | some (value, _, []) =>
    let written := o.dropWhile fun c => Text.isSpace c || c == '+'
    let isHexadecimal := written.any fun c => c == 'x' || c == 'X'
    let isFinite := value.quotient?.isSome
    if !isHexadecimal && isFinite then
      let (width, places) := writtenLayout written
      return ⟨value, width, some places⟩
    let isWhole := !written.contains '.' && !written.contains 'p'
    return ⟨value, 0, if isWhole then some 0 else none⟩
  | _ => giveUpUsage 1 (octets "invalid floating point argument: " ++ quote o)

/-! ### Formats -/

/-- Why a text is no format for numbers. -/
inductive NumberFormatFault where
  | none
  | unfinished
  | many
  | unknown (directive : Char)

/-- What is said of a text that is no format for numbers. -/
def NumberFormatFault.message : NumberFormatFault → Octets
  | .none => octets " has no % directive"
  | .unfinished => octets " ends in %"
  | .many => octets " has too many % directives"
  | .unknown c => octets " has unknown %" ++ c :: octets " directive"

/-- A text up to its first directive, in which a sign that is written twice stands for itself. -/
def plainPart (fuel : Nat) (o : Octets) : Octets × Octets :=
  match fuel, o with
  | fuel + 1, '%' :: '%' :: r =>
    let (before, rest) := plainPart fuel r
    ('%' :: before, rest)
  | _, '%' :: r => ([], '%' :: r)
  | fuel + 1, c :: r =>
    let (before, rest) := plainPart fuel r
    (c :: before, rest)
  | _, o => ([], o)

/-- A format for numbers: what stands before and after its directive, and the directive. -/
def numberFormat (o : Octets) :
    Except NumberFormatFault (Octets × Text.Directive × Char × Octets) := do
  let (before, r) := plainPart o.length o
  if r.isEmpty then throw .none
  let r := r.drop 1
  let flags := r.takeWhile fun c => Text.Directive.isFlag c || c == '\''
  let r := r.drop flags.length
  let width := r.takeWhile Char.isDigit
  let r := r.drop width.length
  let (precision, r) := match r with
    | '.' :: r =>
      let digits := r.takeWhile Char.isDigit
      (some ((Octets.natural? digits).getD 0), r.drop digits.length)
    | _ => (none, r)
  let r := if r.head? == some 'L' then r.drop 1 else r
  match r with
  | [] => throw .unfinished
  | c :: rest =>
    if !"aAeEfFgG".toList.contains c then throw (.unknown c)
    let (after, more) := plainPart rest.length rest
    if !more.isEmpty then throw .many
    .ok (before, { Text.Directive.ofFlags flags with
      width := (Octets.natural? width).getD 0, precision := precision }, c, after)

/-- A text filled up with zeros after its sign. -/
def zeroFilled (width : Nat) (o : Octets) : Octets :=
  let gap := List.replicate (width - o.length) '0'
  match o with
  | '-' :: r => '-' :: gap ++ r
  | _ => gap ++ o

/-- How numbers are printed: what stands before and after them, and their own text. -/
structure SequenceStyle where
  before : Octets
  after : Octets
  text : Quantity → Octets

/-- How numbers are printed if nothing else is asked for. -/
def SequenceStyle.plain (isWide : Bool) (first step last : SequenceNumber) : SequenceStyle :=
  let real (conversion : Char) (precision : Option Nat) (q : Quantity) : Octets :=
    ({ Text.Directive.plain with precision := precision }).real .extended conversion q
  let text : Quantity → Octets :=
    match first.places, step.places, last.places with
    | some p, some q, some r =>
      let places := max p q
      let more (own : Nat) : Int := if own == 0 && places != 0 then 1 else 0
      let firstWidth := first.width + ((places : Int) - p) + more p
      let lastWidth := last.width + ((places : Int) - r) + more r
        - (if r != 0 && places == 0 then 1 else 0)
      let written := real 'f' (some places)
      if isWide then fun x => zeroFilled (max firstWidth lastWidth).toNat (written x) else written
    | _, _, _ => real 'g' none
  ⟨[], [], text⟩

/-! ### Counting -/

/-- Prints integers from one on, as long as they are not past the last one if there is a last one. -/
def printIntegers (between : Octets) (last : Option Nat) (step : Nat) (fuel n : Nat) :
    ToolRun Nat :=
  match fuel with
  | 0 => return 0
  | fuel + 1 => do
    print (Nat.toDigits 10 n)
    if last.any (· < n + step) then
      print ['\n']
      return 0
    print between
    printIntegers between last step fuel (n + step)

/-- Whether one number comes before another. -/
def isBelow (x y : Quantity) : Bool :=
  match x, y with
  | .undefined _, _ => false
  | _, .undefined _ => false
  | .endless s, .endless t => s && !t
  | .endless s, _ => s
  | _, .endless t => !t
  | _, _ =>
    match x.quotient?, y.quotient? with
    | some (m, p), some (n, q) => m * (q : Int) < n * (p : Int)
    | _, _ => false

/-- The number that comes after some steps. -/
def afterSteps (first step : Quantity) (count : Nat) : Quantity :=
  match first.quotient?, step.quotient? with
  | some (a, b), some (m, p) =>
    match (BinaryFormat.extended.ofQuotient (m * (count : Int)) p).quotient? with
    | some (n, q) => BinaryFormat.extended.ofQuotient (a * (q : Int) + n * (b : Int)) (b * q)
    | none => step
  | none, _ => first
  | _, none => step

/-- Prints numbers from one on.  The number just past the last one is printed too if it prints as
the last one, and not as the one before. -/
def printNumbers (style : SequenceStyle) (between : Octets) (first step last : Quantity)
    (fuel count : Nat) (x : Quantity) : ToolRun Nat :=
  match fuel with
  | 0 => return 0
  | fuel + 1 => do
    print (style.before ++ style.text x ++ style.after)
    let next := afterSteps first step count
    let isPast (x : Quantity) : Bool :=
      if isBelow step Quantity.zero then isBelow x last else isBelow last x
    if isPast x then
      print ['\n']
      return 0
    let isExtra :=
      match BinaryFormat.extended.scan ((style.text next).dropWhile Text.isSpace) with
      | some (value, _, _) =>
        !isBelow value last && !isBelow last value && style.text next != style.text x
      | none => false
    if isPast next && !isExtra then
      print ['\n']
      return 0
    print between
    printNumbers style between first step last fuel (count + 1) next

/-- Takes the options off arguments: a number with a sign is none. -/
def sequenceOptions (fuel : Nat) (arguments : List Octets) :
    ToolRun (List GivenOption × List Octets) :=
  match fuel, arguments with
  | 0, _ => return ([], arguments)
  | _, [] => return ([], [])
  | fuel + 1, word :: rest => do
    let isOption := match word with
      | '-' :: c :: _ => !c.isDigit && c != '.'
      | _ => false
    if !isOption then return ([], arguments)
    if word == ['-', '-'] then return ([], rest)
    let (given, rest) ← OptionSpec.parse
      [.setting 's' "separator", .flag 'w' "equal-width", .setting 'f' "format"] 1 true 1 arguments
    let (more, operands) ← sequenceOptions fuel rest
    return (given ++ more, operands)

/-- The largest step by which integers are counted up exactly. -/
def greatestExactStep : Nat := 200

/-- Prints the numbers from one to another. -/
def sequenceTool : Procedure := fun _ arguments => do
  let (given, operands) ← sequenceOptions (arguments.length + 1) arguments
  needOperand 1 operands
  refuseExtra 1 3 operands
  let format ← (valueOf? given "format").mapM fun format => do
    match numberFormat format with
    | .ok parts => return parts
    | .error fault => giveUp 1 (octets "format " ++ quote format ++ fault.message)
  let isWide := has given "equal-width"
  if format.isSome && isWide then
    giveUpUsage 1 (octets "format string may not be specified when printing equal width strings")
  let between := (valueOf? given "separator").getD ['\n']
  let isPlain := format.isNone && !isWide && between.length == 1
  let count (first step : Nat) (last : Option Nat) : ToolRun Nat :=
    if last.any (· < first) then return 0 else printIntegers between last step Run.patience first
  let integers := operands.filterMap Octets.natural?
  if isPlain && integers.length == operands.length then
    match integers with
    | [last] => return ← count 1 1 (some last)
    | [first, last] => return ← count first 1 (some last)
    | [first, step, last] =>
      if 0 < step && step ≤ greatestExactStep then return ← count first step (some last)
    | _ => pure ()
  let one : SequenceNumber := ⟨BinaryFormat.extended.ofInt 1, 1, some 0⟩
  let (first, step, last) ← match operands with
    | [last] => do pure (one, one, ← readSequenceNumber last)
    | [first, last] => do pure (← readSequenceNumber first, one, ← readSequenceNumber last)
    | _ => do
      let first ← readSequenceNumber ((operands[0]?).getD [])
      let step ← readSequenceNumber ((operands[1]?).getD [])
      if step.value.quotient?.any (·.1 == 0) then
        giveUpUsage 1 (octets "invalid Zero increment value: " ++ quote ((operands[1]?).getD []))
      pure (first, step, ← readSequenceNumber ((operands[2]?).getD []))
  let whole (x : SequenceNumber) : Option Nat :=
    if x.places != some 0 then none
    else
      match x.value.quotient? with
      | some (n, d) => if 0 ≤ n && !x.value.isNegative then some (n.toNat / d) else none
      | none => none
  if isPlain then
    match whole first, whole step, whole last with
    | some n, some s, some m =>
      if 0 < s && s ≤ greatestExactStep then return ← count n s (some m)
    | some n, some s, none =>
      if last.value == .endless false && 0 < s && s ≤ greatestExactStep then
        return ← count n s none
    | _, _, _ => pure ()
  let style := match format with
    | some (before, directive, c, after) =>
      (⟨before, after, directive.real .extended c⟩ : SequenceStyle)
    | none => SequenceStyle.plain isWide first step last
  let isEmpty := if isBelow step.value Quantity.zero then isBelow first.value last.value
    else isBelow last.value first.value
  if isEmpty then return 0
  printNumbers style between first.value step.value last.value Run.patience 1 first.value

end Flowscript.Tool
