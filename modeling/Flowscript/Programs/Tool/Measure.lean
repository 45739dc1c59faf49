import Flowscript.Programs.Text.CharClass
import Flowscript.Programs.Tool.Basic

/-!
# Measures and counts

How much of something is asked for, and how much of it there is.

* `scanMeasure` reads a number whose unit is a letter after it.
* `measureIn` and `optionMeasure` give up if there is none.
* `Counts` are the numbers of lines, words and characters of a text.
* `countTool` prints them.
-/

set_option autoImplicit false

namespace Flowscript.Tool

/-! ## Numbers with units -/

/-- Why a text is no number with a unit. -/
inductive MeasureFault where
  | malformed
  | unknownUnit
  | tooLarge
  deriving DecidableEq, Repr

/-- What a unit multiplies by, and what follows it.  A second letter tells whether it is a power of
1000 or of 1024, if the units say with a zero that there can be one. -/
def unitOf? (units o : Octets) : Option (Nat × Octets) :=
  match o with
  | [] => some (1, [])
  | c :: r =>
    if !units.contains c then none
    else
      let hasSecond := "EGgkKMmPTtYZ".toList.contains c && units.contains '0'
      let (base, rest) := match r with
        | 'i' :: 'B' :: s => if hasSecond then (1024, s) else (1024, r)
        | 'B' :: s => if hasSecond then (1000, s) else (1024, r)
        | 'D' :: s => if hasSecond then (1000, s) else (1024, r)
        | _ => (1024, r)
      let power (n : Nat) : Option (Nat × Octets) := some (base ^ n, rest)
      match c with
      | 'b' => some (512, r)
      | 'B' => some (1024, r)
      | 'c' => some (1, r)
      | 'w' => some (2, r)
      | 'k' | 'K' => power 1
      | 'm' | 'M' => power 2
      | 'g' | 'G' => power 3
      | 't' | 'T' => power 4
      | 'P' => power 5
      | 'E' => power 6
      | 'Z' => power 7
      | 'Y' => power 8
      | _ => none

/-- Reads a number with a unit, in a given base or in the base that its first digits tell. -/
def scanMeasure (base : Option Nat) (units : String) (o : Octets) : Except MeasureFault Nat :=
  let o := o.dropWhile Text.isSpace
  let digits := if o.head? == some '+' then o.drop 1 else o
  let units := units.toList
  let scanned : Except MeasureFault (Nat × Octets) :=
    match Int64s.magnitude? base digits with
    | some (n, rest) => .ok (n, rest)
    | none =>
      if o.head?.any fun c => c != '-' && units.contains c then .ok (1, o) else .error .malformed
  match scanned with
  | .error fault => .error fault
  | .ok (n, rest) =>
    match unitOf? units rest with
    | some (scale, []) => if 2 ^ 64 ≤ n * scale then .error .tooLarge else .ok (n * scale)
    | _ => .error .unknownUnit

/-- The number with a unit that a text is, which has to be in some bounds. -/
def measureIn (what units : String) (least most : Nat) (o : Octets) : ToolRun Nat := do
  let refuse (reason : String) : ToolRun Nat :=
    giveUp 1 (octets (what ++ ": ") ++ quote o ++ octets reason)
  match scanMeasure (some 10) units o with
  | .error .tooLarge => refuse ": Value too large for defined data type"
  | .error _ => refuse ""
  | .ok n =>
    if least ≤ n && n ≤ most then return n
    else if n < 2 ^ 30 then refuse ": Numerical result out of range"
    else refuse ": Value too large for defined data type"

/-- The number with a unit that the value of an option is, in the base that its digits tell. -/
def optionMeasure (units option : String) (o : Octets) : ToolRun Nat := do
  match scanMeasure none units o with
  | .ok n => return n
  | .error .malformed => giveUp 1 (octets ("invalid " ++ option ++ " argument ") ++ quote o)
  | .error .unknownUnit =>
    giveUp 1 (octets ("invalid suffix in " ++ option ++ " argument ") ++ quote o)
  | .error .tooLarge => giveUp 1 (octets (option ++ " argument ") ++ quote o ++ octets " too large")

/-! ## A program that counts -/

/-! ### Counting -/

/-- What can be counted. -/
structure Counts where
  lines : Nat
  words : Nat
  bytes : Nat
  widest : Nat

namespace Counts

/-- Nothing. -/
def zero : Counts := ⟨0, 0, 0, 0⟩

/-- Counts of two inputs. -/
def add (a b : Counts) : Counts :=
  ⟨a.lines + b.lines, a.words + b.words, a.bytes + b.bytes, max a.widest b.widest⟩

/-- Counts what is in a text, after what has been counted: `column` is the width of the line so far,
and `isInside` says whether a word goes on. -/
def count (o : Octets) (c : Counts) (column : Nat) (isInside : Bool) : Counts :=
  let ends (c : Counts) : Counts := if isInside then { c with words := c.words + 1 } else c
  match o with
  | [] => ends { c with widest := max c.widest column }
  | d :: r =>
    let c := { c with bytes := c.bytes + 1 }
    if d == '\n' then
      count r (ends { c with lines := c.lines + 1, widest := max c.widest column }) 0 false
    else if d == '\r' || d == '\x0c' then
      count r (ends { c with widest := max c.widest column }) 0 false
    else if d == '\t' then count r (ends c) (column + 8 - column % 8) false
    else if d == ' ' then count r (ends c) (column + 1) false
    else if d == '\x0b' then count r (ends c) column false
    else if 32 < d.toNat && d.toNat < 127 then count r c (column + 1) true
    else count r c column isInside

/-- Counts what is in a text. -/
def of (o : Octets) : Counts := count o zero 0 false

end Counts

/-- The size of the regular file that one reads from a path, and otherwise whether there is anything
to read. -/
def sizeHint (path : Octets) : ToolRun (Option Nat × Bool) := look fun k =>
  let node? := if path == ['-'] then
      match k.file? 0 with
      | some (_, { channel := .node n, .. }) => some (some n)
      | some _ => some none
      | none => none
    else
      match k.find (Octets.toText path) true with
      | .ok n => some (some n)
      | .error _ => none
  match node? with
  | none => (none, false)
  | some none => (none, true)
  | some (some n) => ((k.tree.content? n).map (·.size), true)

/-- How wide counts are printed. -/
def countWidth (isSingle : Bool) (paths : List Octets) : ToolRun Nat := do
  if isSingle && paths.length ≤ 1 then return 1
  let hints ← paths.mapM sizeHint
  match hints with
  | (_, false) :: _ => return 1
  | _ =>
    let total := (hints.map fun h => h.1.getD 0).sum
    let least := if hints.any fun h => h.1.isNone && h.2 then 7 else 1
    return max least (Nat.toDigits 10 total).length

/-- Counts lines, words and bytes. -/
def countTool : Procedure := fun _ arguments => do
  let (given, paths) ← options
    [.flag 'l' "lines", .flag 'w' "words", .flag 'c' "bytes", .flag 'm' "chars",
      .flag 'L' "max-line-length", .setting OptionSpec.noLetter "files0-from"] 1 arguments
  let paths ← match valueOf? given "files0-from" with
    | none => pure paths
    | some path =>
      if !paths.isEmpty then
        complain (octets "extra operand " ++ quotePath (paths.headD []))
        writeErrors (octets "file operands cannot be combined with --files0-from\n")
        suggestHelp 1
      match ← readInput path with
      | .error fault =>
        giveUp 1 (octets "cannot open " ++ quotePath path
          ++ octets (" for reading: " ++ fault.message))
      | .ok bytes =>
        pure ((Text.splitAt (· == '\x00') (Octets.ofBytes bytes)).filter (!·.isEmpty))
  let given := given.filter (·.1 != "files0-from")
  let kinds := ["lines", "words", "chars", "bytes", "max-line-length"].filter fun kind =>
    has given kind || (given.isEmpty && ["lines", "words", "bytes"].contains kind)
  let inputs := inputsOr paths
  let width ← countWidth (kinds.length == 1) inputs
  let showCounts (c : Counts) (name : Octets) : ToolRun Unit :=
    let values := kinds.map fun kind => match kind with
      | "lines" => c.lines
      | "words" => c.words
      | "max-line-length" => c.widest
      | _ => c.bytes
    let texts := values.map fun n =>
      let digits := Nat.toDigits 10 n
      List.replicate (width - digits.length) ' ' ++ digits
    printLine (Octets.join [' '] texts ++ (if name.isEmpty then [] else ' ' :: name))
  let mut total := Counts.zero
  for path in inputs do
    match ← openInput path with
    | .error fault =>
      complainAbout path fault
      noteFailure 1
    | .ok descriptor =>
      let counts ← match ← liftM (Run.readAll descriptor) with
        | .ok bytes => pure (Counts.of (Octets.ofBytes bytes))
        | .error fault =>
          complainAbout path fault
          noteFailure 1
          pure Counts.zero
      closeInput descriptor
      showCounts counts (if paths.isEmpty then [] else path)
      total := total.add counts
  if 1 < inputs.length then showCounts total (octets "total")
  notedStatus

end Flowscript.Tool
