import Flowscript.Programs.Tool.Measure
import Flowscript.Programs.Tool.Processes
import Flowscript.Programs.Tool.Streams

/-!
# Programs that cut inputs into files

* `PieceNames` are the names of the files, one after the other.
* `SplitPlan` says where an input is cut, and `SplitPlan.pieces` are its pieces.
* `splitTool` cuts an input into files.
-/

set_option autoImplicit false

namespace Flowscript.Tool

/-! ## Names -/

/-- How files are named: what comes before and after the letters that count them, the letters, how
many there are, whether there are more when they do not suffice, and the first number. -/
structure PieceNames where
  lead : Octets
  ending : Octets
  letters : Octets
  width : Nat
  grows : Bool
  first : Nat

namespace PieceNames

/-- Letters that stand for a number. -/
def spelled (letters : Octets) (width n : Nat) : Octets :=
  ((List.range width).map fun i => (letters[n / letters.length ^ i % letters.length]?).getD 'a').reverse

/-- The letters of a name.  Where there can be more of them, the last letter in front stands only
before a longer rest. -/
def counted? (names : PieceNames) (fuel width n : Nat) : Option Octets :=
  let base := names.letters.length
  if !names.grows then if base ^ width ≤ n then none else some (spelled names.letters width n)
  else
    let short := (base - 1) * base ^ (width - 1)
    if n < short then some (spelled names.letters width n)
    else
      match fuel with
      | 0 => none
      | fuel + 1 =>
        (names.counted? fuel (width + 1) (n - short)).map (names.letters.getLastD 'z' :: ·)

/-- The name of a file, if there are letters for it. -/
def name? (names : PieceNames) (n : Nat) : Option Octets :=
  (names.counted? 8 names.width (names.first + n)).map fun letters =>
    names.lead ++ letters ++ names.ending

end PieceNames

/-! ## Cuts -/

/-- Where an input is cut. -/
inductive SplitPlan where
  | lines (count : Nat)
  | bytes (size : Nat)
  /-- Lines that are so long together. -/
  | wholeLines (size : Nat)
  /-- So many pieces of the same size, or only one of them. -/
  | parts (count : Nat) (only : Option Nat)
  /-- So many pieces of whole lines. -/
  | lineParts (count : Nat) (only : Option Nat)
  /-- So many pieces that get lines in turn. -/
  | turns (count : Nat) (only : Option Nat)
  deriving DecidableEq, Repr

namespace SplitPlan

/-- Pieces of some bytes. -/
def cutBytes (size fuel : Nat) (o : Octets) : List Octets :=
  match fuel with
  | 0 => []
  | fuel + 1 => if o.isEmpty then [] else o.take size :: cutBytes size fuel (o.drop size)

/-- Groups of some lines. -/
def cutLines (size fuel : Nat) (lines : List Octets) : List Octets :=
  match fuel with
  | 0 => []
  | fuel + 1 =>
    if lines.isEmpty then [] else (lines.take size).flatten :: cutLines size fuel (lines.drop size)

/-- Groups of lines that are together no longer than some size; a line that is longer is cut. -/
def cutWholeLines (size fuel : Nat) (group : Octets) (lines : List Octets) : List Octets :=
  match fuel, lines with
  | 0, _ => [group]
  | _, [] => if group.isEmpty then [] else [group]
  | fuel + 1, line :: rest =>
    if group.length + line.length ≤ size then cutWholeLines size fuel (group ++ line) rest
    else if group.isEmpty then
      line.take size :: cutWholeLines size fuel [] (line.drop size :: rest)
    else group :: cutWholeLines size fuel [] lines

/-- Where each of some parts of a length starts. -/
def starts (length count : Nat) : List Nat :=
  (List.range count).map fun i => i * (max length count / count)

/-- A given number of parts of the same size, the last one with what is left. -/
def cutParts (count : Nat) (o : Octets) : List Octets :=
  let starts := starts o.length count
  starts.zipIdx.map fun (start, i) =>
    let stop := if i + 1 == count then o.length else (starts[i + 1]?).getD o.length
    (o.drop start).take (stop - start)

/-- The parts to which lines belong by where they start. -/
def cutLineParts (count : Nat) (o : Octets) (lines : List Octets) : List Octets :=
  let size := max o.length count / count
  let placed := lines.foldl (fun ((start, all) : Nat × List (Nat × Octets)) line =>
    (start + line.length, (min (start / size) (count - 1), line) :: all)) (0, [])
  (List.range count).map fun i =>
    (placed.2.reverse.filterMap fun p => if p.1 == i then some p.2 else none).flatten

/-- Parts that get lines in turn. -/
def cutTurns (count : Nat) (lines : List Octets) : List Octets :=
  (List.range count).map fun i =>
    (lines.zipIdx.filterMap fun p => if p.2 % count == i then some p.1 else none).flatten

/-- The pieces of an input whose lines end with a mark. -/
def pieces (plan : SplitPlan) (mark : Char) (o : Octets) : List Octets :=
  let lines := markedLines mark o
  let fuel := o.length + lines.length + 1
  match plan with
  | .lines count => cutLines count fuel lines
  | .bytes size => cutBytes size fuel o
  | .wholeLines size => cutWholeLines size (2 * fuel) [] lines
  | .parts count _ => cutParts count o
  | .lineParts count _ => cutLineParts count o lines
  | .turns count _ => cutTurns count lines

/-- The number of pieces, if it is given. -/
def count? : SplitPlan → Option Nat
  | .parts n _ | .lineParts n _ | .turns n _ => some n
  | _ => none

/-- The only piece that is wanted, if there is one. -/
def only? : SplitPlan → Option Nat
  | .parts _ k | .lineParts _ k | .turns _ k => k
  | _ => none

/-- Whether the size of the input has to be known. -/
def needsSize : SplitPlan → Bool
  | .parts .. | .lineParts .. => true
  | _ => false

end SplitPlan

/-! ## Options -/

/-- The options of the program. -/
def splitOptions : List OptionSpec :=
  [.setting 'l' "lines", .setting 'b' "bytes", .setting 'C' "line-bytes", .setting 'n' "number",
    .setting 'a' "suffix-length", ⟨'d', "numeric-suffixes", .optionalAfterName⟩,
    ⟨'x', "hex-suffixes", .optionalAfterName⟩, .flag 'e' "elide-empty-files",
    .flag 'u' "unbuffered", .setting 't' "separator", .setting OptionSpec.noLetter "filter",
    .flag OptionSpec.noLetter "verbose", .setting OptionSpec.noLetter "additional-suffix"]
    ++ OptionSpec.number "digits"

/-- The letters of units of sizes. -/
def sizeUnits : String := "bEGKkMmPTYZ0"

/-- Reads a number of pieces, and which one of them is wanted. -/
def readParts (o : Octets) : ToolRun (Nat × Option Nat) := do
  let most := 2 ^ 64 - 1
  let first := o.takeWhile (· != '/')
  match o.drop first.length with
  | [] => return (← measureIn "invalid number of chunks" "" 1 most o, none)
  | _ :: last =>
    let count ← measureIn "invalid number of chunks" "" 1 most last
    if first.isEmpty then return (count, none)
    return (count, some (← measureIn "invalid chunk number" "" 1 count first))

/-- Where an input is cut, by the options. -/
def readSplitPlan (given : List GivenOption) : ToolRun SplitPlan := do
  let mut plan : Option SplitPlan := none
  let mut hasDigits := false
  for (name, value) in given do
    let refuseSecond : ToolRun Unit := do
      if plan.isSome then giveUpUsage 1 (octets "cannot split in more than one way")
    match name with
    | "lines" =>
      refuseSecond
      plan := some (.lines (← measureIn "invalid number of lines" "" 1 (2 ^ 64 - 1) value))
    | "bytes" =>
      refuseSecond
      plan := some (.bytes (← measureIn "invalid number of bytes" sizeUnits 1 (2 ^ 63 - 1) value))
    | "line-bytes" =>
      refuseSecond
      plan := some
        (.wholeLines (← measureIn "invalid number of bytes" sizeUnits 1 (2 ^ 63 - 1) value))
    | "number" =>
      refuseSecond
      let value := value.dropWhile Text.isSpace
      match value with
      | 'r' :: '/' :: r =>
        let (count, only) ← readParts r
        plan := some (.turns count only)
      | 'l' :: '/' :: r =>
        let (count, only) ← readParts r
        plan := some (.lineParts count only)
      | r =>
        let (count, only) ← readParts r
        plan := some (.parts count only)
    | "digits" =>
      if !hasDigits then refuseSecond
      hasDigits := true
      match Octets.natural? value with
      | some (n + 1) => plan := some (.lines (n + 1))
      | _ => plan := some (.lines 0)
    | _ => pure ()
  match plan with
  | some (.lines 0) => giveUpUsage 1 (octets "invalid number of lines: " ++ quote ['0'])
  | some chosen => return chosen
  | none => return .lines 1000

/-- The letters that count files, and the first number, by the options. -/
def readCounting (given : List GivenOption) : ToolRun (Octets × Option Octets) := do
  let mut counting : Octets × Option Octets := ("abcdefghijklmnopqrstuvwxyz".toList, none)
  for (name, value) in given do
    let isDecimal := name == "numeric-suffixes"
    if isDecimal || name == "hex-suffixes" then
      let letters := (if isDecimal then "0123456789" else "0123456789abcdef").toList
      if value.isEmpty then counting := (letters, none)
      else if value.all letters.contains then counting := (letters, some value)
      else
        giveUpUsage 1 (quote value ++ octets (if isDecimal
          then ": invalid start value for numerical suffix"
          else ": invalid start value for hexadecimal suffix"))
  return counting

/-- How files are named, by the options. -/
def readPieceNames (given : List GivenOption) (plan : SplitPlan) (lead : Octets) :
    ToolRun PieceNames := do
  let (letters, start) ← readCounting given
  let start := start.map fun digits =>
    let rest := digits.dropWhile (· == '0')
    if rest.isEmpty then ['0'] else rest
  let first := (start.getD []).foldl (fun n d => n * letters.length + letters.idxOf d) 0
  let needed := match plan.count? with
    | none => 0
    | some count =>
      let decimal := ((start.bind Octets.natural?).getD 0)
      let last := count - 1 + if decimal < count then decimal else 0
      ((List.range 64).find? fun w => 0 < w && last < letters.length ^ w).getD 64
  let ending := (valueOf? given "additional-suffix").getD []
  if ending.contains '/' then
    giveUpUsage 1 (octets "invalid suffix " ++ quote ending ++ octets ", contains directory separator")
  let wish ← (valueOf? given "suffix-length").mapM fun o =>
    measureIn "invalid suffix length" "" 0 (2 ^ 32) o
  let width ← match wish with
    | some (n + 1) =>
      if n + 1 < needed then
        giveUp 1 (octets s!"the suffix length needs to be at least {needed}")
      pure (n + 1)
    | _ => pure (max 2 needed)
  if start.any (width < ·.length) then
    giveUpUsage 1 (octets "numerical suffix start value is too large for the suffix length")
  return ⟨lead, ending, letters, width,
    start.isNone && plan.count?.isNone && wish.getD 0 == 0, first⟩

/-- The mark that ends lines, by the options. -/
def readSeparator (given : List GivenOption) : ToolRun Char := do
  let mut found : Option Char := none
  for (name, value) in given do
    if name == "separator" then
      let mark ← match value with
        | [] => giveUp 1 (octets "empty record separator")
        | [c] => pure c
        | ['\\', '0'] => pure '\x00'
        | _ => giveUp 1 (octets "multi-character separator " ++ quote value)
      if found.any (· != mark) then
        giveUp 1 (octets "multiple separator characters specified")
      found := some mark
  return found.getD '\n'

/-! ## The program -/

/-- Writes a piece to a file with some name, or lets a command read it. -/
def putPiece (start : Invocation → Run Nat) (given : List GivenOption) (name piece : Octets) :
    ToolRun Unit := do
  match valueOf? given "filter" with
  | some command =>
    if has given "verbose" then printLine (octets "executing with FILE=" ++ quotePath name)
    let shell := (← binding? "SHELL").getD (octets Run.plainShell)
    let before : ToolRun Unit := do
      let _ ← setVariables [octets "FILE=" ++ name]
    match ← feed start [shell, octets "-c", command] before (Octets.toBytes piece) with
    | .exited 0 => return ()
    | .exited status =>
      giveUp status (octets "with FILE=" ++ name
        ++ octets s!", exit {status} from command: " ++ command)
    | .killed (signal : Signal) =>
      giveUp (128 + signal) (octets "with FILE=" ++ name ++ octets ", signal "
        ++ octets ((Signal.name? signal).getD "") ++ octets " from command: " ++ command)
  | none =>
    if has given "verbose" then printLine (octets "creating file " ++ quotePath name)
    match ← liftM (Run.openFile (Octets.toText name) .write) with
    | .error fault => giveUp 1 (quoteName name ++ octets (": " ++ fault.message))
    | .ok descriptor =>
      let _ ← liftM (Run.write descriptor (Octets.toBytes piece))
      liftM (Run.close descriptor)

/-- Cuts an input into files. -/
def splitTool : Procedure := fun start arguments => do
  let (given, operands) ← options splitOptions 1 arguments
  let plan ← readSplitPlan given
  let mark ← readSeparator given
  if plan.only?.isSome && has given "filter" then
    giveUpUsage 1 (octets "--filter does not process a chunk extracted to stdout")
  let names ← readPieceNames given plan ((operands[1]?).getD ['x'])
  refuseExtra 1 2 operands
  let path := operands.headD ['-']
  match ← openInput path with
  | .error fault =>
    giveUp 1 (octets "cannot open " ++ quotePath path ++ octets (" for reading: " ++ fault.message))
  | .ok descriptor =>
    if plan.needsSize && (← look fun k => (k.offset? descriptor).isNone) then
      giveUp 1 (quoteName path ++ octets ": cannot determine file size")
    match ← liftM (Run.readAll descriptor) with
    | .error fault => giveUp 1 (quoteName path ++ octets (": " ++ fault.message))
    | .ok content =>
      let pieces := plan.pieces mark (Octets.ofBytes content)
      match plan.only? with
      | some k => print ((pieces[k - 1]?).getD [])
      | none =>
        let skipsEmpty := has given "elide-empty-files"
        let pieces := pieces.filter fun piece => !skipsEmpty || !piece.isEmpty
        for (piece, i) in pieces.zipIdx do
          match names.name? i with
          | none => giveUp 1 (octets "output file suffixes exhausted")
          | some name => putPiece start given name piece
      return 0

end Flowscript.Tool
