import Flowscript.Programs.Tool.Basic

/-!
# Programs that work with fields

* `PositionRange` is a range of fields or characters, and `readRanges` reads some.
* `cutTool` prints parts of lines, and `pasteTool` lines side by side.
-/

set_option autoImplicit false

namespace Flowscript.Tool

/-! ## Parts of lines -/

/-- A range of positions, from one on, with or without an end. -/
abbrev PositionRange := Nat × Option Nat

/-- Whether a position is in one of some ranges. -/
def inRanges (ranges : List PositionRange) (n : Nat) : Bool :=
  ranges.any fun r => r.1 ≤ n && r.2.all (n ≤ ·)

/-- Complains that a position is zero. -/
def refuseZero {α : Type} (isField : Bool) : ToolRun α :=
  giveUpUsage 1 (octets (if isField then "fields are numbered from 1"
    else "byte/character positions are numbered from 1"))

/-- A number at the start of a list, if there is one. -/
def takePosition (isField : Bool) (o : Octets) : ToolRun (Option Nat × Octets) := do
  let digits := o.takeWhile Char.isDigit
  match Octets.natural? digits with
  | none => return (none, o)
  | some n =>
    if 2 ^ 64 - 1 ≤ n then
      giveUpUsage 1 (octets (if isField then "field number " else "byte/character offset ")
        ++ quote digits ++ octets " is too large")
    return (some n, o.drop digits.length)

/-- Reads ranges with commas or blanks between them. -/
def readRanges (isField : Bool) (fuel : Nat) (o : Octets) : ToolRun (List PositionRange) :=
  match fuel with
  | 0 => return []
  | fuel + 1 => do
    let (first, r) ← takePosition isField o
    let (range, r) ← match r with
      | '-' :: r =>
        if first == some 0 then refuseZero isField
        let (last, r) ← takePosition isField r
        if first.isNone && last.isNone then
          if r.isEmpty || r.head?.any fun c => c == ',' || c == ' ' || c == '\t' then
            giveUpUsage 1 (octets "invalid range with no endpoint: -")
        if r.head? == some '-' then
          giveUpUsage 1 (octets (if isField then "invalid field range"
            else "invalid byte or character range"))
        let low := first.getD 1
        if last.any (· < low) then giveUpUsage 1 (octets "invalid decreasing range")
        pure ((low, last), r)
      | _ => pure ((first.getD 0, some (first.getD 0)), r)
    match r with
    | [] =>
      if range.1 == 0 then refuseZero isField
      return [range]
    | c :: rest =>
      if c == ',' || c == ' ' || c == '\t' then
        if range.1 == 0 then refuseZero isField
        return range :: (← readRanges isField fuel rest)
      else if isField then giveUpUsage 1 (octets "invalid field value " ++ quote r)
      else giveUpUsage 1 (octets "invalid byte/character position " ++ quote r)

/-- Ranges in their order, as one where they have a position in common. -/
def mergeRanges (ranges : List PositionRange) : List PositionRange :=
  ((ranges.mergeSort fun a b => a.1 ≤ b.1).foldl (fun (merged : List PositionRange) r =>
    match merged with
    | last :: before =>
      if last.2.all (r.1 ≤ ·) then
        let stop := match last.2, r.2 with
          | some m, some n => some (max m n)
          | _, _ => none
        (last.1, stop) :: before
      else r :: merged
    | [] => [r]) []).reverse

/-- The ranges between some ranges in their order, from a position on. -/
def rangesBetween (start : Nat) : List PositionRange → List PositionRange
  | [] => [(start, none)]
  | (low, stop) :: rest =>
    (if start < low then [(start, some (low - 1))] else []) ++ match stop with
      | some n => rangesBetween (n + 1) rest
      | none => []

/-- The members of a list at chosen positions. -/
def chosen {α : Type} (isChosen : Nat → Bool) (items : List α) : List α :=
  (items.zipIdx 1).filterMap fun p => if isChosen p.2 then some p.1 else none

/-- Prints parts of each line. -/
def cutTool : Procedure := fun _ arguments => do
  let (given, paths) ← options
    [.setting 'b' "bytes", .setting 'c' "characters", .setting 'f' "fields",
      .setting 'd' "delimiter", .flag 's' "only-delimited", .flag 'n' "whole",
      .flag OptionSpec.noLetter "complement", .setting OptionSpec.noLetter "output-delimiter",
      .flag 'z' "zero-terminated"] 1 arguments
  let lists := given.filter fun o =>
    o.1 == "bytes" || o.1 == "characters" || o.1 == "fields"
  match lists with
  | [] => giveUpUsage 1 (octets "you must specify a list of bytes, characters, or fields")
  | (kind, list) :: more =>
    if !more.isEmpty then giveUpUsage 1 (octets "only one list may be specified")
    let isField := kind == "fields"
    let delimiter ← match valueOf? given "delimiter" with
      | none => pure '\t'
      | some [c] => pure c
      | some [] => pure '\x00'
      | some _ => giveUpUsage 1 (octets "the delimiter must be a single character")
    if (valueOf? given "delimiter").isSome && !isField then
      giveUpUsage 1 (octets
        "an input delimiter may be specified only when operating on fields")
    if has given "only-delimited" && !isField then
      giveUpUsage 1 (octets ("suppressing non-delimited lines makes sense\n\tonly when "
        ++ "operating on fields"))
    let ranges := mergeRanges (← readRanges isField (list.length + 1) list)
    let ranges := if has given "complement" then rangesBetween 1 ranges else ranges
    let isChosen (n : Nat) : Bool := inRanges ranges n
    let between := valueOf? given "output-delimiter"
    let mark := if has given "zero-terminated" then '\x00' else '\n'
    let step (_ : Unit) (line : Octets) (_ : Bool) : ToolRun (Onward Unit) := do
      if isField then
        if line.contains delimiter then
          let fields := chosen isChosen (Text.splitAt (· == delimiter) line)
          print (Octets.join (between.getD [delimiter]) fields ++ [mark])
        else if !has given "only-delimited" then print (line ++ [mark])
      else
        match between with
        | none => print (chosen isChosen line ++ [mark])
        | some between =>
          let kept := chosen isChosen ((line.zipIdx 1))
          let text := kept.foldl (fun (before : Octets × Bool) p =>
            let starts := before.2 && ranges.any (·.1 == p.2)
            (before.1 ++ (if starts then between else []) ++ [p.1], true)) ([], false)
          print (text.1 ++ [mark])
      return ((), true)
    if isField && delimiter == mark then
      -- The lines of an input are its fields.
      for path in inputsOr paths do
        match ← readInput path with
        | .error fault =>
          complainAbout path fault
          noteFailure 1
        | .ok bytes =>
          let pieces := Text.splitAt (· == mark) (Octets.ofBytes bytes)
          let lines := if pieces.getLast? == some [] then pieces.dropLast else pieces
          let fields := if lines.length == 1 then lines else chosen isChosen lines
          if !fields.isEmpty then print (Octets.join (between.getD [mark]) fields ++ [mark])
    else
      let _ ← eachLine mark step 1 () (inputsOr paths)
    notedStatus

/-- The characters that a list of delimiters stands for, none where nothing is to be put. -/
def delimiters : Octets → List Octets
  | '\\' :: c :: r =>
    (match c with
      | 'n' => ['\n']
      | 't' => ['\t']
      | 'b' => ['\x08']
      | 'f' => ['\x0c']
      | 'r' => ['\r']
      | 'v' => ['\x0b']
      | '0' => []
      | c => [c]) :: delimiters r
  | c :: r => [c] :: delimiters r
  | [] => []

/-- Lines side by side, as long as there are any. -/
def pasteRows (between : List Octets) (fuel : Nat) (columns : List (List Octets)) : List Octets :=
  match fuel with
  | 0 => []
  | fuel + 1 =>
    if columns.all (·.isEmpty) then []
    else
      let row := columns.zipIdx.flatMap fun (lines, i) =>
        (if i == 0 then [] else (between[(i - 1) % between.length]?).getD []) ++ lines.headD []
      row :: pasteRows between fuel (columns.map (·.drop 1))

/-- The lines of an input. -/
def linesOf (mark : Char) (bytes : ByteArray) : List Octets :=
  let pieces := Text.splitAt (· == mark) (Octets.ofBytes bytes)
  if pieces.getLast? == some [] then pieces.dropLast else pieces

/-- The lines of inputs; those of an input that is named more than once are dealt out in turn. -/
def pasteColumns (mark : Char) (paths : List Octets) : ToolRun (List (List Octets)) := do
  let shared := paths.countP (· == ['-'])
  let mut columns := []
  let mut standard : List Octets := []
  for path in paths do
    if path != ['-'] then
      match ← openInput path with
      | .ok descriptor => closeInput descriptor
      | .error fault =>
        complainAbout path fault
        throw 1
  if 0 < shared then
    match ← readInput ['-'] with
    | .ok bytes => standard := linesOf mark bytes
    | .error fault =>
      complainAbout ['-'] fault
      noteFailure 1
  let mut turn := 0
  for path in paths do
    if path == ['-'] then
      let mine := turn
      columns := columns ++ [(standard.zipIdx.filter fun p => p.2 % shared == mine).map (·.1)]
      turn := turn + 1
    else
      match ← readInput path with
      | .ok bytes => columns := columns ++ [linesOf mark bytes]
      | .error fault =>
        complainAbout path fault
        noteFailure 1
        columns := columns ++ [[]]
  return columns

/-- Prints lines side by side. -/
def pasteTool : Procedure := fun _ arguments => do
  let (given, paths) ← options
    [.setting 'd' "delimiters", .flag 's' "serial", .flag 'z' "zero-terminated"] 1 arguments
  let list := (valueOf? given "delimiters").getD ['\t']
  if (list.reverse.takeWhile (· == '\\')).length % 2 == 1 then
    giveUp 1 (octets "delimiter list ends with an unescaped backslash: " ++ list)
  let between := if list.isEmpty then [[]] else delimiters list
  let mark := if has given "zero-terminated" then '\x00' else '\n'
  let paths := inputsOr paths
  if has given "serial" then
    for path in paths do
      match ← readInput path with
      | .error fault =>
        complainAbout path fault
        noteFailure 1
      | .ok bytes =>
        let text := (linesOf mark bytes).zipIdx.flatMap fun (line, i) =>
          (if i == 0 then [] else (between[(i - 1) % between.length]?).getD []) ++ line
        print (text ++ [mark])
  else
    let columns ← pasteColumns mark paths
    let rows := (columns.map (·.length)).foldl max 0
    for row in pasteRows between (rows + 1) columns do print (row ++ [mark])
  notedStatus

end Flowscript.Tool
