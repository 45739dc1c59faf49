import Flowscript.Programs.Tool.LineOrder

/-!
# Sorting

Tools that sort lines and tools for lines that are sorted.

* `uniqueTool` leaves out lines that are like the one before, or shows which are.
* `commonTool` shows which lines two inputs have in common.
* `readKey` reads a part of lines by which they are sorted, and `orderOf` what options ask for.
* `sortTool` sorts lines, merges sorted ones, or says whether they are sorted.
-/

set_option autoImplicit false

namespace Flowscript.Tool

/-! ## Programs that look at sorted lines -/

/-! ### Lines that are like the one before -/

/-- Groups of lines one after the other that count as the same. -/
def runsOf (isSame : Octets → Octets → Bool) (lines : List Octets) : List (List Octets) :=
  (lines.foldr (fun line (runs : List (List Octets)) =>
    match runs with
    | (next :: run) :: rest =>
      if isSame line next then (line :: next :: run) :: rest else [line] :: runs
    | _ => [line] :: runs) [])

/-- Where an empty line is put between groups. -/
inductive GroupMark where
  | none
  | before
  | after
  | between
  | both
  deriving DecidableEq, Repr

/-- Groups with empty lines where a mark says so. -/
def GroupMark.join (mark : GroupMark) (runs : List (List Octets)) : List Octets :=
  match mark with
  | .none => runs.flatten
  | .before => runs.flatMap ([] :: ·)
  | .after => runs.flatMap (· ++ [[]])
  | .between => (runs.intersperse [[]]).flatten
  | .both => if runs.isEmpty then [] else [] :: runs.flatMap (· ++ [[]])

/-- Which lines of a group are shown. -/
structure UniqueStyle where
  /-- Whether lines that stand alone are shown. -/
  single : Bool
  /-- Whether one line is shown of those that are repeated. -/
  first : Bool
  /-- Whether all of them are shown. -/
  others : Bool
  counts : Bool
  mark : GroupMark

/-- A line with a number before it. -/
def countedLine (n : Nat) (line : Octets) : Octets :=
  let digits := Nat.toDigits 10 n
  List.replicate (7 - digits.length) ' ' ++ digits ++ ' ' :: line

/-- The lines of a group that are shown. -/
def UniqueStyle.shown (style : UniqueStyle) (run : List Octets) : List Octets :=
  let count (line : Octets) : Octets :=
    if style.counts then countedLine run.length line else line
  match run with
  | [] => []
  | [line] => if style.single then [count line] else []
  | line :: _ =>
    if style.others then if style.first then run else run.dropLast
    else if style.first then [count line] else []

/-- All lines that are shown. -/
def UniqueStyle.lines (style : UniqueStyle) (runs : List (List Octets)) : List Octets :=
  style.mark.join ((runs.map style.shown).filter (!·.isEmpty))

/-- The mark that an option asks for. -/
def groupMark? (word : String) : GroupMark :=
  match word with
  | "prepend" => .before
  | "append" => .after
  | "separate" => .between
  | "both" => .both
  | _ => .none

/-- The style that options ask for. -/
def uniqueStyleOf (given : List GivenOption) : ToolRun UniqueStyle := do
  let picks := ["count", "repeated", "all-repeated", "unique"].any (has given)
  let all := has given "all-repeated"
  match valueOf? given "group" with
  | some word =>
    let word ← if word.isEmpty then pure "separate"
      else chooseWord "--group" [["prepend"], ["append"], ["separate"], ["both"]] word
    if picks then giveUpUsage 1 (octets "--group is mutually exclusive with -c/-d/-D/-u")
    return ⟨true, true, true, false, groupMark? word⟩
  | none =>
    let word ← match valueOf? given "all-repeated" with
      | none | some [] => pure "none"
      | some word => chooseWord "--all-repeated" [["none"], ["prepend"], ["separate"]] word
    if all && has given "count" then
      giveUpUsage 1
        (octets "printing all duplicated lines and repeat counts is meaningless")
    return ⟨!has given "repeated" && !all, !has given "unique", all, has given "count",
      groupMark? word⟩

/-- Arguments in which a number after a hyphen is written as an option with a value. -/
def withFieldCounts (arguments : List Octets) : List Octets := arguments.flatMap fun o =>
  match o with
  | '-' :: c :: r => if (c :: r).all Char.isDigit then [['-', 'f'], c :: r] else [o]
  | '+' :: c :: r => if (c :: r).all Char.isDigit then [['-', 's'], c :: r] else [o]
  | _ => [o]

/-- Leaves out lines that are like the one before. -/
def uniqueTool : Procedure := fun _ arguments => do
  let (given, paths) ← options
    [.flag 'c' "count", .flag 'd' "repeated", .flag 'u' "unique",
      ⟨'D', "all-repeated", .optionalAfterName⟩, ⟨OptionSpec.noLetter, "group", .optional⟩,
      .flag 'i' "ignore-case", .setting 'f' "skip-fields", .setting 's' "skip-chars",
      .setting 'w' "check-chars", .flag 'z' "zero-terminated"] 1 (withFieldCounts arguments)
  refuseExtra 1 2 paths
  let number (name what : String) (other : Nat) : ToolRun Nat := do
    match valueOf? given name with
    | none => return other
    | some o =>
      match Octets.natural? o with
      | some n => return n
      | none => giveUp 1 (o ++ octets (": invalid number of " ++ what))
  let fields ← number "skip-fields" "fields to skip" 0
  let chars ← number "skip-chars" "bytes to skip" 0
  let width ← number "check-chars" "bytes to compare" (2 ^ 64)
  let style ← uniqueStyleOf given
  let mark := if has given "zero-terminated" then '\x00' else '\n'
  let part (o : Octets) : Octets :=
    let o := ((afterFields none fields o).drop chars).take width
    if has given "ignore-case" then o.map Char.toUpper else o
  let input := paths.headD ['-']
  match ← openInput input with
  | .error fault =>
    complainAbout input fault
    return 1
  | .ok descriptor =>
    match ← liftM (Run.readAll descriptor) with
    | .error fault => giveUp 1 (octets "error reading " ++ quotePath input
        ++ octets (": " ++ fault.message))
    | .ok bytes =>
      let pieces := Text.splitAt (· == mark) (Octets.ofBytes bytes)
      let lines := if pieces.getLast? == some [] then pieces.dropLast else pieces
      let runs := runsOf (fun a b => part a == part b) lines
      let out := (style.lines runs).flatMap (· ++ [mark])
      match paths[1]? with
      | none | some ['-'] =>
        print out
        return 0
      | some path =>
        match ← liftM (Run.openFile (Octets.toText path) .write) with
        | .error fault =>
          complainAbout path fault
          return 1
        | .ok descriptor =>
          let _ ← liftM (Run.write descriptor (Octets.toBytes out))
          return 0

/-! ### Lines in common -/

/-- One of two sorted inputs: its number, the lines that are left of it, up to two lines before
those, the last one first, and whether it is known not to be sorted. -/
structure SortedInput where
  number : Nat
  rest : List Octets
  before : List Octets
  isDisordered : Bool

/-- When the order of inputs is checked: never, always, or once a line has no partner. -/
inductive OrderCheck where
  | never
  | always
  | whenAlone
  deriving DecidableEq, Repr

/-- Complains if two lines of an input are not in order. -/
def SortedInput.check (s : SortedInput) (checks : Bool) (isFatal : Bool) (a b : Octets) :
    ToolRun SortedInput := do
  if !checks || s.isDisordered || Octets.le a b then return s
  complain (octets ("file " ++ toString s.number ++ " is not in sorted order"))
  if isFatal then throw 1
  return { s with isDisordered := true }

/-- Goes on to the next line of an input. -/
def SortedInput.step (s : SortedInput) (checks isFatal : Bool) : ToolRun SortedInput := do
  match s.rest with
  | [] => return s
  | line :: rest =>
    let next := { s with rest := rest, before := line :: s.before.take 1 }
    match rest, s.before with
    | following :: _, _ => next.check checks isFatal line following
    | [], previous :: _ => next.check checks isFatal previous line
    | [], [] => return next

/-- Shows where each line of two inputs is; gives how many lines are in the first, the second and
both, and whether an input is not sorted. -/
def compareInputs (showLine : Nat → Octets → ToolRun Unit) (kind : OrderCheck) (fuel : Nat)
    (isAlone : Bool) (totals : Nat × Nat × Nat) (a b : SortedInput) :
    ToolRun ((Nat × Nat × Nat) × Bool) :=
  match fuel with
  | 0 => return (totals, false)
  | fuel + 1 => do
    let order ← match a.rest, b.rest with
      | [], [] => return (totals, a.isDisordered || b.isDisordered)
      | _, [] => pure Ordering.lt
      | [], _ => pure Ordering.gt
      | x :: _, y :: _ => pure (compareOctets x y)
    let isAlone := isAlone || order != .eq
    let checks := kind == .always || (kind == .whenAlone && isAlone)
    let isFatal := kind == .always
    let (one, two, three) := totals
    match order with
    | .lt =>
      showLine 1 (a.rest.headD [])
      compareInputs showLine kind fuel isAlone (one + 1, two, three)
        (← a.step checks isFatal) b
    | .gt =>
      showLine 2 (b.rest.headD [])
      compareInputs showLine kind fuel isAlone (one, two + 1, three)
        a (← b.step checks isFatal)
    | .eq =>
      showLine 3 (b.rest.headD [])
      let a ← a.step checks isFatal
      compareInputs showLine kind fuel isAlone (one, two, three + 1) a (← b.step checks isFatal)

/-- Shows which lines two inputs have in common. -/
def commonTool : Procedure := fun _ arguments => do
  let (given, paths) ← options
    [.flag '1' "hides-first", .flag '2' "hides-second", .flag '3' "hides-common",
      .setting OptionSpec.noLetter "output-delimiter", .flag OptionSpec.noLetter "check-order",
      .flag OptionSpec.noLetter "nocheck-order", .flag OptionSpec.noLetter "total",
      .flag 'z' "zero-terminated"] 1 arguments
  let betweens := ((given.filter (·.1 == "output-delimiter")).map (·.2)).eraseDups
  if 1 < betweens.length then giveUp 1 (octets "multiple output delimiters specified")
  let between := match betweens with
    | [] => ['\t']
    | [] :: _ => ['\x00']
    | o :: _ => o
  let mark := if has given "zero-terminated" then '\x00' else '\n'
  let lines (path : Octets) : ToolRun (List Octets) := do
    match ← readInput path with
    | .ok bytes =>
      let pieces := Text.splitAt (· == mark) (Octets.ofBytes bytes)
      return if pieces.getLast? == some [] then pieces.dropLast else pieces
    | .error fault =>
      complainAbout path fault
      throw 1
  match paths with
  | [a, b] =>
    let left ← lines a
    let right ← lines b
    let isHidden (n : Nat) : Bool := match n with
      | 1 => has given "hides-first"
      | 2 => has given "hides-second"
      | _ => has given "hides-common"
    let showLine (n : Nat) (line : Octets) : ToolRun Unit := do
      if !isHidden n then
        let before := ((List.range n).drop 1).filter fun m => !isHidden m
        print (before.flatMap (fun _ => between) ++ line ++ [mark])
    let kind := if has given "nocheck-order" then OrderCheck.never
      else if has given "check-order" then .always
      else .whenAlone
    let ((one, two, three), isWrong) ← compareInputs showLine kind (left.length + right.length + 1)
      false (0, 0, 0) ⟨1, left, [], false⟩ ⟨2, right, [], false⟩
    if has given "total" then
      print (Octets.join between ([one, two, three].map (Nat.toDigits 10) ++ [octets "total"])
        ++ [mark])
    if isWrong then giveUp 1 (octets "input is not in sorted order")
    return 0
  | [] => giveUpUsage 1 (octets "missing operand")
  | [a] => giveUpUsage 1 (octets "missing operand after " ++ quote a)
  | _ :: _ :: c :: _ => giveUpUsage 1 (octets "extra operand " ++ quote c)

/-! ## A program that sorts lines -/

/-! ### What the order is -/

/-- A style with what a letter says. -/
def SortStyle.withLetter? (style : SortStyle) (isEnd : Bool) (c : Char) : Option SortStyle :=
  let read (kind : SortKind) : Option SortStyle :=
    some (if style.kinds.contains kind then style else { style with kinds := style.kinds ++ [kind] })
  match c with
  | 'b' => some (if isEnd then { style with skipsEndBlanks := true }
      else { style with skipsStartBlanks := true })
  | 'd' => some { style with isDictionary := true }
  | 'f' => some { style with foldsCase := true }
  | 'i' => some { style with isPrintable := true }
  | 'g' => read .general
  | 'h' => read .human
  | 'M' => read .month
  | 'n' => read .number
  | 'R' => read .random
  | 'r' => some { style with isReversed := true }
  | 'V' => read .version
  | _ => none

/-- The letters of what does not go together in a style, unless all of it does. -/
def SortStyle.clash? (style : SortStyle) : Option Octets :=
  let ignores := style.isDictionary || style.isPrintable
  let counts (kind : SortKind) : Bool := style.kinds.contains kind
  let others := counts .version || counts .random || ignores
  let numbers := [SortKind.number, .general, .human, .month].filter counts
  if numbers.length + (if others then 1 else 0) ≤ 1 then none
  else
    let letters := [(style.isDictionary, 'd'), (style.foldsCase, 'f'), (counts .general, 'g'),
      (counts .human, 'h'), (style.isPrintable && !style.isDictionary, 'i'), (counts .month, 'M'),
      (counts .number, 'n'), (counts .random, 'R'), (counts .version, 'V')]
    some ((letters.filter (·.1)).map (·.2))

/-- Takes letters that change a style. -/
def takeStyle (isEnd : Bool) (style : SortStyle) : Octets → SortStyle × Octets
  | [] => (style, [])
  | c :: r =>
    match style.withLetter? isEnd c with
    | some style => takeStyle isEnd style r
    | none => (style, c :: r)

/-- Takes a number. -/
def takeNatural? (o : Octets) : Option (Nat × Octets) :=
  let digits := o.takeWhile Char.isDigit
  (Octets.natural? digits).map fun n => (n, o.drop digits.length)

/-- Reads a key. -/
def readKey (o : Octets) : ToolRun SortKey := do
  let wrong {α : Type} (message : String) : ToolRun α :=
    giveUp 2 (octets (message ++ ": invalid field specification ") ++ quote o)
  let some (field, r) := takeNatural? o
    | giveUp 2 (octets "invalid number at field start: invalid count at start of " ++ quote o)
  if field == 0 then wrong "field number is zero"
  let (char, r) ← match r with
    | '.' :: r =>
      match takeNatural? r with
      | some (0, _) => wrong "character offset is zero"
      | some (n, r) => pure (n - 1, r)
      | none => giveUp 2 (octets "invalid number after '.': invalid count at start of " ++ quote r)
    | _ => pure (0, r)
  let (style, r) := takeStyle false .plain r
  match r with
  | [] => return ⟨⟨field - 1, char⟩, none, style⟩
  | ',' :: r =>
    let some (last, r) := takeNatural? r
      | giveUp 2 (octets "invalid number after ',': invalid count at start of " ++ quote r)
    if last == 0 then wrong "field number is zero"
    let (char2, r) ← match r with
      | '.' :: r =>
        match takeNatural? r with
        | some p => pure p
        | none =>
          giveUp 2 (octets "invalid number after '.': invalid count at start of " ++ quote r)
      | _ => pure (0, r)
    let (style, r) := takeStyle true style r
    if !r.isEmpty then wrong "stray character in field spec"
    return ⟨⟨field - 1, char⟩, some ⟨last - 1, char2⟩, style⟩
  | _ => wrong "stray character in field spec"

/-- The options that change how everything is compared. -/
def styleOptions : List OptionSpec :=
  [.flag 'b' "ignore-leading-blanks", .flag 'd' "dictionary-order", .flag 'f' "ignore-case",
    .flag 'i' "ignore-nonprinting", .flag 'g' "general-numeric-sort",
    .flag 'h' "human-numeric-sort", .flag 'M' "month-sort", .flag 'n' "numeric-sort",
    .flag 'R' "random-sort", .flag 'r' "reverse", .flag 'V' "version-sort"]

/-- The style that options ask for. -/
def styleOf (given : List GivenOption) : SortStyle :=
  let byWord (o : Octets) : Option Char :=
    [("general-numeric", 'g'), ("human-numeric", 'h'), ("month", 'M'), ("numeric", 'n'),
      ("random", 'R'), ("version", 'V')].lookup (String.ofList o)
  given.foldl (fun style (name, value) =>
    let letter := if name == "sort" then byWord value
      else (styleOptions.find? (·.name == name)).map (·.letter)
    match letter with
    | none => style
    | some c =>
      let style := (style.withLetter? false c).getD style
      (style.withLetter? true c).getD style) .plain

/-- The mark between fields that options ask for. -/
def fieldMarkOf (given : List GivenOption) : ToolRun (Option Char) := do
  let read (o : Octets) : ToolRun Char := do
    match o with
    | [c] => return c
    | ['\\', '0'] => return '\x00'
    | [] => giveUp 2 (octets "empty tab")
    | o => giveUp 2 (octets "multi-character tab " ++ quote o)
  let marks ← ((given.filter (·.1 == "field-separator")).map (·.2)).mapM read
  if marks.any fun c => some c != marks.head? then giveUp 2 (octets "incompatible tabs")
  return marks.head?

/-- The order that options ask for. -/
def orderOf (given : List GivenOption) : ToolRun SortOrder := do
  let style := styleOf given
  let mark ← fieldMarkOf given
  let keys ← ((given.filter (·.1 == "key")).map (·.2)).mapM readKey
  let keys := keys.map fun key => if key.style == .plain then { key with style := style } else key
  let keys := if keys.isEmpty && { style with isReversed := false } != .plain then
      [⟨⟨0, 0⟩, none, style⟩]
    else keys
  for key in keys do
    match key.style.clash? with
    | some letters => giveUp 2 (octets "options " ++ quote ('-' :: letters)
        ++ octets " are incompatible")
    | none => pure ()
  let isTotal := keys.isEmpty || !(has given "stable" || has given "unique")
  return ⟨mark, keys, isTotal, style.isReversed⟩

/-! ### Sorting -/

/-- The first of each run of lines that compare as the same. -/
def firstOfRuns (isSame : Octets → Octets → Bool) : List Octets → List Octets
  | [] => []
  | line :: rest =>
    (rest.foldl (fun (kept : List Octets × Octets) next =>
      if isSame kept.2 next then kept else (next :: kept.1, next)) ([line], line)).1.reverse

/-- The number, from one on, and the text of the first line that is not in order. -/
def firstDisorder? (isFine : Octets → Octets → Bool) (n : Nat) : List Octets →
    Option (Nat × Octets)
  | a :: b :: rest =>
    if isFine a b then firstDisorder? isFine (n + 1) (b :: rest) else some (n + 1, b)
  | _ => none

/-- Takes the least of the lines that inputs start with, the first of those that are the same, over
and over. -/
def mergeLines (comesBefore : Octets → Octets → Bool) (fuel : Nat) (inputs : List (List Octets)) :
    List Octets :=
  match fuel with
  | 0 => []
  | fuel + 1 =>
    let least := inputs.zipIdx.foldl (fun (best : Option (Octets × Nat)) (lines, i) =>
      match lines, best with
      | [], _ => best
      | line :: _, none => some (line, i)
      | line :: _, some (other, _) => if comesBefore line other then some (line, i) else best) none
    match least with
    | none => []
    | some (line, i) => line :: mergeLines comesBefore fuel (inputs.modify i (·.drop 1))

/-- Reads the lines of an input. -/
def readMarkedLines (mark : Char) (path : Octets) : ToolRun (List Octets) := do
  match ← openInput path with
  | .error fault =>
    giveUp 2 (octets "cannot read: " ++ quoteName path ++ octets (": " ++ fault.message))
  | .ok descriptor =>
    match ← liftM (Run.readAll descriptor) with
    | .error fault =>
      giveUp 2 (octets "read failed: " ++ quoteName path ++ octets (": " ++ fault.message))
    | .ok bytes =>
      closeInput descriptor
      let pieces := Text.splitAt (· == mark) (Octets.ofBytes bytes)
      return if pieces.getLast? == some [] then pieces.dropLast else pieces

/-- The options of the program that sorts. -/
def sortOptions : List OptionSpec :=
  styleOptions ++ [.setting 'k' "key", .setting 't' "field-separator", .flag 'u' "unique",
    .flag 's' "stable", .setting 'o' "output", ⟨'c', "check", .optionalAfterName⟩, .flag 'C' "check-silent",
    .flag 'm' "merge", .flag 'z' "zero-terminated", .setting 'S' "buffer-size",
    .setting 'T' "temporary-directory", .setting OptionSpec.noLetter "parallel",
    .setting OptionSpec.noLetter "batch-size", .setting OptionSpec.noLetter "compress-program",
    .setting OptionSpec.noLetter "random-source", .setting OptionSpec.noLetter "sort",
    .setting OptionSpec.noLetter "files0-from", .flag OptionSpec.noLetter "debug",
    .setting 'y' "ignored"]

/-- Puts whole words in place of what options start them with. -/
def settleSortOptions (given : List GivenOption) : ToolRun (List GivenOption) :=
  given.mapM fun (name, value) => do
    if name == "sort" then
      let word ← chooseWord "--sort" [["general-numeric"], ["human-numeric"], ["month"],
        ["numeric"], ["random"], ["version"]] value
      return (name, octets word)
    if name == "check" && !value.isEmpty then
      let word ← chooseWord "--check" [["quiet", "silent"], ["diagnose-first"]] value
      return (if word == "quiet" then "check-silent" else name, [])
    if name == "parallel" && Octets.natural? value == some 0 then
      giveUp 2 (octets "number in parallel must be nonzero")
    if name == "buffer-size" && !value.head?.any Char.isDigit then
      giveUp 2 (octets "invalid -S argument " ++ quote value)
    return (name, value)

/-- The inputs of the program that sorts: its operands, or those that a file names. -/
def sortInputs (given : List GivenOption) (operands : List Octets) : ToolRun (List Octets) := do
  match valueOf? given "files0-from" with
  | none => return inputsOr operands
  | some path =>
    match operands with
    | extra :: _ =>
      complain (octets "extra operand " ++ quotePath extra)
      writeErrors (octets "file operands cannot be combined with --files0-from\n")
      suggestHelp 2
    | [] =>
      match ← readInput path with
      | .error fault =>
        giveUp 2 (octets "cannot open " ++ quotePath path
          ++ octets (" for reading: " ++ fault.message))
      | .ok bytes =>
        let names := (Text.splitAt (· == '\x00') (Octets.ofBytes bytes)).filter (!·.isEmpty)
        if names.isEmpty then giveUp 2 (octets "no input from " ++ quotePath path)
        return names

/-- Says whether lines are sorted. -/
def checkSorted (order : SortOrder) (given : List GivenOption) (path : Octets)
    (lines : List Octets) : ToolRun Nat := do
  let isFine (a b : Octets) : Bool :=
    if has given "unique" then order.compare a b == .lt else order.compare a b != .gt
  match firstDisorder? isFine 1 lines with
  | none => return 0
  | some (n, line) =>
    if !has given "check-silent" then
      complain (path ++ octets (":" ++ toString n ++ ": disorder: ") ++ line)
    return 1

/-- Sorts lines. -/
def sortTool : Procedure := fun _ arguments => do
  let (given, operands) ← options sortOptions 2 arguments
  let given ← settleSortOptions given
  let order ← orderOf given
  let mark := if has given "zero-terminated" then '\x00' else '\n'
  let checks := has given "check" || has given "check-silent"
  if has given "check" && has given "check-silent" then
    giveUp 2 (octets "options '-cC' are incompatible")
  let outputs := ((given.filter (·.1 == "output")).map (·.2)).eraseDups
  if 1 < outputs.length then giveUp 2 (octets "multiple output files specified")
  let paths ← sortInputs given operands
  if checks then
    let letter := if has given "check" then 'c' else 'C'
    if 1 < paths.length then
      giveUp 2 (octets "extra operand " ++ quotePath ((paths[1]?).getD [])
        ++ octets " not allowed with -" ++ [letter])
    if !outputs.isEmpty then giveUp 2 (octets "options '-" ++ [letter, 'o'] ++ octets "' are incompatible")
    return ← checkSorted order given (paths.headD []) (← readMarkedLines mark (paths.headD []))
  let inputs ← paths.mapM (readMarkedLines mark)
  let sorted := if has given "merge" then
      mergeLines (fun a b => order.compare a b == .lt) (inputs.flatten.length + 1) inputs
    else inputs.flatten.mergeSort fun a b => order.compare a b != .gt
  let sorted := if has given "unique" then
      firstOfRuns (fun a b => order.compare a b == .eq) sorted
    else sorted
  match outputs with
  | [] => for line in sorted do print (line ++ [mark])
  | path :: _ =>
    match ← liftM (Run.openFile (Octets.toText path) .write) with
    | .error fault =>
      giveUp 2 (octets "open failed: " ++ quoteName path ++ octets (": " ++ fault.message))
    | .ok descriptor =>
      let bytes := Octets.toBytes (sorted.flatMap (· ++ [mark]))
      let _ ← liftM (Run.write descriptor bytes)
  return 0

end Flowscript.Tool
