import Flowscript.Programs.Regex.Reading
import Flowscript.Programs.Tool.Basic

/-!
# Programs that pass on what they read

* `catTool` and `tacTool` pass on all of it, `headTool` and `tailTool` one end.
* `teeTool` passes it on to several files.
-/

set_option autoImplicit false

namespace Flowscript.Tool

/-! ## All of it -/

/-- A character as it is shown by those who want to see all of them. -/
def visible (showsTabs : Bool) (c : Char) : Octets :=
  let low (n : Nat) : Octets :=
    if n < 32 then ['^', Char.ofNat (n + 64)] else if n == 127 then ['^', '?'] else [Char.ofNat n]
  if c == '\t' then if showsTabs then ['^', 'I'] else ['\t']
  else if c.toNat < 128 then low c.toNat
  else 'M' :: '-' :: low (c.toNat - 128)

/-- How lines are passed on. -/
structure CatStyle where
  numbersAll : Bool
  numbersFilled : Bool
  squeezes : Bool
  showsEnds : Bool
  showsTabs : Bool
  showsAll : Bool

/-- What is known of the lines before: how many have a number, whether the last one was empty, and
whether a line has been started. -/
structure CatState where
  count : Nat
  wasEmpty : Bool
  isOpen : Bool

/-- A number in front of a line. -/
def lineNumber (n : Nat) : Octets :=
  let digits := Nat.toDigits 10 n
  List.replicate (6 - digits.length) ' ' ++ digits ++ ['\t']

/-- Passes on one line. -/
def CatStyle.line (style : CatStyle) (s : CatState) (line : Octets) (isEnded : Bool) :
    ToolRun (Onward CatState) := do
  let isEmpty := line.isEmpty && isEnded && !s.isOpen
  if isEmpty && s.wasEmpty && style.squeezes then return (s, true)
  let isNumbered := !s.isOpen && (style.numbersAll || style.numbersFilled)
    && !(style.numbersFilled && isEmpty)
  let count := if isNumbered then s.count + 1 else s.count
  let text := if style.showsAll then line.flatMap (visible style.showsTabs)
    else if style.showsTabs then line.flatMap fun c => if c == '\t' then ['^', 'I'] else [c]
    else line
  print ((if isNumbered then lineNumber count else []) ++ text
    ++ (if isEnded then if style.showsEnds then ['$', '\n'] else ['\n'] else []))
  return (⟨count, isEmpty, !isEnded⟩, true)

/-- Copies what is read as it comes. -/
def copyStream (descriptor fuel : Nat) : ToolRun (Except Fault Unit) :=
  match fuel with
  | 0 => return .ok ()
  | fuel + 1 => do
    match ← liftM (Run.read descriptor Run.blockSize) with
    | .error fault => return .error fault
    | .ok bytes =>
      if bytes.isEmpty then return .ok ()
      printBytes bytes
      flush
      copyStream descriptor fuel

/-- Whether what is read is the file that one writes to, of which there is more to read. -/
def readsOwnOutput (descriptor : Nat) : ToolRun Bool := look fun k =>
  match k.file? descriptor, k.file? 1 with
  | some (_, input), some (_, output) =>
    match input.channel with
    | .node n =>
      input.channel == output.channel
        && input.offset < ((k.tree.content? n).map (·.size)).getD 0
    | .pipe _ => false
  | _, _ => false

/-- Passes inputs on as they come. -/
def copyInputs : List Octets → ToolRun Nat
  | [] => notedStatus
  | path :: rest => do
    match ← openInput path with
    | .error fault =>
      complainAbout path fault
      noteFailure 1
    | .ok descriptor =>
      if ← readsOwnOutput descriptor then
        complain (quoteName path ++ octets ": input file is output file")
        noteFailure 1
      else
        match ← copyStream descriptor Run.patience with
        | .ok () => pure ()
        | .error fault =>
          complainAbout path fault
          noteFailure 1
      closeInput descriptor
    copyInputs rest

/-- Passes on all inputs. -/
def catTool : Procedure := fun _ arguments => do
  let (given, paths) ← options
    [.flag 'n' "number", .flag 'b' "number-nonblank", .flag 's' "squeeze-blank",
      .flag 'E' "show-ends", .flag 'T' "show-tabs", .flag 'v' "show-nonprinting",
      .flag 'A' "show-all", .flag 'e' "ends", .flag 't' "tabs", .flag 'u' "unbuffered"] 1 arguments
  let given := given.filter (·.1 != "unbuffered")
  let paths := inputsOr paths
  if given.isEmpty then copyInputs paths
  else
    let all := has given "show-all"
    let style : CatStyle :=
      { numbersAll := has given "number"
        numbersFilled := has given "number-nonblank"
        squeezes := has given "squeeze-blank"
        showsEnds := all || has given "show-ends" || has given "ends"
        showsTabs := all || has given "show-tabs" || has given "tabs"
        showsAll := all || has given "show-nonprinting" || has given "ends" || has given "tabs" }
    let _ ← eachLine '\n' style.line 1 ⟨0, false, false⟩ paths
    notedStatus

/-- The pieces of a text that end with a mark, or start with one, and what is left. -/
def piecesAt (mark : Char) (isBefore : Bool) (o : Octets) : List Octets :=
  let pieces := Text.splitAt (· == mark) o
  let marked := if isBefore then pieces.take 1 ++ pieces.tail.map (mark :: ·)
    else pieces.dropLast.map (· ++ [mark]) ++ [pieces.getLastD []]
  marked.filter (!·.isEmpty)

/-- The last match of a separator that starts before a position, in the text up to there. -/
def lastMatch? (separator : Regex) (o : Octets) (fuel start : Nat) : Option RegexMatch :=
  match fuel with
  | 0 => none
  | fuel + 1 =>
    let s := Regex.RegexState.skip ⟨0, none, o, []⟩ start
    match separator.matchAt? ⟨false, true⟩ o s with
    | some m => some m
    | none => if start == 0 then none else lastMatch? separator o fuel (start - 1)

/-- The pieces of a text at matches of a separator, the last one first.  Matches are looked for
before a position, and pieces end where the piece after them starts. -/
def piecesBackward (separator : Regex) (isBefore : Bool) (fuel : Nat) (isFirst : Bool)
    (o : Octets) (position stop : Nat) : List Octets :=
  let last := [o.take stop]
  match fuel with
  | 0 => last
  | fuel + 1 =>
    if position == 0 then last
    else
      match lastMatch? separator (o.take position) position (position - 1) with
      | none => last
      | some m =>
        let next := m.start - (m.stop - m.start - 1)
        let cut := if isBefore then m.start else m.stop
        let rest := piecesBackward separator isBefore fuel false o next cut
        if isFirst && !isBefore && cut == stop then rest
        else (o.take stop).drop cut :: rest

/-- Passes on the lines of each input, the last one first. -/
def tacTool : Procedure := fun _ arguments => do
  let (given, paths) ← options
    [.flag 'b' "before", .flag 'r' "regex", .setting 's' "separator"] 1 arguments
  let isBefore := has given "before"
  let text := (valueOf? given "separator").getD ['\n']
  let cut : Octets → List Octets ←
    if has given "regex" then
      if text.isEmpty then giveUp 1 (octets "separator cannot be empty")
      match Regex.read .editor text with
      | .error fault => giveUp 1 (octets fault.message)
      | .ok separator =>
        pure fun o => piecesBackward separator isBefore (o.length + 1) true o o.length o.length
    else
      match text with
      | [] => pure fun o => (piecesAt '\x00' isBefore o).reverse
      | [mark] => pure fun o => (piecesAt mark isBefore o).reverse
      | text =>
        let separator := text.foldl (fun r c => Regex.join r (.char c)) .empty
        pure fun o => piecesBackward separator isBefore (o.length + 1) true o o.length o.length
  for path in inputsOr paths do
    match ← readInput path with
    | .error .isDirectory =>
      complain (quoteName path ++ octets ": read error: Invalid argument")
      noteFailure 1
    | .error fault =>
      complain (octets "failed to open " ++ quotePath path
        ++ octets (" for reading: " ++ fault.message))
      noteFailure 1
    | .ok bytes => for piece in cut (Octets.ofBytes bytes) do print piece
  notedStatus

/-! ## One end of it -/

/-- A count of lines or bytes. -/
inductive Amount where
  | lines (n : Nat)
  | bytes (n : Nat)

/-- How an end is counted: a number with a sign of its own, if it has one. -/
structure Extent where
  sign : Option Char
  amount : Amount

/-- What a letter after a number multiplies it by. -/
def multiplier? (letters : Octets) : Option Nat :=
  match String.ofList letters with
  | "" => some 1
  | "b" => some 512
  | "kB" => some 1000
  | "k" | "K" | "KiB" => some 1024
  | "MB" => some 1000000
  | "m" | "M" | "MiB" => some 1048576
  | "GB" => some 1000000000
  | "g" | "G" | "GiB" => some 1073741824
  | _ => none

/-- Reads an extent. -/
def extent? (make : Nat → Amount) (o : Octets) : Option Extent :=
  let (sign, r) := match o with
    | '-' :: r => (some '-', r)
    | '+' :: r => (some '+', r)
    | _ => (none, o)
  let digits := r.takeWhile Char.isDigit
  match Octets.natural? digits, multiplier? (r.drop digits.length) with
  | some n, some m => some ⟨sign, make (n * m)⟩
  | _, _ => none

/-- Arguments of which one that is a number after a hyphen is written as an option. -/
def withoutShortCount : List Octets → List Octets
  | ('-' :: c :: r) :: rest =>
    if c.isDigit then
      let digits := (c :: r).takeWhile Char.isDigit
      match (c :: r).drop digits.length with
      | [] => ['-', 'n'] :: digits :: rest
      | ['c'] => ['-', 'c'] :: digits :: rest
      | ['q'] => ['-', 'q'] :: ['-', 'n'] :: digits :: rest
      | _ => ('-' :: c :: r) :: rest
    else ('-' :: c :: r) :: rest
  | words => words

/-- The options of programs that pass on one end. -/
def endOptions : List OptionSpec :=
  [.setting 'n' "lines", .setting 'c' "bytes", .flag 'q' "quiet", .flag 'v' "verbose",
    .flag 'z' "zero-terminated", ⟨OptionSpec.noLetter, "silent", .none⟩]

/-- The extent that options ask for, ten lines if none does. -/
def givenExtent (given : List GivenOption) : ToolRun Extent := do
  match given.reverse.find? fun o => o.1 == "lines" || o.1 == "bytes" with
  | none => return ⟨none, .lines 10⟩
  | some ("lines", o) =>
    match extent? .lines o with
    | some e => return e
    | none => giveUp 1 (octets "invalid number of lines: " ++ quote o)
  | some (_, o) =>
    match extent? .bytes o with
    | some e => return e
    | none => giveUp 1 (octets "invalid number of bytes: " ++ quote o)

/-- How many bytes `head` reads at a time. -/
def headBlock : Nat := 8192

/-- The bytes up to the end of some lines, the rest, and how many lines are missing. -/
def takeLines (mark : Char) (n : Nat) (o taken : Octets) : Octets × Octets × Nat :=
  match n, o with
  | 0, _ => (taken.reverse, o, 0)
  | _, [] => (taken.reverse, [], n)
  | n + 1, c :: r => takeLines mark (if c == mark then n else n + 1) r (c :: taken)
termination_by o.length

/-- Passes on some lines; what was read past them is given back if that can be done. -/
def headLines (mark : Char) (descriptor fuel n : Nat) : ToolRun (Except Fault Unit) :=
  match fuel with
  | 0 => return .ok ()
  | fuel + 1 => do
    if n == 0 then return .ok ()
    match ← liftM (Run.read descriptor headBlock) with
    | .error fault => return .error fault
    | .ok bytes =>
      if bytes.isEmpty then return .ok ()
      let (taken, rest, missing) := takeLines mark n (Octets.ofBytes bytes) []
      print taken
      if missing == 0 then
        kernel fun k => ((), match k.offset? descriptor with
          | some offset => k.seek descriptor (offset - rest.length)
          | none => k)
        return .ok ()
      headLines mark descriptor fuel missing

/-- Passes on some bytes. -/
def headBytes (descriptor fuel n : Nat) : ToolRun (Except Fault Unit) :=
  match fuel with
  | 0 => return .ok ()
  | fuel + 1 => do
    if n == 0 then return .ok ()
    match ← liftM (Run.read descriptor (min n headBlock)) with
    | .error fault => return .error fault
    | .ok bytes =>
      if bytes.isEmpty then return .ok ()
      printBytes bytes
      headBytes descriptor fuel (n - bytes.size)

/-- Lines with their marks. -/
def markedLines (mark : Char) (o : Octets) : List Octets :=
  let pieces := Text.splitAt (· == mark) o
  let whole := pieces.dropLast.map (· ++ [mark])
  match pieces.getLastD [] with
  | [] => whole
  | last => whole ++ [last]

/-- What is said before an input when there are several. -/
def printTitle (isFirst : Bool) (path : Octets) : ToolRun Unit := do
  let name := if path == ['-'] then octets "standard input" else path
  print (octets (if isFirst then "==> " else "\n==> ") ++ name ++ octets " <==\n")

/-- Passes on an end of each input. -/
def eachEnd (given : List GivenOption) (pass : Nat → ToolRun (Except Fault Unit))
    (paths : List Octets) : ToolRun Nat := do
  let isTitled := (1 < paths.length || has given "verbose")
    && !has given "quiet" && !has given "silent"
  let mut isFirst := true
  for path in paths do
    match ← openInput path with
    | .error fault =>
      complain (octets "cannot open " ++ quotePath path ++ octets (" for reading: " ++ fault.message))
      noteFailure 1
    | .ok descriptor =>
      if isTitled then printTitle isFirst path
      isFirst := false
      match ← pass descriptor with
      | .ok () => pure ()
      | .error fault =>
        complain (octets "error reading " ++ quotePath path ++ octets (": " ++ fault.message))
        noteFailure 1
      closeInput descriptor
  notedStatus

/-- Passes on the start of each input. -/
def headTool : Procedure := fun _ arguments => do
  let (given, paths) ← options endOptions 1 (withoutShortCount arguments)
  let mark := if has given "zero-terminated" then '\x00' else '\n'
  let extent ← givenExtent given
  let allBut (cut : Octets → Octets) (descriptor : Nat) : ToolRun (Except Fault Unit) := do
    match ← liftM (Run.readAll descriptor) with
    | .error fault => return .error fault
    | .ok bytes =>
      print (cut (Octets.ofBytes bytes))
      return .ok ()
  let pass (descriptor : Nat) : ToolRun (Except Fault Unit) :=
    match extent.sign, extent.amount with
    | some '-', .lines n => allBut (fun o =>
        let lines := markedLines mark o
        (lines.take (lines.length - n)).flatten) descriptor
    | some '-', .bytes n => allBut (fun o => o.take (o.length - n)) descriptor
    | _, .lines n => headLines mark descriptor Run.patience n
    | _, .bytes n => headBytes descriptor Run.patience n
  eachEnd given pass (inputsOr paths)

/-- Passes on the end of each input. -/
def tailTool : Procedure := fun _ arguments => do
  let arguments := match arguments with
    | ('+' :: c :: r) :: rest =>
      if c.isDigit then ['-', 'n'] :: ('+' :: c :: r) :: rest else arguments
    | _ => withoutShortCount arguments
  let (given, paths) ← options
    (endOptions ++ [.flag 'f' "follow", .flag 'F' "follow", .setting 's' "sleep-interval",
      .setting OptionSpec.noLetter "pid", .flag OptionSpec.noLetter "retry"]) 1 arguments
  let mark := if has given "zero-terminated" then '\x00' else '\n'
  let extent ← givenExtent given
  let cut (o : Octets) : Octets :=
    match extent.sign, extent.amount with
    | some '+', .lines n => ((markedLines mark o).drop (n - 1)).flatten
    | some '+', .bytes n => o.drop (n - 1)
    | _, .lines n =>
      let lines := markedLines mark o
      (lines.drop (lines.length - n)).flatten
    | _, .bytes n => o.drop (o.length - n)
  let pass (descriptor : Nat) : ToolRun (Except Fault Unit) := do
    match ← liftM (Run.readAll descriptor) with
    | .error fault => return .error fault
    | .ok bytes =>
      print (cut (Octets.ofBytes bytes))
      return .ok ()
  let status ← eachEnd given pass (inputsOr paths)
  if has given "follow" then
    flush
    liftM (Run.await fun _ => false)
  return status

/-! ## Several outputs -/

/-- Passes blocks on to descriptors, and stops writing to those that cannot be written to. -/
def spread (fuel : Nat) (targets : List (Octets × Nat)) : ToolRun Nat :=
  match fuel with
  | 0 => notedStatus
  | fuel + 1 => do
    match ← liftM (Run.read 0 Run.blockSize) with
    | .error fault =>
      complain (octets ("read error: " ++ fault.message))
      return 1
    | .ok bytes =>
      if bytes.isEmpty then notedStatus
      else
        let mut good := []
        for (name, descriptor) in targets do
          match ← liftM (Run.write descriptor bytes) with
          | .ok () => good := good ++ [(name, descriptor)]
          | .error fault =>
            complainAbout name fault
            noteFailure 1
        if good.isEmpty then notedStatus else spread fuel good

/-- Passes on what there is to read, also to files. -/
def teeTool : Procedure := fun _ arguments => do
  let (given, paths) ← options
    [.flag 'a' "append", .flag 'i' "ignore-interrupts", .flag 'p' "diagnose"] 1 arguments
  let mode := if has given "append" then OpenMode.append else OpenMode.write
  let mut targets := [(octets "standard output", 1)]
  for path in paths do
    match ← liftM (Run.openFile (Octets.toText path) mode) with
    | .ok descriptor => targets := targets ++ [(path, descriptor)]
    | .error fault =>
      complainAbout path fault
      noteFailure 1
  spread Run.patience targets

end Flowscript.Tool
