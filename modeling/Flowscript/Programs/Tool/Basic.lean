import Flowscript.Host.Task
import Flowscript.Programs.Text.CharClass

/-!
# Small programs

* `Procedure` is what a program does that scripts call.
* `ToolRun` is a piece of what one does.  What it prints is written when there is much of it, before
  a complaint, and at the end.
* `complainAbout` writes a complaint, and `giveUp` ends a program after one.
* `OptionSpec.parse` takes options off arguments.
-/

set_option autoImplicit false

namespace Flowscript.Tool

/-- What a program knows while it runs. -/
structure ToolState where
  name : Octets
  environment : List Octets
  /-- What is said about its arguments when they are wrong, and where to find help, after its name.
  -/
  usage : Octets
  hint : Octets → Octets
  /-- What it has printed and not written. -/
  output : ByteArray
  status : Nat

/-- A piece of what a program does; it can end with a status. -/
abbrev ToolRun := ExceptT Nat (StateT ToolState Run)

/-- A program: what it does with its arguments, and the status it ends with. -/
abbrev Procedure := (Invocation → Run Nat) → List Octets → ToolRun Nat

/-- Does something with the kernel. -/
def kernel {α : Type} (f : Kernel → α × Kernel) : ToolRun α := liftM (Run.kernel f)

/-- Looks at the kernel. -/
def look {α : Type} (f : Kernel → α) : ToolRun α := liftM (Run.look f)

/-- Ends the program. -/
def exit {α : Type} (status : Nat) : ToolRun α := throw status

/-- The bytes of a text. -/
def octets (s : String) : Octets := Octets.ofText s

/-! ## Output -/

/-- Writes to the errors. -/
def writeErrors (o : Octets) : ToolRun Unit := do
  let _ ← liftM (Run.write 2 (Octets.toBytes o))

/-- Writes what was printed. -/
def flush : ToolRun Unit := do
  let s ← get
  if s.output.isEmpty then return ()
  set { s with output := .empty }
  match ← liftM (Run.write 1 s.output) with
  | .ok () => return ()
  | .error fault =>
    writeErrors (s.name ++ octets (": write error: " ++ fault.message ++ "\n"))
    throw 1

/-- How much is printed before it is written. -/
def bufferSize : Nat := 4096

/-- Prints bytes. -/
def printBytes (bytes : ByteArray) : ToolRun Unit := do
  modify fun s => { s with output := s.output ++ bytes }
  if bufferSize ≤ (← get).output.size then flush

/-- Prints. -/
def print (o : Octets) : ToolRun Unit := printBytes (Octets.toBytes o)

/-- Prints a line. -/
def printLine (o : Octets) : ToolRun Unit := print (o ++ ['\n'])

/-- Writes a complaint. -/
def complain (message : Octets) : ToolRun Unit := do
  flush
  writeErrors ((← get).name ++ octets ": " ++ message ++ ['\n'])

/-- Notes that something went wrong, which the status tells at the end. -/
def noteFailure (status : Nat) : ToolRun Unit :=
  modify fun s => { s with status := max s.status status }

/-- Ends the program after a complaint. -/
def giveUp {α : Type} (status : Nat) (message : Octets) : ToolRun α := do
  complain message
  throw status

/-- Where to find help, for a name. -/
def usualHint (name : Octets) : Octets :=
  octets "Try '" ++ name ++ octets " --help' for more information.\n"

/-- Ends the program after it said where to find help. -/
def suggestHelp {α : Type} (status : Nat) : ToolRun α := do
  let s ← get
  writeErrors (s.usage ++ s.hint s.name)
  throw status

/-- Ends the program after a complaint about how it was called. -/
def giveUpUsage {α : Type} (status : Nat) (message : Octets) : ToolRun α := do
  complain message
  suggestHelp status

/-- The status that has been noted. -/
def notedStatus : ToolRun Nat := do return (← get).status

/-! ## Names in complaints -/

/-- A word between quotes. -/
def quote (o : Octets) : Octets := Text.quotedPlainly o

/-- The name of a file between quotes. -/
def quotePath (o : Octets) : Octets := Text.quotedForShell true o

/-- A name in front of a colon, between quotes if there is something special about it. -/
def quoteName (o : Octets) : Octets := Text.quotedForShell (o.contains ':') o

/-- A complaint about a file. -/
def complainAbout (path : Octets) (fault : Fault) : ToolRun Unit :=
  complain (quoteName path ++ octets (": " ++ fault.message))

/-! ## Options -/

/-- Whether an option has a value. -/
inductive OptionValue where
  | none
  | required
  | optional
  /-- Its long name can have one, its letter has none. -/
  | optionalAfterName
  /-- The letter is a digit, and starts a number. -/
  | digits
  deriving DecidableEq, Repr

/-- An option: its letter or none, its long name, and whether it has a value. -/
structure OptionSpec where
  letter : Char
  name : String
  value : OptionValue

/-- An option that was given, by its long name. -/
abbrev GivenOption := String × Octets

namespace OptionSpec

/-- An option without a value. -/
def flag (letter : Char) (name : String) : OptionSpec := ⟨letter, name, .none⟩

/-- An option with a value. -/
def setting (letter : Char) (name : String) : OptionSpec := ⟨letter, name, .required⟩

/-- What stands for no letter. -/
def noLetter : Char := '\x00'

/-- An option that is a number without a letter. -/
def number (name : String) : List OptionSpec :=
  "0123456789".toList.map fun c => ⟨c, name, .digits⟩

/-- Takes the options in a word of letters. -/
def parseLetters (specs : List OptionSpec) (wrong : Nat) (fuel : Nat) (letters : Octets)
    (rest : List Octets) : ToolRun (List GivenOption × List Octets) :=
  match fuel, letters with
  | 0, _ => return ([], rest)
  | _, [] => return ([], rest)
  | fuel + 1, c :: more => do
    match specs.find? (·.letter == c) with
    | none => giveUpUsage wrong (octets "invalid option -- " ++ quote [c])
    | some spec =>
      match spec.value with
      | .none | .optionalAfterName =>
        let (options, rest) ← parseLetters specs wrong fuel more rest
        return ((spec.name, []) :: options, rest)
      | .optional => return ([(spec.name, more)], rest)
      | .digits =>
        let number := (c :: more).takeWhile Char.isDigit
        let (options, rest) ←
          parseLetters specs wrong fuel ((c :: more).drop number.length) rest
        return ((spec.name, number) :: options, rest)
      | .required =>
        match more, rest with
        | [], value :: rest => return ([(spec.name, value)], rest)
        | [], [] => giveUpUsage wrong (octets "option requires an argument -- " ++ quote [c])
        | _, _ => return ([(spec.name, more)], rest)

/-- The options that programs have anyway. -/
def usual : List OptionSpec := [flag noLetter "help", flag noLetter "version"]

/-- The collection that a program belongs to, with its version. -/
def collectionOf (name : String) : String :=
  let among (names : List String) : Bool := names.contains name
  if among ["find", "xargs"] then name ++ " (GNU findutils) 4.9.0"
  else if among ["diff", "cmp", "diff3", "sdiff"] then name ++ " (GNU diffutils) 3.8"
  else if among ["grep", "egrep", "fgrep"] then "grep (GNU grep) 3.8"
  else if name == "sed" then "sed (GNU sed) 4.9"
  else if name == "tar" then "tar (GNU tar) 1.34"
  else if name == "gzip" then name ++ " 1.12"
  else if among ["gunzip", "zcat"] then name ++ " (gzip) 1.12"
  else if among ["setsid", "getopt", "flock"] then name ++ " from util-linux 2.38.1"
  else if name == "dd" then "dd (coreutils) 9.1"
  else name ++ " (GNU coreutils) 9.1"

/-- Says what a program is, or how it is called, and ends it. -/
def announce (isVersion : Bool) : ToolRun Unit := do
  let name := ((Text.splitAt (· == '/') (← get).name).getLast?.getD [])
  if isVersion then printLine (octets (collectionOf (String.ofList name)))
  else printLine (octets "Usage: " ++ (← get).name ++ octets " [OPTION]...")
  flush
  throw 0

/-- The option with a long name, or one that starts like that if there is only one. -/
def named (specs : List OptionSpec) (wrong : Nat) (word name : Octets) : ToolRun OptionSpec := do
  let specs := specs ++ usual.filter fun u => specs.all (·.name != u.name)
  match specs.find? fun s => octets s.name == name with
  | some spec => return spec
  | none =>
    let found := specs.filter fun s => Octets.starts name (octets s.name)
    match found with
    | [] => giveUpUsage wrong (octets "unrecognized option '" ++ word ++ ['\''])
    | spec :: rest =>
      if rest.all (·.name == spec.name) then return spec
      giveUpUsage wrong (octets "option '" ++ word ++ octets "' is ambiguous; possibilities:"
        ++ (found.map (·.name)).eraseDups.flatMap fun name => octets (" '--" ++ name ++ "'"))

/-- Takes an option with a long name. -/
def parseLong (specs : List OptionSpec) (wrong : Nat) (word : Octets) (rest : List Octets) :
    ToolRun (GivenOption × List Octets) := do
  let body := word.drop 2
  let name := body.takeWhile (· != '=')
  let spec ← named specs wrong word name
  match body.drop name.length, spec.value with
  | _ :: _, .none =>
    giveUpUsage wrong (octets ("option '--" ++ spec.name ++ "' doesn't allow an argument"))
  | [], .none =>
    if (spec.name == "help" || spec.name == "version") && specs.all (·.name != spec.name) then
      announce (spec.name == "version")
    return ((spec.name, []), rest)
  | _ :: value, _ => return ((spec.name, value), rest)
  | [], .required =>
    match rest with
    | value :: rest => return ((spec.name, value), rest)
    | [] => giveUpUsage wrong (octets ("option '--" ++ spec.name ++ "' requires an argument"))
  | [], _ => return ((spec.name, []), rest)

/-- Takes options off arguments; those that are none stay in their order.  Options end at `--`, and
at the first other argument if `inOrder` says so. -/
def parse (specs : List OptionSpec) (wrong : Nat) (inOrder : Bool) (fuel : Nat) :
    List Octets → ToolRun (List GivenOption × List Octets)
  | [] => return ([], [])
  | word :: rest =>
    match fuel with
    | 0 => return ([], word :: rest)
    | fuel + 1 => do
      let goOn (given : List GivenOption) (rest : List Octets) :
          ToolRun (List GivenOption × List Octets) := do
        let (options, operands) ← parse specs wrong inOrder fuel rest
        return (given ++ options, operands)
      match word with
      | ['-', '-'] => return ([], rest)
      | '-' :: '-' :: _ =>
        let (given, rest) ← parseLong specs wrong word rest
        goOn [given] rest
      | '-' :: c :: more =>
        let (given, rest) ← parseLetters specs wrong (more.length + 2) (c :: more) rest
        goOn given rest
      | _ =>
        if inOrder then return ([], word :: rest)
        let (options, operands) ← parse specs wrong inOrder fuel rest
        return (options, word :: operands)

end OptionSpec

/-- Takes options off arguments, wherever they stand. -/
def options (specs : List OptionSpec) (wrong : Nat) (arguments : List Octets) :
    ToolRun (List GivenOption × List Octets) :=
  OptionSpec.parse specs wrong false (arguments.length + 1) arguments

/-- Whether an option was given. -/
def has (given : List GivenOption) (name : String) : Bool := given.any (·.1 == name)

/-- The value of an option that was given last. -/
def valueOf? (given : List GivenOption) (name : String) : Option Octets :=
  (given.reverse.find? (·.1 == name)).map (·.2)

/-- The word that is meant: one of some groups of words that mean the same, or the start of one. -/
def chooseWordOr (wrong : Nat) (option : String) (groups : List (List String)) (o : Octets) :
    ToolRun String := do
  let isMeant (word : String) : Bool := octets word == o
  let isStart (word : String) : Bool := Octets.starts o (octets word)
  let whole := groups.filter (·.any isMeant)
  let found := if whole.isEmpty then groups.filter (·.any isStart) else whole
  match found with
  | [group] => return group.headD ""
  | _ =>
    let what := if found.isEmpty then "invalid" else "ambiguous"
    complain (octets (what ++ " argument ") ++ quote o ++ octets (" for '" ++ option ++ "'"))
    writeErrors (octets "Valid arguments are:\n")
    for group in groups do
      writeErrors (octets ("  - " ++ String.intercalate ", " (group.map fun w => "'" ++ w ++ "'")
        ++ "\n"))
    suggestHelp wrong

/-- The word that is meant, for programs whose status is 1 if they are called in a wrong way. -/
def chooseWord : String → List (List String) → Octets → ToolRun String := chooseWordOr 1

/-- The integer that a text means, which has to be in some bounds. -/
def integerIn (wrong : Nat) (what : String) (least most : Int) (o : Octets) : ToolRun Int := do
  let (isNegative, digits) := match o with
    | '-' :: r => (true, r)
    | '+' :: r => (false, r)
    | _ => (false, o)
  let refuse (reason : String) : ToolRun Int :=
    giveUp wrong (octets (what ++ ": ") ++ quote o ++ octets reason)
  match Octets.natural? digits with
  | none => refuse ""
  | some n =>
    let value : Int := if isNegative then -(n : Int) else n
    if isNegative && 0 ≤ least then refuse ""
    else if least ≤ value && value ≤ most then return value
    else if value.natAbs < 2 ^ 30 then refuse ": Numerical result out of range"
    else refuse ": Value too large for defined data type"

/-- The number that an option gives, or another one if it is not given. -/
def naturalIn (given : List GivenOption) (name what : String) (least other : Nat) :
    ToolRun Nat := do
  match valueOf? given name with
  | none => return other
  | some o => return (← integerIn 1 what least (2 ^ 64 - 1) o).toNat

/-- Ends the program if there are no operands. -/
def needOperand (wrong : Nat) (operands : List Octets) : ToolRun Unit := do
  if operands.isEmpty then giveUpUsage wrong (octets "missing operand")

/-- Ends the program if there are more than some operands. -/
def refuseExtra (wrong most : Nat) (operands : List Octets) : ToolRun Unit := do
  match operands.drop most with
  | [] => return ()
  | extra :: _ => giveUpUsage wrong (octets "extra operand " ++ quote extra)

/-! ## Input -/

/-- Opens an input; a single hyphen means what there is to read. -/
def openInput (path : Octets) : ToolRun (Except Fault Nat) := do
  if path == ['-'] then return .ok 0
  liftM (Run.openFile (Octets.toText path) .read)

/-- Closes an input. -/
def closeInput (descriptor : Nat) : ToolRun Unit := do
  if descriptor != 0 then liftM (Run.close descriptor)

/-- Reads a whole input. -/
def readInput (path : Octets) : ToolRun (Except Fault ByteArray) := do
  match ← openInput path with
  | .error fault => return .error fault
  | .ok descriptor =>
    let result ← liftM (Run.readAll descriptor)
    closeInput descriptor
    return result

/-- Reads whole inputs, one after the other, and what there is to read if none is named.  A
complaint is written about those that cannot be read. -/
def readInputs (status : Nat) (paths : List Octets) : ToolRun Octets := do
  let mut all : Octets := []
  for path in if paths.isEmpty then [['-']] else paths do
    match ← readInput path with
    | .ok bytes => all := all ++ Octets.ofBytes bytes
    | .error fault =>
      complainAbout path fault
      noteFailure status
  return all

/-! ## Lines one after the other -/

/-- Whether to go on with what is read, and what one knows so far. -/
abbrev Onward (σ : Type) := σ × Bool

/-- Does something with each of some lines, as long as that wants more. -/
def eachOf {σ : Type} (step : σ → Octets → Bool → ToolRun (Onward σ)) (isEnded : Bool) (s : σ) :
    List Octets → ToolRun (Onward σ)
  | [] => return (s, true)
  | line :: rest => do
    let (s, goesOn) ← step s line isEnded
    if goesOn then eachOf step isEnded s rest else return (s, false)

/-- Does something with each line of an input, as long as that wants more; each is told whether it
has an end.  `pending` is the start of a line that has been read already. -/
def eachLineFrom {σ : Type} (mark : Char) (step : σ → Octets → Bool → ToolRun (Onward σ))
    (descriptor fuel : Nat) (pending : Octets) (s : σ) : ToolRun (Except Fault (Onward σ)) :=
  match fuel with
  | 0 => return .ok (s, true)
  | fuel + 1 => do
    match ← liftM (Run.read descriptor Run.blockSize) with
    | .error fault => return .error fault
    | .ok bytes =>
      if bytes.isEmpty then
        return .ok (← eachOf step false s (if pending.isEmpty then [] else [pending]))
      let pieces := Text.splitAt (· == mark) (pending ++ Octets.ofBytes bytes)
      let (s, goesOn) ← eachOf step true s pieces.dropLast
      if goesOn then eachLineFrom mark step descriptor fuel (pieces.getLastD []) s
      else return .ok (s, false)

/-- Does something with each line of some inputs, one input after the other.  A complaint is written
about those that cannot be read. -/
def eachLine {σ : Type} (mark : Char) (step : σ → Octets → Bool → ToolRun (Onward σ))
    (status : Nat) (s : σ) : List Octets → ToolRun (Onward σ)
  | [] => return (s, true)
  | path :: rest => do
    match ← openInput path with
    | .error fault =>
      complainAbout path fault
      noteFailure status
      eachLine mark step status s rest
    | .ok descriptor =>
      let result ← eachLineFrom mark step descriptor Run.patience [] s
      closeInput descriptor
      match result with
      | .error fault =>
        complainAbout path fault
        noteFailure status
        eachLine mark step status s rest
      | .ok (s, goesOn) => if goesOn then eachLine mark step status s rest else return (s, false)

/-! ## Lines when they are wanted -/

/-- Inputs whose lines are read one by one: those that have not been opened, the one that is open,
its lines that have been read already, each with whether it has an end, and the start of the next. -/
structure LineSource where
  paths : List Octets
  current : Option (Octets × Nat)
  lines : List (Octets × Bool)
  pending : Octets

namespace LineSource

/-- The lines of some inputs. -/
def ofPaths (paths : List Octets) : LineSource := ⟨paths, none, [], []⟩

/-- Reads until there is a line, unless there are no more. -/
def fill (complaint : Octets → Fault → ToolRun Unit) (mark : Char) (fuel : Nat)
    (s : LineSource) : ToolRun LineSource :=
  match fuel with
  | 0 => return s
  | fuel + 1 => do
    if !s.lines.isEmpty then return s
    match s.current, s.paths with
    | none, [] => return s
    | none, path :: rest =>
      match ← openInput path with
      | .error fault =>
        complaint path fault
        fill complaint mark fuel { s with paths := rest }
      | .ok descriptor =>
        fill complaint mark fuel { s with paths := rest, current := some (path, descriptor) }
    | some (path, descriptor), _ =>
      match ← liftM (Run.read descriptor Run.blockSize) with
      | .error fault =>
        complaint path fault
        closeInput descriptor
        fill complaint mark fuel { s with current := none }
      | .ok bytes =>
        if bytes.isEmpty then
          closeInput descriptor
          let last := if s.pending.isEmpty then [] else [(s.pending, false)]
          fill complaint mark fuel { s with current := none, lines := last, pending := [] }
        else
          let pieces := Text.splitAt (· == mark) (s.pending ++ Octets.ofBytes bytes)
          fill complaint mark fuel
            { s with lines := pieces.dropLast.map (·, true), pending := pieces.getLastD [] }

end LineSource

/-- The inputs that are meant: what there is to read if none is named. -/
def inputsOr (paths : List Octets) : List Octets := if paths.isEmpty then [['-']] else paths

/-- Prints what becomes of each line of some inputs. -/
def mapLines (f : Octets → Octets) (paths : List Octets) : ToolRun Nat := do
  let step (_ : Unit) (line : Octets) (isEnded : Bool) : ToolRun (Onward Unit) := do
    print (if isEnded then f line ++ ['\n'] else f line)
    return ((), true)
  let _ ← eachLine '\n' step 1 () (inputsOr paths)
  notedStatus

/-- The value of a variable that the program got. -/
def binding? (name : String) : ToolRun (Option Octets) := do
  return Run.binding? (← get).environment name

/-! ## Running -/

/-- Runs a program to its end, and gives its status. -/
def run (tool : Procedure) (start : Invocation → Run Nat) (i : Invocation) : Run Nat := do
  let act : ToolRun Nat := do
    let status ← tool start (i.arguments.drop 1)
    flush
    return status
  let name := i.arguments.headD (octets i.program)
  let (result, s) ← (act.run).run ⟨name, i.environment, [], usualHint, .empty, 0⟩
  match result with
  | .ok status => pure status
  | .error status => do
    let (_, _) ← (flush.run).run s
    pure status

end Flowscript.Tool
