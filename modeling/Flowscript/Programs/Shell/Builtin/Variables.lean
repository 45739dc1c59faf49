import Flowscript.Programs.Shell.Redirecting

/-!
# Commands for variables

* `Builtin.export`, `Builtin.readonly` and `Builtin.local` say what kind of variable something is.
* `Builtin.set`, `Builtin.shift` and `Builtin.unset` change parameters, options and variables.
* `Builtin.getopts` and `Builtin.read` give values to variables.
-/

set_option autoImplicit false

namespace Flowscript.Shell

/-- Prints variables with their values, sorted. -/
def printVariables (lead : Octets) (vs : List Variable) : Act Unit := do
  let sorted := vs.mergeSort fun a b => decide (a.name ≤ b.name)
  for v in sorted do
    printLine (lead ++ octets v.name ++ match v.value with
      | some value => '=' :: quoted value
      | none => [])

/-- Marks variables, and sets those for which a value is given. -/
def markAll (isExported isReadOnly : Bool) (arguments : List Octets) : Act Unit := do
  for a in arguments do
    let (name, value) := splitAssignment a
    match value, (← get).binding? (String.ofList name) with
    | none, some v =>
      modify (·.put { v with
        isExported := v.isExported || isExported
        isReadOnly := v.isReadOnly || isReadOnly })
    | _, _ =>
      let name ← checkName name
      assignWith name value isExported isReadOnly

/-- What `export` and `readonly` do. -/
def markCommand (name : String) (isExported isReadOnly : Bool) (arguments : List Octets) :
    Act Nat := do
  let (options, rest) ← readOptions "p" arguments
  if options.isEmpty && !rest.isEmpty then markAll isExported isReadOnly rest
  else
    let chosen (v : Variable) : Bool :=
      (isExported && v.isExported) || (isReadOnly && v.isReadOnly)
    printVariables (octets (name ++ " ")) ((← get).bindings.filter chosen)
  return 0

/-- Lets other programs have variables. -/
def Builtin.export : Builtin :=
  ⟨"export", true, true, fun _ _ arguments => markCommand "export" true false arguments⟩

/-- Lets variables stay as they are. -/
def Builtin.readonly : Builtin :=
  ⟨"readonly", true, true, fun _ _ arguments => markCommand "readonly" false true arguments⟩

/-- Lets variables be what they were when the present function is left. -/
def Builtin.local : Builtin :=
  ⟨"local", true, true, fun _ _ arguments => do
    if (← get).locals.isEmpty then fail (octets "not in a function")
    for a in arguments do makeLocal a false
    return 0⟩

/-- Takes variables or functions away. -/
def Builtin.unset : Builtin :=
  ⟨"unset", true, false, fun _ _ arguments => do
    let (options, names) ← readOptions "vf" arguments
    for name in names do
      let isFunction := (options.getLast?.map (·.1)) == some 'f'
      if isFunction then
        modify fun s => { s with functions := s.functions.filter (·.1 != String.ofList name) }
      else unassign (← checkName name)
    return 0⟩

/-- Drops parameters. -/
def Builtin.shift : Builtin :=
  ⟨"shift", true, false, fun _ _ arguments => do
    let count ← match arguments with
      | [] => pure 1
      | a :: _ => numberOf a
    if (← get).parameters.length < count then fail (octets "can't shift that many")
    modify fun s => { s with
      parameters := s.parameters.drop count
      nextOption := 1
      optionPlace := none }
    return 0⟩

/-! ## Options of the shell -/

/-- Sets an option by its letter. -/
def setLetter (letter : Char) (value : Bool) : Act Unit := do
  if !(optionNames.any fun o => o.1 == letter && ' ' ≤ letter) then
    fail (octets "Illegal option -" ++ [letter])
  modify (·.setOption letter value)

/-- Prints the options and whether they are set. -/
def printOptions (asCommands : Bool) : Act Unit := do
  let s ← get
  if !asCommands then printLine (octets "Current option settings")
  for (letter, name) in optionNames do
    if asCommands then
      printLine (octets ("set " ++ (if s.has letter then "-" else "+") ++ "o " ++ name))
    else
      let space := String.ofList (List.replicate (16 - name.length) ' ')
      printLine (octets (name ++ space ++ if s.has letter then "on" else "off"))

/-- Sets an option by its name. -/
def setNamed (name : Octets) (value : Bool) : Act Unit := do
  match optionNames.find? fun o => octets o.2 == name with
  | some (letter, _) => modify (·.setOption letter value)
  | none => fail (octets "Illegal option -o " ++ name)

/-- Sets the options in a word; the name of one may be the next word. -/
def setLetters (value : Bool) (letters : Octets) (rest : List Octets) : Act (List Octets) :=
  match letters with
  | [] => return rest
  | 'o' :: more => do
    match rest with
    | name :: rest =>
      setNamed name value
      setLetters value more rest
    | [] =>
      printOptions (!value)
      setLetters value more rest
  | letter :: more => do
    setLetter letter value
    setLetters value more rest

/-- Sets new parameters. -/
def setParameters (parameters : List Octets) : Act Unit :=
  modify ({ · with parameters := parameters, nextOption := 1, optionPlace := none })

/-- Sets options and parameters. -/
def setAll (fuel : Nat) (arguments : List Octets) : Act Unit :=
  match fuel with
  | 0 => return ()
  | fuel + 1 => do
    match arguments with
    | ['-'] :: rest =>
      modify fun s => (s.setOption 'x' false).setOption 'v' false
      if !rest.isEmpty then setParameters rest
    | ['-', '-'] :: rest => setParameters rest
    | ('-' :: letters) :: rest => setAll fuel (← setLetters true letters rest)
    | ('+' :: letters) :: rest => setAll fuel (← setLetters false letters rest)
    | [] => return ()
    | rest => setParameters rest

/-- Sets options and parameters, or prints the variables. -/
def Builtin.set : Builtin :=
  ⟨"set", true, false, fun _ _ arguments => do
    if arguments.isEmpty then
      printVariables [] ((← get).bindings.filter (·.value.isSome))
    else setAll (arguments.length + 1) arguments
    return 0⟩

/-! ## Options of a script -/

/-- What can be wrong with an option: it is not known, or its value is missing. -/
inductive OptionFault where
  | unknown (letter : Char)
  | bare (letter : Char)
  deriving DecidableEq, Repr

/-- What is said about an option with which something is wrong. -/
def OptionFault.message : OptionFault → String
  | .unknown letter => "Illegal option -" ++ toString letter
  | .bare letter => "No arg for -" ++ toString letter ++ " option"

/-- What is said about an option with which something is wrong, in the wide dialect. -/
def OptionFault.wideMessage : OptionFault → String
  | .unknown letter => "illegal option -- " ++ toString letter
  | .bare letter => "option requires an argument -- " ++ toString letter

/-- What comes of looking for the next option: its letter, its value or none, what is wrong with it,
the number of the next word, and the place in the word before that.  An option that takes no value
has an empty one in the common dialect. -/
structure FoundOption where
  letter : Char
  value : Option Octets
  fault : Option OptionFault
  next : Nat
  place : Option Nat
  isEnd : Bool

/-- Looks for the next option in words. -/
def findOption (spec : Octets) (words : List Octets) (index : Nat) (place : Option Nat) :
    FoundOption :=
  let current := if index ≤ 1 then none else
    match place, words[index - 2]? with
    | some n, some w => if w.length ≤ n then none else some (w.drop n)
    | _, _ => none
  let start : Option (Octets × Nat) :=
    match current with
    | some rest => some (rest, index)
    | none =>
      match words[index - 1]? with
      | some ('-' :: c :: rest) => some (c :: rest, index + 1)
      | _ => none
  match start with
  | none => ⟨'?', none, none, index, none, true⟩
  | some (rest, next) =>
    let isFresh := current.isNone
    match rest with
    | [] => ⟨'?', none, none, next, none, true⟩
    | c :: rest =>
      if isFresh && c == '-' && rest.isEmpty then ⟨'?', none, none, next, none, true⟩
      else
        let isQuiet := spec.head? == some ':'
        let placeAfter := fun (next : Nat) =>
          (words[next - 2]?).map fun w => w.length - rest.length
        let known := if isQuiet then spec.drop 1 else spec
        match if c == ':' then [] else known.dropWhile (· != c) with
        | [] =>
          if isQuiet then ⟨'?', some [c], none, next, placeAfter next, false⟩
          else ⟨'?', none, some (.unknown c), next, placeAfter next, false⟩
        | _ :: ':' :: _ =>
          match rest, words[next - 1]? with
          | [], none =>
            if isQuiet then ⟨':', some [c], none, next, placeAfter next, false⟩
            else ⟨'?', none, some (.bare c), next, placeAfter next, false⟩
          | [], some value => ⟨c, some value, none, next + 1, none, false⟩
          | _, _ => ⟨c, some rest, none, next, none, false⟩
        | _ => ⟨c, none, none, next, placeAfter next, false⟩

/-- Gives the next option of a script to a variable. -/
def Builtin.getopts : Builtin :=
  ⟨"getopts", false, false, fun _ _ arguments => do
    match arguments with
    | spec :: name :: words =>
      let s ← get
      let words := if words.isEmpty then s.parameters else words
      let (index, place) :=
        if words.length + 1 < s.nextOption then (1, none) else (s.nextOption, s.optionPlace)
      let found := findOption spec words index place
      match found.fault, found.value with
      | some fault, _ =>
        writeErrors (octets (fault.message ++ "\n"))
        unassign "OPTARG"
      | none, some value => assign "OPTARG" value
      | none, none => if !found.isEnd then assign "OPTARG" []
      assign "OPTIND" (octets (toString found.next))
      assignChecked name [found.letter]
      modify ({ · with nextOption := found.next, optionPlace := found.place })
      return if found.isEnd then 1 else 0
    | _ => fail (octets "Usage: getopts optstring var [arg...]")⟩

/-! ## Reading a line -/

/-- Where a line is read from, the character that ends it, and how many bytes are read at most at a
time. -/
structure LineSource where
  descriptor : Nat
  mark : Char
  most : Nat

/-- The lines of the input. -/
def LineSource.input : LineSource := ⟨0, '\n', 4096⟩

/-- Bytes up to the end of a line, if some can be read at once. -/
def LineSource.piece (l : LineSource) (k : Kernel) : Option (Except Fault ByteArray) × Kernel :=
  match k.offset? l.descriptor with
  | some offset =>
    match k.read l.descriptor l.most with
    | (.ok (some bytes), k) =>
      match bytes.toList.findIdx? (·.toNat == l.mark.toNat) with
      | some n => (some (.ok (bytes.extract 0 (n + 1))), k.seek l.descriptor (offset + n + 1))
      | none => (some (.ok bytes), k)
    | (.ok none, k) => (none, k)
    | (.error fault, k) => (some (.error fault), k)
  | none =>
    match k.read l.descriptor 1 with
    | (.ok (some bytes), k) => (some (.ok bytes), k)
    | (.ok none, k) => (none, k)
    | (.error fault, k) => (some (.error fault), k)

/-- Reads some of a line; there is nothing at its end, or if a signal comes first. -/
def LineSource.read (l : LineSource) : Act Octets := do
  let attempt (k : Kernel) : Option (Except Fault ByteArray) × Kernel :=
    match l.piece k with
    | (none, k) => (if k.self.noticed.isEmpty then none else some (.ok .empty), k)
    | result => result
  let isReady (k : Kernel) : Bool := k.canRead l.descriptor || !k.self.noticed.isEmpty
  match ← liftM (Run.retry Run.patience isReady attempt) with
  | some (.ok bytes) => return Octets.ofBytes bytes
  | _ => return []

/-- A line that is being read, with the last character first: what a backslash came before is
literal.  `isEscaped` says that a backslash was the last character. -/
structure ReadLine where
  parts : List FieldPart
  isEscaped : Bool
  isDone : Bool

/-- Goes on with a character; `mark` ends the line. -/
def ReadLine.step (isRaw : Bool) (mark : Option Char) (line : ReadLine) (c : Char) : ReadLine :=
  if line.isDone || (c == '\x00' && mark != some c) then line
  else if line.isEscaped then
    if c == '\n' then { line with isEscaped := false }
    else ⟨.literal c :: line.parts, false, false⟩
  else if c == '\\' && !isRaw then { line with isEscaped := true }
  else if some c == mark then { line with isDone := true }
  else ⟨.plain c :: line.parts, false, false⟩

/-- Reads up to the end of a line, and says whether there was one. -/
def readWhole (isRaw : Bool) (fuel : Nat) (line : ReadLine) : Act ReadLine :=
  match fuel with
  | 0 => return line
  | fuel + 1 => do
    let bytes ← LineSource.input.read
    if bytes.isEmpty then return line
    let line := bytes.foldl (ReadLine.step isRaw (some '\n')) line
    if line.isDone then return line else readWhole isRaw fuel line

/-- The pieces of a line: a character after a backslash is never a separator. -/
def lineSegments (parts : List FieldPart) : List Segment :=
  parts.foldr (fun part segments =>
    let cutting := match part with
      | .plain _ => Cutting.separators
      | _ => .nowhere
    match segments with
    | s :: rest =>
      if s.cutting == cutting then ⟨part :: s.parts, cutting⟩ :: rest
      else ⟨[part], cutting⟩ :: segments
    | [] => [⟨[part], cutting⟩]) []

/-- Gives fields to variables, and nothing to those that are left. -/
def assignFields : List Octets → List Field → Act Unit
  | [], _ => return ()
  | name :: names, [] => do
    assignChecked name []
    assignFields names []
  | name :: names, f :: fields => do
    assignChecked name f.text
    assignFields names fields

/-- Reads a line and gives its fields to variables. -/
def Builtin.read : Builtin :=
  ⟨"read", false, false, fun _ _ arguments => do
    let (options, names) ← readOptions "p:r" arguments
    if names.isEmpty then fail (octets "arg count")
    let isRaw := options.any (·.1 == 'r')
    let line ← readWhole isRaw Run.patience ⟨[], false, false⟩
    let separators := (← get).separators?.getD standardSeparators
    let fields := Segment.fields separators (some names.length) (lineSegments line.parts.reverse)
    assignFields names fields
    return if line.isDone then 0 else 1⟩

end Flowscript.Shell
