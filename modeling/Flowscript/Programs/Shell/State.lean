import Flowscript.Host.Task
import Flowscript.Programs.Shell.Source
import Flowscript.Programs.Text.CharClass

/-!
# The state of a shell

* `Memory` is what a shell knows: its parameters, variables and functions, its options, the commands
  it started, and where in the script it is.
* `Variable` is a variable, which has one value or `Elements`.
* `Act` is a piece of what a shell does, which can end in a `Jump`.
* `Memory.get?`, `Memory.put` and their like look at variables and set them.
* `complain` writes a complaint, and `fail` gives up after one.
-/

set_option autoImplicit false

namespace Flowscript.Shell

/-! ## What a shell knows -/

/-- The values of a variable that has several: by number, in order, or by key, the last one put first
in front of those in the same place. -/
inductive Elements where
  | listed (items : List (Nat × Octets))
  | keyed (items : List (Octets × Octets))

/-- A variable.  One that is exported may be without a value.  Those of the wide dialect can have
several values, and marks for what kind of values they have: `i` for numbers, `l` and `u` for letters
of one case, `n` for the name of another variable, and `h` if no value was ever given. -/
structure Variable where
  name : String
  value : Option Octets
  isExported : Bool
  isReadOnly : Bool
  elements : Option Elements
  marks : List Char

/-- A value for a list: at which index it is to be, if that is said, whether it is added to the one
before, and the value. -/
structure ListItem where
  index : Option Octets
  isAdded : Bool
  value : Octets

/-- A variable with one value or none. -/
def Variable.single (name : String) (value : Option Octets) (isExported isReadOnly : Bool) :
    Variable :=
  ⟨name, value, isExported, isReadOnly, none, []⟩

/-- A function: its statement, and the script that it is from. -/
structure Function where
  body : Statement
  source : Octets

/-- A call of a function, or a script that is read: its name, the script that it is in, and the line
from which it was called. -/
structure Call where
  name : String
  source : Octets
  line : Nat

/-- What comes back when a function is left. -/
inductive Saved where
  | variable (name : String) (before : Option Variable)
  | options (letters : List Char)

/-- Commands that were started together: the numbers of their processes, the last one last, and how
those ended that have. -/
structure Job where
  number : Nat
  processes : List Nat
  endings : List (Nat × Ending)
  isAwaited : Bool

/-- What a shell knows. -/
structure Memory where
  dialect : Dialect
  /-- What stands before its complaints. -/
  name : Octets
  /-- The command that complains. -/
  commandName : Option Octets
  parameters : List Octets
  bindings : List Variable
  functions : List (String × Function)
  /-- The letters of the options that are set. -/
  options : List Char
  /-- The status of the last command. -/
  status : Nat
  /-- The status of the last statements whose output was put into a word. -/
  outputStatus : Nat
  /-- The status to exit with. -/
  savedStatus : Option Nat
  /-- The number of the process that the shell started as. -/
  number : Nat
  lastStarted : Option Nat
  jobs : List Job
  /-- What is done on a signal, and by the number zero at the end. -/
  traps : List (Signal × Octets)
  /-- The signals that were ignored from the start. -/
  ignoredAtStart : List Signal
  /-- The line that complaints name. -/
  errorLine : Nat
  functionDepth : Nat
  loopDepth : Nat
  /-- What comes back when functions are left, the innermost one first. -/
  locals : List (List Saved)
  documents : List (Nat × Word)
  nextDocument : Nat
  aliases : List (String × Octets)
  /-- The programs that have been found, by name, and the directories where they were looked for. -/
  found : List (Octets × Octets)
  foundIn : Octets
  /-- The working directory by the names that led there. -/
  directory : Option String
  /-- What a command that is part of the language has printed so far. -/
  output : ByteArray
  /-- Where the reading of options by `getopts` is: the next word, and the place in it. -/
  nextOption : Nat
  optionPlace : Option Nat
  isTracing : Bool
  /-- What the wide dialect can be told to do, by name, as far as it is told so. -/
  features : List String
  /-- The statuses of the last commands that were joined by pipes. -/
  statuses : List Nat
  /-- The functions and scripts that are being evaluated, the innermost one first. -/
  calls : List Call
  /-- How many copies of the first shell this is below it. -/
  copies : Nat
  /-- Where the script is from, as it is said of what cannot be read. -/
  place : String
  /-- Directories to go back to. -/
  directories : List Octets
  /-- What the next random number comes from. -/
  seed : Nat
  startedAt : Nat
  /-- The last argument of the last command. -/
  lastArgument : Octets
  /-- The descriptors that names of channels lead to, the last one first. -/
  channels : List Nat
  /-- The lists among the arguments of the present command.  They stand there by their numbers. -/
  lists : List (List ListItem)
  /-- How many scripts that are parts of others are being evaluated. -/
  depth : Nat

/-- Why a shell does not go on with the next statement. -/
inductive Jump where
  /-- It ends, because of its last command. -/
  | ended
  /-- It was asked to exit. -/
  | exited
  /-- It gives up after a complaint. -/
  | failed
  /-- Loops are left. -/
  | broken (loops : Nat)
  /-- Loops are left but for the last one, which goes on. -/
  | continued (loops : Nat)
  /-- A function, or a script, is left. -/
  | returned
  /-- The statements that were read together are left, after a complaint. -/
  | discarded
  deriving DecidableEq, Repr

/-- A piece of what a shell does. -/
abbrev Act := ExceptT Jump (StateT Memory Run)

/-- Does something with the kernel. -/
def kernel {α : Type} (f : Kernel → α × Kernel) : Act α := liftM (Run.kernel f)

/-- Looks at the kernel. -/
def look {α : Type} (f : Kernel → α) : Act α := liftM (Run.look f)

/-- Does something, and says how it ended. -/
def attempt {α : Type} (act : Act α) : Act (Except Jump α) :=
  tryCatch (do return .ok (← act)) fun jump => return .error jump

/-- Does something, and something else after it even if it ends in a jump. -/
def closing {α : Type} (after : Act Unit) (act : Act α) : Act α := do
  let result ← attempt act
  after
  match result with
  | .ok a => return a
  | .error jump => throw jump

/-- The number that an argument is in the wide dialect, with blanks around it or not. -/
def wideNumber? (o : Octets) : Option Int :=
  let text := o.dropWhile Text.isSpace
  Int64s.ofOctets? (some 10) (text.reverse.dropWhile Text.isSpace).reverse

/-! ## Complaints -/

/-- Writes to the errors. -/
def writeErrors (o : Octets) : Act Unit := do
  let _ ← liftM (Run.write 2 (Octets.toBytes o))

/-- Bytes for a text of the program itself. -/
def octets (s : String) : Octets := Octets.ofText s

/-- Whether a shell is for the wide dialect. -/
def Memory.isWide (s : Memory) : Bool := s.dialect == .wide

/-- What complaints call the script that is evaluated. -/
def Memory.sourceName (s : Memory) : Octets :=
  match s.calls with
  | call :: _ => if call.source.isEmpty then s.name else call.source
  | [] => s.name

/-- What stands before a complaint. -/
def Memory.lead (s : Memory) : Octets :=
  let place := match s.dialect with
    | .common => s.name ++ octets (": " ++ toString s.errorLine ++ ": ")
    | .wide => s.sourceName ++ octets (": line " ++ toString s.errorLine ++ ": ")
  place ++ match s.commandName with
    | some name => name ++ octets ": "
    | none => []

/-- Writes a complaint. -/
def complain (message : Octets) : Act Unit := do
  writeErrors ((← get).lead ++ message ++ ['\n'])

/-- Gives up with a complaint. -/
def fail {α : Type} (message : Octets) : Act α := do
  complain message
  modify ({ · with status := 2 })
  throw .failed

/-- Gives up with a complaint and a status.  Only the present command is given up in the wide
dialect, if it is one of the shell itself. -/
def failWith {α : Type} (status : Nat) (message : Octets) : Act α := do
  complain message
  modify ({ · with status := status })
  throw .failed

/-- Gives up on the statements that were read together, with a complaint. -/
def discard {α : Type} (message : Octets) : Act α := do
  complain message
  modify ({ · with status := 1 })
  throw .discarded

/-- Gives up on the whole script, with a complaint. -/
def failScript {α : Type} (message : Octets) : Act α := do
  complain message
  modify fun s => { s with status := if s.options.contains 'c' && s.copies == 0 then 127 else 1 }
  throw .ended

/-! ## Options -/

/-- Whether an option is set. -/
def Memory.has (s : Memory) (letter : Char) : Bool := s.options.contains letter

/-- The options with their letters and long names. -/
def optionNames : List (Char × String) :=
  [('e', "errexit"), ('f', "noglob"), ('I', "ignoreeof"), ('i', "interactive"), ('m', "monitor"),
    ('n', "noexec"), ('s', "stdin"), ('x', "xtrace"), ('v', "verbose"), ('V', "vi"),
    ('E', "emacs"), ('C', "noclobber"), ('a', "allexport"), ('b', "notify"), ('u', "nounset"),
    ('p', "privileged"), ('\x00', "nolog"), ('\x01', "debug")]

/-- The options of the wide dialect that have letters, with these and their long names. -/
def wideOptionNames : List (Char × String) :=
  [('a', "allexport"), ('b', "notify"), ('e', "errexit"), ('f', "noglob"), ('h', "hashall"),
    ('k', "keyword"), ('m', "monitor"), ('n', "noexec"), ('p', "privileged"), ('t', "onecmd"),
    ('u', "nounset"), ('v', "verbose"), ('x', "xtrace"), ('B', "braceexpand"),
    ('C', "noclobber"), ('E', "errtrace"), ('H', "histexpand"), ('P', "physical"),
    ('T', "functrace")]

/-- The options of the wide dialect that only have names. -/
def namedOptions : List String :=
  ["emacs", "history", "ignoreeof", "interactive-comments", "nolog", "pipefail", "posix", "vi"]

/-- Whether the wide dialect is told to do something. -/
def Memory.does (s : Memory) (feature : String) : Bool := s.features.contains feature

/-- Tells the wide dialect to do something or not. -/
def Memory.setFeature (s : Memory) (feature : String) (value : Bool) : Memory :=
  let rest := s.features.filter (· != feature)
  { s with features := if value then feature :: rest else rest }

/-- Sets an option or unsets it. -/
def Memory.setOption (s : Memory) (letter : Char) (value : Bool) : Memory :=
  let rest := s.options.filter (· != letter)
  { s with options := if value then letter :: rest else rest }

/-- The letters of the options that are set, the last known one first; in the wide dialect the
first one, and then how the script was given. -/
def Memory.optionLetters (s : Memory) : Octets :=
  match s.dialect with
  | .common => (optionNames.reverse.map (·.1)).filter fun c => s.has c && ' ' ≤ c
  | .wide =>
    (wideOptionNames.map (·.1)).filter s.has
      ++ if s.has 'c' then ['c'] else if s.has 's' then ['s'] else []

/-! ## Variables -/

/-- The variable with a name. -/
def Memory.binding? (s : Memory) (name : String) : Option Variable :=
  s.bindings.find? (·.name == name)

/-- The value that stands for all values of a variable: the only one, or the first one. -/
def Variable.first? (v : Variable) : Option Octets :=
  match v.elements with
  | none => v.value
  | some (.listed items) => items.lookup 0
  | some (.keyed items) => items.lookup ['0']

/-- The variable that is meant by a name, past variables that hold the names of others. -/
def Memory.target (s : Memory) (fuel : Nat) (name : String) : String :=
  match fuel with
  | 0 => name
  | fuel + 1 =>
    match s.binding? name with
    | some v =>
      if v.marks.contains 'n' then
        match v.value with
        | some other =>
          if Word.isName other then s.target fuel (String.ofList other) else name
        | none => name
      else name
    | none => name

/-- How many variables one after the other can hold the names of others. -/
def mostAliases : Nat := 8

/-- The name that a name stands for. -/
def Memory.meant (s : Memory) (name : String) : String := s.target mostAliases name

/-- A number as text. -/
def numeral (n : Nat) : Octets := octets (toString n)

/-- The values of a variable that the wide dialect knows by itself. -/
def Memory.known? (s : Memory) (name : String) : Option Elements :=
  let numbered (values : List Octets) : Elements :=
    .listed ((List.range values.length).zip values)
  let calls := if s.calls.any fun c => c.name != "main" && c.name != "source" then s.calls else []
  match name with
  | "PIPESTATUS" => some (numbered (s.statuses.map numeral))
  | "FUNCNAME" => if calls.isEmpty then none else some (numbered (calls.map fun c => octets c.name))
  | "BASH_SOURCE" => some (numbered (s.calls.map (·.source)))
  | "BASH_LINENO" => some (numbered (s.calls.map fun c => numeral c.line))
  | "DIRSTACK" =>
    let here := octets (s.directory.getD "")
    some (numbered (here :: s.directories))
  | "GROUPS" => some (numbered [['0']])
  | _ => none

/-- The value of a variable that the wide dialect knows by itself, if it has one. -/
def Memory.knownValue? (s : Memory) (name : String) : Option Octets :=
  match name with
  | "LINENO" => some (numeral s.errorLine)
  | "BASH_SUBSHELL" => some (numeral s.copies)
  | "_" => some s.lastArgument
  | _ => ((s.known? name).bind fun e => match e with
    | .listed items => items.lookup 0
    | .keyed items => items.lookup ['0'])

/-- All values of a variable, by number or by key. -/
def Memory.elements? (s : Memory) (name : String) : Option Elements :=
  let name := s.meant name
  match s.binding? name with
  | some v =>
    match v.elements with
    | some e => some e
    | none => v.value.map fun value => .listed [(0, value)]
  | none =>
    match s.known? name with
    | some e => some e
    | none => (s.knownValue? name).map fun value => .listed [(0, value)]

/-- The value of a variable. -/
def Memory.get? (s : Memory) (name : String) : Option Octets :=
  match s.dialect with
  | .common => (s.binding? name).bind (·.value)
  | .wide =>
    let name := s.meant name
    match s.binding? name with
    | some v => v.first?
    | none => s.knownValue? name

/-- What fields end at if nothing else is said. -/
def standardSeparators : Octets := [' ', '\t', '\n']

/-- What fields end at, if that is said. -/
def Memory.separators? (s : Memory) : Option Octets := s.get? "IFS"

/-- Puts a variable in place of the one with its name. -/
def Memory.put (s : Memory) (v : Variable) : Memory :=
  if (s.binding? v.name).isSome then
    { s with bindings := s.bindings.map fun w => if w.name == v.name then v else w }
  else { s with bindings := s.bindings ++ [v] }

/-- Takes a variable away. -/
def Memory.drop (s : Memory) (name : String) : Memory :=
  { s with bindings := s.bindings.filter (·.name != name) }

/-- What follows from a new value of a variable: the reading of options starts again. -/
def Memory.noteAssignment (s : Memory) (name : String) (value : Option Octets) : Memory :=
  if name == "OPTIND" then
    let n := (value.bind Octets.natural?).getD 1
    { s with nextOption := if n == 0 then 1 else n, optionPlace := none }
  else s

/-- The name and the value in an assignment. -/
def splitAssignment (o : Octets) : Octets × Option Octets :=
  let name := o.takeWhile (· != '=')
  match o.drop name.length with
  | _ :: value => (name, some value)
  | [] => (name, none)

/-! ## Values with places -/

/-- The place of a text among `1024`, by which keys are ordered. -/
def keyPlace (o : Octets) : Nat :=
  (o.foldl (fun (h : UInt32) c =>
    let c := c.toNat
    (h * 16777619) ^^^ (if c < 128 then c else c + 0xFFFFFF00).toUInt32) 2166136261).toNat % 1024

namespace Elements

/-- No values, by number. -/
def empty : Elements := .listed []

/-- The values in order. -/
def values : Elements → List Octets
  | .listed items => items.map (·.2)
  | .keyed items => items.map (·.2)

/-- The places of the values, in order. -/
def places : Elements → List Octets
  | .listed items => items.map fun i => numeral i.1
  | .keyed items => items.map (·.1)

/-- Puts a value at a number. -/
def putNumber (n : Nat) (value : Octets) : List (Nat × Octets) → List (Nat × Octets)
  | [] => [(n, value)]
  | (m, other) :: rest =>
    if m < n then (m, other) :: putNumber n value rest
    else if m == n then (n, value) :: rest
    else (n, value) :: (m, other) :: rest

/-- Puts a value at a key. -/
def putKey (key value : Octets) : List (Octets × Octets) → List (Octets × Octets)
  | [] => [(key, value)]
  | (other, kept) :: rest =>
    if keyPlace other < keyPlace key then (other, kept) :: putKey key value rest
    else (key, value) :: (other, kept) :: rest

/-- Puts a value at a key, in place of the one that is there. -/
def replaceKey (key value : Octets) (items : List (Octets × Octets)) : List (Octets × Octets) :=
  if (items.lookup key).isSome then
    items.map fun i => if i.1 == key then (key, value) else i
  else putKey key value items

/-- The number after the last one. -/
def nextNumber : Elements → Nat
  | .listed items => match items.getLast? with
    | some (n, _) => n + 1
    | none => 0
  | .keyed _ => 0

end Elements

/-- A place of a value in a variable that has several. -/
inductive Spot where
  | number (n : Nat)
  | key (k : Octets)
  deriving DecidableEq, Repr

/-- The value at a place. -/
def Elements.at? (e : Elements) (spot : Spot) : Option Octets :=
  match e, spot with
  | .listed items, .number n => items.lookup n
  | .keyed items, .key k => items.lookup k
  | .listed _, .key _ => none
  | .keyed items, .number n => items.lookup (numeral n)

/-- Puts a value at a place. -/
def Elements.putAt (e : Elements) (spot : Spot) (value : Octets) : Elements :=
  match e, spot with
  | .listed items, .number n => .listed (Elements.putNumber n value items)
  | .keyed items, .key k => .keyed (Elements.replaceKey k value items)
  | .listed items, .key _ => .listed items
  | .keyed items, .number n => .keyed (Elements.replaceKey (numeral n) value items)

/-- Takes the value at a place away. -/
def Elements.dropAt (e : Elements) (spot : Spot) : Elements :=
  match e, spot with
  | .listed items, .number n => .listed (items.filter (·.1 != n))
  | .keyed items, .key k => .keyed (items.filter (·.1 != k))
  | e, _ => e

/-- The variable with another value, at a place if that is given. -/
def Variable.withValue (v : Variable) (spot : Option Spot) (value : Octets) : Variable :=
  let v := { v with marks := v.marks.filter (· != 'h') }
  match v.elements, spot with
  | none, none => { v with value := some value }
  | some e, none => { v with elements := some (e.putAt (.number 0) value) }
  | some e, some spot => { v with elements := some (e.putAt spot value) }
  | none, some spot =>
    let before := match v.value with
      | some old => Elements.listed [(0, old)]
      | none => .empty
    { v with value := none, elements := some (before.putAt spot value) }

/-- The variable with a name, or a new one. -/
def Memory.variableNamed (s : Memory) (name : String) : Variable :=
  (s.binding? name).getD (.single name none false false)

/-! ## What other programs get -/

/-- The place of a variable in the order in which other programs get them. -/
def bucketOf (name : String) : Nat :=
  let bytes := (Octets.ofText name).map Char.toNat
  (bytes.headD 0 * 16 + bytes.foldl (· + ·) 0) % 39

/-- Variables for other programs, each with its name. -/
def Memory.environment (s : Memory) : List Octets :=
  let exported := s.bindings.filterMap fun v =>
    if v.isExported then v.value.map fun value => (v.name, value) else none
  let sorted := match s.dialect with
    | .common => exported.mergeSort fun a b => bucketOf a.1 ≤ bucketOf b.1
    | .wide => exported.reverse.mergeSort fun a b => keyPlace (octets a.1) ≤ keyPlace (octets b.1)
  sorted.map fun v => Octets.ofText v.1 ++ '=' :: v.2

/-! ## Parameters -/

/-- The value of a parameter with a number. -/
def Memory.parameter? (s : Memory) (n : Nat) : Option Octets :=
  match n with
  | 0 => some s.name
  | n + 1 => s.parameters[n]?

end Flowscript.Shell
