import Flowscript.Host.Kernel
import Flowscript.Programs.Shell.Builtin.Processes
import Flowscript.Programs.Shell.Builtin.Variables
import Flowscript.Programs.Shell.Printing
import Flowscript.Programs.Shell.StatementReading
import Flowscript.Programs.Text.CharClass

/-!
# Builtin commands and conditions

Tests that commands make, and the commands of the shell itself.

* `Condition.holds` says whether the condition holds that arguments spell, or why they spell none.
* `Builtin.echo`, `Builtin.printf` and `Builtin.test` print and decide.
* `Builtin.cd` and `Builtin.pwd` are about the working directory.
* `Builtin.command`, `Builtin.type` and `Builtin.alias` are about commands.
* `Builtin.eval`, `Builtin.dot` and the jumps change what is evaluated.
* `Builtin.all` are all commands of the shell itself.
-/

set_option autoImplicit false

namespace Flowscript.Shell

/-! ## Conditions

Three arguments with a comparison in the middle are always that comparison, and an operator without
anything to operate on is an ordinary text. -/

namespace Condition

/-- What an argument is. -/
inductive Token where
  | finish
  | operand
  | question (letter : Char)
  | comparison (name : String)
  | not
  | and
  | or
  | opening
  | closing
  deriving DecidableEq, Repr

/-- The comparisons. -/
def comparisons : List String :=
  ["=", "!=", "<", ">", "-eq", "-ne", "-ge", "-gt", "-le", "-lt", "-nt", "-ot", "-ef"]

/-- The letters of questions about files and texts. -/
def questions : List Char := "rwxefdcbpugkstznhOGLS".toList

/-- The operator that an argument is. -/
def operator? (o : Octets) : Option Token :=
  match o with
  | ['!'] => some .not
  | ['('] => some .opening
  | [')'] => some .closing
  | ['-', 'a'] => some .and
  | ['-', 'o'] => some .or
  | ['-', c] => if questions.contains c then some (.question c) else none
  | _ =>
    let name := String.ofList o
    if comparisons.contains name then some (.comparison name) else none

/-- Whether an argument is a comparison. -/
def isComparison (o : Octets) : Bool := operator? o matches some (.comparison _)

/-- Whether what looks like a question is a text, because of what follows it. -/
def isText : List Octets → Bool
  | [] => true
  | [_] => false
  | next :: _ :: _ => isComparison next

/-- What the first of some arguments is. -/
def tokenOf : List Octets → Token
  | [] => .finish
  | a :: rest =>
    match operator? a with
    | some (.question c) => if isText rest then .operand else .question c
    | some .opening => if rest.isEmpty then .operand else .opening
    | some token => token
    | none => .operand

/-- An evaluation, which goes through the arguments and can come upon something that makes no
sense. -/
abbrev Evaluation := StateT (List Octets) (Except Octets)

/-- Goes some arguments on, and tells what is there. -/
def forward (count : Nat) : Evaluation Token := do
  modify (·.drop count)
  return tokenOf (← get)

/-- What the argument after the present one is. -/
def ahead : Evaluation Token := do return tokenOf ((← get).drop 1)

/-- The number that a text is. -/
def number (o : Octets) : Evaluation Int :=
  match Int64s.ofOctets? (some 10) o with
  | some n => pure n
  | none => throw (Octets.ofText "Illegal number: " ++ o)

/-- The answer to a question about a file or a text. -/
def answer (k : Kernel) (letter : Char) (o : Octets) : Evaluation Bool := do
  match letter with
  | 'z' => return o.isEmpty
  | 'n' => return !o.isEmpty
  | 't' =>
    let _ ← number o
    return false
  | _ => return k.isSo letter o

/-- Whether a comparison holds. -/
def compare (k : Kernel) (name : String) (a b : Octets) : Evaluation Bool := do
  let numbers (f : Int → Int → Bool) : Evaluation Bool := do return f (← number a) (← number b)
  match name with
  | "=" => return a == b
  | "!=" => return a != b
  | "<" => return Octets.le a b && a != b
  | ">" => return Octets.le b a && a != b
  | "-eq" => numbers (· == ·)
  | "-ne" => numbers (· != ·)
  | "-ge" => numbers fun x y => y ≤ x
  | "-gt" => numbers fun x y => y < x
  | "-le" => numbers fun x y => x ≤ y
  | "-lt" => numbers fun x y => x < y
  | "-nt" => return match k.writtenAt? a, k.writtenAt? b with
    | some x, some y => y < x
    | _, _ => false
  | "-ot" => return match k.writtenAt? a, k.writtenAt? b with
    | some x, some y => x < y
    | _, _ => false
  | _ => return k.isSame a b

/-- What a part of a condition is: something with `-o` in it, with `-a`, with `!`, or less. -/
inductive Level where
  | either
  | both
  | negation
  | primary
  deriving DecidableEq, Repr

/-- Evaluates a part of a condition, of which the present argument has been looked at. -/
def part (k : Kernel) (fuel : Nat) (level : Level) (token : Token) : Evaluation Bool :=
  match fuel with
  | 0 => return false
  | fuel + 1 => do
    match level with
    | .either =>
      let first ← part k fuel .both token
      if (← ahead) != .or then return first
      let second ← part k fuel .either (← forward 2)
      return first || second
    | .both =>
      let first ← part k fuel .negation token
      if (← ahead) != .and then return first
      let second ← part k fuel .both (← forward 2)
      return first && second
    | .negation =>
      if token != .not then part k fuel .primary token
      else
        let next ← ahead
        if next != .finish then modify (·.drop 1)
        return !(← part k fuel .negation next)
    | .primary =>
      match token with
      | .finish => return false
      | .opening =>
        let next ← forward 1
        if next == .closing then return false
        let value ← part k fuel .either next
        if (← forward 1) != .closing then throw (Octets.ofText "closing paren expected")
        return value
      | .question letter =>
        modify (·.drop 1)
        match ← get with
        | [] => throw (Octets.ofText ("-" ++ toString letter ++ ": argument expected"))
        | o :: _ => answer k letter o
      | _ =>
        match ← ahead, ← get with
        | .comparison name, a :: _ =>
          modify (·.drop 2)
          match ← get with
          | [] => throw (Octets.ofText (name ++ ": argument expected"))
          | b :: _ => compare k name a b
        | _, o :: _ => return !o.isEmpty
        | _, [] => return false

/-- Evaluates arguments as a whole. -/
def whole (k : Kernel) (token : Option Token) (arguments : List Octets) : Except Octets Bool := do
  let token := token.getD (tokenOf arguments)
  let (value, rest) ← (part k (8 * arguments.length + 8) .either token).run arguments
  match rest with
  | a :: _ :: _ =>
    if a.isEmpty then .error (Octets.ofText "unexpected operator")
    else .error (a ++ Octets.ofText ": unexpected operator")
  | _ => .ok value

/-- Whether the condition holds that arguments spell. -/
def holds (k : Kernel) (fuel : Nat) (arguments : List Octets) : Except Octets Bool :=
  match fuel with
  | 0 => .ok false
  | fuel + 1 =>
    let bracketed : Except Octets Bool :=
      match arguments with
      | a :: rest =>
        if a == ['('] && arguments.getLast? == some [')'] then whole k none rest.dropLast
        else if a == ['!'] then (holds k fuel rest).map (!·)
        else whole k none arguments
      | [] => .ok false
    match arguments with
    | [] => .ok false
    | [_, op, _] => if isComparison op then whole k (some .operand) arguments else bracketed
    | [_, _, _, _] => bracketed
    | _ => whole k none arguments

end Condition

/-! ## Further commands of the shell itself -/

/-! ### Printing and deciding -/

/-- Prints its arguments. -/
def Builtin.echo : Builtin :=
  ⟨"echo", false, false, fun _ _ arguments => do
    print (Printing.echoed arguments)
    return 0⟩

/-- Prints its arguments in a format. -/
def Builtin.printf : Builtin :=
  ⟨"printf", false, false, fun _ _ arguments => do
    let (_, words) ← readOptions "" arguments
    match words with
    | [] => fail (octets "usage: printf format [arg ...]")
    | format :: rest =>
      let (printed, complaints, outcome) := Printing.formatted format rest
      print printed
      for c in complaints do complain c
      match outcome with
      | .failed complaint => fail complaint
      | _ => return if complaints.isEmpty then 0 else 1⟩

/-- Evaluates a condition. -/
def testCondition (arguments : List Octets) : Act Nat := do
  match ← look fun k => Condition.holds k (arguments.length + 1) arguments with
  | .ok value => return if value then 0 else 1
  | .error complaint => fail complaint

/-- Says whether a condition holds. -/
def Builtin.test : Builtin := ⟨"test", false, false, fun _ _ arguments => testCondition arguments⟩

/-- Says whether a condition between brackets holds. -/
def Builtin.bracket : Builtin :=
  ⟨"[", false, false, fun _ _ arguments => do
    if arguments.getLast? != some [']'] then fail (octets "missing ]")
    testCondition arguments.dropLast⟩

/-- Does nothing, with a status. -/
def idle (name : String) (isSpecial : Bool) (status : Nat) : Builtin :=
  ⟨name, isSpecial, false, fun _ _ _ => return status⟩

/-! ### The working directory -/

/-- A path without `.` and `..`, which takes the name before it away. -/
def tidyPath (parts : List String) : List String :=
  (parts.foldl (fun before part =>
    if part == "." then before else if part == ".." then before.drop 1 else part :: before)
    []).reverse

/-- The path that a change of directory leads to, by the names that are given. -/
def namedPath? (s : Memory) (path : String) : Option String :=
  let joined (parts : List String) : String := "/" ++ String.intercalate "/" (tidyPath parts)
  if Path.isAbsolute path then some (joined (Path.parts path))
  else s.directory.map fun d => joined (Path.parts d ++ Path.parts path)

/-- Notes a new working directory. -/
def noteDirectory (path : Option String) (setsOld : Bool) : Act Unit := do
  let s ← get
  if setsOld then assignWith "OLDPWD" (some (octets (s.directory.getD ""))) true false
  let path ← match path with
    | some path => pure (some path)
    | none => look (·.workingPath?)
  modify ({ · with directory := path })
  assignWith "PWD" (some (octets (path.getD ""))) true false

/-- Goes to another directory if that is possible. -/
def goTo (isPhysical : Bool) (path : Octets) : Act Bool := do
  let text := Octets.toText path
  let s ← get
  let named? := if isPhysical then none else namedPath? s text
  match ← kernel (·.changeDirectory (named?.getD text)) with
  | .ok () =>
    noteDirectory named? true
    return true
  | .error _ => return false

/-- The directories that a relative path is looked for in, each with whether it is shown. -/
def directoriesFor (s : Memory) (path : Octets) : List (Octets × Bool) :=
  let isPlain := match path with
    | '/' :: _ => true
    | ['.'] => true
    | '.' :: '/' :: _ => true
    | ['.', '.'] => true
    | '.' :: '.' :: '/' :: _ => true
    | _ => false
  match s.get? "CDPATH" with
  | none => [(path, false)]
  | some directories =>
    if isPlain then [(path, false)]
    else
      (Text.splitAt (· == ':') directories).map (fun d =>
        if d.isEmpty then (path, false) else (d ++ '/' :: path, true)) ++ [(path, false)]

/-- Goes to the first of some directories that is one. -/
def goToFirst (isPhysical : Bool) : List (Octets × Bool) → Act (Option Bool)
  | [] => return none
  | (path, shows) :: rest => do
    if ← look fun k => k.tree.isDirectory k.self.directory (Octets.toText path) then
      if ← goTo isPhysical path then return some shows
    goToFirst isPhysical rest

/-- Goes to another directory. -/
def Builtin.cd : Builtin :=
  ⟨"cd", false, false, fun _ _ arguments => do
    let (options, rest) ← readOptions "LP" arguments
    let isPhysical := (options.getLast?.map (·.1)) == some 'P'
    let s ← get
    let isBack := rest.head? == some ['-']
    let target := match rest with
      | [] => (s.get? "HOME").getD []
      | ['-'] :: _ => (s.get? "OLDPWD").getD []
      | a :: _ => a
    let path := if target.isEmpty then ['.'] else target
    match ← goToFirst isPhysical (directoriesFor s path) with
    | none => fail (octets "can't cd to " ++ target)
    | some shows =>
      if shows || isBack then printLine (octets ((← get).directory.getD ""))
      return 0⟩

/-- Prints the working directory. -/
def Builtin.pwd : Builtin :=
  ⟨"pwd", false, false, fun _ _ arguments => do
    let (options, _) ← readOptions "LP" arguments
    let isPhysical := (options.getLast?.map (·.1)) == some 'P'
    let s ← get
    let path ← if isPhysical then look (·.workingPath?) else pure s.directory
    printLine (octets (path.getD ""))
    return 0⟩

/-! ### Commands -/

/-- The commands of the shell itself that are not given here, by name: whether each is special. -/
abbrev BuiltinNames := List (String × Bool)

/-- The path of a program in the directories where programs are, if it is there. -/
def programPath? (k : Kernel) (directories name : Octets) : Option Octets :=
  ((Run.candidates directories name).find? fun path =>
    match k.find path true with
    | .ok n => !k.tree.isDirectoryAt n && k.tree.modeOf n &&& FileTree.runBits != 0
    | .error _ => false).map octets

/-- The path of a program that has been found before. -/
def Memory.found? (s : Memory) (directories name : Octets) : Option Octets :=
  if directories == s.searchPath && directories == s.foundIn then s.found.lookup name else none

/-- Looks for a program, and remembers where it is if it was looked for where programs usually
are. -/
def findProgram (directories name : Octets) : Act (Option Octets) := do
  let s ← get
  match s.found? directories name with
  | some path => return some path
  | none =>
    match ← look fun k => programPath? k directories name with
    | none => return none
    | some path =>
      if directories == s.searchPath then
        let before := if directories == s.foundIn then s.found else []
        set { s with found := before ++ [(name, path)], foundIn := directories }
      return some path

/-- The place of a name in lists that names are scattered in. -/
def scattered (places : Nat) (name : Octets) : Nat :=
  name.foldl (fun n c => n + c.toNat) ((name.headD '\x00').toNat * 16) % places

/-- Puts named things in the order of their places. -/
def inOrder {α : Type} (places : Nat) (name : α → Octets) (all : List α) : List α :=
  all.mergeSort fun a b => scattered places (name a) ≤ scattered places (name b)

/-- What an alias is called in a list. -/
def aliasLine (a : String × Octets) : Octets := octets (a.1 ++ "=") ++ quoted a.2

/-- Describes a command. -/
def describe (names : BuiltinNames) (isVerbose : Bool) (directories name : Octets) : Act Nat := do
  let s ← get
  let text := Octets.toText name
  let say (verbose plain : Octets) : Act Nat := do
    printLine (if isVerbose then name ++ verbose else plain)
    return 0
  if (Keyword.spellings.lookup text).isSome then say (octets " is a shell keyword") name
  else
    match s.aliases.lookup text with
    | some value => say (octets " is an alias for " ++ value) (octets "alias " ++ aliasLine (text, value))
    | none =>
    if (s.functions.lookup text).isSome then say (octets " is a shell function") name
    else
      match names.lookup text with
      | some isSpecial =>
        say (octets (if isSpecial then " is a special shell builtin" else " is a shell builtin")) name
      | none =>
        let isKnown := (s.found? directories name).isSome
        let found ←
          if name.contains '/' then
            look fun k =>
              let isFile := (k.find text true).toOption.any fun n => !k.tree.isDirectoryAt n
              if isFile then some name else none
          else findProgram directories name
        match found with
        | some path =>
          say (octets (if isKnown then " is a tracked alias for " else " is ") ++ path) path
        | none =>
          if isVerbose then printLine (name ++ octets ": not found")
          return 127

/-- Describes commands, and gives the status of the last one that is missing. -/
def describeAll (names : BuiltinNames) (isVerbose : Bool) (directories : Octets) :
    List Octets → Nat → Act Nat
  | [], status => return status
  | name :: rest, status => do
    let found ← describe names isVerbose directories name
    describeAll names isVerbose directories rest (status ||| found)

/-- Describes commands. -/
def typeCommand (names : BuiltinNames) : Builtin :=
  ⟨"type", false, false, fun _ _ arguments => do
    let (_, rest) ← readOptions "" arguments
    describeAll names true (← get).searchPath rest 0⟩

/-- Describes a command; where it stands before one that is followed it is not needed here. -/
def commandCommand (names : BuiltinNames) : Builtin :=
  ⟨"command", false, false, fun _ _ arguments => do
    let (options, rest) ← readOptions "pvV" arguments
    let s ← get
    let directories := if options.any (·.1 == 'p') then Run.standardPath else s.searchPath
    let isVerbose := options.any (·.1 == 'V')
    if !isVerbose && !options.any (·.1 == 'v') then return 0
    match rest with
    | [] => return 0
    | name :: _ => describe names isVerbose directories name⟩

/-- Tells or forgets where programs have been found, or looks for some. -/
def hashCommand (names : BuiltinNames) : Builtin :=
  ⟨"hash", false, false, fun _ _ arguments => do
    let (options, rest) ← readOptions "rv" arguments
    if options.any (·.1 == 'r') then
      modify ({ · with found := [] })
      return 0
    let s ← get
    if rest.isEmpty then
      let known := if s.foundIn == s.searchPath then s.found else []
      for (_, path) in inOrder 31 (fun p => p.1) known do printLine path
      return 0
    let mut status := 0
    for name in rest do
      let isOwn := (s.functions.lookup (Octets.toText name)).isSome
        || (names.lookup (Octets.toText name)).isSome || name.contains '/'
      if !isOwn then
        modify fun s => { s with found := s.found.filter (·.1 != name) }
        if (← findProgram s.searchPath name).isNone then
          complain (name ++ octets ": not found")
          status := 1
    return status⟩

/-- Makes aliases, or prints them. -/
def Builtin.alias : Builtin :=
  ⟨"alias", false, true, fun _ _ arguments => do
    if arguments.isEmpty then
      for a in inOrder 39 (fun a => octets a.1) (← get).aliases do printLine (aliasLine a)
      return 0
    let mut status := 0
    for a in arguments do
      match splitAssignment a with
      | (name, some value) =>
        let name := Octets.toText name
        modify fun s => { s with aliases := s.aliases.filter (·.1 != name) ++ [(name, value)] }
      | (name, none) =>
        match (← get).aliases.lookup (Octets.toText name) with
        | some value => printLine (aliasLine (Octets.toText name, value))
        | none =>
          writeErrors (octets "alias: " ++ name ++ octets " not found\n")
          status := 1
    return status⟩

/-- Takes aliases away. -/
def Builtin.unalias : Builtin :=
  ⟨"unalias", false, false, fun _ _ arguments => do
    let (options, rest) ← readOptions "a" arguments
    if !options.isEmpty then
      modify ({ · with aliases := [] })
      return 0
    let mut status := 0
    for a in rest do
      let name := Octets.toText a
      if ((← get).aliases.lookup name).isSome then
        modify fun s => { s with aliases := s.aliases.filter (·.1 != name) }
      else
        writeErrors (octets "unalias: " ++ a ++ octets " not found\n")
        status := 1
    return status⟩

/-! ### What is evaluated -/

/-- Evaluates its arguments as a script. -/
def Builtin.eval : Builtin :=
  ⟨"eval", true, false, fun m manner arguments => do
    if arguments.isEmpty then return 0
    m.perform (.text (Octets.join [' '] arguments) manner.inner)⟩

/-- The path of a script that is to be evaluated. -/
def scriptPath (name : Octets) : Act Octets := do
  if name.contains '/' then return name
  let directories := (← get).searchPath
  let found ← look fun k => (Run.candidates directories name).find? fun path =>
    k.tree.isFile k.self.directory path
  match found with
  | some path => return octets path
  | none => fail (name ++ octets ": not found")

/-- The text of a script. -/
def readScript (path : Octets) : Act Octets := do
  match ← liftM (Run.readPath (Octets.toText path)) with
  | .ok bytes => return Octets.ofBytes bytes
  | .error fault =>
    fail (octets "cannot open " ++ path ++ octets (": " ++ openingFault false fault))

/-- Evaluates a file as a script. -/
def Builtin.dot : Builtin :=
  ⟨".", true, false, fun m _ arguments => do
    let (_, rest) ← readOptions "" arguments
    match rest with
    | [] => return 0
    | name :: _ =>
      let path ← scriptPath name
      let script ← readScript path
      modify ({ · with commandName := some path })
      m.perform (.script (.ofOctets .common script 1))⟩

/-- Leaves loops, or goes on with them. -/
def loopJump (name : String) (jump : Nat → Jump) : Builtin :=
  ⟨name, true, false, fun _ _ arguments => do
    let count ← match arguments with
      | [] => pure 1
      | a :: _ => do
        let n ← numberOf a
        if n == 0 then failNumber a
        pure n
    let count := min count (← get).loopDepth
    if count == 0 then return 0
    modify ({ · with status := 0 })
    throw (jump count)⟩

/-- Leaves a function or a script. -/
def Builtin.return : Builtin :=
  ⟨"return", true, false, fun _ _ arguments => do
    match arguments with
    | [] => pure ()
    | a :: _ =>
      let status ← numberOf a
      modify ({ · with status := status })
    throw .returned⟩

namespace Builtin

/-- All commands of the shell itself but those that describe commands. -/
def plain : List Builtin :=
  [.echo, .printf, .test, .bracket, idle ":" true 0, idle "true" false 0, idle "false" false 1,
    .cd, { Builtin.cd with name := "chdir" }, .pwd, .export, .readonly, .local, .set, .shift,
    .unset, .getopts, .read, .wait, .kill, .trap, .jobs, jobControl "fg", jobControl "bg", .exec,
    .exit, .times, .umask, .ulimit, .alias, .unalias, .eval, .dot,
    loopJump "break" .broken, loopJump "continue" .continued, .return]

/-- The names of all commands of the shell itself. -/
def names : BuiltinNames :=
  ("type", false) :: ("command", false) :: ("hash", false)
    :: plain.map fun b => (b.name, b.isSpecial)

/-- All commands of the shell itself. -/
def all : List Builtin :=
  typeCommand names :: commandCommand names :: hashCommand names :: plain

/-- The command of the shell itself with a name. -/
def find? (name : Octets) : Option Builtin :=
  let name := String.ofList name
  all.find? (·.name == name)

end Builtin

end Flowscript.Shell
