import Flowscript.Programs.Shell.Builtin.Commands
import Flowscript.Programs.Shell.Builtin.Declaring
import Flowscript.Programs.Shell.Verdict

/-!
# Commands of the wide dialect

* `Builtin.widePrintf`, `Builtin.wideRead` and `linesCommand` print, and read lines into variables.
* `Builtin.wideCd`, `Builtin.pushd` and `Builtin.popd` are about the working directory.
* `Builtin.wideWait`, `Builtin.wideKill` and `Builtin.wideTrap` are about processes and signals.
* `Builtin.wideType` and `Builtin.wideCommand` say what names mean.
* `Builtin.named?` is the command with a name in a dialect.

One that goes wrong fails, and the script goes on.
-/

set_option autoImplicit false

namespace Flowscript.Shell

/-- Does something that may give up on a line of the script, which then only fails. -/
def contained (act : Act Nat) : Act Nat := do
  match ← attempt act with
  | .ok status => return status
  | .error .discarded => return 1
  | .error jump => throw jump

/-- Gives up because an argument is no number. -/
def failNumeric {α : Type} (status : Nat) (o : Octets) : Act α :=
  failWith status (o ++ octets ": numeric argument required")

/-- Gives up on the line of the script because of too many arguments. -/
def failMany {α : Type} : Act α := discard (octets "too many arguments")

/-- Complains, and goes on with a status. -/
def complaining (status : Nat) (complaint : Octets) : Act Nat := do
  complain complaint
  return status

/-! ## Variables that arguments name -/

/-- Whether a text names a variable, or a place in one. -/
def isTarget (o : Octets) : Bool :=
  match declared? o with
  | some d => d.value.isNone
  | none => false

/-- Gives a value to the variable, or the place in one, that a text names. -/
def assignTo (o value : Octets) : Act Unit := do
  match declared? o with
  | some ⟨name, none, _, none⟩ => assignSpot (String.ofList name) none false value
  | some ⟨name, some index, _, none⟩ =>
    let name := String.ofList name
    assignSpot name (some (← spotOf name index)) false value
  | _ => failWith 1 (notIdentifier o)

/-! ## Printing and deciding -/

/-- Prints its arguments. -/
def Builtin.wideEcho : Builtin :=
  ⟨"echo", false, false, fun _ _ arguments => do
    print (Printing.wideEchoed ((← get).does "xpg_echo") arguments)
    return 0⟩

/-- Prints its arguments in a format, or gives what it would print to a variable. -/
def Builtin.widePrintf : Builtin :=
  ⟨"printf", false, false, fun _ _ arguments => contained do
    let (options, rest) ← wideOptions "v:" arguments
    let target := options.getLast?.map (·.2)
    if target.any fun name => !isTarget name then failWith 2 (notIdentifier (target.getD []))
    match rest with
    | [] => failUsage
    | format :: words =>
      let s ← get
      let now ← look (·.now)
      let zone := match s.get? "TZ" with
        | none | some [] => Zone.universal
        | some o => Zone.read o
      let times : Printing.Times := ⟨zone, now / 1000000000, s.startedAt / 1000000000⟩
      let (w, outcome) := Printing.wideFormatted times format words
      for c in w.complaints.reverse do complain c
      for (name, size) in w.counts.reverse do assignTo name (numeral size)
      let text := w.printed.reverse.flatten
      match target with
      | some name => assignTo name text
      | none => print text
      match outcome with
      | .failed complaint => failWith 1 complaint
      | _ => return if w.hasFailed then 1 else 0⟩

/-- The status of a condition that arguments spell. -/
def examined (arguments : List Octets) : Act Nat := do
  match ← Examination.examine arguments with
  | .ok value => return if value then 0 else 1
  | .error complaint => complaining 2 complaint

/-- Says whether a condition holds. -/
def Builtin.wideTest : Builtin := ⟨"test", false, false, fun _ _ arguments => examined arguments⟩

/-- Says whether a condition between brackets holds. -/
def Builtin.wideBracket : Builtin :=
  ⟨"[", false, false, fun _ _ arguments => do
    if arguments.getLast? != some [']'] then failWith 2 (octets "missing \x60]'")
    examined arguments.dropLast⟩

/-- Evaluates arithmetic, and says whether the last value is not zero. -/
def Builtin.let : Builtin :=
  ⟨"let", false, false, fun _ _ arguments => do
    let words := if arguments.head? == some ['-', '-'] then arguments.drop 1 else arguments
    if words.isEmpty then failWith 1 (octets "expression expected")
    let mut last : Int := 0
    for o in words do
      match ← tryReckon o with
      | .ok value => last := value
      | .error failure => failWith 1 failure.message
    return if last == 0 then 1 else 0⟩

/-! ## Reading lines -/

/-- Gives fields to variables, and nothing to those that are left. -/
def assignWideFields : List Octets → List Field → Act Unit
  | [], _ => return ()
  | name :: names, fields => do
    assignTo name ((fields.head?.map Field.text).getD [])
    assignWideFields names (fields.drop 1)

/-- The natural number that an argument of an option is. -/
def countOf (what : String) (o : Octets) : Act Nat := do
  match wideNumber? o with
  | some n =>
    if n < 0 then failWith 1 (o ++ octets (": invalid " ++ what))
    return n.toNat
  | none => failWith 1 (o ++ octets (": invalid " ++ what))

/-- The descriptor that an argument of an option is, which has to be open. -/
def openDescriptor (o : Octets) : Act Nat := do
  let descriptor ← countOf "file descriptor specification" o
  if (← look (·.file? descriptor)).isNone then
    failWith 1 (o ++ octets ": invalid file descriptor: Bad file descriptor")
  return descriptor

/-- The nanoseconds that a text gives in seconds. -/
def secondsOf (o : Octets) : Act Nat := do
  let whole := o.takeWhile Char.isDigit
  let fraction := (o.drop whole.length).drop 1
  let isPlain := match o.drop whole.length with
    | [] => !whole.isEmpty
    | '.' :: rest => rest.all Char.isDigit && !(whole.isEmpty && rest.isEmpty)
    | _ => false
  if !isPlain then failWith 1 (o ++ octets ": invalid timeout specification")
  let digits := (fraction ++ List.replicate 9 '0').take 9
  return (Octets.natural? (whole ++ digits)).getD 0

/-- How a line is read: whether backslashes are nothing special, what ends it, how many characters it
has at most, and until when it is waited for. -/
structure LineManner where
  isRaw : Bool
  mark : Option Char
  most : Option Nat
  deadline : Option Nat

/-- Reads a line, and says whether the time was up. -/
def readLine (l : LineSource) (h : LineManner) (fuel : Nat) (line : ReadLine) :
    Act (ReadLine × Bool) :=
  match fuel with
  | 0 => return (line, false)
  | fuel + 1 => do
    if h.most == some line.parts.length then return ({ line with isDone := true }, false)
    let isReady (k : Kernel) : Bool := k.canRead l.descriptor || !k.self.noticed.isEmpty
    let isLate ← match h.deadline with
      | some time => do
        liftM (Run.awaitUntil isReady time)
        look fun k => !isReady k
      | none => pure false
    if isLate then return (line, true)
    let bytes ← l.read
    if bytes.isEmpty then return (line, false)
    let line := bytes.foldl (ReadLine.step h.isRaw h.mark) line
    if line.isDone then return (line, false) else readLine l h fuel line

/-- The status after a wait that was too long. -/
def lateStatus : Nat := 142

/-- Reads a line and gives its fields to variables. -/
def Builtin.wideRead : Builtin :=
  ⟨"read", false, false, fun _ _ arguments => contained do
    let (options, names) ← wideOptions "ersa:d:i:n:N:p:t:u:" arguments
    let value? (letter : Char) : Option Octets := (options.reverse.find? (·.1 == letter)).map (·.2)
    let descriptor ← match value? 'u' with
      | some o => openDescriptor o
      | none => pure 0
    let most ← match options.reverse.find? fun o => o.1 == 'n' || o.1 == 'N' with
      | some (_, o) => do pure (some (← countOf "number" o))
      | none => pure none
    let wait ← match value? 't' with
      | some o => do pure (some (← secondsOf o))
      | none => pure none
    for name in (value? 'a').toList ++ names.take 1 do
      if !isTarget name then failWith 1 (notIdentifier name)
    if wait == some 0 then
      return if ← look (·.canRead descriptor) then 0 else 1
    let now ← look (·.now)
    let isExact := hasOption options 'N'
    let mark := ((value? 'd').map (·.headD '\x00')).getD '\n'
    let manner : LineManner :=
      ⟨hasOption options 'r', if isExact then none else some mark, most, wait.map (now + ·)⟩
    let source : LineSource := ⟨descriptor, mark, if most.isSome then 1 else 4096⟩
    let (line, isLate) ← readLine source manner Run.patience ⟨[], false, false⟩
    let parts := line.parts.reverse
    let separators := (← get).separators?.getD standardSeparators
    match value? 'a' with
    | some name =>
      let fields := Segment.fields separators none (lineSegments parts)
      assignList (String.ofList name) false (fields.map fun f => ⟨none, false, f.text⟩)
    | none =>
      if names.isEmpty then assignTo (octets "REPLY") (Field.text parts)
      else if isExact then assignWideFields names [parts]
      else assignWideFields names (Segment.fields separators (some names.length) (lineSegments parts))
    return if isLate then lateStatus else if line.isDone then 0 else 1⟩

/-- Reads the rest of a line, with the character that ends it; `before` is what has been read, the
last character first. -/
def lineFrom (l : LineSource) (fuel : Nat) (before : Octets) : Act Octets :=
  match fuel with
  | 0 => return before.reverse
  | fuel + 1 => do
    let bytes ← l.read
    if bytes.isEmpty then return before.reverse
    if bytes.getLast? == some l.mark then return before.reverse ++ bytes
    lineFrom l fuel (bytes.reverse ++ before)

/-- How lines become values: how many are read at most, whether they are without their ends, and
what is evaluated after how many of them. -/
structure LineValues where
  most : Option Nat
  isTrimmed : Bool
  action : Option (Octets × Nat)

/-- Reads lines and puts them into a variable from a place on. -/
def takeLines (m : Means) (l : LineSource) (v : LineValues) (name : String) (fuel count place : Nat) :
    Act Unit :=
  match fuel with
  | 0 => return ()
  | fuel + 1 => do
    if v.most == some count then return ()
    let line ← lineFrom l Run.patience []
    if line.isEmpty then return ()
    let value := if v.isTrimmed && line.getLast? == some l.mark then line.dropLast else line
    match v.action with
    | some (action, quantum) =>
      if (count + 1) % quantum == 0 then
        let script := action ++ ' ' :: numeral place ++ ' ' :: Quoting.single value
        let _ ← m.perform (.text script .plain)
    | none => pure ()
    modify fun s => s.put ((s.variableNamed name).withValue (some (.number place)) value)
    takeLines m l v name fuel (count + 1) (place + 1)

/-- Reads lines into a variable. -/
def linesCommand (name : String) : Builtin :=
  ⟨name, false, false, fun m _ arguments => contained do
    let (options, names) ← wideOptions "d:n:O:tu:C:c:s:" arguments
    let value? (letter : Char) : Option Octets := (options.reverse.find? (·.1 == letter)).map (·.2)
    let count (letter : Char) (what : String) : Act (Option Nat) := do
      match value? letter with
      | some o => return some (← countOf what o)
      | none => return none
    let descriptor ← match value? 'u' with
      | some o => openDescriptor o
      | none => pure 0
    let most ← count 'n' "line count"
    let skipped ← count 's' "line count"
    let start ← count 'O' "array origin"
    let quantum ← count 'c' "callback quantum"
    let target := names.headD (octets "MAPFILE")
    if !Word.isName target then failWith 1 (notIdentifier target)
    let target := (← get).meant (String.ofList target)
    let v := (← get).variableNamed target
    if v.isReadOnly then failReadOnly target
    match if start.isNone then none else v.elements with
    | some _ => pure ()
    | none => modify (·.put { v with value := none, elements := some .empty })
    let mark := ((value? 'd').map (·.headD '\x00')).getD '\n'
    let source : LineSource := ⟨descriptor, mark, 4096⟩
    for _ in List.range (skipped.getD 0) do
      let _ ← lineFrom source Run.patience []
    let values : LineValues :=
      ⟨most.filter (· != 0), hasOption options 't',
        (value? 'C').map fun o => (o, max 1 (quantum.getD 5000))⟩
    takeLines m source values target Run.patience 0 (start.getD 0)
    return 0⟩

/-- The number of the word in which the next option is looked for. -/
def FoundOption.shownNext (found : FoundOption) (words : List Octets) : Nat :=
  match found.place, words[found.next - 2]? with
  | some n, some w => if n < w.length then found.next - 1 else found.next
  | _, _ => found.next

/-- Gives the next option of a script to a variable. -/
def Builtin.wideGetopts : Builtin :=
  ⟨"getopts", false, false, fun _ _ arguments => contained do
    let (_, rest) ← wideOptions "" arguments
    match rest with
    | spec :: name :: words =>
      let s ← get
      let words := if words.isEmpty then s.parameters else words
      let (index, place) :=
        if words.length + 1 < s.nextOption then (1, none) else (s.nextOption, s.optionPlace)
      let found := findOption spec words index place
      match found.fault with
      | some fault =>
        if s.get? "OPTERR" != some ['0'] then
          writeErrors (s.name ++ octets (": " ++ fault.wideMessage ++ "\n"))
      | none => pure ()
      match found.value with
      | some value => assign "OPTARG" value
      | none => unassign "OPTARG"
      assign "OPTIND" (numeral (found.shownNext words))
      modify ({ · with nextOption := found.next, optionPlace := found.place })
      if !Word.isName name then failWith 1 (notIdentifier name)
      assign (String.ofList name) [found.letter]
      return if found.isEnd then 1 else 0
    | _ => failUsage⟩

/-! ## The working directory -/

/-- Goes to another directory, and says whether it is shown. -/
def goWide (isPhysical : Bool) (target : Octets) : Act Bool := do
  let s ← get
  let path := if target.isEmpty then ['.'] else target
  match ← goToFirst isPhysical (directoriesFor s path) with
  | some shows => return shows
  | none =>
    let fault ← look fun k => match k.find (Octets.toText path) true with
      | .ok _ => Fault.notDirectory
      | .error fault => fault
    failWith 1 (target ++ octets (": " ++ fault.message))

/-- The value of a variable that has to be set. -/
def demanded (name : String) : Act Octets := do
  match (← get).get? name with
  | some value => return value
  | none => failWith 1 (octets (name ++ " not set"))

/-- Goes to another directory. -/
def Builtin.wideCd : Builtin :=
  ⟨"cd", false, false, fun _ _ arguments => contained do
    let (options, rest) ← wideOptions "LPe@" arguments
    let s ← get
    let isPhysical := match options.reverse.find? fun o => o.1 == 'L' || o.1 == 'P' with
      | some o => o.1 == 'P'
      | none => s.has 'P'
    if 1 < rest.length then failWith 1 (octets "too many arguments")
    let target ← match rest with
      | [] => demanded "HOME"
      | ['-'] :: _ => demanded "OLDPWD"
      | a :: _ => pure a
    let shows ← goWide isPhysical target
    if shows || rest.head? == some ['-'] then printLine (octets ((← get).directory.getD ""))
    return 0⟩

/-- Prints the working directory. -/
def Builtin.widePwd : Builtin :=
  ⟨"pwd", false, false, fun _ _ arguments => do
    let (options, _) ← wideOptions "LP" arguments
    let s ← get
    let isPhysical := match options.getLast? with
      | some o => o.1 == 'P'
      | none => s.has 'P'
    let path ← if isPhysical then look (·.workingPath?) else pure s.directory
    printLine (octets (path.getD ""))
    return 0⟩

/-- A path with a tilde in place of the home. -/
def homely (s : Memory) (path : Octets) : Octets :=
  match s.get? "HOME" with
  | some home =>
    if path == home then ['~']
    else if Octets.starts (home ++ ['/']) path then '~' :: path.drop home.length
    else path
  | none => path

/-- The working directory and those to go back to. -/
def Memory.stack (s : Memory) : List Octets := octets (s.directory.getD "") :: s.directories

/-- Prints the working directory and those to go back to, in one line. -/
def printStack : Act Unit := do
  let s ← get
  printLine (Octets.join [' '] (s.stack.map (homely s)))

/-- The place in the stack of directories that an argument names, if it has the form for that: from
the start after a plus sign, and from the end after a minus sign. -/
def stackPlace? (size : Nat) (o : Octets) : Option (Option Nat) :=
  match o with
  | '+' :: digits => (Octets.natural? digits).map fun n => if n < size then some n else none
  | '-' :: digits => (Octets.natural? digits).map fun n => if n < size then some (size - 1 - n) else none
  | _ => none

/-- Gives up because a place is not in the stack. -/
def failStack {α : Type} (o : Octets) : Act α := do
  if (← get).directories.isEmpty then failWith 1 (octets "directory stack empty")
  failWith 1 (o ++ octets ": directory stack index out of range")

/-- Goes to another directory and remembers the present one. -/
def Builtin.pushd : Builtin :=
  ⟨"pushd", false, false, fun _ _ arguments => contained do
    let stays := arguments.head? == some ['-', 'n']
    let rest := if stays then arguments.drop 1 else arguments
    let s ← get
    let stack := s.stack
    match rest with
    | [] =>
      match s.directories with
      | [] => failWith 1 (octets "no other directory")
      | next :: others =>
        let _ ← goWide false next
        modify ({ · with directories := stack.headD [] :: others })
    | o :: _ =>
      match stackPlace? stack.length o with
      | some none => failStack o
      | some (some n) =>
        let turned := stack.drop n ++ stack.take n
        if !stays then
          let _ ← goWide false (turned.headD [])
        modify ({ · with directories := turned.drop 1 })
      | none =>
        if stays then modify ({ · with directories := o :: s.directories })
        else
          let _ ← goWide false o
          modify ({ · with directories := stack })
    printStack
    return 0⟩

/-- Goes back to the directory that was remembered last. -/
def Builtin.popd : Builtin :=
  ⟨"popd", false, false, fun _ _ arguments => contained do
    let stays := arguments.head? == some ['-', 'n']
    let rest := if stays then arguments.drop 1 else arguments
    let s ← get
    if s.directories.isEmpty then failWith 1 (octets "directory stack empty")
    let place ← match rest with
      | [] => pure 0
      | o :: _ =>
        match stackPlace? s.stack.length o with
        | some (some n) => pure n
        | some none => failStack o
        | none => refuseOption (o ++ octets ": invalid argument")
    if place == 0 && !stays then
      let _ ← goWide false (s.directories.headD [])
      modify ({ · with directories := s.directories.drop 1 })
    else
      modify ({ · with directories := s.directories.eraseIdx (place - 1) })
    printStack
    return 0⟩

/-- Prints the directories that are remembered. -/
def Builtin.dirs : Builtin :=
  ⟨"dirs", false, false, fun _ _ arguments => do
    let letters := (arguments.filter fun o => match o with
      | '-' :: c :: _ => !c.isDigit
      | _ => false).flatMap (·.drop 1)
    match letters.find? fun c => !"clpv".toList.contains c with
    | some c => refuseOption ('-' :: c :: octets ": invalid option")
    | none => pure ()
    let s ← get
    if letters.contains 'c' then
      modify ({ · with directories := [] })
      return 0
    let shown := if letters.contains 'l' then s.stack else s.stack.map (homely s)
    match arguments.findSome? fun o => (stackPlace? shown.length o).map fun place => (o, place) with
    | some (_, some n) =>
      printLine (shown.getD n [])
      return 0
    | some (o, none) => failStack o
    | none =>
      if letters.contains 'v' then
        for (n, path) in (List.range shown.length).zip shown do
          let number := numeral n
          printLine (List.replicate (2 - number.length) ' ' ++ number ++ ' ' :: ' ' :: path)
      else if letters.contains 'p' then
        for path in shown do printLine path
      else printLine (Octets.join [' '] shown)
      return 0⟩

/-! ## Processes and signals -/

/-- The names of what is no signal but can be told apart in the same way. -/
def eventNames : List (String × Signal) :=
  [("EXIT", 0), ("DEBUG", beforeCommand), ("ERR", afterFailure), ("RETURN", afterReturn)]

/-- The signal that a text names, with or without the letters that all signals start with. -/
def wideSignal? (hasEvents : Bool) (o : Octets) : Option Signal :=
  let upper := o.map Char.toUpper
  let name := if Octets.starts (octets "SIG") upper then upper.drop 3 else upper
  match if hasEvents then eventNames.find? fun e => octets e.1 == name else none with
  | some (_, event) => some event
  | none => signalOf? 0 name

/-- What a signal is called. -/
def wideSignalName (s : Signal) : String :=
  match eventNames.find? (·.2 == s) with
  | some (name, _) => name
  | none => "SIG" ++ signalName s

/-- Prints all signals with their numbers, five in a line. -/
def printSignals : Act Unit := do
  let all := ((List.range (Signal.last + 1)).drop 1).filter fun n => n < 32 || 34 ≤ n
  for (place, n) in (List.range all.length).zip all do
    let number := numeral n
    print (List.replicate (2 - number.length) ' ' ++ number ++ octets (") " ++ wideSignalName n))
    print [if place % 5 == 4 then '\n' else '\t']
  if all.length % 5 != 0 then print ['\n']

/-- Prints what is done on an event. -/
def printTrap (event : Signal) : Act Unit := do
  match (← get).traps.lookup event with
  | some action =>
    printLine (octets "trap -- " ++ Quoting.single action
      ++ octets (" " ++ wideSignalName event))
  | none => pure ()

/-- Says what is done on signals, or prints it. -/
def Builtin.wideTrap : Builtin :=
  ⟨"trap", false, false, fun _ _ arguments => do
    let (options, words) ← wideOptions "lp" arguments
    if hasOption options 'l' then
      printSignals
      return 0
    let events (names : List Octets) (act : Signal → Act Unit) : Act Nat := do
      let mut status := 0
      for name in names do
        match wideSignal? true name with
        | some event => act event
        | none => status ← complaining 1 (name ++ octets ": invalid signal specification")
      return status
    if hasOption options 'p' || words.isEmpty then
      if words.isEmpty then
        for event in List.range (afterReturn + 1) do printTrap event
        return 0
      return ← events words printTrap
    let first := words.headD []
    let isReset := first == ['-'] || words.length == 1
      || (Octets.natural? first).any (· ≤ Signal.last)
    if words.length == 1 && (wideSignal? true first).isNone then failUsage
    let names := if isReset && first != ['-'] then words else words.drop 1
    events names fun event => do
      if !(← get).ignoredAtStart.contains event then
        modify (·.setTrap event (if isReset then none else some first))
        arrangeSignals⟩

/-- Gives up because there is no such job. -/
def failJob {α : Type} (status : Nat) (o : Octets) : Act α :=
  failWith status (o ++ octets ": no such job")

/-- The job that a text with a percent sign names. -/
def wideJob? (o : Octets) : Act (Option Job) := do
  let jobs := (← get).jobs
  return match o.drop 1 with
    | [] | ['%'] | ['+'] => jobs.head?
    | ['-'] => (jobs.drop 1).head?
    | rest => (Octets.natural? rest).bind fun n => jobs.find? (·.number == n)

/-- Waits for one of some jobs, and gives it with its status, unless a signal comes first. -/
def awaitAny (jobs : List Job) : Act (Except Nat (Option Job)) := do
  let isReady (k : Kernel) : Bool := jobs.any fun j => haveEnded [j] k
  if jobs.isEmpty then return .ok none
  if !(← awaitUnlessNoticed isReady) then return .error (← noticedStatus)
  noteEndings
  let numbers := jobs.map (·.number)
  return .ok ((← get).jobs.reverse.find? fun j => numbers.contains j.number && j.isDone)

/-- Waits for the processes and jobs that are named, and gives the status of the last one. -/
def awaitAllNamed (status : Nat) : List Octets → Act Nat
  | [] => return status
  | name :: rest => do
    let job? ← if name.head? == some '%' then do
        match ← wideJob? name with
        | some job => pure (some job)
        | none => do
          complain (name ++ octets ": no such job")
          pure none
      else
        match Octets.natural? name with
        | none =>
          failWith 1 ('\x60' :: name ++ octets "': not a pid or valid job spec")
        | some number =>
          match (← get).jobs.find? fun j => j.processes.contains number with
          | some job => pure (some job)
          | none => do
            complain (octets "pid " ++ name ++ octets " is not a child of this shell")
            pure none
    match job? with
    | none => awaitAllNamed 127 rest
    | some job =>
      match ← awaitJob job with
      | .ok status => awaitAllNamed status rest
      | .error status => return status

/-- Waits for what was started in the background. -/
def Builtin.wideWait : Builtin :=
  ⟨"wait", false, false, fun _ _ arguments => contained do
    let (options, names) ← wideOptions "fnp:" arguments
    let note (job : Option Job) : Act Unit := do
      match options.find? (·.1 == 'p') with
      | some (_, name) => assignTo name (match job.bind (·.processes.getLast?) with
        | some n => numeral n
        | none => [])
      | none => pure ()
    if hasOption options 'n' then
      let all := (← get).jobs
      let named ← names.mapM fun o => do
        if o.head? == some '%' then wideJob? o
        else return (Octets.natural? o).bind fun n => all.find? fun j => j.processes.contains n
      let jobs := if names.isEmpty then all.filter (!·.isAwaited) else named.filterMap id
      match ← awaitAny jobs with
      | .error status => return status
      | .ok none => return 127
      | .ok (some job) =>
        modifyJob job.number ({ · with isAwaited := true })
        note (some job)
        return job.status
    if names.isEmpty then
      if !(← awaitUnlessNoticed (haveEnded (← get).jobs)) then return ← noticedStatus
      noteEndings
      modify fun s => { s with jobs := s.jobs.map fun j => { j with isAwaited := true } }
      return 0
    awaitAllNamed 127 names⟩

/-- Prints jobs. -/
def Builtin.wideJobs : Builtin :=
  ⟨"jobs", false, false, fun _ _ arguments => do
    let (options, names) ← wideOptions "lpnxrs" arguments
    for name in names do
      if (← wideJob? name).isNone then failJob 1 name
    noteEndings
    let jobs := (← get).jobs.filter (!·.isAwaited)
    for (place, j) in ((List.range jobs.length).zip jobs).reverse do
      if hasOption options 'p' then printLine (numeral (j.processes.headD 0))
      else
        let mark := if place == 0 then "+" else if place == 1 then "-" else " "
        let number :=
          if hasOption options 'l' then toString (j.processes.headD 0) ++ " " else " "
        let state := if !j.isDone then "Running"
          else if j.status == 0 then "Done" else "Exit " ++ toString j.status
        let state := state ++ String.ofList (List.replicate (24 - state.length) ' ')
        printLine (octets ("[" ++ toString j.number ++ "]" ++ mark ++ number ++ " " ++ state))
    modify fun s => { s with jobs := s.jobs.filter fun j => !j.isDone || j.isAwaited }
    return 0⟩

/-- Prints the names of signals, or their numbers. -/
def listWideSignals : List Octets → Act Nat
  | [] => do
    printSignals
    return 0
  | names => do
    let mut status := 0
    for o in names do
      match Octets.natural? o with
      | some n =>
        let signal := if 128 < n then n - 128 else n
        if signal ≤ Signal.last then printLine (octets (signalName signal))
        else status ← complaining 1 (o ++ octets ": invalid signal specification")
      | none =>
        match wideSignal? false o with
        | some signal => printLine (numeral signal)
        | none => status ← complaining 1 (o ++ octets ": invalid signal specification")
    return status

/-- Sends a signal to processes and jobs, and says whether that was possible for one of them. -/
def sendWide (signal : Signal) (names : List Octets) : Act Nat := do
  let mut status := 1
  for name in names do
    let number? : Option Int ← if name.head? == some '%' then do
        match ← wideJob? name with
        | some job => pure (some (job.processes.headD 0 : Nat))
        | none => do
          complain (name ++ octets ": no such job")
          pure none
      else
        match wideNumber? name with
        | some n => pure (some n)
        | none => do
          complain (name ++ octets ": arguments must be process or job IDs")
          pure none
    match number? with
    | none => pure ()
    | some number =>
      match ← kernel fun k => match k.send number signal with
        | .ok k => (none, k)
        | .error fault => (some fault, k) with
      | none => status := 0
      | some fault => complain (octets ("(" ++ toString number ++ ") - " ++ fault.message))
  return status

/-- Sends signals, or lists them. -/
def Builtin.wideKill : Builtin :=
  ⟨"kill", false, false, fun _ _ arguments => do
    let send (signal : Signal) (names : List Octets) : Act Nat := do
      let names := if names.head? == some ['-', '-'] then names.drop 1 else names
      if names.isEmpty then failUsage
      sendWide signal names
    let sendNamed (name : Octets) (rest : List Octets) : Act Nat := do
      match wideSignal? false name with
      | some signal => send signal rest
      | none => failWith 1 (name ++ octets ": invalid signal specification")
    match arguments with
    | [] => failUsage
    | ['-', 'l'] :: rest | ['-', 'L'] :: rest => listWideSignals rest
    | ['-', 's'] :: name :: rest | ['-', 'n'] :: name :: rest => sendNamed name rest
    | ['-', 's'] :: [] => failWith 1 (octets "-s: option requires an argument")
    | ['-', 'n'] :: [] => failWith 1 (octets "-n: option requires an argument")
    | ['-', '-'] :: rest => send Signal.terminate rest
    | ('-' :: name) :: rest => sendNamed name rest
    | names => send Signal.terminate names⟩

/-- A command that needs job control, which a script does not have. -/
def withoutJobs (name complaint : String) : Builtin :=
  ⟨name, false, false, fun _ _ _ => complaining 1 (octets complaint)⟩

/-! ## The shell itself -/

/-- The status that an argument of a command that ends something gives; a text that is no number is
an end too. -/
def leavingStatus (arguments : List Octets) : Act Nat := do
  match arguments with
  | [] =>
    let s ← get
    return s.savedStatus.getD s.status
  | a :: rest =>
    match wideNumber? a with
    | none => complaining 2 (a ++ octets ": numeric argument required")
    | some n =>
      if !rest.isEmpty then failMany
      return (n % 256).toNat

/-- Ends the shell. -/
def Builtin.wideExit : Builtin :=
  ⟨"exit", false, false, fun _ _ arguments => do
    let status ← leavingStatus arguments
    modify ({ · with savedStatus := some status })
    throw .exited⟩

/-- Leaves a function or a script. -/
def Builtin.wideReturn : Builtin :=
  ⟨"return", false, false, fun _ _ arguments => do
    let status ← leavingStatus arguments
    let s ← get
    if s.functionDepth == 0 && !s.calls.any (·.name == "source") then
      failWith 2 (octets "can only \x60return' from a function or sourced script")
    modify ({ · with status := status })
    throw .returned⟩

/-- Leaves loops, or goes on with them. -/
def wideLoopJump (name : String) (jump : Nat → Jump) : Builtin :=
  ⟨name, false, false, fun _ _ arguments => do
    let depth := (← get).loopDepth
    if depth == 0 then
      return ← complaining 0
        (octets "only meaningful in a \x60for', \x60while', or \x60until' loop")
    match arguments with
    | [] =>
      modify ({ · with status := 0 })
      throw (jump 1)
    | a :: rest =>
      match wideNumber? a with
      | none =>
        complain (a ++ octets ": numeric argument required")
        modify ({ · with savedStatus := some 128 })
        throw .exited
      | some n =>
        if !rest.isEmpty then failMany
        if n ≤ 0 then
          complain (a ++ octets ": loop count out of range")
          modify ({ · with status := 1 })
          throw (.broken depth)
        modify ({ · with status := 0 })
        throw (jump (min n.toNat depth))⟩

/-- Drops parameters. -/
def Builtin.wideShift : Builtin :=
  ⟨"shift", false, false, fun _ _ arguments => do
    let count ← match arguments with
      | [] => pure 1
      | a :: rest =>
        match wideNumber? a with
        | none => failNumeric 1 a
        | some n =>
          if !rest.isEmpty then failMany
          if n < 0 then failWith 1 (a ++ octets ": shift count out of range")
          pure n.toNat
    let s ← get
    if s.parameters.length < count then
      if s.does "shift_verbose" then
        complain (arguments.headD ['1'] ++ octets ": shift count out of range")
      return 1
    modify ({ · with parameters := s.parameters.drop count })
    return 0⟩

/-- Lets a program take over the process, or redirections stay. -/
def Builtin.wideExec : Builtin :=
  ⟨"exec", false, false, fun m _ arguments => do
    let (options, words) ← wideOptions "cla:" arguments
    match words with
    | [] => return 0
    | name :: rest =>
      let s ← get
      let shown := ((options.reverse.find? (·.1 == 'a')).map (·.2)).getD name
      let shown := if hasOption options 'l' then '-' :: shown else shown
      let environment := if hasOption options 'c' then [] else s.environment
      let giveUp (status : Nat) : Act Nat := do
        modify ({ · with status := status, savedStatus := some status })
        if (← get).does "execfail" then return status
        throw .exited
      let path? ← if name.contains '/' then pure (some name)
        else look fun k => programPath? k s.searchPath name
      match path? with
      | none =>
        complain (name ++ octets ": not found")
        giveUp 127
      | some path =>
        let fault ← liftM
          (Run.becomeOrInterpret m.start "/bin/bash" (Octets.toText path) (shown :: rest) environment)
        let (status, reason) ← wideStartingFault path fault
        modify ({ · with commandName := none })
        complain (path ++ octets (": " ++ reason))
        if status == 126 then
          complain (octets "exec: " ++ path ++ octets (": cannot execute: " ++ reason))
        giveUp status⟩

/-- Prints how much time was spent, which is never much. -/
def Builtin.wideTimes : Builtin :=
  ⟨"times", false, false, fun _ _ _ => do
    printLine (octets "0m0.000s 0m0.000s")
    printLine (octets "0m0.000s 0m0.000s")
    return 0⟩

/-- What is wrong with a text that says which permissions there are, if something is. -/
def modeFault? (fuel : Nat) (o : Octets) : Option String :=
  match fuel with
  | 0 => none
  | fuel + 1 =>
    let quoted (c : Char) : String := "\x60" ++ toString c ++ "'"
    match o.dropWhile "ugoa".toList.contains with
    | [] => some "\x60\x00': invalid symbolic mode operator"
    | c :: r =>
      if c != '+' && c != '-' && c != '=' then some (quoted c ++ ": invalid symbolic mode operator")
      else
        match r.dropWhile "rwxXstugo".toList.contains with
        | [] => none
        | ',' :: more => modeFault? fuel more
        | d :: _ =>
          if d == '+' || d == '-' || d == '=' then none
          else some (quoted d ++ ": invalid symbolic mode character")

/-- Prints or sets which permissions new files do not get. -/
def Builtin.wideUmask : Builtin :=
  ⟨"umask", false, false, fun _ _ arguments => do
    let (options, rest) ← wideOptions "pS" arguments
    let tell : Act Unit := do
      let mask ← look (·.self.mask)
      let letters := "u=" ++ permissionLetters (mask / 64) ++ ",g=" ++ permissionLetters (mask / 8)
        ++ ",o=" ++ permissionLetters mask
      let isNamed := hasOption options 'S'
      let lead := if !hasOption options 'p' then "" else if isNamed then "umask -S " else "umask "
      printLine (octets (lead ++ if isNamed then letters else octalText 4 mask))
    match rest with
    | [] => tell
    | a :: _ =>
      let mask ← if a.head?.any Char.isDigit then do
          let n := a.foldl (fun n d => n * 8 + Text.wideDigitValue d) 0
          if !a.all Text.isOctalDigit || 0o777 < n then
            failWith 1 (a ++ octets ": octal number out of range")
          pure n
        else
          match modeFault? (a.length + 1) a, modeChanges? a with
          | some fault, _ => failWith 1 (octets fault)
          | none, some changes => do
            let allowed ← look (0o777 - ·.self.mask)
            pure (0o777 - changes.foldl (fun mode c => c.apply 0 false mode) allowed % 512)
          | none, none => failWith 1 (a ++ octets ": invalid symbolic mode character")
      kernel fun k => ((), k.modifySelf ({ · with mask := mask }))
      if hasOption options 'S' then tell
    return 0⟩

/-! ## What names mean -/

/-- What a name means as a command. -/
inductive Meaning where
  | alias (value : Octets)
  | keyword
  | function
  | builtin
  | found (path : Octets)
  | file (path : Octets)
  deriving DecidableEq, Repr

namespace Meaning

/-- What kind of meaning there is, in one word. -/
def kind : Meaning → String
  | .alias _ => "alias"
  | keyword => "keyword"
  | function => "function"
  | builtin => "builtin"
  | found _ | file _ => "file"

/-- What a name means, in a sentence. -/
def sentence (name : Octets) : Meaning → Octets
  | .alias value => name ++ octets " is aliased to \x60" ++ value ++ ['\'']
  | keyword => name ++ octets " is a shell keyword"
  | function => name ++ octets " is a function"
  | builtin => name ++ octets " is a shell builtin"
  | found path => name ++ octets " is hashed (" ++ path ++ [')']
  | file path => name ++ octets " is " ++ path

/-- What a name means, as it can be used. -/
def usable (name : Octets) : Meaning → Octets
  | .alias value => octets "alias " ++ name ++ '=' :: Quoting.single value
  | found path | file path => path
  | _ => name

/-- The path of the program that is meant. -/
def path? : Meaning → Option Octets
  | found path | file path => some path
  | _ => none

end Meaning

/-- The paths of the programs with a name. -/
def programPaths (k : Kernel) (directories name : Octets) : List Octets :=
  let isProgram (path : String) : Bool :=
    match k.find path true with
    | .ok n => !k.tree.isDirectoryAt n && k.tree.modeOf n &&& FileTree.runBits != 0
    | .error _ => false
  let paths := if name.contains '/' then [Octets.toText name] else Run.candidates directories name
  (paths.filter isProgram).map octets

/-- What a name means: first that which counts. -/
def meanings (names : List String) (skipsFunctions : Bool) (directories name : Octets) :
    Act (List Meaning) := do
  let s ← get
  let text := Octets.toText name
  let aliased := if s.does "expand_aliases" then (s.aliases.lookup text).toList else []
  let isKeyword := ((Keyword.spellingsIn .wide).lookup text).isSome || text == "]]" || text == "coproc"
  let isFunction := !skipsFunctions && (s.functions.lookup text).isSome
  let paths ← look fun k => programPaths k directories name
  let known := (s.found? directories name).map Meaning.found
  return aliased.map Meaning.alias ++ (if isKeyword then [Meaning.keyword] else [])
    ++ (if isFunction then [Meaning.function] else [])
    ++ (if names.contains text then [Meaning.builtin] else [])
    ++ known.toList ++ paths.map Meaning.file

/-- Says what names mean. -/
def wideType (names : List String) : Builtin :=
  ⟨"type", false, false, fun _ _ arguments => do
    let (options, words) ← wideOptions "afptP" arguments
    let isAll := hasOption options 'a'
    let s ← get
    let mut status := 0
    for name in words do
      let all ← meanings names (hasOption options 'f') s.searchPath name
      let all := if isAll then all.filter fun
        | .found _ => false
        | _ => true else all
      let all := if hasOption options 'P' then all.filter (·.path?.isSome) else all
      let shown := if isAll then all else all.take 1
      if shown.isEmpty then
        status := 1
        if !"ptP".toList.any (hasOption options) then complain (name ++ octets ": not found")
      for meaning in shown do
        if hasOption options 't' then printLine (octets meaning.kind)
        else if hasOption options 'p' || hasOption options 'P' then
          for path in meaning.path?.toList do printLine path
        else printLine (meaning.sentence name)
    return status⟩

/-- Says what names mean; where it stands before a command that is followed it is not needed here. -/
def wideCommand (names : List String) : Builtin :=
  ⟨"command", false, false, fun _ _ arguments => do
    let (options, words) ← wideOptions "pvV" arguments
    let s ← get
    let directories := if hasOption options 'p' then Run.standardPath else s.searchPath
    let isVerbose := hasOption options 'V'
    if words.isEmpty || !(isVerbose || hasOption options 'v') then return 0
    let mut isFound := false
    for name in words do
      match (← meanings names false directories name).head? with
      | some meaning =>
        isFound := true
        printLine (if isVerbose then meaning.sentence name else meaning.usable name)
      | none => if isVerbose then complain (name ++ octets ": not found")
    return if isFound then 0 else 1⟩

/-- Follows a command of the shell itself, past functions with its name. -/
def builtinCommand (commands : List Builtin) : Builtin :=
  ⟨"builtin", false, false, fun m manner arguments => do
    let (_, words) ← wideOptions "" arguments
    match words with
    | [] => return 0
    | name :: rest =>
      match commands.find? fun b => octets b.name == name with
      | some b =>
        modify ({ · with commandName := some name })
        b.run m manner rest
      | none => failWith 1 (name ++ octets ": not a shell builtin")⟩

/-- Tells which commands of the shell itself can be used. -/
def enableCommand (names : List String) : Builtin :=
  ⟨"enable", false, false, fun _ _ arguments => do
    let (_, words) ← wideOptions "adnpsf:" arguments
    let sorted := names.mergeSort fun a b => Octets.le (octets a) (octets b)
    if words.isEmpty then
      for name in sorted do printLine (octets ("enable " ++ name))
    let mut status := 0
    for name in words do
      if !names.contains (Octets.toText name) then
        status ← complaining 1 (name ++ octets ": not a shell builtin")
    return status⟩

/-- Tells or forgets where programs have been found, or looks for some. -/
def wideHash (names : List String) : Builtin :=
  ⟨"hash", false, false, fun _ _ arguments => do
    let (options, words) ← wideOptions "dlrtp:" arguments
    if hasOption options 'r' then modify ({ · with found := [] })
    let s ← get
    let known := if s.foundIn == s.searchPath then s.found else []
    if words.isEmpty && options.isEmpty then
      if known.isEmpty then printLine (octets "hash: hash table empty")
      else
        printLine (octets "hits\tcommand")
        for (_, path) in known.mergeSort fun a b => keyPlace a.1 % 256 ≤ keyPlace b.1 % 256 do
          printLine (octets "   1\t" ++ path)
      return 0
    let mut status := 0
    for name in words do
      let drop : Act Unit := modify fun s => { s with found := s.found.filter (·.1 != name) }
      let missing : Act Nat := complaining 1 (name ++ octets ": not found")
      if hasOption options 't' then
        match known.lookup name with
        | some path =>
          printLine (if words.length == 1 then path else name ++ '\t' :: path)
        | none => status ← missing
      else if hasOption options 'd' then
        if (known.lookup name).isNone then status ← missing
        drop
      else
        match options.find? (·.1 == 'p') with
        | some (_, path) =>
          drop
          modify fun s => { s with found := s.found ++ [(name, path)], foundIn := s.searchPath }
        | none =>
          let isOwn := (s.functions.lookup (Octets.toText name)).isSome
            || names.contains (Octets.toText name) || name.contains '/'
          if !isOwn then
            drop
            if (← findProgram s.searchPath name).isNone then status ← missing
    return status⟩

/-- An alias as a command that makes it. -/
def wideAliasLine (a : String × Octets) : Octets :=
  octets ("alias " ++ a.1 ++ "=") ++ Quoting.single a.2

/-- Makes aliases, or prints them. -/
def Builtin.wideAlias : Builtin :=
  ⟨"alias", false, false, fun _ _ arguments => do
    let (options, words) ← wideOptions "p" arguments
    let s ← get
    if words.isEmpty || !options.isEmpty then
      for a in s.aliases.mergeSort fun a b => Octets.le (octets a.1) (octets b.1) do
        printLine (wideAliasLine a)
    let mut status := 0
    for a in words do
      match splitAssignment a with
      | (name, some value) =>
        let name := Octets.toText name
        modify fun s => { s with aliases := s.aliases.filter (·.1 != name) ++ [(name, value)] }
      | (name, none) =>
        match (← get).aliases.lookup (Octets.toText name) with
        | some value => printLine (wideAliasLine (Octets.toText name, value))
        | none => status ← complaining 1 (name ++ octets ": not found")
    return status⟩

/-- Takes aliases away. -/
def Builtin.wideUnalias : Builtin :=
  ⟨"unalias", false, false, fun _ _ arguments => do
    let (options, words) ← wideOptions "a" arguments
    if !options.isEmpty then
      modify ({ · with aliases := [] })
      return 0
    if words.isEmpty then failUsage
    let mut status := 0
    for a in words do
      let name := Octets.toText a
      if ((← get).aliases.lookup name).isSome then
        modify fun s => { s with aliases := s.aliases.filter (·.1 != name) }
      else status ← complaining 1 (a ++ octets ": not found")
    return status⟩

/-! ## What is evaluated -/

/-- Evaluates something as a part of the script, and comes back to the line it was in. -/
def within (act : Act Nat) : Act Nat := do
  let s ← get
  closing (modify fun t => { t with depth := s.depth, errorLine := s.errorLine, place := s.place }) do
    modify fun t => { t with depth := t.depth + 1, commandName := none }
    act

/-- Evaluates its arguments as a script. -/
def Builtin.wideEval : Builtin :=
  ⟨"eval", false, false, fun m manner arguments => do
    let (_, words) ← wideOptions "" arguments
    if words.isEmpty then return 0
    within do
      modify ({ · with place := "eval" })
      m.perform (.text (Octets.join [' '] words) manner.inner)⟩

/-- The path of a script that is to be evaluated. -/
def wideScriptPath (name : Octets) : Act Octets := do
  if name.contains '/' then return name
  let directories := (← get).searchPath
  let found ← look fun k => (Run.candidates directories name).find? fun path =>
    k.tree.isFile k.self.directory path
  return (found.map octets).getD name

/-- Evaluates a file as a script. -/
def scriptCommand (name : String) : Builtin :=
  ⟨name, false, false, fun m _ arguments => do
    let (_, words) ← wideOptions "" arguments
    match words with
    | [] =>
      complain (octets "filename argument required")
      failUsage
    | file :: parameters =>
      let path ← wideScriptPath file
      if ← look fun k => k.tree.isDirectory k.self.directory (Octets.toText path) then
        failWith 1 (path ++ octets ": is a directory")
      match ← liftM (Run.readPath (Octets.toText path)) with
      | .error fault =>
        modify ({ · with commandName := none })
        failWith 1 (file ++ octets (": " ++ fault.message))
      | .ok bytes =>
        let s ← get
        let back : Act Unit := modify fun t => { t with
          calls := s.calls
          loopDepth := s.loopDepth
          parameters := if parameters.isEmpty then t.parameters else s.parameters }
        closing back do
          within do
            modify fun t => { t with
              calls := ⟨"source", path, s.errorLine⟩ :: t.calls
              parameters := if parameters.isEmpty then t.parameters else parameters
              place := "" }
            m.perform (.script (.ofOctets .wide (Octets.ofBytes bytes) 1))⟩

/-- Tells from where the present function was called. -/
def Builtin.caller : Builtin :=
  ⟨"caller", false, false, fun _ _ arguments => do
    let s ← get
    let sourceOf (n : Nat) : Octets := ((s.calls[n]?).map (·.source)).getD (octets "NULL")
    match arguments with
    | [] =>
      match s.calls with
      | [] => return 1
      | call :: _ => printLine (numeral call.line ++ ' ' :: sourceOf 1)
      return 0
    | a :: _ =>
      match Octets.natural? a with
      | none => refuseOption (a ++ octets ": invalid number")
      | some n =>
        match s.calls[n]?, s.calls[n + 1]? with
        | some call, some outer =>
          printLine (numeral call.line ++ ' ' :: octets outer.name ++ ' ' :: outer.source)
          return 0
        | _, _ => return 1⟩

namespace Builtin

/-- The commands of the wide dialect but those that know others. -/
def wide : List Builtin :=
  [.wideEcho, .widePrintf, .wideTest, .wideBracket, idle ":" false 0, idle "true" false 0,
    idle "false" false 1, .let, .wideCd, .widePwd, .pushd, .popd, .dirs, wideMark "export" 'x',
    wideMark "readonly" 'r', declareCommand "declare" false, declareCommand "typeset" false,
    declareCommand "local" true, .wideSet, .shopt, .wideShift, .wideUnset, .wideGetopts, .wideRead,
    linesCommand "mapfile", linesCommand "readarray", .wideWait, .wideKill, .wideTrap, .wideJobs,
    withoutJobs "fg" "no job control", withoutJobs "bg" "no job control",
    withoutJobs "disown" "current: no such job",
    withoutJobs "suspend" "cannot suspend: no job control", .wideExec, .wideExit,
    withoutJobs "logout" "not login shell: use \x60exit'", .wideReturn, .wideTimes, .wideUmask,
    .ulimit, .wideAlias, .wideUnalias, .wideEval,
    scriptCommand ".", scriptCommand "source", wideLoopJump "break" .broken,
    wideLoopJump "continue" .continued, .caller, idle "bind" false 1, idle "compgen" false 1,
    idle "complete" false 0, idle "compopt" false 1, idle "fc" false 0, idle "help" false 0,
    idle "history" false 0]

/-- The names of all commands of the wide dialect. -/
def wideNames : List String :=
  ["builtin", "command", "enable", "hash", "type"] ++ wide.map (·.name)

/-- All commands of the wide dialect. -/
def allWide : List Builtin :=
  builtinCommand wide :: wideCommand wideNames :: enableCommand wideNames :: wideHash wideNames
    :: wideType wideNames :: wide

/-- The command of the shell itself with a name. -/
def named? (dialect : Dialect) (name : Octets) : Option Builtin :=
  match dialect with
  | .common => find? name
  | .wide =>
    let name := String.ofList name
    allWide.find? (·.name == name)

end Builtin

end Flowscript.Shell
