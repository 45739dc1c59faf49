import Flowscript.Programs.Tool.Processes

/-!
# Arguments from the input

* `Batch` is the command that is being put together, with the processes that have been started.
* `Batch.add` puts an argument to it, and starts it first if there is no room.
* `Batch.item?` reads up to the end of a line, or of an argument if those are delimited.
* `xargsTool` runs a program with arguments that it reads.
-/

set_option autoImplicit false

namespace Flowscript.Tool

/-- What is wanted of the commands that are put together. -/
structure BatchPlan where
  command : List Octets
  /-- The character after each argument; without one, they are words with quotes. -/
  delimiter : Option Char
  /-- The word that ends the input. -/
  last : Option Octets
  /-- What a line takes the place of. -/
  mark : Option Octets
  /-- How many lines and words a command gets; zero is for as many as there is room for. -/
  perLines : Nat
  perWords : Nat
  /-- The room for a command, in characters. -/
  room : Nat
  /-- Whether it is an error if a command has no room for what it should get. -/
  isStrict : Bool
  /-- Whether a command runs even if there is nothing to read. -/
  always : Bool
  isShown : Bool
  asks : Bool
  /-- How many commands run at a time; zero is for as many as there are. -/
  most : Nat
  /-- The variable that says which of those a command is. -/
  place : Option Octets
  /-- Whether commands can read what there is to read. -/
  keepsInput : Bool
  start : Invocation → Run Nat

/-- A command that is being put together, and what became of those before it. -/
structure Batch where
  descriptor : Nat
  /-- What was read and not used. -/
  pending : Octets
  isOver : Bool
  /-- The arguments so far, the last one first. -/
  words : List Octets
  /-- The room that they take, and how much of it is not for arguments that were read. -/
  size : Nat
  fixed : Nat
  lines : Nat
  runs : Nat
  /-- The processes at work, each with its place among them. -/
  running : List (Nat × Nat)
  hasWarned : Bool

/-- A piece of work on commands that are put together. -/
abbrev BatchRun := ReaderT BatchPlan (StateT Batch ToolRun)

namespace Batch

/-- Does something that any program does. -/
def act {α : Type} (a : ToolRun α) : BatchRun α := liftM a

/-! ## Processes -/

/-- Notes how a process ended; there is a complaint if that should end all. -/
def judge (name : Octets) : Ending → ToolRun (Option (Nat × Octets))
  | .exited 0 => return none
  | .exited 255 => return some (124, name ++ octets ": exited with status 255; aborting")
  | .exited _ => do
    noteFailure 123
    return none
  | .killed signal =>
    return some (125, name ++ octets (": terminated by signal " ++ toString signal))

/-- Waits for all processes to end, and gives the status to end with. -/
def awaitAll (status : Nat) : List (Nat × Nat) → BatchRun Nat
  | [] => return status
  | (number, _) :: rest => do
    let name := (← read).command.headD []
    match ← act (do judge name (← liftM (Run.wait number))) with
    | none => awaitAll status rest
    | some (bad, message) =>
      act (complain message)
      awaitAll bad rest

/-- Ends the program. -/
def stop {α : Type} (status : Nat) : BatchRun α := do
  act flush
  let status ← awaitAll status (← get).running
  throw status

/-- Ends the program after a complaint. -/
def fail {α : Type} (status : Nat) (message : Octets) : BatchRun α := do
  act (complain message)
  stop status

/-- Takes leave of a process that has ended. -/
def reap (number : Nat) : BatchRun Unit := do
  let name := (← read).command.headD []
  let verdict ← act (do judge name (← liftM (Run.wait number)))
  modify fun b => { b with running := b.running.filter (·.1 != number) }
  match verdict with
  | none => return ()
  | some (status, message) => fail status message

/-- Takes leave of the processes that have ended, and waits for one if there are too many. -/
def makePlace : BatchRun Unit := do
  let most := (← read).most
  let before := (← get).running
  let ended ← act (look fun k => before.filter fun p => !k.isAlive p.1)
  for (number, _) in ended do reap number
  let running := (← get).running
  if most != 0 && most ≤ running.length then
    act (liftM (Run.await fun k => running.any fun p => !k.isAlive p.1))
    match ← act (look fun k => running.find? fun p => !k.isAlive p.1) with
    | some (number, _) => reap number
    | none => return ()

/-- The way that a command is shown. -/
def shown (words : List Octets) : Octets :=
  Octets.join [' '] (words.map (Text.quotedForShell false))

/-- What a process does before the command takes over. -/
def prepare (plan : BatchPlan) (place : Nat) : ToolRun Unit := do
  if !plan.keepsInput then
    kernel fun k =>
      match k.openPath "/dev/null" .read with
      | (.ok i, k) => ((), k.setDescriptor 0 i)
      | (.error _, k) => ((), k)
  match plan.place with
  | none => return ()
  | some name =>
    modify fun s => { s with
      environment := s.environment ++ [name ++ '=' :: Nat.toDigits 10 place] }

/-- Starts a process for a command.  There is an answer if the command cannot be run: the status to
end with. -/
def launch (plan : BatchPlan) (words : List Octets) (place : Nat) : ToolRun (Nat × Option Nat) := do
  flush
  let (reading, writing) ← kernel fun k =>
    let (reading, writing, k) := k.openPipe
    let (first, k) := k.addDescriptor Kernel.firstPrivate reading
    let (second, k) := k.addDescriptor Kernel.firstPrivate writing
    ((first, second), k)
  let s ← get
  let child : ToolRun Nat := do
    kernel fun k => ((), k.close reading)
    prepare plan place
    let fault ← takeOver plan.start words
    let _ ← liftM (Run.write writing (Octets.toBytes [Char.ofNat (missingStatus fault)]))
    giveUp (missingStatus fault) (words.headD [] ++ octets (": " ++ fault.message))
  let number ← liftM
    (Run.fork (run (fun _ _ => child) plan.start ⟨"", [s.name], s.environment⟩))
  liftM (Run.close writing)
  let answer ← liftM (Run.readAll reading)
  liftM (Run.close reading)
  match answer with
  | .error _ => return (number, none)
  | .ok bytes => return (number, (Octets.ofBytes bytes).head?.map Char.toNat)

/-- Runs the command that has been put together, and forgets its arguments. -/
def execute : BatchRun Unit := do
  let plan ← read
  let words := (← get).words.reverse
  if plan.asks then
    act (writeErrors (shown words))
    fail 1 (octets "failed to open /dev/tty for reading: No such device or address")
  if plan.isShown then act (writeErrors (shown words ++ ['\n']))
  makePlace
  let taken := (← get).running.map (·.2)
  let place := ((List.range (taken.length + 1)).find? fun n => !taken.contains n).getD 0
  let (number, wrong) ← act (launch plan words place)
  match wrong with
  | some status =>
    let _ ← act (liftM (Run.wait number))
    stop status
  | none =>
    modify fun b => { b with
      running := b.running ++ [(number, place)], runs := b.runs + 1
      words := if plan.mark.isSome then [] else plan.command.reverse, size := b.fixed }

/-! ## Arguments -/

/-- Whether there are arguments that were read. -/
def hasWords : BatchRun Bool := do return (← read).command.length < (← get).words.length

/-- Runs the command before the program ends, if that makes sense. -/
def executeIfPossible : BatchRun Unit := do
  let plan ← read
  if plan.mark.isNone && !plan.isStrict && (← hasWords) then execute

/-- Whether a command has all the words that it should get. -/
def isFull : BatchRun Bool := do
  let plan ← read
  return plan.perWords != 0 && plan.command.length + plan.perWords ≤ (← get).words.length

/-- Puts a word to the command; `isGiven` says that it is one of its own. -/
def add (isGiven : Bool) (word : Octets) : BatchRun Unit := do
  let plan ← read
  let size := word.length + 1
  if plan.room < (← get).size + size then
    if isGiven || !(← hasWords) then
      fail 1 (octets "cannot fit single argument within argument list size limit")
    if plan.isStrict && (plan.perLines != 0 || plan.perWords != 0) then
      fail 1 (octets "argument list too long")
    execute
  let word := word.takeWhile (· != '\x00')
  modify fun b => { b with words := word :: b.words, size := b.size + size }
  if isGiven then modify fun b => { b with fixed := b.size }
  else if ← isFull then execute

/-- Puts a line in place of a mark in a word, or gives nothing if that needs too much room. -/
def filled? (mark line : Octets) (fuel room : Nat) (word : Octets) : Option Octets :=
  match fuel with
  | 0 => none
  | fuel + 1 =>
    let lead := (List.range (word.length + 1)).find? fun n => mark.isPrefixOf (word.drop n)
    let before := lead.getD word.length
    if room ≤ before then if word.isEmpty then some [] else none
    else
      match lead with
      | none => some word
      | some n =>
        if room - before ≤ line.length then none
        else
          let rest := word.drop (n + mark.length)
          if rest.isEmpty then some (word.take n ++ line)
          else (filled? mark line fuel (room - before - line.length) rest).map
            (word.take n ++ line ++ ·)

/-- Runs the command with a line in place of the mark, which its name does not have. -/
def executeWith (mark line : Octets) : BatchRun Unit := do
  let plan ← read
  modify fun b => { b with words := [], size := 0 }
  add true (plan.command.headD [])
  for word in plan.command.drop 1 do
    match filled? mark line (plan.room + 1) (plan.room - 1) word with
    | some word => add true word
    | none => fail 1 (octets "command too long")
  execute

/-! ## Reading -/

/-- The next character. -/
def next? (fuel : Nat) : BatchRun (Option Char) :=
  match fuel with
  | 0 => return none
  | fuel + 1 => do
    let b ← get
    match b.pending with
    | c :: rest =>
      set { b with pending := rest }
      return some c
    | [] =>
      match ← act (liftM (Run.read b.descriptor 4096)) with
      | .error _ => return none
      | .ok bytes =>
        if bytes.isEmpty then return none
        set { b with pending := Octets.ofBytes bytes }
        next? fuel

/-- Complains when a text has no room. -/
def checkRoom (text : Octets) : BatchRun Unit := do
  if (← read).room ≤ (← get).fixed + 1 + text.length then
    executeIfPossible
    fail 1 (octets "argument line too long")

/-- Notes that the input is over. -/
def finish : BatchRun (Option Octets) := do
  modify ({ · with isOver := true })
  return none

/-- Uses an argument that was read, unless a line is used as a whole. -/
def take (text : Octets) : BatchRun (Option Octets) := do
  if (← read).mark.isNone then add false text
  return some text

/-- Reads an argument that ends with a character. -/
def delimited? (delimiter : Char) (fuel : Nat) (text : Octets) : BatchRun (Option Octets) :=
  match fuel with
  | 0 => return none
  | fuel + 1 => do
    match ← next? 2 with
    | none =>
      if text.isEmpty then finish
      else
        modify ({ · with isOver := true })
        take text.reverse
    | some c =>
      if c == delimiter then
        modify fun b => { b with lines := b.lines + 1 }
        take text.reverse
      else
        checkRoom text
        delimited? delimiter fuel (c :: text)

/-- Where a reader of words is. -/
inductive WordPhase where
  | between
  | inside
  | quoted (mark : Char)
  | escaped

/-- Complains about a quote that is not closed. -/
def unmatched {α : Type} (mark : Char) : BatchRun α := do
  executeIfPossible
  let kind := if mark == '"' then "double" else "single"
  fail 1 (octets ("unmatched " ++ kind
    ++ " quote; by default quotes are special to xargs unless you use the -0 option"))

/-- What is said of a character that no argument can have. -/
def nothingWarning : Octets :=
  octets ("WARNING: a NUL character occurred in the input.  It cannot be passed through in the "
    ++ "argument list.  Did you mean to use the --null option?")

/-- Reads words up to the end of a line.  `isFirst` says that there was no word before. -/
def words? (fuel : Nat) (phase : WordPhase) (before : Option Char) (text : Octets)
    (wasQuoted isFirst : Bool) : BatchRun (Option Octets) :=
  match fuel with
  | 0 => return none
  | fuel + 1 => do
    let plan ← read
    let isLast : Bool := plan.last.any (· == text.reverse)
    let keep (c : Char) (phase : WordPhase) : BatchRun (Option Octets) := do
      checkRoom text
      words? fuel phase (some c) (c :: text) wasQuoted isFirst
    let plain (c : Char) : BatchRun (Option Octets) := do
      if c == '\n' then
        if before != some ' ' && before != some '\t' then
          modify fun b => { b with lines := b.lines + 1 }
        if text.isEmpty && !wasQuoted then words? fuel .between (some c) [] false isFirst
        else if isLast then finish
        else take text.reverse
      else if plan.mark.isNone && (c == ' ' || c == '\t') then
        if isLast then finish
        else
          add false text.reverse
          words? fuel .between (some c) [] false false
      else if c == '\\' then words? fuel .escaped (some c) text wasQuoted isFirst
      else if c == '\'' || c == '"' then words? fuel (.quoted c) (some c) text true isFirst
      else keep c .inside
    match ← next? 2 with
    | none =>
      modify ({ · with isOver := true })
      match text, phase with
      | [], _ => return none
      | _, .quoted mark => unmatched mark
      | _, _ => if isFirst && isLast then return none else take text.reverse
    | some c =>
      if c == '\x00' && !(← get).hasWarned then
        act (complain nothingWarning)
        modify ({ · with hasWarned := true })
      match phase with
      | .between =>
        if Text.isSpace c then words? fuel .between (some c) text wasQuoted isFirst else plain c
      | .inside => plain c
      | .quoted mark =>
        if c == '\n' then unmatched mark
        else if c == mark then words? fuel .inside (some c) text true isFirst
        else keep c (.quoted mark)
      | .escaped => keep c .inside

/-- Reads up to the end of a line, or of an argument if those are delimited. -/
def item? : BatchRun (Option Octets) := do
  if (← get).isOver then return none
  match (← read).delimiter with
  | some c => delimited? c Run.patience []
  | none => words? Run.patience .between none [] false true

/-- Runs a command for each line. -/
def runLines (mark : Octets) (fuel : Nat) : BatchRun Unit :=
  match fuel with
  | 0 => return ()
  | fuel + 1 => do
    match ← item? with
    | none => return ()
    | some line =>
      executeWith mark line
      runLines mark fuel

/-- Runs commands with as many arguments as they should get. -/
def runWords (fuel : Nat) : BatchRun Unit :=
  match fuel with
  | 0 => return ()
  | fuel + 1 => do
    match ← item? with
    | none => return ()
    | some _ =>
      let most := (← read).perLines
      if most != 0 && most ≤ (← get).lines then
        execute
        modify ({ · with lines := 0 })
      runWords fuel

/-- Runs all commands. -/
def runAll : BatchRun Nat := do
  let plan ← read
  match plan.mark with
  | some mark => runLines mark Run.patience
  | none =>
    for word in plan.command do add true word
    runWords Run.patience
    if (← hasWords) || (plan.always && (← get).runs == 0) then execute
  match ← awaitAll 0 (← get).running with
  | 0 => act notedStatus
  | status => return status

end Batch

/-! ## Options -/

/-- The most characters that a command can have, without those of the variables. -/
def roomOf (environment : List Octets) : Nat :=
  2095104 - (environment.map fun v => v.length + 1).sum

/-- The room for a command if nothing is said of it. -/
def usualRoom : Nat := 131072

/-- The number that an option has; one that is too small or too large is refused, or put right. -/
def batchNumber (letter : Char) (least : Int) (most : Option Int) (isFatal : Bool) (o : Octets) :
    ToolRun Nat := do
  let refuse (relation : String) (bound : Int) : ToolRun Nat := do
    let message := octets "value " ++ o ++ octets " for -" ++ letter
      :: octets (" option should be " ++ relation ++ " " ++ toString bound)
    if isFatal then giveUpUsage 1 message
    complain message
    return bound.toNat
  match Int64s.ofOctets? (some 10) o with
  | none =>
    giveUpUsage 1 (octets "invalid number \"" ++ o ++ octets "\" for -" ++ letter
      :: octets " option")
  | some n =>
    if n < least then refuse ">=" least
    else
      match most with
      | some most => if most < n then refuse "<=" most else return n.toNat
      | none => return n.toNat

/-- The character that an option names after a backslash. -/
def escapedDelimiter (o : Octets) : ToolRun Char := do
  let wrong {α : Type} (reason : Octets) : ToolRun α :=
    giveUp 1 (octets "Invalid escape sequence " ++ o ++ octets " in input delimiter specification"
      ++ reason)
  let numbered (base : Nat) (limit : String) (digits : Octets) : ToolRun Char := do
    let (value, rest) := Int64s.digits base digits
    if 255 < value then wrong (octets ("; character values must not exceed " ++ limit ++ "."))
    match rest with
    | [] => return Char.ofNat value
    | rest => wrong (octets "; trailing characters " ++ rest ++ octets " not recognised.")
  match o.drop 1 with
  | ['a'] => return '\x07'
  | ['b'] => return '\x08'
  | ['f'] => return '\x0c'
  | ['n'] => return '\n'
  | ['r'] => return '\x0d'
  | ['t'] => return '\t'
  | ['v'] => return '\x0b'
  | ['\\'] => return '\\'
  | 'x' :: digits => numbered 16 "ff" digits
  | digits =>
    if digits.head?.all Text.isOctalDigit then numbered 8 "377" digits else wrong ['.']

/-- The delimiter that an option names. -/
def delimiterOf : Octets → ToolRun Char
  | [c] => return c
  | '\\' :: rest => escapedDelimiter ('\\' :: rest)
  | o =>
    giveUp 1 (octets "Invalid input delimiter specification " ++ o
      ++ octets (": the delimiter must be either a single character or an escape sequence "
        ++ "starting with \\."))

/-- Says that an option before another one does not count. -/
def warnIgnored (earlier later : String) : ToolRun Unit :=
  complain (octets ("warning: options " ++ earlier ++ " and " ++ later
    ++ " are mutually exclusive, ignoring previous " ++ earlier ++ " value"))

/-- A plan with another way to share arguments out, after a warning about the ways that were named
before. -/
def BatchPlan.instead (p : BatchPlan) (later : String) (mark : Option Octets)
    (perLines perWords : Nat) : ToolRun BatchPlan := do
  if p.perLines != 0 && perLines == 0 then warnIgnored "--max-lines" later
  if p.perWords != 0 && perWords == 0 then warnIgnored "--max-args" later
  if p.mark.isSome && mark.isNone then warnIgnored "--replace" later
  return { p with mark := mark, perLines := perLines, perWords := perWords }

/-- The options. -/
def batchOptions : List OptionSpec :=
  [.flag '0' "null", .setting 'a' "arg-file", .setting 'd' "delimiter", .setting 'E' "E",
    ⟨'e', "eof", .optional⟩, .setting 'I' "I", ⟨'i', "replace", .optional⟩,
    .setting 'L' "L", ⟨'l', "max-lines", .optional⟩, .setting 'n' "max-args",
    .flag 'o' "open-tty", .flag 'p' "interactive", .flag 'r' "no-run-if-empty",
    .setting 's' "max-chars", .flag 't' "verbose", .flag 'x' "exit", .setting 'P' "max-procs",
    .setting OptionSpec.noLetter "process-slot-var", .flag OptionSpec.noLetter "show-limits"]

/-- What an option changes. -/
def BatchPlan.withOption (p : BatchPlan) : GivenOption → ToolRun BatchPlan
  | ("null", _) => return { p with delimiter := some '\x00' }
  | ("delimiter", o) => do return { p with delimiter := some (← delimiterOf o) }
  | ("E", o) | ("eof", o) => return { p with last := if o.isEmpty then none else some o }
  | ("I", o) => p.instead "--replace/-I/-i" (some o) 0 0
  | ("replace", o) =>
    p.instead "--replace/-I/-i" (some (if o.isEmpty then octets "{}" else o)) 0 0
  | ("L", o) => do p.instead "-L" none (← batchNumber 'L' 1 none true o) 0
  | ("max-lines", o) => do
    let n ← if o.isEmpty then pure 1 else batchNumber 'l' 1 none true o
    p.instead "--max-lines/-l" none n 0
  | ("max-args", o) => do
    let n ← batchNumber 'n' 1 none true o
    if n == 1 && p.mark.isSome then return p
    p.instead "--max-args/-n" none 0 n
  | ("interactive", _) => return { p with asks := true }
  | ("verbose", _) => return { p with isShown := true }
  | ("no-run-if-empty", _) => return { p with always := false }
  | ("exit", _) => return { p with isStrict := true }
  | ("max-chars", o) => do
    let most := roomOf (← get).environment
    return { p with room := ← batchNumber 's' 1 (some most) false o }
  | ("max-procs", o) => do return { p with most := ← batchNumber 'P' 0 (some 2147483647) true o }
  | ("process-slot-var", o) => do
    if o.contains '=' then
      giveUp 1 (octets ("option --process-slot-var may not be set to a value which includes "
        ++ "\x60='"))
    modify fun s =>
      { s with environment := s.environment.filter (!Octets.starts (o ++ ['=']) ·) }
    return { p with place := some o }
  | _ => return p

/-- Says how long commands can be. -/
def showRoom (room : Nat) : ToolRun Unit := do
  let environment := (← get).environment
  let most := roomOf environment
  let taken := (environment.map fun v => v.length + 1).sum
  let line (label : String) (n : Nat) : ToolRun Unit :=
    writeErrors (octets (label ++ toString n ++ "\n"))
  line "Your environment variables take up " taken
  line "POSIX upper limit on argument length (this system): " most
  line "POSIX smallest allowable upper limit on argument length (all systems): " 4096
  line "Maximum length of command we could actually use: " (most - taken)
  line "Size of command buffer we are actually using: " room
  line "Maximum parallelism (--max-procs must be no greater): " 2147483647

/-- Runs a program with arguments that are read. -/
def xargsTool : Procedure := fun start arguments => do
  let (given, words) ← OptionSpec.parse batchOptions 1 true (arguments.length + 1) arguments
  let plan : BatchPlan :=
    { command := if words.isEmpty then [octets "echo"] else words, delimiter := none, last := none
      mark := none, perLines := 0, perWords := 0, room := usualRoom, isStrict := false
      always := true, isShown := false, asks := false, most := 1, place := none
      keepsInput := false, start := start }
  let plan ← given.foldlM (fun p o => p.withOption o) plan
  if plan.last.isSome && plan.delimiter.isSome then
    complain (octets "warning: the -E option has no effect if -0 or -d is used.\n")
  let path := (valueOf? given "arg-file").getD ['-']
  let plan := { plan with
    keepsInput := path != ['-']
    isStrict := plan.isStrict || plan.mark.isSome || plan.perLines != 0 }
  let descriptor ← match ← openInput path with
    | .ok descriptor =>
      if descriptor == 0 then pure 0
      else
        let hidden ← kernel fun k => match k.file? descriptor with
          | some (i, _) =>
            let (hidden, k) := k.addDescriptor Kernel.firstPrivate i
            (hidden, k.close descriptor)
          | none => (descriptor, k)
        pure hidden
    | .error fault =>
      giveUp 1 (octets "Cannot open input file " ++ quotePath path
        ++ octets (": " ++ fault.message))
  if has given "show-limits" then showRoom plan.room
  let batch : Batch := ⟨descriptor, [], false, [], 0, 0, 0, 0, [], false⟩
  let (status, _) ← (Batch.runAll.run plan).run batch
  return status

end Flowscript.Tool
