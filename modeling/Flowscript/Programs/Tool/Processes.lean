import Flowscript.Programs.Quantity
import Flowscript.Programs.Tool.Measure

/-!
# Processes and locks

Tools that start programs, wait for them and keep others out.

* `envTool`, `nohupTool`, `niceTool`, `setsidTool` and `timeoutTool` run another program.
* `sleepTool`, `yesTool` and `killTool` do little things of their own.
* `takeLock` takes or gives back the lock of an open file.
* `flockTool` runs a program while a file is locked.
-/

set_option autoImplicit false

namespace Flowscript.Tool

/-! ## Programs about programs -/

/-! ### Starting other programs -/

/-- The status of a program that could not be started. -/
def missingStatus (fault : Fault) : Nat := if fault == .missing then 127 else 126

/-- Lets a program take over; there is only an answer if that cannot be done. -/
def takeOver (start : Invocation → Run Nat) (words : List Octets) : ToolRun Fault := do
  flush
  let environment := (← get).environment
  let directories := (Run.binding? environment "PATH").getD Run.standardPath
  liftM (Run.becomeNamed start Run.plainShell directories none words environment)

/-- Lets a program take over, or ends with a complaint, which says something of its name. -/
def takeOverOr (start : Invocation → Run Nat) (complaint : Octets → Octets)
    (words : List Octets) : ToolRun Nat := do
  let fault ← takeOver start words
  giveUp (missingStatus fault) (complaint (words.headD []) ++ octets (": " ++ fault.message))

/-- What is said of a program that cannot be run. -/
def failedToRun (name : Octets) : Octets := octets "failed to run command " ++ quotePath name

/-- Starts a program beside this one, and gives the number of its process. -/
def spawn (start : Invocation → Run Nat) (complaint : Octets → Octets) (words : List Octets)
    (prepare : ToolRun Unit) : ToolRun Nat := do
  flush
  let s ← get
  let child : ToolRun Nat := do
    prepare
    takeOverOr start complaint words
  liftM (Run.fork (run (fun _ _ => child) start ⟨"", [s.name], s.environment⟩))

/-- Runs a program to its end, and gives what it prints. -/
def outputOf (start : Invocation → Run Nat) (words : List Octets) : ToolRun Octets := do
  flush
  let (reading, writing) ← kernel fun k =>
    let (reading, writing, k) := k.openPipe
    let (first, k) := k.addDescriptor Kernel.firstPrivate reading
    let (second, k) := k.addDescriptor Kernel.firstPrivate writing
    ((first, second), k)
  let prepare : ToolRun Unit := kernel fun k =>
    let k := k.close reading
    match k.file? writing with
    | some (i, _) => ((), (k.setDescriptor 1 i).close writing)
    | none => ((), k)
  let number ← spawn start id words prepare
  liftM (Run.close writing)
  let result ← liftM (Run.readAll reading)
  liftM (Run.close reading)
  let _ ← liftM (Run.wait number)
  return match result with
    | .ok bytes => Octets.ofBytes bytes
    | .error _ => []

/-- Runs a program that gets some bytes to read, after something else was done there, and gives what
became of it. -/
def feed (start : Invocation → Run Nat) (words : List Octets) (before : ToolRun Unit)
    (bytes : ByteArray) : ToolRun Ending := do
  flush
  let (reading, writing) ← kernel fun k =>
    let (reading, writing, k) := k.openPipe
    let (first, k) := k.addDescriptor Kernel.firstPrivate reading
    let (second, k) := k.addDescriptor Kernel.firstPrivate writing
    ((first, second), k)
  let prepare : ToolRun Unit := do
    kernel fun k =>
      let k := k.close writing
      match k.file? reading with
      | some (i, _) => ((), (k.setDescriptor 0 i).close reading)
      | none => ((), k)
    before
  let number ← spawn start id words prepare
  liftM (Run.close reading)
  let _ ← liftM (Run.write writing bytes)
  liftM (Run.close writing)
  liftM (Run.wait number)

/-- The words that let the shell run a command. -/
def commandShell (command : Octets) : List Octets :=
  [octets Run.plainShell, octets "-c", command]

/-- Sets variables, and gives what follows them. -/
def setVariables : List Octets → ToolRun (List Octets)
  | [] => return []
  | word :: rest => do
    let name := word.takeWhile (· != '=')
    if name.length == word.length then return word :: rest
    let lead := name ++ ['=']
    modify fun s =>
      if s.environment.any (Octets.starts lead) then
        { s with environment := s.environment.map fun v =>
            if Octets.starts lead v then word else v }
      else { s with environment := s.environment ++ [word] }
    setVariables rest

/-- Runs a program with other variables, or prints them. -/
def envTool : Procedure := fun start arguments => do
  let (given, rest) ← OptionSpec.parse
    [.flag 'i' "ignore-environment", .flag '0' "null", .setting 'u' "unset", .setting 'C' "chdir",
      .setting 'S' "split-string", .flag 'v' "debug"]
    125 true (arguments.length + 1) arguments
  let rest := match valueOf? given "split-string" with
    | some text => (Text.splitAt Text.isSpace text).filter (!·.isEmpty) ++ rest
    | none => rest
  let (isEmpty, rest) := match rest with
    | ['-'] :: rest => (true, rest)
    | _ => (has given "ignore-environment", rest)
  if isEmpty then modify ({ · with environment := [] })
  for (option, name) in given do
    if option == "unset" then
      modify fun s =>
        { s with environment := s.environment.filter (!Octets.starts (name ++ ['=']) ·) }
  let words ← setVariables rest
  match valueOf? given "chdir" with
  | none => pure ()
  | some path =>
    match ← kernel (·.changeDirectory (Octets.toText path)) with
    | .ok () => pure ()
    | .error fault =>
      giveUp 125 (octets "cannot change directory to " ++ quotePath path
        ++ octets (": " ++ fault.message))
  if words.isEmpty then
    for v in (← get).environment do
      print (v ++ [if has given "null" then '\x00' else '\n'])
    return 0
  takeOverOr start quote words

/-- Runs a program that does not mind when the terminal is gone. -/
def nohupTool : Procedure := fun start arguments => do
  let (_, words) ← OptionSpec.parse [] 125 true (arguments.length + 1) arguments
  if words.isEmpty then giveUpUsage 125 (octets "missing operand")
  kernel fun k => ((), k.modifySelf fun p =>
    { p with ignored := Signal.hangup :: p.ignored })
  takeOverOr start failedToRun words

/-- Runs a program with less claim to time, of which there is always enough. -/
def niceTool : Procedure := fun start arguments => do
  let (_, words) ← OptionSpec.parse [.setting 'n' "adjustment"] 125 true
    (arguments.length + 1) arguments
  if words.isEmpty then
    printLine ['0']
    return 0
  takeOverOr start quote words

/-- Runs a program in a process group of its own, or beside this one if that is wanted. -/
def setsidTool : Procedure := fun start arguments => do
  let (given, words) ← OptionSpec.parse [.flag 'f' "fork", .flag 'w' "wait", .flag 'c' "ctty"] 1
    true (arguments.length + 1) arguments
  if words.isEmpty then giveUpUsage 1 (octets "no command specified")
  let complaint := fun name => octets "failed to execute " ++ name
  let becomeLeader : ToolRun Unit :=
    kernel fun k => ((), k.modifySelf fun p => { p with group := p.number })
  if has given "fork" then
    let number ← spawn start complaint words becomeLeader
    if !has given "wait" then return 0
    match ← liftM (Run.wait number) with
    | .exited status => return status
    | .killed _ => return 1
  becomeLeader
  takeOverOr start complaint words

/-- The word that says how output is kept back. -/
def bufferWord (o : Octets) : ToolRun Octets := do
  if o == ['L'] then return o
  match scanMeasure (some 10) "EGkKMPTYZ0" o with
  | .ok n => return Nat.toDigits 10 n
  | .error fault =>
    let reason := if fault == .tooLarge then ": Value too large for defined data type" else ""
    giveUp 125 (octets "invalid mode " ++ quote o ++ octets reason)

/-- Runs a program that keeps back what it prints in another way.  Here all programs write what they
print when it is time, so that only variables say so. -/
def bufferTool : Procedure := fun start arguments => do
  let (given, words) ← OptionSpec.parse
    [.setting 'i' "input", .setting 'o' "output", .setting 'e' "error"] 125 true
    (arguments.length + 1) arguments
  let mut settings : List (String × Octets) := []
  for (option, word) in given do
    let word := word.dropWhile Text.isSpace
    if option == "input" && word == ['L'] then
      giveUpUsage 125 (octets "line buffering stdin is meaningless")
    settings := settings.filter (·.1 != option) ++ [(option, ← bufferWord word)]
  if words.isEmpty then giveUpUsage 125 (octets "missing operand")
  if settings.isEmpty then
    giveUpUsage 125 (octets "you must specify a buffering mode option")
  let setting (name : String) (option : String) : List Octets :=
    ((settings.lookup option).map fun value => octets name ++ '=' :: value).toList
  let added := setting "_STDBUF_I" "input" ++ setting "_STDBUF_O" "output"
    ++ setting "_STDBUF_E" "error"
    ++ [octets "LD_PRELOAD=/usr/libexec/coreutils/libstdbuf.so"]
  let _ ← setVariables added
  takeOverOr start failedToRun words

/-! ### Time -/

/-- The longest time that is waited for, in nanoseconds. -/
def longestTime : Nat := 2 ^ 63 * 1000000000

/-- The number of nanoseconds that a text with or without a unit means. -/
def duration? (o : Octets) : Option Nat := do
  let (value, _, rest) ← BinaryFormat.double.scan (o.dropWhile Text.isSpace)
  let unit ← match rest with
    | [] => some 1
    | ['s'] => some 1
    | ['m'] => some 60
    | ['h'] => some 3600
    | ['d'] => some 86400
    | _ => none
  match value with
  | .finite isNegative mantissa exponent =>
    let (num, den) := Quantity.ratio mantissa exponent
    if isNegative && num != 0 then none
    else some (min longestTime ((num * unit * 1000000000 + den - 1) / den))
  | .endless false => some longestTime
  | _ => none

/-- Does nothing for some time. -/
def sleepTool : Procedure := fun _ arguments => do
  let (_, words) ← options [] 1 arguments
  needOperand 1 words
  let mut total := 0
  let mut isWrong := false
  for word in words do
    if word == octets "infinity" || word == octets "inf" then total := total + 10 ^ 20
    else
      match duration? word with
      | some n => total := total + n
      | none =>
        complain (octets "invalid time interval " ++ quote word)
        isWrong := true
  if isWrong then suggestHelp 1
  liftM (Run.sleep total)
  return 0

/-- The signal that a text names. -/
def signalOf? (o : Octets) : Option Signal :=
  match Octets.natural? o with
  | some n => if n ≤ Signal.last then some n else none
  | none =>
    let name := String.ofList (o.map Char.toUpper)
    if name == "EXIT" then some 0
    else Signal.ofName? (if name.startsWith "SIG" then String.ofList (name.toList.drop 3) else name)

/-- Sends a signal to a process or a group. -/
def sendSignal (number : Int) (signal : Signal) : ToolRun (Except Fault Unit) :=
  kernel fun k => match k.send number signal with
    | .ok k => (.ok (), k)
    | .error fault => (.error fault, k)

/-- Waits for a process up to a time, sends it a signal then, and waits again. -/
def awaitWithin (number : Nat) (isForeground : Bool) (limits : List (Nat × Signal)) (isLate : Bool) :
    ToolRun (Ending × Bool) :=
  match limits with
  | [] => do return (← liftM (Run.wait number), isLate)
  | (limit, signal) :: rest => do
    let isOver (k : Kernel) : Bool := !k.isAlive number
    let time ← look (·.now)
    if limit == 0 then return (← liftM (Run.wait number), isLate)
    liftM (Run.awaitUntil isOver (time + limit))
    if ← look isOver then return (← liftM (Run.wait number), isLate)
    let _ ← sendSignal number signal
    if !isForeground then
      kernel fun k => ((), k.modifySelf fun p => { p with ignored := signal :: p.ignored })
      let _ ← sendSignal 0 signal
    awaitWithin number isForeground rest true

/-- Runs a program for no longer than some time. -/
def timeoutTool : Procedure := fun start arguments => do
  let (given, rest) ← OptionSpec.parse
    [.setting 's' "signal", .setting 'k' "kill-after", .flag 'f' "foreground",
      .flag 'p' "preserve-status", .flag 'v' "verbose"] 125 true (arguments.length + 1) arguments
  let time (o : Octets) : ToolRun Nat := do
    match duration? o with
    | some n => return n
    | none => giveUpUsage 125 (octets "invalid time interval " ++ quote o)
  let signal ← match valueOf? given "signal" with
    | none => pure Signal.terminate
    | some name =>
      match signalOf? name with
      | some s => pure s
      | none => giveUpUsage 125 (quotePath name ++ octets ": invalid signal")
  let after ← match valueOf? given "kill-after" with
    | none => pure []
    | some o => pure [(← time o, Signal.kill)]
  match rest with
  | limit :: words =>
    if words.isEmpty then suggestHelp 125
    let limit ← time limit
    let isForeground := has given "foreground"
    if !isForeground then kernel fun k => ((), k.modifySelf fun p => { p with group := p.number })
    let number ← spawn start failedToRun words (pure ())
    let (ending, isLate) ← awaitWithin number isForeground ((limit, signal) :: after) false
    match ending with
    | .exited status => return if isLate && !has given "preserve-status" then 124 else status
    | .killed s =>
      if isLate && s != Signal.kill && !has given "preserve-status" then return 124
      if !isLate then
        kernel fun k => ((), (k.modifySelf fun p =>
          { p with ignored := p.ignored.filter (· != s) }).sendTo k.current s)
      return 128 + s
  | [] => suggestHelp 125

/-! ### Simple programs -/

/-- Ends with a status. -/
def statusTool (status : Nat) : Procedure := fun _ _ => return status

/-- Makes sure that nothing is lost, which is always so. -/
def syncTool : Procedure := fun _ arguments => do
  let (given, paths) ← options [.flag 'd' "data", .flag 'f' "file-system"] 1 arguments
  if has given "data" && has given "file-system" then
    giveUp 1 (octets "cannot specify both --data and --file-system")
  if has given "data" && paths.isEmpty then
    giveUp 1 (octets "--data needs at least one argument")
  for path in paths do
    match ← look (·.find (Octets.toText path) true) with
    | .ok _ => pure ()
    | .error fault =>
      complain (octets "error opening " ++ quotePath path ++ octets (": " ++ fault.message))
      noteFailure 1
  notedStatus

/-- Prints a line over and over again. -/
def yesTool : Procedure := fun _ arguments => do
  let (_, arguments) ← options [] 1 arguments
  let line := if arguments.isEmpty then octets "y\n" else Octets.join [' '] arguments ++ ['\n']
  let bytes := Octets.toBytes (List.replicate (8192 / line.length + 1) line).flatten
  let rec go (fuel : Nat) : ToolRun Nat :=
    match fuel with
    | 0 => return 0
    | fuel + 1 => do
      printBytes bytes
      go fuel
  go Run.patience

/-- Sends signals. -/
def killTool : Procedure := fun _ arguments => do
  let send (signal : Signal) (names : List Octets) : ToolRun Nat := do
    for name in names do
      match Int64s.ofOctets? (some 10) name with
      | none =>
        complain (octets "failed to parse argument: " ++ quotePath name)
        noteFailure 1
      | some n =>
        match ← sendSignal n signal with
        | .ok () => pure ()
        | .error fault =>
          complain (octets "(" ++ name ++ octets ("): " ++ fault.message))
          noteFailure 1
    notedStatus
  match arguments with
  | ['-', 's'] :: name :: rest =>
    match signalOf? name with
    | some signal => send signal (rest.filter (· != ['-', '-']))
    | none => giveUp 1 (octets "unknown signal name " ++ name)
  | ('-' :: name) :: rest =>
    match signalOf? name with
    | some signal => send signal (rest.filter (· != ['-', '-']))
    | none => giveUp 1 (octets "unknown signal name " ++ name)
  | names => send Signal.terminate names

/-! ## Locks -/

/-- What is wanted of a lock. -/
structure LockWish where
  lock : Lock
  /-- How long to wait for it; nothing is for as long as it takes. -/
  patience : Option Nat
  /-- The status if it cannot be had. -/
  refusal : Nat
  speaks : Bool

/-- Takes or gives back the lock of an open file. -/
def takeLock (w : LockWish) (name : Octets) (descriptor : Nat) : ToolRun Unit := do
  match ← look (·.file? descriptor) with
  | none =>
    giveUp 65 (name ++ octets (": " ++ Fault.notOpen.message))
  | some (i, _) =>
    let isFree (k : Kernel) : Bool := k.canLock i w.lock
    if !(← look isFree) && w.patience != some 0 then
      match w.patience with
      | none => liftM (Run.await isFree)
      | some time =>
        let now ← look (·.now)
        liftM (Run.awaitUntil isFree (now + time))
    if ← look isFree then kernel fun k => ((), k.setLock i w.lock)
    else
      if w.speaks then
        let isLate := w.patience != some 0
        complain (octets (if isLate then "timeout while waiting to get lock"
          else "failed to get lock"))
      exit w.refusal

/-- Opens a file that is to be locked. -/
def openLocked (path : Octets) : ToolRun Nat := do
  let mode : OpenMode := ⟨true, false, false, true, false, false⟩
  let result ← match ← liftM (Run.openFile (Octets.toText path) mode) with
    | .error .isDirectory => liftM (Run.openFile (Octets.toText path) .read)
    | result => pure result
  match result with
  | .ok descriptor => return descriptor
  | .error fault =>
    giveUp 66 (octets "cannot open lock file " ++ path ++ octets (": " ++ fault.message))

/-- Runs a program, and gives its status. -/
def runLocked (start : Invocation → Run Nat) (hidden : Option Nat) (words : List Octets) :
    ToolRun Nat := do
  let child : ToolRun Nat := do
    match hidden with
    | some descriptor => kernel fun k => ((), k.close descriptor)
    | none => pure ()
    let fault ← takeOver start words
    giveUp 69 (octets "failed to execute " ++ words.headD [] ++ octets (": " ++ fault.message))
  flush
  let s ← get
  let number ← liftM (Run.fork (run (fun _ _ => child) start ⟨"", [s.name], s.environment⟩))
  return (← liftM (Run.wait number)).status

/-- Runs a program while a file is locked, or locks a file that is open. -/
def flockTool : Procedure := fun start arguments => do
  if arguments.isEmpty then giveUpUsage 64 (octets "not enough arguments")
  let (given, rest) ← OptionSpec.parse
    [.flag 's' "shared", .flag 'x' "exclusive", .flag 'e' "exclusive", .flag 'u' "unlock",
      .flag 'n' "nonblock", .flag 'n' "nb", .setting 'w' "timeout", .setting 'w' "wait",
      .setting 'E' "conflict-exit-code", .flag 'o' "close", .flag 'F' "no-fork",
      .flag OptionSpec.noLetter "verbose", .flag 'h' "help", .flag 'V' "version"]
    64 true (arguments.length + 1) arguments
  if has given "help" || has given "version" then OptionSpec.announce (has given "version")
  let isKind (name : String) : Bool := name == "shared" || name == "exclusive" || name == "unlock"
  let lock := match (given.filter (isKind ·.1)).getLast? with
    | some ("shared", _) => Lock.shared
    | some ("unlock", _) => Lock.none
    | _ => Lock.exclusive
  let time ← match valueOf? (given.map fun (n, v) => (if n == "wait" then "timeout" else n, v))
      "timeout" with
    | none => pure none
    | some o =>
      match duration? o with
      | some n => pure (some n)
      | none => giveUp 64 (octets "invalid timeout value: '" ++ o ++ ['\''])
  let refusal ← match valueOf? given "conflict-exit-code" with
    | none => pure 1
    | some o =>
      match Int64s.ofOctets? (some 10) o with
      | none => giveUp 64 (octets "invalid exit code: '" ++ o ++ ['\''])
      | some n =>
        if n < 0 || 255 < n then giveUp 64 (octets "exit code out of range (expected 0 to 255)")
        pure n.toNat
  let isHasty := has given "nonblock" || has given "nb"
  let wish : LockWish :=
    ⟨lock, if isHasty then some 0 else time, refusal, has given "verbose"⟩
  if has given "no-fork" && has given "close" then
    giveUp 64 (octets "the --no-fork and --close options are incompatible")
  match rest with
  | [] => giveUp 64 (octets "requires file descriptor, file or directory")
  | [number] =>
    match Int64s.ofOctets? (some 10) number with
    | none => giveUp 64 (octets "bad file descriptor: '" ++ number ++ ['\''])
    | some n =>
      takeLock wish (octets (toString n)) (if n < 0 then 2 ^ 31 else n.toNat)
      return 0
  | path :: words =>
    let words ← match words with
      | option :: more =>
        if option == octets "-c" || option == octets "--command" then
          match more with
          | [command] =>
            let shell := (← binding? "SHELL").getD []
            pure [if shell.isEmpty then octets Run.plainShell else shell, octets "-c", command]
          | _ => giveUp 64 (option ++ octets " requires exactly one command argument")
        else pure words
      | [] => pure words
    let descriptor ← openLocked path
    takeLock wish path descriptor
    if has given "no-fork" then
      let fault ← takeOver start words
      giveUp 69 (octets "failed to execute " ++ words.headD [] ++ octets (": " ++ fault.message))
    runLocked start (if has given "close" then some descriptor else none) words

end Flowscript.Tool
