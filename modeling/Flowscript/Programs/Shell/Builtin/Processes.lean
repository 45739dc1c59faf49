import Flowscript.Programs.Permission
import Flowscript.Programs.Shell.Redirecting
import Flowscript.Programs.Shell.Quoting

/-!
# Commands for processes

* `Builtin.wait`, `Builtin.kill` and `Builtin.jobs` are about other processes.
* `Builtin.trap` says what is done on signals.
* `Builtin.exec` and `Builtin.exit` end the shell itself.
-/

set_option autoImplicit false

namespace Flowscript.Shell

/-! ## Signals -/

/-- The name of a signal, or of the end. -/
def signalName (s : Signal) : String :=
  if s == 0 then "EXIT"
  else
    match s.name? with
    | some name => name
    | none =>
      if s == 34 then "RTMIN"
      else if s == Signal.last then "RTMAX"
      else if s ≤ 49 then "RTMIN+" ++ toString (s - 34)
      else "RTMAX-" ++ toString (Signal.last - s)

/-- The signal that a text names by its number, or by its name; zero is none before `least`. -/
def signalOf? (least : Nat) (o : Octets) : Option Signal :=
  match Octets.natural? o with
  | some n => if least ≤ n && n ≤ Signal.last then some n else none
  | none =>
    let name := String.ofList (o.map Char.toUpper)
    ((List.range (Signal.last + 1)).filter fun n => n < 32 || 34 ≤ n).find? fun n =>
      least ≤ n && signalName n == name

/-- Sets what is done on a signal, or nothing special. -/
def Memory.setTrap (s : Memory) (signal : Signal) (action : Option Octets) : Memory :=
  let rest := s.traps.filter (·.1 != signal)
  { s with traps := match action with
    | some action => (signal, action) :: rest
    | none => rest }

/-- Says what is done on signals, or prints it. -/
def Builtin.trap : Builtin :=
  ⟨"trap", true, false, fun _ _ arguments => do
    let (_, words) ← readOptions "" arguments
    match words with
    | [] =>
      for signal in List.range (Signal.last + 1) do
        match (← get).traps.lookup signal with
        | some action =>
          printLine (octets "trap -- " ++ quoted action ++ octets (" " ++ signalName signal))
        | none => pure ()
      return 0
    | first :: rest =>
      let isSignal := (Octets.natural? first).any (· ≤ Signal.last)
      let (action, names) := if rest.isEmpty || isSignal then (none, words) else (some first, rest)
      let action := if action == some ['-'] then none else action
      for name in names do
        match signalOf? 0 name with
        | none =>
          writeErrors (octets "trap: " ++ name ++ octets ": bad trap\n")
          return 1
        | some signal =>
          modify (·.setTrap signal action)
          arrangeSignals
      return 0⟩

/-! ## Other processes -/

/-- The job that a text with a percent sign names. -/
def jobOf (o : Octets) : Act Job := do
  let jobs := (← get).jobs
  let found := match o.drop 1 with
    | [] => jobs.head?
    | ['%'] => jobs.head?
    | ['+'] => jobs.head?
    | ['-'] => (jobs.drop 1).head?
    | rest => (Octets.natural? rest).bind fun n => jobs.find? (·.number == n)
  match found with
  | some job => return job
  | none => fail (octets "No such job: " ++ o)

/-- Waits for something to be so, unless a signal comes first. -/
def awaitUnlessNoticed (isReady : Kernel → Bool) : Act Bool := do
  liftM (Run.await fun k => isReady k || !k.self.noticed.isEmpty)
  look isReady

/-- The status of a wait that a signal ended. -/
def noticedStatus : Act Nat := do
  return 128 + (← look fun k => k.self.noticed.getLast?.getD 0)

/-- Whether all processes of jobs have ended. -/
def haveEnded (jobs : List Job) (k : Kernel) : Bool :=
  jobs.all fun j => j.processes.all fun n => (j.endings.lookup n).isSome || !k.isAlive n

/-- Changes a job. -/
def modifyJob (number : Nat) (f : Job → Job) : Act Unit := modify fun s =>
  { s with jobs := s.jobs.map fun j => if j.number == number then f j else j }

/-- Waits for a job, and gives its status, unless a signal comes first. -/
def awaitJob (job : Job) : Act (Except Nat Nat) := do
  let before := job.endings
  if !(← awaitUnlessNoticed (haveEnded [job])) then return .error (← noticedStatus)
  noteEndings
  modifyJob job.number ({ · with isAwaited := true })
  let job := ((← get).jobs.find? (·.number == job.number)).getD job
  for n in job.processes do
    match before.lookup n, job.endings.lookup n with
    | none, some ending => report ending
    | _, _ => pure ()
  return .ok job.status

/-- Waits for the jobs that are named, and gives the status of the last one. -/
def awaitNamed (status : Nat) : List Octets → Act Nat
  | [] => return status
  | name :: rest => do
    let job? ← if name.head? == some '%' then pure (some (← jobOf name))
      else do
        let number ← numberOf name
        pure ((← get).jobs.find? fun j => j.processes.getLast? == some number)
    match job? with
    | none => awaitNamed status rest
    | some job =>
      match ← awaitJob job with
      | .ok status => awaitNamed status rest
      | .error status => return status

/-- Waits for what was started in the background. -/
def Builtin.wait : Builtin :=
  ⟨"wait", false, false, fun _ _ arguments => do
    let (_, names) ← readOptions "" arguments
    if names.isEmpty then
      if !(← awaitUnlessNoticed (haveEnded (← get).jobs)) then return ← noticedStatus
      noteEndings
      modify fun s => { s with jobs := s.jobs.map fun j => { j with isAwaited := true } }
      return 0
    awaitNamed 127 names⟩

/-- Prints jobs. -/
def Builtin.jobs : Builtin :=
  ⟨"jobs", false, false, fun _ _ arguments => do
    let (options, _) ← readOptions "lp" arguments
    noteEndings
    let jobs := (← get).jobs
    let mut place := 0
    for j in jobs do
      if options.any (·.1 == 'p') then
        printLine (octets (toString (j.processes.headD 0)))
      else
        let mark := if place == 0 then "+" else if place == 1 then "-" else " "
        let number := if options.any (·.1 == 'l') then toString (j.processes.headD 0) ++ " " else ""
        let state := if !j.isDone then "Running"
          else if j.status == 0 then "Done" else "Done(" ++ toString j.status ++ ")"
        let lead := "[" ++ toString j.number ++ "] " ++ mark ++ " " ++ number ++ state
        printLine (octets lead ++ List.replicate (33 - lead.length) ' ')
      place := place + 1
    modify fun s => { s with jobs := s.jobs.filter fun j => !j.isDone }
    return 0⟩

/-- What `kill` says about how it is used. -/
def killUsage : String :=
  "Usage: kill [-s sigspec | -signum | -sigspec] [pid | job]... or\nkill -l [exitstatus]"

/-- Prints the names of signals. -/
def listSignals : List Octets → Act Nat
  | [] => do
    printLine ['0']
    for n in (List.range (Signal.last + 1)).drop 1 do
      printLine (octets (if n == 32 || n == 33 then toString n else signalName n))
    return 0
  | a :: _ => do
    let n ← numberOf a
    let signal := if 128 < n then n - 128 else n
    if signal == 0 || Signal.last < signal then
      fail (octets "invalid signal number or exit status: " ++ a)
    printLine (octets (signalName signal))
    return 0

/-- The processes that an argument names. -/
def processOf (o : Octets) : Act Int := do
  match o with
  | '%' :: _ => return -(((← jobOf o).processes.headD 0 : Nat) : Int)
  | '-' :: rest => return -((← numberOf rest : Nat) : Int)
  | _ => return (← numberOf o : Nat)

/-- Sends a signal to processes, and gives the status. -/
def sendAll (signal : Signal) (status : Nat) : List Octets → Act Nat
  | [] => return status
  | name :: rest => do
    let number ← processOf name
    let result ← kernel fun k => match k.send number signal with
      | .ok k => (none, k)
      | .error fault => (some fault, k)
    match result with
    | none => sendAll signal status rest
    | some fault =>
      complain (octets (fault.message ++ "\n"))
      sendAll signal 1 rest

/-- Sends signals, or lists them. -/
def Builtin.kill : Builtin :=
  ⟨"kill", false, false, fun _ _ arguments => do
    let usage : Act Nat := fail (octets killUsage)
    let send (signal : Signal) (names : List Octets) : Act Nat :=
      if names.isEmpty then usage else sendAll signal 0 names
    match arguments with
    | [] => usage
    | ('-' :: text) :: rest =>
      match signalOf? 0 text with
      | some signal => send signal rest
      | none =>
        let (options, rest) ← readOptions "ls:" arguments
        match options.find? (·.1 == 's') with
        | some (_, name) =>
          match signalOf? 0 name with
          | some signal => send signal rest
          | none => fail (octets "invalid signal number or name: " ++ name)
        | none => if options.isEmpty then send Signal.terminate rest else listSignals rest
    | names => send Signal.terminate names⟩

/-- A command that needs job control, which a script does not have. -/
def jobControl (name : String) : Builtin :=
  ⟨name, false, false, fun _ _ arguments => do
    let (_, names) ← readOptions "" arguments
    match names with
    | a :: _ =>
      let job ← jobOf a
      fail (octets ("job " ++ toString job.number ++ " not created under job control"))
    | [] =>
      match (← get).jobs with
      | [] => fail (octets "No current job")
      | job :: _ =>
        fail (octets ("job " ++ toString job.number ++ " not created under job control"))⟩

/-! ## The shell itself -/

/-- The status of a program that could not be started. -/
def faultStatus : Fault → Nat
  | .missing | .notDirectory | .tooManyLinks | .longName => 127
  | _ => 126

/-- Why a program could not be started, as it is said in a complaint. -/
def startingFault : Fault → String
  | .missing | .notDirectory => "not found"
  | fault => fault.message

/-- The name of a command in a complaint of the wide dialect. -/
def shownName (name : Octets) : Octets :=
  if Quoting.needsSigns name then Quoting.signed name else name

/-- The status for a program that could not be started, and why, in the wide dialect. -/
def wideStartingFault (name : Octets) (fault : Fault) : Act (Nat × String) := do
  let path := Octets.toText name
  let isDirectory ← look fun k => k.tree.isDirectory k.self.directory path
  let isThere ← look fun k => (k.find path true).toOption.isSome
  if !name.contains '/' then
    return if fault == .missing || fault == .notDirectory then (127, "command not found")
      else (126, fault.message)
  if isDirectory then return (126, "Is a directory")
  match fault with
  | .missing =>
    if isThere then return (127, "cannot execute: required file not found")
    return (127, fault.message)
  | _ => return (126, fault.message)

/-- The directories where programs are looked for. -/
def Memory.searchPath (s : Memory) : Octets := (s.get? "PATH").getD []

/-- Lets a program take over the process, which ends if that cannot be done. -/
def startProgram {α : Type} (m : Means) (directories : Octets) (path : Option Octets)
    (words : List Octets) : Act α := do
  let s ← get
  let shell := match s.dialect with
    | .common => Run.plainShell
    | .wide => "/bin/bash"
  let fault ← liftM (Run.becomeNamed m.start shell directories path words s.environment)
  let name := words.headD []
  if s.isWide then
    let (status, reason) ← wideStartingFault name fault
    complain (shownName name ++ octets (": " ++ reason))
    modify ({ · with status := status })
  else
    complain (name ++ octets (": " ++ startingFault fault))
    modify ({ · with status := faultStatus fault })
  throw .ended

/-- Lets a program take over the process, or redirections stay. -/
def Builtin.exec : Builtin :=
  ⟨"exec", true, false, fun m _ arguments => do
    let (_, words) ← readOptions "" arguments
    if words.isEmpty then return 0
    startProgram m (← get).searchPath none words⟩

/-- Ends the shell. -/
def Builtin.exit : Builtin :=
  ⟨"exit", true, false, fun _ _ arguments => do
    match arguments with
    | [] => modify fun s => { s with savedStatus := some (s.savedStatus.getD s.status) }
    | a :: _ =>
      let status ← numberOf a
      modify ({ · with savedStatus := some status })
    throw .exited⟩

/-- Prints how much time was spent, which is never much. -/
def Builtin.times : Builtin :=
  ⟨"times", true, false, fun _ _ _ => do
    printLine (octets "0m0.000000s 0m0.000000s")
    printLine (octets "0m0.000000s 0m0.000000s")
    return 0⟩

/-- The letters of three permission bits that are not masked. -/
def permissionLetters (mask : Nat) : String :=
  (if mask &&& 4 == 0 then "r" else "") ++ (if mask &&& 2 == 0 then "w" else "")
    ++ if mask &&& 1 == 0 then "x" else ""

/-- Octal digits of a number, with zeros before them. -/
def octalText (width n : Nat) : String :=
  let digits := Nat.toDigits 8 n
  String.ofList (List.replicate (width - digits.length) '0' ++ digits)

/-- Prints or sets which permissions new files do not get. -/
def Builtin.umask : Builtin :=
  ⟨"umask", false, false, fun _ _ arguments => do
    let (options, rest) ← readOptions "S" arguments
    match rest with
    | [] =>
      let mask ← look (·.self.mask)
      if options.isEmpty then printLine (octets (octalText 4 mask))
      else
        printLine (octets ("u=" ++ permissionLetters (mask / 64) ++ ",g="
          ++ permissionLetters (mask / 8) ++ ",o=" ++ permissionLetters mask))
      return 0
    | a :: _ =>
      if a.head?.any Char.isDigit then
        if !a.all Text.isOctalDigit then failNumber a
        let mask := a.foldl (fun n d => n * 8 + Text.wideDigitValue d) 0 % 512
        kernel fun k => ((), k.modifySelf ({ · with mask := mask }))
        return 0
      match modeChanges? a with
      | none => fail (octets "Illegal mode: " ++ a)
      | some changes =>
        let allowed ← look (0o777 - ·.self.mask)
        let allowed := changes.foldl (fun mode change => change.apply 0 false mode) allowed
        kernel fun k => ((), k.modifySelf ({ · with mask := 0o777 - allowed % 512 }))
        return 0⟩

/-- Prints a limit, of which there is none. -/
def Builtin.ulimit : Builtin :=
  ⟨"ulimit", false, false, fun _ _ arguments => do
    let (_, rest) ← readOptions "HSatfdscmlpnvwr" arguments
    if rest.isEmpty then printLine (octets "unlimited")
    return 0⟩

end Flowscript.Shell
