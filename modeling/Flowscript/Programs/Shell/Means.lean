import Flowscript.Host.Task
import Flowscript.Programs.Shell.State

/-!
# Means and jobs

What a shell asks of its host, and the work that it still has to do.

* `Work` is what can be evaluated.
* `Means` evaluates work and starts programs.
* `awaitProcesses` waits for processes and gives their statuses.
* `Memory.addJob` remembers what was started in the background.
* `outputOf` is what statements print.
-/

set_option autoImplicit false

namespace Flowscript.Shell

/-! ## What evaluation relies on

The parts of evaluation need one another: a word can hold statements, and statements are made of
words.  Each part takes the others as its means. -/

/-- How a statement is evaluated. -/
structure Manner where
  /-- The process ends with the statement. -/
  isLast : Bool
  /-- The status is looked at, so a failure does not end the shell. -/
  isTested : Bool
  deriving DecidableEq, Repr

namespace Manner

/-- With nothing special about it. -/
def plain : Manner := ⟨false, false⟩

/-- With its status looked at. -/
def tested : Manner := ⟨false, true⟩

/-- As the last one. -/
def last : Manner := ⟨true, false⟩

/-- Without being the last one. -/
def inner (m : Manner) : Manner := { m with isLast := false }

end Manner

/-- What can be evaluated. -/
inductive Work where
  | statement (s : Statement) (manner : Manner)
  | text (script : Octets) (manner : Manner)
  /-- The statements of a whole file. -/
  | script (source : Source)

/-- What the parts of evaluation rely on.  Work gives a status. -/
structure Means where
  perform : Work → Act Nat
  start : Invocation → Run Nat

/-! ### Processes -/

/-- The number under which it is noted what is done before each command. -/
def beforeCommand : Signal := 65

/-- The number under which it is noted what is done after a failure. -/
def afterFailure : Signal := 66

/-- The number under which it is noted what is done when functions are left. -/
def afterReturn : Signal := 67

/-- Whether functions and copies of a shell do on an event what the shell itself does. -/
def Memory.passesOn (s : Memory) (event : Signal) : Bool :=
  if event == afterFailure then s.has 'E'
  else (event == beforeCommand || event == afterReturn) && s.has 'T'

/-- What a copy of a shell forgets: what is to be done on signals, unless they are to be ignored. -/
def Memory.copied (s : Memory) : Memory :=
  { s with
    traps := s.traps.filter fun t => t.2.isEmpty || s.passesOn t.1
    jobs := []
    loopDepth := if s.isWide then s.loopDepth else 0
    copies := s.copies + 1 }

/-- Whether something is to be done on a signal. -/
def Memory.hasTraps (s : Memory) : Bool := s.traps.any fun t => !t.2.isEmpty

/-- The signals of which a process is told. -/
def Memory.caughtSignals (s : Memory) : List Signal :=
  (s.traps.filter fun t => t.1 != 0 && t.1 ≤ Signal.last && !t.2.isEmpty).map (·.1)

/-- Lets the process be told of the signals on which something is to be done. -/
def arrangeSignals : Act Unit := do
  let s ← get
  let ignored := s.ignoredAtStart ++ (s.traps.filter fun t => t.1 != 0 && t.2.isEmpty).map (·.1)
  kernel fun k => ((), k.modifySelf fun p =>
    { p with
      caught := s.caughtSignals.filter fun n => !s.ignoredAtStart.contains n
      ignored := ignored })

/-- What is done at the end of a process: the status is settled, and then what is to be done at the
end is done. -/
def settle (jump : Option Jump) : Act Unit := modify fun s =>
  match s.savedStatus with
  | some status =>
    { s with
      savedStatus := none
      status := if jump == some .exited || jump.isNone then status else s.status }
  | none => s

/-- Ends a shell, and gives its status. -/
def leave (m : Means) (jump : Option Jump) : Act Nat := do
  settle (if jump.isNone then some .ended else jump)
  let s ← get
  match s.traps.lookup 0 with
  | none => return s.status
  | some action =>
    set { s with
      traps := s.traps.filter (·.1 != 0)
      savedStatus := some s.status
      errorLine := if s.isWide then 1 else s.errorLine }
    match ← attempt (m.perform (.text action .plain)) with
    | .ok _ => settle none
    | .error .exited => settle (some .exited)
    | .error .ended => settle (some .ended)
    | .error .failed => settle (some .failed)
    | .error _ => settle none
    return (← get).status

/-- Evaluates something to the end of a process, and gives the status. -/
def runToEnd (m : Means) (act : Act Unit) : Act Nat := do
  match ← attempt act with
  | .ok () => leave m none
  | .error jump => leave m (some jump)

/-- What a piece of evaluation is for the process. -/
def process (s : Memory) (act : Act Nat) : Run Nat := do
  let (result, s) ← (act.run).run s
  match result with
  | .ok status => pure status
  | .error _ => pure s.status

/-- How a copy of a shell relates to it. -/
inductive Relation where
  | awaited
  | background
  /-- A part of a word, of which nobody keeps account. -/
  | unlisted
  deriving DecidableEq, Repr

/-- Starts a copy of the shell that does something and ends.  One in the background is not
interrupted, and has nothing to read if it is the first of its job. -/
def startCopy (m : Means) (relation : Relation) (isFirst : Bool) (act : Act Unit) : Act Nat := do
  let s ← get
  let child : Act Unit := do
    modify Memory.copied
    if relation == .background then
      modify fun s =>
        { s with ignoredAtStart := Signal.interrupt :: Signal.quit :: s.ignoredAtStart }
      if isFirst then
        kernel fun k =>
          match k.openPath "/dev/null" .read with
          | (.ok i, k) => ((), k.setDescriptor 0 i)
          | (.error _, k) => ((), k.close 0)
    arrangeSignals
    act
  let number ← liftM (Run.fork (process s (runToEnd m child)))
  if relation == .background then modify ({ · with lastStarted := some number })
  return number

/-! ## Jobs

What a signal ended is reported, unless the signal only says that somebody lost interest. -/

/-- Reports a signal that ended a process. -/
def report (ending : Ending) : Act Unit := do
  match ending with
  | .killed signal =>
    if signal != Signal.interrupt && signal != Signal.unread then
      writeErrors (octets (signal.words ++ "\n"))
  | .exited _ => pure ()

/-- Notes how processes of a job ended that have. -/
def Job.update (k : Kernel) (j : Job) : Job :=
  let ended := j.processes.filterMap fun n => (k.endingOf? n).map fun ending => (n, ending)
  { j with endings := j.endings ++ ended }

/-- Notes how processes in the background ended that have. -/
def noteEndings : Act Unit := do
  let jobs := (← get).jobs
  if jobs.isEmpty then return ()
  let jobs ← kernel fun k =>
    let updated := jobs.map (Job.update k)
    (updated, (jobs.flatMap (·.processes)).foldl (fun k n =>
      if (k.endingOf? n).isSome then k.forget n else k) k)
  modify ({ · with jobs := jobs })

/-- Waits for a process to end. -/
def awaitProcess (number : Nat) : Act Nat := do
  let ending ← liftM (Run.wait number)
  report ending
  noteEndings
  return ending.status

/-- Waits for processes to end, and gives their statuses. -/
def awaitProcesses : List Nat → Act (List Nat)
  | [] => return []
  | number :: rest => do
    let status ← awaitProcess number
    return status :: (← awaitProcesses rest)

/-- Whether all processes of a job have ended. -/
def Job.isDone (j : Job) : Bool := j.endings.length == j.processes.length

/-- The status of a job that is done. -/
def Job.status (j : Job) : Nat :=
  match j.processes.getLast?.bind fun n => j.endings.lookup n with
  | some ending => ending.status
  | none => 0

/-- Remembers what was started in the background. -/
def Memory.addJob (s : Memory) (processes : List Nat) : Memory :=
  let rest := s.jobs.filter fun j => !(j.isAwaited && j.isDone)
  let isTaken (n : Nat) : Bool := rest.any (·.number == n)
  let number := ((List.range (rest.length + 1)).find? fun n => !isTaken (n + 1)).getD 0 + 1
  { s with jobs := ⟨number, processes, [], false⟩ :: rest }

/-- The first private descriptor, and the second one, for the ends of a new pipe. -/
def openPipe : Act (Nat × Nat) := kernel fun k =>
  let (reading, writing, k) := k.openPipe
  let (first, k) := k.addDescriptor Kernel.firstPrivate reading
  let (second, k) := k.addDescriptor Kernel.firstPrivate writing
  ((first, second), k)

/-- Lets a descriptor stand for the file of another one, which is closed. -/
def moveDescriptor (source target : Nat) : Act Unit := kernel fun k =>
  match k.file? source with
  | some (i, _) => ((), (k.setDescriptor target i).close source)
  | none => ((), k)

/-- Closes a descriptor. -/
def closeDescriptor (descriptor : Nat) : Act Unit := liftM (Run.close descriptor)

/-- What work prints, without the ends of lines at its end, and its status.  The wide dialect does
not end it because of a failure, unless it is told to. -/
def outputOf (m : Means) (work : Work) : Act (Octets × Nat) := do
  let (reading, writing) ← openPipe
  let number ← startCopy m .unlisted false do
    closeDescriptor reading
    moveDescriptor writing 1
    modify fun s =>
      if !s.isWide then s
      else
        let s := if s.does "inherit_errexit" then s else s.setOption 'e' false
        let place := match work with
          | .text .. => "command substitution"
          | _ => s.place
        { s with depth := s.depth + 1, place }
    let _ ← m.perform work
  closeDescriptor writing
  let result ← liftM (Run.readAll reading)
  closeDescriptor reading
  let bytes := match result with
    | .ok bytes => Octets.ofBytes bytes
    | .error _ => []
  let text := (bytes.filter (· != '\x00')).reverse.dropWhile (· == '\n')
  return (text.reverse, ← awaitProcess number)

/-! ### Channels -/

/-- The descriptor that a channel gets: the last one below this that is free. -/
def channelLimit : Nat := 64

/-- Starts a statement that writes to a new channel, or reads from it, and gives the descriptor that
leads to it. -/
def openChannel (m : Means) (body : Option Statement) (isRead : Bool) : Act Nat := do
  let (reading, writing) ← openPipe
  let (mine, other) := if isRead then (reading, writing) else (writing, reading)
  let number ← startCopy m .unlisted false do
    closeDescriptor mine
    moveDescriptor other (if isRead then 1 else 0)
    for descriptor in (← get).channels do closeDescriptor descriptor
    modify ({ · with channels := [] })
    match body with
    | some statement => let _ ← m.perform (.statement statement .last)
    | none => pure ()
  closeDescriptor other
  modify ({ · with lastStarted := some number })
  let descriptor ← look fun k =>
    ((List.range channelLimit).reverse.find? fun n => (k.file? n).isNone).getD 0
  moveDescriptor mine descriptor
  modify fun s => { s with channels := descriptor :: s.channels }
  return descriptor

/-- Closes channels up to those that were open before. -/
def closeChannels (before : List Nat) : Act Unit := do
  let s ← get
  let opened := s.channels.take (s.channels.length - before.length)
  if opened.isEmpty then return ()
  for descriptor in opened do closeDescriptor descriptor
  modify ({ · with channels := before })

end Flowscript.Shell
