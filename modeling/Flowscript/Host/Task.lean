import Flowscript.Host.Kernel
import Flowscript.Text.Octets

/-!
# Tasks and programs

Steps that processes take, and the programs that consist of them.

* `Task` is all that a process will still do, one step after the other.
* `Run` is a piece of a process that gives a value to the rest of it.
* `Run.read`, `Run.write`, `Run.fork` and their like are the steps that a process can take.
* `Kernel.runnable` says which program a file starts: the file is a program, or a script whose first
  line names one.
* `Run.become` lets a program take over the process.
* `Run.search` looks for a program in the directories where programs are.
-/

set_option autoImplicit false

namespace Flowscript

/-! ## What processes do

A process that has to wait says for what; whoever runs it looks again when something has happened.
-/

/-- All that a process will still do. -/
inductive Task where
  | finish (ending : Ending)
  /-- Does something at once. -/
  | act (step : Kernel → Kernel × Task)
  /-- Goes on when something is so, or at a time if one is given. -/
  | await (isReady : Kernel → Bool) (limit : Option Nat) (next : Task)
  | sleep (nanoseconds : Nat) (next : Task)
  /-- Starts a copy of the process, which does something else. -/
  | fork (child : Task) (next : Nat → Task)

/-- A piece of a process, given what the process does with its value. -/
def Run (α : Type) : Type := (α → Task) → Task

namespace Run

instance : Monad Run where
  pure a := fun next => next a
  bind x f := fun next => x fun a => f a next

/-- Does something at once that gives a value. -/
def kernel {α : Type} (f : Kernel → α × Kernel) : Run α := fun next =>
  .act fun k => match f k with
    | (a, k) => (k, next a)

/-- Looks at something. -/
def look {α : Type} (f : Kernel → α) : Run α := kernel fun k => (f k, k)

/-- Changes something. -/
def modify (f : Kernel → Kernel) : Run Unit := kernel fun k => ((), f k)

/-- Ends the process. -/
def exit {α : Type} (status : Nat) : Run α := fun _ => .finish (.exited (status % 256))

/-- Goes on when something is so. -/
def await (isReady : Kernel → Bool) : Run Unit := fun next => .await isReady none (next ())

/-- Goes on when something is so, or at a time. -/
def awaitUntil (isReady : Kernel → Bool) (time : Nat) : Run Unit := fun next =>
  .await isReady (some time) (next ())

/-- Goes on after some time. -/
def sleep (nanoseconds : Nat) : Run Unit := fun next => .sleep nanoseconds (next ())

/-- Lets some time go by in which the process is at work. -/
def spend (nanoseconds : Nat) : Run Unit := modify (·.spend nanoseconds)

/-- Starts a copy of the process that does something else and then ends, and gives its number. -/
def fork (child : Run Nat) : Run Nat := fun next =>
  .fork (child fun status => .finish (.exited (status % 256))) next

/-- The process itself. -/
def self : Run Process := look (·.self)

/-! ### Reading and writing -/

/-- Tries something again and again, and waits in between until it may be done. -/
def retry {α : Type} (fuel : Nat) (isReady : Kernel → Bool)
    (attempt : Kernel → Option α × Kernel) : Run (Option α) :=
  match fuel with
  | 0 => pure none
  | fuel + 1 => do
    match ← kernel attempt with
    | some a => pure (some a)
    | none =>
      await isReady
      retry fuel isReady attempt

/-- How often something is tried. -/
def patience : Nat := 1000000

/-- An attempt to read. -/
def readAttempt (descriptor count : Nat) (k : Kernel) :
    Option (Except Fault ByteArray) × Kernel :=
  match k.read descriptor count with
  | (.ok (some bytes), k) => (some (.ok bytes), k)
  | (.ok none, k) => (none, k)
  | (.error fault, k) => (some (.error fault), k)

/-- Reads some bytes, at most `count` of them, and none at the end. -/
def read (descriptor count : Nat) : Run (Except Fault ByteArray) := do
  pure ((← retry patience (·.canRead descriptor) (readAttempt descriptor count)).getD
    (.error .invalid))

/-- Writes bytes, some at a time. -/
def writeParts (fuel descriptor : Nat) (bytes : ByteArray) : Run (Except Fault Unit) :=
  match fuel with
  | 0 => pure (.error .invalid)
  | fuel + 1 => do
    match ← kernel (·.write descriptor bytes) with
    | .error fault => pure (.error fault)
    | .ok count =>
      if count == bytes.size then pure (.ok ())
      else
        if count == 0 then await (·.canWrite descriptor)
        writeParts fuel descriptor (bytes.extract count bytes.size)

/-- Writes bytes. -/
def write (descriptor : Nat) (bytes : ByteArray) : Run (Except Fault Unit) :=
  if bytes.isEmpty then pure (.ok ()) else writeParts (2 * bytes.size + 2) descriptor bytes

/-- How many bytes are read at a time. -/
def blockSize : Nat := 65536

/-- Reads blocks until there is nothing more, with some of them read already. -/
def readBlocks (fuel descriptor : Nat) (before : ByteArray) : Run (Except Fault ByteArray) :=
  match fuel with
  | 0 => pure (.ok before)
  | fuel + 1 => do
    match ← read descriptor blockSize with
    | .error fault => pure (.error fault)
    | .ok bytes =>
      if bytes.isEmpty then pure (.ok before) else readBlocks fuel descriptor (before ++ bytes)

/-- Reads all there is. -/
def readAll (descriptor : Nat) : Run (Except Fault ByteArray) :=
  readBlocks patience descriptor .empty

/-- Opens a path, and gives the place of the open file.  Meanwhile a private descriptor stands for
it, so that others see that it is being opened. -/
def openPath (path : String) (mode : OpenMode) : Run (Except Fault Nat) := do
  match ← kernel (·.openPath path mode) with
  | .error fault => pure (.error fault)
  | .ok i =>
    match ← look (·.openWhen? path mode) with
    | none => pure (.ok i)
    | some isOpen =>
      let descriptor ← kernel (·.addDescriptor Kernel.firstPrivate i)
      await isOpen
      modify (·.close descriptor)
      pure (.ok i)

/-- Opens a path, and gives the descriptor. -/
def openFile (path : String) (mode : OpenMode) : Run (Except Fault Nat) := do
  match ← openPath path mode with
  | .error fault => pure (.error fault)
  | .ok i =>
    let descriptor ← kernel (·.addDescriptor 3 i)
    pure (.ok descriptor)

/-- Closes a descriptor. -/
def close (descriptor : Nat) : Run Unit := modify (·.close descriptor)

/-- The bytes that can be read from a path. -/
def readPath (path : String) : Run (Except Fault ByteArray) := do
  match ← openFile path .read with
  | .error fault => pure (.error fault)
  | .ok descriptor =>
    let result ← readAll descriptor
    close descriptor
    pure result

/-- Changes the file tree, if that can be done. -/
def change (f : FileTree → Nat → Except Fault FileTree) : Run (Except Fault Unit) :=
  kernel (·.changeTree f)

/-! ### Other processes -/

/-- Waits for a child to end, and forgets it. -/
def wait (number : Nat) : Run Ending := do
  await fun k => !k.isAlive number
  kernel fun k => ((k.endingOf? number).getD (.exited 0), k.forget number)

end Run

/-! ## Starting programs -/

/-- A program that is started: its name, its arguments from its own name on, and the variables that
it gets, each with its name. -/
structure Invocation where
  program : String
  arguments : List Octets
  environment : List Octets

/-- The programs of a machine: their names, and what each of them does once it is started. -/
structure Programs where
  names : List String
  start : Invocation → Run Nat

namespace Kernel

/-- How much of the start of a script is looked at for its first line. -/
def firstLineSize : Nat := 256

/-- How many scripts one after the other can name a script. -/
def mostScripts : Nat := 5

/-- The interpreter that the first line of a script names, and the argument for it. -/
def interpreter? (content : ByteArray) : Option (Octets × Option Octets) :=
  let isBlank (c : Char) : Bool := c == ' ' || c == '\t'
  let trim (o : Octets) : Octets := (o.reverse.dropWhile isBlank).reverse
  match Octets.ofBytes (content.extract 0 firstLineSize) with
  | '#' :: '!' :: r =>
    let line := r.takeWhile (· != '\n')
    let isCut := line.length == r.length && firstLineSize ≤ content.size
    let line := line.dropWhile isBlank
    let name := line.takeWhile fun c => !isBlank c && c != '\x00'
    if name.isEmpty || (isCut && name.length == line.length) then none
    else
      let argument := (trim ((line.drop name.length).takeWhile (· != '\x00'))).dropWhile isBlank
      some (name, if argument.isEmpty then none else some argument)
  | _ => none

/-- The program that a file starts, and its arguments. -/
def runnable (k : Kernel) (scripts : Nat) (path : String) (arguments : List Octets) :
    Except Fault (String × List Octets) := do
  let n ← k.find path true
  match k.tree.kind? n with
  | some (.program name) => .ok (name, arguments)
  | some (.regular content) =>
    if k.tree.modeOf n &&& FileTree.runBits == 0 then .error .denied
    else
      match interpreter? content with
      | none => .error .notRunnable
      | some (name, argument) =>
        match scripts with
        | 0 => .error .tooManyLinks
        | scripts + 1 =>
          k.runnable scripts (Octets.toText name)
            (name :: argument.toList ++ Octets.ofText path :: arguments.drop 1)
  | _ => .error .denied

end Kernel

namespace Run

/-- The time that it takes to start a program. -/
def startTime : Nat := 400000

/-- Lets a program take over the process.  There is only an answer if that cannot be done. -/
def become (start : Invocation → Run Nat) (path : String) (arguments environment : List Octets) :
    Run Fault := fun next =>
  .act fun k =>
    match k.runnable Kernel.mostScripts path arguments with
    | .error fault => (k, next fault)
    | .ok (program, arguments) =>
      (k.takeOver.spend startTime,
        start ⟨program, arguments, environment⟩ fun status => .finish (.exited (status % 256)))

/-- The path of the shell that runs what does not say how it is run. -/
def plainShell : String := "/bin/sh"

/-- Lets a program take over the process, or a shell run its file if that does not say what it
is. -/
def becomeOrInterpret (start : Invocation → Run Nat) (shell path : String)
    (arguments environment : List Octets) : Run Fault := do
  match ← become start path arguments environment with
  | .notRunnable =>
    become start shell
      (Octets.ofText shell :: Octets.ofText path :: arguments.drop 1) environment
  | fault => pure fault

/-- Tries to let a program take over from each of several paths, up to one where it is not missing
or cannot be looked for; the fault that counts is the last one of another kind. -/
def becomeFirst (become : String → Run Fault) (paths : List String) (before : Fault) :
    Run Fault :=
  match paths with
  | [] => pure before
  | path :: rest => do
    let fault ← become path
    becomeFirst become rest
      (if fault == .missing || fault == .notDirectory then before else fault)

/-- The paths at which a program with a name can be, from the directories that a text joins. -/
def candidates (directories name : Octets) : List String :=
  (Text.splitAt (· == ':') directories).map fun d =>
    Octets.toText (if d.isEmpty then name else d ++ '/' :: name)

/-- Lets the program with a name, or a path, take over the process; `shell` is for files that do not
say what runs them.  If it has been found before, the directories before that place do not count. -/
def becomeNamed (start : Invocation → Run Nat) (shell : String) (directories : Octets) (found : Option Octets)
    (arguments : List Octets) (environment : List Octets) : Run Fault :=
  let name := arguments.headD []
  let become (path : String) : Run Fault := becomeOrInterpret start shell path arguments environment
  let isBefore (path : String) : Bool := found.any fun place => Octets.toText place != path
  if name.contains '/' || name.isEmpty then become (Octets.toText name)
  else becomeFirst become ((candidates directories name).dropWhile isBefore) .missing

/-- The value of a variable that a program got. -/
def binding? (environment : List Octets) (name : String) : Option Octets :=
  let lead := Octets.ofText name ++ ['=']
  (environment.find? (Octets.starts lead)).map (·.drop lead.length)

/-- The directories where programs are looked for if nothing else is said. -/
def standardPath : Octets := Octets.ofText "/bin:/usr/bin"

end Run

end Flowscript
