import Flowscript.Host.Task

/-!
# Hosts

The machine that runs processes, and the host that an analysis works on.

* `Machine` is the kernel with what each process will still do.
* `Machine.resume` lets one process take one step.
* `Machine.advance` goes on until something is so, or time is up.
* `Host` is the machine with its files, processes and programs, and the directory that one works in.
* `Host.standard` has the directories and devices that are always there, and given programs.
* `Host.readText?`, `Host.write?` and their like look at files and change them.
* `Host.namesIn` are the names in a directory, which need not be there but has to be read if it is.
-/

set_option autoImplicit false

namespace Flowscript

/-! ## Running processes

Time is counted, not measured: each step of a process takes a little of it, and sleeping takes what
it says.  Processes run side by side, and it is always the turn of the one that is first in time, so
that everything happens in the same order whenever it happens again. -/

/-- The kernel with what each process will still do. -/
structure Machine where
  kernel : Kernel
  tasks : List (Nat × Task)

namespace Machine

/-- The time that a step takes at least. -/
def stepTime : Nat := 200

/-- The time until a copy of a process goes on, and until it does so itself. -/
def forkTimes : Nat × Nat := (250000, 100000)

/-- What a signal does to a process: what becomes of it, and whether it goes on. -/
def strike (p : Process) (signal : Signal) : Process × Bool :=
  if signal == Signal.kill then (p, false)
  else if signal == Signal.stop then ({ p with isStopped := true }, true)
  else
    let p := if signal == Signal.goOn then { p with isStopped := false } else p
    if p.ignored.contains signal then (p, true)
    else if p.caught.contains signal then ({ p with noticed := p.noticed ++ [signal] }, true)
    else
      match signal.response with
      | .finish => (p, false)
      | .stop => ({ p with isStopped := true }, true)
      | .nothing | .goOn => (p, true)

/-- What signals do to a process, and the one that ends it. -/
def strikeAll (p : Process) : List Signal → Process × Option Signal
  | [] => (p, none)
  | signal :: rest =>
    match strike p signal with
    | (p, true) => strikeAll p rest
    | (p, false) => (p, some signal)

/-- When a process can take its next step, if it does not have to wait for something else. -/
def readyTime? (k : Kernel) (p : Process) (task : Task) : Option Nat :=
  if p.ending.isSome then none
  else if !p.pending.isEmpty then some k.now
  else if p.isStopped then none
  else
    match task with
    | .await isReady limit _ =>
      if isReady { k with current := p.number } then some (max p.due k.now) else limit
    | _ => some p.due

/-- The process whose turn it is: when, its number, and what it does. -/
def earliest? (m : Machine) : Option (Nat × Nat × Task) :=
  m.tasks.foldl (fun best (n, task) =>
    match (m.kernel.process? n).bind fun p => readyTime? m.kernel p task with
    | none => best
    | some time =>
      match best with
      | some (first, _, _) => if time < first then some (time, n, task) else best
      | none => some (time, n, task)) none

/-- Sets what a process will still do. -/
def setTask (tasks : List (Nat × Task)) (n : Nat) (task : Task) : List (Nat × Task) :=
  tasks.map fun t => if t.1 == n then (n, task) else t

/-- Ends a process. -/
def finish (m : Machine) (n : Nat) (ending : Ending) : Machine :=
  ⟨m.kernel.finish n ending, m.tasks.filter (·.1 != n)⟩

/-- Lets a process take the signals that were sent to it. -/
def deliver (m : Machine) (p : Process) : Machine :=
  let (struck, fatal) := strikeAll { p with pending := [] } p.pending
  let m := { m with kernel := m.kernel.modifyProcess p.number fun _ => struck }
  match fatal with
  | some signal => m.finish p.number (.killed signal)
  | none => m

/-- Lets a process take a step at some time. -/
def resume (m : Machine) (time n : Nat) (task : Task) : Machine :=
  let kernel := { m.kernel with current := n, now := time, spent := 0 }
  let tasks := m.tasks
  match kernel.process? n with
  | none => ⟨kernel, tasks.filter (·.1 != n)⟩
  | some p =>
    if !p.pending.isEmpty then deliver ⟨kernel, tasks⟩ p
    else
      match task with
      | .finish ending => finish ⟨kernel, tasks⟩ n ending
      | .act step =>
        let (kernel, next) := step kernel
        let due := time + stepTime + kernel.spent
        ⟨kernel.modifyProcess n ({ · with due := due }), setTask tasks n next⟩
      | .await _ _ next =>
        ⟨kernel.modifyProcess n ({ · with due := time }), setTask tasks n next⟩
      | .sleep nanoseconds next =>
        ⟨kernel.modifyProcess n ({ · with due := time + nanoseconds }), setTask tasks n next⟩
      | .fork child next =>
        let (number, kernel) := kernel.copyProcess p (time + forkTimes.1)
        ⟨kernel.modifyProcess n ({ · with due := time + forkTimes.2 }),
          setTask tasks n (next number) ++ [(number, child)]⟩

/-- Lets time go on. -/
def atTime (m : Machine) (time : Nat) : Machine :=
  { m with kernel := { m.kernel with now := max m.kernel.now time } }

/-- Goes on until something is so, or nothing happens any more before a time. -/
def advance (fuel : Nat) (isDone : Kernel → Bool) (limit : Option Nat) (m : Machine) : Machine :=
  match fuel with
  | 0 => m
  | fuel + 1 =>
    if isDone m.kernel then m
    else
      match m.earliest? with
      | none =>
        match limit with
        | some time => m.atTime time
        | none => m
      | some (time, n, task) =>
        match limit with
        | some last =>
          if last < time then m.atTime last else advance fuel isDone limit (m.resume time n task)
        | none => advance fuel isDone limit (m.resume time n task)

/-- More steps than any process takes. -/
def manySteps : Nat := 1000000000000

end Machine

/-! ## The host

Which programs there are, and what they do, is left open: nothing below looks into them. -/

/-- The machine with its files and processes, the working directory by its node and its path, the
variables that programs get, and the programs. -/
structure Host where
  machine : Machine
  directory : Nat
  workingPath : String
  environment : List Octets
  programs : Programs
  /-- The directories that are there and whose names cannot be read, whatever the cause. -/
  unreadable : List Nat

namespace FileTree

/-- The directories that are always there. -/
def standardDirectories : List String :=
  ["/usr", "/usr/bin", "/usr/sbin", "/usr/local", "/usr/local/bin", "/usr/lib", "/dev", "/dev/fd", "/tmp",
    "/root", "/etc", "/home", "/var", "/var/tmp", "/proc", "/opt", "/mnt", "/srv", "/run"]

/-- The devices that are always there. -/
def standardDevices : List (String × Device) :=
  [("/dev/null", .nothing), ("/dev/zero", .zeros), ("/dev/full", .fullUp), ("/dev/tty", .screen),
    ("/dev/stdin", .opened 0), ("/dev/stdout", .opened 1), ("/dev/stderr", .opened 2)]
    ++ (List.range 64).map fun n => ("/dev/fd/" ++ toString n, .opened n)

/-- Puts something at a path where nothing is. -/
def place (t : FileTree) (path : String) (kind : FileKind) (mode : Nat) : FileTree :=
  match t.locate root path false with
  | .error _ => t
  | .ok place =>
    match kind with
    | .directory .. =>
      match t.insertDirectory place mode with
      | .ok (t, _) => t
      | .error _ => t
    | kind =>
      match t.insert place kind mode with
      | .ok (t, _) => t
      | .error _ => t

/-- The files that are always there, with programs by their names. -/
def standard (programs : List String) : FileTree :=
  let t := standardDirectories.foldl (fun t path => t.place path (.directory 0 []) 0o755) empty
  let t := standardDevices.foldl (fun t d => t.place d.1 (.device d.2) 0o666) t
  let t := programs.foldl (fun t name => t.place ("/usr/bin/" ++ name) (.program name) 0o755) t
  ["bin", "sbin", "lib"].foldl (fun t name =>
    t.place ("/" ++ name) (.link ("usr/" ++ name)) 0o777) t

end FileTree

namespace Host

/-- The variables that programs get. -/
def standardEnvironment : List Octets :=
  ["PATH=/usr/local/cargo/bin:/usr/local/sbin:/usr/local/bin:/usr/sbin:/usr/bin:/sbin:/bin",
    "HOME=/root"].map Octets.ofText

/-- A host with the files that are always there and with some programs, without processes, and with
the root as its working directory.  All its directories can be read. -/
def standard (programs : Programs) : Host :=
  ⟨⟨.ofTree (.standard programs.names), []⟩, FileTree.root, "/", standardEnvironment, programs, []⟩

/-- The files. -/
def tree (h : Host) : FileTree := h.machine.kernel.tree

/-- The host with other files. -/
def setTree (h : Host) (tree : FileTree) : Host :=
  { h with machine := { h.machine with kernel := { h.machine.kernel with tree := tree } } }

/-- The files at the present time. -/
def treeNow (h : Host) : FileTree := { h.tree with time := h.machine.kernel.now }

/-- Whether a path leads to anything. -/
def exists? (h : Host) (path : String) : Bool := h.tree.exists? h.directory path

/-- Whether a path leads to a directory. -/
def isDirectory (h : Host) (path : String) : Bool := h.tree.isDirectory h.directory path

/-- Whether a path leads to a file. -/
def isFile (h : Host) (path : String) : Bool := h.tree.isFile h.directory path

/-- The bytes that can be read from a path. -/
def readBytes? (h : Host) (path : String) : Option ByteArray := h.tree.readBytes? h.directory path

/-- The text that can be read from a path, if its bytes are text. -/
def readText? (h : Host) (path : String) : Option String := h.tree.readText? h.directory path

/-- The number of bytes in the file that a path leads to; a directory counts as one that is not
empty. -/
def sizeOf? (h : Host) (path : String) : Option Nat :=
  (h.tree.find? h.directory path).map fun
    | .regular content => content.size
    | .directory .. => 4096
    | _ => 0

/-- The names in the directory that a path leads to, sorted. -/
def list (h : Host) (path : String) : Except Fault (List String) := do
  let n ← h.tree.find h.directory path true
  if !h.tree.isDirectoryAt n then .error .notDirectory
  else if h.unreadable.contains n then .error .denied
  else .ok (h.tree.namesAt n)

/-- The names in the directory that a path leads to, and none if it leads to no directory. -/
def namesIn (h : Host) (path : String) : Except Fault (List String) :=
  if h.isDirectory path then h.list path else .ok []

/-- Gives the file that a path leads to a new text. -/
def write? (h : Host) (path text : String) : Option Host :=
  (h.treeNow.write? h.directory path text).map h.setTree

/-- Makes all directories on the way that are not there, and says whether that was possible. -/
def makeDirectories (h : Host) (path : String) : Bool × Host :=
  let (isMade, tree) := h.treeNow.makeDirectories h.directory path
  (isMade, h.setTree tree)

/-- Takes away the file that a path leads to. -/
def removeFile? (h : Host) (path : String) : Option Host :=
  (h.treeNow.removeFile? h.directory path).map h.setTree

end Host

end Flowscript
