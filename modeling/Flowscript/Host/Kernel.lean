import Flowscript.Host.FileTree
import Flowscript.Text.Octets

/-!
# The kernel

Signals, the state that processes share, and questions about files.

* `Signal` is a signal by its number, with its name and its words.
* `Signal.response` is what a process does that has made no arrangements for it.
* `Kernel` is everything that processes share: the file tree, open files, pipes, the processes
  themselves, and the time.
* `Kernel.self` is the process that runs.
* `Kernel.openPath`, `Kernel.read`, `Kernel.write` and their like are what a process asks for.
* `Kernel.send` sends a signal, and `Kernel.finish` ends a process.
* `Kernel.isSo` answers a question about a file, which a letter asks.
* `Kernel.isNewer` and `Kernel.isSame` compare two files.
-/

set_option autoImplicit false

namespace Flowscript

/-! ## Signals -/

/-- A signal by its number. -/
abbrev Signal := Nat

/-- What a process does on a signal that it has made no arrangements for. -/
inductive SignalResponse where
  | finish
  | nothing
  | stop
  | goOn
  deriving DecidableEq, Repr

namespace Signal

def hangup : Signal := 1
def interrupt : Signal := 2
def quit : Signal := 3
def kill : Signal := 9
def unread : Signal := 13
def terminate : Signal := 15
def childEnded : Signal := 17
def goOn : Signal := 18
def stop : Signal := 19

/-- The names of the signals from the first one on, and what is said of a process that one ended. -/
def catalog : List (String × String) :=
  [("HUP", "Hangup"), ("INT", "Interrupt"), ("QUIT", "Quit"), ("ILL", "Illegal instruction"),
    ("TRAP", "Trace/breakpoint trap"), ("ABRT", "Aborted"), ("BUS", "Bus error"),
    ("FPE", "Floating point exception"), ("KILL", "Killed"), ("USR1", "User defined signal 1"),
    ("SEGV", "Segmentation fault"), ("USR2", "User defined signal 2"), ("PIPE", "Broken pipe"),
    ("ALRM", "Alarm clock"), ("TERM", "Terminated"), ("STKFLT", "Stack fault"),
    ("CHLD", "Child exited"), ("CONT", "Continued"), ("STOP", "Stopped (signal)"),
    ("TSTP", "Stopped"), ("TTIN", "Stopped (tty input)"), ("TTOU", "Stopped (tty output)"),
    ("URG", "Urgent I/O condition"), ("XCPU", "CPU time limit exceeded"),
    ("XFSZ", "File size limit exceeded"), ("VTALRM", "Virtual timer expired"),
    ("PROF", "Profiling timer expired"), ("WINCH", "Window changed"), ("POLL", "I/O possible"),
    ("PWR", "Power failure"), ("SYS", "Bad system call")]

/-- The number of the last signal. -/
def last : Signal := 64

/-- The name of a signal that has one. -/
def name? (s : Signal) : Option String :=
  match s with
  | 0 => none
  | n + 1 => (catalog[n]?).map (·.1)

/-- What is said of a process that a signal ended. -/
def words (s : Signal) : String :=
  match s with
  | 0 => "Unknown signal 0"
  | n + 1 => match catalog[n]? with
    | some entry => entry.2
    | none =>
      if 34 ≤ s && s ≤ last then "Real-time signal " ++ toString (s - 34)
      else "Unknown signal " ++ toString s

/-- The signal with a name, written in capitals and without the letters in front. -/
def ofName? (name : String) : Option Signal := (catalog.findIdx? (·.1 == name)).map (· + 1)

/-- What a process does on a signal that it has made no arrangements for. -/
def response (s : Signal) : SignalResponse :=
  if s == childEnded || s == 23 || s == 28 then .nothing
  else if s == goOn then .goOn
  else if s == stop || s == 20 || s == 21 || s == 22 then .stop
  else .finish

end Signal

/-! ## Processes and their open files

An open file is shared by all descriptors that were copied from one another, in one process or in
several.  A pipe is at its end when no process has a descriptor left to write to it; nothing counts
descriptors, they are looked for. -/

/-- What an open file leads to. -/
inductive Channel where
  | node (number : Nat)
  | pipe (number : Nat)
  deriving DecidableEq, Repr

/-- How an open file keeps others from locking the same file. -/
inductive Lock where
  | none
  | shared
  | exclusive
  deriving DecidableEq, Repr

/-- An open file: where it leads to, what it is open for, and where the next byte is. -/
structure OpenFile where
  channel : Channel
  reads : Bool
  writes : Bool
  appends : Bool
  offset : Nat
  lock : Lock

/-- How a file is opened. -/
structure OpenMode where
  reads : Bool
  writes : Bool
  appends : Bool
  creates : Bool
  truncates : Bool
  /-- Nothing may be there yet. -/
  isNew : Bool

namespace OpenMode

/-- To read. -/
def read : OpenMode := ⟨true, false, false, false, false, false⟩

/-- To write, from an empty file on. -/
def write : OpenMode := ⟨false, true, false, true, true, false⟩

/-- To write after what is there. -/
def append : OpenMode := ⟨false, true, true, true, false, false⟩

/-- To read and write what is there. -/
def update : OpenMode := ⟨true, true, false, true, false, false⟩

/-- To write a file that is not there yet. -/
def create : OpenMode := ⟨false, true, false, true, true, true⟩

end OpenMode

/-- A pipe: its bytes, of which those before `start` have been read, and how often its ends have been
opened by its name, to read and to write.  One that is kept by the host takes any number of bytes. -/
structure Pipe where
  content : ByteArray
  start : Nat
  isKept : Bool
  readings : Nat
  writings : Nat

namespace Pipe

/-- How many bytes there are to read. -/
def size (p : Pipe) : Nat := p.content.size - p.start

/-- The bytes to read. -/
def unread (p : Pipe) : ByteArray := p.content.extract p.start p.content.size

/-- How many bytes a pipe holds. -/
def capacity : Nat := 65536

/-- How many bytes can be written. -/
def room (p : Pipe) : Nat := if p.isKept then capacity else capacity - p.size

/-- Takes the first bytes out. -/
def take (p : Pipe) (count : Nat) : ByteArray × Pipe :=
  let stop := min (p.start + count) p.content.size
  let bytes := p.content.extract p.start stop
  if stop == p.content.size then (bytes, { p with content := .empty, start := 0 })
  else (bytes, { p with start := stop })

/-- Puts bytes in, in place of those that have been read. -/
def put (p : Pipe) (bytes : ByteArray) : Pipe :=
  if p.start == 0 then { p with content := p.content ++ bytes }
  else { p with content := p.unread ++ bytes, start := 0 }

end Pipe

/-- How a process ended. -/
inductive Ending where
  | exited (status : Nat)
  | killed (signal : Signal)
  deriving DecidableEq, Repr

/-- The status of a process as a shell sees it. -/
def Ending.status : Ending → Nat
  | .exited status => status
  | .killed signal => 128 + signal

/-- A process.  `descriptors` are the numbers of its open files; `pending` are the signals that were
sent to it, and `noticed` those of them for which it has made arrangements.  `due` is when it goes
on. -/
structure Process where
  number : Nat
  parent : Nat
  group : Nat
  directory : Nat
  descriptors : List (Nat × Nat)
  mask : Nat
  ignored : List Signal
  caught : List Signal
  pending : List Signal
  noticed : List Signal
  isStopped : Bool
  due : Nat
  ending : Option Ending

/-- What processes share.  `current` is the number of the process that runs, `now` its time
in nanoseconds, and `spent` the time that its present step takes. -/
structure Kernel where
  tree : FileTree
  openFiles : Array OpenFile
  pipes : Array Pipe
  processes : List Process
  nextNumber : Nat
  current : Nat
  now : Nat
  spent : Nat

namespace Kernel

/-- No processes, over a file tree. -/
def ofTree (tree : FileTree) : Kernel := ⟨tree, #[], #[], [], 100, 0, tree.time, 0⟩

/-! ### Processes -/

/-- The process with a number. -/
def process? (k : Kernel) (number : Nat) : Option Process :=
  k.processes.find? (·.number == number)

/-- A process that stands for none. -/
def noProcess : Process := ⟨0, 0, 0, 0, [], 0o022, [], [], [], [], false, 0, none⟩

/-- The process that runs. -/
def self (k : Kernel) : Process := (k.process? k.current).getD noProcess

/-- Changes a process. -/
def modifyProcess (k : Kernel) (number : Nat) (f : Process → Process) : Kernel :=
  { k with processes := k.processes.map fun p => if p.number == number then f p else p }

/-- Changes the process that runs. -/
def modifySelf (k : Kernel) (f : Process → Process) : Kernel := k.modifyProcess k.current f

/-- Lets the present step take longer. -/
def spend (k : Kernel) (nanoseconds : Nat) : Kernel := { k with spent := k.spent + nanoseconds }

/-- Whether a process goes on. -/
def isAlive (k : Kernel) (number : Nat) : Bool :=
  match k.process? number with
  | some p => p.ending.isNone
  | none => false

/-- The process that takes over the children of those that end. -/
def adopter : Nat := 1

/-- The process that stands for the host itself. -/
def hostNumber : Nat := 0

/-- A new process, started as a copy of another one, and its number. -/
def copyProcess (k : Kernel) (p : Process) (due : Nat) : Nat × Kernel :=
  let number := k.nextNumber
  let child : Process :=
    { p with
      number := number
      parent := p.number
      pending := []
      noticed := []
      isStopped := false
      due := due
      ending := none }
  (number, { k with processes := k.processes ++ [child], nextNumber := number + 1 })

/-- Sends a signal to one process.  One that has ended does not mind. -/
def sendTo (k : Kernel) (number : Nat) (signal : Signal) : Kernel :=
  k.modifyProcess number fun p =>
    if p.ending.isSome || p.pending.contains signal then p
    else { p with pending := p.pending ++ [signal] }

/-- Ends a process.  Its files are closed, and its children are taken over. -/
def finish (k : Kernel) (number : Nat) (ending : Ending) : Kernel :=
  let parent := ((k.process? number).map (·.parent)).getD adopter
  let processes := k.processes.filterMap fun p =>
    if p.number == number then
      if parent == adopter then none
      else some { p with ending := some ending, descriptors := [], pending := [] }
    else if p.parent == number then
      if p.ending.isSome then none else some { p with parent := adopter }
    else some p
  ({ k with processes }).sendTo parent Signal.childEnded

/-- Forgets a process that has ended. -/
def forget (k : Kernel) (number : Nat) : Kernel :=
  { k with processes := k.processes.filter (·.number != number) }

/-- How a child has ended, if it has. -/
def endingOf? (k : Kernel) (number : Nat) : Option Ending :=
  (k.process? number).bind (·.ending)

/-- The processes that a number given to `send` means: one of that number, one's own group for zero,
all but oneself for minus one, or the group of the number without its sign. -/
def targets (k : Kernel) (number : Int) : List Nat :=
  let chosen (p : Process) : Bool :=
    if number > 0 then (p.number : Int) == number
    else if number == 0 then p.group == k.self.group
    else if number == -1 then p.number != k.current
    else (p.group : Int) == -number
  (k.processes.filter chosen).map (·.number)

/-- Sends a signal; the signal zero only looks whether there is somebody to send it to. -/
def send (k : Kernel) (number : Int) (signal : Signal) : Except Fault Kernel :=
  match k.targets number with
  | [] => if number == (adopter : Nat) then .ok k else .error .noProcess
  | targets =>
    if signal == 0 then .ok k
    else .ok (targets.foldl (fun k n => k.sendTo n signal) k)

/-! ### Descriptors -/

/-- The open file of a process under a number. -/
def fileOf? (k : Kernel) (p : Process) (descriptor : Nat) : Option (Nat × OpenFile) := do
  let i ← p.descriptors.lookup descriptor
  some (i, ← k.openFiles[i]?)

/-- The open file of the process that runs under a number. -/
def file? (k : Kernel) (descriptor : Nat) : Option (Nat × OpenFile) :=
  k.fileOf? k.self descriptor

/-- Lets a descriptor of the process that runs stand for an open file. -/
def setDescriptor (k : Kernel) (descriptor i : Nat) : Kernel :=
  k.modifySelf fun p =>
    { p with descriptors := (descriptor, i) :: p.descriptors.filter (·.1 != descriptor) }

/-- Closes a descriptor of the process that runs. -/
def close (k : Kernel) (descriptor : Nat) : Kernel :=
  k.modifySelf fun p => { p with descriptors := p.descriptors.filter (·.1 != descriptor) }

/-- The first number from some number on under which nothing is open. -/
def freeFrom (taken : List (Nat × Nat)) (fuel n : Nat) : Nat :=
  match fuel with
  | 0 => n
  | fuel + 1 => if taken.any (·.1 == n) then freeFrom taken fuel (n + 1) else n

/-- Lets a free descriptor of the process that runs stand for an open file. -/
def addDescriptor (k : Kernel) (least i : Nat) : Nat × Kernel :=
  let taken := k.self.descriptors
  let descriptor := freeFrom taken (taken.length + 1) least
  (descriptor, k.setDescriptor descriptor i)

/-- Adds an open file, and gives its place. -/
def addFile (k : Kernel) (file : OpenFile) : Nat × Kernel :=
  (k.openFiles.size, { k with openFiles := k.openFiles.push file })

/-- Changes an open file. -/
def modifyFile (k : Kernel) (i : Nat) (f : OpenFile → OpenFile) : Kernel :=
  { k with openFiles := k.openFiles.modify i f }

/-- A descriptor from which on a program that is started does not get them. -/
def firstPrivate : Nat := 1024

/-- What becomes of a process that another program takes over: private descriptors are closed, and
arrangements for signals are forgotten. -/
def takeOver (k : Kernel) : Kernel :=
  k.modifySelf fun p =>
    { p with
      descriptors := p.descriptors.filter (·.1 < firstPrivate)
      caught := []
      noticed := [] }

/-! ### Pipes -/

/-- Whether an open file of a process that has not ended has a property. -/
def anyOpen (k : Kernel) (has : OpenFile → Bool) : Bool :=
  k.processes.any fun p => p.descriptors.any fun d => match k.openFiles[d.2]? with
    | some file => has file
    | none => false

/-- Whether somebody can write to a pipe. -/
def hasWriter (k : Kernel) (pipe : Nat) : Bool :=
  k.anyOpen fun file => file.channel == .pipe pipe && file.writes

/-- Whether somebody reads a pipe. -/
def hasReader (k : Kernel) (pipe : Nat) : Bool :=
  (match k.pipes[pipe]? with
    | some p => p.isKept
    | none => false)
  || k.anyOpen fun file => file.channel == .pipe pipe && file.reads

/-- Adds a pipe, and gives its place. -/
def addPipe (k : Kernel) (isKept : Bool) : Nat × Kernel :=
  (k.pipes.size, { k with pipes := k.pipes.push ⟨.empty, 0, isKept, 0, 0⟩ })

/-- Adds a pipe with open files for both ends: the one to read and the one to write. -/
def openPipe (k : Kernel) : Nat × Nat × Kernel :=
  let (pipe, k) := k.addPipe false
  let (reading, k) := k.addFile ⟨.pipe pipe, true, false, false, 0, .none⟩
  let (writing, k) := k.addFile ⟨.pipe pipe, false, true, false, 0, .none⟩
  (reading, writing, k)

/-! ### Locks -/

/-- Whether an open file can have a lock that others do not rule out. -/
def canLock (k : Kernel) (i : Nat) (lock : Lock) : Bool :=
  match k.openFiles[i]? with
  | none => false
  | some file =>
    let rulesOut (d : Nat × Nat) : Bool :=
      d.2 != i && match k.openFiles[d.2]? with
        | some other =>
          other.channel == file.channel && other.lock != .none
            && (lock == .exclusive || other.lock == .exclusive)
        | none => false
    lock == .none || !k.processes.any fun p => p.descriptors.any rulesOut

/-- Gives an open file a lock. -/
def setLock (k : Kernel) (i : Nat) (lock : Lock) : Kernel := k.modifyFile i ({ · with lock })

/-! ### Opening -/

/-- Changes the file tree, in which time has gone on. -/
def modifyTree (k : Kernel) (f : FileTree → FileTree) : Kernel :=
  let now := k.now
  { k with tree := f { k.tree with time := now } }

/-- Changes the file tree, if that can be done. -/
def changeTree (k : Kernel) (f : FileTree → Nat → Except Fault FileTree) :
    Except Fault Unit × Kernel :=
  match f { k.tree with time := k.now } k.self.directory with
  | .ok tree => (.ok (), { k with tree })
  | .error fault => (.error fault, k)

/-- An open file at the start of what a channel leads to. -/
def startOf (mode : OpenMode) (channel : Channel) : OpenFile :=
  ⟨channel, mode.reads, mode.writes, mode.appends, 0, .none⟩

/-- Notes that a pipe is opened by its name.  What nobody read is lost if neither end was open. -/
def noteOpening (k : Kernel) (pipe : Nat) (mode : OpenMode) : Kernel :=
  let isOpen := k.hasReader pipe || k.hasWriter pipe
  { k with pipes := k.pipes.modify pipe fun p =>
      { p with
        content := if isOpen then p.content else .empty
        start := if isOpen then p.start else 0
        readings := if mode.reads then p.readings + 1 else p.readings
        writings := if mode.writes then p.writings + 1 else p.writings } }

/-- When a path that was just opened is really open: a pipe with a name is when somebody has opened
its other end, too. -/
def openWhen? (k : Kernel) (path : String) (mode : OpenMode) : Option (Kernel → Bool) :=
  match k.tree.find k.self.directory path true with
  | .error _ => none
  | .ok n =>
    match k.tree.kind? n with
    | some (.pipe number) =>
      let count (k : Kernel) (f : Pipe → Nat) : Nat := ((k.pipes[number]?).map f).getD 0
      if mode.reads && mode.writes then none
      else if mode.reads then
        let before := count k (·.writings)
        some fun k => k.hasWriter number || count k (·.writings) != before
      else
        let before := count k (·.readings)
        some fun k => k.hasReader number || count k (·.readings) != before
    | _ => none

/-- Opens a node that is there. -/
def openNode (k : Kernel) (n : Nat) (mode : OpenMode) : Except Fault Nat × Kernel :=
  let opened (k : Kernel) (channel : Channel) : Except Fault Nat × Kernel :=
    let (i, k) := k.addFile (startOf mode channel)
    (.ok i, k)
  match k.tree.kind? n with
  | some (.regular _) =>
    if mode.isNew then (.error .present, k)
    else if mode.truncates then opened (k.modifyTree (·.modifyContent n fun _ => .empty)) (.node n)
    else opened k (.node n)
  | some (.directory ..) =>
    if mode.writes then (.error .isDirectory, k) else opened k (.node n)
  | some (.device (.opened descriptor)) =>
    match k.file? descriptor with
    | some (_, file) => opened k file.channel
    | none => (.error .missing, k)
  | some (.device .screen) => (.error .noDevice, k)
  | some (.device _) => opened k (.node n)
  | some (.pipe p) => opened (k.noteOpening p mode) (.pipe p)
  | some (.program _) => if mode.writes then (.error .busy, k) else opened k (.node n)
  | some (.link _) => (.error .tooManyLinks, k)
  | none => (.error .missing, k)

/-- Opens what a path leads to, and gives the place of the open file. -/
def openPath (k : Kernel) (path : String) (mode : OpenMode) : Except Fault Nat × Kernel :=
  match k.tree.locate k.self.directory path true with
  | .error fault => (.error fault, k)
  | .ok place =>
    match place.node? with
    | some n => k.openNode n mode
    | none =>
      if !mode.creates then (.error .missing, k)
      else if Path.endsInSlash path then (.error .isDirectory, k)
      else
        let permissions := 0o666 &&& (0o777 ^^^ k.self.mask)
        match ({ k.tree with time := k.now }).insert place (.regular .empty) permissions with
        | .error fault => (.error fault, k)
        | .ok (tree, n) =>
          let (i, k) := { k with tree }.addFile (startOf mode (.node n))
          (.ok i, k)

/-! ### Reading and writing -/

/-- What starts the file of a program. -/
def programStart : ByteArray := ⟨#[127, 69, 76, 70, 2, 1, 1, 0]⟩

/-- The bytes of a node that can be read. -/
def readable (k : Kernel) (n offset count : Nat) : Except Fault ByteArray :=
  match k.tree.kind? n with
  | some (.regular content) => .ok (content.extract offset (offset + count))
  | some (.program _) => .ok (programStart.extract offset (offset + count))
  | some (.directory ..) => .error .isDirectory
  | some (.device .nothing) | some (.device (.opened _)) => .ok .empty
  | some (.device .zeros) | some (.device .fullUp) => .ok ⟨Array.replicate count 0⟩
  | _ => .error .invalid

/-- Whether something can be read at once, or never will. -/
def canRead (k : Kernel) (descriptor : Nat) : Bool :=
  match k.file? descriptor with
  | some (_, { channel := .pipe n, .. }) =>
    match k.pipes[n]? with
    | some pipe => pipe.size != 0 || !k.hasWriter n
    | none => true
  | _ => true

/-- Reads some bytes, none at the end.  There is no answer while a pipe is empty. -/
def read (k : Kernel) (descriptor count : Nat) : Except Fault (Option ByteArray) × Kernel :=
  match k.file? descriptor with
  | none => (.error .notOpen, k)
  | some (i, file) =>
    if !file.reads then (.error .notOpen, k)
    else
      match file.channel with
      | .node n =>
        match k.readable n file.offset count with
        | .error fault => (.error fault, k)
        | .ok bytes =>
          (.ok (some bytes), k.modifyFile i fun f => { f with offset := f.offset + bytes.size })
      | .pipe n =>
        match k.pipes[n]? with
        | none => (.ok (some .empty), k)
        | some pipe =>
          if pipe.size == 0 then (.ok (if k.hasWriter n then none else some .empty), k)
          else
            let (bytes, pipe) := pipe.take count
            (.ok (some bytes), { k with pipes := k.pipes.setIfInBounds n pipe })

/-- Puts bytes into others at some place. -/
def overlay (content bytes : ByteArray) (offset : Nat) : ByteArray :=
  if offset == content.size then content ++ bytes
  else if content.size < offset then
    content ++ ⟨Array.replicate (offset - content.size) 0⟩ ++ bytes
  else
    content.extract 0 offset ++ bytes ++ content.extract (offset + bytes.size) content.size

/-- Writes to a node. -/
def writeNode (k : Kernel) (i n : Nat) (file : OpenFile) (bytes : ByteArray) :
    Except Fault Nat × Kernel :=
  match k.tree.kind? n with
  | some (.regular content) =>
    let size := content.size
    let offset := if file.appends then size else file.offset
    let k := k.modifyTree (·.modifyContent n fun content => overlay content bytes offset)
    (.ok bytes.size, k.modifyFile i fun f => { f with offset := offset + bytes.size })
  | some (.device .fullUp) => (.error .full, k)
  | some (.device _) => (.ok bytes.size, k)
  | _ => (.error .invalid, k)

/-- Whether something can be written at once, or never will. -/
def canWrite (k : Kernel) (descriptor : Nat) : Bool :=
  match k.file? descriptor with
  | some (_, { channel := .pipe n, .. }) =>
    match k.pipes[n]? with
    | some pipe => pipe.room != 0 || !k.hasReader n
    | none => true
  | _ => true

/-- Writes as many bytes as there is room for, and says how many.  A process that writes what nobody
reads is told so by a signal. -/
def write (k : Kernel) (descriptor : Nat) (bytes : ByteArray) : Except Fault Nat × Kernel :=
  match k.file? descriptor with
  | none => (.error .notOpen, k)
  | some (i, file) =>
    if !file.writes then (.error .notOpen, k)
    else
      match file.channel with
      | .node n => k.writeNode i n file bytes
      | .pipe n =>
        if !k.hasReader n then
          (.error .unread,
            if k.self.ignored.contains Signal.unread then k
            else k.sendTo k.current Signal.unread)
        else
          let room := ((k.pipes[n]?).map (·.room)).getD 0
          let part := if room < bytes.size then bytes.extract 0 room else bytes
          (.ok part.size, { k with pipes := k.pipes.modify n (·.put part) })

/-- Where in a file a descriptor is, or `none` if it leads to no file. -/
def offset? (k : Kernel) (descriptor : Nat) : Option Nat :=
  match k.file? descriptor with
  | some (_, { channel := .node _, offset := offset, .. }) => some offset
  | _ => none

/-- Lets a descriptor be somewhere else in its file. -/
def seek (k : Kernel) (descriptor offset : Nat) : Kernel :=
  match k.file? descriptor with
  | some (i, _) => k.modifyFile i fun f => { f with offset := offset }
  | none => k

/-! ### Directories -/

/-- Goes to another directory. -/
def changeDirectory (k : Kernel) (path : String) : Except Fault Unit × Kernel :=
  match k.tree.find k.self.directory path true with
  | .error fault => (.error fault, k)
  | .ok n =>
    if k.tree.isDirectoryAt n then (.ok (), k.modifySelf fun p => { p with directory := n })
    else (.error .notDirectory, k)

/-- The absolute path of the working directory, unless it is no longer there. -/
def workingPath? (k : Kernel) : Option String := k.tree.path? k.self.directory

/-- The node that a path leads to. -/
def find (k : Kernel) (path : String) (follow : Bool) : Except Fault Nat :=
  k.tree.find k.self.directory path follow

end Kernel

/-! ## Questions about files -/

namespace Kernel

/-- The node that a path leads to. -/
def nodeAt? (k : Kernel) (path : Octets) (follow : Bool) : Option Nat :=
  (k.find (Octets.toText path) follow).toOption

/-- Whether something is so of the file that a path leads to. -/
def isSo (k : Kernel) (letter : Char) (path : Octets) : Bool :=
  let node? := k.nodeAt? path true
  let isKind (f : FileKind → Bool) : Bool := (node?.bind k.tree.kind?).any f
  let modeHas (bits : Nat) : Bool := match node? with
    | some n => k.tree.modeOf n &&& bits != 0
    | none => false
  match letter with
  | 'f' => isKind fun
    | .regular _ | .program _ => true
    | _ => false
  | 'd' => isKind fun
    | .directory .. => true
    | _ => false
  | 'c' => isKind fun
    | .device _ => true
    | _ => false
  | 'p' => isKind fun
    | .pipe _ => true
    | _ => false
  | 's' => isKind fun
    | .regular content => content.size != 0
    | .directory .. | .program _ => true
    | _ => false
  | 'h' | 'L' => ((k.nodeAt? path false).bind k.tree.kind?).any fun
    | .link _ => true
    | _ => false
  | 'x' => isKind (fun
    | .directory .. => true
    | _ => false) || modeHas FileTree.runBits
  | 'e' | 'r' | 'w' | 'O' | 'G' => node?.isSome
  | 'u' => modeHas 0o4000
  | 'g' => modeHas 0o2000
  | 'k' => modeHas 0o1000
  | _ => false

/-- When the file that a path leads to was last written. -/
def writtenAt? (k : Kernel) (path : Octets) : Option Nat :=
  (k.nodeAt? path true).map k.tree.modifiedAt

/-- Whether two paths lead to the same file. -/
def isSame (k : Kernel) (a b : Octets) : Bool :=
  (k.nodeAt? a true).isSome && k.nodeAt? a true == k.nodeAt? b true

end Kernel

end Flowscript
