import Flowscript.Command
import Flowscript.Host.Basic

/-!
# Running a program

A program is a file that may be run, or a name to look for, and runs in a directory.  It has nothing
to read, and a process group of its own.

* `Host.launch?` starts a program, and `Host.capture?` one whose output is kept.
* `Host.advance` goes on until something is so, and `Host.takeResult` says what came of a program.
* `Host.terminate` ends a program and what it started.

What a program leaves running goes on whenever the host waits for something.
-/

set_option autoImplicit false

namespace Flowscript

/-- A program whose output is kept: its process, and the pipes for output and errors. -/
structure Captured where
  process : Nat
  output : Nat
  errors : Nat
  deriving Repr

/-- Whether a program has ended and nobody can print to its output any more. -/
def Captured.isDone (c : Captured) (k : Kernel) : Bool :=
  !k.isAlive c.process && !k.hasWriter c.output && !k.hasWriter c.errors

/-- The exit code of a process; one that a signal ended has none of its own. -/
def Ending.exitCode : Ending → Int
  | .exited status => status
  | .killed _ => -1

/-- How a program ended, and what it printed. -/
structure ProcessResult where
  ending : Ending
  output : ByteArray

namespace ProcessResult

/-- The exit code of a program. -/
def exitCode (r : ProcessResult) : Int := r.ending.exitCode

/-- What was printed, as text. -/
def outputText (r : ProcessResult) : String := Text.decodeLossy r.output.toList

end ProcessResult

namespace Host

/-- The present time, in nanoseconds. -/
def now (h : Host) : Nat := h.machine.kernel.now

/-- The host with another kernel. -/
def setKernel (h : Host) (kernel : Kernel) : Host :=
  { h with machine := { h.machine with kernel := kernel } }

/-- Opens a file, and gives its place among open files. -/
def openFile (h : Host) (path : String) (mode : OpenMode) : Except Fault Nat × Host :=
  let self : Process :=
    { Kernel.noProcess with number := Kernel.hostNumber, directory := h.directory }
  let k := h.machine.kernel
  let (result, k) := { k with processes := self :: k.processes, current := self.number }.openPath
    path mode
  (result, h.setKernel (k.forget self.number))

/-- The path of a program that is looked for by its name. -/
def programPath (h : Host) (k : Kernel) (name : String) : Except Fault String :=
  if name.toList.contains '/' then .ok name
  else
    let directories := (Run.binding? h.environment "PATH").getD Run.standardPath
    let isFound (path : String) : Bool := match k.runnable Kernel.mostScripts path [] with
      | .error .missing | .error .notDirectory | .error .denied => false
      | _ => true
    match (Run.candidates directories (Octets.ofText name)).find? isFound with
    | some path => .ok path
    | none => .error .missing

/-- Starts a program in a directory with open files for output and errors.  Nothing happens if the
directory or the program is not there. -/
def launch? (h : Host) (directory : String) (command : Command) (output errors : Nat) :
    Option (Nat × Host) :=
  if command.arguments.any (·.toList.contains '\x00') then none
  else
    match h.tree.find h.directory directory true with
    | .error _ => none
    | .ok node =>
      if !h.tree.isDirectoryAt node then none
      else
        let parent : Process :=
          { Kernel.noProcess with number := Kernel.hostNumber, directory := node }
        let (number, k) := h.machine.kernel.copyProcess parent h.now
        let k := k.modifyProcess number fun p => { p with group := number, mask := 0o022 }
        let k := { k with current := number }
        match k.openPath "/dev/null" .read with
        | (.error _, _) => none
        | (.ok input, k) =>
          let k := ((k.setDescriptor 0 input).setDescriptor 1 output).setDescriptor 2 errors
          let arguments := (command.program :: command.arguments).map Octets.ofText
          let started := do
            let path ← h.programPath k command.program
            k.runnable Kernel.mostScripts path arguments
          match started with
          | .error _ => none
          | .ok (program, arguments) =>
            let task : Task := .act fun k => (k.spend Run.startTime,
              h.programs.start ⟨program, arguments, h.environment⟩ fun status =>
                .finish (.exited (status % 256)))
            some (number, { h with machine := ⟨k, h.machine.tasks ++ [(number, task)]⟩ })

/-- Goes on until something is so, or up to a time. -/
def advance (h : Host) (isDone : Kernel → Bool) (limit : Option Nat) : Host :=
  { h with machine := h.machine.advance Machine.manySteps isDone limit }

/-- Whether a process has ended. -/
def hasEnded (number : Nat) (k : Kernel) : Bool := !k.isAlive number

/-- How a process has ended, which is then forgotten. -/
def takeEnding (h : Host) (number : Nat) : Ending × Host :=
  let k := h.machine.kernel
  ((k.endingOf? number).getD (.killed Signal.kill), h.setKernel (k.forget number))

/-- Starts a program whose output is kept. -/
def capture? (h : Host) (directory : String) (command : Command) : Option (Captured × Host) :=
  let k := h.machine.kernel
  let (first, k) := k.addPipe true
  let (second, k) := k.addPipe true
  let (output, k) := k.addFile ⟨.pipe first, false, true, false, 0, .none⟩
  let (errors, k) := k.addFile ⟨.pipe second, false, true, false, 0, .none⟩
  ((h.setKernel k).launch? directory command output errors).map fun (number, h) =>
    (⟨number, first, second⟩, h)

/-- What came of a program that is done. -/
def takeResult (h : Host) (c : Captured) : ProcessResult × Host :=
  let output := ((h.machine.kernel.pipes[c.output]?).map (·.unread)).getD .empty
  let (ending, h) := h.takeEnding c.process
  (⟨ending, output⟩, h)

/-- Ends a process at once. -/
def kill (h : Host) (number : Nat) : Host :=
  let h := h.setKernel (h.machine.kernel.sendTo number Signal.kill)
  let h := h.advance (hasEnded number) none
  (h.takeEnding number).2

/-- The time that it takes to tell a process group to end. -/
def terminationTime : Nat := 1500000

/-- Ends a process, after everybody in its group was told to end. -/
def terminate (h : Host) (number : Nat) : Host :=
  let h := h.advance (fun _ => false) (some (h.now + terminationTime))
  let k := h.machine.kernel
  let h := h.setKernel ((k.send (-(number : Int)) Signal.terminate).toOption.getD k)
  let h := h.advance (hasEnded number) (some (h.now + terminationTime))
  h.kill number

end Host

end Flowscript
