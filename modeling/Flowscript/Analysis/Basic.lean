import Flowscript.Analysis.Inputs
import Flowscript.Analysis.Poll
import Flowscript.Analysis.Settings

/-!
# Analyses and their states

The state that runs and cleanings share, and the analyses that have one.

* `RunState.enter?` starts a run unless one is in flight.
* `RunState.leave` is what remains when a run is given up.
* `RunState.clean` is the state after cleaning.
* `RunOutcome` is the end of a run.
* `Analysis.create` compiles a pipeline and writes the script; `Analysis.ofOutputRoot` takes a
  script that is there.
* `Analysis.run` sets up and builds, and `Analysis.clean` cleans.
* `Analysis.poll` reads both ratios, and `Analysis.outputLog` and `Analysis.errorLog` what the main
  build printed.
-/

set_option autoImplicit false

namespace Flowscript

/-! ## The state of an analysis

An analysis is idle, running or finished.  Its state is shared by everyone who runs or cleans it, so
it only changes in steps that each look at it and set it at once. -/

/-- The state of an analysis. -/
inductive RunState where
  | idle
  | running
  | succeeded
  | failed
  | timedOut
  deriving DecidableEq, Repr

namespace RunState

/-- The word for a state. -/
def text : RunState → String
  | .idle => "idle"
  | .running => "running"
  | .succeeded => "succeeded"
  | .failed => "failed"
  | .timedOut => "timed out"

/-- The state after the start of a run, which no other run may be in the way of. -/
def enter? (s : RunState) : Option RunState := if s = .running then none else some .running

/-- The state after the end of a run that may not have set one: a run that is given up has
failed. -/
def leave (s : RunState) : RunState := if s = .running then .failed else s

/-- The state after cleaning: a run in flight stays in flight. -/
def clean (s : RunState) : RunState := if s = .running then .running else .idle

end RunState

/-- The colour of the last line of a run. -/
inductive StatusColour where
  | green
  | red
  deriving DecidableEq, Repr

/-- The word for a colour. -/
def StatusColour.text : StatusColour → String
  | .green => "green"
  | .red => "red"

/-- The end of a run: its state, the exit code of the command that ended it, if one did, and how
long it took. -/
structure RunOutcome where
  state : RunState
  exitCode : Option Int
  elapsed : Duration
  deriving DecidableEq, Repr

/-- A run that succeeded with all files in place is green. -/
def RunOutcome.colour (o : RunOutcome) (complete : Bool) : StatusColour :=
  if o.state = .succeeded ∧ complete = true then .green else .red

/-! ## Analyses

An analysis is a build script in an output root, the settings to run it with, and its state. -/

/-- A build script in an output root, with settings and state. -/
structure Analysis where
  name : String
  outputRoot : String
  settings : RunSettings
  state : RunState

namespace Analysis

/-! ### Making one -/

/-- The script of a pipeline over a table that has all its columns.  Whether the script goes on
after a failure is for the settings to say. -/
def scriptOf (inputs : AnalysisInputs) (h : Host) (outputRoot : String) (options : ScriptOptions)
    (settings : RunSettings) : Except AnalysisError BuildScript :=
  let report := BindingReport.check inputs.pipeline inputs.table
  if !report.isOk then .error (.missingColumns report.missing)
  else
    (compile { options with keepGoing := settings.keepGoing } inputs.pipeline inputs.table
      h.workingPath outputRoot).mapError .script

/-- Compiles a pipeline over a table and writes the script into an output root. -/
def create (name : String) (inputs : AnalysisInputs) (h : Host) (outputRoot : String)
    (options : ScriptOptions) (settings : RunSettings) : Except AnalysisError Analysis × Host :=
  match scriptOf inputs h outputRoot options settings with
  | .error e => (.error e, h)
  | .ok script =>
    match script.write h with
    | (.error e, h) => (.error (.script e), h)
    | (.ok (), h) => (.ok ⟨name, script.outputRoot, settings, .idle⟩, h)

/-- Creates the analysis of a descriptor, and writes the descriptor into the output root too. -/
def ofDescriptor (d : AnalysisDescriptor) (h : Host) (outputRoot : String)
    (options : ScriptOptions) (settings : RunSettings) : Except AnalysisError Analysis × Host :=
  match d.loadInputs h with
  | .error e => (.error e, h)
  | .ok inputs =>
    match create d.analysis inputs h outputRoot options settings with
    | (.error e, h) => (.error e, h)
    | (.ok analysis, h) =>
      match d.save h analysis.outputRoot with
      | (.error e, h) => (.error e, h)
      | (.ok _, h) => (.ok analysis, h)

/-- Takes an output root in which there is a script. -/
def ofOutputRoot (name : String) (h : Host) (outputRoot : String) (settings : RunSettings) :
    Except AnalysisError Analysis :=
  let script := Path.join outputRoot Layout.scriptFile
  if h.exists? script then .ok ⟨name, outputRoot, settings, .idle⟩
  else .error (.inaccessible script)

/-! ### Running -/

/-- The host with an analysis that is run on it, and the monitor that polls meanwhile, if one does. -/
structure Session where
  host : Host
  monitor? : Option Monitor

namespace Session

/-- Goes on until something is so or time is up. -/
def advance (s : Session) (isDone : Kernel → Bool) (limit : Option Nat) : Session :=
  match s.monitor? with
  | none => { s with host := s.host.advance isDone limit }
  | some m =>
    let (m, h) := m.advance Machine.manySteps isDone limit s.host
    ⟨h, some m⟩

/-- Ends the session once a poll that is in flight is over. -/
def finish (s : Session) : Host :=
  match s.monitor? with
  | none => s.host
  | some m => m.finish s.host

end Session

/-- Runs a target other than the main one and gives its exit code; there is none if the program does
not start. -/
def phase? (a : Analysis) (s : Session) (target : String) : Option (Int × Session) := do
  let (program, h) ← s.host.capture? a.outputRoot (a.settings.phaseCommand target)
  let s := { s with host := h }.advance program.isDone none
  let (result, h) := s.host.takeResult program
  some (result.exitCode, { s with host := h })

/-- Makes the file of a log empty, and gives its place among open files. -/
def openLog (a : Analysis) (h : Host) (name : String) : Except AnalysisError Nat × Host :=
  let path := Path.join a.outputRoot name
  match h.openFile path .write with
  | (.error _, h) => (.error (.inaccessible path), h)
  | (.ok file, h) => (.ok file, h)

/-- How the main build ended. -/
inductive MainEnding where
  | exited (code : Int)
  | cancelled
  | timedOut

/-- Runs the main build with its output in open files, until it is cancelled or its time is up. -/
def runMain (a : Analysis) (s : Session) (output errors : Nat) (cancelTime : Option Nat) :
    Except AnalysisError MainEnding × Session :=
  let command := a.settings.mainCommand
  match s.host.launch? a.outputRoot command output errors with
  | none => (.error (.notStarted command.program), s)
  | some (process, h) =>
    let deadline := a.settings.runTimeout.map fun t => h.now + t.nanoseconds
    let s := { s with host := h }.advance (Host.hasEnded process) (earlier cancelTime deadline)
    let h := s.host
    if Host.hasEnded process h.machine.kernel then
      let (ending, h) := h.takeEnding process
      (.ok (.exited ending.exitCode), { s with host := h })
    else
      (.ok (if cancelTime.any (· ≤ h.now) then .cancelled else .timedOut),
        { s with host := h.terminate process })

/-- Sets up and runs the main build, and gives the state after it and the exit code that led there.
A run that is cancelled while it sets up ends after that. -/
def runPhases (a : Analysis) (s : Session) (cancelTime : Option Nat) :
    Except AnalysisError (RunState × Option Int) × Session :=
  match a.phase? s "setupall" with
  | none => (.error (.notStarted a.settings.makeProgram), s)
  | some (code, s) =>
    if code ≠ 0 then (.ok (.failed, some code), s)
    else if cancelTime.any (· ≤ s.host.now) then (.ok (.failed, none), s)
    else
      match a.openLog s.host Layout.outputLog with
      | (.error e, h) => (.error e, { s with host := h })
      | (.ok output, h) =>
        match a.openLog h Layout.errorLog with
        | (.error e, h) => (.error e, { s with host := h })
        | (.ok errors, h) =>
          match a.runMain { s with host := h } output errors cancelTime with
          | (.error e, s) => (.error e, s)
          | (.ok (.exited 0), s) => (.ok (.succeeded, some 0), s)
          | (.ok (.exited code), s) => (.ok (.failed, some code), s)
          | (.ok .cancelled, s) => (.ok (.failed, none), s)
          | (.ok .timedOut, s) => (.ok (.timedOut, none), s)

/-- Runs an analysis that is not running.  It may be cancelled after a number of nanoseconds. -/
def runBeside (a : Analysis) (s : Session) (cancelAfter : Option Nat) :
    Except AnalysisError RunOutcome × Analysis × Session :=
  match a.state.enter? with
  | none => (.error .alreadyRunning, a, s)
  | some begun =>
    let start := s.host.now
    match a.runPhases s (cancelAfter.map (start + ·)) with
    | (.ok (state, code), s) =>
      (.ok ⟨state, code, ⟨s.host.now - start⟩⟩, { a with state := state }, s)
    | (.error e, s) => (.error e, { a with state := begun.leave }, s)

/-- Runs an analysis that is not running, with nothing else beside it. -/
def run (a : Analysis) (h : Host) (cancelAfter : Option Nat) :
    Except AnalysisError RunOutcome × Analysis × Host :=
  let (result, a, s) := a.runBeside ⟨h, none⟩ cancelAfter
  (result, a, s.host)

/-- Runs an analysis while a monitor polls, whose last poll is waited for. -/
def runMonitored (a : Analysis) (h : Host) : Except AnalysisError RunOutcome × Analysis × Host :=
  let (result, a, s) := a.runBeside ⟨h, some (.start a.settings a.outputRoot h)⟩ none
  (result, a, s.finish)

/-- Starts two runs at once.  The second one comes while the first waits for the set-up, unless that
did not even start. -/
def runTwice (a : Analysis) (h : Host) :
    Except AnalysisError RunOutcome × Except AnalysisError RunOutcome × Analysis × Host :=
  let (first, after, h') := a.run h none
  if (h.capture? a.outputRoot (a.settings.phaseCommand "setupall")).isNone then
    let (second, after, h') := after.run h' none
    (first, second, after, h')
  else
    let (second, _, _) := { a with state := RunState.running }.run h none
    (first, second, after, h')

/-- Cleans and gives the exit code.  A run in flight stays in flight. -/
def clean (a : Analysis) (h : Host) : Except AnalysisError (Int × Analysis × Host) :=
  match a.phase? ⟨h, none⟩ "cleanall" with
  | none => .error (.notStarted a.settings.makeProgram)
  | some (code, s) => .ok (code, { a with state := a.state.clean }, s.host)

/-! ### Looking -/

/-- Asks for both ratios, after a number of earlier polls. -/
def poll (a : Analysis) (h : Host) (earlier : Nat) : ProgressSnapshot × Host :=
  let ((target, intermediate), h) := h.poll a.settings a.outputRoot
  (⟨target, intermediate, earlier + 1⟩, h)

/-- The text of a log, or a note that it cannot be read. -/
def log (a : Analysis) (h : Host) (name : String) : String :=
  let path := Path.join a.outputRoot name
  (h.readText? path).getD ("Unable to read " ++ path)

/-- What the last main build printed. -/
def outputLog (a : Analysis) (h : Host) : String := a.log h Layout.outputLog

/-- What the last main build printed to its errors. -/
def errorLog (a : Analysis) (h : Host) : String := a.log h Layout.errorLog

/-- The path of what the last main build printed to its errors. -/
def errorLogPath (a : Analysis) : String := Path.join a.outputRoot Layout.errorLog

/-- Whether the last main build printed no errors, or there was none. -/
def hasNoErrors (a : Analysis) (h : Host) : Bool := (h.sizeOf? a.errorLogPath).getD 0 == 0

end Analysis

end Flowscript
