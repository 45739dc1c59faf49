import Flowscript.Analysis.Basic
import Flowscript.Analysis.Markers
import Flowscript.CommandLine.Invocation

/-!
# Following an invocation

* `CommandError` is why a command is given up.
* `Report` is what a command prints and how it exits.
* `Invocation.execute` follows an invocation.
* `compiledScript` and `writtenAnalysis` are the two ways to compile: one shows the script, the
  other writes it.
-/

set_option autoImplicit false

namespace Flowscript.CommandLine

/-- Why a command is given up. -/
inductive CommandError where
  | analysis (error : AnalysisError)
  /-- A descriptor is not where it should be. -/
  | noOutputRoot (path : String) (error : AnalysisError)
  /-- No command is given to hand the work to. -/
  | blankDelegate
  /-- A length of time is negative, or not finite, or too long. -/
  | badSeconds (option : String)
  deriving DecidableEq, Repr

/-- The wording of an error. -/
def CommandError.message : CommandError → String
  | .analysis error => error.message
  | .noOutputRoot path error => path ++ " is not an analysis output root: " ++ error.message
  | .blankDelegate => "--delegate needs a command"
  | .badSeconds option => "--" ++ option ++ " must be a non-negative number"

/-- What a command prints and how it exits. -/
structure Report where
  code : Nat
  output : String
  error : Option CommandError
  deriving DecidableEq, Repr

namespace Report

/-- A command that is done; the code says whether all is well. -/
def done (well : Bool) (output : String) : Report := ⟨if well then 0 else 1, output, none⟩

/-- A command that is given up after it printed something. -/
def givenUp (output : String) (error : CommandError) : Report := ⟨1, output, some error⟩

end Report

/-- The report of a command that may be given up before it prints anything. -/
def Report.ofResult : Except CommandError Report → Report
  | .ok report => report
  | .error e => .givenUp "" e

/-- A line of output. -/
def line (text : String) : String := text ++ "\n"

/-! ## Settings -/

/-- The length of time that an option gives. -/
def durationOf (option : String) (seconds : Seconds) : Except CommandError Duration :=
  match seconds.bind Duration.ofSeconds? with
  | some duration => .ok duration
  | none => .error (.badSeconds option)

/-- The length of time that an option gives, or another one if it is not given. -/
def durationOr (option : String) (seconds : Option Seconds) (other : Duration) :
    Except CommandError Duration :=
  match seconds with
  | some seconds => durationOf option seconds
  | none => .ok other

/-- The words of a command to which work is handed. -/
def delegateOf (words : String) : Except CommandError Parallelism :=
  match (Text.words words.toList).map String.ofList with
  | [] => .error .blankDelegate
  | program :: arguments => .ok (.delegated program arguments)

/-- How work is spread, where `other` is how it is spread if nothing is given. -/
def parallelismOr (s : SettingArguments) (other : Parallelism) : Except CommandError Parallelism :=
  match s.delegate with
  | some words => delegateOf words
  | none => .ok ((s.parallel.map .jobs).getD other)

/-- The settings in a file, if one is given, and what is given in their place. -/
def SettingArguments.settings (s : SettingArguments) (h : Host) :
    Except CommandError RunSettings := do
  let base ← match s.configuration with
    | some path => (RunSettings.load h path).mapError .analysis
    | none => .ok .standard
  let parallelism ← parallelismOr s base.parallelism
  let pollInterval ← durationOr "poll-interval" s.pollInterval base.pollInterval
  let pollTimeout ← durationOr "poll-timeout" s.pollTimeout base.pollTimeout
  let runTimeout ← match s.runTimeout with
    | some seconds => (durationOf "run-timeout" seconds).map some
    | none => .ok base.runTimeout
  .ok
    { makeProgram := s.make.getD base.makeProgram
      parallelism := parallelism
      keepGoing := s.keepGoing || base.keepGoing
      pollTimeout := pollTimeout
      pollInterval := pollInterval
      runTimeout := runTimeout }

/-- The options of a script. -/
def scriptOptions (shell : Option String) (keepGoing : Bool) : ScriptOptions :=
  ⟨keepGoing, shell.getD ScriptOptions.standard.shell⟩

/-! ## Commands -/

/-- Compares the columns of pipeline and table. -/
def check (i : InputArguments) (h : Host) : Except CommandError Report := do
  let inputs ← (i.descriptor.loadInputs h).mapError .analysis
  let report := BindingReport.check inputs.pipeline inputs.table
  let missing := report.missing.map fun column => line ("missing " ++ column)
  let unused := report.unused.map fun column => line ("unused " ++ column)
  let counts := if report.isOk then
      [line ("ok " ++ toString inputs.table.rows.length ++ " rows, "
        ++ toString inputs.pipeline.blocks.length ++ " blocks")]
    else []
  .ok (.done report.isOk (String.join (missing ++ unused ++ counts)))

/-- The script of an analysis that is not written. -/
def compiledScript (d : AnalysisDescriptor) (h : Host) (outputRoot : String)
    (options : ScriptOptions) : Except AnalysisError BuildScript := do
  let inputs ← d.loadInputs h
  (Flowscript.compile options inputs.pipeline inputs.table h.workingPath outputRoot).mapError
    .script

/-- The analysis whose script and descriptor are written. -/
def writtenAnalysis (d : AnalysisDescriptor) (h : Host) (outputRoot : String)
    (options : ScriptOptions) : Except AnalysisError Analysis × Host :=
  Analysis.ofDescriptor d h outputRoot options
    { RunSettings.standard with keepGoing := options.keepGoing }

/-- Shows the build script, or writes it. -/
def compile (i : InputArguments) (output : Option String) (printed : Bool)
    (options : ScriptOptions) (h : Host) : Report × Host :=
  let descriptor := i.descriptor
  let outputRoot := output.getD descriptor.defaultOutputRoot
  if printed then
    match compiledScript descriptor h outputRoot options with
    | .error e => (.givenUp "" (.analysis e), h)
    | .ok script => (.done true script.text, h)
  else
    match writtenAnalysis descriptor h outputRoot options with
    | (.error e, h) => (.givenUp "" (.analysis e), h)
    | (.ok analysis, h) => (.done true (line analysis.outputRoot), h)

/-- What is shown for the failures of an output root. -/
def failureText (report : FailureReport) : String :=
  if report.entries.isEmpty then line "No failures recorded" else report.text

/-- The failures of an output root whose inputs a descriptor names. -/
def failureReport (d : AnalysisDescriptor) (h : Host) (outputRoot : String) :
    Except AnalysisError FailureReport := do
  let inputs ← d.loadInputs h
  FailureReport.ofOutputRoot inputs.pipeline inputs.table h outputRoot

/-- The words for the end of a run. -/
def outcomeText (o : RunOutcome) : String :=
  match o.exitCode with
  | some code => o.state.text ++ " (exit " ++ toString code ++ ")"
  | none => o.state.text

/-- What is shown after a run: how it ended, how far it came, and where its errors are. -/
def runText (showTime : Duration → String) (a : Analysis) (h : Host) (o : RunOutcome)
    (s : ProgressSnapshot) : String :=
  line (outcomeText o ++ " in " ++ showTime o.elapsed ++ ": targets " ++ s.target.text
      ++ ", intermediates " ++ s.intermediate.text)
    ++ (if a.hasNoErrors h then "" else line ("note: build wrote to " ++ a.errorLogPath))

/-- Runs an analysis with a monitor beside it and shows how it ended.  Failures are shown unless all went well. -/
def runAnalysis (showTime : Duration → String) (d : AnalysisDescriptor) (a : Analysis) (h : Host) :
    Report × Host :=
  match a.runMonitored h with
  | (.error e, _, h) => (.givenUp "" (.analysis e), h)
  | (.ok outcome, a, h) =>
    let (snapshot, h) := a.poll h 1
    let text := runText showTime a h outcome snapshot
    if outcome.colour snapshot.isComplete == .green then (.done true text, h)
    else
      match failureReport d h a.outputRoot with
      | .error e => (.givenUp text (.analysis e), h)
      | .ok report => (.done false (text ++ failureText report), h)

/-- Writes the build script and runs it. -/
def run (showTime : Duration → String) (i : InputArguments) (output shell : Option String)
    (s : SettingArguments) (h : Host) : Report × Host :=
  let descriptor := i.descriptor
  match s.settings h with
  | .error e => (.givenUp "" e, h)
  | .ok settings =>
    match Analysis.ofDescriptor descriptor h (output.getD descriptor.defaultOutputRoot)
        (scriptOptions shell settings.keepGoing) settings with
    | (.error e, h) => (.givenUp "" (.analysis e), h)
    | (.ok analysis, h) => runAnalysis showTime descriptor analysis h

/-- Takes an output root, whose name is that in its descriptor if there is one. -/
def openAnalysis (output : String) (s : SettingArguments) (h : Host) :
    Except CommandError Analysis := do
  let name := match AnalysisDescriptor.load h output with
    | .ok d => d.analysis
    | .error _ => output
  let settings ← s.settings h
  (Analysis.ofOutputRoot name h output settings).mapError .analysis

/-- Shows the ratios of an output root. -/
def status (output : String) (s : SettingArguments) (h : Host) : Report × Host :=
  match openAnalysis output s h with
  | .error e => (.givenUp "" e, h)
  | .ok analysis =>
    let (snapshot, h) := analysis.poll h 0
    (.done true (line ("analysis      " ++ analysis.name)
      ++ line ("targets       " ++ snapshot.target.text)
      ++ line ("intermediates " ++ snapshot.intermediate.text)
      ++ line ("status        " ++ if snapshot.isComplete then "complete" else "incomplete")), h)

/-- Shows the failures of an output root. -/
def failures (output : String) (h : Host) : Except CommandError Report := do
  let descriptor ← (AnalysisDescriptor.load h output).mapError (.noOutputRoot output)
  let report ← (failureReport descriptor h output).mapError .analysis
  .ok (.done report.entries.isEmpty (failureText report))

/-- Cleans an output root. -/
def clean (output : String) (s : SettingArguments) (h : Host) : Report × Host :=
  match openAnalysis output s h with
  | .error e => (.givenUp "" e, h)
  | .ok analysis =>
    match analysis.clean h with
    | .error e => (.givenUp "" (.analysis e), h)
    | .ok (code, analysis, h) =>
      let isClean := code = 0
      (.done isClean (if isClean then line ("Cleaned " ++ analysis.outputRoot) else ""), h)

/-- A text with spaces after it, up to a width. -/
def inColumn (width : Nat) (text : String) : String :=
  text ++ String.ofList (List.replicate (width - text.length) ' ')

/-- The line of a format. -/
def formatLine (f : Format) : String :=
  let suffix := if f.suffix.isEmpty then "-" else f.suffix
  line (inColumn 16 f.name ++ " " ++ inColumn 8 suffix ++ " extends " ++ f.parent.getD "-")

/-- Lists the formats of a toolbox. -/
def formats (toolbox : String) (h : Host) : Except CommandError Report := do
  let t ← (Toolbox.load h toolbox).mapError fun e => .analysis (.toolbox e)
  .ok (.done true (String.join (t.formats.formats.map formatLine)))

/-- Lists the modules of a toolbox, after its description. -/
def modules (toolbox : String) (h : Host) : Except CommandError Report := do
  let t ← (Toolbox.load h toolbox).mapError fun e => .analysis (.toolbox e)
  let about := match t.about with
    | some text => line (line (Text.trim text))
    | none => ""
  .ok (.done true (about ++ String.join (t.modules.map fun m => line m.summary)))

/-- Follows an invocation. -/
def Invocation.execute (showTime : Duration → String) (i : Invocation) (h : Host) :
    Report × Host :=
  match i with
  | .check inputs => (.ofResult (CommandLine.check inputs h), h)
  | .compile inputs output printed keepGoing shell =>
    CommandLine.compile inputs output printed (scriptOptions shell keepGoing) h
  | .run inputs output shell settings => CommandLine.run showTime inputs output shell settings h
  | .status output settings => CommandLine.status output settings h
  | .failures output => (.ofResult (CommandLine.failures output h), h)
  | .clean output settings => CommandLine.clean output settings h
  | .formats toolbox => (.ofResult (CommandLine.formats toolbox h), h)
  | .modules toolbox => (.ofResult (CommandLine.modules toolbox h), h)

/-- Reads a command line and follows it.  One that cannot be read exits with the code two, and
asking for help with zero. -/
def execute (showTime : Duration → String) (tokens : List String) (h : Host) : Report × Host :=
  match Invocation.read tokens with
  | .ok i => i.execute showTime h
  | .error .wrong => (⟨2, "", none⟩, h)
  | .error .helpWanted => (⟨0, "", none⟩, h)

end Flowscript.CommandLine
