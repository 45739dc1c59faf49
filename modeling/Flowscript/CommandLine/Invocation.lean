import Flowscript.Analysis.Inputs
import Flowscript.Binary64.Reading
import Flowscript.Text.Basic

/-!
# The command line

Words are sorted into options and operands first, and then into an invocation.

* `OptionSpec` is an option that a command knows.
* `readTokens` sorts the tokens of a command line into options and operands.
* `Invocation` is what a command line asks for: one of eight commands with its arguments.
* `Invocation.read` reads a command line.
-/

set_option autoImplicit false

namespace Flowscript.CommandLine

/-! ## The tokens of a command line

An option is written with two hyphens and its name, or one hyphen and its letter.  Its value is in
the same token, after `=` or right after the letter, or is the next token, which then does not start
with a hyphen unless it is just one.  After `--` all tokens are operands. -/

/-- What an option takes: nothing, a text, a path, a number of jobs that may be left out, or a
number of seconds. -/
inductive OptionKind where
  | flag
  | text
  | path
  | jobs
  | seconds
  deriving DecidableEq, Repr

/-- An option: its name, its letter if it has one, and what it takes. -/
structure OptionSpec where
  name : String
  letter : Option Char
  kind : OptionKind
  deriving DecidableEq, Repr

/-- Why the arguments of a command line are not followed. -/
inductive ArgumentFault where
  | wrong
  | helpWanted
  deriving DecidableEq, Repr

/-- The number of jobs of an option that names none. -/
def defaultJobs : String := "8"

namespace OptionKind

/-- Whether an option takes a value. -/
def takesValue (k : OptionKind) : Bool := k != .flag

/-- Whether a text can be the value of an option. -/
def accepts (k : OptionKind) (value : String) : Bool :=
  match k with
  | .flag => false
  | .text => true
  | .path => value != ""
  | .jobs => match Text.readWord64 value with
    | .ok _ => true
    | .error _ => false
  | .seconds => (Binary64.read? value.toList).isSome

/-- The value of an option that is given without one, if that is allowed. -/
def valueLeftOut? (k : OptionKind) : Option String :=
  match k with
  | .jobs => some defaultJobs
  | _ => none

end OptionKind

/-- The options and operands of a command line, in their order. -/
structure Arguments where
  options : List (String × String)
  operands : List String
  deriving DecidableEq, Repr

namespace Arguments

/-- Nothing at all. -/
def empty : Arguments := ⟨[], []⟩

/-- The value of an option. -/
def value? (a : Arguments) (name : String) : Option String := a.options.lookup name

/-- Whether an option is given. -/
def has (a : Arguments) (name : String) : Bool := (a.value? name).isSome

/-- Adds an option, which may be given once. -/
def addOption (a : Arguments) (name value : String) : Except ArgumentFault Arguments :=
  if a.has name then .error .wrong else .ok { a with options := a.options ++ [(name, value)] }

/-- Adds an option whose value has to be one that it accepts. -/
def addValue (a : Arguments) (spec : OptionSpec) (value : String) :
    Except ArgumentFault Arguments :=
  if spec.kind.accepts value then a.addOption spec.name value else .error .wrong

/-- Adds an operand, which is a path, if there may be one more. -/
def addOperand (a : Arguments) (most : Nat) (operand : String) : Except ArgumentFault Arguments :=
  if operand == "" || most ≤ a.operands.length then .error .wrong
  else .ok { a with operands := a.operands ++ [operand] }

/-- Adds the option that still waits for its value and gets none: it is given without one, if it may
be. -/
def settle (a : Arguments) : Option OptionSpec → Except ArgumentFault Arguments
  | none => .ok a
  | some spec =>
    match spec.kind.valueLeftOut? with
    | some given => a.addOption spec.name given
    | none => .error .wrong

end Arguments

/-- Whether a token is no option, and so can be an operand or a value. -/
def isOperand (token : String) : Bool :=
  match token.toList with
  | '-' :: _ :: _ => false
  | _ => true

/-- Adds the option with a name, given the value in its token; without one it may wait for it. -/
def addNamed (specs : List OptionSpec) (a : Arguments) (name : String) (value : Option String) :
    Except ArgumentFault (Arguments × Option OptionSpec) :=
  match specs.find? (·.name == name), value with
  | none, none => .error (if name == "help" then .helpWanted else .wrong)
  | none, some _ => .error .wrong
  | some spec, none =>
    if spec.kind.takesValue then .ok (a, some spec)
    else do return (← a.addOption name "", none)
  | some spec, some value => do return (← a.addValue spec value, none)

/-- Adds the options that letters stand for; the last one may wait for its value. -/
def addLetters (specs : List OptionSpec) (a : Arguments) :
    List Char → Except ArgumentFault (Arguments × Option OptionSpec)
  | [] => .ok (a, none)
  | c :: r =>
    match specs.find? (·.letter == some c) with
    | none => .error (if c == 'h' then .helpWanted else .wrong)
    | some spec =>
      if !spec.kind.takesValue then do addLetters specs (← a.addOption spec.name "") r
      else
        match r with
        | [] => .ok (a, some spec)
        | '=' :: r => do return (← a.addValue spec (String.ofList r), none)
        | _ => do return (← a.addValue spec (String.ofList r), none)

/-- Adds the options of a token that is no operand. -/
def addToken (specs : List OptionSpec) (a : Arguments) (token : String) :
    Except ArgumentFault (Arguments × Option OptionSpec) :=
  match token.toList with
  | '-' :: '-' :: r =>
    let name := String.ofList (r.takeWhile (· != '='))
    match r.dropWhile (· != '=') with
    | [] => addNamed specs a name none
    | _ :: value => addNamed specs a name (some (String.ofList value))
  | '-' :: r => addLetters specs a r
  | _ => .error .wrong

/-- Sorts tokens into options and operands, of which there may be so many.  The option in front of
them may wait for its value.  What is wrong counts from left to right, and so does a wish for
help. -/
def readTokens (specs : List OptionSpec) (most : Nat) (a : Arguments)
    (waiting : Option OptionSpec) : List String → Except ArgumentFault Arguments
  | [] => a.settle waiting
  | token :: rest =>
    match if isOperand token then waiting else none with
    | some spec => do readTokens specs most (← a.addValue spec token) none rest
    | none => do
      let a ← a.settle waiting
      if token == "--" then rest.foldlM (·.addOperand most) a
      else if isOperand token then readTokens specs most (← a.addOperand most token) none rest
      else
        let (a, waiting) ← addToken specs a token
        readTokens specs most a waiting rest

/-! ## Invocations -/

/-- The inputs of an analysis, and its name unless that is the pipeline's. -/
structure InputArguments where
  toolbox : String
  pipeline : String
  table : String
  name : Option String
  deriving DecidableEq, Repr

/-- A number of seconds as it is given, which may be none that is finite. -/
abbrev Seconds := Option Binary64

/-- Settings of a run that are given instead of those in a file. -/
structure SettingArguments where
  configuration : Option String
  make : Option String
  parallel : Option Nat
  delegate : Option String
  keepGoing : Bool
  pollInterval : Option Seconds
  pollTimeout : Option Seconds
  runTimeout : Option Seconds
  deriving DecidableEq, Repr

/-- What a command line asks for. -/
inductive Invocation where
  /-- Compare the columns of pipeline and table. -/
  | check (inputs : InputArguments)
  /-- Write the build script, or show it. -/
  | compile (inputs : InputArguments) (output : Option String) (printed keepGoing : Bool)
      (shell : Option String)
  /-- Write the build script and run it. -/
  | run (inputs : InputArguments) (output shell : Option String) (settings : SettingArguments)
  /-- Show the ratios of an output root. -/
  | status (output : String) (settings : SettingArguments)
  /-- Show the failures of an output root. -/
  | failures (output : String)
  /-- Clean an output root. -/
  | clean (output : String) (settings : SettingArguments)
  /-- List the formats of a toolbox. -/
  | formats (toolbox : String)
  /-- List the modules of a toolbox. -/
  | modules (toolbox : String)
  deriving DecidableEq, Repr

/-- The name of an analysis: the given one, or that of the pipeline's file. -/
def InputArguments.descriptor (i : InputArguments) : AnalysisDescriptor :=
  ⟨i.toolbox, i.name.getD ((Path.fileStem? i.pipeline).getD "analysis"), i.pipeline, i.table⟩

/-! ### Options -/

/-- The option that every command has, also in front of its name. -/
def commonOptions : List OptionSpec := [⟨"log-level", none, .text⟩]

/-- The options for the inputs of an analysis. -/
def inputOptions : List OptionSpec :=
  [⟨"toolbox", some 't', .path⟩, ⟨"pipeline", some 'p', .path⟩, ⟨"table", none, .path⟩,
    ⟨"name", some 'n', .text⟩]

/-- The option that lets a build go on after a failure. -/
def keepGoingOption : OptionSpec := ⟨"keep-going", some 'k', .flag⟩

/-- The options for what is written. -/
def outputOptions : List OptionSpec := [⟨"output", some 'o', .path⟩, ⟨"shell", none, .text⟩]

/-- The options for settings. -/
def settingOptions : List OptionSpec :=
  [⟨"config", none, .path⟩, ⟨"make", none, .text⟩, ⟨"parallel", none, .jobs⟩,
    ⟨"delegate", none, .text⟩, keepGoingOption, ⟨"poll-interval", none, .seconds⟩,
    ⟨"poll-timeout", none, .seconds⟩, ⟨"run-timeout", none, .seconds⟩]

/-- The names of the commands. -/
def commandNames : List String :=
  ["check", "compile", "run", "status", "failures", "clean", "formats", "modules"]

/-- The options of a command. -/
def optionsOf (command : String) : List OptionSpec :=
  commonOptions ++ match command with
    | "check" => inputOptions
    | "compile" => inputOptions ++ outputOptions ++ [⟨"stdout", none, .flag⟩, keepGoingOption]
    | "run" => inputOptions ++ outputOptions ++ settingOptions
    | "status" | "clean" => settingOptions
    | _ => []

/-- How many operands a command has. -/
def operandCount (command : String) : Nat :=
  if command == "check" || command == "compile" || command == "run" then 0 else 1

/-! ### Reading -/

namespace Arguments

/-- The inputs of an analysis, if all that have to be there are. -/
def inputs? (a : Arguments) : Option InputArguments := do
  some ⟨← a.value? "toolbox", ← a.value? "pipeline", ← a.value? "table", a.value? "name"⟩

/-- The number of seconds that an option gives. -/
def seconds? (a : Arguments) (name : String) : Option Seconds :=
  (a.value? name).bind fun value => Binary64.read? value.toList

/-- The number of jobs that is given. -/
def jobs? (a : Arguments) : Option Nat := do
  match Text.readWord64 (← a.value? "parallel") with
  | .ok n => some n
  | .error _ => none

/-- The settings that are given.  Work is either spread here or handed on. -/
def settings? (a : Arguments) : Option SettingArguments :=
  if a.has "parallel" && a.has "delegate" then none
  else some
    { configuration := a.value? "config"
      make := a.value? "make"
      parallel := a.jobs?
      delegate := a.value? "delegate"
      keepGoing := a.has "keep-going"
      pollInterval := a.seconds? "poll-interval"
      pollTimeout := a.seconds? "poll-timeout"
      runTimeout := a.seconds? "run-timeout" }

/-- The one operand, which is a path. -/
def operand? (a : Arguments) : Option String := a.operands.head?

/-- The invocation that arguments make for a command. -/
def invocation? (a : Arguments) (command : String) : Option Invocation :=
  match command with
  | "check" => do some (.check (← a.inputs?))
  | "compile" => do
    some (.compile (← a.inputs?) (a.value? "output") (a.has "stdout") (a.has "keep-going")
      (a.value? "shell"))
  | "run" => do
    some (.run (← a.inputs?) (a.value? "output") (a.value? "shell") (← a.settings?))
  | "status" => do some (.status (← a.operand?) (← a.settings?))
  | "failures" => do some (.failures (← a.operand?))
  | "clean" => do some (.clean (← a.operand?) (← a.settings?))
  | "formats" => do some (.formats (← a.operand?))
  | "modules" => do some (.modules (← a.operand?))
  | _ => none

end Arguments

namespace Invocation

/-- Reads what follows the name of a command. -/
def readCommand (command : String) (tokens : List String) : Except ArgumentFault Invocation := do
  let a ← readTokens (optionsOf command) (operandCount command) .empty none tokens
  match a.invocation? command with
  | some invocation => .ok invocation
  | none => .error .wrong

/-- Why a request for help is not followed: it is wrong unless all it names is a command, which has
none below it. -/
def helpFault : List String → ArgumentFault
  | [] => .helpWanted
  | [topic] => if commandNames.contains topic || topic == "help" then .helpWanted else .wrong
  | _ => .wrong

/-- Reads a command line after some options.  In front of the command there may be the common
options, each once. -/
def readAfter (given : Arguments) (waiting : Option OptionSpec) :
    List String → Except ArgumentFault Invocation
  | [] => .error .wrong
  | token :: rest =>
    match if isOperand token then waiting else none with
    | some spec => do readAfter (← given.addValue spec token) none rest
    | none => do
      let given ← given.settle waiting
      if isOperand token then
        if commandNames.contains token then readCommand token rest
        else .error (if token == "help" then helpFault rest else .wrong)
      else
        let (given, waiting) ← addToken commonOptions given token
        readAfter given waiting rest

/-- Reads a command line. -/
def read (tokens : List String) : Except ArgumentFault Invocation := readAfter .empty none tokens

end Invocation

end Flowscript.CommandLine
