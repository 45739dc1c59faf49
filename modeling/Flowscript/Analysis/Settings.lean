import Flowscript.Binary64.Basic
import Flowscript.Command
import Flowscript.Json.Value
import Flowscript.Json.Reader
import Flowscript.Json.Writer
import Flowscript.Script.Layout

/-!
# Lengths of time and settings of a run

How long things take, and the settings that say how long they may.

* `Duration` is a whole number of nanoseconds.
* `Duration.ofSeconds?` takes the nearest one to a number of seconds.
* `Duration.seconds` is the number of seconds.
* `Duration.text` shows a length in the largest unit that it holds.
* `RunSettings` says which program builds, how it spreads its work, and how long things may take.
* `RunSettings.mainCommand` and `RunSettings.phaseCommand` are the commands of a run.
* `RunSettings.read?` and `RunSettings.toJson` go from and to text.
-/

set_option autoImplicit false

namespace Flowscript

open Json

/-! ## Lengths of time -/

/-- A length of time in nanoseconds. -/
structure Duration where
  nanoseconds : Nat
  deriving DecidableEq, Repr

namespace Duration

/-- The nanoseconds of a second. -/
def perSecond : Nat := 10 ^ 9

/-- Whole seconds. -/
def ofWholeSeconds (n : Nat) : Duration := ⟨n * perSecond⟩

/-- Whole milliseconds. -/
def ofMilliseconds (n : Nat) : Duration := ⟨n * 10 ^ 6⟩

/-- The length nearest to a number of seconds, the even one of two.  There is none below zero and
none from `2 ^ 64` seconds on. -/
def ofSeconds? (x : Binary64) : Option Duration :=
  let (n, d) := x.ratio
  if (x.negative && !x.isZero) || 2 ^ 64 * d ≤ n then none
  else some ⟨Binary64.roundDiv (n * perSecond) d⟩

/-- The number of seconds: the whole ones and the share of the last one, each rounded, and their
sum rounded again. -/
def seconds (t : Duration) : Binary64 :=
  let whole := (Binary64.nearest? false (t.nanoseconds / perSecond) 1).getD default
  let rest := (Binary64.nearest? false (t.nanoseconds % perSecond) perSecond).getD default
  (Binary64.add? whole rest).getD default

/-- A number of parts of a unit with one place after the point. -/
def tenths (parts unit : Nat) : String :=
  let n := (10 * parts + unit / 2) / unit
  toString (n / 10) ++ "." ++ toString (n % 10)

/-- The length in seconds, or in a thousandth, a millionth or a billionth of one, so that it is not
below one unit. -/
def text (t : Duration) : String :=
  let n := t.nanoseconds
  if 10 ^ 9 ≤ n then tenths n (10 ^ 9) ++ "s"
  else if 10 ^ 6 ≤ n then tenths n (10 ^ 6) ++ "ms"
  else if 10 ^ 3 ≤ n then tenths n (10 ^ 3) ++ "µs"
  else tenths n 1 ++ "ns"

end Duration

/-! ## Settings of a run -/

/-- How the main build spreads its work: one recipe at a time, several at once, or by handing its
command to another program. -/
inductive Parallelism where
  | serial
  | jobs (count : Nat)
  | delegated (program : String) (arguments : List String)
  deriving DecidableEq, Repr

/-- Settings of a run: the program that builds, how it spreads its work, whether it goes on after a
failed recipe, how long a query may take and how long to wait between two, and how long the main
build may take. -/
structure RunSettings where
  makeProgram : String
  parallelism : Parallelism
  keepGoing : Bool
  pollTimeout : Duration
  pollInterval : Duration
  runTimeout : Option Duration
  deriving DecidableEq, Repr

namespace Parallelism

/-- Takes the spread of work out of its value: the name of one, or an object whose one member has
that name. -/
def ofValue? : Value → Option Parallelism
  | .text (some "serial") => some .serial
  | .object [(some "serial", .null)] => some .serial
  | .object [(some "jobs", v)] => v.natural?.map .jobs
  | .object [(some "delegated", v)] => do
    let fields ← v.record? ["program", "args"]
    let program ← fields.required? "program" Value.string?
    let arguments ← fields.required? "args" (Value.list? Value.string?)
    some (.delegated program arguments)
  | _ => none

/-- The spread of work as a value. -/
def value : Parallelism → Value
  | .serial => .ofString "serial"
  | .jobs count => .ofMembers [("jobs", .ofNat count)]
  | .delegated program arguments =>
    .ofMembers [("delegated", .ofMembers [("program", .ofString program),
      ("args", .array (arguments.map .ofString))])]

end Parallelism

namespace RunSettings

/-- `make` does one recipe at a time and stops at the first failure; a query may take ten seconds,
there are five between two, and the main build may take as long as it likes. -/
def standard : RunSettings :=
  ⟨"make", .serial, false, .ofWholeSeconds 10, .ofWholeSeconds 5, none⟩

/-- The number of jobs of a parallel run that names none. -/
def defaultJobs : Nat := 8

/-- The arguments of the main build for the program that builds. -/
def mainArguments (s : RunSettings) : List String :=
  (match s.parallelism with
    | .jobs count => ["-j", toString (max count 1)]
    | _ => [])
    ++ (if s.keepGoing then ["-k"] else [])
    ++ ["-f", Layout.scriptFile, "all"]

/-- The command of the main build. -/
def mainCommand (s : RunSettings) : Command :=
  match s.parallelism with
  | .delegated program arguments => ⟨program, arguments ++ s.mainArguments⟩
  | _ => ⟨s.makeProgram, s.mainArguments⟩

/-- The command of another target, which is never handed on. -/
def phaseCommand (s : RunSettings) (target : String) : Command :=
  ⟨s.makeProgram, ["-s", "-f", Layout.scriptFile, target]⟩

/-- Takes a length of time out of its value. -/
def duration? (v : Value) : Option Duration := do Duration.ofSeconds? (← v.binary64?)

/-- Takes settings out of their value; those not given are standard. -/
def ofValue? (v : Value) : Option RunSettings := do
  let fields ← v.record?
    ["make_program", "parallelism", "keep_going", "poll_timeout", "poll_interval", "run_timeout"]
  let makeProgram ← fields.withDefault? "make_program" standard.makeProgram Value.string?
  let parallelism ← fields.withDefault? "parallelism" standard.parallelism Parallelism.ofValue?
  let keepGoing ← fields.withDefault? "keep_going" standard.keepGoing Value.bool?
  let pollTimeout ← fields.withDefault? "poll_timeout" standard.pollTimeout duration?
  let pollInterval ← fields.withDefault? "poll_interval" standard.pollInterval duration?
  let runTimeout ←
    fields.withDefault? "run_timeout" standard.runTimeout (Value.nullable? duration?)
  some ⟨makeProgram, parallelism, keepGoing, pollTimeout, pollInterval, runTimeout⟩

/-- Reads settings. -/
def read? (text : String) : Option RunSettings := (Json.read? text).bind ofValue?

/-- The settings as a value. -/
def value (s : RunSettings) : Value :=
  let duration (t : Duration) : Value := .ofBinary64 t.seconds
  .ofMembers [("make_program", .ofString s.makeProgram), ("parallelism", s.parallelism.value),
    ("keep_going", .bool s.keepGoing), ("poll_timeout", duration s.pollTimeout),
    ("poll_interval", duration s.pollInterval),
    ("run_timeout", (s.runTimeout.map duration).getD .null)]

/-- The settings as text on one line. -/
def toJson (s : RunSettings) : String := s.value.compact

end RunSettings

end Flowscript
