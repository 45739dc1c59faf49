import Flowscript.Programs.Calendar.Reading
import Flowscript.Programs.Tool.Names

/-!
# Programs about time

* `hereZone` is the zone that variables say, and `readTime` reads a time there.
* `dateTool` prints the time.
-/

set_option autoImplicit false

namespace Flowscript.Tool

/-- The zone that variables say. -/
def hereZone : ToolRun Zone := do
  match ← binding? "TZ" with
  | none | some [] => return Zone.universal
  | some o => return Zone.read o

/-- The moment at a number of nanoseconds from the start of 1970 on, by the clocks here. -/
def momentOf (time : Nat) : ToolRun Moment := do return Moment.ofTime (← hereZone) time

/-- The time that a text means, if it means one. -/
def readTime? (o : Octets) : ToolRun (Option (Int × Nat)) := do
  return TimeText.read? (← hereZone) (← look (·.now)) o

/-- The nanoseconds from the start of 1970 on, or none for times before that. -/
def timeOf (second : Int) (nanosecond : Nat) : Nat :=
  if second < 0 then 0 else second.toNat * 1000000000 + nanosecond

/-- The last second for which there is a year. -/
def lastSecond : Int := 67767976233532799

/-- Prints a moment, if there is a year for it. -/
def printMoment (zone : Zone) (format : Octets) (second : Int) (nanosecond : Nat) :
    ToolRun Bool := do
  if second < -lastSecond || lastSecond < second then
    complain (octets ("time '" ++ toString second ++ "' is out of range"))
    return false
  printLine ((Moment.ofEpoch zone second nanosecond).format format)
  return true

/-- The format that options say, if they say one. -/
def dateFormat (given : List GivenOption) : ToolRun (Option Octets) := do
  let mut chosen : Option Octets := none
  for (option, o) in given do
    let format ← match option with
      | "iso-8601" => do
        let word ← if o.isEmpty then pure "date"
          else chooseWord "--iso-8601" [["hours"], ["minutes"], ["date"], ["seconds"], ["ns"]] o
        pure (some (match word with
          | "hours" => "%Y-%m-%dT%H%:z"
          | "minutes" => "%Y-%m-%dT%H:%M%:z"
          | "seconds" => "%Y-%m-%dT%H:%M:%S%:z"
          | "ns" => "%Y-%m-%dT%H:%M:%S,%N%:z"
          | _ => "%Y-%m-%d"))
      | "rfc-3339" => do
        let word ← chooseWord "--rfc-3339" [["date"], ["seconds"], ["ns"]] o
        pure (some (match word with
          | "seconds" => "%Y-%m-%d %H:%M:%S%:z"
          | "ns" => "%Y-%m-%d %H:%M:%S.%N%:z"
          | _ => "%Y-%m-%d"))
      | "rfc-email" => pure (some "%a, %d %b %Y %H:%M:%S %z")
      | "resolution" => pure (if chosen.isNone then some "%s.%N" else none)
      | _ => pure none
    match format with
    | none => pure ()
    | some format =>
      if chosen.isSome then giveUp 1 (octets "multiple output formats specified")
      chosen := some (octets format)
  return chosen

/-- Prints the time, or another one. -/
def dateTool : Procedure := fun _ arguments => do
  let long (name : String) : OptionSpec := .setting OptionSpec.noLetter name
  let (given, operands) ← options
    [.setting 'd' "date", .flag OptionSpec.noLetter "debug", .setting 'f' "file",
      ⟨'I', "iso-8601", .optional⟩, .setting 'r' "reference", .flag 'R' "rfc-email",
      .flag OptionSpec.noLetter "rfc-822", .flag OptionSpec.noLetter "rfc-2822",
      long "rfc-3339", .flag OptionSpec.noLetter "resolution", .setting 's' "set", .flag 'u' "utc",
      .flag OptionSpec.noLetter "uct", .flag OptionSpec.noLetter "universal"] 1 arguments
  let given := given.map fun (name, o) =>
    if name == "rfc-822" || name == "rfc-2822" then ("rfc-email", o)
    else if name == "uct" || name == "universal" then ("utc", o)
    else (name, o)
  let chosen ← dateFormat given
  let isSaid (name : String) : Nat := if has given name then 1 else 0
  let ways := isSaid "date" + isSaid "file" + isSaid "reference" + isSaid "resolution"
  if 1 < ways then
    giveUpUsage 1
      (octets "the options to specify dates for printing are mutually exclusive")
  if has given "set" && ways != 0 then
    giveUpUsage 1
      (octets "the options to print and set the time may not be used together")
  refuseExtra 1 1 operands
  let (format, stamp) ← match operands with
    | ('+' :: format) :: _ =>
      if chosen.isSome then giveUp 1 (octets "multiple output formats specified")
      pure (some format, none)
    | word :: _ =>
      if has given "set" || ways != 0 then
        giveUpUsage 1 (octets "the argument " ++ quote word ++ octets (" lacks a leading '+';\n"
          ++ "when using an option to specify date(s), any non-option\n"
          ++ "argument must be a format string beginning with '+'"))
      pure (chosen, some word)
    | [] => pure (chosen, none)
  let format := format.getD (octets "%a %b %e %H:%M:%S %Z %Y")
  let zone ← if has given "utc" then pure Zone.universal else hereZone
  let now ← look (·.now)
  let invalid {α : Type} (o : Octets) : ToolRun α := giveUp 1 (octets "invalid date " ++ quote o)
  match valueOf? given "file" with
  | some path =>
    let source ← match ← readInput path with
      | .ok bytes => pure (Octets.ofBytes bytes)
      | .error fault => giveUp 1 (quoteName path ++ octets (": " ++ fault.message))
    for line in (Octets.lines source).1 do
      match TimeText.read? zone now line with
      | some (second, nanosecond) =>
        if !(← printMoment zone format second nanosecond) then noteFailure 1
      | none =>
        complain (octets "invalid date " ++ quote line)
        noteFailure 1
    return ← notedStatus
  | none => pure ()
  let (second, nanosecond) ← match valueOf? given "date", valueOf? given "set", stamp with
    | some o, _, _ | none, some o, _ =>
      match TimeText.read? zone now o with
      | some found => pure found
      | none => invalid o
    | none, none, some o =>
      match TimeText.stamp? zone now true o with
      | some second => pure (second, 0)
      | none => invalid o
    | none, none, none =>
      match valueOf? given "reference" with
      | some path =>
        match ← find path true with
        | .ok n =>
          let time ← look (·.tree.modifiedAt n)
          pure (((time / 1000000000 : Nat) : Int), time % 1000000000)
        | .error fault => giveUp 1 (quoteName path ++ octets (": " ++ fault.message))
      | none =>
        if has given "resolution" then pure (0, 1)
        else pure (((now / 1000000000 : Nat) : Int), now % 1000000000)
  if has given "set" || stamp.isSome then
    complain (octets ("cannot set date: " ++ Fault.notPermitted.message))
    noteFailure 1
  if !(← printMoment zone format second nanosecond) then noteFailure 1
  notedStatus

end Flowscript.Tool
