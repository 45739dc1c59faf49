import Flowscript.Programs.Tool.Names
import Flowscript.Programs.Tool.Record.Evaluation
import Flowscript.Programs.Tool.Record.Reading

/-!
# Working on records

* `Records.workOn` lets the rules of a script work on the records of its inputs.
* `recordTool` reads a script and its arguments, and does that.
-/

set_option autoImplicit false

namespace Flowscript.Tool

namespace Records

/-- How deep expressions and calls go at most. -/
def manyLevels : Nat := 1000000000

/-- Does what a rule says if it is about the record. -/
def applyRule (index : Nat) (rule : RecordRule) : RecordRun Unit := do
  let holds (e : RecordExpr) : RecordRun Bool := do return (← evaluate manyLevels e).holds
  let act : RecordRun Unit := execute manyLevels rule.action
  match rule.pattern with
  | .first | .last => return ()
  | .always => act
  | .when condition => if ← holds condition then act
  | .range start stop =>
    if !(← get).active.contains index then
      if !(← holds start) then return ()
      modify fun s => { s with active := index :: s.active }
    if ← holds stop then
      modify fun s => { s with active := s.active.filter (· != index) }
    act

/-- Applies the rules to the record. -/
def applyRules (rules : List RecordRule) : RecordRun Unit := do
  let all : RecordRun Unit := rules.zipIdx.forM fun (rule, i) => applyRule i rule
  tryCatch all fun leap => do
    match leap with
    | .nextRecord => return ()
    | .nextFile =>
      match (← get).main with
      | some i => act (closeInput i.descriptor)
      | none => pure ()
      modify fun s => { s with main := none }
    | leap => throw leap

/-- Applies the rules to all records that are left. -/
def overRecords (rules : List RecordRule) (fuel : Nat) : RecordRun Unit :=
  match fuel with
  | 0 => return ()
  | fuel + 1 => do
    match ← nextMain Run.patience with
    | none => return ()
    | some o =>
      setRecord o
      applyRules rules
      overRecords rules fuel

/-- Does something up to where it ends the script, and says whether it did not. -/
def untilExit (body : RecordRun Unit) : RecordRun Bool := do
  let whole : RecordRun Bool := do
    body
    return true
  tryCatch whole fun leap => do
    match leap with
    | .exit status =>
      modify fun s => { s with status := status.getD s.status, locals := [] }
      return false
    | .fail status => throw (.fail status)
    | _ => return true

/-- Lets the rules of a script work on the records. -/
def workOn (script : RecordScript) : RecordRun Nat := do
  let isFirst : RecordRule → Bool
    | ⟨.first, _⟩ => true
    | _ => false
  let isLast : RecordRule → Bool
    | ⟨.last, _⟩ => true
    | _ => false
  let doAll (rules : List RecordRule) : RecordRun Unit :=
    rules.forM fun rule => execute manyLevels rule.action
  let firsts := script.rules.filter isFirst
  let lasts := script.rules.filter isLast
  let others := script.rules.filter fun rule => !isFirst rule && !isLast rule
  let goesOn ← untilExit (doAll firsts)
  if goesOn && !(others.isEmpty && lasts.isEmpty) then
    let _ ← untilExit (overRecords others manyRounds)
  let _ ← untilExit (doAll lasts)
  closeAll
  return (← get).status

/-- What is known before anything has been done. -/
def initial (script : RecordScript) (starter : Invocation → Run Nat) : Records :=
  let text (o : String) : Holding := .value (.text o.toList)
  let number (n : Nat) : Holding := .value (.ofNat n)
  { script := script
    start := starter
    names := Std.HashMap.ofList <|
      [("FS", text " "), ("OFS", text " "), ("ORS", text "\n"), ("RS", text "\n"),
        ("SUBSEP", text "\x1c"), ("CONVFMT", text "%.6g"), ("OFMT", text "%.6g"), ("NR", number 0),
        ("FNR", number 0), ("RSTART", number 0), ("RLENGTH", .value (.number (-1.0))),
        ("FILENAME", text "")].map fun (name, h) => (name.toList, h)
    locals := []
    arrays := {}
    unused := 1
    record := []
    fields := none
    isStale := false
    patterns := {}
    inputs := []
    outputs := []
    main := none
    argument := 1
    hasOpened := false
    active := []
    seed := 0
    status := 0 }

/-- Sets the variables that tell of arguments and of the variables that the program got. -/
def tellArguments (arguments : List Octets) : RecordRun Unit := do
  setPlain "ARGC" (.ofNat (arguments.length + 1))
  let n ← arrayOf "ARGV".toList
  for (o, i) in ((← act get).name :: arguments).zipIdx do
    setElement n (Nat.toDigits 10 i) (.ofInput o)
  let m ← arrayOf "ENVIRON".toList
  for o in (← act get).environment do
    let name := o.takeWhile (· != '=')
    setElement m name (.ofInput (o.drop (name.length + 1)))

end Records

/-- The lines that say how the program is called. -/
def recordUsage : String :=
  "Usage: mawk [Options] [Program] [file ...]\n\nProgram:\n"
    ++ "    The -f option value is the name of a file containing program text.\n"
    ++ "    If no -f option is given, a \"--\" ends option processing; the following\n"
    ++ "    parameters are the program text.\n\nOptions:\n"
    ++ "    -f program-file  Program  text is read from file instead of from the\n"
    ++ "                     command-line.  Multiple -f options are accepted.\n"
    ++ "    -F value         sets the field separator, FS, to value.\n"
    ++ "    -v var=value     assigns value to program variable var.\n"
    ++ "    --               unambiguous end of options.\n\n"
    ++ "    Implementation-specific options are prefixed with \"-W\".  They can be\n"
    ++ "    abbreviated:\n\n"
    ++ "    -W version       show version information and exit.\n"
    ++ "    -W compat        pre-POSIX 2001.\n"
    ++ "    -W dump          show assembler-like listing of program and exit.\n"
    ++ "    -W help          show this message and exit.\n"
    ++ "    -W interactive   set unbuffered output, line-buffered input.\n"
    ++ "    -W exec file     use file as program as well as last option.\n"
    ++ "    -W posix         stricter POSIX checking.\n"
    ++ "    -W random=number set initial random seed.\n"
    ++ "    -W sprintf=number adjust size of sprintf buffer.\n"
    ++ "    -W usage         show this message and exit.\n"

/-- Lets a script work on the records of its inputs. -/
def recordTool : Procedure := fun start arguments => do
  modify fun s => { s with name := baseName s.name }
  let specs : List OptionSpec := [.setting 'F' "fs", .setting 'v' "assign", .setting 'f' "file"]
  match (arguments.takeWhile fun o => o.head? == some '-').find? fun o =>
    o.length > 1 && o != ['-', '-'] && !specs.any fun s => o[1]? == some s.letter with
  | some o => giveUp 2 ("not an option: ".toList ++ o)
  | none => pure ()
  let (given, operands) ← OptionSpec.parse specs 2 true (arguments.length + 1) arguments
  let mut texts : List Octets := []
  for (option, path) in given do
    if option == "file" then
      match ← readInput path with
      | .ok bytes => texts := texts ++ [Octets.ofBytes bytes]
      | .error fault =>
        giveUp 2 ("cannot open \"".toList ++ path ++ "\" (".toList ++ fault.message.toList
          ++ [')'])
  let (text, operands) ← match has given "file", operands with
    | true, _ => pure (Octets.join ['\n'] texts, operands)
    | false, text :: operands => pure (text, operands)
    | false, [] =>
      writeErrors recordUsage.toList
      throw 0
  match RecordScript.read text with
  | .error fault => giveUp 2 (fault.complaint (valueOf? given "file"))
  | .ok script =>
    let work : RecordRun Nat := do
      Records.tellArguments operands
      for (option, value) in given do
        if option == "fs" then
          Records.setPlain "FS" (.text (RecordToken.unescaped (value.length + 1) value))
        if option == "assign" then
          match Records.assignment? value with
          | some (name, o) => Records.assignText name o
          | none => Records.fault ("improper assignment: -v ".toList ++ value)
      Records.workOn script
    let (result, _) ← (work.run).run (Records.initial script start)
    match result with
    | .ok status => return status
    | .error (.fail status) => return status
    | .error _ => return 2

end Flowscript.Tool
