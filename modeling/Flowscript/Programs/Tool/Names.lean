import Flowscript.Programs.Tool.Basic

/-!
# Programs about the names of files

* `baseName` and `directoryName` take a path apart.
* `baseNameTool`, `directoryNameTool` and `workingTool` print names.
* `temporaryTool` makes a file with a name that nobody else uses.
-/

set_option autoImplicit false

namespace Flowscript.Tool

/-! ## Parts of paths -/

/-- A path without slashes at its end, but the root keeps one. -/
def withoutSlashes (o : Octets) : Octets :=
  match (o.reverse.dropWhile (· == '/')).reverse with
  | [] => o.take 1
  | kept => kept

/-- The last part of a path. -/
def baseName (o : Octets) : Octets :=
  let path := withoutSlashes o
  if path == ['/'] then path else (path.reverse.takeWhile (· != '/')).reverse

/-- A path without its last part. -/
def directoryName (o : Octets) : Octets :=
  let path := withoutSlashes o
  let before := (path.reverse.dropWhile (· != '/')).reverse
  if before.isEmpty then ['.'] else withoutSlashes before

/-- A name in a directory. -/
def inDirectory (directory name : Octets) : Octets :=
  if directory.getLast? == some '/' then directory ++ name else directory ++ '/' :: name

/-! ## Files -/

/-- The node that a path leads to. -/
def find (path : Octets) (follow : Bool) : ToolRun (Except Fault Nat) :=
  look (·.find (Octets.toText path) follow)

/-- What a node is. -/
def kindOf (n : Nat) : ToolRun (Option FileKind) := look (·.tree.kind? n)

/-- Whether a path leads to a directory. -/
def isDirectory (path : Octets) : ToolRun Bool := look fun k =>
  k.tree.isDirectory k.self.directory (Octets.toText path)

/-- Whether two paths lead to the same node. -/
def isSameNode (a b : Octets) (follow : Bool) : ToolRun Bool := do
  match ← find a follow, ← find b follow with
  | .ok m, .ok n => return m == n
  | _, _ => return false

/-- Changes the file tree, if that can be done. -/
def change (f : FileTree → Nat → Except Fault FileTree) : ToolRun (Except Fault Unit) :=
  liftM (Run.change f)

/-- Changes the file tree at the place that a path leads to. -/
def changeAt (path : Octets) (follow : Bool) (f : FileTree → Place → Except Fault FileTree) :
    ToolRun (Except Fault Unit) :=
  change fun t here => do f t (← t.locate here (Octets.toText path) follow)

/-- The names in a directory. -/
def namesIn (path : Octets) : ToolRun (List Octets) := look fun k =>
  ((k.tree.list? k.self.directory (Octets.toText path)).getD []).map Octets.ofText

/-- Complains that something could not be done with a path. -/
def complainOf (what : String) (path : Octets) (fault : Fault) : ToolRun Unit := do
  complain (octets (what ++ " ") ++ quotePath path ++ octets (": " ++ fault.message))
  noteFailure 1

/-- The permissions that a new file or directory gets. -/
def masked (mode : Nat) : ToolRun Nat := look fun k => mode &&& (0o777 ^^^ k.self.mask)

/-! ## Printing names -/

/-- A name without an ending, unless nothing is left without it. -/
def withoutEnding (ending name : Octets) : Octets :=
  if ending.isSuffixOf name && ending.length < name.length then
    name.take (name.length - ending.length)
  else name

/-- Prints the last parts of paths. -/
def baseNameTool : Procedure := fun _ arguments => do
  let (given, operands) ← OptionSpec.parse
    [.flag 'a' "multiple", .setting 's' "suffix", .flag 'z' "zero"] 1 true
    (arguments.length + 1) arguments
  needOperand 1 operands
  let mark := if has given "zero" then '\x00' else '\n'
  if has given "multiple" || has given "suffix" then
    let ending := (valueOf? given "suffix").getD []
    for path in operands do print (withoutEnding ending (baseName path) ++ [mark])
    return 0
  refuseExtra 1 2 operands
  print (withoutEnding ((operands[1]?).getD []) (baseName (operands.headD [])) ++ [mark])
  return 0

/-- Prints paths without their last parts. -/
def directoryNameTool : Procedure := fun _ arguments => do
  let (given, operands) ← OptionSpec.parse [.flag 'z' "zero"] 1 true
    (arguments.length + 1) arguments
  needOperand 1 operands
  for path in operands do
    print (directoryName path ++ [if has given "zero" then '\x00' else '\n'])
  return 0

/-- Prints the working directory. -/
def workingTool : Procedure := fun _ arguments => do
  let (_, _) ← options [.flag 'L' "logical", .flag 'P' "physical"] 1 arguments
  match ← look (·.workingPath?) with
  | some path =>
    printLine (octets path)
    return 0
  | none => giveUp 1 (octets "couldn't find directory entry in '..' with matching i-node")

/-! ## New names -/

/-- Letters that stand for a number. -/
def lettersOf (n count : Nat) : Octets :=
  let letters := "Qk3ZpW9bTnX5rLc7".toList
  (List.range count).map fun i => (letters[(n / 16 ^ i + 5 * i) % 16]?).getD 'Q'

/-- The first template with letters in it that nothing is named by. -/
def freeName (isTaken : Octets → Bool) (make : Nat → Octets) (fuel n : Nat) : Octets :=
  match fuel with
  | 0 => make n
  | fuel + 1 => if isTaken (make n) then freeName isTaken make fuel (n + 1) else make n

/-- Makes a file or directory with a new name, and prints that. -/
def temporaryTool : Procedure := fun _ arguments => do
  let (given, operands) ← options
    [.flag 'd' "directory", .flag 'u' "dry-run", .flag 'q' "quiet", .flag 't' "deprecated",
      ⟨'p', "tmpdir", .required⟩, .setting OptionSpec.noLetter "suffix"] 1 arguments
  refuseExtra 1 1 operands
  let home := (← binding? "TMPDIR").getD (octets "/tmp")
  let directory := valueOf? given "tmpdir"
  let template := operands.headD (octets "tmp.XXXXXXXXXX")
  let template := match operands, directory with
    | [], none => inDirectory home template
    | [], some d => inDirectory (if d.isEmpty then home else d) template
    | _, some d => inDirectory (if d.isEmpty then home else d) template
    | _, none => if has given "deprecated" then inDirectory home template else template
  let after := (template.reverse.takeWhile (· != 'X')).reverse
  let stem := template.take (template.length - after.length)
  let count := (stem.reverse.takeWhile (· == 'X')).length
  let ending := after ++ (valueOf? given "suffix").getD []
  if count < 3 then giveUp 1 (octets "too few X's in template " ++ quote template)
  let lead := stem.take (stem.length - count)
  let make (n : Nat) : Octets := lead ++ lettersOf n count ++ ending
  let number ← look (·.current)
  let isTaken ← look fun k => fun (o : Octets) =>
    (k.find (Octets.toText o) false) matches .ok _
  let path := freeName isTaken make 1000 (number * 7919)
  if !has given "dry-run" then
    let result ← changeAt path false fun t place =>
      if has given "directory" then do
        let (t, _) ← t.insertDirectory place 0o700
        .ok t
      else do
        let (t, _) ← t.insert place (.regular .empty) 0o600
        .ok t
    match result with
    | .ok () => pure ()
    | .error fault =>
      let what := if has given "directory" then "directory" else "file"
      giveUp 1 (octets ("failed to create " ++ what ++ " via template ") ++ quote template
        ++ octets (": " ++ fault.message))
  printLine path
  return 0

end Flowscript.Tool
