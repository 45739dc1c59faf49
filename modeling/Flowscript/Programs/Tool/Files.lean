import Flowscript.Programs.Tool.Calendar
import Flowscript.Programs.Tool.Mode

/-!
# Programs that make and remove files and directories

* `makeDirectoryTool` and `removeDirectoryTool` make and remove directories.
* `removeTool` removes files and whole directories, `unlinkTool` one file.
* `touchTool` and `truncateTool` change what is there, or make it.
-/

set_option autoImplicit false

namespace Flowscript.Tool

/-! ## Directories -/

/-- The paths on the way to a path, the shortest first. -/
def pathsTo (o : Octets) : List Octets :=
  let parts := Text.splitAt (· == '/') o
  ((List.range parts.length).map fun i => Octets.join ['/'] (parts.take (i + 1))).filter
    fun path => !path.isEmpty && path.getLast? != some '/'

/-- Makes a directory. -/
def makeOne (given : List GivenOption) (mode : Nat) (path : Octets) : ToolRun (Except Fault Unit) := do
  let result ← changeAt path false fun t place => do
    let (t, _) ← t.insertDirectory place mode
    .ok t
  if result matches .ok () then
    if has given "verbose" then
      printLine ((← get).name ++ octets ": created directory " ++ quotePath path)
  return result

/-- Makes a directory and those on the way to it. -/
def makeWay (given : List GivenOption) (mode : Nat) (path : Octets) : ToolRun Unit := do
  let parentMode ← masked 0o777
  let steps := pathsTo (withoutSlashes path)
  for (step, i) in steps.zipIdx do
    if !(← isDirectory step) then
      let isLast := i + 1 == steps.length
      match ← makeOne given (if isLast then mode else parentMode) step with
      | .ok () => pure ()
      | .error fault =>
        let isThere := (← find step true) matches .ok _
        let fault := if isThere && !isLast then .notDirectory else fault
        complainOf "cannot create directory" (if isLast then path else step) fault
        return ()

/-- Makes directories. -/
def makeDirectoryTool : Procedure := fun _ arguments => do
  let (given, paths) ← options
    [.flag 'p' "parents", .flag 'v' "verbose", .setting 'm' "mode", .flag 'Z' "context"] 1 arguments
  needOperand 1 paths
  let standard ← masked 0o777
  let mode ← match valueOf? given "mode" with
    | none => pure standard
    | some word =>
      match modeSpec? word with
      | some spec => pure (spec 0 true 0o777)
      | none => giveUp 1 (octets "invalid mode " ++ quote word)
  for path in paths do
    if has given "parents" then makeWay given mode path
    else
      match ← makeOne given mode path with
      | .ok () => pure ()
      | .error fault => complainOf "cannot create directory" path fault
  notedStatus

/-- Removes a directory with nothing in it. -/
def dropDirectory (path : Octets) : ToolRun (Except Fault Unit) := do
  if baseName path == ['.'] then return .error .invalid
  if baseName path == ['.', '.'] then return .error .notEmpty
  changeAt path false (·.removeDirectory)

/-- Removes directories with nothing in them. -/
def removeDirectoryTool : Procedure := fun _ arguments => do
  let (given, paths) ← options
    [.flag 'p' "parents", .flag 'v' "verbose",
      .flag OptionSpec.noLetter "ignore-fail-on-non-empty"] 1 arguments
  needOperand 1 paths
  for path in paths do
    let steps := if has given "parents" then (pathsTo (withoutSlashes path)).reverse else [path]
    for (step, i) in steps.zipIdx do
      if has given "verbose" then
        printLine ((← get).name ++ octets ": removing directory, " ++ quotePath step)
      match ← dropDirectory step with
      | .ok () => pure ()
      | .error fault =>
        if !(fault == .notEmpty && has given "ignore-fail-on-non-empty") then
          complainOf (if i == 0 then "failed to remove" else "failed to remove directory") step
            fault
        break
  notedStatus

/-! ## Removing -/

/-- Removes a file, or a directory and all in it if that is wanted. -/
def removePath (given : List GivenOption) (fuel : Nat) (path : Octets) : ToolRun Unit :=
  match fuel with
  | 0 => return ()
  | fuel + 1 => do
    match ← find path false with
    | .error fault =>
      if !(has given "force" && (fault == .missing || fault == .notDirectory)) then
        complainOf "cannot remove" path fault
    | .ok n =>
      let finish (result : Except Fault Unit) (what : String) : ToolRun Unit := do
        match result with
        | .ok () => if has given "verbose" then printLine (octets what ++ quotePath path)
        | .error fault => complainOf "cannot remove" path fault
      if ← look (·.tree.isDirectoryAt n) then
        if has given "recursive" then
          for name in ← namesIn path do removePath given fuel (inDirectory path name)
          finish (← changeAt path false (·.removeDirectory)) "removed directory "
        else if has given "dir" then
          finish (← changeAt path false (·.removeDirectory)) "removed directory "
        else complainOf "cannot remove" path .isDirectory
      else finish (← changeAt path false (·.unlink)) "removed "

/-- Removes files and directories. -/
def removeTool : Procedure := fun _ arguments => do
  let (given, paths) ← options
    [.flag 'f' "force", .flag 'r' "recursive", .flag 'R' "recursive", .flag 'd' "dir",
      .flag 'v' "verbose", .flag 'i' "interactive", .flag 'I' "once",
      .flag OptionSpec.noLetter "preserve-root", .flag OptionSpec.noLetter "no-preserve-root",
      .flag OptionSpec.noLetter "one-file-system"] 1 arguments
  if paths.isEmpty then
    if has given "force" then return 0
    needOperand 1 paths
  for path in paths do
    let name := baseName path
    if has given "recursive" && (name == ['.'] || name == ['.', '.']) then
      complain (octets "refusing to remove '.' or '..' directory: skipping " ++ quotePath path)
      noteFailure 1
    else if has given "recursive" && name == ['/'] then
      complain (octets "it is dangerous to operate recursively on " ++ quote ['/'])
      complain (octets "use --no-preserve-root to override this failsafe")
      noteFailure 1
    else removePath given 1000 path
  notedStatus

/-- Removes one file. -/
def unlinkTool : Procedure := fun _ arguments => do
  let (_, operands) ← options [] 1 arguments
  needOperand 1 operands
  refuseExtra 1 1 operands
  let path := operands.headD []
  match ← changeAt path false (·.unlink) with
  | .ok () => return 0
  | .error fault =>
    giveUp 1 (octets "cannot unlink " ++ quotePath path ++ octets (": " ++ fault.message))

/-! ## Times and sizes -/

/-- Makes files if they are not there, and lets them be new. -/
def touchTool : Procedure := fun _ arguments => do
  let (given, paths) ← options
    [.flag 'a' "access", .flag 'm' "modification", .flag 'c' "no-create", .flag 'f' "ignored",
      .setting 't' "stamp", .setting 'd' "date", .setting 'r' "reference",
      .flag 'h' "no-dereference"] 1 arguments
  if paths.isEmpty then giveUpUsage 1 (octets "missing file operand")
  let wrong {α : Type} (o : Octets) : ToolRun α :=
    giveUp 1 (octets "invalid date format " ++ quote o)
  let time ← match valueOf? given "stamp", valueOf? given "date", valueOf? given "reference" with
    | some o, _, _ =>
      match TimeText.stamp? (← hereZone) (← look (·.now)) false o with
      | some second => pure (timeOf second 0)
      | none => wrong o
    | none, some o, _ =>
      match ← readTime? o with
      | some (second, nanosecond) => pure (timeOf second nanosecond)
      | none => wrong o
    | none, none, some path =>
      match ← find path true with
      | .ok n => look (·.tree.modifiedAt n)
      | .error fault =>
        giveUp 1 (octets "failed to get attributes of " ++ quotePath path
          ++ octets (": " ++ fault.message))
    | none, none, none => look (·.now)
  for path in paths do
    let node : Except (Option Fault) Nat ← match ← find path true with
      | .ok n => pure (.ok n)
      | .error fault =>
        if fault == .missing && has given "no-create" then pure (.error none)
        else
          let update : OpenMode := { OpenMode.write with truncates := false }
          match ← liftM (Run.openFile (Octets.toText path) update) with
          | .ok descriptor =>
            liftM (Run.close descriptor)
            match ← find path true with
            | .ok n => pure (.ok n)
            | .error fault => pure (.error (some fault))
          | .error fault => pure (.error (some fault))
    match node with
    | .ok n => kernel fun k => ((), k.modifyTree (·.setModified n time))
    | .error none => pure ()
    | .error (some fault) =>
      if path.getLast? == some '/' && fault == .isDirectory then
        complainOf "setting times of" path .missing
      else complainOf "cannot touch" path fault
  notedStatus

/-- Cuts files to a size, or fills them up to it. -/
def truncateTool : Procedure := fun _ arguments => do
  let (given, paths) ← options
    [.setting 's' "size", .flag 'c' "no-create", .setting 'r' "reference", .flag 'o' "io-blocks"]
    1 arguments
  match valueOf? given "size" with
  | none => giveUpUsage 1 (octets "you must specify either '--size' or '--reference'")
  | some o =>
    let (sign, digits) := match o with
      | '+' :: r => (some '+', r)
      | '-' :: r => (some '-', r)
      | _ => (none, o)
    match Octets.natural? digits with
    | none => giveUp 1 (octets "Invalid number: " ++ quote o)
    | some n =>
      if paths.isEmpty then giveUpUsage 1 (octets "missing file operand")
      for path in paths do
        let update : OpenMode := { OpenMode.write with truncates := false }
        match ← liftM (Run.openFile (Octets.toText path) update) with
        | .error fault =>
          complain (octets "cannot open " ++ quotePath path ++ octets (" for writing: "
            ++ fault.message))
          noteFailure 1
        | .ok descriptor =>
          liftM (Run.close descriptor)
          match ← find path true with
          | .ok node =>
            kernel fun k => ((), k.modifyTree (·.modifyContent node fun content =>
              let size := match sign with
                | some '+' => content.size + n
                | some _ => content.size - n
                | none => n
              if size ≤ content.size then content.extract 0 size
              else content ++ ⟨Array.replicate (size - content.size) 0⟩))
          | .error _ => pure ()
      notedStatus

end Flowscript.Tool
