import Flowscript.Programs.Tool.Files
import Flowscript.Programs.Tool.Paths

/-!
# Programs that copy, move and link

* `transfers` pairs sources with what they become.
* `copyTool`, `moveTool` and `linkTool` copy, move and link files and whole directories;
  `nameTool` gives one file another name.
* `installTool` copies files to where they are used.
-/

set_option autoImplicit false

namespace Flowscript.Tool

/-! ## Sources and a target -/

/-- Pairs of a source and where it goes to: into a directory if the target is one. -/
def transfers (given : List GivenOption) (operands : List Octets) :
    ToolRun (List (Octets × Octets)) := do
  let into (directory : Octets) (sources : List Octets) : List (Octets × Octets) :=
    sources.map fun source => (source, inDirectory directory (baseName source))
  match valueOf? given "target-directory" with
  | some directory =>
    if operands.isEmpty then giveUpUsage 1 (octets "missing file operand")
    if !(← isDirectory directory) then
      let fault := match ← find directory true with
        | .ok _ => Fault.notDirectory
        | .error fault => fault
      giveUp 1 (octets "target directory " ++ quotePath directory ++ octets (": " ++ fault.message))
    return into directory operands
  | none =>
    match operands with
    | [] => giveUpUsage 1 (octets "missing file operand")
    | [source] =>
      giveUpUsage 1 (octets "missing destination file operand after " ++ quotePath source)
    | _ =>
      let target := operands.getLastD []
      let sources := operands.dropLast
      if has given "no-target-directory" then
        match sources.drop 1 with
        | [] => return sources.map (·, target)
        | _ => giveUpUsage 1 (octets "extra operand " ++ quote ((operands[2]?).getD []))
      else if ← isDirectory target then return into target sources
      else if 1 < sources.length then
        let fault := match ← find target true with
          | .ok _ => Fault.notDirectory
          | .error fault => fault
        giveUp 1 (octets "target " ++ quotePath target ++ octets (": " ++ fault.message))
      else return sources.map (·, target)

/-- Says what was done with a source and its target. -/
def printTransfer (given : List GivenOption) (what : String) (source target : Octets) :
    ToolRun Unit := do
  if has given "verbose" then
    printLine (octets what ++ quotePath source ++ octets " -> " ++ quotePath target)

/-! ## Copying -/

/-- Whether a file is left as it is because the target is there, or newer. -/
def isSpared (given : List GivenOption) (source target : Octets) : ToolRun Bool := do
  match ← find target false with
  | .error _ => return false
  | .ok n =>
    if has given "no-clobber" then return true
    if has given "update" then
      match ← find source true with
      | .ok m => look fun k => k.tree.modifiedAt m ≤ k.tree.modifiedAt n
      | .error _ => return false
    else return false

/-- Whether links are copied as such. -/
def keepsLinks (given : List GivenOption) : Bool :=
  !has given "dereference" && (has given "recursive" || has given "archive"
    || has given "no-dereference")

/-- Copies the bytes of a file. -/
def copyBytes (given : List GivenOption) (source target : Octets) : ToolRun Unit := do
  match ← liftM (Run.openFile (Octets.toText source) .read) with
  | .error fault =>
    complainOf "cannot open" source fault
  | .ok input =>
    let bytes ← liftM (Run.readAll input)
    liftM (Run.close input)
    match bytes with
    | .error fault => complain (octets "error reading " ++ quotePath source
        ++ octets (": " ++ fault.message))
    | .ok bytes =>
      let isNew := !((← find target true) matches .ok _)
      if isNew && target.getLast? == some '/' then
        complainOf "cannot create regular file" target .notDirectory
        return ()
      match ← liftM (Run.openFile (Octets.toText target) .write) with
      | .error fault => complainOf "cannot create regular file" target fault
      | .ok output =>
        let _ ← liftM (Run.write output bytes)
        liftM (Run.close output)
        let preserves := has given "preserve" || has given "archive"
        match ← find source true, ← find target true with
        | .ok m, .ok n =>
          kernel fun k =>
            let mode := k.tree.modeOf m
            let mode := if preserves then mode else mode &&& (0o777 ^^^ k.self.mask)
            let k := if isNew || preserves then k.modifyTree (·.setMode n mode) else k
            let time := k.tree.modifiedAt m
            ((), if preserves then k.modifyTree (·.setModified n time) else k)
        | _, _ => pure ()
        printTransfer given "" source target

/-- Makes a link, in place of one that is there if that is wanted. -/
def placeLink (replaces : Bool) (kind : FileKind) (target : Octets) : ToolRun (Except Fault Unit) :=
  changeAt target false fun t place => do
    match place.node? with
    | some n =>
      if replaces && !t.isDirectoryAt n then
        let (t, _) ← (← t.unlink place).insert { place with node? := none } kind 0o777
        .ok t
      else .error .present
    | none =>
      let (t, _) ← t.insert place kind 0o777
      .ok t

/-- Gives a file another name. -/
def addName (replaces : Bool) (source target : Octets) : ToolRun (Except Fault Unit) :=
  change fun t here => do
    let n ← t.find here (Octets.toText source) false
    if t.isDirectoryAt n then throw .notPermitted
    let place ← t.locate here (Octets.toText target) false
    match place.node? with
    | some m =>
      if replaces && !t.isDirectoryAt m then .ok (t.setEntry place.directory place.name n)
      else .error .present
    | none =>
      if t.isAttached place.directory then .ok (t.setEntry place.directory place.name n)
      else .error .missing

/-- A copy that is being made: its source and its target, and the directories that were made for
it. -/
structure Copying where
  source : Octets
  target : Octets
  made : List Nat

/-- Copies what is no directory. -/
def copyLeaf (given : List GivenOption) (kind : Option FileKind) (source target : Octets) :
    ToolRun Unit := do
  if ← isDirectory target then
    complain (octets "cannot overwrite directory " ++ quotePath target ++ octets " with non-directory")
    noteFailure 1
  else
    match kind with
    | some (.link destination) =>
      if !(← isSpared given source target) then
        match ← placeLink true (.link destination) target with
        | .ok () => printTransfer given "" source target
        | .error fault => complainOf "cannot create symbolic link" target fault
    | _ =>
      if ← isSameNode source target true then
        complain (quotePath source ++ octets " and " ++ quotePath target ++ octets " are the same file")
        noteFailure 1
      else if !(← isSpared given source target) then
        if has given "symbolic-link" then
          match ← placeLink (has given "force") (.link (Octets.toText source)) target with
          | .ok () => pure ()
          | .error fault => complainOf "cannot create symbolic link" target fault
        else if has given "link" then
          match ← addName (has given "force") source target with
          | .ok () => pure ()
          | .error fault => complainOf "cannot create hard link" target fault
        else
          if has given "remove-destination" then
            let _ ← changeAt target false (·.unlink)
          copyBytes given source target

/-- Copies a file, or a directory and all in it if that is wanted. -/
def copyPath (given : List GivenOption) (fuel : Nat) (c : Copying) (source target : Octets) :
    ToolRun Copying :=
  match fuel with
  | 0 => return c
  | fuel + 1 => do
    match ← find source (!keepsLinks given) with
    | .error fault =>
      complainOf "cannot stat" source fault
      return c
    | .ok n =>
      let isTree ← look (·.tree.isDirectoryAt n)
      if !isTree then
        match ← find target true with
        | .error .notDirectory =>
          complainOf "cannot stat" target .notDirectory
        | _ => copyLeaf given (← kindOf n) source target
        return c
      else if !has given "recursive" && !has given "archive" then
        complain (octets "-r not specified; omitting directory " ++ quotePath source)
        noteFailure 1
        return c
      else if c.made.contains n then
        complain (octets "cannot copy a directory, " ++ quotePath c.source ++ octets ", into itself, "
          ++ quotePath c.target)
        noteFailure 1
        return c
      else
        let isThere := (← find target true) matches .ok _
        let intoDirectory ← isDirectory target
        if isThere && !intoDirectory then
          complain (octets "cannot overwrite non-directory " ++ quotePath target
            ++ octets " with directory " ++ quotePath source)
          noteFailure 1
          return c
        let mode ← look fun k => k.tree.modeOf n &&& (0o777 ^^^ k.self.mask)
        let result ← if intoDirectory then pure (.ok ()) else
          changeAt target true fun t place => do
            let (t, _) ← t.insertDirectory place mode
            .ok t
        match result with
        | .error fault =>
          complainOf "cannot create directory" target fault
          return c
        | .ok () =>
          let mut c := c
          if !intoDirectory then
            printTransfer given "" source target
            match ← find target true with
            | .ok m => c := { c with made := m :: c.made }
            | .error _ => pure ()
          for name in ← namesIn source do
            c ← copyPath given fuel c (inDirectory source name) (inDirectory target name)
          return c

/-- The options of programs that have sources and a target. -/
def transferOptions : List OptionSpec :=
  [.setting 't' "target-directory", .flag 'T' "no-target-directory", .flag 'f' "force",
    .flag 'i' "interactive", .flag 'n' "no-clobber", .flag 'u' "update", .flag 'v' "verbose",
    .flag 'b' "backup"]

/-- Copies files and directories. -/
def copyTool : Procedure := fun _ arguments => do
  let (given, operands) ← options
    (transferOptions ++ [.flag 'r' "recursive", .flag 'R' "recursive", .flag 'a' "archive",
      ⟨'p', "preserve", .none⟩, .flag 'P' "no-dereference", .flag 'd' "no-dereference",
      .flag 'L' "dereference", .flag 'H' "command-links", .flag 'l' "link",
      .flag 's' "symbolic-link", .flag OptionSpec.noLetter "remove-destination",
      .flag OptionSpec.noLetter "parents"]) 1 arguments
  for (source, target) in ← transfers given operands do
    let _ ← copyPath given 1000 ⟨source, target, []⟩ source target
  notedStatus

/-! ## Moving -/

/-- Moves a file or a directory. -/
def movePath (given : List GivenOption) (source target : Octets) : ToolRun Unit := do
  match ← find source false with
  | .error fault => complainOf "cannot stat" source fault
  | .ok n =>
    if ← isSpared given source target then return ()
    let sourceIsTree ← look (·.tree.isDirectoryAt n)
    let targetNode? := (← find target false).toOption
    let targetIsTree ← look fun k => targetNode?.any k.tree.isDirectoryAt
    if targetNode? == some n then
      complain (quotePath source ++ octets " and " ++ quotePath target ++ octets " are the same file")
      noteFailure 1
    else if targetNode?.isNone && !sourceIsTree && target.getLast? == some '/' then
      complain (octets "cannot move " ++ quotePath source ++ octets " to " ++ quotePath target
        ++ octets ": Not a directory")
      noteFailure 1
    else if targetNode?.isSome && sourceIsTree && !targetIsTree then
      complain (octets "cannot overwrite non-directory " ++ quotePath target
        ++ octets " with directory " ++ quotePath source)
      noteFailure 1
    else if targetIsTree && !sourceIsTree then
      complain (octets "cannot overwrite directory " ++ quotePath target
        ++ octets " with non-directory")
      noteFailure 1
    else
      let result ← change fun t here => do
        let old ← t.locate here (Octets.toText (withoutSlashes source)) false
        let new ← t.locate here (Octets.toText (withoutSlashes target)) false
        t.rename old new
      match result with
      | .ok () => printTransfer given "renamed " source target
      | .error .invalid =>
        complain (octets "cannot move " ++ quotePath source ++ octets " to a subdirectory of itself, "
          ++ quotePath target)
        noteFailure 1
      | .error fault =>
        if fault == .notEmpty then
          complain (octets "cannot overwrite " ++ quotePath target
            ++ octets (": " ++ fault.message))
        else
          complain (octets "cannot move " ++ quotePath source ++ octets " to " ++ quotePath target
            ++ octets (": " ++ fault.message))
        noteFailure 1

/-- Moves files and directories. -/
def moveTool : Procedure := fun _ arguments => do
  let (given, operands) ← options transferOptions 1 arguments
  for (source, target) in ← transfers given operands do movePath given source target
  notedStatus

/-! ## Links -/

/-- Makes one link. -/
def linkOne (given : List GivenOption) (source target : Octets) : ToolRun Unit := do
  let replaces := has given "force"
  if has given "symbolic" then
    let source ← if has given "relative" then do
        let place ← look (canonical .nothing (directoryName target))
        let goal ← look (canonical .nothing source)
        match place, goal with
        | .ok place, .ok goal => pure (relativePath place goal)
        | _, _ => pure source
      else pure source
    if replaces && source == target then
      complain (quotePath source ++ octets " and " ++ quotePath target ++ octets " are the same file")
      noteFailure 1
      return ()
    match ← placeLink replaces (.link (Octets.toText source)) target with
    | .ok () => printTransfer given "" target source
    | .error fault =>
      complain (octets "failed to create symbolic link " ++ quotePath target
        ++ octets (": " ++ fault.message))
      noteFailure 1
  else
    match ← find source false with
    | .error fault => complainOf "failed to access" source fault
    | .ok n =>
      if ← look (·.tree.isDirectoryAt n) then
        complain (quoteName source ++ octets ": hard link not allowed for directory")
        noteFailure 1
      else
        match ← addName replaces source target with
        | .ok () =>
          if has given "verbose" then printLine (quotePath target ++ octets " => " ++ quotePath source)
        | .error fault =>
          complain (octets "failed to create hard link " ++ quotePath target
            ++ (if fault == .present then [] else octets " => " ++ quotePath source)
            ++ octets (": " ++ fault.message))
          noteFailure 1

/-- Makes links. -/
def linkTool : Procedure := fun _ arguments => do
  let (given, operands) ← options
    (transferOptions ++ [.flag 's' "symbolic", .flag 'r' "relative", .flag 'L' "logical",
      .flag 'P' "physical"]) 1 arguments
  let given := given.map fun o =>
    -- Here the letter means that a link to a directory is no directory.
    if o.1 == "no-clobber" then ("no-target-directory-link", []) else o
  if has given "relative" && !has given "symbolic" then
    giveUpUsage 1 (octets "cannot do --relative without --symbolic")
  match operands, valueOf? given "target-directory" with
  | [source], none =>
    linkOne given source (baseName source)
    notedStatus
  | _, _ =>
    let target := operands.getLastD []
    let isLink ← look fun k =>
      match k.find (Octets.toText target) false with
      | .ok n => ((k.tree.kind? n) matches some (.link _))
      | .error _ => false
    if has given "no-target-directory-link" && isLink && operands.length == 2 then
      linkOne given (operands.headD []) target
    else
      for (source, target) in ← transfers given operands do linkOne given source target
    notedStatus

/-- Gives one file another name. -/
def nameTool : Procedure := fun _ arguments => do
  let (_, operands) ← options [] 1 arguments
  match operands with
  | [] => giveUpUsage 1 (octets "missing operand")
  | [source] => giveUpUsage 1 (octets "missing operand after " ++ quotePath source)
  | source :: target :: _ =>
    refuseExtra 1 2 operands
    match ← addName false source target with
    | .ok () => return 0
    | .error fault =>
      giveUp 1 (octets "cannot create link " ++ quotePath target ++ octets " to " ++ quotePath source
        ++ octets (": " ++ fault.message))

/-! ## Installing -/

/-- Makes a directory and those on the way to it, the last one with permissions of its own. -/
def installDirectory (given : List GivenOption) (mode : Nat) (path : Octets) : ToolRun Bool := do
  let steps := pathsTo (withoutSlashes path)
  for (step, i) in steps.zipIdx do
    let isLast := i + 1 == steps.length
    if ← isDirectory step then
      if isLast then
        match ← find step true with
        | .ok n => kernel fun k => ((), k.modifyTree (·.setMode n mode))
        | .error _ => pure ()
    else
      let result ← changeAt step false fun t place => do
        let (t, _) ← t.insertDirectory place (if isLast then mode else 0o755)
        .ok t
      match result with
      | .ok () =>
        if has given "verbose" then
          printLine ((← get).name ++ octets ": creating directory " ++ quotePath step)
      | .error fault =>
        complainOf "cannot create directory" path fault
        return false
  return true

/-- Copies one file to where it is used, with permissions of its own. -/
def installFile (given : List GivenOption) (mode : Nat) (source target : Octets) :
    ToolRun Unit := do
  match ← find source true with
  | .error fault => complainOf "cannot stat" source fault
  | .ok n =>
    if ← look (·.tree.isDirectoryAt n) then
      complain (octets "omitting directory " ++ quotePath source)
      noteFailure 1
    else if ← isDirectory target then
      complain (octets "cannot overwrite directory " ++ quotePath target
        ++ octets " with non-directory")
      noteFailure 1
    else if ← isSameNode source target true then
      complain (quotePath source ++ octets " and " ++ quotePath target ++ octets " are the same file")
      noteFailure 1
    else
      if (← find target false) matches .ok _ then
        let _ ← changeAt target false (·.unlink)
        if has given "verbose" then printLine (octets "removed " ++ quotePath target)
      copyBytes given source target
      match ← find target true with
      | .ok n => kernel fun k => ((), k.modifyTree (·.setMode n mode))
      | .error _ => pure ()

/-- Copies files to where they are used, or makes directories. -/
def installTool : Procedure := fun _ arguments => do
  let (given, operands) ← options
    [.flag 'd' "directory", .flag 'D' "make-way", .setting 'm' "mode", .flag 'v' "verbose",
      .setting 't' "target-directory", .flag 'T' "no-target-directory", .flag 'c' "ignored",
      .flag 'p' "preserve-timestamps", .flag 's' "strip", .flag 'b' "backup", .flag 'C' "compare",
      .setting 'o' "owner", .setting 'g' "group", .setting 'S' "suffix"] 1 arguments
  if operands.isEmpty then giveUpUsage 1 (octets "missing file operand")
  let mode ← match valueOf? given "mode" with
    | none => pure 0o755
    | some word =>
      match modeSpec? word with
      | some spec => pure (spec 0 (has given "directory") 0)
      | none => giveUp 1 (octets "invalid mode " ++ quote word)
  if has given "directory" then
    for path in operands do
      let _ ← installDirectory given mode path
  else
    let place := match valueOf? given "target-directory", operands with
      | some directory, _ => some directory
      | none, [_, target] => some (directoryName target)
      | none, _ => none
    if has given "make-way" then
      match place with
      | some directory => if !(← installDirectory given 0o755 directory) then throw 1
      | none => pure ()
    for (source, target) in ← transfers given operands do installFile given mode source target
  notedStatus

end Flowscript.Tool
