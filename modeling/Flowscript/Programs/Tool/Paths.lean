import Flowscript.Programs.Tool.Basic
import Flowscript.Programs.Tool.Names

/-!
# Paths

Tools that take paths apart, resolve them and check them.

* `canonical` is the path that a path leads to.
* `relativePath` is the way from one directory to another place.
* `readLinkTool` and `realPathTool` print such paths.
* `nameFault?` says what is wrong with a name.
* `pathchkTool` checks names.
-/

set_option autoImplicit false

namespace Flowscript.Tool

/-! ## Paths without links -/

/-! ### Where paths lead -/

/-- How much of a path has to be there. -/
inductive Presence where
  | all
  | allButLast
  | nothing
  deriving DecidableEq, Repr

/-- The absolute path without links that a path leads to. -/
def canonical (presence : Presence) (path : Octets) (k : Kernel) : Except Fault Octets :=
  let here := k.self.directory
  let text (n : Nat) : Octets := Octets.ofText ((k.tree.path? n).getD "/")
  let located (path : Octets) : Except Fault Octets := do
    let place ← k.tree.locate here (Octets.toText path) true
    match place.node? with
    | some n =>
      if k.tree.isDirectoryAt n then .ok (text n)
      else .ok (inDirectory (text place.directory) (Octets.ofText place.name))
    | none =>
      if presence == .all then .error .missing
      else .ok (inDirectory (text place.directory) (Octets.ofText place.name))
  let rec climb (fuel : Nat) (path : Octets) : Except Fault Octets :=
    match fuel, located path with
    | _, .ok o => .ok o
    | 0, .error fault => .error fault
    | fuel + 1, .error fault =>
      if presence != .nothing || fault != .missing then .error fault
      else do
        let before ← climb fuel (directoryName path)
        let name := baseName path
        .ok (if name == ['.'] then before else if name == ['.', '.'] then directoryName before
          else inDirectory before name)
  climb (path.length + 1) path

/-- The names on an absolute path, without those that mean the place itself or the one above. -/
def steps (path : Octets) : List Octets :=
  (Text.splitAt (· == '/') path).foldl (fun names name =>
    if name.isEmpty || name == ['.'] then names
    else if name == ['.', '.'] then names.dropLast
    else names ++ [name]) []

/-- The absolute path with some names on it. -/
def ofSteps (names : List Octets) : Octets := '/' :: Octets.join ['/'] names

/-- The absolute path that a path means if links are taken as names. -/
def canonicalByName (presence : Presence) (path : Octets) (k : Kernel) : Except Fault Octets := do
  let here := Octets.ofText (k.workingPath?.getD "/")
  let whole := if path.head? == some '/' then path else here ++ ['/'] ++ path
  if path.isEmpty then .error .missing
  let names := (Text.splitAt (· == '/') whole).filter fun name => !name.isEmpty && name != ['.']
  let isThere (names : List Octets) : Except Fault Unit :=
    (k.find (Octets.toText (ofSteps names)) true).map fun _ => ()
  let step (before : List Octets) (name : Octets) : Except Fault (List Octets) := do
    -- Only a name that is there can be gone past.
    if presence != .nothing then isThere before
    return if name == ['.', '.'] then before.dropLast else before ++ [name]
  let result ← names.foldlM step []
  if presence == .all then isThere result
  return ofSteps result

/-- Whether an absolute path is another one or below it. -/
def isPathBelow (directory path : Octets) : Bool := (steps directory).isPrefixOf (steps path)

/-- The names of two lists after those in which they start alike. -/
def withoutCommon : List Octets → List Octets → List Octets × List Octets
  | a :: r, b :: s => if a == b then withoutCommon r s else (a :: r, b :: s)
  | r, s => (r, s)

/-- The way from one place to another one, both given by absolute paths. -/
def relativePath (start target : Octets) : Octets :=
  let (up, down) := withoutCommon (steps start) (steps target)
  match up.map (fun _ => ['.', '.']) ++ down with
  | [] => ['.']
  | names => Octets.join ['/'] names

/-! ### Programs that print them -/

/-- Prints where links lead to. -/
def readLinkTool : Procedure := fun _ arguments => do
  let (given, operands) ← options
    [.flag 'f' "canonicalize", .flag 'e' "canonicalize-existing", .flag 'm' "canonicalize-missing",
      .flag 'n' "no-newline", .flag 'q' "quiet", .flag 's' "silent", .flag 'v' "verbose",
      .flag 'z' "zero"] 1 arguments
  needOperand 1 operands
  if has given "no-newline" && 1 < operands.length then
    complain (octets "ignoring --no-newline with multiple arguments")
  let presence? := if has given "canonicalize-missing" then some Presence.nothing
    else if has given "canonicalize-existing" then some .all
    else if has given "canonicalize" then some .allButLast
    else none
  let mark := if has given "no-newline" && operands.length == 1 then []
    else if has given "zero" then ['\x00'] else ['\n']
  for path in operands do
    let target ← look fun k =>
      match presence? with
      | some presence => canonical presence path k
      | none =>
        match k.find (Octets.toText path) false with
        | .error fault => .error fault
        | .ok n =>
          match k.tree.kind? n with
          | some (.link target) => .ok (Octets.ofText target)
          | _ => .error .invalid
    match target with
    | .ok o => print (o ++ mark)
    | .error fault =>
      if has given "verbose" then complainAbout path fault
      noteFailure 1
  notedStatus

/-- Prints absolute paths without links, or the ways to them from some directory. -/
def realPathTool : Procedure := fun _ arguments => do
  let (given, operands) ← options
    [.flag 'e' "canonicalize-existing", .flag 'm' "canonicalize-missing", .flag 'q' "quiet",
      .flag 's' "strip", .flag OptionSpec.noLetter "no-symlinks", .flag 'P' "physical",
      .flag 'L' "logical", .flag 'z' "zero", .setting OptionSpec.noLetter "relative-to",
      .setting OptionSpec.noLetter "relative-base"] 1 arguments
  needOperand 1 operands
  let presence := match (given.reverse.find? fun o =>
      o.1 == "canonicalize-existing" || o.1 == "canonicalize-missing").map (·.1) with
    | some "canonicalize-missing" => Presence.nothing
    | some _ => .all
    | none => .allButLast
  let manner := ((given.reverse.find? fun o =>
    ["strip", "no-symlinks", "physical", "logical"].contains o.1).map (·.1)).getD "physical"
  let real (path : Octets) (k : Kernel) : Except Fault Octets :=
    if manner == "physical" then canonical presence path k
    else do
      let named ← canonicalByName presence path k
      if manner == "logical" then canonical presence named k else .ok named
  let directoryOf (path : Octets) : ToolRun Octets := do
    match ← look (real path) with
    | .error fault => giveUp 1 (quoteName path ++ octets (": " ++ fault.message))
    | .ok found =>
      if presence == .all && !(← isDirectory found) then
        giveUp 1 (quoteName path ++ octets (": " ++ Fault.notDirectory.message))
      return found
  let base ← (valueOf? given "relative-base").mapM directoryOf
  let start ← (valueOf? given "relative-to").mapM directoryOf
  let (start, base) := match start, base with
    | none, base => (base, base)
    | start, none => (start, none)
    | some start, some base => if isPathBelow base start then (some start, some base) else (none, none)
  for path in operands do
    match ← look (real path) with
    | .ok found =>
      let shown := match start with
        | some start => if base.all (isPathBelow · found) then relativePath start found else found
        | none => found
      print (shown ++ [if has given "zero" then '\x00' else '\n'])
    | .error fault =>
      if !has given "quiet" then complainAbout path fault
      noteFailure 1
  notedStatus

/-! ## Names that any system takes -/

/-- What is asked of names: only characters that every system has, no more of them than every system
allows, and neither an empty name nor a hyphen at the start. -/
structure NameDemands where
  isPortable : Bool
  isStrict : Bool

namespace NameDemands

/-- The length that every system allows for a name, and for a part of one. -/
def portableLengths : Nat × Nat := (255, 14)

/-- The characters that every system has in names. -/
def isPortableCharacter (c : Char) : Bool :=
  c.isAlphanum || c == '.' || c == '_' || c == '-' || c == '/'

/-- The parts of a name. -/
def parts (o : Octets) : List Octets := (Text.splitAt (· == '/') o).filter (!·.isEmpty)

/-- What is wrong with a name, if that can be seen without looking for the file. -/
def fault? (d : NameDemands) (o : Octets) : Option Octets :=
  let isHyphened (part : Octets) : Bool := part.head? == some '-'
  let strange := o.find? fun c => !isPortableCharacter c
  if d.isStrict && (parts o).any isHyphened then
    some (octets "leading '-' in a component of file name " ++ quotePath o)
  else if (d.isStrict || d.isPortable) && o.isEmpty then some (octets "empty file name")
  else if !d.isPortable then none
  else
    match strange with
    | some c =>
      some (octets "nonportable character " ++ quote [c] ++ octets " in file name " ++ quotePath o)
    | none =>
      let (whole, part) := portableLengths
      if whole ≤ o.length then
        some (octets ("limit " ++ toString whole ++ " exceeded by length " ++ toString o.length
          ++ " of file name ") ++ quotePath o)
      else
        ((parts o).find? fun p => part < p.length).map fun p =>
          octets ("limit " ++ toString part ++ " exceeded by length " ++ toString p.length
            ++ " of file name component ") ++ quotePath p

end NameDemands

/-- Checks names. -/
def pathchkTool : Procedure := fun _ arguments => do
  let (given, names) ← options
    [.flag 'p' "p", .flag 'P' "P", .flag OptionSpec.noLetter "portability"] 1 arguments
  needOperand 1 names
  let demands : NameDemands :=
    ⟨has given "p" || has given "portability", has given "P" || has given "portability"⟩
  for name in names do
    match demands.fault? name with
    | some message =>
      complain message
      noteFailure 1
    | none =>
      if !demands.isPortable then
        match ← look (·.find (Octets.toText name) false) with
        | .ok _ => pure ()
        | .error fault =>
          if fault != .missing || name.isEmpty then
            complain (Text.quotedForShell name.isEmpty name ++ octets (": " ++ fault.message))
            noteFailure 1
  notedStatus

end Flowscript.Tool
