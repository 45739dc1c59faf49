import Flowscript.Programs.Shell.Pattern
import Flowscript.Programs.Tool.Matching.Style
import Flowscript.Programs.Tool.Names
import Flowscript.Programs.Tool.Streams

/-!
# What is looked through

Files that are searched, and their lines.

* `NameRules` say which files are left out, by their names.
* `filesBelow` are the files below a directory that are not left out.
-/

set_option autoImplicit false

namespace Flowscript.Tool

/-! ## Files in which lines are looked for -/

/-- A pattern for names, and whether it asks for them or leaves them out. -/
structure NameRule where
  isWanted : Bool
  pattern : Shell.Pattern

/-- Rules for names, in the order in which they were given; the last one that fits counts.  A name
that none fits is left out if the first one asks for names. -/
abbrev NameRules := List NameRule

/-- Whether a name that was given, or a part of it that starts after a slash, is of a pattern. -/
def NameRule.fits (rule : NameRule) (isGiven : Bool) (fuel : Nat) (name : Octets) : Bool :=
  match fuel with
  | 0 => false
  | fuel + 1 =>
    rule.pattern.accepts name
      || (isGiven && match name.dropWhile (· != '/') with
        | _ :: r => rule.fits isGiven fuel r
        | [] => false)

/-- Whether a name is left out. -/
def NameRules.leaveOut (rules : NameRules) (isGiven : Bool) (name : Octets) : Bool :=
  match rules.reverse.find? (·.fits isGiven (name.length + 1) name) with
  | some rule => !rule.isWanted
  | none => (rules.head?.map (·.isWanted)).getD false

/-- Which files are looked at. -/
structure FileChoice where
  names : NameRules
  directories : NameRules
  /-- Whether links that are found lead on. -/
  followsLinks : Bool
  /-- Whether pipes and devices that are found are looked at. -/
  takesDevices : Bool

/-- The files below a directory, each with the name that is shown. -/
def filesBelow (choice : FileChoice) (fuel : Nat) (path shown : Octets) :
    ToolRun (List (Octets × Octets)) :=
  match fuel with
  | 0 => return []
  | fuel + 1 => do
    let mut all := []
    for name in ← namesIn path do
      let inner := inDirectory path name
      let innerShown := if shown.isEmpty then name else inDirectory shown name
      match ← find inner choice.followsLinks with
      | .error _ => all := all ++ [(inner, innerShown)]
      | .ok n =>
        match ← kindOf n with
        | some (.directory ..) =>
          if !choice.directories.leaveOut false name then
            all := all ++ (← filesBelow choice fuel inner innerShown)
        | some (.link _) => pure ()
        | some (.device _) | some (.pipe _) =>
          if choice.takesDevices && !choice.names.leaveOut false name then
            all := all ++ [(inner, innerShown)]
        | _ =>
          if !choice.names.leaveOut false name then all := all ++ [(inner, innerShown)]
    return all

/-! ## Inputs with lines that match

`MatchStyle.lookAt` looks at an input and says whether lines were selected. -/

namespace MatchStyle

/-- How many bytes are read at a time. -/
def inputBlock : Nat := 98304

/-- Looks at the lines of an input.  `pending` is the start of a line that has been read already.
An input is no text if there is a null byte in it; then those bytes end lines too. -/
def lookThrough (style : MatchStyle) (name : Octets) (descriptor fuel : Nat) (pending : Octets)
    (s : MatchState) : ToolRun (Except Fault (MatchState × Bool)) :=
  match fuel with
  | 0 => return .ok (s, true)
  | fuel + 1 => do
    match ← liftM (Run.read descriptor inputBlock) with
    | .error fault => return .error fault
    | .ok bytes =>
      let block := Octets.ofBytes bytes
      let isBinary := style.mark != '\x00' && style.binary != .text && block.contains '\x00'
      let s := if isBinary && s.foundAsText.isNone then { s with foundAsText := some s.found }
        else s
      if isBinary && style.binary == .passedOver then return .ok ({ s with found := 0 }, true)
      if bytes.isEmpty then
        let lines := if pending.isEmpty then [] else [pending]
        return .ok (← eachOf (style.step name) false s lines)
      let block := if s.foundAsText.isSome then
          block.map fun c => if c == '\x00' then style.mark else c
        else block
      let pieces := Text.splitAt (· == style.mark) (pending ++ block)
      let (s, goesOn) ← eachOf (style.step name) true s pieces.dropLast
      if goesOn then lookThrough style name descriptor fuel (pieces.getLastD []) s
      else return .ok (s, false)

/-- Whether a descriptor is the file that one writes to.  It does not matter for what there is to
read if that is at its end. -/
def isOwnOutput (descriptor : Nat) : ToolRun Bool := do
  if descriptor == 0 then readsOwnOutput descriptor
  else
    look fun k =>
      match k.file? descriptor, k.file? 1 with
      | some (_, input), some (_, output) =>
        match input.channel, output.channel with
        | .node a, .node b => a == b && (k.tree.content? a).isSome
        | _, _ => false
      | _, _ => false

/-- Reads to the end, so that whoever writes can go on. -/
def drain (descriptor fuel : Nat) : ToolRun Unit :=
  match fuel with
  | 0 => return ()
  | fuel + 1 => do
    match ← liftM (Run.read descriptor inputBlock) with
    | .error _ => return ()
    | .ok bytes => if bytes.isEmpty then return () else drain descriptor fuel

/-- Leaves what there is to read, which was read from some position on, where it would be if it had
been read by lines. -/
def leave (style : MatchStyle) (first : Nat) (s : MatchState) : ToolRun Unit := do
  let isFull := style.most.any (· ≤ s.found)
  if !isFull then drain 0 Run.patience
  else
    kernel fun k => ((), match k.offset? 0 with
      | some _ => k.seek 0 (first + s.selectedEnd)
      | none => k)

/-- Looks at an input whose name is shown in some way.  Says whether lines were selected, and
whether any were shown, of this input or before. -/
def lookAt (style : MatchStyle) (hasShown : Bool) (path shown : Octets) :
    ToolRun (Bool × Bool) := do
  let failed (fault : Fault) : ToolRun (Bool × Bool) := do
    if !style.hidesFaults then complain (shown ++ octets (": " ++ fault.message))
    noteFailure 2
    return (false, hasShown)
  match ← openInput path with
  | .error fault => failed fault
  | .ok descriptor =>
    let first ← look fun k => (k.offset? descriptor).getD 0
    if style.report == .lines && style.most.all (1 < ·) && (← isOwnOutput descriptor) then
      complain (shown ++ octets ": input file is also the output")
      noteFailure 2
      return (false, hasShown)
    let start : MatchState := ⟨0, 0, 0, [], 0, 0, hasShown, 0, none⟩
    let result ← style.lookThrough shown descriptor Run.patience [] start
    match result with
    | .error fault =>
      closeInput descriptor
      failed fault
    | .ok (s, _) =>
      let isSelected := 0 < s.found
      let name := style.paint (·.name) shown ++ [if style.endsNames then '\x00' else '\n']
      match style.report with
      | .lines =>
        if style.binary == .told && s.foundAsText.any (· < s.found) then
          complain (shown ++ octets ": binary file matches")
      | .count => print (style.namePart shown ':' ++ Nat.toDigits 10 s.found ++ ['\n'])
      | .selectedName => if isSelected then print name
      | .otherName => if !isSelected then print name
      | .nothing => pure ()
      if descriptor == 0 && (style.report != .nothing || !isSelected) then style.leave first s
      closeInput descriptor
      return (isSelected, s.hasShown)

end MatchStyle

end Flowscript.Tool
