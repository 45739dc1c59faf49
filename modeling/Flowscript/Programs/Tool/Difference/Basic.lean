import Flowscript.Programs.Tool.Calendar
import Flowscript.Programs.Tool.Difference.Output
import Flowscript.Programs.Tool.Difference.Style
import Flowscript.Programs.Tool.Listing

/-!
# A program that compares files line by line

* `DiffSide` is a file that is compared, or what stands for one that is not there.
* `compareSides` compares two files or two directories.
* `differenceTool` compares files line by line.
-/

set_option autoImplicit false

namespace Flowscript.Tool

/-- A file that is compared: its name, and what is known of it if it is there. -/
structure DiffSide where
  name : Octets
  facts : Option FileFacts
  isStandard : Bool

namespace DiffSide

/-- Whether a file is a directory. -/
def isDirectory (s : DiffSide) : Bool := s.facts.any (·.isDirectory)

/-- Whether a file is a link. -/
def isLink (s : DiffSide) : Bool := s.facts.any fun f => f.kind matches some (.link _)

/-- Whether a file is one of bytes, or a link. -/
def isPlain (s : DiffSide) : Bool := s.facts.any fun f =>
  f.kind matches some (.regular _) | some (.program _) | some (.link _)

/-- The kind of a file. -/
def kindText (s : DiffSide) : Octets := match s.facts with
  | some f => octets (kindWords f.size f.kind)
  | none => octets "regular empty file"

end DiffSide

/-- The status for files that cannot be compared. -/
def diffTrouble : Nat := 2

/-- A complaint about a file whose name is written as it is. -/
def complainPlainly (path : Octets) (fault : Fault) : ToolRun Unit :=
  complain (path ++ octets (": " ++ fault.message))

/-- A name in a heading: between quotes if there is something special in it. -/
def headingName (o : Octets) : Octets :=
  let escape (c : Char) : Octets := match c with
    | '\x07' => ['\\', 'a']
    | '\x08' => ['\\', 'b']
    | '\t' => ['\\', 't']
    | '\n' => ['\\', 'n']
    | '\x0b' => ['\\', 'v']
    | '\x0c' => ['\\', 'f']
    | '\r' => ['\\', 'r']
    | '"' => ['\\', '"']
    | '\\' => ['\\', '\\']
    | c =>
      if c.toNat < 32 || 128 ≤ c.toNat then
        let digits := Nat.toDigits 8 c.toNat
        '\\' :: List.replicate (3 - digits.length) '0' ++ digits
      else [c]
  let text := o.flatMap escape
  if text.length == o.length && !o.contains ' ' then o else '"' :: text ++ ['"']

/-- The time of a file as a heading tells it. -/
def headingTime (form : DiffForm) (zone : Zone) (now : Nat) (s : DiffSide) : Octets :=
  let time := if s.isStandard then now else (s.facts.map (·.modified)).getD 0
  (Moment.ofTime zone time).format (octets
    (if form == .context then "%a %b %e %H:%M:%S %Y" else "%Y-%m-%d %H:%M:%S.%N %z"))

/-- What is shown before the changes of two files. -/
def headingOf (r : DiffRequest) (isWithin : Bool) (zone : Zone) (now : Nat) (a b : DiffSide) :
    Octets :=
  let first := headingName (r.label 0 a.name)
  let second := headingName (r.label 1 b.name)
  let line (mark : String) (i : Nat) (name : Octets) (s : DiffSide) : Octets :=
    octets mark ++ (match r.labels[i]? with
      | some label => label
      | none => name ++ '\t' :: headingTime r.style.form zone now s) ++ ['\n']
  (if isWithin then octets "diff" ++ r.command ++ ' ' :: first ++ ' ' :: second ++ ['\n'] else [])
    ++ match r.style.form with
      | .context => line "*** " 0 first a ++ line "--- " 1 second b
      | .unified => line "--- " 0 first a ++ line "+++ " 1 second b
      | _ => []

/-- The changes of two texts in the form that is asked for. -/
def shownText (p : TextPair) : Octets :=
  match p.style.form with
  | .plain => p.plainText
  | .context => p.contextText
  | .unified => p.unifiedText
  | .commands => p.commandText
  | .forwardCommands => p.forwardText
  | .counts => p.countText
  | .merged => p.mergedText
  | .columns => p.columnText

/-- How much of a file is looked at to find out whether it holds text. -/
def textSample : Nat := 4096

/-- The bytes of a file. -/
def sideContent (s : DiffSide) : ToolRun (Except Fault Octets) := do
  if s.facts.isNone then return .ok []
  match ← readInput s.name with
  | .ok bytes => return .ok (Octets.ofBytes bytes)
  | .error fault => return .error fault

/-- Tells that two files differ. -/
def tellDifferent (r : DiffRequest) (lead : String) (a b : DiffSide) : ToolRun Unit :=
  printLine (octets lead ++ r.label 0 a.name ++ octets " and " ++ r.label 1 b.name
    ++ octets " differ")

/-- Compares the bytes of two files. -/
def compareContents (r : DiffRequest) (isWithin : Bool) (a b : DiffSide) (first second : Octets) :
    ToolRun Nat := do
  let isBinary (o : Octets) : Bool := (o.take textSample).contains '\x00'
  if r.readsBytes || (!r.isText && (isBinary first || isBinary second)) then
    if first == second then return 0
    tellDifferent r (if r.isBrief then "Files " else "Binary files ") a b
    return if r.isBrief then 1 else diffTrouble
  let p := TextPair.compare r.style first second
  if r.isBrief then
    if p.differs then tellDifferent r "Files " a b
  else if !p.changes.isEmpty || !r.isSilentOfSame then
    let text := shownText p
    if !text.isEmpty || r.style.form == .columns then
      let now ← look (·.now)
      print (headingOf r isWithin (← hereZone) now a b ++ text)
  let mut status := if p.differs then 1 else 0
  if !r.isBrief && !r.style.form.showsMissingEnd then
    for (s, i, o) in [(a, 0, first), (b, 1, second)] do
      if !o.isEmpty && o.getLast? != some '\n' then
        complain (r.label i s.name ++ octets ": No newline at end of file\n")
        status := diffTrouble
  return status

/-- What is known of a file; a single hyphen means what there is to read. -/
def sideAt (r : DiffRequest) (name : Octets) : ToolRun (Except Fault DiffSide) := do
  if name == ['-'] then return .ok ⟨name, some ⟨0, none, 0, 0, 0, 0⟩, true⟩
  match ← find name (!r.keepsLinks) with
  | .ok n =>
    let facts ← look fun k => factsOf k.tree n
    return .ok ⟨name, some facts, false⟩
  | .error fault => return .error fault

/-- The names that two directories have, each with which of them have it. -/
def pairNames (fuel : Nat) (first second : List Octets) :
    List (Option Octets × Option Octets) :=
  match fuel, first, second with
  | 0, _, _ => []
  | _, [], second => second.map fun b => (none, some b)
  | _, first, [] => first.map fun a => (some a, none)
  | fuel + 1, a :: r, b :: s =>
    if a == b then (some a, some b) :: pairNames fuel r s
    else if Octets.le a b then (some a, none) :: pairNames fuel r (b :: s)
    else (none, some b) :: pairNames fuel (a :: r) s

/-- The sorted names in a directory that count. -/
def countedNames (r : DiffRequest) (isTop : Bool) (s : DiffSide) : ToolRun (List Octets) := do
  if s.facts.isNone then return []
  let names := (← namesIn s.name).filter fun name => !r.excludes name
  let names := names.mergeSort Octets.le
  match r.start with
  | some start => return if isTop then names.dropWhile fun n => !Octets.le start n else names
  | none => return names

/-- A file in a directory that may not be there. -/
def within (r : DiffRequest) (s : DiffSide) (name : Octets) (isThere : Bool) :
    ToolRun (Except Fault DiffSide) := do
  let path := inDirectory s.name name
  if isThere then sideAt r path else return .ok ⟨path, none, false⟩

/-- The last part of a path. -/
def lastPart (path : Octets) : Octets :=
  (path.reverse.takeWhile (· != '/')).reverse

/-- Compares two files, or two directories; `parents` are the directories that they are in. -/
def compareSides (r : DiffRequest) (fuel : Nat) (parents : Option (DiffSide × DiffSide))
    (a b : DiffSide) : ToolRun Nat :=
  match fuel with
  | 0 => return diffTrouble
  | fuel + 1 => do
    let isWithin := parents.isSome
    let onlyIn (isFirst : Bool) : ToolRun Nat := do
      match parents with
      | none => return 1
      | some (p, q) =>
        let directory := if isFirst then p.name else q.name
        printLine (octets "Only in " ++ directory ++ octets ": "
          ++ lastPart (if isFirst then a.name else b.name))
        return 1
    let compareDirectories : ToolRun Nat := do
      let first ← countedNames r (!isWithin) a
      let second ← countedNames r (!isWithin) b
      let mut status := 0
      for (x, y) in pairNames (first.length + second.length) first second do
        let name := (x.or y).getD []
        let isMissed := if x.isNone then !(r.addsMissing || r.addsMissingFirst)
          else y.isNone && !r.addsMissing
        if isMissed then
          printLine (octets "Only in " ++ (if x.isNone then b else a).name ++ octets ": " ++ name)
          status := max status 1
        else
          let c ← within r a name x.isSome
          let d ← within r b name y.isSome
          match c, d with
          | .ok c, .ok d => status := max status (← compareSides r fuel (some (a, b)) c d)
          | _, _ =>
            if let .error fault := c then complainPlainly (inDirectory a.name name) fault
            if let .error fault := d then complainPlainly (inDirectory b.name name) fault
            status := diffTrouble
      return status
    let isSame := match a.facts, b.facts with
      | some f, some g => (a.isStandard && b.isStandard)
        || (!a.isStandard && !b.isStandard && f.node == g.node)
      | _, _ => false
    let isMissingOne := a.facts.isNone || b.facts.isNone
    let status ←
      if a.facts.isNone && b.facts.isNone then pure 0
      else if isSame && r.isSilentOfSame then pure 0
      else if a.isDirectory && b.isDirectory then
        if isWithin && !r.isRecursive then
          printLine (octets "Common subdirectories: " ++ a.name ++ octets " and " ++ b.name)
          pure 0
        else compareDirectories
      else if isMissingOne && (a.isDirectory || b.isDirectory) then
        if r.isRecursive && (r.addsMissing || (r.addsMissingFirst && a.facts.isNone)) then
          compareDirectories
        else onlyIn a.facts.isSome
      else if (a.isDirectory || b.isDirectory)
          || (isWithin && !((a.isPlain || a.facts.isNone) && (b.isPlain || b.facts.isNone))) then
        if isMissingOne then onlyIn a.facts.isSome
        else
          printLine (octets "File " ++ r.label 0 a.name ++ octets " is a " ++ a.kindText
            ++ octets " while file " ++ r.label 1 b.name ++ octets " is a " ++ b.kindText)
          pure 1
      else if a.isLink || b.isLink then
        let target (s : DiffSide) : Option String := match s.facts.bind (·.kind) with
          | some (.link t) => some t
          | _ => none
        if a.isLink && b.isLink then
          if target a == target b then pure 0
          else
            tellDifferent r "Symbolic links " a b
            pure 1
        else
          printLine (octets "File " ++ r.label 0 a.name ++ octets " is a " ++ a.kindText
            ++ octets " while file " ++ r.label 1 b.name ++ octets " is a " ++ b.kindText)
          pure 1
      else
        let first ← sideContent a
        let second ← if isSame then pure first else sideContent b
        match first, second with
        | .ok first, .ok second => compareContents r isWithin a b first second
        | _, _ =>
          if let .error fault := first then complainPlainly a.name fault
          if let .error fault := second then complainPlainly b.name fault
          pure diffTrouble
    if status == 0 && r.tellsSame && !a.isDirectory then
      printLine (octets "Files " ++ r.label 0 a.name ++ octets " and " ++ r.label 1 b.name
        ++ octets " are identical")
    return status

/-- Two files that are named: one that is not there is like an empty one if the other is there and
that is wanted. -/
def DiffRequest.standIns (r : DiffRequest) (first second : Octets) (a b : Except Fault DiffSide) :
    Except Fault DiffSide × Except Fault DiffSide :=
  match a, b with
  | .error .missing, .ok s =>
    (if r.addsMissing || r.addsMissingFirst then .ok ⟨first, none, false⟩ else .error .missing,
      .ok s)
  | .ok s, .error .missing =>
    (.ok s, if r.addsMissing then .ok ⟨second, none, false⟩ else .error .missing)
  | a, b => (a, b)

/-- Compares two files that are named. -/
def compareNamed (r : DiffRequest) (first second : Octets) : ToolRun Nat := do
  let a ← sideAt r first
  let b ← sideAt r second
  let (a, b) := r.standIns first second a b
  match a, b with
  | .ok a, .ok b =>
    if a.isDirectory == b.isDirectory || a.facts.isNone || b.facts.isNone then
      compareSides r 1000 none a b
    else
      let (file, directory) := if a.isDirectory then (b, a) else (a, b)
      if file.isStandard then giveUp diffTrouble (octets "cannot compare '-' to a directory")
      let path := inDirectory directory.name (lastPart file.name)
      match ← sideAt r path with
      | .error fault =>
        complainPlainly path fault
        return diffTrouble
      | .ok s =>
        let (c, d) := if a.isDirectory then (s, b) else (a, s)
        compareSides r 1000 none c d
  | _, _ =>
    if let .error fault := a then complainPlainly first fault
    if let .error fault := b then complainPlainly second fault
    return diffTrouble

/-- Compares files line by line. -/
def differenceTool : Procedure := fun _ arguments => do
  modify fun s => { s with usage := octets "diff: " }
  let (r, operands) ← readDiffRequest arguments
  match r.first, r.second with
  | some _, some _ => giveUp diffTrouble (octets "--from-file and --to-file both specified")
  | some first, none =>
    operands.foldlM (fun status b => return max status (← compareNamed r first b)) 0
  | none, some second =>
    operands.foldlM (fun status a => return max status (← compareNamed r a second)) 0
  | none, none =>
    match operands with
    | [a, b] => compareNamed r a b
    | _ :: _ :: c :: _ => giveUpUsage diffTrouble (octets "extra operand " ++ quote c)
    | _ =>
      giveUpUsage diffTrouble (octets "missing operand after "
        ++ quote (arguments.getLastD (octets "diff")))

end Flowscript.Tool
