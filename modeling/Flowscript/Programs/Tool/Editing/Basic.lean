import Flowscript.Programs.Tool.Editing.Script
import Flowscript.Programs.Tool.Names
import Flowscript.Programs.Tool.Processes

/-!
# Editing lines

* `Editor` is what is known while lines are edited: the line at hand, one that is kept, and what
  comes after.
* `Editor.cycle` lets a script work on one line.
* `editTool` edits the lines of its inputs.
-/

set_option autoImplicit false

namespace Flowscript.Tool

/-- What is put out after the line at hand. -/
inductive Appended where
  | text (o : Octets)
  | file (path : Octets)

/-- How lines are edited. -/
structure EditStyle where
  isSilent : Bool
  mark : Char
  /-- How wide a row is when a line is spelled out; zero means that there is one row. -/
  width : Nat
  start : Invocation → Run Nat
  steps : Array EditStep

/-- What is known while lines are edited.  `active` are the ends of the ranges that have begun, by
their steps; `output` is what goes to a file that is edited in place. -/
structure Editor where
  source : LineSource
  line : Octets
  isEnded : Bool
  number : Nat
  kept : Octets
  isKeptEnded : Bool
  appended : List Appended
  active : List (Nat × Option Nat)
  hasReplaced : Bool
  lastPattern : Option Regex
  files : List (Octets × Nat)
  lacksEnd : Bool
  output : Option Octets
  fileLines : List (Octets × List Octets)
  name : Octets

/-- A step of editing. -/
abbrev Edit := StateT Editor ToolRun

/-- How the work on a line ends. -/
inductive EditEnding where
  /-- The line is put out, and the next one comes. -/
  | finished
  /-- The next line comes. -/
  | dropped
  /-- The script starts again without another line. -/
  | again
  | quit (status : Nat) (isSilent : Bool)

/-- Complains about an input that cannot be read. -/
def complainRead (path : Octets) (fault : Fault) : ToolRun Unit := do
  if fault == .isDirectory then
    let name := if path == ['-'] then octets "stdin" else path
    complain (octets "read error on " ++ name ++ octets (": " ++ fault.message))
  else complain (octets "can't read " ++ path ++ octets (": " ++ fault.message))
  noteFailure 2

namespace Editor

/-- Puts out text as it is. -/
def emit (o : Octets) : Edit Unit := do
  match (← get).output with
  | some before => modify fun e => { e with output := some (before ++ o) }
  | none => print o

/-- Ends the last line if that has not been done. -/
def endLine (mark : Char) : Edit Unit := do
  if (← get).lacksEnd then
    emit [mark]
    modify fun e => { e with lacksEnd := false }

/-- Puts out a line, without an end if it has none and is the last one. -/
def putLine (mark : Char) (line : Octets) (isEnded : Bool) : Edit Unit := do
  endLine mark
  emit (if isEnded then line ++ [mark] else line)
  modify fun e => { e with lacksEnd := !isEnded }

/-- The next line of a file that is read line by line. -/
def nextOf (path : Octets) : Edit (Option Octets) := do
  let e ← get
  let lines ← match e.fileLines.lookup path with
    | some lines => pure lines
    | none =>
      match ← (readInput path : ToolRun (Except Fault ByteArray)) with
      | .ok bytes =>
        let (lines, isEnded) := Octets.lines (Octets.ofBytes bytes)
        pure (lines.dropLast.map (· ++ ['\n'])
          ++ lines.getLast?.toList.map fun l => if isEnded then l ++ ['\n'] else l)
      | .error _ => pure []
  set { e with fileLines := (path, lines.drop 1) :: e.fileLines.filter (·.1 != path) }
  return lines.head?

/-- Puts out what comes after a line. -/
def putAppended (mark : Char) : Edit Unit := do
  let appended := (← get).appended
  modify fun e => { e with appended := [] }
  for a in appended do
    match a with
    | .text o =>
      endLine mark
      emit o
    | .file path =>
      match ← (readInput path : ToolRun (Except Fault ByteArray)) with
      | .ok bytes =>
        if !bytes.isEmpty then
          endLine mark
          emit (Octets.ofBytes bytes)
      | .error _ => pure ()

/-- Whether there are no more lines. -/
def isLast (mark : Char) : Edit Bool := do
  let e ← get
  let source ← (e.source.fill complainRead mark Run.patience : ToolRun LineSource)
  set { e with source := source }
  return source.lines.isEmpty

/-- Takes the next line. -/
def takeLine (mark : Char) : Edit (Option (Octets × Bool)) := do
  if ← isLast mark then return none
  let e ← get
  match e.source.lines with
  | line :: rest =>
    let name := match e.source.current with
      | some (path, _) => path
      | none => e.name
    set ({ e with source := { e.source with lines := rest }, number := e.number + 1, name := name }
      : Editor)
    return some line
  | [] => return none

/-- The match of a regular expression, or of the one used last, in the line at hand. -/
def search (r : Option Regex) (mode : RegexMode) (start : Nat) : Edit (Option RegexMatch) := do
  let e ← get
  match r.or e.lastPattern with
  | none =>
    complain (octets "no previous regular expression")
    throw 1
  | some r =>
    set { e with lastPattern := some r }
    return r.search? mode e.line start

/-- Whether the line at hand is one that an address means. -/
def isAt (mark : Char) (address : EditAddress) : Edit Bool := do
  let e ← get
  match address with
  | .line n => return e.number == n
  | .last => isLast mark
  | .every first step =>
    return if step == 0 then e.number == first
      else first ≤ e.number && (e.number - first) % step == 0
  | .matching r mode => return (← search r mode 0).isSome
  | .relative => return false

/-- Whether the line at hand is the last one of a range that has begun before. -/
def endsRange (mark : Char) (limit : Option Nat) (stop : EditRangeEnd) : Edit Bool := do
  let e ← get
  match stop with
  | .last => isLast mark
  | .matching r mode => return (← search r mode 0).isSome
  | _ => return limit.any (· ≤ e.number)

/-- Begins a range at the line at hand, unless that is also its last one. -/
def beginRange (index : Nat) (stop : EditRangeEnd) : Edit Unit := do
  let n := (← get).number
  let limit := match stop with
    | .line m => some m
    | .after m => some (n + m)
    | .multiple m => some (if m == 0 then n else (n / m + 1) * m)
    | _ => none
  if limit.all (n < ·) then
    modify fun e => { e with active := (index, limit) :: e.active }

/-- Whether a step is about the line at hand. -/
def isSelected (mark : Char) (index : Nat) (selection : EditSelection) : Edit Bool := do
  match selection with
  | .all => return true
  | .one address => isAt mark address
  | .range first stop =>
    let e ← get
    match e.active.find? (·.1 == index) with
    | some (_, limit) =>
      let finish : Edit Unit :=
        modify fun e => { e with active := e.active.filter (·.1 != index) }
      match limit with
      | some m =>
        if e.number < m then return true
        finish
        -- A range that was left in between ends where it should have, and may start again.
        if e.number == m then return true else startRange first stop
      | none =>
        if ← endsRange mark limit stop then finish
        return true
    | none => startRange first stop
where
  /-- Begins a range if it starts here. -/
  startRange (first : EditAddress) (stop : EditRangeEnd) : Edit Bool := do
    match first, stop with
    | .line 0, .matching r mode =>
      if (← get).number != 1 then return false
      if !(← search r mode 0).isSome then beginRange index stop
      return true
    | _, _ =>
      if ← isAt mark first then
        beginRange index stop
        return true
      return false

/-! ## Substitution -/

/-- Text to which a change of case is made: for all that follows, and for the next character. -/
structure Casing where
  all : Option CaseChange
  next : Option CaseChange

/-- Changes the case of a text. -/
def Casing.apply (c : Casing) (o : Octets) : Octets × Casing :=
  let whole := match c.all with
    | some .upper => o.map Char.toUpper
    | some .lower => o.map Char.toLower
    | _ => o
  match c.next, whole with
  | some .upperNext, d :: r => (d.toUpper :: r, { c with next := none })
  | some .lowerNext, d :: r => (d.toLower :: r, { c with next := none })
  | _, _ => (whole, c)

/-- What is put in place of a match. -/
def replacementOf (parts : List ReplacementPart) (m : RegexMatch) (line : Octets) : Octets :=
  (parts.foldl (fun (out, casing) part =>
    match part with
    | .char c =>
      let (o, casing) := casing.apply [c]
      (out ++ o, casing)
    | .group n =>
      let (o, casing) := casing.apply (m.group line n)
      (out ++ o, casing)
    | .change .stop => (out, ⟨none, none⟩)
    | .change .upperNext => (out, { casing with next := some .upperNext })
    | .change .lowerNext => (out, { casing with next := some .lowerNext })
    | .change c => (out, ⟨some c, none⟩)) (([] : Octets), (⟨none, none⟩ : Casing))).1

/-- Replaces matches from some position on; `count` have been found, and the last one ended at
`before`. -/
def replaceFrom (s : Substitution) (r : Regex) (line : Octets) (fuel count position : Nat)
    (before : Option Nat) (out : Octets) (isDone : Bool) : Octets × Bool :=
  match fuel with
  | 0 => (out ++ line.drop position, isDone)
  | fuel + 1 =>
    match r.search? s.mode line position with
    | none => (out ++ line.drop position, isDone)
    | some m =>
      let isEmpty := m.start == m.stop
      if isEmpty && before == some m.start then
        -- No match is empty right after another one.
        let step := (line.drop m.start).take 1
        let out := out ++ (line.drop position).take (m.start - position) ++ step
        if step.isEmpty then (out, isDone)
        else replaceFrom s r line fuel count (m.start + 1) none out isDone
      else
        let lead := out ++ (line.drop position).take (m.start - position)
        let count := count + 1
        let replaces := if s.isGlobal then s.first ≤ count else count == s.first
        let text := if replaces then replacementOf s.replacement m line else m.text line
        let isDone := isDone || replaces
        if replaces && !s.isGlobal then (lead ++ text ++ line.drop m.stop, isDone)
        else if isEmpty then
          let step := (line.drop m.stop).take 1
          if step.isEmpty then (lead ++ text, isDone)
          else replaceFrom s r line fuel count (m.stop + 1) none (lead ++ text ++ step) isDone
        else replaceFrom s r line fuel count m.stop (some m.stop) (lead ++ text) isDone

/-- Puts a line into a file, which is opened once. -/
def writeTo (mark : Char) (path line : Octets) (isEnded : Bool) : Edit Unit := do
  let text := if isEnded then line ++ [mark] else line
  if path == octets "/dev/stdout" then putLine mark line isEnded
  else
    match (← get).files.lookup path with
    | some descriptor =>
      let _ ← (liftM (Run.write descriptor (Octets.toBytes text)) : ToolRun (Except Fault Unit))
    | none => return ()

/-- A text without a mark at its end. -/
def withoutEnd (mark : Char) (o : Octets) : Octets :=
  if o.getLast? == some mark then o.dropLast else o

/-- Runs the line at hand as a command; it is then what that prints. -/
def runLine (style : EditStyle) : Edit Unit := do
  let text ← (outputOf style.start (commandShell (← get).line) : ToolRun Octets)
  modify fun e => { e with line := withoutEnd style.mark text }

/-- Makes a substitution. -/
def substitute (style : EditStyle) (s : Substitution) : Edit Unit := do
  let e ← get
  match s.pattern.or e.lastPattern with
  | none =>
    complain (octets "no previous regular expression")
    throw 1
  | some r =>
    let (line, isDone) := replaceFrom s r e.line (2 * e.line.length + 4) 0 0 none [] false
    set { e with
      line := line, lastPattern := some r, hasReplaced := e.hasReplaced || isDone }
    if isDone then
      if s.printsFirst then putLine style.mark line e.isEnded
      if s.runs then runLine style
      let line := (← get).line
      if s.prints then putLine style.mark line e.isEnded
      if let some path := s.file then writeTo style.mark path line e.isEnded

/-- A line with all that cannot be seen spelled out, broken when it is too wide. -/
def spelledOut (width : Nat) (line : Octets) : Octets :=
  let pieces := line.map fun c =>
    match c with
    | '\\' => ['\\', '\\']
    | '\x07' => ['\\', 'a']
    | '\x08' => ['\\', 'b']
    | '\x0c' => ['\\', 'f']
    | '\n' => ['\\', 'n']
    | '\r' => ['\\', 'r']
    | '\t' => ['\\', 't']
    | '\x0b' => ['\\', 'v']
    | c =>
      if 32 ≤ c.toNat && c.toNat < 127 then [c]
      else
        let digits := Nat.toDigits 8 c.toNat
        '\\' :: List.replicate (3 - digits.length) '0' ++ digits
  let (out, last) := pieces.foldl (fun ((out, row) : Octets × Octets) piece =>
    if width != 0 && width - 1 < row.length + piece.length then (out ++ row ++ ['\\', '\n'], piece)
    else (out, row ++ piece)) ([], [])
  out ++ last ++ ['$', '\n']

/-! ## Steps -/

/-- Where a label is. -/
def labelIndex (steps : Array EditStep) (name : Octets) : Nat :=
  if name.isEmpty then steps.size
  else
    (steps.findIdx? fun s => match s.command with
      | .label other => other == name
      | _ => false).getD steps.size

/-- Puts out the line at hand, unless that is not wanted, and what comes after it. -/
def finishLine (style : EditStyle) : Edit Unit := do
  let e ← get
  if !style.isSilent then putLine style.mark e.line e.isEnded
  putAppended style.mark

/-- Does steps from one on. -/
def runFrom (style : EditStyle) (fuel index : Nat) : Edit EditEnding :=
  match fuel with
  | 0 => return .finished
  | fuel + 1 => do
    match style.steps[index]? with
    | none => return .finished
    | some step =>
      let isSelected ← isSelected style.mark index step.selection
      let goOn : Edit EditEnding := runFrom style fuel (index + 1)
      if isSelected == step.isNegated then
        match step.command with
        | .openBlock stop => runFrom style fuel (stop + 1)
        | _ => goOn
      else
        let setLine (f : Editor → Octets) : Edit EditEnding := do
          modify fun e => { e with line := f e }
          goOn
        let change (f : Editor → Editor) : Edit EditEnding := do
          modify f
          goOn
        let firstOf (line : Octets) : Octets := line.takeWhile (· != '\n')
        match step.command with
        | .openBlock _ | .closeBlock | .label _ => goOn
        | .jump name => runFrom style fuel (labelIndex style.steps name)
        | .jumpIf name =>
          if (← get).hasReplaced then
            modify fun e => { e with hasReplaced := false }
            runFrom style fuel (labelIndex style.steps name)
          else goOn
        | .jumpUnless name =>
          if (← get).hasReplaced then
            modify fun e => { e with hasReplaced := false }
            goOn
          else runFrom style fuel (labelIndex style.steps name)
        | .number =>
          endLine style.mark
          emit (Nat.toDigits 10 (← get).number ++ ['\n'])
          goOn
        | .append text =>
          modify fun e => { e with appended := e.appended ++ [.text text] }
          goOn
        | .insert text =>
          endLine style.mark
          emit text
          goOn
        | .change text =>
          let isOver ← match step.selection with
            | .range .. => pure (step.isNegated || !(← get).active.any (·.1 == index))
            | _ => pure true
          if isOver then
            endLine style.mark
            emit text
          return .dropped
        | .delete => return .dropped
        | .deleteFirst =>
          let line := (← get).line
          if line.contains '\n' then
            modify fun e => { e with line := (line.dropWhile (· != '\n')).drop 1 }
            return .again
          else return .dropped
        | .print =>
          let e ← get
          putLine style.mark e.line e.isEnded
          goOn
        | .printFirst =>
          let e ← get
          putLine style.mark (firstOf e.line) (e.isEnded || e.line.contains '\n')
          goOn
        | .list width =>
          endLine style.mark
          emit (spelledOut (width.getD style.width) (← get).line)
          goOn
        | .execute command =>
          if command.isEmpty then runLine style
          else
            endLine style.mark
            emit (← (outputOf style.start (commandShell command) : ToolRun Octets))
          goOn
        | .next =>
          if ← isLast style.mark then
            return .quit 0 false
          let e ← get
          if !style.isSilent then putLine style.mark e.line e.isEnded
          putAppended style.mark
          match ← takeLine style.mark with
          | some (line, isEnded) =>
            modify fun e => { e with line := line, isEnded := isEnded }
            goOn
          | none => return .quit 0 true
        | .nextAppend =>
          if ← isLast style.mark then return .quit 0 false
          putAppended style.mark
          match ← takeLine style.mark with
          | some (line, isEnded) =>
            modify fun e => { e with line := e.line ++ style.mark :: line, isEnded := isEnded }
            goOn
          | none => return .quit 0 false
        | .get => change fun e => { e with line := e.kept, isEnded := e.isKeptEnded }
        | .getAppend => change fun e =>
          { e with line := e.line ++ style.mark :: e.kept, isEnded := e.isKeptEnded }
        | .hold => change fun e => { e with kept := e.line, isKeptEnded := e.isEnded }
        | .holdAppend => change fun e =>
          { e with kept := e.kept ++ style.mark :: e.line, isKeptEnded := e.isEnded }
        | .exchange => change fun e =>
          { e with
            line := e.kept, kept := e.line, isEnded := e.isKeptEnded, isKeptEnded := e.isEnded }
        | .empty => setLine fun _ => []
        | .quit status => return .quit status false
        | .quitSilently status => return .quit status true
        | .read path =>
          modify fun e => { e with appended := e.appended ++ [.file path] }
          goOn
        | .readLine path =>
          match ← nextOf path with
          | some line =>
            modify fun e => { e with appended := e.appended ++ [.text line] }
          | none => pure ()
          goOn
        | .write path =>
          let e ← get
          writeTo style.mark path e.line e.isEnded
          goOn
        | .writeFirst path =>
          let e ← get
          writeTo style.mark path (firstOf e.line) (e.isEnded || e.line.contains '\n')
          goOn
        | .substitute s =>
          substitute style s
          goOn
        | .translate pairs =>
          setLine fun e => e.line.map fun c => (pairs.lookup c).getD c
        | .nameInput =>
          endLine style.mark
          emit ((← get).name ++ ['\n'])
          goOn

/-- Lets the script work on lines until there are no more, and gives the status. -/
def cycle (style : EditStyle) (fuel : Nat) (keepsLine : Bool) : Edit (Nat × Bool) :=
  match fuel with
  | 0 => return (0, false)
  | fuel + 1 => do
    let hasLine ← if keepsLine then pure true else do
      match ← takeLine style.mark with
      | some (line, isEnded) =>
        modify fun e => { e with line := line, isEnded := isEnded, hasReplaced := false }
        pure true
      | none => pure false
    if !hasLine then return (0, false)
    match ← runFrom style Run.patience 0 with
    | .finished =>
      finishLine style
      cycle style fuel false
    | .dropped =>
      putAppended style.mark
      cycle style fuel false
    | .again =>
      putAppended style.mark
      cycle style fuel true
    | .quit status isSilent =>
      if !isSilent then finishLine style
      return (status, true)

end Editor

/-! ## The program -/

/-- The files that a script writes. -/
def writtenFiles (steps : Array EditStep) : List Octets :=
  (steps.toList.filterMap fun s => match s.command with
    | .write path | .writeFirst path => some path
    | .substitute s => s.file
    | _ => none).eraseDups

/-- Opens the files that a script writes. -/
def openWritten (paths : List Octets) : ToolRun (List (Octets × Nat)) :=
  paths.mapM fun path => do
    if path == octets "/dev/stdout" then return (path, 1)
    if path == octets "/dev/stderr" then return (path, 2)
    match ← liftM (Run.openFile (Octets.toText path) .write) with
    | .ok descriptor => return (path, descriptor)
    | .error fault =>
      giveUp 4 (octets "couldn't open file " ++ path ++ octets (": " ++ fault.message))

/-- An editor of some inputs that has not done anything. -/
def Editor.start (paths : List Octets) (files : List (Octets × Nat)) (output : Option Octets) :
    Editor :=
  { source := .ofPaths paths, line := [], isEnded := true, number := 0, kept := []
    isKeptEnded := true, appended := [], active := [], hasReplaced := false, lastPattern := none
    files := files, lacksEnd := false, output := output, fileLines := [], name := ['-'] }

/-- Goes on with another input, whose lines are counted anew. -/
def Editor.turnTo (e : Editor) (path : Octets) (output : Option Octets) : Editor :=
  { e with
    source := .ofPaths [path], number := 0, active := [], output := output, appended := [] }

/-- Where an old file is kept: at a path that is given, in which an asterisk stands for the name, or
under the name with something at its end. -/
def keptPath (ending path : Octets) : Octets :=
  let name := baseName path
  let new := if ending.contains '*' then ending.flatMap fun c => if c == '*' then name else [c]
    else name ++ ending
  if new.contains '/' then new else path.take (path.length - name.length) ++ new

/-- Edits files in place, and keeps the old ones if there is an ending for their names. -/
def editInPlace (style : EditStyle) (ending : Octets) (e : Editor) : List Octets → ToolRun Nat
  | [] => notedStatus
  | path :: rest => do
    match ← find path true with
    | .error fault =>
      complain (octets "can't read " ++ path ++ octets (": " ++ fault.message))
      noteFailure 2
      editInPlace style ending e rest
    | .ok n =>
      match ← look (·.tree.content? n) with
      | none =>
        complain (octets "couldn't edit " ++ path ++ octets ": not a regular file")
        noteFailure 4
        editInPlace style ending e rest
      | some old =>
        let ((status, isOver), e) ←
          (Editor.cycle style Run.patience false).run (e.turnTo path (some []))
        let remaining := e.source.lines.flatMap fun l => if l.2 then l.1 ++ ['\n'] else l.1
        let remainder := if isOver then remaining ++ e.source.pending else []
        let new := Octets.toBytes ((e.output.getD []) ++ remainder)
        if !ending.isEmpty then
          match ← liftM (Run.openFile (Octets.toText (keptPath ending path)) .write) with
          | .ok descriptor =>
            let _ ← liftM (Run.write descriptor old)
            liftM (Run.close descriptor)
          | .error _ => pure ()
        let _ ← changeAt path true fun t place => do
          let mode := t.modeOf n
          let t ← t.unlink place
          let (t, _) ← t.insert { place with node? := none } (.regular new) mode
          .ok t
        if isOver then return status
        editInPlace style ending { e with lacksEnd := false } rest

/-- Edits the lines of inputs one by one. -/
def editEach (style : EditStyle) (e : Editor) : List Octets → ToolRun Nat
  | [] => notedStatus
  | path :: rest => do
    let (_, e) ← (Editor.endLine style.mark).run e
    let ((status, isOver), e) ←
      (Editor.cycle style Run.patience false).run (e.turnTo path none)
    if isOver then return max status (← notedStatus)
    editEach style e rest

/-- Which of the pieces of a script a position is in, and where in that. -/
def placeInPieces (position number : Nat) : List Octets → Nat × Nat
  | [] => (number, position)
  | [_] => (number, position)
  | piece :: rest =>
    if position ≤ piece.length then (number, position)
    else placeInPieces (position - (piece.length + 1)) (number + 1) rest

/-- Complains about a script, which has been put together from pieces. -/
def wrongScript (pieces : List Octets) (text : Octets) (fault : EditFault) : ToolRun Nat := do
  let wrong (lead : String) : ToolRun Nat := giveUp 1 (octets (lead ++ fault.message))
  match fault.place with
  | .nowhere | .unclear => giveUp 4 (octets fault.message)
  | .start => wrong "-e expression #1, char 0: "
  | .before rest =>
    let (number, position) := placeInPieces (text.length - rest.length) 1 pieces
    wrong s!"-e expression #{number}, char {position}: "

/-- Edits the lines of its inputs. -/
def editTool : Procedure := fun start arguments => do
  let (given, operands) ← options
    [.flag 'n' "quiet", .setting 'e' "expression", .setting 'f' "file",
      .flag 'E' "regexp-extended", .flag 'r' "regexp-extended", ⟨'i', "in-place", .optional⟩,
      .flag 's' "separate", .flag 'z' "null-data", .flag 'u' "unbuffered",
      .setting 'l' "line-length", .flag OptionSpec.noLetter "silent",
      .flag OptionSpec.noLetter "posix", .flag OptionSpec.noLetter "debug",
      .flag OptionSpec.noLetter "sandbox"] 1 arguments
  let mut pieces : List Octets := []
  for (name, value) in given do
    if name == "expression" then pieces := pieces ++ [value]
    if name == "file" then
      match ← readInput value with
      | .ok bytes =>
        let (lines, _) := Octets.lines (Octets.ofBytes bytes)
        pieces := pieces ++ [Octets.join ['\n'] lines]
      | .error fault =>
        giveUp 4 (octets "couldn't open file " ++ value ++ octets (": " ++ fault.message))
  let (text, paths) ← match has given "expression" || has given "file", operands with
    | true, _ => pure (Octets.join ['\n'] pieces, operands)
    | false, text :: paths => pure (text, paths)
    | false, [] =>
      let name := (← get).name
      writeErrors (octets "Usage: " ++ name
        ++ octets " [OPTION]... \x7bscript-only-if-no-other-script\x7d [input-file]...\n\n")
      throw 1
  match EditScript.read (has given "regexp-extended") text with
  | .error fault => wrongScript pieces text fault
  | .ok steps =>
    let isQuietScript := match text with
      | '#' :: 'n' :: r => r.isEmpty || r.head? == some '\n'
      | _ => false
    let width ← match valueOf? given "line-length" with
      | none => pure 70
      | some o =>
        match Octets.natural? o with
        | some n => pure n
        | none => giveUp 1 (octets "invalid line length: " ++ o)
    let style : EditStyle :=
      { width := width
        start := start
        isSilent := has given "quiet" || has given "silent" || isQuietScript
        mark := if has given "null-data" then '\x00' else '\n'
        steps := steps }
    let files ← openWritten (writtenFiles steps)
    let e := Editor.start (inputsOr paths) files none
    match valueOf? given "in-place" with
    | some ending => editInPlace style ending e paths
    | none =>
      if has given "separate" then editEach style e (inputsOr paths)
      else
        let ((status, isOver), _) ← (Editor.cycle style Run.patience false).run e
        let noted ← notedStatus
        return if isOver && status != 0 then status else noted

end Flowscript.Tool
