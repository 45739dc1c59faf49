import Flowscript.Programs.Text.CharClass

/-!
# Pages

The layout of a page, and how lines are put on it.

* `PageLayout` says how lines become pages: in how many columns, of which width, and between which
  heads and feet.
* `PageLayout.clump` is what is printed for a character at some place of a column.
* `Press` is what is known while pages are printed: what is left of the inputs, which line of which
  column comes next, and which blanks still wait.
* `printPages` prints all pages, and `skipPages` goes past the first ones.
-/

set_option autoImplicit false

namespace Flowscript.Tool

/-! ## How pages are laid out -/

/-- How lines get numbers: what is between a number and its line, and the width of a number without
and with that. -/
structure PageNumbers where
  mark : Char
  digits : Nat
  width : Nat

/-- What becomes of characters that cannot be printed. -/
inductive HiddenStyle where
  | plain
  | caret
  | octal
  deriving DecidableEq, Repr

/-- How pages are laid out. -/
structure PageLayout where
  columns : Nat
  /-- Each column is a file of its own. -/
  isParallel : Bool
  /-- Lines go down one column after the other, so that a page is read before it is printed. -/
  isDown : Bool
  /-- The number of lines between head and foot. -/
  lines : Nat
  hasEnds : Bool
  keepsFeeds : Bool
  usesFeeds : Bool
  isDouble : Bool
  truncates : Bool
  hidden : HiddenStyle
  expandsTabs : Bool
  inputTab : Char
  inputTabWidth : Nat
  makesTabs : Bool
  outputTab : Char
  outputTabWidth : Nat
  /-- What is printed between columns, and whether it is. -/
  separator : Octets
  hasSeparator : Bool
  margin : Nat
  columnWidth : Nat
  numbers : Option PageNumbers
  /-- The time, the middle and the width of a head. -/
  headTime : Octets
  headText : Octets
  headWidth : Int
  lastPage : Nat

namespace PageLayout

/-- The number of columns up to the next tab, from a column on. -/
def tabWidth (size : Nat) (column : Int) : Int := size - Int.tmod column size

/-- What is printed for a character at some place of a column, and the place after it. -/
def clump (l : PageLayout) (column : Int) (c : Char) : Octets × Int :=
  let isTab := c == l.inputTab || c == '\t'
  let size := if c == l.inputTab then l.inputTabWidth else 8
  let octal : Octets := '\\' :: (Nat.toDigits 8 (512 + c.toNat)).drop 1
  let (shown, width) : Octets × Int :=
    if isTab then
      let width := tabWidth size column
      (if l.expandsTabs then List.replicate width.toNat ' ' else [c], width)
    else if 32 ≤ c.toNat && c.toNat < 127 then ([c], 1)
    else match l.hidden with
      | .octal => (octal, 4)
      | .caret =>
        if c.toNat < 128 then (['^', Char.ofNat (c.toNat ^^^ 64)], 2) else (octal, 4)
      | .plain => ([c], if c == '\x08' then -1 else 0)
  if width < 0 && column == 0 then ([], 0) else (shown, max 0 (column + width))

end PageLayout

/-! ## Printing pages -/

/-- What can still come from a column: lines, or, after a form feed, none on this page, or none any
more.  A page that was read before it is printed can end with a form feed. -/
inductive ColumnState where
  | ready
  | fed
  | held
  | finished
  deriving DecidableEq, Repr

/-- A column: the input that it shows, how many lines are to be printed on this page, the first one
of those that have been read and their number, where it starts, whether its lines get numbers, and
whether the last page was filled without a form feed. -/
structure PageColumn where
  input : Nat
  state : ColumnState
  left : Nat
  next : Nat
  stored : Nat
  start : Int
  isNumbered : Bool
  wasFull : Bool

/-- What is known while pages are printed. -/
structure Press where
  out : ByteArray
  inputs : Array Octets
  columns : Array PageColumn
  /-- How many inputs can be read. -/
  ready : Int
  /-- The lines that were read for this page, with the places where they end, and the start of one. -/
  lines : Array (Octets × Int)
  line : Octets
  /-- The place on the line of the page, and in the column. -/
  place : Int
  column : Int
  blanks : Int
  separators : Nat
  /-- Where the column starts that is not there yet, or nought. -/
  padding : Int
  needsHead : Bool
  needsFeed : Bool
  hasLine : Bool
  isEmptyLine : Bool
  isOnlyFeed : Bool
  alignsEmpty : Bool
  page : Nat
  number : Int

/-- A piece of the work on pages. -/
abbrev Pressing := ReaderT PageLayout (StateM Press)

namespace Press

/-- Something about a column. -/
def about {α : Type} (i : Nat) (other : α) (f : PageColumn → α) : Pressing α := do
  return ((← get).columns[i]?.map f).getD other

/-- The state of a column. -/
def stateOf (i : Nat) : Pressing ColumnState := about i .finished (·.state)

/-- Changes a column. -/
def changeColumn (i : Nat) (f : PageColumn → PageColumn) : Pressing Unit :=
  modify fun s => { s with columns := s.columns.modify i f }

/-- Changes all columns. -/
def changeColumns (f : PageColumn → PageColumn) : Pressing Unit :=
  modify fun s => { s with columns := s.columns.map f }

/-- Changes a column, or all of them if they show the same file. -/
def changeFellows (i : Nat) (f : PageColumn → PageColumn) : Pressing Unit := do
  if (← read).isParallel then changeColumn i f else changeColumns f

/-! ### Input -/

/-- Takes the next character of a column. -/
def takeChar (i : Nat) : Pressing (Option Char) := do
  let n ← about i 0 (·.input)
  match (← get).inputs[n]? with
  | some (c :: r) =>
    modify fun s => { s with inputs := s.inputs.set! n r }
    return some c
  | _ => return none

/-- Takes the end of the line that follows a form feed, if it does. -/
def takeLineEnd (i : Nat) : Pressing Unit := do
  let n ← about i 0 (·.input)
  match (← get).inputs[n]? with
  | some ('\n' :: r) => modify fun s => { s with inputs := s.inputs.set! n r }
  | _ => return ()

/-- Takes the first character of a line, except for a form feed after a page that is full. -/
def takeFirst (i : Nat) : Pressing (Option Char) := do
  let c ← takeChar i
  if c != some '\x0c' || !(← about i false (·.wasFull)) then return c
  let next ← takeChar i
  if next == some '\n' then takeChar i else return next

/-- A bound for how often characters can be taken. -/
def inputBound : Pressing Nat := do
  return (← get).inputs.foldl (fun n o => n + o.length) 2

/-- Notes that an input has ended. -/
def finish (i : Nat) : Pressing Unit := do
  if (← stateOf i) == .finished then return ()
  let isParallel := (← read).isParallel
  changeFellows i fun c =>
    { c with state := .finished, left := if isParallel || c.stored == 0 then 0 else c.left }
  modify fun s => { s with ready := s.ready - 1 }

/-- Notes that a form feed ended the page. -/
def hold (i : Nat) : Pressing Unit := do
  let isDown := (← read).isDown
  changeFellows i fun c => { c with state := if isDown then .fed else .held }
  changeColumn i fun c => { c with left := 0 }
  modify fun s => { s with ready := s.ready - 1 }

/-- Notes a form feed that came from a column. -/
def takeFeed (i : Nat) : Pressing Unit := do
  takeLineEnd i
  if (← read).keepsFeeds then modify fun s => { s with needsFeed := true }
  hold i

/-- Takes the rest of a line. -/
def dropLine (fuel : Nat) (i : Nat) : Pressing Unit :=
  match fuel with
  | 0 => return ()
  | fuel + 1 => do
    match ← takeChar i with
    | some '\n' => return ()
    | some '\x0c' => takeFeed i
    | none => finish i
    | some _ => dropLine fuel i

/-! ### Output -/

/-- Prints a character as it is. -/
def put (c : Char) : Pressing Unit :=
  modify fun s => { s with out := s.out.push c.toNat.toUInt8 }

/-- Prints characters as they are. -/
def putAll (o : Octets) : Pressing Unit := o.forM put

/-- Prints tabs that lead from one place to another, as far as they do, and gives the place. -/
def putTabs (fuel : Nat) (place goal : Int) : Pressing Int :=
  match fuel with
  | 0 => return place
  | fuel + 1 => do
    let l ← read
    let next := place + PageLayout.tabWidth l.outputTabWidth place
    if 1 < goal - place && next ≤ goal then
      put l.outputTab
      putTabs fuel next goal
    else return place

/-- Prints the blanks that wait. -/
def putBlanks : Pressing Unit := do
  let s ← get
  let goal := s.place + s.blanks
  let place ← putTabs (s.blanks.toNat + 1) s.place goal
  putAll (List.replicate (goal - place).toNat ' ')
  modify fun s => { s with place := goal, blanks := 0 }

/-- Prints a character; blanks can wait for others, to become tabs with them. -/
def printChar (c : Char) : Pressing Unit := do
  if (← read).makesTabs then
    if c == ' ' then
      modify fun s => { s with blanks := s.blanks + 1 }
      return ()
    if 0 < (← get).blanks then putBlanks
    let width : Int := if 32 ≤ c.toNat && c.toNat < 127 then 1 else if c == '\x08' then -1 else 0
    modify fun s => { s with place := s.place + width }
  put c

/-- Prints a character, or keeps it for the page that is read. -/
def giveChar (c : Char) : Pressing Unit := do
  if (← read).isDown then modify fun s => { s with line := c :: s.line } else printChar c

/-- Goes to a place on the line. -/
def padTo (place : Int) : Pressing Unit := do
  let s ← get
  if (← read).makesTabs then set { s with blanks := place - s.place }
  else
    putAll (List.replicate (place - s.place).toNat ' ')
    modify fun s => { s with place := place }

/-- Prints what is between columns, for the columns that have been passed. -/
def putSeparator : Pressing Unit := do
  if (← get).separators == 0 then
    if 0 < (← get).blanks then putBlanks
  else
    for c in (← read).separator do
      if c == ' ' then modify fun s => { s with blanks := s.blanks + 1 }
      else
        if 0 < (← get).blanks then putBlanks
        put c
        modify fun s => { s with place := s.place + 1 }
    if 0 < (← get).blanks then putBlanks
    modify fun s => { s with separators := 0 }

/-- Prints the number of a line. -/
def putNumber (n : PageNumbers) : Pressing Unit := do
  let l ← read
  let number := (← get).number
  modify fun s => { s with number := number + 1 }
  let text := (toString number).toList
  let text := List.replicate (n.digits - text.length) ' ' ++ text
  (text.drop (text.length - n.digits)).forM giveChar
  if 1 < l.columns then
    if n.mark == '\t' then (List.replicate (n.width - n.digits) ' ').forM giveChar
    else giveChar n.mark
  else
    giveChar n.mark
    if n.mark == '\t' then
      modify fun s => { s with place := s.place + PageLayout.tabWidth l.outputTabWidth s.place }
  if l.truncates && !l.isParallel then modify fun s => { s with column := s.column + n.width }

/-- Prints the number of a line of a column whose lines get one. -/
def numberColumn (i : Nat) : Pressing Unit := do
  if ← about i false (·.isNumbered) then
    match (← read).numbers with
    | some n => putNumber n
    | none => return ()

/-- Goes to the start of a column, if that is still to be done. -/
def goToColumn : Pressing Unit := do
  let l ← read
  let padding := (← get).padding
  if (l.separator.length : Int) < padding then
    padTo (padding - l.separator.length)
    modify fun s => { s with padding := 0 }
  if l.hasSeparator then putSeparator

/-- Fills an empty column up. -/
def alignColumn (i : Nat) : Pressing Unit := do
  let start ← about i 0 (·.start)
  modify fun s => { s with padding := start }
  goToColumn
  numberColumn i

/-- Prints the head of a page. -/
def putHead : Pressing Unit := do
  let l ← read
  modify fun s => { s with place := 0 }
  padTo l.margin
  putBlanks
  let s ← get
  let page := ("Page " ++ toString s.page).toList
  let gap := (l.headWidth - page.length).toNat
  let blanks (n : Nat) : Octets := List.replicate (max 1 n) ' '
  putAll (['\n', '\n'] ++ List.replicate l.margin ' ' ++ l.headTime ++ blanks (gap / 2)
    ++ l.headText ++ blanks (gap - gap / 2) ++ page ++ ['\n', '\n', '\n'])
  modify fun s => { s with needsHead := false, place := 0 }

/-! ### Lines -/

/-- Prints what is left of a line, and answers whether all of it had room. -/
def putRest (fuel : Nat) (i : Nat) : Pressing Bool :=
  match fuel with
  | 0 => return true
  | fuel + 1 => do
    match ← takeChar i with
    | some '\n' => return true
    | some '\x0c' =>
      takeFeed i
      return true
    | none =>
      finish i
      return true
    | some c =>
      let l ← read
      let (shown, column) := l.clump (← get).column c
      if l.truncates && (l.columnWidth : Int) < column then return false
      modify fun s => { s with column := column }
      shown.forM giveChar
      putRest fuel i

/-- Gets the page ready for the line of a column. -/
def startLine (i : Nat) : Pressing Unit := do
  let l ← read
  modify fun s => { s with hasLine := true }
  if (← get).needsHead then putHead
  if l.isParallel && (← get).alignsEmpty then
    let passed := (← get).separators
    modify fun s => { s with separators := 0 }
    for k in List.range passed do
      alignColumn k
      modify fun s => { s with separators := s.separators + 1 }
    let start ← about i 0 (·.start)
    modify fun s =>
      { s with
        padding := start
        blanks := if l.truncates then l.columnWidth else 0
        alignsEmpty := false }
  goToColumn

/-- Prints a line of a column as it is read, or keeps it for the page that is read.  The answer is
whether all of it had room. -/
def readLine (i : Nat) : Pressing Bool := do
  let l ← read
  let c ← takeFirst i
  changeColumn i fun p => { p with wasFull := false }
  match c with
  | some '\x0c' =>
    modify fun s => { s with isOnlyFeed := true }
    if (← get).needsHead && !l.isDown then
      takeLineEnd i
      modify fun s => { s with hasLine := true }
      putHead
      hold i
    else takeFeed i
    return true
  | none =>
    finish i
    return true
  | some c => do
    let place := (← get).column
    let (shown, column) := if c == '\n' then ([], place) else l.clump place c
    if l.truncates && (l.columnWidth : Int) < column then return false
    modify fun s => { s with column := column }
    if !l.isDown then startLine i
    numberColumn i
    modify fun s => { s with isEmptyLine := false }
    if c == '\n' then return true
    shown.forM giveChar
    putRest (← inputBound) i

/-- Prints a line of a column that was read before. -/
def printStored (i : Nat) : Pressing Unit := do
  let l ← read
  let n ← about i 0 (·.next)
  changeColumn i fun c => { c with next := n + 1 }
  modify fun s => { s with hasLine := true }
  if (← get).needsHead then putHead
  if (← stateOf i) == .fed then
    changeColumns fun c => { c with state := .held }
    if (← about 0 0 (·.left)) == 0 then
      if !l.hasEnds then modify fun s => { s with hasLine := false }
      return ()
  goToColumn
  let (text, stop) := ((← get).lines[n]?).getD ([], 0)
  text.forM printChar
  if (← get).blanks == 0 then
    let start ← about i 0 (·.start)
    let place := start + stop
    let isFirst := start - l.separator.length == l.margin
    modify fun s => { s with place := if isFirst then place - l.separator.length else place }

/-! ### Pages -/

/-- Reads lines for a column, and gives their number. -/
def storeColumn (fuel : Nat) (i : Nat) : Pressing Unit :=
  match fuel with
  | 0 => return ()
  | fuel + 1 => do
    if (← get).ready ≤ 0 then return ()
    if (← stateOf i) == .ready then
      modify fun s => { s with column := 0, line := [] }
      if !(← readLine i) then dropLine (← inputBound) i
      let s ← get
      if (← stateOf i) == .ready || !s.line.isEmpty then
        set { s with lines := s.lines.push (s.line.reverse, s.column), line := [] }
        changeColumn i fun c => { c with stored := c.stored + 1 }
    storeColumn fuel i

/-- Reads the lines of a page, and shares them out among the columns. -/
def storePage : Pressing Unit := do
  let l ← read
  modify fun s => { s with lines := #[] }
  changeColumns fun c => { c with stored := 0 }
  for i in List.range l.columns do
    if 0 < (← get).ready then storeColumn l.lines i
  let total := (← get).lines.size
  for i in List.range l.columns do
    let count := total / l.columns + (if i < total % l.columns then 1 else 0)
    let first := i * (total / l.columns) + min i (total % l.columns)
    changeColumn i fun c => { c with stored := count, next := first, left := count }

/-- How many columns have something for this page. -/
def readyColumns : Pressing Nat := do
  let isDown := (← read).isDown
  return (← get).columns.foldl (fun n c =>
    if c.state == .ready || c.state == .fed || (isDown && 0 < c.stored && 0 < c.left) then n + 1
    else n) 0

/-- Prints what a column has for a line of the page, and answers whether no column has more. -/
def putColumn (i : Nat) : Pressing Bool := do
  let l ← read
  modify fun s => { s with column := 0 }
  let isFed := (← stateOf i) == .fed
  if isFed || 0 < (← about i 0 (·.left)) then
    let start ← about i 0 (·.start)
    modify fun s => { s with isOnlyFeed := false, padding := start }
    if l.isDown then printStored i
    else if !(← readLine i) then dropLine (← inputBound) i
    changeColumn i fun c => { c with left := c.left - 1 }
    if (← about i 0 (·.left)) == 0 && (← readyColumns) == 0 then return true
    let state ← stateOf i
    if l.isParallel && state != .ready then
      if (← get).isEmptyLine then modify fun s => { s with alignsEmpty := true }
      else if state == .finished || (state == .held && (← get).isOnlyFeed) then alignColumn i
  else if l.isParallel then
    if (← get).isEmptyLine then modify fun s => { s with alignsEmpty := true }
    else alignColumn i
  if l.hasSeparator then modify fun s => { s with separators := s.separators + 1 }
  return false

/-- Prints what the columns from one on have for a line of the page. -/
def putColumns : List Nat → Pressing Unit
  | [] => return ()
  | i :: rest => do if ← putColumn i then return () else putColumns rest

/-- Prints the lines of a page, and gives how many had room on it still, and whether there was one.
-/
def putLines (fuel : Nat) (left : Int) (any : Bool) : Pressing (Int × Bool) :=
  match fuel with
  | 0 => return (left, any)
  | fuel + 1 => do
    let l ← read
    if left ≤ 0 || (← readyColumns) == 0 then return (left, any)
    modify fun s =>
      { s with
        place := 0, blanks := 0, separators := 0, hasLine := false, alignsEmpty := false
        isEmptyLine := true }
    putColumns (List.range l.columns)
    let hasLine := (← get).hasLine
    let any := any || hasLine
    if hasLine then put '\n'
    let left := if hasLine then left - 1 else left
    if (← readyColumns) == 0 && !l.hasEnds then return (left, any)
    if l.isDouble && any then
      put '\n'
      putLines fuel (left - 1) any
    else putLines fuel left any

/-- Lets the columns that wait for the next page go on. -/
def release : Pressing Unit := do
  let s ← get
  let waiting := s.columns.foldl (fun n c => if c.state == .held then n + 1 else n) (0 : Int)
  changeColumns fun c => { c with state := if c.state == .held then .ready else c.state }
  modify fun s => { s with ready := s.ready + waiting }
  if (← read).isDown then
    let ready : Int := if (← stateOf 0) == .finished then 0 else 1
    modify fun s => { s with ready := ready }

/-- Prints a page, and answers whether there can be more. -/
def putPage : Pressing Bool := do
  let l ← read
  if l.isDown then storePage
  else changeColumns fun c => { c with left := if c.state == .ready then l.lines else 0 }
  if (← readyColumns) == 0 then return false
  if l.hasEnds then modify fun s => { s with needsHead := true }
  let room := if l.isDouble then 2 * l.lines else l.lines
  let (left, any) ← putLines (2 * room + (← inputBound)) room false
  if left == 0 then
    changeColumns fun c => { c with wasFull := c.wasFull || c.state == .ready }
  if any && l.hasEnds then
    if l.usesFeeds then put '\x0c' else putAll (List.replicate (left + 5).toNat '\n')
  else if l.keepsFeeds && (← get).needsFeed then
    put '\x0c'
    modify fun s => { s with needsFeed := false }
  modify fun s => { s with page := s.page + 1 }
  if l.lastPage < (← get).page then return false
  release
  return true

/-- Prints pages. -/
def putPages (fuel : Nat) : Pressing Unit :=
  match fuel with
  | 0 => return ()
  | fuel + 1 => do if ← putPage then putPages fuel

/-! ### Pages that are not printed -/

/-- Goes past the rest of a line. -/
def skipRest (fuel : Nat) (i : Nat) (isLast : Bool) (c : Option Char) : Pressing Unit :=
  match fuel with
  | 0 => return ()
  | fuel + 1 => do
    match c with
    | some '\n' => return ()
    | some '\x0c' =>
      if isLast then changeFellows i fun p => { p with wasFull := false }
      takeLineEnd i
      hold i
    | none => finish i
    | some _ => skipRest fuel i isLast (← takeChar i)

/-- Goes past a line of a column, and counts it if lines that are not printed count. -/
def skipLine (counts : Bool) (i : Nat) (isLast : Bool) : Pressing Unit := do
  let c ← takeFirst i
  changeColumn i fun p => { p with wasFull := isLast }
  skipRest (← inputBound) i isLast c
  if counts && (!(← read).isParallel || i == 0) && c != some '\x0c' then
    modify fun s => { s with number := s.number + 1 }

/-- Goes past pages up to one, and gives the page after the last one if there are too few. -/
def skipPages (counts : Bool) (page count : Nat) : Pressing (Option Nat) :=
  match count with
  | 0 => return none
  | count + 1 => do
    let l ← read
    for n in List.range l.lines do
      for i in List.range l.columns do
        if (← stateOf i) == .ready then skipLine counts i (n + 1 == l.lines)
    if l.isDown then
      changeColumns fun c => { c with state := if c.state == .finished then c.state else .held }
    release
    if (← get).ready < 1 then return some page
    skipPages counts (page + 1) count

end Press

end Flowscript.Tool
