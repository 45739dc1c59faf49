import Flowscript.Host.Kernel
import Flowscript.Programs.Tool.Calendar
import Flowscript.Programs.Tool.Paging.Press

/-!
# Files as pages

* `PageOptions` is what options say about pages, and `PageOptions.layout` how those are laid out.
* `pageTool` prints files as pages.
-/

set_option autoImplicit false

namespace Flowscript.Tool

/-- What options say about pages. -/
structure PageOptions where
  columns : Option Nat
  columnDigits : Octets
  firstPage : Option Nat
  lastPage : Nat
  isAcross : Bool
  isParallel : Bool
  isDouble : Bool
  hidden : HiddenStyle
  dateFormat : Octets
  inputTab : Option (Char × Nat)
  outputTab : Option (Char × Nat)
  usesFeeds : Bool
  header : Option Octets
  joins : Bool
  length : Nat
  numbers : Option (Char × Nat)
  start : Option Int
  margin : Nat
  isQuiet : Bool
  /-- What separates columns, and whether that was said in the newer way, or in the older one. -/
  separator : Octets
  hasSeparator : Bool
  hasOldSeparator : Bool
  hasOldOptions : Bool
  hasEnds : Bool
  keepsFeeds : Bool
  hasOldWidth : Bool
  truncates : Bool
  width : Nat

namespace PageOptions

/-- What is so if no option says anything. -/
def standard : PageOptions :=
  { columns := none, columnDigits := [], firstPage := none, lastPage := 2 ^ 64 - 1
    isAcross := false, isParallel := false, isDouble := false, hidden := .plain
    dateFormat := octets "%Y-%m-%d %H:%M", inputTab := none, outputTab := none
    usesFeeds := false, header := none, joins := false, length := 66, numbers := none
    start := none, margin := 0, isQuiet := false, separator := [], hasSeparator := false
    hasOldSeparator := false, hasOldOptions := false, hasEnds := true, keepsFeeds := false
    hasOldWidth := false, truncates := false, width := 72 }

/-- The largest number of lines or columns. -/
def most : Nat := 2 ^ 31 - 1

/-- Reads a number that is at least another one. -/
def readNumber (what : String) (least : Int) (o : Octets) : ToolRun Int := do
  let (sign, n) : Int × Option Nat := match o with
    | '-' :: r => (-1, Octets.natural? r)
    | _ => (1, none)
  let value := sign * ((n.getD 0 : Nat) : Int)
  if n.isNone then return ← integerIn 1 what least most o
  if least ≤ value then return value
  let reason := if value.natAbs < 2 ^ 30 then ": Numerical result out of range"
    else ": Value too large for defined data type"
  giveUp 1 (octets (what ++ ": ") ++ quote o ++ octets reason)

/-- Reads a character and a number, each of which can be left out. -/
def readMark (letter : Char) (other : Char × Nat) (o : Octets) : ToolRun (Char × Nat) := do
  let (mark, digits) := match o with
    | c :: r => if c.isDigit then (other.1, o) else (c, r)
    | [] => (other.1, [])
  if digits.isEmpty then return (mark, other.2)
  match Octets.natural? digits with
  | some n =>
    if 0 < n && n ≤ most then return (mark, n)
  | none => pure ()
  let isLarge := digits.all Char.isDigit && (Octets.natural? digits).any (most < ·)
  complain (octets "'-" ++ [letter]
    ++ octets "' extra characters or invalid number in the argument: " ++ quote digits
    ++ octets (if isLarge then ": Value too large for defined data type" else ""))
  suggestHelp 1

/-- Reads the first page and the last one; nothing is answered if a text does not say them. -/
def readPages? (what : String) (o : Octets) : ToolRun (Option (Nat × Nat)) := do
  let refuse {α : Type} (problem rest : String) : ToolRun α :=
    giveUp 1 (octets (problem ++ what ++ " argument '") ++ o ++ octets ("'" ++ rest))
  let number (o : Octets) : ToolRun (Nat × Octets) := do
    let o := if o.head? == some '+' then o.drop 1 else o
    let digits := o.takeWhile Char.isDigit
    match Octets.natural? digits with
    | none => refuse "invalid " ""
    | some n =>
      if 2 ^ 64 ≤ n then refuse "" " too large"
      return (n, o.drop digits.length)
  let (first, rest) ← number o
  if first == 0 then return none
  match rest with
  | [] => return some (first, 2 ^ 64 - 1)
  | ':' :: rest =>
    let (last, rest) ← number rest
    if !rest.isEmpty then refuse "invalid suffix in " ""
    return if first ≤ last then some (first, last) else none
  | _ => return none

/-- Takes an option. -/
def take (s : PageOptions) (option : GivenOption) : ToolRun PageOptions := do
  let (name, o) := option
  let s := if name == "column-digits" then s else { s with columnDigits := s.columnDigits ++ [' '] }
  let whole (what : String) (least : Int) : ToolRun Nat := do
    return (← readNumber what least o).toNat
  match name with
  | "column-digits" =>
    let digits := if s.columnDigits.getLast? == some ' ' then [] else s.columnDigits
    return { s with columnDigits := digits ++ o }
  | "pages" =>
    match ← readPages? "--pages" o with
    | some (first, last) => return { s with firstPage := some first, lastPage := last }
    | none => giveUp 1 (octets "invalid page range " ++ quote o)
  | "columns" =>
    return { s with columns := some (← whole "invalid number of columns" 1), columnDigits := [] }
  | "across" => return { s with isAcross := true }
  | "show-control-chars" =>
    return { s with hidden := if s.hidden == .octal then .octal else .caret }
  | "double-space" => return { s with isDouble := true }
  | "date-format" => return { s with dateFormat := o }
  | "expand-tabs" =>
    return { s with inputTab := some (← readMark 'e' (s.inputTab.getD ('\t', 8)) o) }
  | "form-feed" => return { s with usesFeeds := true }
  | "header" => return { s with header := some o }
  | "output-tabs" =>
    return { s with outputTab := some (← readMark 'i' (s.outputTab.getD ('\t', 8)) o) }
  | "join-lines" => return { s with joins := true }
  | "length" => return { s with length := ← whole "'-l PAGE_LENGTH' invalid number of lines" 1 }
  | "merge" => return { s with isParallel := true }
  | "number-lines" =>
    return { s with numbers := some (← readMark 'n' (s.numbers.getD ('\t', 5)) o) }
  | "first-line-number" =>
    let start ← readNumber "'-N NUMBER' invalid starting line number" (-2 ^ 31) o
    return { s with start := some start }
  | "indent" => return { s with margin := ← whole "'-o MARGIN' invalid line offset" 0 }
  | "no-file-warnings" => return { s with isQuiet := true }
  | "separator" =>
    return { s with
      hasOldOptions := true, hasOldSeparator := true
      separator := if s.hasSeparator || o.isEmpty then s.separator else o }
  | "sep-string" => return { s with hasOldSeparator := false, hasSeparator := true, separator := o }
  | "omit-header" => return { s with hasEnds := false, keepsFeeds := true }
  | "omit-pagination" => return { s with hasEnds := false, keepsFeeds := false }
  | "show-nonprinting" => return { s with hidden := .octal }
  | "width" =>
    let width ← whole "'-w PAGE_WIDTH' invalid number of characters" 1
    return { s with
      hasOldOptions := true, hasOldWidth := true, width := if s.truncates then s.width else width }
  | "page-width" =>
    let width ← whole "'-W PAGE_WIDTH' invalid number of characters" 1
    return { s with hasOldWidth := false, truncates := true, width := width }
  | _ => return s

/-- The options with what the older ones among them mean. -/
def settled (s : PageOptions) : PageOptions :=
  let hasColumns := s.isParallel || s.columns.isSome
  if !s.hasOldOptions then s
  else if s.hasOldWidth then
    if hasColumns then
      { s with truncates := true, hasSeparator := s.hasSeparator || s.hasOldSeparator }
    else { s with joins := true }
  else if !s.hasSeparator && s.hasOldSeparator && hasColumns then
    if s.truncates then { s with hasSeparator := true }
    else { s with joins := true, hasSeparator := !s.separator.isEmpty }
  else s

/-- The time in the heads of a file, and its name. -/
structure Heading where
  time : Octets
  name : Octets

/-- How the pages of some number of columns are laid out. -/
def layout (s : PageOptions) (columns : Nat) (h : Heading) : PageLayout :=
  let room := s.length - 10
  let hasEnds := s.hasEnds && room != 0
  let lines := if hasEnds then room else s.length
  let isMany := 1 < columns
  let separator : Octets :=
    if !isMany then s.separator
    else if !s.hasSeparator then [if s.joins then '\t' else ' ']
    else if !s.joins && s.separator == ['\t'] then [' ']
    else s.separator
  let truncates := (s.truncates || isMany) && !s.joins
  let (mark, digits) := s.numbers.getD ('\t', 5)
  let numbers : PageNumbers :=
    ⟨mark, digits, if mark == '\t' then digits + (8 - digits % 8) else digits + 1⟩
  let used := if s.isParallel && s.numbers.isSome then numbers.width else 0
  let (inputTab, inputTabWidth) := s.inputTab.getD ('\t', 8)
  let (outputTab, outputTabWidth) := s.outputTab.getD ('\t', 8)
  let text := s.header.getD h.name
  let shown (o : Octets) : Nat := (o.filter fun c => 32 ≤ c.toNat && c.toNat < 127).length
  { columns := columns, isParallel := s.isParallel
    isDown := isMany && !s.isAcross && !s.isParallel
    lines := if s.isDouble then max 1 (lines / 2) else lines
    hasEnds := hasEnds, keepsFeeds := s.keepsFeeds || room == 0
    usesFeeds := s.usesFeeds, isDouble := s.isDouble
    truncates := truncates, hidden := s.hidden
    expandsTabs := s.inputTab.isSome || (isMany && separator != ['\t'])
    inputTab := inputTab, inputTabWidth := inputTabWidth
    makesTabs := s.outputTab.isSome || isMany
    outputTab := outputTab, outputTabWidth := outputTabWidth
    separator := separator, hasSeparator := s.hasSeparator || isMany
    margin := s.margin
    columnWidth := (s.width - used - (columns - 1) * separator.length) / columns
    numbers := if s.numbers.isSome then some numbers else none
    headTime := h.time, headText := text
    headWidth := (s.width : Int) - shown h.time - shown text
    lastPage := s.lastPage }

end PageOptions

/-- The press before the first page, for inputs of which each column shows one. -/
def Press.start (l : PageLayout) (inputs : Array Octets) (shown : List Nat) (number : Int) :
    Press :=
  let column (k input : Nat) : PageColumn :=
    let size := l.separator.length
    let isWide := l.isParallel && l.numbers.isSome
    let used := match l.numbers with
      | some n => if isWide then n.width else 0
      | none => 0
    let start := if k == 0 then l.margin + size
      else if l.truncates then l.margin + k * (l.columnWidth + size) + used
      else 0
    { input := input, state := .ready, left := 0, next := 0, stored := 0, start := start
      isNumbered := l.numbers.isSome && (!l.isParallel || k == 0), wasFull := false }
  { out := .empty, inputs := inputs
    columns := ((shown.zipIdx).map fun (input, k) => column k input).toArray
    ready := if l.isParallel then shown.length else 1
    lines := #[], line := [], place := 0, column := 0, blanks := 0, separators := 0, padding := 0
    needsHead := false, needsFeed := false, hasLine := false, isEmptyLine := false
    isOnlyFeed := false, alignsEmpty := false, page := 1, number := number }

/-- Prints the pages of inputs of which each column shows one. -/
def printPages (s : PageOptions) (l : PageLayout) (inputs : Array Octets) (shown : List Nat) :
    ToolRun Unit := do
  let l := { l with columns := shown.length }
  let first := s.firstPage.getD 1
  let size := inputs.foldl (fun n o => n + o.length) 0
  let work : Pressing (Option Nat) := do
    match ← Press.skipPages s.start.isNone 1 (min (first - 1) (size + 1)) with
    | some page => return some page
    | none =>
      modify fun s => { s with page := first }
      Press.putPages (2 * size + 4)
      return none
  let (tooFew, press) := (work.run l).run (Press.start l inputs shown (s.start.getD 1))
  match tooFew with
  | some page =>
    complain (octets ("starting page number " ++ toString first ++ " exceeds page count "
      ++ toString page))
  | none => printBytes press.out

/-- Reads an input for pages, unless it cannot be opened. -/
def readPageInput (s : PageOptions) (path : Octets) : ToolRun (Option Octets) := do
  match ← openInput path with
  | .error fault =>
    if !s.isQuiet then complainAbout path fault
    noteFailure 1
    return none
  | .ok descriptor =>
    let result ← liftM (Run.readAll descriptor)
    closeInput descriptor
    match result with
    | .ok bytes => return some (Octets.ofBytes bytes)
    | .error fault =>
      complainAbout path fault
      exit 1

/-- Ends the program if columns have no room. -/
def needRoom (l : PageLayout) : ToolRun Unit := do
  if l.columnWidth == 0 then giveUp 1 (octets "page width too narrow")

/-- Prints the pages of a file, or of what there is to read. -/
def printFile (s : PageOptions) (path : Octets) : ToolRun Unit := do
  let columns := s.columns.getD 1
  let isInput := path == ['-']
  let now ← look (·.now)
  needRoom (s.layout columns ⟨[], []⟩)
  match ← readPageInput s path with
  | none => return ()
  | some o =>
    let written ← if isInput then pure none else look (·.writtenAt? path)
    let time := written.getD now
    let heading : PageOptions.Heading :=
      ⟨(← momentOf time).format s.dateFormat, if isInput then [] else path⟩
    printPages s (s.layout columns heading) #[o] (List.replicate columns 0)

/-- Prints the pages of files side by side. -/
def printParallel (s : PageOptions) (paths : List Octets) : ToolRun Unit := do
  let heading : PageOptions.Heading := ⟨(← momentOf (← look (·.now))).format s.dateFormat, []⟩
  let l := s.layout paths.length heading
  needRoom l
  let mut inputs : Array Octets := #[]
  let mut shown : List Nat := []
  let mut common : Option Nat := none
  for path in paths do
    match path == ['-'], common with
    | true, some n => shown := shown ++ [n]
    | isInput, _ =>
      match ← readPageInput s path with
      | none => pure ()
      | some o =>
        if isInput then common := some inputs.size
        shown := shown ++ [inputs.size]
        inputs := inputs.push o
  if !shown.isEmpty then printPages s l inputs shown

/-- Prints files as pages. -/
def pageTool : Procedure := fun _ arguments => do
  let optional (letter : Char) (name : String) : OptionSpec := ⟨letter, name, .optional⟩
  let (given, operands) ← options
    ([.setting OptionSpec.noLetter "pages", .setting OptionSpec.noLetter "columns",
      .flag 'a' "across", .flag 'b' "balance", .flag 'c' "show-control-chars",
      .flag 'd' "double-space", .setting 'D' "date-format", optional 'e' "expand-tabs",
      .flag 'f' "form-feed", .flag 'F' "form-feed", .setting 'h' "header",
      optional 'i' "output-tabs", .flag 'J' "join-lines", .setting 'l' "length",
      .flag 'm' "merge", optional 'n' "number-lines", .setting 'N' "first-line-number",
      .setting 'o' "indent", .flag 'r' "no-file-warnings", optional 's' "separator",
      optional 'S' "sep-string", .flag 't' "omit-header", .flag 'T' "omit-pagination",
      .flag 'v' "show-nonprinting", .setting 'w' "width", .setting 'W' "page-width"]
      ++ OptionSpec.number "column-digits") 1 arguments
  let mut s := PageOptions.standard
  for option in given do s ← s.take option
  let digits := s.columnDigits.filter (· != ' ')
  if !digits.isEmpty then
    let count ← PageOptions.readNumber "invalid number of columns" 1 digits
    s := { s with columns := some count.toNat }
  let mut paths : List Octets := []
  for o in operands do
    let pages ← match o, s.firstPage with
      | '+' :: r, none => PageOptions.readPages? "+" r
      | _, _ => pure none
    match pages with
    | some (first, last) => s := { s with firstPage := some first, lastPage := last }
    | none => paths := paths ++ [o]
  if s.isParallel && s.columns.isSome then
    giveUp 1 (octets "cannot specify number of columns when printing in parallel")
  if s.isParallel && s.isAcross then
    giveUp 1 (octets "cannot specify both printing across and printing in parallel")
  s := s.settled
  if paths.isEmpty then printFile { s with isParallel := false } ['-']
  else if s.isParallel then printParallel s paths
  else for path in paths do printFile s path
  notedStatus

end Flowscript.Tool
