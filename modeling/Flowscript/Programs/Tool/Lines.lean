import Flowscript.Programs.Regex.Reading
import Flowscript.Programs.Tool.Basic

/-!
# Laying out lines

Tools that change tabs, wrap lines and number them.

* `TabStops` are the columns to which tabs lead, and `readTabStops` reads them.
* `expandTool` puts blanks in place of tabs, `unexpandTool` tabs in place of blanks.
* `foldTool` breaks lines that are too wide, and `reverseTool` turns lines around.
* `LineChoice` says which lines get a number.
* `PageStyle` is how the lines of a page with a head, a body and a foot are numbered.
* `numberTool` prints lines with numbers.
-/

set_option autoImplicit false

namespace Flowscript.Tool

/-! ## Programs for tabs and blanks -/

/-! ### Columns -/

/-- What comes after the last of a list of columns: single blanks, columns that a number divides, or
columns at a distance from the last one. -/
inductive TabRest where
  | blanks
  | multiples (n : Nat)
  | steps (n : Nat)

/-- The columns to which tabs lead. -/
structure TabStops where
  list : List Nat
  rest : TabRest

/-- The column to which a tab leads, if one does. -/
def TabStops.next? (stops : TabStops) (column : Nat) : Option Nat :=
  match stops.list.find? (column < ·) with
  | some stop => some stop
  | none =>
    match stops.rest with
    | .blanks => none
    | .multiples n => some (column + (n - column % n))
    | .steps n => some (column + (n - (column - stops.list.getLastD 0) % n))

/-- Reads a list of columns, after some that have been read. -/
def readTabStops (fuel : Nat) (o : Octets) (stops : TabStops) : ToolRun TabStops :=
  match fuel with
  | 0 => return stops
  | fuel + 1 => do
    match o with
    | [] => return stops
    | c :: r =>
      if c == ',' || c == ' ' || c == '\t' then readTabStops fuel r stops
      else
        let isRest := c == '/' || c == '+'
        let text := if isRest then r else o
        let digits := text.takeWhile Char.isDigit
        let following := text.drop digits.length
        match Octets.natural? digits with
        | none =>
          if isRest && (following.isEmpty || following.head? == some ',') then
            readTabStops fuel following stops
          else giveUp 1 (octets "tab size contains invalid character(s): " ++ quote o)
        | some n =>
          if following.head?.any fun c => c == '/' || c == '+' then
            giveUp 1 (octets "'" ++ following.take 1
              ++ octets "' specifier not at start of number: " ++ quote following)
          if following.head?.any fun c => c != ',' && c != ' ' && c != '\t' then
            giveUp 1 (octets "tab size contains invalid character(s): " ++ quote following)
          if isRest then
            if !(stops.rest matches .blanks) then
              giveUp 1 (octets "'" ++ [c]
                ++ octets "' specifier only allowed with the last value")
            let rest := if c == '/' then TabRest.multiples n else .steps n
            readTabStops fuel following (if n == 0 then stops else { stops with rest := rest })
          else
            if !(stops.rest matches .blanks) then
              let mark := if stops.rest matches .multiples _ then "/" else "+"
              giveUp 1 (octets ("'" ++ mark ++ "' specifier only allowed with the last value"))
            readTabStops fuel following { stops with list := stops.list ++ [n] }

/-- The columns that lists mean: every eighth if there is none. -/
def tabStopsOf (lists : List Octets) : ToolRun TabStops := do
  let o := Octets.join [','] lists
  let stops ← readTabStops (o.length + 1) o ⟨[], .blanks⟩
  if stops.list.contains 0 then giveUp 1 (octets "tab size cannot be 0")
  if (stops.list.zip (stops.list.drop 1)).any fun p => p.2 ≤ p.1 then
    giveUp 1 (octets "tab sizes must be ascending")
  match stops with
  | ⟨[], .blanks⟩ => return ⟨[], .multiples 8⟩
  | ⟨[n], .blanks⟩ => return ⟨[], .multiples n⟩
  | ⟨[], .steps n⟩ => return ⟨[], .multiples n⟩
  | _ => return stops

/-- Arguments in which a list of columns after a hyphen is written as an option with a value. -/
def withTabLists (arguments : List Octets) : List Octets := arguments.flatMap fun o =>
  match o with
  | '-' :: c :: r =>
    if c.isDigit && (c :: r).all fun d => d.isDigit || d == ',' then [['-', 't'], c :: r] else [o]
  | _ => [o]

/-! ### Blanks in place of tabs -/

/-- A line with blanks in place of tabs; `onlyFirst` says that those after another character stay. -/
def TabStops.expand (stops : TabStops) (onlyFirst : Bool) (line : Octets) : Octets :=
  let step (s : Octets × Nat × Bool) (c : Char) : Octets × Nat × Bool :=
    let (out, column, converts) := s
    if !converts then (c :: out, column, converts)
    else
      let goesOn := !onlyFirst || c == ' ' || c == '\t'
      match c with
      | '\t' =>
        let next := (stops.next? column).getD (column + 1)
        (List.replicate (next - column) ' ' ++ out, next, goesOn)
      | '\x08' => (c :: out, column - 1, goesOn)
      | _ => (c :: out, column + 1, goesOn)
  (line.foldl step ([], 0, true)).1.reverse

/-- Prints blanks in place of tabs. -/
def expandTool : Procedure := fun _ arguments => do
  let (given, paths) ← options [.setting 't' "tabs", .flag 'i' "initial"] 1
    (withTabLists arguments)
  let stops ← tabStopsOf ((given.filter (·.1 == "tabs")).map (·.2))
  mapLines (stops.expand (has given "initial")) paths

/-! ### Tabs in place of blanks -/

/-- A line that is gone through: what came out, the last character first, the blanks that wait, the
column, whether there was one blank just before a column for tabs, whether the last character was a
blank, and whether blanks are still turned into tabs. -/
structure Unexpanding where
  out : Octets
  waiting : Octets
  column : Nat
  hasBlankBefore : Bool
  wasBlank : Bool
  converts : Bool

/-- Lets the blanks that wait come out. -/
def Unexpanding.settle (s : Unexpanding) : Unexpanding :=
  let blanks := if 1 < s.waiting.length && s.hasBlankBefore then '\t' :: s.waiting.drop 1
    else s.waiting
  { s with
    out := blanks.reverse ++ s.out
    waiting := []
    hasBlankBefore := s.hasBlankBefore && s.waiting.isEmpty }

/-- Goes past one character. -/
def TabStops.unexpandStep (stops : TabStops) (onlyFirst : Bool) (s : Unexpanding) (c : Char) :
    Unexpanding :=
  if !s.converts then { s with out := c :: s.out }
  else
    let isBlank := c == ' ' || c == '\t'
    let finish (s : Unexpanding) (c : Char) : Unexpanding :=
      let s := s.settle
      { s with
        out := c :: s.out
        wasBlank := isBlank
        converts := s.converts && (!onlyFirst || isBlank) }
    let replace (s : Unexpanding) : Unexpanding :=
      let waiting := match s.waiting with
        | [] => []
        | _ :: r => '\t' :: r
      { s with waiting := if s.hasBlankBefore then waiting.take 1 else [] }
    if isBlank then
      match stops.next? s.column with
      | none => finish { s with converts := false } c
      | some next =>
        if c == '\t' then finish (replace { s with column := next }) c
        else
          let column := s.column + 1
          let s := { s with column := column }
          if s.wasBlank && column == next then
            finish (replace s) '\t'
          else
            { s with
              hasBlankBefore := s.hasBlankBefore || column == next
              waiting := s.waiting ++ [c]
              wasBlank := true }
    else if c == '\x08' then finish { s with column := s.column - 1 } c
    else finish { s with column := s.column + 1 } c

/-- A line with tabs in place of blanks. -/
def TabStops.unexpand (stops : TabStops) (onlyFirst : Bool) (line : Octets) : Octets :=
  let s := line.foldl (stops.unexpandStep onlyFirst) ⟨[], [], 0, false, true, true⟩
  s.settle.out.reverse

/-- Prints tabs in place of blanks. -/
def unexpandTool : Procedure := fun _ arguments => do
  let (given, paths) ← options
    [.setting 't' "tabs", .flag 'a' "all", .flag OptionSpec.noLetter "first-only"] 1
    (withTabLists arguments)
  let lists := (given.filter (·.1 == "tabs")).map (·.2)
  let stops ← tabStopsOf lists
  let isAll := (has given "all" || !lists.isEmpty) && !has given "first-only"
  mapLines (stops.unexpand (!isAll)) paths

/-! ## Programs that reshape lines -/

/-! ### Characters of lines -/

/-- The column after a character. -/
def columnAfter (countsBytes : Bool) (column : Nat) (c : Char) : Nat :=
  if countsBytes then column + 1
  else
    match c with
    | '\t' => (column / 8 + 1) * 8
    | '\x08' => column - 1
    | '\r' => 0
    | _ => column + 1

/-- The column after some characters. -/
def widthOf (countsBytes : Bool) (o : Octets) : Nat := o.foldl (columnAfter countsBytes) 0

/-- Breaks a line into pieces that are not too wide; `piece` is what the present one holds, the last
character first. -/
def foldPieces (countsBytes atBlanks : Bool) (width fuel : Nat) (piece rest : Octets) :
    List Octets :=
  match fuel, rest with
  | 0, _ => [piece.reverse ++ rest]
  | _, [] => [piece.reverse]
  | fuel + 1, c :: r =>
    if columnAfter countsBytes (widthOf countsBytes piece.reverse) c ≤ width || piece.isEmpty then
      foldPieces countsBytes atBlanks width fuel (c :: piece) r
    else
      let tail := piece.takeWhile fun c => c != ' ' && c != '\t'
      if atBlanks && tail.length < piece.length then
        (piece.drop tail.length).reverse
          :: foldPieces countsBytes atBlanks width fuel tail rest
      else piece.reverse :: foldPieces countsBytes atBlanks width fuel [] rest

/-- Breaks lines that are too wide. -/
def foldTool : Procedure := fun _ arguments => do
  let arguments := match arguments with
    | ('-' :: c :: r) :: rest =>
      if c.isDigit then ['-', 'w'] :: (c :: r) :: rest else arguments
    | _ => arguments
  let (given, paths) ← options
    [.setting 'w' "width", .flag 's' "spaces", .flag 'b' "bytes"] 1 arguments
  let width ← naturalIn given "width" "invalid number of columns" 1 80
  mapLines (fun line => Octets.join ['\n']
    (foldPieces (has given "bytes") (has given "spaces") width (2 * line.length + 2) [] line)) paths

/-- Turns lines around. -/
def reverseTool : Procedure := fun _ arguments => do
  let (_, paths) ← options [] 1 arguments
  mapLines List.reverse paths

/-! ## Lines with numbers -/

/-- Which lines get a number. -/
inductive LineChoice where
  | every
  | filled
  | never
  | matching (r : Regex)

/-- Reads which lines get a number; nothing is answered if a text does not say it. -/
def LineChoice.read? (o : Octets) : ToolRun (Option LineChoice) := do
  match o with
  | 'a' :: _ => return some .every
  | 't' :: _ => return some .filled
  | 'n' :: _ => return some .never
  | 'p' :: text =>
    match Regex.read .simple text with
    | .ok r => return some (.matching r)
    | .error fault => giveUp 1 (octets fault.message)
  | _ => return none

/-- The parts of a page. -/
inductive PagePart where
  | head
  | body
  | foot
  deriving DecidableEq, Repr

/-- How a number is printed. -/
inductive NumberPlace where
  | left
  | right
  | zeros
  deriving DecidableEq, Repr

/-- How the lines of a page are numbered: which lines of each part, the first number, the distance
of numbers, whether each part starts with the first number, which of some empty lines counts, the
width of a number, where it stands, what follows it, and the mark of which a line that starts a part
is made up. -/
structure PageStyle where
  choice : PagePart → LineChoice
  start : Int
  increment : Int
  restarts : Bool
  emptyLines : Nat
  width : Nat
  place : NumberPlace
  between : Octets
  mark : Octets

namespace PageStyle

/-- The text of a number. -/
def number (style : PageStyle) (n : Int) : Octets :=
  let digits := Nat.toDigits 10 n.natAbs
  let sign := if n < 0 then ['-'] else []
  let gap := style.width - digits.length - sign.length
  match style.place with
  | .left => sign ++ digits ++ List.replicate gap ' '
  | .right => List.replicate gap ' ' ++ sign ++ digits
  | .zeros => sign ++ List.replicate gap '0' ++ digits

/-- The part that a line starts. -/
def partOf? (style : PageStyle) (line : Octets) : Option PagePart :=
  if style.mark.length < 2 then none
  else if line == style.mark ++ style.mark ++ style.mark then some .head
  else if line == style.mark ++ style.mark then some .body
  else if line == style.mark then some .foot
  else none

/-- What is known between lines: the part of the page, the next number, and how many empty lines
came without one. -/
structure Progress where
  part : PagePart
  next : Int
  empties : Nat

/-- Prints one line. -/
def step (style : PageStyle) (s : Progress) (line : Octets) (_ : Bool) :
    ToolRun (Onward Progress) := do
  match style.partOf? line with
  | some part =>
    printLine []
    return ({ s with part := part, next := if style.restarts then style.start else s.next }, true)
  | none =>
    let counts := match style.choice s.part with
      | .every => style.emptyLines ≤ 1 || !line.isEmpty || style.emptyLines ≤ s.empties + 1
      | .filled => !line.isEmpty
      | .never => false
      | .matching r => (r.search? ⟨false, false⟩ line 0).isSome
    if counts then
      if Int64s.greatest < s.next || s.next < Int64s.least then
        giveUp 1 (octets "line number overflow")
      printLine (style.number s.next ++ style.between ++ line)
      return ({ s with next := s.next + style.increment, empties := 0 }, true)
    printLine (List.replicate (style.width + style.between.length) ' ' ++ line)
    let empties := if style.choice s.part matches .every then s.empties + 1 else s.empties
    return ({ s with empties := empties }, true)

end PageStyle

/-- Prints lines with numbers. -/
def numberTool : Procedure := fun _ arguments => do
  let (given, paths) ← options
    [.setting 'h' "header-numbering", .setting 'b' "body-numbering",
      .setting 'f' "footer-numbering", .setting 'v' "starting-line-number",
      .setting 'i' "line-increment", .flag 'p' "no-renumber", .setting 'l' "join-blank-lines",
      .setting 's' "number-separator", .setting 'w' "number-width", .setting 'n' "number-format",
      .setting 'd' "section-delimiter"] 1 arguments
  let mut head := LineChoice.never
  let mut body := LineChoice.filled
  let mut foot := LineChoice.never
  let mut start : Int := 1
  let mut increment : Int := 1
  let mut emptyLines : Nat := 1
  let mut width : Nat := 6
  let mut place := NumberPlace.right
  let mut isWrong := false
  for (name, o) in given do
    let refuse (what : String) : ToolRun Unit := complain (octets what ++ quote o)
    match name with
    | "header-numbering" =>
      match ← LineChoice.read? o with
      | some choice => head := choice
      | none =>
        refuse "invalid header numbering style: "
        isWrong := true
    | "body-numbering" =>
      match ← LineChoice.read? o with
      | some choice => body := choice
      | none =>
        refuse "invalid body numbering style: "
        isWrong := true
    | "footer-numbering" =>
      match ← LineChoice.read? o with
      | some choice => foot := choice
      | none =>
        refuse "invalid footer numbering style: "
        isWrong := true
    | "starting-line-number" =>
      start ← integerIn 1 "invalid starting line number" Int64s.least Int64s.greatest o
    | "line-increment" =>
      increment ← integerIn 1 "invalid line number increment" Int64s.least Int64s.greatest o
    | "join-blank-lines" =>
      let n ← integerIn 1 "invalid line number of blank lines" 1 Int64s.greatest o
      emptyLines := n.toNat
    | "number-width" =>
      width := (← integerIn 1 "invalid line number field width" 1 2147483647 o).toNat
    | "number-format" =>
      match String.ofList o with
      | "ln" => place := .left
      | "rn" => place := .right
      | "rz" => place := .zeros
      | _ =>
        refuse "invalid line numbering format: "
        isWrong := true
    | _ => pure ()
  if isWrong then suggestHelp 1
  let mark := (valueOf? given "section-delimiter").getD (octets "\\:")
  let style : PageStyle :=
    { choice := fun
        | .head => head
        | .body => body
        | .foot => foot
      start := start
      increment := increment
      restarts := !has given "no-renumber"
      emptyLines := emptyLines
      width := width
      place := place
      between := (valueOf? given "number-separator").getD ['\t']
      mark := if mark.length == 1 then mark ++ [':'] else mark }
  let _ ← eachLine '\n' style.step 1 ⟨.body, start, 0⟩ (inputsOr paths)
  notedStatus

end Flowscript.Tool
