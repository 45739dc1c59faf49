import Std.Data.HashMap
import Flowscript.Programs.Difference
import Flowscript.Programs.Text.CharClass
import Flowscript.Programs.Text.Directive
import Flowscript.Programs.Tool.Difference.Style

/-!
# Differences as they are written

Files are compared, and what differs is written line by line, in columns or merged.

* `TextPair` are the lines of two texts and the changes between them, and `TextPair.compare` finds
  those.
* `TextPair.hunks` are the changes that are shown together.
* `DiffStyle.shownLine` is a line as it is shown after a mark.
* `TextPair.plainText` shows changes one by one, `contextText` and `unifiedText` with lines around
  them.
* `TextPair.commandText` shows them as commands of an editor.
* `TextPair.columnText` shows the lines of two files in two columns, with a mark between them where
  they differ.
* `MergeFormats.group` writes lines of two files as a format says.
* `TextPair.mergedText` writes all lines of two files like that.
-/

set_option autoImplicit false

namespace Flowscript.Tool

open Difference (Change)

/-! ## Two texts that are compared -/

/-- The lines of two texts and the changes between them. -/
structure TextPair where
  style : DiffStyle
  first : Array Octets
  second : Array Octets
  changes : List Change

/-- Numbers for lines, the same for those that count as the same. -/
def numberLines (s : DiffStyle) (lines : List Octets) (known : Std.HashMap (Octets × Bool) Nat) :
    Array Nat × Std.HashMap (Octets × Bool) Nat :=
  lines.foldl (fun (numbers, known) line =>
    let key := s.key line
    match known[key]? with
    | some n => (numbers.push n, known)
    | none => (numbers.push (known.size + 1), known.insert key (known.size + 1))) (#[], known)

namespace TextPair

/-- Whether nobody wants to know about some changes. -/
def isTrivial (p : TextPair) (changes : List Change) : Bool :=
  p.style.hasTrivial && changes.all fun c =>
    (p.first.extract c.first c.firstStop).all p.style.isTrivial
      && (p.second.extract c.second c.secondStop).all p.style.isTrivial

/-- Compares two texts. -/
def compare (s : DiffStyle) (a b : Octets) : TextPair :=
  let first := s.linesOf a
  let second := s.linesOf b
  let skipped := Difference.commonStart first.toList second.toList - s.horizon
  let lines := first.toList.drop skipped
  let others := second.toList.drop skipped
  let left := Difference.commonStart lines.reverse others.reverse - s.horizon
  let lines := lines.take (lines.length - left)
  let others := others.take (others.length - left)
  let (numbers, known) := numberLines s lines {}
  let (otherNumbers, _) := numberLines s others known
  let p : TextPair := ⟨s, first, second,
    Difference.changesOf s.isMinimal skipped numbers otherNumbers⟩
  { p with changes := p.changes.map fun c => { c with isIgnored := p.isTrivial [c] } }

/-- Whether there is a change that somebody wants to know about. -/
def differs (p : TextPair) : Bool := p.changes.any (!·.isIgnored)

/-- Changes with lines around them, those together that are close to one another. -/
def hunks (p : TextPair) : List (List Change) :=
  (Difference.hunksOf p.style.context p.changes).filter (!p.isTrivial ·)

/-- The changes that somebody wants to know about. -/
def shownChanges (p : TextPair) : List Change := p.changes.filter (!·.isIgnored)

end TextPair

/-! ### Lines -/

/-- What is said after a last line that has no end. -/
def missingEnd : Octets := Octets.ofText "\n\\ No newline at end of file\n"

namespace DiffStyle

/-- A line with blanks for its tabs; after a return it starts again, with its mark. -/
def withoutTabs (s : DiffStyle) (mark : Octets) (column : Nat) : Octets → Octets
  | [] => []
  | '\t' :: r =>
    let count := s.tabSize - column % s.tabSize
    List.replicate count ' ' ++ withoutTabs s mark (column + count) r
  | '\r' :: r =>
    '\r' :: (if r.isEmpty || r.head? == some '\n' then [] else mark) ++ withoutTabs s mark 0 r
  | '\x08' :: r =>
    if column == 0 then withoutTabs s mark 0 r else '\x08' :: withoutTabs s mark (column - 1) r
  | c :: r =>
    c :: withoutTabs s mark (if 32 ≤ c.toNat && c.toNat < 127 then column + 1 else column) r

/-- The text of a line. -/
def lineText (s : DiffStyle) (mark line : Octets) : Octets :=
  if s.expandsTabs then s.withoutTabs mark 0 line else line

/-- The text of a line, and what is said if it has no end. -/
def endedLine (s : DiffStyle) (mark line : Octets) : Octets :=
  s.lineText mark line ++ (if line.getLast? == some '\n' then [] else missingEnd)

/-- A line after a mark, with a gap between them. -/
def shownLine (s : DiffStyle) (mark : Octets) (line : Octets) : Octets :=
  let lead := mark ++ [if s.alignsTabs then '\t' else ' ']
  let shown := if s.leavesEmptyLines && line.head? == some '\n' then mark.filter (· != ' ')
    else lead
  shown ++ s.endedLine lead line

end DiffStyle

/-! ## Changes as they are shown -/

/-- Digits of a number. -/
def digitsOf (n : Nat) : Octets := Nat.toDigits 10 n

namespace TextPair

/-- Lines between two places. -/
def between (lines : Array Octets) (start stop : Nat) : List Octets :=
  (lines.extract start stop).toList

/-- The lines that a change takes out. -/
def deletedBy (p : TextPair) (c : Change) : List Octets := between p.first c.first c.firstStop

/-- The lines that a change puts in. -/
def insertedBy (p : TextPair) (c : Change) : List Octets := between p.second c.second c.secondStop

/-- The numbers of the first and last of some lines, or of the line before if there are none. -/
def lineNumbers (mark : Char) (start stop : Nat) : Octets :=
  if start + 1 < stop then digitsOf (start + 1) ++ mark :: digitsOf stop else digitsOf stop

/-- The letter for a change. -/
def letterOf (c : Change) : Char :=
  if c.inserted == 0 then 'd' else if c.deleted == 0 then 'a' else 'c'

/-! ### One by one -/

/-- Shows each change by itself. -/
def plainText (p : TextPair) : Octets := p.shownChanges.flatMap fun c =>
  lineNumbers ',' c.first c.firstStop ++ letterOf c :: lineNumbers ',' c.second c.secondStop
    ++ '\n' :: (p.deletedBy c).flatMap (p.style.shownLine ['<'])
    ++ (if letterOf c == 'c' then Octets.ofText "---\n" else [])
    ++ (p.insertedBy c).flatMap (p.style.shownLine ['>'])

/-! ### With lines around them -/

/-- Lines of both files that are shown together: the changes and where they start and stop. -/
structure Span where
  changes : List Change
  firstStart : Nat
  firstStop : Nat
  secondStart : Nat
  secondStop : Nat

/-- The span of a hunk. -/
def spanOf (p : TextPair) (hunk : List Change) : Span :=
  let context := p.style.context
  let start := hunk.headD ⟨0, 0, 0, 0, false⟩
  let last := hunk.getLastD start
  ⟨hunk, start.first - context, min (last.firstStop + context) p.first.size,
    start.second - context, min (last.secondStop + context) p.second.size⟩

/-- The beginning of a heading, after the blanks before it. -/
def headingText (line : Octets) : Octets :=
  let isBlank (c : Char) : Bool := Text.isSpace c && c != '\n'
  let text := ((line.dropWhile isBlank).takeWhile (· != '\n')).take 40
  ' ' :: (text.reverse.dropWhile Text.isSpace).reverse

/-- The last heading before a line. -/
def headingBefore? (p : TextPair) (line : Nat) : Option Octets :=
  ((between p.first 0 line).reverse.find? (DiffStyle.matchesAny p.style.headings)).map headingText

/-- Spans, each with the heading before it. -/
def spans (p : TextPair) : List (Span × Octets) := p.hunks.map fun hunk =>
  let span := p.spanOf hunk
  (span, if p.style.headings.isEmpty then [] else (p.headingBefore? span.firstStart).getD [])

/-- Lines from a place on, each with a mark: an exclamation mark if the change it belongs to has
lines on the other side, and otherwise one of its own. -/
def markedFrom (s : DiffStyle) (mark : Char) (place : Nat) (changes : List (Nat × Nat × Bool)) :
    List Octets → Octets
  | [] => []
  | line :: rest =>
    let changes := changes.dropWhile fun (_, stop, _) => stop ≤ place
    let shown := match changes with
      | (start, _, isBoth) :: _ => if start ≤ place then if isBoth then '!' else mark else ' '
      | [] => ' '
    s.shownLine [shown] line ++ markedFrom s mark (place + 1) changes rest

/-- Shows lines that changed with those around them, first of one file and then of the other. -/
def contextText (p : TextPair) : Octets := p.spans.flatMap fun (span, heading) =>
  let title (mark : String) (start stop : Nat) (tail : String) : Octets :=
    Octets.ofText mark ++ lineNumbers ',' start stop ++ Octets.ofText tail
  Octets.ofText "***************" ++ heading ++ '\n'
    :: title "*** " span.firstStart span.firstStop " ****\n"
    ++ (if span.changes.all (·.deleted == 0) then [] else
      markedFrom p.style '-' span.firstStart
        (span.changes.map fun c => (c.first, c.firstStop, c.inserted != 0))
        (between p.first span.firstStart span.firstStop))
    ++ title "--- " span.secondStart span.secondStop " ----\n"
    ++ (if span.changes.all (·.inserted == 0) then [] else
      markedFrom p.style '+' span.secondStart
        (span.changes.map fun c => (c.second, c.secondStop, c.deleted != 0))
        (between p.second span.secondStart span.secondStop))

/-- A line that both files have. -/
def unchangedLine (s : DiffStyle) (line : Octets) : Octets :=
  (if s.leavesEmptyLines && line.head? == some '\n' then []
    else [if s.alignsTabs then '\t' else ' ']) ++ s.endedLine [] line

/-- A line that only one file has. -/
def changedLine (s : DiffStyle) (mark : Char) (line : Octets) : Octets :=
  mark :: (if s.alignsTabs && !(s.leavesEmptyLines && line.head? == some '\n') then ['\t'] else [])
    ++ s.endedLine [] line

/-- Changes with the lines from a place on to a stop. -/
def unifiedFrom (p : TextPair) (place stop : Nat) : List Change → Octets
  | [] => (between p.first place stop).flatMap (unchangedLine p.style)
  | c :: rest =>
    (between p.first place c.first).flatMap (unchangedLine p.style)
      ++ (p.deletedBy c).flatMap (changedLine p.style '-')
      ++ (p.insertedBy c).flatMap (changedLine p.style '+')
      ++ unifiedFrom p c.firstStop stop rest

/-- The number of the first of some lines, and how many there are. -/
def lineCounts (start stop : Nat) : Octets :=
  if stop == start then digitsOf stop ++ [',', '0']
  else if stop == start + 1 then digitsOf stop
  else digitsOf (start + 1) ++ ',' :: digitsOf (stop - start)

/-- Shows lines that changed with those around them, in one text. -/
def unifiedText (p : TextPair) : Octets := p.spans.flatMap fun (span, heading) =>
  Octets.ofText "@@ -" ++ lineCounts span.firstStart span.firstStop ++ Octets.ofText " +"
    ++ lineCounts span.secondStart span.secondStop ++ Octets.ofText " @@" ++ heading
    ++ '\n' :: p.unifiedFrom span.firstStart span.firstStop span.changes

/-! ### As commands -/

/-- Lines as an editor takes them in: after a line that is only a dot it has to start again. -/
def entered (s : DiffStyle) (isOpen : Bool) : List Octets → Octets
  | [] => if isOpen then Octets.ofText ".\n" else []
  | line :: rest =>
    let lead := if isOpen then [] else Octets.ofText "a\n"
    if line == ['.', '\n'] then lead ++ Octets.ofText "..\n.\ns/.//\n" ++ entered s false rest
    else lead ++ s.lineText [] line ++ entered s true rest

/-- Shows changes as commands of an editor, the last one first. -/
def commandText (p : TextPair) : Octets := p.shownChanges.reverse.flatMap fun c =>
  lineNumbers ',' c.first c.firstStop ++ letterOf c :: '\n'
    :: (if c.inserted == 0 then [] else entered p.style true (p.insertedBy c))

/-- Shows changes like commands of an editor, the first one first. -/
def forwardText (p : TextPair) : Octets := p.shownChanges.flatMap fun c =>
  letterOf c :: lineNumbers ' ' c.first c.firstStop ++ '\n'
    :: (if c.inserted == 0 then []
      else (p.insertedBy c).flatMap (p.style.lineText []) ++ Octets.ofText ".\n")

/-- Shows changes with how many lines each of them has. -/
def countText (p : TextPair) : Octets := p.shownChanges.flatMap fun c =>
  (if c.deleted == 0 then [] else
    'd' :: digitsOf (c.first + 1) ++ ' ' :: digitsOf c.deleted ++ ['\n'])
  ++ (if c.inserted == 0 then [] else
    'a' :: digitsOf c.firstStop ++ ' ' :: digitsOf c.inserted ++ '\n'
      :: (p.insertedBy c).flatMap (p.style.lineText []))

end TextPair

/-! ## Two files side by side -/

/-- How wide the gap between columns is at least. -/
def leastGap : Nat := 3

namespace DiffStyle

/-- The width of a column, and where the second one starts.  The second one starts where a tab can
lead to. -/
def columnPlaces (s : DiffStyle) : Nat × Nat :=
  let unit := if s.expandsTabs then 1 else s.tabSize
  let both := unit + leastGap
  let middle := s.width / 2 + both / 2 + s.width % 2 * (both % 2)
  let second := middle - middle % unit
  let half := if second ≤ leastGap || s.width ≤ second then 0
    else min (second - leastGap) (s.width - second)
  (half, if half == 0 then s.width else second)

/-- Blanks from one place to another. -/
def blanksTo (s : DiffStyle) (start stop : Nat) : Octets :=
  if s.expandsTabs then List.replicate (stop - start) ' '
  else
    let tabs := stop / s.tabSize - start / s.tabSize
    let start := if tabs == 0 then start else stop / s.tabSize * s.tabSize
    List.replicate tabs '\t' ++ List.replicate (stop - start) ' '

/-- As much of a line as has room: the text, and where it ends.  `here` is where one is in the line,
`place` is where one is on the screen, and `indent` is where the column starts. -/
def halfLine (s : DiffStyle) (indent limit here place : Nat) : Octets → Octets × Nat
  | [] => ([], place)
  | '\n' :: _ => ([], place)
  | '\t' :: r =>
    let count := s.tabSize - here % s.tabSize
    let stop := place + count
    let (text, reached) :=
      if here != place then ([], place)
      else if s.expandsTabs then
        (List.replicate (min stop limit - place) ' ', max place (min stop limit))
      else if stop < limit then (['\t'], stop)
      else ([], place)
    let (rest, last) := halfLine s indent limit (here + count) reached r
    (text ++ rest, last)
  | '\r' :: r =>
    let (rest, last) := halfLine s indent limit 0 0 r
    ('\r' :: s.blanksTo 0 indent ++ rest, last)
  | '\x08' :: r =>
    let back := here - 1
    let (text, reached) :=
      if here == 0 || limit ≤ back then ([], place)
      else if place ≤ back then (List.replicate (back - place) ' ', back)
      else (['\x08'], back)
    let (rest, last) := halfLine s indent limit back reached r
    (text ++ rest, last)
  | c :: r =>
    let isPrinted := 32 ≤ c.toNat && c.toNat < 127
    let next := if isPrinted then here + 1 else here
    if here < limit then
      let (rest, last) := halfLine s indent limit next (if isPrinted then next else place) r
      (c :: rest, last)
    else halfLine s indent limit next place r

/-- A line of each file, or of one of them, with a mark between them. -/
def columnLine (s : DiffStyle) (left : Option Octets) (mark : Char) (right : Option Octets) :
    Octets :=
  let (half, second) := s.columnPlaces
  let isEnded (line : Option Octets) : Bool := line.any (·.getLast? == some '\n')
  let (text, place) := match left with
    | some line => s.halfLine 0 half 0 0 line
    | none => ([], 0)
  let shown := if mark == '|' && isEnded left != isEnded right then
      if isEnded left then '/' else '\\'
    else mark
  let middle := (half + second - 1) / 2
  let (text, place) := if mark == ' ' then (text, place)
    else (text ++ s.blanksTo place middle ++ [shown], middle + 1)
  let tail := match right with
    | some line =>
      if line.head? == some '\n' then []
      else s.blanksTo place second ++ (s.halfLine second half 0 0 line).1
    | none => []
  text ++ tail ++ (if isEnded left || isEnded right then ['\n'] else [])

end DiffStyle

namespace TextPair

/-- Lines that both files have, from some places on. -/
def commonColumns (p : TextPair) (i j stop otherStop : Nat) : Octets :=
  if p.style.hidesCommon then []
  else
    let lines := between p.first i stop
    let others := between p.second j otherStop
    let count := min lines.length others.length
    let alone (lines : List Octets) : Octets :=
      lines.flatMap fun line => p.style.columnLine (some line) '(' none
    if p.style.showsLeft then alone lines
    else
      (lines.zip others).flatMap (fun (a, b) => p.style.columnLine (some a) ' ' (some b))
        ++ (others.drop count).flatMap (fun b => p.style.columnLine none ')' (some b))
        ++ alone (lines.drop count)

/-- Shows a change. -/
def changeColumns (p : TextPair) (c : Change) : Octets :=
  let lines := p.deletedBy c
  let others := p.insertedBy c
  let count := min lines.length others.length
  (lines.zip others).flatMap (fun (a, b) => p.style.columnLine (some a) '|' (some b))
    ++ (others.drop count).flatMap (fun b => p.style.columnLine none '>' (some b))
    ++ (lines.drop count).flatMap (fun a => p.style.columnLine (some a) '<' none)

/-- Shows changes and the lines before them, from some places on. -/
def columnsFrom (p : TextPair) (i j : Nat) : List Change → Octets
  | [] => p.commonColumns i j p.first.size p.second.size
  | c :: rest =>
    p.commonColumns i j c.first c.second ++ p.changeColumns c
      ++ columnsFrom p c.firstStop c.secondStop rest

/-- Shows two files side by side. -/
def columnText (p : TextPair) : Octets := p.columnsFrom 0 0 p.shownChanges

end TextPair

/-! ## Two files in one -/

/-- Lines of one file, from one place up to another. -/
structure LineGroup where
  lines : Array Octets
  start : Nat
  stop : Nat

/-- A number that is told about a group by a letter. -/
def LineGroup.number? (g : LineGroup) (letter : Char) : Option Nat :=
  match letter with
  | 'e' => some g.start
  | 'f' => some (g.start + 1)
  | 'l' => some g.stop
  | 'm' => some (g.stop + 1)
  | 'n' => some (g.stop - g.start)
  | _ => none

/-- A character between apostrophes whose first one has been read, and what follows. -/
def quotedChar? : Octets → Option (Char × Octets)
  | '\\' :: r =>
    let digits := r.takeWhile (· != '\'')
    let isOctal := digits.all fun c => '0' ≤ c && c ≤ '7'
    if 1 ≤ digits.length && digits.length ≤ 3 && isOctal && digits.length < r.length then
      let n := digits.foldl (fun n c => 8 * n + (c.toNat - 48)) 0
      some (Char.ofNat (n % 256), r.drop (digits.length + 1))
    else none
  | c :: '\'' :: r => if c == '\'' then none else some (c, r)
  | _ => none

/-- A directive of a format, of which the percent sign has been read, and what follows.  Numbers are
asked for by letters. -/
def numberDirective? (number? : Char → Option Nat) (o : Octets) : Option (Octets × Octets) := do
  let flags := o.takeWhile fun c => c == '-' || c == '\'' || c == '0'
  let o := o.drop flags.length
  let width := o.takeWhile Char.isDigit
  let o := o.drop width.length
  let (precision, o) : Option Nat × Octets := match o with
    | '.' :: r =>
      let digits := r.takeWhile Char.isDigit
      (some ((Octets.natural? digits).getD 0), r.drop digits.length)
    | o => (none, o)
  match o with
  | 'c' :: '\'' :: r =>
    let (c, rest) ← quotedChar? r
    some ([c], rest)
  | conversion :: letter :: rest =>
    if !(['d', 'o', 'x', 'X'].contains conversion) then none
    else
      let n ← number? letter
      let d := { Text.Directive.ofFlags flags with
        width := (Octets.natural? width).getD 0, precision := precision }
      some (if conversion == 'd' then d.signed n else d.unsigned conversion n, rest)
  | _ => none

namespace DiffStyle

/-- Writes a line as a format says. -/
def formattedLine (s : DiffStyle) (line : Octets) (number : Nat) (fuel : Nat) : Octets → Octets
  | [] => []
  | c :: r =>
    match fuel with
    | 0 => []
    | fuel + 1 =>
      if c != '%' then c :: formattedLine s line number fuel r
      else
        match r with
        | '%' :: r => '%' :: formattedLine s line number fuel r
        | 'l' :: r =>
          s.lineText [] (line.filter (· != '\n')) ++ formattedLine s line number fuel r
        | 'L' :: r => s.lineText [] line ++ formattedLine s line number fuel r
        | r =>
          match numberDirective? (fun c => if c == 'n' then some number else none) r with
          | some (text, rest) => text ++ formattedLine s line number fuel rest
          | none => '%' :: formattedLine s line number fuel r

/-- Writes the lines of a group as a format says. -/
def formattedLines (s : DiffStyle) (format : Octets) (g : LineGroup) : Octets :=
  ((TextPair.between g.lines g.start g.stop).zipIdx (g.start + 1)).flatMap fun (line, n) =>
    s.formattedLine line n (format.length + 1) format

/-- A number in a condition: its digits, or a letter that tells which one is meant. -/
def conditionNumber? (number? : Char → Option Nat) (o : Octets) : Option (Nat × Octets) :=
  let digits := o.takeWhile Char.isDigit
  match Octets.natural? digits, o with
  | some n, _ => some (n, o.drop digits.length)
  | none, c :: r => (number? c).map fun n => (n, r)
  | none, [] => none

/-- Whether the numbers in a condition are the same, and what follows it. -/
def condition? (number? : Char → Option Nat) (o : Octets) : Option (Bool × Octets) :=
  match conditionNumber? number? o with
  | some (a, '=' :: r) =>
    match conditionNumber? number? r with
    | some (b, '?' :: s) => some (a == b, s)
    | _ => none
  | _ => none

/-- Writes groups as a format says, up to a mark, and gives what follows. -/
def formattedGroups (s : DiffStyle) (g h : LineGroup) (mark : Option Char) (fuel : Nat) :
    Octets → Octets × Octets
  | [] => ([], [])
  | c :: r =>
    match fuel with
    | 0 => ([], [])
    | fuel + 1 =>
      let number? (c : Char) : Option Nat :=
        if c.isUpper then h.number? c.toLower else g.number? c
      let goOn (text rest : Octets) : Octets × Octets :=
        let (more, rest) := formattedGroups s g h mark fuel rest
        (text ++ more, rest)
      if some c == mark then ([], c :: r)
      else if c != '%' then goOn [c] r
      else
        match r with
        | '%' :: r => goOn ['%'] r
        | '<' :: r => goOn (s.formattedLines s.formats.lineOfOld g) r
        | '=' :: r => goOn (s.formattedLines s.formats.lineOfBoth g) r
        | '>' :: r => goOn (s.formattedLines s.formats.lineOfNew h) r
        | '(' :: t =>
          match condition? number? t with
          | none => goOn ['%'] r
          | some (isSame, t) =>
            let (yes, t) := formattedGroups s g h (some ':') fuel t
            let (no, t) := formattedGroups s g h (some ')') fuel (t.drop 1)
            goOn (if isSame then yes else no) (t.drop 1)
        | r =>
          match numberDirective? number? r with
          | some (text, rest) => goOn text rest
          | none => goOn ['%'] r

end DiffStyle

namespace TextPair

/-- Writes lines from some places up to others as a format says. -/
def merged (p : TextPair) (format : Octets) (i stop j otherStop : Nat) : Octets :=
  (p.style.formattedGroups ⟨p.first, i, stop⟩ ⟨p.second, j, otherStop⟩ none (format.length + 1)
    format).1

/-- Writes lines that both files have. -/
def mergedCommon (p : TextPair) (i stop j otherStop : Nat) : Octets :=
  if i < stop || j < otherStop then p.merged p.style.formats.groupOfBoth i stop j otherStop
  else []

/-- Writes changes and the lines before them, from some places on. -/
def mergedFrom (p : TextPair) (i j : Nat) : List Change → Octets
  | [] => p.mergedCommon i p.first.size j p.second.size
  | c :: rest =>
    let format := if c.inserted == 0 then p.style.formats.groupOfOld
      else if c.deleted == 0 then p.style.formats.groupOfNew
      else p.style.formats.groupOfChange
    p.mergedCommon i c.first j c.second
      ++ p.merged format c.first c.firstStop c.second c.secondStop
      ++ mergedFrom p c.firstStop c.secondStop rest

/-- Writes two files in one. -/
def mergedText (p : TextPair) : Octets := p.mergedFrom 0 0 p.shownChanges

end TextPair

end Flowscript.Tool
