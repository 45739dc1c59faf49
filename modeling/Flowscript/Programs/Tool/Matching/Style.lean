import Flowscript.Programs.Regex.OrderedReading
import Flowscript.Programs.Regex.Reading
import Flowscript.Text.Basic
import Flowscript.Text.Octets
import Flowscript.Programs.Tool.Basic

/-!
# What is looked for and how it is shown

Colours, patterns and the options of a search for lines.

* `Colours` says what is sent to a terminal around the parts of a line.
* `Colours.read` takes them from a text of settings.
* `LinePattern` are regular expressions of which one has to match a part of a line, or an ordered
  one.
* `LinePattern.search?` finds the first match, and there the longest one.
* `MatchStyle` says what is shown of the lines that are selected.
* `MatchStyle.showLine` shows a line, and `MatchStyle.step` decides which lines are shown.
-/

set_option autoImplicit false

namespace Flowscript.Tool

/-! ## Colours of lines that match -/

/-- Numbers that choose a colour; none is chosen if there are no numbers. -/
structure Colours where
  selectedMatch : Octets
  contextMatch : Octets
  selectedLine : Octets
  contextLine : Octets
  name : Octets
  lineNumber : Octets
  byteNumber : Octets
  separator : Octets
  /-- Whether lines that are selected because nothing matches count as context. -/
  isReversed : Bool
  /-- Whether the rest of a line on the screen is left as it is. -/
  leavesRest : Bool

namespace Colours

/-- The colours if nothing else is said. -/
def usual : Colours :=
  { selectedMatch := Octets.ofText "01;31", contextMatch := Octets.ofText "01;31"
    selectedLine := [], contextLine := [], name := Octets.ofText "35"
    lineNumber := Octets.ofText "32", byteNumber := Octets.ofText "32"
    separator := Octets.ofText "36", isReversed := false, leavesRest := false }

/-- What starts a colour. -/
def start (c : Colours) (colour : Octets) : Octets :=
  if colour.isEmpty then []
  else ['\x1b', '['] ++ colour ++ ['m'] ++ if c.leavesRest then [] else ['\x1b', '[', 'K']

/-- Text in a colour. -/
def paint (c : Colours) (colour text : Octets) : Octets :=
  if colour.isEmpty then text
  else c.start colour ++ text ++ ['\x1b', '[', 'm']
    ++ if c.leavesRest then [] else ['\x1b', '[', 'K']

/-- Colours after a setting; without a value there are fewer. -/
def set (c : Colours) (setting : String) (value : Option Octets) : Colours :=
  match setting, value with
  | "mt", some o => { c with selectedMatch := o, contextMatch := o }
  | "ms", some o => { c with selectedMatch := o }
  | "mc", some o => { c with contextMatch := o }
  | "sl", some o => { c with selectedLine := o }
  | "cx", some o => { c with contextLine := o }
  | "fn", some o => { c with name := o }
  | "ln", some o => { c with lineNumber := o }
  | "bn", some o => { c with byteNumber := o }
  | "se", some o => { c with separator := o }
  | "rv", _ => { c with isReversed := true }
  | "ne", _ => { c with leavesRest := true }
  | _, _ => c

/-- Colours after settings, which end at the first one whose value is no numbers. -/
def setAll (c : Colours) : List Octets → Colours
  | [] => c
  | setting :: rest =>
    let name := setting.takeWhile (· != '=')
    let value := (setting.drop name.length).drop 1
    if !value.all (fun d => d.isDigit || d == ';') || setting.head? == some '=' then c
    else
      let isSet := name.length < setting.length
      setAll (c.set (String.ofList name) (if isSet then some value else none)) rest

/-- The colours that a text of settings asks for. -/
def read (settings : Octets) : Colours := usual.setAll (Text.splitAt (· == ':') settings)

end Colours

/-! ## Patterns for lines -/

/-- Whether a match has to be a whole word or a whole line. -/
inductive MatchScope where
  | anywhere
  | words
  | lines
  deriving DecidableEq, Repr

/-- What has to match. -/
inductive LinePattern where
  /-- One of some regular expressions has to match. -/
  | anyOf (alternatives : List Regex) (mode : RegexMode) (scope : MatchScope)
  | ordered (regex : OrderedRegex)

/-- A plain text as a regular expression. -/
def plainRegex (o : Octets) : Regex := o.foldl (fun r c => match r with
  | .empty => .char c
  | r => .join r (.char c)) .empty

namespace LinePattern

/-- Whether a match between two positions is one of the kind that is wanted. -/
def isGood (scope : MatchScope) (record : Octets) (start stop : Nat) : Bool :=
  match scope with
  | .anywhere => true
  | .lines => start == 0 && stop == record.length
  | .words =>
    let before := if start == 0 then false else (record[start - 1]?).any isWordChar
    let after := (record[stop]?).any isWordChar
    !before && !after

/-- The end of the longest good match from a state on. -/
def longestAt? (regex : Regex) (mode : RegexMode) (scope : MatchScope) (line : Octets)
    (s : RegexState) : Option Nat :=
  (regex.ends mode line regex.recalls s).foldl (fun best t =>
    if best.all (· < t.position) && isGood scope line s.position t.position then some t.position
    else best) none

/-- The first good match from a state on. -/
def searchFrom? (alternatives : List Regex) (mode : RegexMode) (scope : MatchScope)
    (line : Octets) (fuel : Nat) (s : RegexState) : Option (Nat × Nat) :=
  match (alternatives.filterMap fun r => longestAt? r mode scope line s).max? with
  | some stop => some (s.position, stop)
  | none =>
    match fuel with
    | 0 => none
    | fuel + 1 =>
      if s.rest.isEmpty || scope == .lines then none
      else searchFrom? alternatives mode scope line fuel (Regex.RegexState.skip s 1)

/-- The first good match that starts at some position or later. -/
def search? (p : LinePattern) (line : Octets) (start : Nat) : Option (Nat × Nat) :=
  if line.length < start then none
  else
    match p with
    | .anyOf alternatives mode scope =>
      searchFrom? alternatives mode scope line (line.length + 1)
        (Regex.RegexState.skip ⟨0, none, line, []⟩ start)
    | .ordered regex => (regex.search? line start).map fun m => (m.start, m.stop)

/-- All good matches that are not empty. -/
def all (p : LinePattern) (line : Octets) (fuel start : Nat) : List (Nat × Nat) :=
  match fuel with
  | 0 => []
  | fuel + 1 =>
    match p.search? line start with
    | none => []
    | some (first, stop) =>
      if first == stop then all p line fuel (stop + 1)
      else (first, stop) :: all p line fuel stop

end LinePattern

/-! ## How matching lines are shown -/

/-- What is shown of an input. -/
inductive MatchReport where
  | lines
  | count
  /-- Its name, if lines are selected. -/
  | selectedName
  /-- Its name, if no lines are selected. -/
  | otherName
  | nothing
  deriving DecidableEq, Repr

/-- What is done with an input that is no text. -/
inductive BinaryManner where
  /-- It is only said that it matches. -/
  | told
  | text
  | passedOver
  deriving DecidableEq, Repr

/-- How matching lines are shown. -/
structure MatchStyle where
  pattern : LinePattern
  isInverted : Bool
  report : MatchReport
  onlyMatches : Bool
  hasNumbers : Bool
  hasOffsets : Bool
  hasNames : Bool
  /-- Whether a null byte follows names. -/
  endsNames : Bool
  /-- Whether there is room before a line, so that its tabs are where they were. -/
  aligns : Bool
  colours : Option Colours
  mark : Char
  most : Option Nat
  before : Option Nat
  after : Option Nat
  separator : Option Octets
  binary : BinaryManner
  hidesFaults : Bool

/-- What is known while the lines of an input are looked at: the number of the line, the position of
its first byte, how many have been selected, lines that could be shown before the next one, how
many more are shown after the last one, the number of the line that was shown last, whether
anything was shown, of this input or before, where the last selected line ended, and the number of
lines that had been selected when the input was found to be no text. -/
structure MatchState where
  number : Nat
  offset : Nat
  found : Nat
  waiting : List (Nat × Nat × Octets)
  following : Nat
  lastShown : Nat
  hasShown : Bool
  selectedEnd : Nat
  foundAsText : Option Nat

namespace MatchStyle

/-- Whether lines are shown. -/
def showsLines (style : MatchStyle) (s : MatchState) : Bool :=
  style.report == .lines && s.foundAsText.isNone

/-- Whether the first selected line is all that counts. -/
def wantsOne (style : MatchStyle) (s : MatchState) : Bool :=
  match style.report with
  | .lines => s.foundAsText.isSome
  | .count => false
  | _ => true

/-- Text in one of the colours. -/
def paint (style : MatchStyle) (colour : Colours → Octets) (text : Octets) : Octets :=
  match style.colours with
  | some c => c.paint (colour c) text
  | none => text

/-- The name of an input in front of something. -/
def namePart (style : MatchStyle) (name : Octets) (mark : Char) : Octets :=
  if !style.hasNames then []
  else style.paint (·.name) name
    ++ if style.endsNames then ['\x00'] else style.paint (·.separator) [mark]

/-- What stands before a line or a part of one. -/
def lead (style : MatchStyle) (name : Octets) (mark : Char) (number offset : Nat)
    (isEmpty : Bool) : Octets :=
  let width := if style.aligns then 2 else 0
  let count (colour : Colours → Octets) (n : Nat) : Octets :=
    let digits := Nat.toDigits 10 n
    style.paint colour (List.replicate (width - digits.length) ' ' ++ digits)
      ++ style.paint (·.separator) [mark]
  let hasLead := style.hasNames || style.hasNumbers || style.hasOffsets
  style.namePart name mark
    ++ (if style.hasNumbers then count (·.lineNumber) number else [])
    ++ (if style.hasOffsets then count (·.byteNumber) offset else [])
    ++ if style.aligns && hasLead && !isEmpty then ['\t'] else []

/-- A line whose matches are in some colour and whose other parts are in another one. -/
def painted (c : Colours) (lineColour matchColour : Octets) (line : Octets) (done : Nat) :
    List (Nat × Nat) → Octets
  | [] =>
    let rest := line.drop done
    let text := if rest.getLast? == some '\r' then rest.dropLast else rest
    if text.isEmpty then rest else c.paint lineColour text ++ rest.drop text.length
  | (start, stop) :: more =>
    c.start lineColour ++ (line.drop done).take (start - done)
      ++ c.paint matchColour ((line.drop start).take (stop - start))
      ++ painted c lineColour matchColour line stop more

/-- A line as it is shown. -/
def lineText (style : MatchStyle) (isSelected : Bool) (line : Octets) : Octets :=
  match style.colours with
  | none => line
  | some c =>
    let isMatch := isSelected != style.isInverted
    let lineColour :=
      if isSelected != (style.isInverted && c.isReversed) then c.selectedLine else c.contextLine
    let matchColour := if isSelected then c.selectedMatch else c.contextMatch
    let found := if isMatch && !matchColour.isEmpty then
        style.pattern.all line (line.length + 2) 0
      else []
    painted c lineColour matchColour line 0 found

/-- Shows a line, or only its matches. -/
def showLine (style : MatchStyle) (name : Octets) (isSelected : Bool) (s : MatchState)
    (number offset : Nat) (line : Octets) : ToolRun MatchState := do
  let mark := if isSelected then ':' else '-'
  if style.onlyMatches then
    if isSelected != style.isInverted then
      for (start, stop) in style.pattern.all line (line.length + 2) 0 do
        let colour (c : Colours) : Octets :=
          if isSelected then c.selectedMatch else c.contextMatch
        let mark := if style.isInverted then '-' else ':'
        print (style.lead name mark number (offset + start) false
          ++ style.paint colour ((line.drop start).take (stop - start)) ++ [style.mark])
  else
    print (style.lead name mark number offset line.isEmpty ++ style.lineText isSelected line
      ++ [style.mark])
  return { s with lastShown := number }

/-- Shows what separates lines that do not follow one another. -/
def separate (style : MatchStyle) (s : MatchState) (first : Nat) : ToolRun Unit := do
  let hasContext := style.before.isSome || style.after.isSome
  if hasContext && s.hasShown && (s.lastShown == 0 || s.lastShown + 1 != first) then
    match style.separator with
    | some separator => print (style.paint (·.separator) separator ++ ['\n'])
    | none => return ()

/-- Looks at one line. -/
def step (style : MatchStyle) (name : Octets) (s : MatchState) (line : Octets) (_ : Bool) :
    ToolRun (Onward MatchState) := do
  let number := s.number + 1
  let offset := s.offset
  let s := { s with number := number, offset := offset + line.length + 1 }
  let isFull := style.most.any (· ≤ s.found)
  let isSelected := !isFull && (style.pattern.search? line 0).isSome != style.isInverted
  if isSelected then
    let s := { s with found := s.found + 1, selectedEnd := s.offset }
    if style.wantsOne s then return (s, false)
    let isFull := style.most.any (· ≤ s.found)
    if !style.showsLines s then return (s, !isFull)
    style.separate s ((s.waiting.head?.map (·.1)).getD number)
    let mut s := s
    for (n, o, before) in s.waiting do s ← style.showLine name false s n o before
    s ← style.showLine name true s number offset line
    let after := style.after.getD 0
    return ({ s with waiting := [], following := after, hasShown := true }, !isFull || 0 < after)
  else if !style.showsLines s then return (s, !isFull)
  else if 0 < s.following then
    let s ← style.showLine name false { s with following := s.following - 1 } number offset line
    return (s, !isFull || 0 < s.following)
  else if isFull then return (s, false)
  else
    let waiting := s.waiting ++ [(number, offset, line)]
    return ({ s with waiting := waiting.drop (waiting.length - style.before.getD 0) }, true)

end MatchStyle

end Flowscript.Tool
