import Flowscript.Programs.Regex.Reading
import Flowscript.Programs.Shell.Pattern
import Flowscript.Text.Octets
import Flowscript.Programs.Tool.Basic

/-!
# How differences are shown

The styles, and the options that choose between them.

* `Blanks` says which blanks do not count when lines are compared.
* `DiffStyle` says how files are compared and how changes are shown.
* `DiffStyle.key` is what has to be the same for lines to be the same.
* `DiffStyle.isTrivial` tells whether nobody wants to know about a line.
* `DiffRequest` is how files are compared, which files of directories count, and what is told.
* `readDiffRequest` reads one from options.
-/

set_option autoImplicit false

namespace Flowscript.Tool

/-! ## Which lines are the same, and how changes are shown -/

/-- Which blanks do not count: whether those are that tabs make, those at the end, how many there
are in a row, or all. -/
inductive Blanks where
  | counted
  | tabs
  | trailing
  | tabsAndTrailing
  | amount
  | ignored
  deriving DecidableEq, Repr

namespace Blanks

/-- Tabs do not count either. -/
def withTabs : Blanks → Blanks
  | .counted => .tabs
  | .trailing => .tabsAndTrailing
  | b => b

/-- Blanks at the end do not count either. -/
def withTrailing : Blanks → Blanks
  | .counted => .trailing
  | .tabs => .tabsAndTrailing
  | b => b

/-- The amount of blanks does not count either. -/
def withAmount : Blanks → Blanks
  | .ignored => .ignored
  | _ => .amount

/-- Whether blanks at the end of a line do not count. -/
def dropsEnd : Blanks → Bool
  | .counted | .tabs => false
  | _ => true

/-- A line with tabs as the blanks that they make. -/
def expanded (tabSize column : Nat) : Octets → Octets
  | [] => []
  | '\t' :: r =>
    let count := tabSize - column % tabSize
    List.replicate count ' ' ++ expanded tabSize (column + count) r
  | c :: r => c :: expanded tabSize (column + 1) r

/-- A line without the blanks at its end. -/
def trimmed (o : Octets) : Octets := (o.reverse.dropWhile Text.isSpace).reverse

/-- A line with one blank in place of several. -/
def single (wasBlank : Bool) : Octets → Octets
  | [] => []
  | c :: r =>
    if Text.isSpace c then if wasBlank then single true r else ' ' :: single true r
    else c :: single false r

/-- What counts of a line. -/
def apply (b : Blanks) (tabSize : Nat) (o : Octets) : Octets :=
  match b with
  | .counted => o
  | .tabs => expanded tabSize 0 o
  | .trailing => trimmed o
  | .tabsAndTrailing => trimmed (expanded tabSize 0 o)
  | .amount => single false (trimmed o)
  | .ignored => o.filter fun c => !Text.isSpace c

end Blanks

/-- The form in which changes are shown. -/
inductive DiffForm where
  | plain
  | context
  | unified
  | commands
  | forwardCommands
  | counts
  | merged
  | columns
  deriving DecidableEq, Repr

/-- Whether a form can show that the last line has no end. -/
def DiffForm.showsMissingEnd : DiffForm → Bool
  | .commands | .forwardCommands => false
  | _ => true

/-- How a merged file is written: lines that both files have, those that only one has, and those
that differ, in this order for lines and groups of them. -/
structure MergeFormats where
  commonLine : Option Octets
  oldLine : Option Octets
  newLine : Option Octets
  commonGroup : Option Octets
  oldGroup : Option Octets
  newGroup : Option Octets
  changedGroup : Option Octets

namespace MergeFormats

/-- How a line is written if nothing is said. -/
def plainLine : Octets := Octets.ofText "%l\n"

/-- How lines that both have are written. -/
def lineOfBoth (f : MergeFormats) : Octets := f.commonLine.getD plainLine

/-- How lines of the first file are written. -/
def lineOfOld (f : MergeFormats) : Octets := f.oldLine.getD plainLine

/-- How lines of the second file are written. -/
def lineOfNew (f : MergeFormats) : Octets := f.newLine.getD plainLine

/-- How lines that both have are written as a group. -/
def groupOfBoth (f : MergeFormats) : Octets := f.commonGroup.getD (Octets.ofText "%=")

/-- How a group of lines of the first file is written. -/
def groupOfOld (f : MergeFormats) : Octets :=
  (f.oldGroup.or f.changedGroup).getD (Octets.ofText "%<")

/-- How a group of lines of the second file is written. -/
def groupOfNew (f : MergeFormats) : Octets :=
  (f.newGroup.or f.changedGroup).getD (Octets.ofText "%>")

/-- How lines are written in whose place others are. -/
def groupOfChange (f : MergeFormats) : Octets :=
  f.changedGroup.getD (f.groupOfOld ++ f.groupOfNew)

end MergeFormats

/-- How files are compared and how changes are shown. -/
structure DiffStyle where
  form : DiffForm
  /-- How many lines are shown around a change. -/
  context : Nat
  /-- How many lines that both files have at an end are looked at. -/
  horizon : Nat
  blanks : Blanks
  ignoresCase : Bool
  ignoresEmptyLines : Bool
  ignoredLines : List Regex
  headings : List Regex
  expandsTabs : Bool
  alignsTabs : Bool
  tabSize : Nat
  dropsReturns : Bool
  leavesEmptyLines : Bool
  isMinimal : Bool
  formats : MergeFormats
  width : Nat
  showsLeft : Bool
  hidesCommon : Bool

namespace DiffStyle

/-- What has to be the same for lines to be the same; the last line can be another one if it has no
end. -/
def key (s : DiffStyle) (line : Octets) : Octets × Bool :=
  let isEnded := line.getLast? == some '\n'
  let o := s.blanks.apply s.tabSize (if isEnded then line.dropLast else line)
  let o := if s.ignoresCase then o.map Char.toLower else o
  (o, !isEnded && !s.blanks.dropsEnd)

/-- Whether there are lines that nobody wants to know about. -/
def hasTrivial (s : DiffStyle) : Bool := s.ignoresEmptyLines || !s.ignoredLines.isEmpty

/-- Whether a line matches one of some patterns. -/
def matchesAny (patterns : List Regex) (line : Octets) : Bool :=
  let text := if line.getLast? == some '\n' then line.dropLast else line
  patterns.any fun r => (r.search? ⟨false, false⟩ text 0).isSome

/-- Whether nobody wants to know about a line. -/
def isTrivial (s : DiffStyle) (line : Octets) : Bool :=
  let isEmpty := if s.blanks.dropsEnd then line.all Text.isSpace else line.all (· == '\n')
  (s.ignoresEmptyLines && isEmpty) || matchesAny s.ignoredLines line

/-- The lines of a text, each with its end; the last one gets one if that could not be shown. -/
def linesOf (s : DiffStyle) (o : Octets) : Array Octets :=
  let pieces := Text.splitAt (· == '\n') o
  let last := pieces.getLastD []
  let rest := if last.isEmpty then []
    else [if s.form.showsMissingEnd then last else last ++ ['\n']]
  let lines := pieces.dropLast.map (· ++ ['\n']) ++ rest
  let drop (line : Octets) : Octets := match line.reverse with
    | '\n' :: '\r' :: r => r.reverse ++ ['\n']
    | _ => line
  (if s.dropsReturns then lines.map drop else lines).toArray

end DiffStyle

/-! ## What is asked for when files are compared -/

/-- How files are compared, which files of directories count, and what is told. -/
structure DiffRequest where
  style : DiffStyle
  form : Option DiffForm
  /-- How many lines a number among the options asks for, and whether the last option was a digit. -/
  number : Option Nat
  endsWithDigit : Bool
  namesContext : Bool
  isBrief : Bool
  isText : Bool
  tellsSame : Bool
  isRecursive : Bool
  addsMissing : Bool
  addsMissingFirst : Bool
  keepsLinks : Bool
  findsHeadings : Bool
  labels : List Octets
  start : Option Octets
  excluded : List Octets
  first : Option Octets
  second : Option Octets
  /-- The options as they were written. -/
  command : Octets

namespace DiffRequest

/-- What is asked for if nothing is said. -/
def plain : DiffRequest :=
  let style : DiffStyle :=
    { form := .plain, context := 0, horizon := 0, blanks := .counted, ignoresCase := false
      ignoresEmptyLines := false, ignoredLines := [], headings := [], expandsTabs := false
      alignsTabs := false, tabSize := 8, dropsReturns := false, leavesEmptyLines := false
      isMinimal := false, formats := ⟨none, none, none, none, none, none, none⟩
      width := 130, showsLeft := false, hidesCommon := false }
  { style := style, form := none, number := none, endsWithDigit := false, namesContext := false
    isBrief := false, isText := false, tellsSame := false, isRecursive := false
    addsMissing := false, addsMissingFirst := false, keepsLinks := false, findsHeadings := false
    labels := [], start := none, excluded := [], first := none, second := none, command := [] }

/-- How a file is called in what is shown. -/
def label (r : DiffRequest) (i : Nat) (name : Octets) : Octets := (r.labels[i]?).getD name

/-- Whether a name in a directory does not count. -/
def excludes (r : DiffRequest) (name : Octets) : Bool :=
  r.excluded.any fun p => (Shell.Pattern.ofOctets p).accepts name

/-- Whether nothing is shown of files that do not differ. -/
def isSilentOfSame (r : DiffRequest) : Bool :=
  match r.style.form with
  | .columns => r.style.hidesCommon
  | .merged =>
    let format := r.style.formats.groupOfBoth
    format.isEmpty || (format == octets "%=" && r.style.formats.lineOfBoth.isEmpty)
  | _ => true

/-- Whether only the bytes of files matter, not their lines. -/
def readsBytes (r : DiffRequest) : Bool :=
  r.isBrief && !r.style.ignoresEmptyLines && !r.style.ignoresCase && !r.style.dropsReturns
    && r.style.ignoredLines.isEmpty && r.style.blanks == .counted

end DiffRequest

/-- The options. -/
def diffOptions : List OptionSpec :=
  let long (name : String) : OptionSpec := .flag OptionSpec.noLetter name
  let longSetting (name : String) : OptionSpec := .setting OptionSpec.noLetter name
  [long "binary", .flag 'q' "brief", longSetting "changed-group-format",
    ⟨OptionSpec.noLetter, "color", .optional⟩, ⟨'c', "context", .optionalAfterName⟩, .flag 'e' "ed",
    .setting 'x' "exclude", .setting 'X' "exclude-from", .flag 't' "expand-tabs",
    .flag 'f' "forward-ed", longSetting "from-file", longSetting "horizon-lines",
    .setting 'D' "ifdef", .flag 'w' "ignore-all-space", .flag 'B' "ignore-blank-lines",
    .flag 'i' "ignore-case", .setting 'I' "ignore-matching-lines",
    .flag 'b' "ignore-space-change", .flag 'E' "ignore-tab-expansion",
    .flag 'Z' "ignore-trailing-space", long "inhibit-hunk-merge", .flag 'T' "initial-tab",
    .setting 'L' "label", long "left-column", longSetting "line-format", .flag 'd' "minimal",
    .flag 'N' "new-file", longSetting "new-group-format", longSetting "new-line-format",
    long "no-dereference", long "no-ignore-file-name-case", long "normal",
    longSetting "old-group-format", longSetting "old-line-format", longSetting "palette",
    .flag 'n' "rcs", .flag 'r' "recursive", .flag 's' "report-identical-files",
    .flag 'p' "show-c-function", .setting 'F' "show-function-line", .flag 'y' "side-by-side",
    .flag 'H' "speed-large-files", .setting 'S' "starting-file", long "strip-trailing-cr",
    long "suppress-blank-empty", long "suppress-common-lines", longSetting "tabsize",
    .flag 'a' "text", longSetting "to-file", longSetting "unchanged-group-format",
    longSetting "unchanged-line-format", .flag 'P' "unidirectional-new-file",
    ⟨'u', "unified", .optionalAfterName⟩, .setting 'W' "width", .setting 'C' "context",
    .setting 'U' "unified", .flag 'h' "half-hearted"]
  ++ "0123456789".toList.map fun c => .flag c (String.singleton c)

/-- Chooses a form, unless another one has been chosen. -/
def chooseForm (form : DiffForm) (r : DiffRequest) : ToolRun DiffRequest := do
  if r.form.any (· != form) then giveUpUsage 2 (octets "conflicting output style options")
  return { r with form := some form }

/-- A number that is the value of an option. -/
def diffNumber (what : String) (least : Nat) (o : Octets) : ToolRun Nat := do
  match Octets.natural? o with
  | some n => if least ≤ n then return n
  | none => pure ()
  giveUpUsage 2 (octets ("invalid " ++ what ++ " '") ++ o ++ ['\''])

/-- Sets a format, unless it has been set to something else. -/
def settleFormat (option : String) (value : Octets) (before : Option Octets) :
    ToolRun (Option Octets) := do
  if before.any (· != value) then
    complain (octets ("conflicting " ++ option ++ " option value '") ++ value ++ ['\''])
    suggestHelp 2
  return some value

/-- Reads a pattern. -/
def diffPattern (o : Octets) : ToolRun Regex := do
  match Regex.read .basic o with
  | .ok r => return r
  | .error fault => giveUp 2 (o ++ octets (": " ++ fault.message))

/-- The formats that mark lines for a condition of a program's source. -/
def conditionFormats (name : Octets) (f : MergeFormats) : ToolRun MergeFormats := do
  let line (start : String) (tail : String) : Octets := octets start ++ name ++ octets tail
  let common ← settleFormat "-D" (octets "%=") f.commonGroup
  let old ← settleFormat "-D"
    (line "#ifndef " "\n%<#endif /* ! " ++ line "" " */\n") f.oldGroup
  let new ← settleFormat "-D" (line "#ifdef " "\n%>#endif /* " ++ line "" " */\n") f.newGroup
  let changed ← settleFormat "-D"
    (line "#ifndef " "\n%<#else /* " ++ line "" " */\n%>#endif /* " ++ line "" " */\n")
    f.changedGroup
  return { f with
    commonGroup := common, oldGroup := old, newGroup := new, changedGroup := changed }

/-- Takes an option about a form with lines around changes. -/
def applyContext (form : DiffForm) (value : Octets) (r : DiffRequest) : ToolRun DiffRequest := do
  let r ← chooseForm form r
  if value.isEmpty then return { r with style.context := max 3 r.style.context }
  let n ← diffNumber "context length" 0 value
  return { r with style.context := max n r.style.context, namesContext := true }

/-- Takes an option about the format of a merged file. -/
def applyFormat (name : String) (value : Octets) (r : DiffRequest) : ToolRun DiffRequest := do
  let r ← chooseForm .merged r
  let f := r.style.formats
  let option := "--" ++ name
  let formats ← match name with
    | "ifdef" => conditionFormats value f
    | "line-format" =>
      pure { f with
        commonLine := ← settleFormat option value f.commonLine
        oldLine := ← settleFormat option value f.oldLine
        newLine := ← settleFormat option value f.newLine }
    | "old-line-format" => pure { f with oldLine := ← settleFormat option value f.oldLine }
    | "new-line-format" => pure { f with newLine := ← settleFormat option value f.newLine }
    | "unchanged-line-format" =>
      pure { f with commonLine := ← settleFormat option value f.commonLine }
    | "old-group-format" => pure { f with oldGroup := ← settleFormat option value f.oldGroup }
    | "new-group-format" => pure { f with newGroup := ← settleFormat option value f.newGroup }
    | "unchanged-group-format" =>
      pure { f with commonGroup := ← settleFormat option value f.commonGroup }
    | _ => pure { f with changedGroup := ← settleFormat option value f.changedGroup }
  return { r with style.formats := formats }

/-- Reads the names that do not count from a file. -/
def excludedIn (path : Octets) : ToolRun (List Octets) := do
  match ← readInput path with
  | .ok bytes => return ((Octets.ofBytes bytes |> Octets.lines).1).filter (!·.isEmpty)
  | .error fault => giveUp 2 (path ++ octets (": " ++ fault.message))

/-- Takes an option. -/
def applyDiffOption (r : DiffRequest) (o : GivenOption) : ToolRun DiffRequest := do
  let s := r.style
  let (name, value) := o
  let blanks (b : Blanks) : ToolRun DiffRequest := return { r with style.blanks := b }
  match name with
  | "text" => return { r with isText := true }
  | "ignore-space-change" => blanks s.blanks.withAmount
  | "ignore-all-space" => blanks .ignored
  | "ignore-trailing-space" => blanks s.blanks.withTrailing
  | "ignore-tab-expansion" => blanks s.blanks.withTabs
  | "ignore-blank-lines" => return { r with style.ignoresEmptyLines := true }
  | "ignore-case" => return { r with style.ignoresCase := true }
  | "ignore-matching-lines" =>
    return { r with style.ignoredLines := s.ignoredLines ++ [← diffPattern value] }
  | "context" => applyContext .context value r
  | "unified" => applyContext .unified value r
  | "minimal" => return { r with style.isMinimal := true }
  | "ed" => chooseForm .commands r
  | "forward-ed" => chooseForm .forwardCommands r
  | "rcs" => chooseForm .counts r
  | "normal" => chooseForm .plain r
  | "side-by-side" => chooseForm .columns r
  | "show-function-line" =>
    return { r with style.headings := s.headings ++ [← diffPattern value] }
  | "show-c-function" =>
    return { r with
      findsHeadings := true
      style.headings := s.headings ++ [← diffPattern (octets "^[[:alpha:]$_]")] }
  | "label" =>
    if r.labels.length == 2 then giveUp 2 (octets "too many file label options")
    return { r with labels := r.labels ++ [value] }
  | "new-file" => return { r with addsMissing := true }
  | "unidirectional-new-file" => return { r with addsMissingFirst := true }
  | "brief" => return { r with isBrief := true }
  | "recursive" => return { r with isRecursive := true }
  | "report-identical-files" => return { r with tellsSame := true }
  | "starting-file" => return { r with start := some value }
  | "exclude" => return { r with excluded := r.excluded ++ [value] }
  | "exclude-from" => return { r with excluded := r.excluded ++ (← excludedIn value) }
  | "expand-tabs" => return { r with style.expandsTabs := true }
  | "initial-tab" => return { r with style.alignsTabs := true }
  | "width" => return { r with style.width := ← diffNumber "width" 1 value }
  | "tabsize" => return { r with style.tabSize := ← diffNumber "tabsize" 1 value }
  | "horizon-lines" => return { r with style.horizon := ← diffNumber "horizon length" 0 value }
  | "left-column" => return { r with style.showsLeft := true }
  | "suppress-common-lines" => return { r with style.hidesCommon := true }
  | "suppress-blank-empty" => return { r with style.leavesEmptyLines := true }
  | "strip-trailing-cr" => return { r with style.dropsReturns := true }
  | "no-dereference" => return { r with keepsLinks := true }
  | "from-file" => return { r with first := some value }
  | "to-file" => return { r with second := some value }
  | "ifdef" | "line-format" | "old-line-format" | "new-line-format" | "unchanged-line-format"
  | "old-group-format" | "new-group-format" | "unchanged-group-format" | "changed-group-format" =>
    applyFormat name value r
  | name =>
    match Octets.natural? (octets name) with
    | some digit =>
      let before := if r.endsWithDigit then r.number.getD 0 else 0
      return { r with number := some (10 * before + digit) }
    | none => return r

/-- Takes options one after the other. -/
def applyDiffOptions (r : DiffRequest) : List GivenOption → ToolRun DiffRequest
  | [] => return r
  | o :: rest => do
    let r ← applyDiffOption r o
    applyDiffOptions { r with endsWithDigit := (Octets.natural? (octets o.1)).isSome } rest

/-- The words before operands, when those are taken out of arguments from the end on. -/
def wordsWithout (operands : List Octets) : List Octets → List Octets
  | [] => []
  | word :: rest =>
    match operands with
    | o :: others => if o == word then wordsWithout others rest else word :: wordsWithout operands rest
    | [] => word :: wordsWithout [] rest

/-- Reads what is asked for, and gives the operands. -/
def readDiffRequest (arguments : List Octets) : ToolRun (DiffRequest × List Octets) := do
  let (given, operands) ← options diffOptions 2 arguments
  let r ← applyDiffOptions .plain given
  let form := r.form.getD (if r.findsHeadings then .context else .plain)
  let isAround := form == .context || form == .unified
  let context := if r.form.isNone && r.findsHeadings && r.number.isNone then 3
    else r.style.context
  let context := match r.number with
    | some n =>
      if isAround && (context < n || (n < context && !r.namesContext)) then n else context
    | none => context
  let words := (wordsWithout operands.reverse arguments.reverse).reverse
  let style := { r.style with
    form := form, context := context, horizon := max r.style.horizon context }
  return ({ r with
    style := style
    command := words.flatMap fun w => ' ' :: Text.quotedForShell false w }, operands)

end Flowscript.Tool
