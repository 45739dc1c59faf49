import Flowscript.Programs.Tool.Matching.Input

/-!
# Lines that match

* `Matcher` are the notations of patterns, and `readPatterns` reads them.
* `matchingTool` prints the lines that match.
-/

set_option autoImplicit false

namespace Flowscript.Tool

/-- A notation of patterns. -/
inductive Matcher where
  | basic
  | extended
  | fixed
  | ordered
  deriving DecidableEq, Repr

/-- The options of a program that looks for lines. -/
def matchOptions : List OptionSpec :=
  [.flag 'E' "extended-regexp", .flag 'F' "fixed-strings", .flag 'G' "basic-regexp",
    .flag 'P' "perl-regexp", .flag OptionSpec.noLetter "fixed-regexp", .setting 'X' "matcher",
    .flag 'i' "ignore-case", .flag 'y' "ignore-case",
    .flag OptionSpec.noLetter "no-ignore-case",
    .flag 'v' "invert-match", .flag 'c' "count", .flag 'l' "files-with-matches",
    .flag 'L' "files-without-match", .flag 'n' "line-number", .flag 'q' "quiet",
    .flag OptionSpec.noLetter "silent", .flag 's' "no-messages", .flag 'h' "no-filename",
    .flag 'H' "with-filename", .flag 'o' "only-matching", .flag 'w' "word-regexp",
    .flag 'x' "line-regexp", .setting 'e' "regexp", .setting 'f' "file", .setting 'm' "max-count",
    .setting 'A' "after-context", .setting 'B' "before-context", .setting 'C' "context",
    .flag 'r' "recursive", .flag 'R' "dereference-recursive", .flag 'a' "text",
    .flag 'b' "byte-offset", .flag 'I' "no-binary", .flag 'U' "binary",
    .flag 'u' "unix-byte-offsets", .flag 'z' "null-data", .flag 'Z' "null",
    .flag 'T' "initial-tab", .setting 'd' "directories", .setting 'D' "devices",
    .setting OptionSpec.noLetter "include", .setting OptionSpec.noLetter "exclude",
    .setting OptionSpec.noLetter "exclude-from", .setting OptionSpec.noLetter "exclude-dir",
    .setting OptionSpec.noLetter "binary-files", .setting OptionSpec.noLetter "label",
    .setting OptionSpec.noLetter "group-separator",
    .flag OptionSpec.noLetter "no-group-separator",
    ⟨OptionSpec.noLetter, "color", .optional⟩, ⟨OptionSpec.noLetter, "colour", .optional⟩,
    .flag OptionSpec.noLetter "line-buffered"] ++ OptionSpec.number "context"

/-! ## Patterns -/

/-- The notation that options ask for, which have to agree. -/
def chooseMatcher (first : Option Matcher) (given : List GivenOption) : ToolRun Matcher := do
  let mut chosen := first
  for (name, value) in given do
    let next ← match name with
      | "basic-regexp" => pure (some Matcher.basic)
      | "extended-regexp" => pure (some .extended)
      | "fixed-strings" | "fixed-regexp" => pure (some .fixed)
      | "perl-regexp" => pure (some .ordered)
      | "matcher" =>
        match String.ofList value with
        | "grep" => pure (some .basic)
        | "egrep" | "awk" | "gawk" | "posixawk" => pure (some .extended)
        | "fgrep" => pure (some .fixed)
        | "perl" => pure (some .ordered)
        | _ => giveUp 2 (octets "invalid matcher " ++ value)
      | _ => pure none
    match next, chosen with
    | some m, some c => if m != c then giveUp 2 (octets "conflicting matchers specified")
    | some m, none => chosen := some m
    | none, _ => pure ()
  return chosen.getD .basic

/-- A pattern as it was given: where it stands if that is in a file, and its text. -/
abbrev GivenPattern := Octets × Octets

/-- The patterns that stand in a file. -/
def patternsIn (path : Octets) : ToolRun (List GivenPattern) := do
  match ← readInput path with
  | .error fault => giveUp 2 (path ++ octets (": " ++ fault.message))
  | .ok bytes =>
    let lines := (Octets.lines (Octets.ofBytes bytes)).1
    return lines.zipIdx.map fun (line, i) =>
      (path ++ [':'] ++ Nat.toDigits 10 (i + 1) ++ octets ": ", line)

/-- Reads regular expressions.  What is wrong with any of them is told before the program ends. -/
def readRegexes (reading : RegexSyntax) (patterns : List GivenPattern) :
    ToolRun (List Regex) := do
  let results := patterns.map fun (place, text) => (place, Regex.readNoting reading text)
  for (place, result) in results do
    match result with
    | .error fault =>
      complain (place ++ octets fault.message)
      noteFailure 2
    | .ok _ => pure ()
  if (← notedStatus) != 0 then exit 2
  let mut all := []
  for (_, result) in results do
    match result with
    | .error _ => pure ()
    | .ok (regex, notices) =>
      for notice in notices do
        match notice with
        | .unclearClass => giveUp 2 (octets notice.message)
        | .lone _ =>
          if reading.loneOperator == .idle then
            complain (octets ("warning: " ++ notice.message))
      all := all ++ [regex]
  return all

/-- Reads the only pattern whose ways to match have an order. -/
def readOrdered (scope : MatchScope) (foldsCase : Bool) (patterns : List GivenPattern) :
    ToolRun LinePattern := do
  match patterns with
  | [(_, text)] =>
    let whole := match scope with
      | .anywhere => text
      | .lines => octets "^(?:" ++ text ++ octets ")$"
      | .words => octets "(?<!\\w)(?:" ++ text ++ octets ")(?!\\w)"
    match OrderedRegex.read foldsCase whole with
    | .ok regex => return .ordered regex
    | .error fault => giveUp 2 (octets fault.message)
  | _ => giveUp 2 (octets "the -P option only supports a single pattern")

/-- Reads the patterns that were given. -/
def readPatterns (matcher : Matcher) (scope : MatchScope) (foldsCase : Bool)
    (patterns : List GivenPattern) : ToolRun LinePattern := do
  let mode : RegexMode := ⟨foldsCase, false⟩
  match matcher with
  | .fixed => return .anyOf (patterns.map fun p => plainRegex p.2) mode scope
  | .basic => return .anyOf (← readRegexes .basic patterns) mode scope
  | .extended => return .anyOf (← readRegexes .extended patterns) mode scope
  | .ordered => readOrdered scope foldsCase patterns

/-! ## Numbers and names in options -/

/-- The integer that an option gives; blanks can stand in front of it. -/
def matchNumber? (o : Octets) : Option Int :=
  match o.dropWhile fun c => c == ' ' || ('\t' ≤ c && c ≤ '\r') with
  | '-' :: r => (Octets.natural? r).map fun n => -(n : Int)
  | '+' :: r => (Octets.natural? r).map Int.ofNat
  | r => (Octets.natural? r).map Int.ofNat

/-- How many lines are shown around the selected ones. -/
def contextLength (o : Octets) : ToolRun Nat := do
  let refuse {α : Type} (o : Octets) : ToolRun α :=
    giveUp 2 (o ++ octets ": invalid context length argument")
  if 21 < o.length && o.all Char.isDigit then refuse (o.take 21 ++ octets "...")
  match matchNumber? o with
  | some n => if n < 0 then refuse o else return n.toNat
  | none => refuse o

/-- The rules that options give for the names of files. -/
def nameRules (given : List GivenOption) : ToolRun NameRules := do
  let mut rules : NameRules := []
  for (name, value) in given do
    match name with
    | "include" => rules := rules ++ [⟨true, Shell.Pattern.ofOctets value⟩]
    | "exclude" => rules := rules ++ [⟨false, Shell.Pattern.ofOctets value⟩]
    | "exclude-from" =>
      match ← readInput value with
      | .error fault => giveUp 2 (value ++ octets (": " ++ fault.message))
      | .ok bytes =>
        for line in (Octets.lines (Octets.ofBytes bytes)).1 do
          let text := (line.reverse.dropWhile fun c => c == ' ' || ('\t' ≤ c && c ≤ '\r')).reverse
          if !text.isEmpty then rules := rules ++ [⟨false, Shell.Pattern.ofOctets text⟩]
    | _ => pure ()
  return rules

/-- Whether matches are shown in colour, and in which ones. -/
def chooseColours (given : List GivenOption) : ToolRun (Option Colours) := do
  let wish := (given.reverse.find? fun o => o.1 == "color" || o.1 == "colour").map (·.2)
  match wish.map String.ofList with
  | some "always" | some "yes" | some "force" =>
    let mut colours := Colours.usual
    match ← binding? "GREP_COLOR" with
    | some old =>
      if !old.isEmpty then
        complain (octets "warning: GREP_COLOR='" ++ old
          ++ octets "' is deprecated; use GREP_COLORS='mt=" ++ old ++ ['\''])
        if old.all fun c => c == ';' || c.isDigit then
          colours := { colours with selectedMatch := old, contextMatch := old }
    | none => pure ()
    match ← binding? "GREP_COLORS" with
    | some settings =>
      return some (colours.setAll (Text.splitAt (· == ':') settings))
    | none => return some colours
  | _ => return none

/-- What is done with directories. -/
inductive DirectoryManner where
  | tried
  | passedOver
  | entered (followsLinks : Bool)
  deriving DecidableEq, Repr

/-- Whether what directories hold is looked at. -/
def DirectoryManner.entersAll : DirectoryManner → Bool
  | entered _ => true
  | _ => false

/-- What options ask to be done with directories. -/
def directoryManner (given : List GivenOption) : ToolRun DirectoryManner := do
  let mut manner := DirectoryManner.tried
  for (name, value) in given do
    match name with
    | "recursive" => manner := .entered false
    | "dereference-recursive" => manner := .entered true
    | "directories" =>
      let word ← chooseWord "--directories" [["read"], ["recurse"], ["skip"]] value
      manner := match word with
        | "recurse" => .entered false
        | "skip" => .passedOver
        | _ => .tried
    | _ => pure ()
  return manner

/-- What options ask to be done with inputs that are no text. -/
def binaryManner (given : List GivenOption) : ToolRun BinaryManner := do
  let mut manner := BinaryManner.told
  for (name, value) in given do
    match name with
    | "text" => manner := .text
    | "no-binary" => manner := .passedOver
    | "binary-files" =>
      match String.ofList value with
      | "binary" => manner := .told
      | "text" => manner := .text
      | "without-match" => manner := .passedOver
      | _ => giveUp 2 (octets "unknown binary-files type")
    | _ => pure ()
  return manner

/-! ## The program -/

/-- What is shown, by the options that were given. -/
def chooseReport (given : List GivenOption) : MatchReport :=
  if has given "quiet" || has given "silent" then .nothing
  else
    match given.reverse.find? fun o =>
      o.1 == "files-with-matches" || o.1 == "files-without-match" with
    | some ("files-with-matches", _) => .selectedName
    | some _ => .otherName
    | none => if has given "count" then .count else .lines

/-- Whether devices that are given, and those that are found, are looked at. -/
def takesDevices (given : List GivenOption) : ToolRun (Bool × Bool) := do
  match (given.filter (·.1 == "devices")).map fun o => String.ofList o.2 with
  | [] => return (true, false)
  | words =>
    if words.any fun w => w != "read" && w != "skip" then
      giveUp 2 (octets "unknown devices method")
    let takes := words.getLast? == some "read"
    return (takes, takes)

/-- The inputs that are meant by a name that was given, each with the name that is shown, and
whether that name was a directory. -/
def inputsAt (choice : FileChoice) (manner : DirectoryManner) (takesGivenDevices : Bool)
    (label path : Octets) (isImplied : Bool) : ToolRun (List (Octets × Octets) × Bool) := do
  if path == ['-'] then return ([(path, label)], false)
  match ← find path true with
  | .error _ => return ([(path, path)], false)
  | .ok n =>
    match ← kindOf n with
    | some (.directory ..) =>
      let isOut := manner == .passedOver
        || (!isImplied && choice.directories.leaveOut true path)
      if isOut then return ([], true)
      match manner with
      | .entered _ => return (← filesBelow choice 1000 path (if isImplied then [] else path), true)
      | _ => return ([(path, path)], true)
    | kind =>
      let isDevice := match kind with
        | some (.device _) | some (.pipe _) => true
        | _ => false
      if choice.names.leaveOut true path || (isDevice && !takesGivenDevices) then
        return ([], false)
      return ([(path, path)], false)

/-- The patterns that options give, or else the first operand, and the other operands. -/
def givenPatterns (given : List GivenOption) (operands : List Octets) :
    ToolRun (List GivenPattern × List Octets) := do
  let linesOf (o : Octets) : List GivenPattern :=
    (Text.splitAt (· == '\n') o).map fun line => ([], line)
  if has given "regexp" || has given "file" then
    let patterns ← given.flatMapM fun (name, value) =>
      match name with
      | "regexp" => pure (linesOf value)
      | "file" => patternsIn value
      | _ => pure []
    return (patterns, operands)
  else
    match operands with
    | text :: paths => return (linesOf text, paths)
    | [] => suggestHelp 2

/-- Prints the lines that match. -/
def matchingTool (first : Option Matcher) : Procedure := fun _ arguments => do
  if first.isSome then modify ({ · with name := octets "grep" })
  modify fun s =>
    { s with usage := octets "Usage: " ++ s.name ++ octets " [OPTION]... PATTERNS [FILE]...\n" }
  let (given, operands) ← options matchOptions 2 arguments
  let matcher ← chooseMatcher first given
  let lengthOf (name : String) : ToolRun (Option Nat) := do
    let lengths ← (given.filter (·.1 == name)).mapM fun o => contextLength o.2
    return lengths.getLast?
  let context ← lengthOf "context"
  let after ← lengthOf "after-context"
  let before ← lengthOf "before-context"
  let counts ← (given.filter (·.1 == "max-count")).mapM fun o =>
    match matchNumber? o.2 with
    | some n => pure n
    | none => giveUp 2 (octets "invalid max count")
  let most := (counts.getLast?.filter (0 ≤ ·)).map Int.toNat
  let manner ← directoryManner given
  let (takesGivenDevices, takesFound) ← takesDevices given
  let binary ← binaryManner given
  let rules ← nameRules given
  if has given "unix-byte-offsets" then
    complain (octets "warning: --unix-byte-offsets (-u) is obsolete")
  let (patterns, paths) ← givenPatterns given operands
  let colours ← chooseColours given
  let scope := if has given "line-regexp" then MatchScope.lines
    else if has given "word-regexp" then .words
    else .anywhere
  let report := chooseReport given
  let isInverted := has given "invert-match"
  let isHopeless := most == some 0 || (patterns.isEmpty && !isInverted)
    || (!patterns.isEmpty && patterns.all (·.2.isEmpty) && isInverted && scope == .anywhere)
  let foldsCase := (given.reverse.find? fun o =>
    o.1 == "ignore-case" || o.1 == "no-ignore-case").any (·.1 == "ignore-case")
  let pattern ← readPatterns matcher scope foldsCase patterns
  if isHopeless && report != .otherName then return 1
  let entersAll := manner.entersAll
  let choice : FileChoice :=
    { names := rules
      directories := (given.filter (·.1 == "exclude-dir")).map fun o =>
        ⟨false, Shell.Pattern.ofOctets (withoutSlashes o.2)⟩
      followsLinks := manner == .entered true
      takesDevices := takesFound }
  let label := (valueOf? given "label").getD (octets "(standard input)")
  let isImplied := paths.isEmpty && entersAll
  let paths := if paths.isEmpty then [if entersAll then ['.'] else ['-']] else paths
  let inputs ← paths.mapM fun path =>
    inputsAt choice manner takesGivenDevices label path isImplied
  let isEntered := entersAll && inputs.any (·.2)
  let hasNames := match given.reverse.find? fun o =>
      o.1 == "with-filename" || o.1 == "no-filename" with
    | some (name, _) => name == "with-filename"
    | none => 1 < paths.length || isEntered
  let style : MatchStyle :=
    { pattern := pattern
      isInverted := isInverted
      report := report
      onlyMatches := has given "only-matching"
      hasNumbers := has given "line-number"
      hasOffsets := has given "byte-offset"
      hasNames := hasNames
      endsNames := has given "null"
      aligns := has given "initial-tab"
      colours := colours
      mark := if has given "null-data" then '\x00' else '\n'
      most := most
      before := before.or context
      after := after.or context
      separator :=
        match given.reverse.find? fun o =>
          o.1 == "group-separator" || o.1 == "no-group-separator" with
        | some ("group-separator", o) => some o
        | some _ => none
        | none => some ['-', '-']
      binary := binary
      hidesFaults := has given "no-messages" }
  let mut found := false
  let mut hasShown := false
  for (path, shown) in inputs.flatMap (·.1) do
    let (isFound, next) ← style.lookAt hasShown path shown
    hasShown := next
    if isFound then
      found := true
      if style.report == .nothing then return 0
  let status ← notedStatus
  return if status != 0 then status else if found then 0 else 1

end Flowscript.Tool
