import Flowscript.Programs.Regex.Reading

/-!
# Scripts that edit lines

* `EditCommand` is what is done with a line, and `EditStep` says with which lines.
* `EditScript.read` reads a script.

Blocks are kept flat: a step that opens one knows where it ends.
-/

set_option autoImplicit false

namespace Flowscript

/-- A line that a step is about. -/
inductive EditAddress where
  | line (n : Nat)
  | last
  /-- Lines that match; without a regular expression, the one used last. -/
  | matching (r : Option Regex) (mode : RegexMode)
  | every (first step : Nat)
  /-- What only the end of a range can be. -/
  | relative

/-- Where a range of lines ends. -/
inductive EditRangeEnd where
  | line (n : Nat)
  | last
  | matching (r : Option Regex) (mode : RegexMode)
  | after (n : Nat)
  | multiple (n : Nat)

/-- The lines that a step is about. -/
inductive EditSelection where
  | all
  | one (address : EditAddress)
  | range (first : EditAddress) (stop : EditRangeEnd)

/-- How the case of what is put in changes. -/
inductive CaseChange where
  | upper
  | lower
  | upperNext
  | lowerNext
  | stop
  deriving DecidableEq, Repr

/-- A part of what is put in place of a match. -/
inductive ReplacementPart where
  | char (c : Char)
  | group (n : Nat)
  | change (change : CaseChange)

/-- A substitution: what is replaced by what, which match is the first that is, and whether all that
follow are too. -/
structure Substitution where
  pattern : Option Regex
  mode : RegexMode
  replacement : List ReplacementPart
  isGlobal : Bool
  first : Nat
  hasNumber : Bool
  prints : Bool
  /-- Whether the line is run as a command, and then is what that prints. -/
  runs : Bool
  /-- Whether it is printed before it is run. -/
  printsFirst : Bool
  file : Option Octets

/-- What is done with a line. -/
inductive EditCommand where
  | openBlock (stop : Nat)
  | closeBlock
  | label (name : Octets)
  | jump (name : Octets)
  | jumpIf (name : Octets)
  | jumpUnless (name : Octets)
  | number
  | append (text : Octets)
  | insert (text : Octets)
  | change (text : Octets)
  | delete
  | deleteFirst
  | print
  | printFirst
  /-- Spells out the line, in rows of some width unless another one is given. -/
  | list (width : Option Nat)
  /-- Runs a command, or the line if there is none. -/
  | execute (command : Octets)
  | next
  | nextAppend
  | get
  | getAppend
  | hold
  | holdAppend
  | exchange
  | empty
  | quit (status : Nat)
  | quitSilently (status : Nat)
  | read (path : Octets)
  | readLine (path : Octets)
  | write (path : Octets)
  | writeFirst (path : Octets)
  | substitute (s : Substitution)
  | translate (pairs : List (Char × Char))
  | nameInput

/-- A step: which lines it is about, or which it is not about, and what it does with them. -/
structure EditStep where
  selection : EditSelection
  isNegated : Bool
  command : EditCommand

/-- Where something is wrong with a script. -/
inductive EditFaultPlace where
  | nowhere
  /-- Nowhere, and the script is one that could be meant otherwise. -/
  | unclear
  /-- Before its first character. -/
  | start
  /-- Before what is left of it. -/
  | before (rest : Octets)

/-- What is wrong with a script, and where. -/
structure EditFault where
  message : String
  place : EditFaultPlace

namespace EditScript

/-- A reader of a script. -/
abbrev Reader := EStateM EditFault Octets

/-- Gives up. -/
def fail {α : Type} (message : String) : Reader α := do
  throw ⟨message, .before (← get)⟩

/-- The next character, which stays. -/
def peek : Reader (Option Char) := do return (← get).head?

/-- Takes a character. -/
def take : Reader (Option Char) := do
  match ← get with
  | c :: r =>
    set r
    return some c
  | [] => return none

/-- Takes characters of a kind. -/
def takeWhile (isMember : Char → Bool) : Reader Octets :=
  modifyGet fun o => (o.takeWhile isMember, o.dropWhile isMember)

/-- Skips blanks. -/
def skipBlanks : Reader Unit := do
  let _ ← takeWhile fun c => Text.isSpace c && c != '\n'

/-- Takes a number. -/
def takeNumber : Reader Nat := do return (Octets.natural? (← takeWhile Char.isDigit)).getD 0

/-- The rest of a class in brackets, up to and with its closing bracket. -/
def classLength (fuel : Nat) (cs : Octets) : Nat :=
  match fuel, cs with
  | 0, _ => 0
  | _, [] => 0
  | _, ']' :: _ => 1
  | fuel + 1, '[' :: d :: r =>
    if d == ':' || d == '.' || d == '=' then
      let inside := r.takeWhile (· != ']')
      3 + inside.length + classLength fuel (r.drop (inside.length + 1))
    else 1 + classLength fuel (d :: r)
  | fuel + 1, _ :: r => 1 + classLength fuel r

/-- Takes a class in brackets after its opening one. -/
def takeClass : Reader Octets := do
  let cs ← get
  let lead := match cs with
    | '^' :: ']' :: _ => 2
    | '^' :: _ => 1
    | ']' :: _ => 1
    | _ => 0
  let length := lead + classLength (cs.length + 1) (cs.drop lead)
  set (cs.drop length)
  return cs.take length

/-- Takes text up to a mark that has no backslash before it and, in a regular expression, is not in
brackets.  A backslash before the mark goes. -/
def takeUpTo (mark : Char) (isPattern : Bool) (fuel : Nat) (before : Octets) :
    Reader (Option Octets) :=
  match fuel with
  | 0 => return none
  | fuel + 1 => do
    match ← take with
    | none => return none
    | some '\\' =>
      match ← take with
      | none => return none
      | some c =>
        let goes := if c == mark then isPattern || c != '&' else c == '\n' && isPattern
        takeUpTo mark isPattern fuel (if goes then c :: before else c :: '\\' :: before)
    | some c =>
      if c == mark then return some before.reverse
      else if c == '\n' && isPattern then return none
      else if c == '[' && isPattern then
        let inside ← takeClass
        takeUpTo mark isPattern fuel (inside.reverse ++ c :: before)
      else takeUpTo mark isPattern fuel (c :: before)

/-! ## Characters after a backslash -/

/-- What the character is that stands after a backslash, and what follows: a letter for a control
character, or a letter before a number. -/
def escapedChar? : Octets → Option (Char × Octets)
  | 'a' :: r => some ('\x07', r)
  | 'f' :: r => some ('\x0c', r)
  | 'r' :: r => some ('\r', r)
  | 't' :: r => some ('\t', r)
  | 'v' :: r => some ('\x0b', r)
  | 'c' :: c :: r => some (Char.ofNat (c.toUpper.toNat ^^^ 64), r)
  | c :: r =>
    let number (base most : Nat) : Option (Char × Octets) :=
      let digits := (r.take most).takeWhile fun d => Text.wideDigitValue d < base
      if digits.isEmpty then none
      else
        let n := digits.foldl (fun n d => base * n + Text.wideDigitValue d) 0
        some (Char.ofNat (n % 256), r.drop digits.length)
    match c with
    | 'd' => number 10 3
    | 'o' => number 8 3
    | 'x' => number 16 2
    | _ => none
  | [] => none

/-- A text in which characters that are spelled out after a backslash stand for themselves; those
that would mean something else keep a backslash. -/
def withEscapes (isReplacement : Bool) (fuel : Nat) (cs : Octets) : Octets :=
  match fuel, cs with
  | 0, _ => cs
  | _, [] => []
  | fuel + 1, '\\' :: r =>
    match escapedChar? r with
    | some (c, rest) =>
      let kept := c == '\\' || (c == '&' && isReplacement)
      (if kept then ['\\', c] else [c]) ++ withEscapes isReplacement fuel rest
    | none =>
      match r with
      | c :: r => '\\' :: c :: withEscapes isReplacement fuel r
      | [] => ['\\']
  | fuel + 1, c :: r => c :: withEscapes isReplacement fuel r

/-- A regular expression in which a letter after a backslash stands for the end of a line. -/
def withNewlines : Octets → Octets
  | '\\' :: c :: r => (if c == 'n' then ['\n'] else ['\\', c]) ++ withNewlines r
  | c :: r => c :: withNewlines r
  | [] => []

/-- Reads a regular expression; an empty text means the one used last. -/
def regexOf (isExtended : Bool) (text : Octets) : Reader (Option Regex) := do
  if text.isEmpty then return none
  let text := withEscapes false (text.length + 1) (withNewlines text)
  let rules := if isExtended then RegexSyntax.strictExtended else .strictBasic
  match Regex.readNoting rules text with
  | .ok (r, notices) =>
    if notices.contains .unclearClass then throw ⟨RegexNotice.unclearClass.message, .unclear⟩
    return some r
  | .error fault => fail fault.message

/-- Takes the flags after the regular expression of an address. -/
def takeMode : Reader RegexMode := do
  let flags ← takeWhile fun c => c == 'I' || c == 'M'
  return ⟨flags.contains 'I', flags.contains 'M'⟩

/-- Takes a regular expression between marks. -/
def takePattern (isExtended : Bool) (mark : Char) : Reader (Option Regex × RegexMode) := do
  let fuel := (← get).length + 1
  match ← takeUpTo mark true fuel [] with
  | none => fail "unterminated address regex"
  | some text =>
    let r ← regexOf isExtended text
    let mode ← takeMode
    return (r, mode)

/-- Takes an address, if there is one. -/
def takeAddress (isExtended : Bool) : Reader (Option EditAddress) := do
  match ← peek with
  | some '$' =>
    let _ ← take
    return some .last
  | some '/' =>
    let _ ← take
    let (r, mode) ← takePattern isExtended '/'
    return some (.matching r mode)
  | some '\\' =>
    let _ ← take
    match ← take with
    | none => fail "unterminated address regex"
    | some mark =>
      let (r, mode) ← takePattern isExtended mark
      return some (.matching r mode)
  | some c =>
    if c == '+' || c == '~' then
      let _ ← take
      skipBlanks
      let _ ← takeNumber
      return some .relative
    if !c.isDigit then return none
    let n ← takeNumber
    skipBlanks
    if (← peek) == some '~' then
      let _ ← take
      return some (.every n (← takeNumber))
    return some (.line n)
  | none => return none

/-- Takes the end of a range. -/
def takeRangeEnd (isExtended : Bool) : Reader EditRangeEnd := do
  match ← peek with
  | some '+' =>
    let _ ← take
    return .after (← takeNumber)
  | some '~' =>
    let _ ← take
    return .multiple (← takeNumber)
  | _ =>
    match ← takeAddress isExtended with
    | some (.line n) => return .line n
    | some .last => return .last
    | some (.matching r mode) => return .matching r mode
    | some (.every n _) => return .line n
    | _ =>
      let _ ← take
      fail "unexpected \x60,'"

/-- Takes the lines that a step is about. -/
def takeSelection (isExtended : Bool) : Reader EditSelection := do
  match ← takeAddress isExtended with
  | none => return .all
  | some first =>
    if first matches .relative then fail "invalid usage of +N or ~N as first address"
    skipBlanks
    let isZero : Bool := match first with
      | .line 0 => true
      | _ => false
    if (← peek) == some ',' then
      let _ ← take
      skipBlanks
      match isZero, ← takeRangeEnd isExtended with
      | true, .matching r mode => return .range first (.matching r mode)
      | true, _ => fail misusedZero
      | false, stop => return .range first stop
    if isZero then
      let _ ← take
      fail misusedZero
    return .one first
where
  /-- What is said of a line with the number zero. -/
  misusedZero : String := "invalid usage of line address 0"

/-- Takes what ends a command. -/
def takeEnd : Reader Unit := do
  skipBlanks
  match ← peek with
  | none => return ()
  | some c =>
    if c == ';' || c == '\n' then
      let _ ← take
    else if c == '}' || c == '#' then return ()
    else
      let _ ← take
      fail "extra characters after command"

/-- Takes a label. -/
def takeLabel : Reader Octets := do
  skipBlanks
  takeWhile fun c => c != ';' && c != '\n' && !Text.isSpace c

/-- Takes the name of a file, up to the end of the line. -/
def takeFileName : Reader Octets := do
  skipBlanks
  let name ← takeWhile (· != '\n')
  if name.isEmpty then fail "missing filename in r/R/w/W commands"
  return name

/-- Takes lines of text as they are written; a backslash at the end of one means that there is
another. -/
def takeText (fuel : Nat) (before : Octets) : Reader Octets :=
  match fuel with
  | 0 => return before.reverse
  | fuel + 1 => do
    match ← take with
    | none => return before.reverse
    | some '\n' => return before.reverse
    | some '\\' =>
      match ← take with
      | none => return before.reverse
      | some c => takeText fuel (c :: '\\' :: before)
    | some c => takeText fuel (c :: before)

/-- A text without the backslashes that keep what follows them. -/
def withoutBackslashes : Octets → Octets
  | '\\' :: c :: r => c :: withoutBackslashes r
  | c :: r => c :: withoutBackslashes r
  | [] => []

/-- Takes the text of a command that adds lines. -/
def takeAdded : Reader Octets := do
  skipBlanks
  let mut first : Octets := []
  match ← get with
  | [] => fail "expected \\ after \x60a', \x60c' or \x60i'"
  | '\\' :: r =>
    let afterBlanks := r.dropWhile fun c => c == ' ' || c == '\t'
    match afterBlanks, r with
    | '\n' :: s, _ => set s
    | _, c :: s =>
      -- What follows at once is never a letter for another character.
      set s
      first := [c]
    | _, [] => set r
    if first.isEmpty && (← get).isEmpty then fail "expected \\ after \x60a', \x60c' or \x60i'"
  | _ => pure ()
  let text ← takeText ((← get).length + 1) []
  return first ++ withoutBackslashes (withEscapes false (text.length + 1) text) ++ ['\n']

/-- The parts of a replacement. -/
def replacementParts : Octets → List ReplacementPart
  | '\\' :: c :: r =>
    (if c.isDigit then .group (Text.wideDigitValue c)
    else
      match c with
      | 'n' => .char '\n'
      | 'U' => .change .upper
      | 'L' => .change .lower
      | 'u' => .change .upperNext
      | 'l' => .change .lowerNext
      | 'E' => .change .stop
      | c => .char c) :: replacementParts r
  | '&' :: r => .group 0 :: replacementParts r
  | c :: r => .char c :: replacementParts r
  | [] => []

/-- Takes a flag of a substitution that can be there once. -/
def takeOnce (isSecond : Bool) : Reader Unit := do
  match ← take with
  | some c =>
    if isSecond then
      fail ("multiple \x60" ++ String.ofList [c] ++ "' options to \x60s' command")
  | none => return ()

/-- Takes the flags of a substitution. -/
def takeFlags (fuel : Nat) (s : Substitution) : Reader Substitution :=
  match fuel with
  | 0 => return s
  | fuel + 1 => do
    match ← peek with
    | some 'g' =>
      takeOnce s.isGlobal
      takeFlags fuel { s with isGlobal := true }
    | some 'p' =>
      takeOnce (s.prints || s.printsFirst)
      takeFlags fuel { s with prints := s.runs, printsFirst := !s.runs }
    | some 'e' =>
      let _ ← take
      takeFlags fuel { s with runs := true }
    | some 'i' | some 'I' =>
      let _ ← take
      takeFlags fuel { s with mode := { s.mode with ignoresCase := true } }
    | some 'm' | some 'M' =>
      let _ ← take
      takeFlags fuel { s with mode := { s.mode with hasLines := true } }
    | some 'w' =>
      let _ ← take
      return { s with file := some (← takeFileName) }
    | some c =>
      if c.isDigit then
        let n ← takeNumber
        if s.hasNumber then fail "multiple number options to \x60s' command"
        if n == 0 then fail "number option to \x60s' command may not be zero"
        takeFlags fuel { s with first := n, hasNumber := true }
      else if c == ' ' || c == '\t' then
        let _ ← take
        takeFlags fuel s
      else if c == ';' || c == '\n' || c == '}' || c == '#' then return s
      else
        let _ ← take
        if c == '\r' && (← peek) == some '\n' then return s
        fail "unknown option to \x60s'"
    | none => return s

/-- Takes a substitution. -/
def takeSubstitution (isExtended : Bool) : Reader Substitution := do
  match ← take with
  | none => fail "unterminated \x60s' command"
  | some mark =>
    let fuel := (← get).length + 1
    match ← takeUpTo mark true fuel [] with
    | none => fail "unterminated \x60s' command"
    | some pattern =>
      match ← takeUpTo mark false fuel [] with
      | none => fail "unterminated \x60s' command"
      | some replacement =>
        let parts := replacementParts (withEscapes true (replacement.length + 1) replacement)
        let s ← takeFlags (fuel + 1)
          { pattern := none, mode := ⟨false, false⟩, replacement := parts, isGlobal := false
            first := 1, hasNumber := false, prints := false, runs := false, printsFirst := false
            file := none }
        let r ← regexOf isExtended pattern
        let wrong := parts.find? fun
          | .group n => r.any fun r => r.groupCount < n
          | _ => false
        match wrong with
        | some (.group n) =>
          fail ("invalid reference \\" ++ toString n ++ " on \x60s' command's RHS")
        | _ => return { s with pattern := r }

/-- The characters that a part of a translation means. -/
def translated (o : Octets) : Octets :=
  let rec go : Octets → Octets
    | '\\' :: c :: r => (if c == 'n' then '\n' else c) :: go r
    | c :: r => c :: go r
    | [] => []
  go (withEscapes false (o.length + 1) o)

/-- Takes a translation of characters. -/
def takeTranslation : Reader (List (Char × Char)) := do
  match ← take with
  | none => fail "unterminated \x60y' command"
  | some mark =>
    let fuel := (← get).length + 1
    match ← takeUpTo mark false fuel [], ← takeUpTo mark false fuel [] with
    | some old, some new =>
      let a := translated old
      let b := translated new
      if a.length != b.length then fail "strings for \x60y' command are different lengths"
      return a.zip b
    | _, _ => fail "unterminated \x60y' command"

/-- Takes a number after a command, if there is one. -/
def takeOption : Reader (Option Nat) := do
  skipBlanks
  return Octets.natural? (← takeWhile Char.isDigit)

/-- Takes the version that a script needs, which may not be later than this one. -/
def takeVersion : Reader Unit := do
  let needed := Text.splitAt (· == '.') (← takeLabel)
  let number (o : Octets) : Nat := (Octets.natural? (o.takeWhile Char.isDigit)).getD 0
  let first := number (needed.headD [])
  let second := number ((needed[1]?).getD [])
  if 4 < first || (first == 4 && 9 < second) then fail "expected newer version of sed"

/-- Takes a command after its letter. -/
def takeCommand (isExtended : Bool) (c : Char) : Reader EditCommand := do
  let plain (command : EditCommand) : Reader EditCommand := do
    takeEnd
    return command
  match c with
  | '=' => plain .number
  | 'd' => plain .delete
  | 'D' => plain .deleteFirst
  | 'p' => plain .print
  | 'P' => plain .printFirst
  | 'l' =>
    let width ← takeOption
    plain (.list width)
  | 'e' =>
    skipBlanks
    match ← peek with
    | none => return .execute []
    | some '\n' =>
      let _ ← take
      return .execute []
    | _ => return .execute (← takeAdded).dropLast
  | 'n' => plain .next
  | 'N' => plain .nextAppend
  | 'g' => plain .get
  | 'G' => plain .getAppend
  | 'h' => plain .hold
  | 'H' => plain .holdAppend
  | 'x' => plain .exchange
  | 'z' => plain .empty
  | 'F' => plain .nameInput
  | 'q' =>
    let n ← takeOption
    plain (.quit (n.getD 0))
  | 'Q' =>
    let n ← takeOption
    plain (.quitSilently (n.getD 0))
  | 'a' => return .append (← takeAdded)
  | 'i' => return .insert (← takeAdded)
  | 'c' => return .change (← takeAdded)
  | 'r' => return .read (← takeFileName)
  | 'R' => return .readLine (← takeFileName)
  | 'w' => return .write (← takeFileName)
  | 'W' => return .writeFirst (← takeFileName)
  | ':' =>
    let name ← takeLabel
    if name.isEmpty then fail "\":\" lacks a label"
    return .label name
  | 'b' =>
    let name ← takeLabel
    plain (.jump name)
  | 't' =>
    let name ← takeLabel
    plain (.jumpIf name)
  | 'T' =>
    let name ← takeLabel
    plain (.jumpUnless name)
  | 's' =>
    let s ← takeSubstitution isExtended
    if s.file.isNone then takeEnd
    return .substitute s
  | 'y' =>
    let pairs ← takeTranslation
    plain (.translate pairs)
  | c => fail ("unknown command: \x60" ++ String.ofList [c] ++ "'")

/-- Takes steps, after those that have been read, the last one first.  `blocks` are the places of
the steps that opened blocks which are not closed. -/
def takeSteps (isExtended : Bool) (fuel : Nat) (blocks : List Nat) (steps : Array EditStep) :
    Reader (Array EditStep) :=
  match fuel with
  | 0 => return steps
  | fuel + 1 => do
    let _ ← takeWhile fun c => Text.isSpace c || c == ';'
    match ← peek with
    | none =>
      if blocks.isEmpty then return steps
      else throw ⟨"unmatched \x60\x7b'", .start⟩
    | some '#' =>
      let _ ← takeWhile (· != '\n')
      takeSteps isExtended fuel blocks steps
    | some _ =>
      let selection ← takeSelection isExtended
      skipBlanks
      let isNegated := (← peek) == some '!'
      if isNegated then
        let _ ← take
        skipBlanks
        if (← peek) == some '!' then
          let _ ← take
          fail "multiple \x60!'s"
      match ← take with
      | none => fail "missing command"
      | some '{' =>
        takeSteps isExtended fuel (steps.size :: blocks)
          (steps.push ⟨selection, isNegated, .openBlock 0⟩)
      | some '}' =>
        match blocks with
        | [] => fail "unexpected \x60\x7d'"
        | first :: rest =>
          if !(selection matches .all) then fail "\x7d doesn't want any addresses"
          takeEnd
          let steps := steps.modify first fun s => { s with command := .openBlock steps.size }
          takeSteps isExtended fuel rest (steps.push ⟨.all, false, .closeBlock⟩)
      | some c =>
        if c == '#' then fail "comments don't accept any addresses"
        if c == ':' && !(selection matches .all) then fail ": doesn't want any addresses"
        if (c == 'q' || c == 'Q') && selection matches .range .. then
          fail "command only uses one address"
        if c == 'v' then
          takeVersion
          takeEnd
          return ← takeSteps isExtended fuel blocks steps
        let command ← takeCommand isExtended c
        takeSteps isExtended fuel blocks (steps.push ⟨selection, isNegated, command⟩)

/-- The labels that steps jump to. -/
def targets (steps : Array EditStep) : List Octets :=
  steps.toList.filterMap fun s => match s.command with
    | .jump name | .jumpIf name | .jumpUnless name => if name.isEmpty then none else some name
    | _ => none

/-- The labels that there are. -/
def labels (steps : Array EditStep) : List Octets :=
  steps.toList.filterMap fun s => match s.command with
    | .label name => some name
    | _ => none

/-- Reads a script. -/
def read (isExtended : Bool) (text : Octets) : Except EditFault (Array EditStep) :=
  match (takeSteps isExtended (text.length + 2) [] #[]).run text with
  | .error fault _ => .error fault
  | .ok steps _ =>
    match (targets steps).find? fun name => !(labels steps).contains name with
    | some name => .error ⟨"can't find label for jump to \x60" ++ Octets.toText name ++ "'", .nowhere⟩
    | none => .ok steps

end EditScript

end Flowscript
