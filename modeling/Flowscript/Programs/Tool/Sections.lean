import Flowscript.Programs.Regex.Reading
import Flowscript.Programs.Text.Directive
import Flowscript.Programs.Tool.Measure
import Flowscript.Programs.Tool.Names
import Flowscript.Programs.Tool.Streams

/-!
# Files that end at lines of some kind

* `SectionMark` says where a section of an input ends: at a line with a number, or at one that
  matches.
* `sectionTool` cuts an input into a file for each of its sections.
-/

set_option autoImplicit false

namespace Flowscript.Tool

/-! ## Marks -/

/-- How often a mark is looked for after the first time. -/
inductive SectionRepeat where
  | times (n : Nat)
  | always
  deriving DecidableEq, Repr

/-- Where a section ends: before a line with a number, or so many lines after one that matches; such
a section can be left out. -/
inductive SectionEnd where
  | line (number : Nat)
  | match (regex : Regex) (offset : Int) (isLeftOut : Bool)

/-- A mark: the word that gives it, where a section ends, and how often. -/
structure SectionMark where
  word : Octets
  stop : SectionEnd
  again : SectionRepeat

/-- How sections are written to files. -/
structure SectionStyle where
  lead : Octets
  /-- What a number becomes in a name. -/
  number : Nat → Octets
  isQuiet : Bool
  skipsEmpty : Bool
  keepsFiles : Bool
  leavesOutMatches : Bool

/-- What is known while sections are written: the lines that are left, the number of the first of
them, the line that was looked at last, and the names of the files. -/
structure SectionState where
  lines : List Octets
  first : Nat
  current : Nat
  files : List Octets

/-- Writes sections. -/
abbrev Sections := StateT SectionState ToolRun

namespace Sections

/-- Takes back what has been written, and ends the program. -/
def abandon {α : Type} (style : SectionStyle) : Sections α := do
  if !style.keepsFiles then
    for name in (← get).files do
      let _ ← liftM (m := ToolRun) (changeAt name false (·.unlink))
  throw 1

/-- Takes the next line that is left. -/
def take? : Sections (Option Octets) := do
  let s ← get
  match s.lines with
  | [] => return none
  | line :: rest =>
    set { s with lines := rest, first := s.first + 1, current := max s.current s.first }
    return some line

/-- The line with some number, which has not been taken. -/
def line? (number : Nat) : Sections (Option Octets) := do
  let s ← get
  return if number < s.first then none else s.lines[number - s.first]?

/-- Writes a section to the next file. -/
def put (style : SectionStyle) (content : Octets) : Sections Unit := do
  let s ← get
  let name := style.lead ++ style.number s.files.length
  if content.isEmpty && style.skipsEmpty then return ()
  match ← liftM (m := ToolRun) (liftM (Run.openFile (Octets.toText name) .write)) with
  | .error fault =>
    let _ ← liftM (m := ToolRun) (complain (quoteName name ++ octets (": " ++ fault.message)))
    abandon style
  | .ok descriptor =>
    let act : ToolRun Unit := do
      let _ ← liftM (Run.write descriptor (Octets.toBytes content))
      liftM (Run.close descriptor)
      if !style.isQuiet then printLine (Nat.toDigits 10 content.length)
    act
    modify fun s => { s with files := s.files ++ [name] }

/-- Says what is wrong with a mark, which had been found some times. -/
def complainOf (message : Octets) (found : Nat) : ToolRun Unit :=
  complain (message
    ++ if found == 0 then [] else octets " on repetition " ++ Nat.toDigits 10 found)

/-- Takes lines up to one with some number. -/
def takeUpTo (fuel number : Nat) (taken : Octets) : Sections (Octets × Bool) :=
  match fuel with
  | 0 => return (taken, true)
  | fuel + 1 => do
    if number ≤ (← get).first then return (taken, true)
    match ← take? with
    | none => return (taken, false)
    | some line => takeUpTo fuel number (taken ++ line)

/-- Writes the section up to a line with some number. -/
def endAtLine (style : SectionStyle) (number found : Nat) : Sections Unit := do
  let refuse {α : Type} : Sections α := do
    complainOf (quote (Nat.toDigits 10 number) ++ octets ": line number out of range") found
    abandon style
  let isOver : Sections Bool := do return (← get).lines.isEmpty
  if (← isOver) && style.leavesOutMatches then
    put style []
    refuse
  let (content, isWhole) ← takeUpTo ((← get).lines.length + 1) (number * (found + 1)) []
  put style content
  if !isWhole then refuse
  if style.leavesOutMatches then
    let _ ← take?
  if (← isOver) && !style.leavesOutMatches then refuse

/-- The number of the next line that matches, if there is one. -/
def findMatch? (regex : Regex) (fuel number : Nat) : Sections (Option Nat) :=
  match fuel with
  | 0 => return none
  | fuel + 1 => do
    match ← line? number with
    | none => return none
    | some line =>
      let text := if line.getLast? == some '\n' then line.dropLast else line
      let isMatch := (regex.search? ⟨false, true⟩ text 0).isSome
      if isMatch then return some number else findMatch? regex fuel (number + 1)

/-- Takes all lines that are left. -/
def takeRest : Sections Octets := do
  let s ← get
  set { s with lines := [], first := s.first + s.lines.length }
  return s.lines.flatten

/-- Writes the section up to a line that matches, and says whether there was one. -/
def endAtMatch (style : SectionStyle) (mark : SectionMark) (regex : Regex) (offset : Int)
    (isLeftOut : Bool) (found : Nat) : Sections Bool := do
  let keep (content : Octets) : Sections Unit := if isLeftOut then return () else put style content
  let s ← get
  match ← findMatch? regex (s.lines.length + 2) (s.current + 1) with
  | none =>
    if mark.again == .always then
      if !isLeftOut then put style (← takeRest)
      return false
    complainOf (quote mark.word ++ octets ": match not found") found
    if !isLeftOut then put style (← takeRest)
    abandon style
  | some number =>
    modify fun s => { s with current := number }
    let stop := (number : Int) + offset
    let refuse (content : Octets) : Sections Unit := do
      complain (quote mark.word ++ octets ": line number out of range")
      keep content
      abandon style
    if stop < (← get).first then refuse []
    let (content, isWhole) ← takeUpTo ((← get).lines.length + 1) stop.toNat []
    if !isWhole then refuse content
    keep content
    if 0 < offset then modify fun s => { s with current := stop.toNat }
    if style.leavesOutMatches then
      let _ ← take?
    return true

/-- Writes the sections up to a mark, as often as it is looked for.  Says whether there can be more
after them. -/
def follow (style : SectionStyle) (mark : SectionMark) (fuel found : Nat) : Sections Bool :=
  match fuel with
  | 0 => return true
  | fuel + 1 => do
    let isOver := match mark.again with
      | .times n => decide (n < found)
      | .always => false
    if isOver then return true
    match mark.stop with
    | .line number =>
      endAtLine style number found
      follow style mark fuel (found + 1)
    | .match regex offset isLeftOut =>
      if ← endAtMatch style mark regex offset isLeftOut found then
        follow style mark fuel (found + 1)
      else return false

/-- Writes all sections. -/
def writeAll (style : SectionStyle) : List SectionMark → Sections Unit
  | [] => do put style (← takeRest)
  | mark :: rest => do
    let length := (← get).lines.length
    let fuel := match mark.again with
      | .times n => n + 2
      | .always => length + 2
    if ← follow style mark fuel 0 then writeAll style rest

end Sections

/-! ## Words -/

/-- Reads a mark that is given between two equal signs, with an offset after them. -/
def readMatchMark (word : Octets) : ToolRun SectionEnd := do
  let sign := word.headD '/'
  let rest := word.drop 1
  if !rest.contains sign then
    giveUp 1 (word ++ octets ": closing delimiter '" ++ [sign] ++ octets "' missing")
  let after := (rest.reverse.takeWhile (· != sign)).reverse
  let text := rest.take (rest.length - after.length - 1)
  let regex ← match Regex.read .simple text with
    | .ok r => pure r
    | .error fault =>
      giveUp 1 (quote word ++ octets (": invalid regular expression: " ++ fault.message))
  let offset ← if after.isEmpty then pure 0
    else
      match Int64s.ofOctets? (some 10) after with
      | some n => pure n
      | none => giveUp 1 (quote word ++ octets ": integer expected after delimiter")
  return .match regex offset (sign == '%')

/-- How often a mark is looked for, if the next word says so. -/
def readRepeat (words : List Octets) : ToolRun (SectionRepeat × List Octets) := do
  match words with
  | ('{' :: inside) :: rest =>
    if inside.getLast? != some '}' then
      giveUp 1 (quote ('{' :: inside) ++ octets ": '\x7d' is required in repeat count")
    let text := inside.dropLast
    if text == ['*'] then return (.always, rest)
    match Octets.natural? text with
    | some n => return (.times n, rest)
    | none =>
      giveUp 1 (quote ('{' :: text)
        ++ octets "\x7d: integer required between '\x7b' and '\x7d'")
  | words => return (.times 0, words)

/-- Reads marks; the numbers of lines do not get smaller. -/
def readMarks (fuel last : Nat) (words : List Octets) : ToolRun (List SectionMark) :=
  match fuel, words with
  | 0, _ => return []
  | _, [] => return []
  | fuel + 1, word :: rest => do
    let finish (stop : SectionEnd) (last : Nat) : ToolRun (List SectionMark) := do
      let (again, rest) ← readRepeat rest
      return ⟨word, stop, again⟩ :: (← readMarks fuel last rest)
    match word with
    | '/' :: _ | '%' :: _ => finish (← readMatchMark word) last
    | _ =>
      match Octets.natural? word with
      | none => giveUp 1 (quote word ++ octets ": invalid pattern")
      | some n =>
        if n == 0 then giveUp 1 (word ++ octets ": line number must be greater than zero")
        if n < last then
          giveUp 1 (octets "line number " ++ quote word
            ++ octets " is smaller than preceding line number, " ++ Nat.toDigits 10 last)
        if n == last then
          complain (octets "warning: line number " ++ quote word
            ++ octets " is the same as preceding line number")
        finish (.line n) n

/-- What a number becomes in names of a given form. -/
def readNameForm (o : Octets) : ToolRun (Nat → Octets) := do
  -- The text before the conversion, with doubled signs as single ones, and what starts there.
  let rec find (fuel : Nat) (before o : Octets) : Octets × Octets :=
    match fuel, o with
    | 0, _ => (before, [])
    | _, [] => (before, [])
    | fuel + 1, '%' :: '%' :: r => find fuel (before ++ ['%']) r
    | _, '%' :: r => (before, '%' :: r)
    | fuel + 1, c :: r => find fuel (before ++ [c]) r
  let (before, conversion) := find (o.length + 1) [] o
  match conversion with
  | [] => giveUp 1 (octets "missing % conversion specification in suffix")
  | _ :: r =>
    let flags := r.takeWhile fun c => Text.Directive.isFlag c || c == '\x27'
    let r := r.drop flags.length
    let width := r.takeWhile Char.isDigit
    let r := r.drop width.length
    let (precision, r) := match r with
      | '.' :: s =>
        let digits := s.takeWhile Char.isDigit
        (some ((Octets.natural? digits).getD 0), s.drop digits.length)
      | r => (none, r)
    match r with
    | [] => giveUp 1 (octets "missing conversion specifier in suffix")
    | letter :: r =>
      if !"diuoxX".toList.contains letter then
        if ' ' ≤ letter && letter ≤ '~' then
          giveUp 1 (octets "invalid conversion specifier in suffix: " ++ [letter])
        else
          giveUp 1 (octets "invalid conversion specifier in suffix: \\"
            ++ { Text.Directive.plain with precision := some 3 }.unsigned 'o' letter.toNat)
      let (after, more) := find (r.length + 1) [] r
      if !more.isEmpty then
        giveUp 1 (octets "too many % conversion specifications in suffix")
      let d := (Text.Directive.ofFlags flags).withWidth ((Octets.natural? width).getD 0)
      let d := { d with precision := precision }
      return fun n =>
        let text := if letter == 'd' || letter == 'i' then d.signed n
          else d.unsigned letter n
        before ++ text ++ after

/-- Cuts an input into a file for each of its sections. -/
def sectionTool : Procedure := fun _ arguments => do
  let (given, operands) ← options
    [.setting 'b' "suffix-format", .setting 'f' "prefix", .flag 'k' "keep-files",
      .flag OptionSpec.noLetter "suppress-matched", .setting 'n' "digits", .flag 's' "silent",
      .flag 'q' "quiet", .flag 'z' "elide-empty-files"] 1 arguments
  let width ← match valueOf? given "digits" with
    | some o => measureIn "invalid number" "" 0 (2 ^ 31 - 1) o
    | none => pure 2
  let number ← match valueOf? given "suffix-format" with
    | some form => readNameForm form
    | none => pure fun n =>
      let digits := Nat.toDigits 10 n
      List.replicate (width - digits.length) '0' ++ digits
  match operands with
  | [] => giveUpUsage 1 (octets "missing operand")
  | [word] => giveUpUsage 1 (octets "missing operand after " ++ quote word)
  | path :: words =>
    let result ← openInput path
    match result with
    | .error fault =>
      giveUp 1 (octets "cannot open " ++ quotePath path
        ++ octets (" for reading: " ++ fault.message))
    | .ok descriptor =>
      let marks ← readMarks (words.length + 1) 0 words
      match ← liftM (Run.readAll descriptor) with
      | .error fault => giveUp 1 (octets ("read error: " ++ fault.message))
      | .ok bytes =>
        let style : SectionStyle :=
          { lead := (valueOf? given "prefix").getD (octets "xx")
            number := number
            isQuiet := has given "silent" || has given "quiet"
            skipsEmpty := has given "elide-empty-files"
            keepsFiles := has given "keep-files"
            leavesOutMatches := has given "suppress-matched" }
        let lines := markedLines '\n' (Octets.ofBytes bytes)
        if lines.isEmpty && marks.any fun m => m.stop matches .line _ then
          giveUp 1 (octets "input disappeared")
        let _ ← (Sections.writeAll style marks).run ⟨lines, 1, 0, []⟩
        return 0

end Flowscript.Tool
