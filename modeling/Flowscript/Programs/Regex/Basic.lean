import Flowscript.Programs.Text.CharClass

/-!
# Regular expressions

Their dialects, and how they match.

* `RegexSyntax` says which characters are operators, and what operators mean that have nothing to
  work on.
* `RegexFault` is what can be wrong with the text of a regular expression, and `RegexNotice` is what
  is only strange about it.
* `Regex` is a regular expression.
* `Regex.ends` are all the ways in which one can match from some place on.
* `Regex.search` finds the first place where one matches, and there the longest match.
-/

set_option autoImplicit false

namespace Flowscript

/-! ## Notations for regular expressions -/

/-- What an operator means that has nothing to repeat. -/
inductive LoneOperator where
  /-- It stands for itself. -/
  | ordinary
  /-- It repeats nothing. -/
  | idle
  | refused
  deriving DecidableEq, Repr

/-- Which characters are operators. -/
structure RegexSyntax where
  /-- Whether groups, alternatives and counts are written without a backslash. -/
  hasPlainGroups : Bool
  /-- Whether the signs for one or more, and for one or none, are written without a backslash. -/
  hasPlainRepeats : Bool
  hasCounts : Bool
  hasClasses : Bool
  loneOperator : LoneOperator
  /-- Whether several repetitions can follow one another. -/
  stacksRepeats : Bool
  /-- Whether a closing parenthesis stands for itself if none has been opened. -/
  keepsLoneClose : Bool
  /-- Whether a brace stands for itself if no counts follow. -/
  keepsWrongCounts : Bool
  /-- Whether a range in brackets can be empty. -/
  hasEmptyRanges : Bool
  /-- Whether letters and digits after a backslash have a meaning. -/
  hasLetters : Bool
  /-- Whether an alternative and a group can be empty. -/
  hasEmptyParts : Bool

namespace RegexSyntax

/-- The basic notation, as programs read it that look for lines. -/
def basic : RegexSyntax :=
  { hasPlainGroups := false, hasPlainRepeats := false, hasCounts := true, hasClasses := true
    loneOperator := .ordinary, stacksRepeats := true, keepsLoneClose := false
    keepsWrongCounts := false, hasEmptyRanges := false, hasLetters := true
    hasEmptyParts := true }

/-- The extended notation, as programs read it that look for lines. -/
def extended : RegexSyntax :=
  { basic with
    hasPlainGroups := true, hasPlainRepeats := true, loneOperator := .idle
    keepsLoneClose := true, keepsWrongCounts := true }

/-- The basic notation, as programs read it that edit lines. -/
def strictBasic : RegexSyntax := { basic with stacksRepeats := false }

/-- The extended notation, as programs read it that edit lines. -/
def strictExtended : RegexSyntax :=
  { extended with loneOperator := .refused, keepsLoneClose := false, keepsWrongCounts := false }

/-- The basic notation, as programs read it that only look at the start of a text. -/
def simple : RegexSyntax := { basic with hasEmptyRanges := true }

/-- The extended notation, as programs read it that split records: there is nothing but groups,
alternatives, classes and repetitions. -/
def records : RegexSyntax :=
  { extended with
    hasCounts := false, loneOperator := .refused, hasEmptyRanges := true, hasLetters := false
    hasEmptyParts := false }

/-- The notation of an editor, without counts and classes. -/
def editor : RegexSyntax :=
  { basic with
    hasPlainRepeats := true, hasCounts := false, hasClasses := false, hasEmptyRanges := true }

end RegexSyntax

/-- What can be wrong with the text of a regular expression. -/
inductive RegexFault where
  | badPattern
  | openBracket
  | openGroup
  | closedGroup
  | openCount
  | badCount
  | largeCount
  | nothingToRepeat
  | trailingBackslash
  | badRecall
  | badRange
  | badClass
  | badCollation
  deriving DecidableEq, Repr

/-- The wording of a fault. -/
def RegexFault.message : RegexFault → String
  | .badPattern => "Invalid regular expression"
  | .openBracket => "Unmatched [, [^, [:, [., or [="
  | .openGroup => "Unmatched ( or \\("
  | .closedGroup => "Unmatched ) or \\)"
  | .openCount => "Unmatched \\\x7b"
  | .badCount => "Invalid content of \\\x7b\\\x7d"
  | .largeCount => "Regular expression too big"
  | .nothingToRepeat => "Invalid preceding regular expression"
  | .trailingBackslash => "Trailing backslash"
  | .badRecall => "Invalid back reference"
  | .badRange => "Invalid range end"
  | .badClass => "Invalid character class name"
  | .badCollation => "Invalid collation character"

/-- What is strange about the text of a regular expression. -/
inductive RegexNotice where
  /-- An operator has nothing to repeat. -/
  | lone (operator : String)
  /-- Brackets look like the name of a class. -/
  | unclearClass
  deriving DecidableEq, Repr

/-- The wording of a notice. -/
def RegexNotice.message : RegexNotice → String
  | .lone operator => operator ++ " at start of expression"
  | .unclearClass => "character class syntax is [[:space:]], not [:space:]"

/-! ## Regular expressions

Among matches of the same length the one counts that a reader from left to right would prefer: the
first alternative, and as many repetitions as possible. -/

/-- A member of a class in brackets: the characters from one to another, or a class with a name. -/
inductive RegexItem where
  | range (first last : Char)
  | named (name : String)
  deriving DecidableEq, Repr

/-- A place that matches nothing. -/
inductive RegexPlace where
  | lineStart
  | lineEnd
  | wordStart
  | wordEnd
  | wordEdge
  | wordInside
  | textStart
  | textEnd
  deriving DecidableEq, Repr

/-- A regular expression. -/
inductive Regex where
  | empty
  | char (c : Char)
  | any
  | oneOf (complement : Bool) (items : List RegexItem)
  | place (place : RegexPlace)
  | join (first second : Regex)
  | either (first second : Regex)
  /-- So many repetitions at least, and at most if there is a bound. -/
  | repeated (body : Regex) (least : Nat) (most : Option Nat)
  /-- What it matches is remembered under a number. -/
  | group (number : Nat) (body : Regex)
  /-- What was remembered under a number. -/
  | recall (number : Nat)
  deriving Repr

/-- Whether case does not matter, and whether lines inside a text count as such. -/
structure RegexMode where
  ignoresCase : Bool
  hasLines : Bool
  deriving DecidableEq, Repr

/-- A place in a text: how many characters come before it, the last of them, what follows, and from
where to where groups have matched. -/
structure RegexState where
  position : Nat
  previous : Option Char
  rest : List Char
  groups : List (Nat × Nat × Nat)

/-- A match: where it starts and ends, and from where to where groups matched. -/
structure RegexMatch where
  start : Nat
  stop : Nat
  groups : List (Nat × Nat × Nat)

/-- Whether a character is part of a word. -/
def isWordChar (c : Char) : Bool := c.isAlphanum || c == '_'

/-- Whether a member of a class means a character. -/
def RegexItem.accepts (item : RegexItem) (c : Char) : Bool :=
  match item with
  | .range first last => first ≤ c && c ≤ last
  | .named name => match Text.charClass? name with
    | some isMember => isMember c
    | none => false

namespace Regex

/-- Whether a class means a character. -/
def classAccepts (mode : RegexMode) (complement : Bool) (items : List RegexItem) (c : Char) :
    Bool :=
  let has (c : Char) : Bool := items.any (·.accepts c)
  complement != (has c || (mode.ignoresCase && (has c.toLower || has c.toUpper)))

/-- Whether two characters count as the same. -/
def sameChar (mode : RegexMode) (a b : Char) : Bool :=
  a == b || (mode.ignoresCase && a.toLower == b.toLower)

/-- Whether a place is one of a kind. -/
def isAt (mode : RegexMode) (s : RegexState) (place : RegexPlace) : Bool :=
  let before := s.previous.any isWordChar
  let after := s.rest.head?.any isWordChar
  match place with
  | .lineStart => s.previous.isNone || (mode.hasLines && s.previous == some '\n')
  | .lineEnd => s.rest.isEmpty || (mode.hasLines && s.rest.head? == some '\n')
  | .wordStart => !before && after
  | .wordEnd => before && !after
  | .wordEdge => before != after
  | .wordInside => before == after
  | .textStart => s.previous.isNone
  | .textEnd => s.rest.isEmpty

/-- States of which no two are at the same position; the first one of those counts. -/
def distinct (keepsAll : Bool) (states : List RegexState) : List RegexState :=
  if keepsAll then states
  else
    match states with
    | [] | [_] => states
    | _ => (states.foldl (fun kept s =>
        if kept.any (·.position == s.position) then kept else s :: kept) []).reverse

/-- Goes past characters. -/
def RegexState.skip (s : RegexState) (count : Nat) : RegexState :=
  match count with
  | 0 => s
  | count + 1 =>
    match s.rest with
    | [] => s
    | c :: r => RegexState.skip { s with position := s.position + 1, previous := some c, rest := r }
        count

/-- Goes past one character that is as it should be. -/
def step (isGood : Char → Bool) (s : RegexState) : List RegexState :=
  match s.rest with
  | c :: r =>
    if isGood c then [{ s with position := s.position + 1, previous := some c, rest := r }] else []
  | [] => []

/-- Repeats a match as long as there is something new, and gives the states of each round, the last
round first. -/
def rounds (body : RegexState → List RegexState) (keepsAll : Bool) (fuel : Nat)
    (states seen : List RegexState) : List RegexState :=
  match fuel with
  | 0 => seen
  | fuel + 1 =>
    let next := distinct keepsAll (states.flatMap fun s =>
      (body s).filter fun t => t.position != s.position)
    let fresh := if keepsAll then next
      else next.filter fun s => !seen.any (·.position == s.position)
    if fresh.isEmpty then seen else rounds body keepsAll fuel fresh (fresh ++ seen)

/-- Repeats a match some number of times. -/
def times (body : RegexState → List RegexState) (keepsAll : Bool) (count : Nat)
    (states : List RegexState) : List RegexState :=
  match count with
  | 0 => states
  | count + 1 => times body keepsAll count (distinct keepsAll (states.flatMap body))

/-- The text that was remembered under a number, cut out of the whole text. -/
def remembered (whole : List Char) (s : RegexState) (number : Nat) : Option (List Char) :=
  (s.groups.lookup number).map fun (start, stop) => (whole.drop start).take (stop - start)

/-- All states after a match from a state on, the preferred one first. -/
def ends (mode : RegexMode) (whole : List Char) (keepsAll : Bool) : Regex → RegexState →
    List RegexState
  | .empty, s => [s]
  | .char c, s => step (sameChar mode c) s
  | .any, s => step (fun _ => true) s
  | .oneOf complement items, s => step (classAccepts mode complement items) s
  | .place p, s => if isAt mode s p then [s] else []
  | .join first second, s =>
    distinct keepsAll ((first.ends mode whole keepsAll s).flatMap fun s =>
      second.ends mode whole keepsAll s)
  | .either first second, s =>
    distinct keepsAll (first.ends mode whole keepsAll s ++ second.ends mode whole keepsAll s)
  | .repeated body least most, s =>
    let once (s : RegexState) : List RegexState := body.ends mode whole keepsAll s
    let start := times once keepsAll least [s]
    let bound := match most with
      | some most => most - least
      | none => s.rest.length + 1
    distinct keepsAll (rounds once keepsAll bound start start)
  | .group number body, s =>
    (body.ends mode whole keepsAll s).map fun t =>
      { t with groups := (number, s.position, t.position) ::
          t.groups.filter fun g => g.1 != number }
  | .recall number, s =>
    match remembered whole s number with
    | none => []
    | some text =>
      let found := s.rest.take text.length
      if found.length == text.length && (found.zip text).all fun p => sameChar mode p.1 p.2 then
        [RegexState.skip s text.length]
      else []

/-- Whether something remembered is asked for. -/
def recalls : Regex → Bool
  | .recall _ => true
  | .join first second => first.recalls || second.recalls
  | .either first second => first.recalls || second.recalls
  | .repeated body _ _ => body.recalls
  | .group _ body => body.recalls
  | _ => false

/-- The number of groups. -/
def groupCount : Regex → Nat
  | .join first second => max first.groupCount second.groupCount
  | .either first second => max first.groupCount second.groupCount
  | .repeated body _ _ => body.groupCount
  | .group number body => max number body.groupCount
  | _ => 0

/-- The longest match from a state on. -/
def matchAt? (r : Regex) (mode : RegexMode) (whole : List Char) (s : RegexState) :
    Option RegexMatch :=
  let longest := (r.ends mode whole r.recalls s).foldl (fun best t =>
    match best with
    | none => some t
    | some b => if b.position < t.position then some t else best) (none : Option RegexState)
  longest.map fun t => ⟨s.position, t.position, t.groups⟩

/-- Looks for a match from a state on. -/
def searchFrom? (r : Regex) (mode : RegexMode) (whole : List Char) (fuel : Nat) (s : RegexState) :
    Option RegexMatch :=
  match r.matchAt? mode whole s with
  | some m => some m
  | none =>
    match fuel with
    | 0 => none
    | fuel + 1 =>
      match s.rest with
      | [] => none
      | _ :: _ => searchFrom? r mode whole fuel (RegexState.skip s 1)

/-- The first match that starts at some position or later. -/
def search? (r : Regex) (mode : RegexMode) (text : List Char) (start : Nat) : Option RegexMatch :=
  let first : RegexState := RegexState.skip ⟨0, none, text, []⟩ start
  if text.length < start then none else r.searchFrom? mode text (text.length + 1) first

end Regex

/-- The text of a match. -/
def RegexMatch.text (m : RegexMatch) (whole : List Char) : List Char :=
  (whole.drop m.start).take (m.stop - m.start)

/-- The text that a group matched, or none. -/
def RegexMatch.group (m : RegexMatch) (whole : List Char) (number : Nat) : List Char :=
  if number == 0 then m.text whole
  else
    match m.groups.lookup number with
    | some (start, stop) => (whole.drop start).take (stop - start)
    | none => []

end Flowscript
