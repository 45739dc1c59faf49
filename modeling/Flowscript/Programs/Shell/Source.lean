import Flowscript.Programs.Shell.Statement

/-!
# Reading a script

A script is read statement by statement.  What has been read stays read, even if the next statement
turns out to make no sense.

* `Source` is the rest of a script, with the last token that was read.
* `Reading` is a piece of reading, which can come upon a `SourceFault`.
* `Source.peek`, `Source.advance` and their like go through the characters.
-/

set_option autoImplicit false

namespace Flowscript.Shell

/-- The words that structure a script. -/
inductive Keyword where
  | not
  | case
  | do
  | done
  | elif
  | else
  | esac
  | fi
  | for
  | if
  | in
  | then
  | until
  | while
  | opening
  | closing
  | function
  | menu
  | time
  | verdict
  deriving DecidableEq, Repr

namespace Keyword

/-- How the keywords of the common dialect are written. -/
def spellings : List (String × Keyword) :=
  [("!", .not), ("case", .case), ("do", .do), ("done", .done), ("elif", .elif), ("else", .else),
    ("esac", .esac), ("fi", .fi), ("for", .for), ("if", .if), ("in", .in), ("then", .then),
    ("until", .until), ("while", .while), ("\x7b", .opening), ("\x7d", .closing)]

/-- How the keywords that only the wide dialect has are written. -/
def wideSpellings : List (String × Keyword) :=
  [("function", .function), ("select", .menu), ("time", .time), ("[[", .verdict)]

/-- How the keywords of a dialect are written. -/
def spellingsIn : Dialect → List (String × Keyword)
  | .common => spellings
  | .wide => spellings ++ wideSpellings

/-- How a keyword is written. -/
def spelling (k : Keyword) : String :=
  (((spellingsIn .wide).find? (·.2 == k)).map (·.1)).getD ""

/-- Whether a keyword ends a list of statements. -/
def endsList : Keyword → Bool
  | .do | .done | .elif | .else | .esac | .fi | .then | .closing => true
  | _ => false

end Keyword

/-- What the next piece of a script is. -/
inductive Token where
  | finish
  | newline
  | semicolon
  | ampersand
  | and
  | or
  | pipe
  /-- A pipe for the output and the errors. -/
  | widePipe
  | opening
  | closing
  | caseEnd
  | caseFall
  | caseOn
  | redirection
  | word
  | keyword (k : Keyword)
  deriving DecidableEq, Repr

namespace Token

/-- How a token is called in a complaint. -/
def name : Token → String
  | .finish => "end of file"
  | .newline => "newline"
  | .semicolon => "\";\""
  | .ampersand => "\"&\""
  | .and => "\"&&\""
  | .or => "\"||\""
  | .pipe => "\"|\""
  | .widePipe => "\"|&\""
  | .opening => "\"(\""
  | .closing => "\")\""
  | .caseEnd => "\";;\""
  | .caseFall => "\";&\""
  | .caseOn => "\";;&\""
  | .redirection => "redirection"
  | .word => "word"
  | .keyword k => "\"" ++ k.spelling ++ "\""

/-- Whether a token ends a list of statements. -/
def endsList : Token → Bool
  | .finish | .closing | .caseEnd | .caseFall | .caseOn => true
  | .keyword k => k.endsList
  | _ => false

end Token

/-- What is looked for when a token is read: newlines are passed over, keywords and aliases are
known, or a word is taken as the end mark of a text. -/
structure Checks where
  newlines : Bool
  keywords : Bool
  aliases : Bool
  endMark : Bool

namespace Checks

/-- Nothing. -/
def none : Checks := ⟨false, false, false, false⟩

/-- Keywords and aliases. -/
def words : Checks := ⟨false, true, true, false⟩

/-- Keywords and aliases, after newlines. -/
def all : Checks := ⟨true, true, true, false⟩

/-- What either looks for. -/
def or (a b : Checks) : Checks :=
  ⟨a.newlines || b.newlines, a.keywords || b.keywords, a.aliases || b.aliases,
    a.endMark || b.endMark⟩

end Checks

/-- A text in the script that is still to come: its number, the line that asks for it, the line
after it, whether tabs before its lines are dropped, and whether it is expanded. -/
structure Awaited where
  number : Nat
  line : Nat
  endMark : Octets
  dropsTabs : Bool
  isExpanded : Bool

/-- A redirection whose target is still to be read. -/
inductive OpenRedirection where
  | file (descriptor : Nat) (opening : Opening)
  | copy (descriptor : Nat)
  | document (descriptor : Nat) (dropsTabs : Bool)
  | text (descriptor : Nat)
  | together (appends : Bool)
  | share (descriptor : Option Nat) (isInput : Bool)
  deriving DecidableEq, Repr

/-- The rest of a script, the number of its line, and the last token that was read with its word or
redirection.  `isBack` says that this token is to be read again.  `documents` are the texts in the
script that have been read, by their numbers, and `awaited` those that start after this line.  `warnings` are lines and what is to be said about
them. -/
structure Source where
  dialect : Dialect
  /-- All of the script, and what was left of it before the last token. -/
  whole : List Char
  tokenRest : List Char
  /-- Whether the next word may assign a list. -/
  takesLists : Bool
  /-- Whether parentheses in words can be parts of patterns. -/
  takesGroups : Bool
  /-- The variable that the last redirection gives its descriptor to. -/
  redirectionName : Option String
  rest : List Char
  line : Nat
  token : Token
  isBack : Bool
  word : Word
  redirection : OpenRedirection
  checks : Checks
  awaited : List Awaited
  warnings : List (Nat × Octets)
  documents : List (Nat × Word)
  nextDocument : Nat
  aliases : List (String × Octets)
  /-- The aliases that have been put in place of their names, and how much of the script was left
  then. -/
  unfolded : List (String × Nat)

/-- What makes no sense, and in which line, with further complaints about it. -/
structure SourceFault where
  line : Nat
  message : Octets
  further : List (Nat × Octets)
  deriving DecidableEq, Repr

/-- A piece of reading. -/
abbrev Reading := ExceptT SourceFault (StateM Source)

namespace Source

/-- A script that nothing has been read of. -/
def ofOctets (dialect : Dialect) (script : Octets) (line : Nat) : Source :=
  { dialect
    whole := script
    tokenRest := script
    takesLists := false
    takesGroups := false
    redirectionName := none
    rest := script
    line
    token := .newline
    isBack := false
    word := []
    redirection := .copy 0
    checks := .none
    awaited := []
    warnings := []
    documents := []
    nextDocument := 0
    aliases := []
    unfolded := [] }

/-- Whether a script is in the wide dialect. -/
def isWide : Reading Bool := do return (← get).dialect == .wide

/-! ## Faults -/

/-- Gives up. -/
def fail {α : Type} (message : String) : Reading α := do
  throw ⟨(← get).line, Octets.ofText message, []⟩

/-- What was read as the last token. -/
def tokenText (s : Source) : Octets := s.tokenRest.take (s.tokenRest.length - s.rest.length)

/-- The line that the last token is in. -/
def tokenLine (s : Source) : Octets :=
  let before := s.whole.take (s.whole.length - s.tokenRest.length)
  (before.reverse.takeWhile (· != '\n')).reverse ++ s.tokenRest.takeWhile (· != '\n')

/-- A text between the marks that complaints put around it. -/
def marked (o : Octets) : Octets := '\x60' :: o ++ ['\'']

/-- The number of the line after a script. -/
def lineAfter (s : Source) : Nat :=
  s.line + if s.rest.isEmpty && s.whole.getLast? != some '\n' then 1 else 0

/-- The complaint that a script ends too early. -/
def earlyEnd (s : Source) : Nat × Octets :=
  (s.lineAfter, Octets.ofText "syntax error: unexpected end of file")

/-- The complaint that shows the line that the last token is in. -/
def shownLine (s : Source) : Nat × Octets := (s.line, marked s.tokenLine)

/-- Gives up because of the last token, in the wide dialect. -/
def wideUnexpected {α : Type} : Reading α := do
  let s ← get
  match s.token with
  | .finish => throw ⟨s.earlyEnd.1, s.earlyEnd.2, []⟩
  | token =>
    let line := if token == .newline then s.line - 1 else s.line
    let text := if token == .newline then Octets.ofText "newline" else s.tokenText
    throw ⟨line, Octets.ofText "syntax error near unexpected token " ++ marked text,
      [(line, marked s.tokenLine)]⟩

/-- Gives up because of the last token. -/
def unexpected {α : Type} (expected : Option Token) : Reading α := do
  if ← isWide then wideUnexpected
  let found := (← get).token.name ++ " unexpected"
  fail (match expected with
    | some token => found ++ " (expecting " ++ token.name ++ ")"
    | none => found)

/-- Gives up because the script ends before something that was opened in a line is closed. -/
def unclosed {α : Type} (message : String) (line : Nat) (mark : String) : Reading α := do
  if ← isWide then
    throw ⟨line, Octets.ofText "unexpected EOF while looking for matching "
      ++ marked (Octets.ofText mark), []⟩
  fail message

/-! ## Characters -/

/-- The next character. -/
def peek? : Reading (Option Char) := do return (← get).rest.head?

/-- Goes one character on. -/
def advance : Reading Unit := modify fun s =>
  match s.rest with
  | [] => s
  | c :: r => { s with rest := r, line := if c == '\n' then s.line + 1 else s.line }

/-- The rest of a text after all places at its start where a line goes on in the next one, and how
many there are. -/
def afterContinuations : List Char → Nat → List Char × Nat
  | '\\' :: '\n' :: r, n => afterContinuations r (n + 1)
  | cs, n => (cs, n)

/-- The next character after all places where a line goes on in the next one. -/
def peekOn? : Reading (Option Char) := do
  let s ← get
  match s.rest with
  | '\\' :: '\n' :: _ =>
    let (rest, count) := afterContinuations s.rest 0
    set { s with rest := rest, line := s.line + count }
    return rest.head?
  | c :: _ => return some c
  | [] => return none

/-- Goes one character on if it is the one that is asked for. -/
def accept (c : Char) : Reading Bool := do
  if (← peekOn?) == some c then
    advance
    return true
  return false

/-- Lets the last token be read again. -/
def pushBack : Reading Unit := modify ({ · with isBack := true })

/-- Says what to look for when the next token is read. -/
def look (checks : Checks) : Reading Unit := modify ({ · with checks := checks })

end Source

end Flowscript.Shell
