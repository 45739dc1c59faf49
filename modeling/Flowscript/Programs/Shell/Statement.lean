import Flowscript.Text.Octets

/-!
# Statements of a script

* `Dialect` is the language of a script.
* `Word` is text that is still to be expanded: characters, parameters, outputs of statements and
  arithmetic.
* `Redirection` says where input comes from or output goes.
* `Verdict` is a condition on words.
* `Statement` is a command, or several of them joined.

A character between quotes only stands for itself.  Quotes leave a mark, so that a word in quotes is
there even if it is empty.
-/

set_option autoImplicit false

namespace Flowscript.Shell

/-- The language of a script: the common one, or a wider one in which variables can have several
values, and conditions and arithmetic are statements. -/
inductive Dialect where
  | common
  | wide
  deriving DecidableEq, Repr

/-- What is done with the value of a parameter. -/
inductive Adjustment where
  | whole
  | length
  /-- A word in place of no value. -/
  | otherwise
  /-- A word in place of a value. -/
  | instead
  /-- A word that becomes the value if there is none. -/
  | assigned
  /-- A complaint if there is no value. -/
  | demanded
  /-- What a pattern matches is cut off, at the end or at the start, as much of it as possible or
  as little. -/
  | without (atEnd longest : Bool)
  /-- Nothing that makes sense. -/
  | senseless
  deriving DecidableEq, Repr

/-- What a redirection of a file does. -/
inductive Opening where
  | input
  | output
  | overwriting
  | appending
  | both
  deriving DecidableEq, Repr

/-- Which places in a value count when a pattern is to be replaced in it. -/
inductive Anchor where
  | first
  | every
  | atStart
  | atEnd
  deriving DecidableEq, Repr

/-- How the case of letters changes. -/
inductive LetterChange where
  | upper
  | lower
  | opposite
  deriving DecidableEq, Repr

/-- How a case of a choice ends: the choice is made, the next case counts without being looked at,
or the cases after it are looked at too. -/
inductive CaseEnd where
  | leaves
  | fallsThrough
  | goesOn
  deriving DecidableEq, Repr

mutual

/-- A part of a word.  `quoted` says that a part is between double quotes.  `emptyToo` says that an
empty value counts as none.  Only the wide dialect has elements of variables, lists of values and
channels, which are names of files that statements write or read. -/
inductive WordPart where
  | plain (c : Char)
  | literal (c : Char)
  | mark
  | parameter (name : String) (adjustment : Adjustment) (emptyToo : Bool) (word : List WordPart)
      (quoted : Bool)
  | output (body : Option Statement) (quoted : Bool)
  | arithmetic (word : List WordPart) (quoted : Bool)
  | element (name : String) (place : Place) (isIndirect : Bool) (operation : Operation)
      (quoted : Bool)
  | list (items : List (List WordPart))
  | channel (body : Option Statement) (isRead : Bool)
  /-- The output of a script that is only read when it is evaluated. -/
  | script (text : Octets) (quoted : Bool)
  /-- A parameter in braces that makes no sense, as it was written. -/
  | senseless (text : Octets)

/-- Which values of a variable are meant: the only one, all of them, joined to one text or not, or
the one at a place. -/
inductive Place where
  | only
  | all (joined : Bool)
  | at (index : List WordPart)

/-- What is done with the values of a variable. -/
inductive Operation where
  | adjusted (adjustment : Adjustment) (emptyToo : Bool) (word : List WordPart)
  /-- The places of the values. -/
  | places
  /-- The names of variables that start with the name. -/
  | names (joined : Bool)
  | replaced (anchor : Anchor) (pattern replacement : List WordPart)
  | lettered (change : LetterChange) (isEvery : Bool) (pattern : List WordPart)
  | cut (offset : List WordPart) (length : Option (List WordPart))
  /-- Another form of the value, which a letter tells. -/
  | formed (letter : Char)

/-- Where input comes from or output goes: for a file, from another descriptor, or from a text in
the script, which is known by its number.  The wide dialect also has texts in words, files for both
the output and the errors, descriptors that move, and descriptors that are given to variables. -/
inductive Redirection where
  | file (descriptor : Nat) (opening : Opening) (path : List WordPart)
  | copy (descriptor : Nat) (source : List WordPart)
  | document (descriptor number : Nat)
  | text (descriptor : Nat) (word : List WordPart)
  | together (appends : Bool) (path : List WordPart)
  /-- Another descriptor, or a file if there is no number; `isInput` says for what. -/
  | share (descriptor : Option Nat) (isInput : Bool) (source : List WordPart)
  | named (name : String) (redirection : Redirection)

/-- A condition on words. -/
inductive Verdict where
  | text (word : List WordPart)
  | question (letter : Char) (word : List WordPart)
  | comparison (name : String) (first second : List WordPart)
  | both (first second : Verdict)
  | either (first second : Verdict)
  | negation (body : Verdict)

/-- A statement, with the line of the script that it is in where that can be told to somebody. -/
inductive Statement where
  | simple (line : Nat) (assignments words : List (List WordPart))
      (redirections : List Redirection)
  | redirected (line : Nat) (body : Statement) (redirections : List Redirection)
  | background (line : Nat) (body : Statement) (redirections : List Redirection)
  | subshell (line : Nat) (body : Statement) (redirections : List Redirection)
  | pipeline (parts : List Statement) (inBackground : Bool)
  | negated (body : Statement)
  | both (first second : Statement)
  | either (first second : Statement)
  | sequence (first second : Statement)
  | branch (condition consequence : Statement) (alternative : Option Statement)
  | loop (untilHolds : Bool) (condition body : Statement)
  | each (line : Nat) (name : String) (words : List (List WordPart)) (body : Statement)
  | choose (line : Nat) (subject : List WordPart)
      (cases : List (List (List WordPart) × Option Statement × CaseEnd))
  | define (line : Nat) (name : String) (body : Statement)
  | verdict (line : Nat) (condition : Verdict)
  | reckon (line : Nat) (expression : List WordPart)
  /-- A loop with arithmetic before it, as its condition, and after each round. -/
  | counted (line : Nat) (start condition step : List WordPart) (body : Statement)
  /-- A loop over answers to a question. -/
  | menu (line : Nat) (name : String) (words : List (List WordPart)) (body : Statement)
  | timed (isShort : Bool) (body : Option Statement)

end

/-- Text that is still to be expanded. -/
abbrev Word := List WordPart

namespace Word

/-- The character that a part stands for if it is one. -/
def charOf? : WordPart → Option Char
  | .plain c => some c
  | .literal c => some c
  | _ => none

/-- The characters of a word without any quotes and parameters. -/
def plainText? (w : Word) : Option Octets := w.mapM fun
  | .plain c => some c
  | _ => none

/-- The characters of a word, without what is not one. -/
def text (w : Word) : Octets := w.filterMap charOf?

/-- A part of a word about as it was written. -/
def writtenPart : WordPart → Octets
  | .plain c => [c]
  | .literal c => [c]
  | .mark => ['"']
  | .parameter name .whole _ _ _ => '$' :: Octets.ofText name
  | .parameter name _ _ _ _ => '$' :: '\x7b' :: Octets.ofText name ++ ['\x7d']
  | .element name .only _ _ _ => '$' :: '\x7b' :: Octets.ofText name ++ ['\x7d']
  | .element name (.all joined) _ _ _ =>
    '$' :: '\x7b' :: Octets.ofText name ++ (if joined then "[*]\x7d" else "[@]\x7d").toList
  | .element name (.at index) _ _ _ =>
    '$' :: '\x7b' :: Octets.ofText name ++ '[' :: (index.filterMap fun
      | .plain c => some c
      | .literal c => some c
      | _ => none) ++ [']', '\x7d']
  | .senseless text => text
  | .script text _ => '\x60' :: text ++ ['\x60']
  | .output .. => "$(...)".toList
  | .arithmetic .. => "$((...))".toList
  | .channel .. => "<(...)".toList
  | .list items => '(' :: (items.map writtenItem).flatten.drop 1 ++ [')']
where
  writtenItem (w : List WordPart) : Octets := ' ' :: w.flatMap fun
    | .plain c | .literal c => [c]
    | _ => []

/-- A word about as it was written. -/
def written (w : Word) : Octets := w.flatMap writtenPart

/-- Whether a character can start a name. -/
def startsName (c : Char) : Bool := c.isAlpha || c == '_'

/-- Whether a character can be in a name. -/
def isInName (c : Char) : Bool := c.isAlphanum || c == '_'

/-- Whether a text is a name. -/
def isName (o : Octets) : Bool :=
  match o with
  | [] => false
  | c :: _ => startsName c && o.all isInName

/-- Whether a part of a word can be in a name. -/
def isNamePart : WordPart → Bool
  | .plain c => isInName c
  | _ => false

/-- The name that a word assigns to, and the word that is assigned. -/
def assignment? (w : Word) : Option (String × Word) :=
  let name := text (w.takeWhile isNamePart)
  match w.dropWhile isNamePart with
  | .plain '=' :: value => if isName name then some (String.ofList name, value) else none
  | _ => none

/-! ## Assignments in the wide dialect -/

/-- The parts of a word up to the bracket that closes one that has been opened, and what follows
it. -/
def bracketed? (depth : Nat) : Word → Option (Word × Word)
  | [] => none
  | .plain '[' :: rest => (bracketed? (depth + 1) rest).map fun p => (.plain '[' :: p.1, p.2)
  | .plain ']' :: rest =>
    match depth with
    | 0 => some ([], rest)
    | depth + 1 => (bracketed? depth rest).map fun p => (.plain ']' :: p.1, p.2)
  | part :: rest => (bracketed? depth rest).map fun p => (part :: p.1, p.2)

/-- An assignment: to which variable, at which place, whether the value is added to the one before,
and the value. -/
structure Assignment where
  name : String
  index : Option Word
  isAdded : Bool
  value : Word

/-- The assignment that a word is, whose name and place have been read. -/
def assignmentTo? (name : String) (index : Option Word) : Word → Option Assignment
  | .plain '=' :: value => some ⟨name, index, false, value⟩
  | .plain '+' :: .plain '=' :: value => some ⟨name, index, true, value⟩
  | _ => none

/-- The assignment that a word is in the wide dialect. -/
def wideAssignment? (w : Word) : Option Assignment :=
  let name := text (w.takeWhile isNamePart)
  if !isName name then none
  else
    match w.dropWhile isNamePart with
    | .plain '[' :: rest =>
      (bracketed? 0 rest).bind fun p => assignmentTo? (String.ofList name) (some p.1) p.2
    | rest => assignmentTo? (String.ofList name) none rest

end Word

end Flowscript.Shell
