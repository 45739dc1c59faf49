import Flowscript.Host.Kernel
import Flowscript.Programs.Regex.Reading
import Flowscript.Programs.Tool.Basic

/-!
# Expressions and tests

Tools that work out an expression or test a condition.

* `evaluateFrom` works out an expression whose parts are words.
* `expressionTool` prints its value.
* `testWords` says whether the condition holds that some words spell.
* `testTool` ends with a status that says it.
-/

set_option autoImplicit false

namespace Flowscript.Tool

/-! ## A program that works out expressions -/

/-! ### Values -/

/-- Whether a text is an integer. -/
def integer? (o : Octets) : Option Int :=
  match o with
  | '-' :: r => (Octets.natural? r).map fun n => -(n : Int)
  | _ => (Octets.natural? o).map fun n => (n : Int)

/-- The text of an integer. -/
def integerText (n : Int) : Octets :=
  (if n < 0 then ['-'] else []) ++ Nat.toDigits 10 n.natAbs

/-- Whether a value counts as nothing: an empty text, or a zero. -/
def isNothing (o : Octets) : Bool :=
  let digits := match o with
    | '-' :: r => if r.isEmpty then ['x'] else r
    | _ => o
  digits.all (· == '0')

/-- A complaint about an expression. -/
def wrongExpression {α : Type} (message : Octets) : ToolRun α := giveUp 2 message

/-- Matches the start of a text with a regular expression: the text of the first group if there is
one, and otherwise the length of the match. -/
def matchStart (text pattern : Octets) : ToolRun Octets := do
  match Regex.read .simple pattern with
  | .error fault => wrongExpression (octets fault.message)
  | .ok r =>
    let mode : RegexMode := ⟨false, false⟩
    let found := r.matchAt? mode text ⟨0, none, text, []⟩
    if r.groupCount == 0 then return integerText ((found.map (·.stop)).getD 0)
    else return (found.map (·.group text 1)).getD []

/-- Whether a relation between values holds. -/
def relationHolds (operator : String) (a b : Octets) : Bool :=
  let order : Ordering := match integer? a, integer? b with
    | some m, some n => compare m n
    | _, _ => if a == b then .eq else if Octets.le a b then .lt else .gt
  match operator with
  | "<" => order == .lt
  | "<=" => order != .gt
  | "=" | "==" => order == .eq
  | "!=" => order != .eq
  | ">=" => order != .lt
  | _ => order == .gt

/-- Works out an operation on numbers. -/
def calculate (operator : String) (a b : Octets) : ToolRun Octets := do
  match integer? a, integer? b with
  | some m, some n =>
    match operator with
    | "+" => return integerText (m + n)
    | "-" => return integerText (m - n)
    | "*" => return integerText (m * n)
    | _ =>
      if n == 0 then wrongExpression (octets "division by zero")
      else if operator == "/" then return integerText (Int.tdiv m n)
      else return integerText (Int.tmod m n)
  | _, _ => wrongExpression (octets "non-integer argument")

/-- The operators of an expression by how close they bind, the loosest first. -/
def operators : List (List String) :=
  [["|"], ["&"], ["<", "<=", "=", "==", "!=", ">=", ">"], ["+", "-"], ["*", "/", "%"], [":"]]

/-- Works out what an operator gives; what does not count is not worked out. -/
def applyOperator (counts : Bool) (operator : String) (a b : Octets) : ToolRun Octets := do
  match operator with
  | "|" => return if !isNothing a then a else if isNothing b then ['0'] else b
  | "&" => return if isNothing a || isNothing b then ['0'] else a
  | "<" | "<=" | "=" | "==" | "!=" | ">=" | ">" =>
    return if counts && relationHolds operator a b then ['1'] else ['0']
  | ":" => if counts then matchStart a b else return a
  | _ => if counts then calculate operator a b else return a

/-- Whether the right side of an operator counts. -/
def rightCounts (counts : Bool) (operator : String) (a : Octets) : Bool :=
  match operator with
  | "|" => counts && isNothing a
  | "&" => counts && !isNothing a
  | _ => counts

/-- A part of a text from a position on, with some length at most. -/
def partOf (text start count : Octets) : Octets :=
  match integer? start, integer? count with
  | some start, some count =>
    if start ≤ 0 || count ≤ 0 then [] else (text.drop (start.toNat - 1)).take count.toNat
  | _, _ => []

/-- The place of the first character of a text that is one of some, counted from one, or zero. -/
def placeOf (text chars : Octets) : Nat := (text.findIdx? chars.contains).elim 0 (· + 1)

/-- The words before the expression that is read, the last one first, and those that follow. -/
structure ExpressionSource where
  before : List Octets
  words : List Octets

/-- Goes past a word. -/
def ExpressionSource.skip (s : ExpressionSource) : ExpressionSource :=
  match s.words with
  | [] => s
  | word :: rest => ⟨word :: s.before, rest⟩

/-- A complaint that something has to follow. -/
def missingAfter {α : Type} (s : ExpressionSource) : ToolRun α :=
  wrongExpression (octets "syntax error: missing argument after " ++ quote (s.before.headD []))

/-- Works out an expression of operators from some level on, or only reads it if it does not count,
and gives what follows it. -/
def evaluateFrom (fuel : Nat) (levels : List (List String)) (counts : Bool)
    (s : ExpressionSource) : ToolRun (Octets × ExpressionSource) :=
  match fuel with
  | 0 => wrongExpression (octets "syntax error")
  | fuel + 1 => do
    match levels with
    | level :: tighter =>
      let (a, s) ← evaluateFrom fuel tighter counts s
      continueWith fuel level tighter counts a s
    | [] =>
      let value (s : ExpressionSource) : ToolRun (Octets × ExpressionSource) :=
        evaluateFrom fuel [] counts s
      match s.words with
      | [] => missingAfter s
      | word :: _ =>
        let next := s.skip
        match String.ofList word with
        | "(" =>
          let (value, s) ← evaluateFrom fuel operators counts next
          match s.words with
          | [')'] :: _ => return (value, s.skip)
          | [] => wrongExpression (octets "syntax error: expecting ')' after "
              ++ quote (s.before.headD []))
          | other :: _ => wrongExpression (octets "syntax error: expecting ')' instead of "
              ++ quote other)
        | ")" => wrongExpression (octets "syntax error: unexpected ')'")
        | "+" =>
          match next.words with
          | value :: _ => return (value, next.skip)
          | [] => missingAfter next
        | "length" =>
          let (text, s) ← value next
          return (integerText text.length, s)
        | "match" =>
          let (text, s) ← value next
          let (pattern, s) ← value s
          if counts then return (← matchStart text pattern, s)
          return (text, s)
        | "index" =>
          let (text, s) ← value next
          let (chars, s) ← value s
          return (integerText (placeOf text chars), s)
        | "substr" =>
          let (text, s) ← value next
          let (start, s) ← value s
          let (count, s) ← value s
          return (partOf text start count, s)
        | _ => return (word, next)
where
  /-- Goes on with operators of a level. -/
  continueWith (fuel : Nat) (level : List String) (tighter : List (List String)) (counts : Bool)
      (a : Octets) (s : ExpressionSource) : ToolRun (Octets × ExpressionSource) :=
    match fuel, s.words with
    | fuel + 1, word :: _ => do
      let operator := String.ofList word
      if !level.contains operator then return (a, s)
      let (b, s) ← evaluateFrom fuel tighter (rightCounts counts operator a) s.skip
      let value ← applyOperator counts operator a b
      continueWith fuel level tighter counts value s
    | _, _ => return (a, s)

/-- Prints the value of an expression. -/
def expressionTool : Procedure := fun _ arguments => do
  let words := match arguments with
    | ['-', '-'] :: rest => rest
    | _ => arguments
  needOperand 2 words
  let (value, s) ← evaluateFrom (20 * words.length + 20) operators true ⟨[], words⟩
  match s.words with
  | word :: _ => wrongExpression (octets "syntax error: unexpected argument " ++ quote word)
  | [] =>
    printLine value
    return if isNothing value then 1 else 0

/-! ## A program that tests conditions

How many words there are decides what they can mean. -/

/-- The words of a condition, and how many of them have been gone past. -/
structure TestState where
  words : List Octets
  position : Nat

/-- A piece of a test. -/
abbrev Test := StateT TestState ToolRun

namespace Test

/-- A complaint about the words. -/
def wrong {α : Type} (message : Octets) : Test α := liftM (giveUp (α := α) 2 message)

/-- The word at some distance, if there is one. -/
def word? (distance : Nat) : Test (Option Octets) := do
  let s ← get
  return s.words[s.position + distance]?

/-- How many words are left. -/
def left : Test Nat := do
  let s ← get
  return s.words.length - s.position

/-- A complaint that something has to follow. -/
def beyond {α : Type} : Test α := do
  wrong (octets "missing argument after " ++ quote ((← get).words.getLastD []))

/-- Goes past a word; another one has to follow if `isNeeded` says so. -/
def advance (isNeeded : Bool) : Test Unit := do
  modify fun s => { s with position := s.position + 1 }
  if isNeeded && (← left) == 0 then beyond

/-- The comparisons. -/
def comparisons : List String :=
  ["=", "==", "!=", "-nt", "-ot", "-ef", "-eq", "-ne", "-lt", "-le", "-gt", "-ge"]

/-- Whether a word is a comparison. -/
def isComparison (o : Option Octets) : Bool :=
  o.any fun o => comparisons.contains (String.ofList o)

/-- The number that a word is. -/
def number (o : Octets) : Test Int := do
  let start := o.dropWhile fun c => c == ' ' || c == '\t'
  let (isNegative, r) := match start with
    | '+' :: r => (false, r)
    | '-' :: r => (true, r)
    | _ => (false, start)
  let digits := r.takeWhile Char.isDigit
  match Octets.natural? digits with
  | some n =>
    if (r.drop digits.length).all Text.isSpace then return if isNegative then -(n : Int) else n
    else wrong (octets "invalid integer " ++ quote o)
  | none => wrong (octets "invalid integer " ++ quote o)

/-- Whether a comparison holds, of which a side that `-l` stands before is the length of a text. -/
def compare (isLeftLength : Bool) : Test Bool := do
  if isLeftLength then advance false
  let a := (← word? 0).getD []
  let name := String.ofList ((← word? 1).getD [])
  let isRightLength := 4 ≤ (← left) && (← word? 2) == some ['-', 'l']
  if isRightLength then advance false
  let b := (← word? 2).getD []
  let side (isLength : Bool) (o : Octets) : Test Int :=
    if isLength then return o.length else number o
  let finish {α : Type} (value : α) : Test α := do
    modify fun s => { s with position := s.position + 3 }
    return value
  let integers (holds : Int → Int → Bool) : Test Bool := do
    let m ← side isLeftLength a
    let n ← side isRightLength b
    finish (holds m n)
  let files (holds : Kernel → Bool) : Test Bool := do
    if isLeftLength || isRightLength then
      wrong (octets (name ++ " does not accept -l"))
    finish (← liftM (look holds))
  match name with
  | "-eq" => integers (· == ·)
  | "-ne" => integers (· != ·)
  | "-lt" => integers fun m n => m < n
  | "-le" => integers fun m n => m ≤ n
  | "-gt" => integers fun m n => n < m
  | "-ge" => integers fun m n => n ≤ m
  | "-nt" => files fun k => match k.writtenAt? a, k.writtenAt? b with
    | some x, some y => y < x
    | x, _ => x.isSome
  | "-ot" => files fun k => match k.writtenAt? a, k.writtenAt? b with
    | some x, some y => x < y
    | _, y => y.isSome
  | "-ef" => files fun k => k.isSame a b
  | "!=" => finish (a != b)
  | _ => finish (a == b)

/-- The answer to a question about a file or a text. -/
def question : Test Bool := do
  let name := (← word? 0).getD []
  let letter := name.getD 1 ' '
  if !"erwxNOGfdsSchLpbugktnz".toList.contains letter then
    wrong (quote name ++ octets ": unary operator expected")
  advance true
  let o := (← word? 0).getD []
  advance false
  match letter with
  | 'n' => return !o.isEmpty
  | 'z' => return o.isEmpty
  | 't' =>
    let _ ← number o
    return false
  | _ => liftM (look (·.isSo letter o))

/-- Whether a word looks like a question. -/
def isQuestion (o : Octets) : Bool := o.length == 2 && o.head? == some '-'

/-- Goes past `!` as often as it stands there, and says whether that was an odd number of times. -/
def negations (fuel : Nat) (isNegated : Bool) : Test Bool :=
  match fuel with
  | 0 => return isNegated
  | fuel + 1 => do
    if (← word? 0) != some ['!'] then return isNegated
    advance true
    negations fuel !isNegated

/-- A condition that is one word, which is not to be empty. -/
def oneWord : Test Bool := do
  let o := (← word? 0).getD []
  advance false
  return !o.isEmpty

/-- A condition of two words. -/
def twoWords : Test Bool := do
  let o := (← word? 0).getD []
  if o == ['!'] then
    advance false
    return !(← oneWord)
  else if isQuestion o then question
  else beyond

/-- Goes past parentheses around a condition. -/
def enclosed (condition : Test Bool) : Test Bool := do
  advance false
  let value ← condition
  advance false
  return value

/-- What is tried of a condition of some words. -/
inductive Part where
  | whole (count : Nat)
  | either
  | both
  | term
  | three

/-- Works out a part of a condition. -/
def evaluate (fuel : Nat) (part : Part) : Test Bool :=
  match fuel with
  | 0 => beyond
  | fuel + 1 => do
    match part with
    | .whole count =>
      match count with
      | 1 => oneWord
      | 2 => twoWords
      | 3 => evaluate fuel .three
      | _ =>
        let first ← word? 0
        if count == 4 && first == some ['!'] then
          advance true
          return !(← evaluate fuel .three)
        else if count == 4 && first == some ['('] && (← word? 3) == some [')'] then
          enclosed twoWords
        else if (← left) == 0 then beyond
        else evaluate fuel .either
    | .three =>
      let first ← word? 0
      let second ← word? 1
      if isComparison second then compare false
      else if first == some ['!'] then
        advance true
        return !(← twoWords)
      else if first == some ['('] && (← word? 2) == some [')'] then enclosed oneWord
      else if second == some ['-', 'a'] || second == some ['-', 'o'] then evaluate fuel .either
      else wrong (quote (second.getD []) ++ octets ": binary operator expected")
    | .either =>
      let value ← evaluate fuel .both
      if (← word? 0) != some ['-', 'o'] then return value
      advance false
      let more ← evaluate fuel .either
      return value || more
    | .both =>
      let value ← evaluate fuel .term
      if (← word? 0) != some ['-', 'a'] then return value
      advance false
      let more ← evaluate fuel .both
      return value && more
    | .term =>
      let isNegated ← negations ((← left) + 1) false
      let o ← match ← word? 0 with
        | some o => pure o
        | none => beyond
      let value ← if o == ['('] then do
          advance true
          let s ← get
          let following := s.words.drop (s.position + 1)
          let inner := (following.take 4).takeWhile (· != [')'])
          let count := if inner.length < 4 then inner.length + 1 else following.length + 1
          let value ← evaluate fuel (.whole count)
          match ← word? 0 with
          | none => wrong (octets "')' expected")
          | some [')'] =>
            advance false
            pure value
          | some other => wrong (octets "')' expected, found " ++ quote other)
        else if 4 ≤ (← left) && o == ['-', 'l'] && isComparison (← word? 2) then compare true
        else if 3 ≤ (← left) && isComparison (← word? 1) then compare false
        else if isQuestion o then question
        else oneWord
      return value != isNegated

end Test

/-- Says whether the condition holds that some words spell. -/
def testWords (words : List Octets) : ToolRun Bool := do
  if words.isEmpty then return false
  let (value, s) ← (Test.evaluate (8 * words.length + 8) (.whole words.length)).run ⟨words, 0⟩
  for extra in (words.drop s.position).take 1 do
    giveUp 2 (octets "extra argument " ++ quote extra)
  return value

/-- Ends with a status that says whether a condition holds. -/
def testTool (isBracket : Bool) : Procedure := fun _ arguments => do
  if isBracket && arguments.getLast? != some [']'] then giveUp 2 (octets "missing ']'")
  let holds ← testWords (if isBracket then arguments.dropLast else arguments)
  return if holds then 0 else 1

end Flowscript.Tool
