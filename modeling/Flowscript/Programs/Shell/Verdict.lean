import Flowscript.Host.Kernel
import Flowscript.Programs.Regex.Reading
import Flowscript.Programs.Shell.Expansion

/-!
# Conditions of the wide dialect

* `judge` says whether a condition on words holds.
* `Examination.examine` says whether a condition holds that arguments spell, or why they spell none.

In a condition on words the second side of a comparison is a pattern, as far as it is not quoted,
and numbers are arithmetic.  In one that arguments spell their number decides how they are taken.
-/

set_option autoImplicit false

namespace Flowscript.Shell

/-! ## Questions -/

/-- Whether a variable, or a place in one, that a text names has a value. -/
def isSetVariable (o : Octets) : Act Bool := do
  match named? o with
  | some (name, .only) =>
    let s ← get
    if name.toList.all Char.isDigit then
      return (s.parameter? ((Octets.natural? (octets name)).getD 0)).isSome
    return (s.get? name).isSome
  | some (name, .all _) =>
    return match (← get).elements? name with
      | some e => !e.values.isEmpty
      | none => false
  | some (name, .at index) =>
    let (result, s) := Reckoning.spotOf (← get) name (Word.text index)
    set s
    match result with
    | .ok spot => return ((s.elements? name).bind (·.at? spot)).isSome
    | .error _ => return false
  | none => return false

/-- The answer to a question about a file or a text. -/
def answerQuestion (letter : Char) (o : Octets) : Act Bool := do
  match letter with
  | 'z' => return o.isEmpty
  | 'n' => return !o.isEmpty
  | 't' => return false
  | 'v' => isSetVariable o
  | 'R' =>
    let s ← get
    return (s.binding? (Octets.toText o)).any fun v => v.marks.contains 'n' && v.value.isSome
  | 'o' =>
    let s ← get
    return match wideOptionNames.find? fun p => octets p.2 == o with
      | some (c, _) => s.has c
      | none => s.does (Octets.toText o)
  | 'a' => look fun k => k.isSo 'e' o
  | 'N' => return false
  | _ => look fun k => k.isSo letter o

/-- Whether a comparison of files holds. -/
def compareFiles (k : Kernel) (name : String) (a b : Octets) : Bool :=
  match name with
  | "-nt" => match k.writtenAt? a, k.writtenAt? b with
    | some x, some y => y < x
    | some _, none => true
    | _, _ => false
  | "-ot" => match k.writtenAt? a, k.writtenAt? b with
    | some x, some y => x < y
    | none, some _ => true
    | _, _ => false
  | _ => k.isSame a b

/-- Whether a comparison of numbers holds, if it is one. -/
def compareNumbers? (name : String) (a b : Int) : Option Bool :=
  match name with
  | "-eq" => some (a == b)
  | "-ne" => some (a != b)
  | "-lt" => some (a < b)
  | "-le" => some (a ≤ b)
  | "-gt" => some (b < a)
  | "-ge" => some (b ≤ a)
  | _ => none

/-! ## Conditions on words -/

/-- The regular expression that a field spells; what is quoted in it stands for itself. -/
def expressionText (parts : Field) : Octets := parts.flatMap fun
  | .plain c => [c]
  | .literal c => if ".[]()*+?\x7b\x7d^$|\\".toList.contains c then ['\\', c] else [c]
  | .mark => []

/-- Whether a text has something in it that a regular expression matches, and what that is. -/
def matchExpression (m : Means) (text : Octets) (word : Word) : Act (Option Bool) := do
  let parts := Segment.whole
    (← expandSegments m deepest ⟨false, false, false, .atStart⟩ word).reverse
  let s ← get
  match Regex.read .extended (expressionText parts) with
  | .error _ => return none
  | .ok r =>
    let found := r.search? ⟨s.does "nocasematch", false⟩ text 0
    let values := match found with
      | some f =>
        (List.range (r.groupCount + 1)).map fun n =>
          if n == 0 then f.text text else f.group text n
      | none => []
    let items := (List.range values.length).zip values
    modify fun s => s.put
      { s.variableNamed "BASH_REMATCH" with value := none, elements := some (.listed items) }
    return some found.isSome

/-- The name under which conditions on words complain. -/
def verdictName : Octets := octets "[["

/-- Complains that a number of a condition makes no sense. -/
def complainOfNumber (failure : Reckoning.Failure) : Act Unit := do
  complain (verdictName ++ octets ": " ++ failure.message)

/-- Shows a condition before it is looked at. -/
def showVerdict (tracer : Octets → Act Unit) (texts : List Octets) : Act Unit :=
  tracer (octets "[[ " ++ Octets.join [' '] texts ++ octets " ]]")

/-- Whether a condition on words holds; nothing if it makes no sense. -/
def judge (m : Means) (tracer : Octets → Act Unit) (fuel : Nat) (v : Verdict) :
    Act (Option Bool) :=
  match fuel with
  | 0 => return none
  | fuel + 1 => do
    match v with
    | .text w =>
      let o ← expandText m .atStart w
      showVerdict tracer [octets "-n", o]
      return some !o.isEmpty
    | .question letter w =>
      let o ← expandText m .atStart w
      showVerdict tracer [['-', letter], o]
      return some (← answerQuestion letter o)
    | .negation body => return (← judge m tracer fuel body).map (!·)
    | .both a b =>
      match ← judge m tracer fuel a with
      | some true => judge m tracer fuel b
      | other => return other
    | .either a b =>
      match ← judge m tracer fuel a with
      | some true => return some true
      | other =>
        match ← judge m tracer fuel b, other with
        | none, _ => return none
        | result, _ => return result
    | .comparison name a b =>
      let first ← expandText m .atStart a
      let s ← get
      let folds := s.does "nocasematch"
      let lower (o : Octets) : Octets := if folds then o.map Char.toLower else o
      if name == "=~" then
        showVerdict tracer [first, octets name, Word.written b]
        return ← matchExpression m first b
      if name == "=" || name == "==" || name == "!=" then
        let style : PatternStyle := ⟨true, true, folds⟩
        let segments ← expandSegments m deepest ⟨false, false, false, .atStart⟩ b
        let parts := Segment.whole segments.reverse
        showVerdict tracer [first, octets name, Quoting.shownPattern parts.chars]
        let pattern := Pattern.ofChars style parts.chars
        return some (pattern.accepts (lower first) == (name != "!="))
      let second ← expandText m .atStart b
      showVerdict tracer [first, octets name, second]
      match name with
      | "<" => return some (Octets.le first second && first != second)
      | ">" => return some (Octets.le second first && first != second)
      | "-nt" | "-ot" | "-ef" => return some (← look fun k => compareFiles k name first second)
      | _ =>
        match ← tryReckon first with
        | .error failure =>
          complainOfNumber failure
          return some false
        | .ok x =>
          match ← tryReckon second with
          | .error failure =>
            complainOfNumber failure
            return some false
          | .ok y => return some ((compareNumbers? name x y).getD false)

/-! ## Conditions that arguments spell -/

namespace Examination

/-- The comparisons. -/
def comparisons : List String :=
  ["=", "==", "!=", "<", ">", "-nt", "-ot", "-ef", "-eq", "-ne", "-lt", "-le", "-gt", "-ge"]

/-- Whether an argument is a comparison. -/
def isComparison (o : Octets) : Bool := comparisons.contains (String.ofList o)

/-- The letter of the question that an argument is. -/
def question? (o : Octets) : Option Char :=
  match o with
  | ['-', c] => if Source.questionLetters.contains c then some c else none
  | _ => none

/-- A piece of an examination, which goes through the arguments and can come upon something that
makes no sense. -/
abbrev Step := StateT (List Octets) (ExceptT Octets Act)

/-- Gives up. -/
def refuse {α : Type} (message : Octets) : Step α := fun _ => throw message

/-- Does something that shells do. -/
def lifted {α : Type} (act : Act α) : Step α := fun rest =>
  ExceptT.lift (do return (← act, rest))

/-- The number that an argument is. -/
def number (o : Octets) : Step Int := do
  match wideNumber? o with
  | some n => return n
  | none => refuse (o ++ octets ": integer expression expected")

/-- Whether a comparison holds. -/
def compare (name : String) (a b : Octets) : Step Bool := do
  match name with
  | "=" | "==" => return a == b
  | "!=" => return a != b
  | "<" => return Octets.le a b && a != b
  | ">" => return Octets.le b a && a != b
  | "-nt" | "-ot" | "-ef" => lifted (look fun k => compareFiles k name a b)
  | _ => do
    let x ← number a
    let y ← number b
    return (compareNumbers? name x y).getD false

/-- The answer to a question. -/
def ask (letter : Char) (o : Octets) : Step Bool := do
  if letter == 't' then
    let _ ← number o
  lifted (answerQuestion letter o)

/-- Whether two arguments hold. -/
def two (a b : Octets) : Step Bool := do
  if a == ['!'] then return b.isEmpty
  match question? a with
  | some letter => ask letter b
  | none => refuse (a ++ octets ": unary operator expected")

/-- Whether three arguments hold. -/
def three (a b c : Octets) : Step Bool := do
  if isComparison b then compare (String.ofList b) a c
  else if b == ['-', 'a'] then return !a.isEmpty && !c.isEmpty
  else if b == ['-', 'o'] then return !a.isEmpty || !c.isEmpty
  else if a == ['!'] then return !(← two b c)
  else if a == ['('] && c == [')'] then return !b.isEmpty
  else refuse (b ++ octets ": binary operator expected")

/-- What a part of a condition is: something with `-o` in it, with `-a`, or less. -/
inductive Level where
  | either
  | both
  | single
  deriving DecidableEq, Repr

/-- Examines a part of a condition. -/
def part (fuel : Nat) (level : Level) : Step Bool :=
  match fuel with
  | 0 => return false
  | fuel + 1 => do
    match level with
    | .either =>
      let first ← part fuel .both
      match ← get with
      | ['-', 'o'] :: rest =>
        set rest
        let second ← part fuel .either
        return first || second
      | _ => return first
    | .both =>
      let first ← part fuel .single
      match ← get with
      | ['-', 'a'] :: rest =>
        set rest
        let second ← part fuel .both
        return first && second
      | _ => return first
    | .single =>
      match ← get with
      | [] => refuse (octets "argument expected")
      | ['!'] :: rest =>
        set rest
        return !(← part fuel .single)
      | ['('] :: rest =>
        set rest
        let value ← part fuel .either
        match ← get with
        | [] => refuse (octets "\x60)' expected")
        | [')'] :: rest =>
          set rest
          return value
        | o :: _ => refuse (octets "\x60)' expected, found " ++ o)
      | a :: op :: b :: rest =>
        if isComparison op then
          set rest
          compare (String.ofList op) a b
        else
          match question? a with
          | some letter =>
            set (b :: rest)
            ask letter op
          | none =>
            set (op :: b :: rest)
            return !a.isEmpty
      | a :: b :: rest =>
        match question? a with
        | some letter =>
          set rest
          ask letter b
        | none =>
          set (b :: rest)
          return !a.isEmpty
      | [a] =>
        set ([] : List Octets)
        return !a.isEmpty

/-- Examines any number of arguments. -/
def whole (arguments : List Octets) : Step Bool := do
  let value ← part (8 * arguments.length + 8) .either
  match ← get with
  | [] => return value
  | ('-' :: o) :: _ => refuse (octets "syntax error: \x60-" ++ o ++ octets "' unexpected")
  | _ => refuse (octets "too many arguments")

/-- Examines arguments by their number. -/
def byNumber (arguments : List Octets) : Step Bool := do
  match arguments with
  | [] => return false
  | [a] => return !a.isEmpty
  | [a, b] => two a b
  | [a, b, c] => three a b c
  | [a, b, c, d] =>
    if a == ['!'] then return !(← three b c d)
    else if a == ['('] && d == [')'] then two b c
    else whole arguments
  | _ => whole arguments

/-- Whether the condition holds that arguments spell. -/
def examine (arguments : List Octets) : Act (Except Octets Bool) := do
  return (← ((byNumber arguments).run arguments).run).map (·.1)

end Examination

end Flowscript.Shell
