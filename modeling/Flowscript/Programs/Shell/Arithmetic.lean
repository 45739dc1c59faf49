import Flowscript.Programs.Shell.Statement
import Flowscript.Programs.Text.CharClass

/-!
# Arithmetic in a script

* `Arithmetic.evaluate` gives the value of an expression and the variables that it sets.

Numbers have 64 bits.  An expression is evaluated from left to right while it is read, so an
assignment is seen by what follows it; the side of a choice that does not count is read but does
nothing.
-/

set_option autoImplicit false

namespace Flowscript.Shell

namespace Arithmetic

/-- An operator between two numbers. -/
inductive Operator where
  | times
  | remainder
  | over
  | plus
  | minus
  | leftShift
  | rightShift
  | less
  | atMost
  | greater
  | atLeast
  | equal
  | unequal
  | bitAnd
  | bitXor
  | bitOr
  deriving DecidableEq, Repr

/-- A token of an expression. -/
inductive Symbol where
  | finish
  | number (value : Int)
  | name (name : String)
  | operator (op : Operator)
  | assign (op : Option Operator)
  | both
  | either
  | not
  | complement
  | opening
  | closing
  | question
  | colon
  | unknown
  deriving DecidableEq, Repr

/-- Why an expression has no value. -/
inductive Failure where
  /-- Something else should be there. -/
  | expected (what : String)
  | dividedByZero
  /-- The value of a variable is no number. -/
  | notNumber (text : Octets)
  deriving DecidableEq, Repr

/-- An expression that is being evaluated: its rest, the last token, the values of variables, and
the variables that have been set. -/
structure State where
  rest : Octets
  symbol : Symbol
  value? : String → Option Octets
  assigned : List (String × Int)

/-- A piece of an evaluation. -/
abbrev Evaluation := ExceptT Failure (StateM State)

/-- Which of two operators binds more strongly: the one with the smaller number. -/
def Operator.level : Operator → Nat
  | .times | .remainder | .over => 0
  | .plus | .minus => 1
  | .leftShift | .rightShift => 2
  | .less | .atMost | .greater | .atLeast => 3
  | .equal | .unequal => 4
  | .bitAnd => 5
  | .bitXor => 6
  | .bitOr => 7

/-- One for what is so, and zero for what is not. -/
def truth (b : Bool) : Int := if b then 1 else 0

/-- The value of an operator between two numbers. -/
def Operator.apply (op : Operator) (a b : Int) : Except Failure Int :=
  let shift := (b % 64).toNat
  match op with
  | .times => .ok (Int64s.wrap (a * b))
  | .remainder => if b == 0 then .error .dividedByZero else .ok (Int64s.wrap (Int.tmod a b))
  | .over => if b == 0 then .error .dividedByZero else .ok (Int64s.wrap (Int.tdiv a b))
  | .plus => .ok (Int64s.wrap (a + b))
  | .minus => .ok (Int64s.wrap (a - b))
  | .leftShift => .ok (Int64s.wrap (a * 2 ^ shift))
  | .rightShift => .ok (Int.fdiv a (2 ^ shift))
  | .less => .ok (truth (a < b))
  | .atMost => .ok (truth (a ≤ b))
  | .greater => .ok (truth (b < a))
  | .atLeast => .ok (truth (b ≤ a))
  | .equal => .ok (truth (a == b))
  | .unequal => .ok (truth (a != b))
  | .bitAnd => .ok (Int64s.bitwise (· &&& ·) a b)
  | .bitXor => .ok (Int64s.bitwise (· ^^^ ·) a b)
  | .bitOr => .ok (Int64s.bitwise (· ||| ·) a b)

/-- Reads an operator that becomes an assignment if an equals sign follows. -/
def operatorOrAssign (op : Operator) (r : Octets) : Symbol × Octets :=
  match r with
  | '=' :: r => (.assign (some op), r)
  | _ => (.operator op, r)

/-- Reads a token. -/
def symbolOf (cs : Octets) : Symbol × Octets :=
  match cs with
  | [] => (.finish, [])
  | '=' :: '=' :: r => (.operator .equal, r)
  | '=' :: r => (.assign none, r)
  | '!' :: '=' :: r => (.operator .unequal, r)
  | '!' :: r => (.not, r)
  | '|' :: '|' :: r => (.either, r)
  | '|' :: r => operatorOrAssign .bitOr r
  | '&' :: '&' :: r => (.both, r)
  | '&' :: r => operatorOrAssign .bitAnd r
  | '^' :: r => operatorOrAssign .bitXor r
  | '<' :: '<' :: r => operatorOrAssign .leftShift r
  | '<' :: '=' :: r => (.operator .atMost, r)
  | '<' :: r => (.operator .less, r)
  | '>' :: '>' :: r => operatorOrAssign .rightShift r
  | '>' :: '=' :: r => (.operator .atLeast, r)
  | '>' :: r => (.operator .greater, r)
  | '*' :: r => operatorOrAssign .times r
  | '/' :: r => operatorOrAssign .over r
  | '%' :: r => operatorOrAssign .remainder r
  | '+' :: r => operatorOrAssign .plus r
  | '-' :: r => operatorOrAssign .minus r
  | '~' :: r => (.complement, r)
  | '(' :: r => (.opening, r)
  | ')' :: r => (.closing, r)
  | '?' :: r => (.question, r)
  | ':' :: r => (.colon, r)
  | c :: r =>
    if Word.startsName c then
      (.name (String.ofList (cs.takeWhile Word.isInName)), cs.dropWhile Word.isInName)
    else
      match Int64s.scan none cs with
      | some scanned => if c.isDigit then (.number scanned.value, scanned.rest) else (.unknown, r)
      | none => (.unknown, r)

/-- Goes on to the next token. -/
def next : Evaluation Unit := modify fun s =>
  let (symbol, rest) := symbolOf (s.rest.dropWhile fun c => c == ' ' || c == '\t' || c == '\n')
  { s with symbol, rest }

/-- The value of a variable. -/
def lookUp (name : String) : Evaluation Int := do
  let s ← get
  match s.assigned.lookup name with
  | some value => return value
  | none =>
    match (s.value? name).getD [] with
    | [] => return 0
    | text =>
      if text.all Text.isSpace then return 0
      else
        match Int64s.ofOctets? none text with
        | some value => return value
        | none => throw (.notNumber text)

/-- Sets a variable. -/
def assign (name : String) (value : Int) : Evaluation Int := do
  modify fun s => { s with assigned := (name, value) :: s.assigned }
  return value

/-- What is evaluated: an assignment or less, a choice or less, and so on down to a number; the
last is what follows a number, up to operators that do not bind more strongly than some level. -/
inductive Part where
  | assignment
  | choice
  | either
  | both
  | operation
  | primary
  | further (first : Int) (level : Nat)
  deriving DecidableEq, Repr

/-- Evaluates a part of an expression of which the first token has been read, and reads the token
after it.  `counts` says whether it counts. -/
def part (fuel : Nat) (counts : Bool) (p : Part) : Evaluation Int :=
  match fuel with
  | 0 => throw (.expected "expecting EOF")
  | fuel + 1 => do
    match p with
    | .assignment =>
      let s ← get
      match s.symbol with
      | .name name =>
        next
        match (← get).symbol with
        | .assign op =>
          next
          let value ← part fuel counts .assignment
          if !counts then return value
          match op with
          | none => assign name value
          | some op => assign name (← op.apply (← lookUp name) value)
        | _ =>
          modify fun t => { t with rest := s.rest, symbol := s.symbol }
          part fuel counts .choice
      | _ => part fuel counts .choice
    | .choice =>
      let condition ← part fuel counts .either
      if (← get).symbol != .question then return condition
      next
      let consequence ← part fuel (counts && condition != 0) .assignment
      if (← get).symbol != .colon then throw (.expected "expecting ':'")
      next
      let alternative ← part fuel (counts && condition == 0) .choice
      return if condition != 0 then consequence else alternative
    | .either =>
      let first ← part fuel counts .both
      if (← get).symbol != .either then return first
      next
      let second ← part fuel (counts && first == 0) .either
      return truth (first != 0 || second != 0)
    | .both =>
      let first ← part fuel counts .operation
      if (← get).symbol != .both then return first
      next
      let second ← part fuel (counts && first != 0) .both
      return truth (first != 0 && second != 0)
    | .operation => part fuel counts (.further (← part fuel counts .primary) 8)
    | .further first level =>
      match (← get).symbol with
      | .operator op =>
        if level ≤ op.level then return first
        next
        let second ← part fuel counts .primary
        let second ← part fuel counts (.further second op.level)
        let value ← if counts then op.apply first second else pure second
        part fuel counts (.further value level)
      | _ => return first
    | .primary =>
      let symbol := (← get).symbol
      next
      match symbol with
      | .number value => return value
      | .name name => if counts then lookUp name else return 0
      | .opening =>
        let value ← part fuel counts .assignment
        if (← get).symbol != .closing then throw (.expected "expecting ')'")
        next
        return value
      | .operator .plus => part fuel counts .primary
      | .operator .minus => return Int64s.wrap (-(← part fuel counts .primary))
      | .not => return truth ((← part fuel counts .primary) == 0)
      | .complement => return Int64s.wrap (-(← part fuel counts .primary) - 1)
      | _ => throw (.expected "expecting primary")

/-- The value of an expression, and the variables that it sets, the first one first. -/
def evaluate (value? : String → Option Octets) (text : Octets) :
    Except Failure Int × List (String × Int) :=
  let all : Evaluation Int := do
    next
    let value ← part (20 * (text.length + 2)) true .assignment
    if (← get).symbol != .finish then throw (.expected "expecting EOF")
    return value
  let (result, s) := (all.run).run ⟨text, .finish, value?, []⟩
  (result, s.assigned.reverse)

/-- The complaint about an expression. -/
def Failure.message (f : Failure) (text : Octets) : Octets :=
  match f with
  | .expected what => ("arithmetic expression: " ++ what ++ ": \"").toList ++ text ++ ['"']
  | .dividedByZero => "arithmetic expression: division by zero: \"".toList ++ text ++ ['"']
  | .notNumber value => "Illegal number: ".toList ++ value

end Arithmetic

end Flowscript.Shell
