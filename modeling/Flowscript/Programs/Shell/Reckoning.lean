import Flowscript.Programs.Shell.Arithmetic
import Flowscript.Programs.Shell.State

/-!
# Arithmetic of the wide dialect

* `Reckoning.evaluate` gives the value of an expression, and the shell after its assignments.
* `Reckoning.spotOf` is the place that an index stands for.

Numbers have 64 bits.  The value of a variable is an expression itself.  An expression is evaluated
while it is read, so an assignment is seen by what follows it; the side of a choice that does not
count is read but does nothing.  A complaint names the expression and what is left of it from the
last token on.
-/

set_option autoImplicit false

namespace Flowscript.Shell

namespace Reckoning

/-- Why an expression has no value. -/
inductive Failure where
  /-- It makes no sense. -/
  | faulty (expression : Octets) (what : String) (token : Octets)
  | unset (name : Octets)
  | readOnly (name : String)
  | badIndex (text : Octets)
  deriving DecidableEq, Repr

/-- The complaint about a failure. -/
def Failure.message : Failure → Octets
  | .faulty expression what token =>
    expression.dropWhile Text.isSpace ++ octets (": " ++ what ++ " (error token is \"") ++ token
      ++ octets "\")"
  | .unset name => name ++ octets ": unbound variable"
  | .readOnly name => octets (name ++ ": readonly variable")
  | .badIndex text => text ++ octets ": bad array subscript"

/-- A token of an expression.  A step adds one or takes one away, before or after the value of a
variable is taken. -/
inductive Sign where
  | finish
  | number
  | name
  | operator (op : Arithmetic.Operator)
  | power
  | assign (op : Option Arithmetic.Operator)
  | both
  | either
  | not
  | complement
  | opening
  | closing
  | question
  | colon
  | comma
  | stepBefore (up : Bool)
  | stepAfter (up : Bool)
  deriving DecidableEq, Repr

/-- Whether a token is an operator, after which an operand is missing. -/
def Sign.isOperator : Sign → Bool
  | .finish => true
  | .number | .name => false
  | _ => true

/-- A variable that an expression names, or a place in one. -/
structure Reference where
  name : String
  spot : Option Spot
  deriving DecidableEq, Repr

/-- An expression that is being evaluated: the shell, the whole of the expression and its rest, what
was left of it at the last token, that token and the one before it, the value of a number or a
variable, the variable, and how many choices it is in that do not count. -/
structure State where
  shell : Memory
  whole : Octets
  rest : Octets
  left : Octets
  sign : Sign
  before : Sign
  value : Int
  reference : Reference
  idle : Nat

/-- A piece of an evaluation. -/
abbrev Evaluation := ExceptT Failure (StateM State)

/-- Gives up at the last token. -/
def fail {α : Type} (what : String) : Evaluation α := do
  let s ← get
  throw (.faulty s.whole what s.left)

/-- Gives up within the last token, which ends before `rest`. -/
def failWithin {α : Type} (what : String) (rest : Octets) : Evaluation α := do
  let s ← get
  throw (.faulty (s.whole.take (s.whole.length - rest.length)) what
    (s.left.take (s.left.length - rest.length)))

/-! ## Numbers -/

/-- Whether a character can be in a number. -/
def isInNumber (c : Char) : Bool := c.isAlphanum || c == '#' || c == '@' || c == '_'

/-- The value of a digit to some base. -/
def digitValue (base : Nat) (c : Char) : Nat :=
  if c.isDigit then c.toNat - '0'.toNat
  else if c.isLower then c.toNat - 'a'.toNat + 10
  else if c.isUpper then c.toNat - 'A'.toNat + if base ≤ 36 then 10 else 36
  else if c == '@' then 62
  else 63

/-- The value of the digits of a number, of which some have been read. -/
def numberValue (rest : Octets) (base : Nat) (isBased : Bool) (value : Nat) :
    Octets → Evaluation Int
  | [] => pure (Int64s.wrap value)
  | '#' :: digits => do
    if isBased then failWithin "invalid number" rest
    if value < 2 || 64 < value then failWithin "invalid arithmetic base" rest
    match digits with
    | [] | '#' :: _ => failWithin "invalid integer constant" rest
    | _ => numberValue rest value true 0 digits
  | c :: digits => do
    let digit := digitValue base c
    if base ≤ digit then failWithin "value too great for base" rest
    numberValue rest base isBased (value * base + digit) digits

/-- The value of a number, after which `rest` follows. -/
def number (text rest : Octets) : Evaluation Int :=
  match text with
  | ['0'] => pure 0
  | '0' :: 'x' :: digits => numberValue rest 16 true 0 digits
  | '0' :: 'X' :: digits => numberValue rest 16 true 0 digits
  | '0' :: digits => numberValue rest 8 true 0 digits
  | _ => numberValue rest 10 false 0 text

/-! ## Variables -/

/-- The text up to the bracket that closes one that has been opened, and what follows it. -/
def bracketed? (depth : Nat) : Octets → Option (Octets × Octets)
  | [] => none
  | '[' :: r => (bracketed? (depth + 1) r).map fun p => ('[' :: p.1, p.2)
  | ']' :: r =>
    match depth with
    | 0 => some ([], r)
    | depth + 1 => (bracketed? depth r).map fun p => (']' :: p.1, p.2)
  | c :: r => (bracketed? depth r).map fun p => (c :: p.1, p.2)

/-- The place that a number stands for in some values; numbers below zero count from the end. -/
def spotNumber? (e : Elements) (n : Int) : Option Nat :=
  let n := if n < 0 then n + (e.nextNumber : Nat) else n
  if n < 0 then none else some n.toNat

/-- The value of a place of a variable. -/
def valueAt? (s : Memory) (r : Reference) : Option Octets :=
  match r.spot with
  | none => s.get? r.name
  | some spot => (s.elements? r.name).bind (·.at? spot)

/-- Sets a variable, or a place in one, to a number. -/
def store (r : Reference) (value : Int) : Evaluation Unit := do
  let s ← get
  if s.idle != 0 then return ()
  let name := s.shell.meant r.name
  let v := s.shell.variableNamed name
  if v.isReadOnly then throw (.readOnly name)
  let text := octets (toString value)
  let v := v.withValue r.spot text
  let v := { v with isExported := v.isExported || s.shell.has 'a' }
  let shell := (s.shell.noteAssignment name (some text)).put v
  let shell := if name == "RANDOM" then { shell with seed := value.toNat } else shell
  set { s with shell }

/-- The next random number, and what the one after it comes from. -/
def nextRandom (seed : Nat) : Nat × Nat :=
  let seed := if seed == 0 then 123459876 else seed
  let next : Int := 16807 * (seed % 127773 : Nat) - 2836 * (seed / 127773 : Nat)
  let next := if next < 0 then next + 2147483647 else next
  let n := next.toNat
  ((n >>> 16 ^^^ n &&& 65535) % 32768, n)

/-- A shell that has thought of a new random number, if that is what a name stands for. -/
def afterRandom (s : Memory) (name : String) : Memory :=
  if name != "RANDOM" then s
  else
    match s.binding? name with
    | none => s
    | some v =>
      let (n, seed) := nextRandom s.seed
      { s with seed }.put { v with value := some (numeral n) }

/-! ## Tokens -/

/-- The operator that a character is. -/
def operatorOf? : Char → Option Arithmetic.Operator
  | '*' => some .times
  | '/' => some .over
  | '%' => some .remainder
  | '+' => some .plus
  | '-' => some .minus
  | '&' => some .bitAnd
  | '^' => some .bitXor
  | '|' => some .bitOr
  | '<' => some .less
  | '>' => some .greater
  | _ => none

/-- The token that operator characters start with, after the token before it, and the rest. -/
def signOf? (before : Sign) (cs : Octets) : Option (Sign × Octets) :=
  let step (c : Char) (r : Octets) : Sign × Octets :=
    let up := c == '+'
    if before == .name then (.stepAfter up, r)
    else if ((r.dropWhile Text.isSpace).head?).any Word.startsName then (.stepBefore up, r)
    else (.operator (if up then .plus else .minus), c :: r)
  match cs with
  | '=' :: '=' :: r => some (.operator .equal, r)
  | '!' :: '=' :: r => some (.operator .unequal, r)
  | '>' :: '=' :: r => some (.operator .atLeast, r)
  | '<' :: '=' :: r => some (.operator .atMost, r)
  | '<' :: '<' :: '=' :: r => some (.assign (some .leftShift), r)
  | '<' :: '<' :: r => some (.operator .leftShift, r)
  | '>' :: '>' :: '=' :: r => some (.assign (some .rightShift), r)
  | '>' :: '>' :: r => some (.operator .rightShift, r)
  | '&' :: '&' :: r => some (.both, r)
  | '|' :: '|' :: r => some (.either, r)
  | '*' :: '*' :: r => some (.power, r)
  | '+' :: '+' :: r => some (step '+' r)
  | '-' :: '-' :: r => some (step '-' r)
  | '=' :: r => some (.assign none, r)
  | '!' :: r => some (.not, r)
  | '~' :: r => some (.complement, r)
  | '(' :: r => some (.opening, r)
  | ')' :: r => some (.closing, r)
  | '?' :: r => some (.question, r)
  | ':' :: r => some (.colon, r)
  | ',' :: r => some (.comma, r)
  | c :: '=' :: r =>
    match operatorOf? c with
    | some op =>
      if c == '<' || c == '>' then some (.operator op, '=' :: r) else some (.assign (some op), r)
    | none => none
  | c :: r => (operatorOf? c).map fun op => (.operator op, r)
  | [] => some (.finish, [])

/-- Whether an assignment sign comes next. -/
def assignsNext (cs : Octets) : Bool :=
  match cs.dropWhile Text.isSpace with
  | '=' :: '=' :: _ => false
  | '=' :: _ => true
  | _ => false

/-- What is evaluated: expressions with commas between them, and so on down to a number; the last is
what follows a number, up to operators that do not bind more strongly than some level. -/
inductive Part where
  | all
  | assignment
  | choice
  | either
  | both
  | operation
  | power
  | signed
  | primary
  | further (first : Int) (level : Nat)
  | commas (first : Int)
  | eithers (first : Int)
  | boths (first : Int)
  /-- The value of a text that is an expression itself. -/
  | text (o : Octets)
  /-- The next token; its value if it is a number or a variable. -/
  | token
  deriving DecidableEq, Repr

/-- The number that a power is. -/
def powerOf (a : Int) (n : Nat) : Int :=
  let step (bits : Nat) (result base : Int) : Int × Int :=
    (if bits % 2 == 1 then Int64s.wrap (result * base) else result, Int64s.wrap (base * base))
  let rec go (fuel bits : Nat) (result base : Int) : Int :=
    match fuel with
    | 0 => result
    | fuel + 1 =>
      if bits == 0 then result
      else
        let (result, base) := step bits result base
        go fuel (bits / 2) result base
  go 64 n 1 a

/-- The value of an operator between two numbers, of which the second one started at `start`. -/
def apply (op : Arithmetic.Operator) (start : Octets) (a b : Int) : Evaluation Int := do
  let s ← get
  let isDivision := op == .over || op == .remainder
  if isDivision && b == 0 then
    if s.idle != 0 then return a
    set { s with left := start.dropWhile Text.isSpace }
    fail "division by 0"
  match op.apply a b with
  | .ok value => return value
  | .error _ => return 0

/-- Does something that does not count if `isIdle` says so. -/
def idling {α : Type} (isIdle : Bool) (act : Evaluation α) : Evaluation α := do
  if isIdle then modify fun s => { s with idle := s.idle + 1 }
  let result ← act
  if isIdle then modify fun s => { s with idle := s.idle - 1 }
  return result

/-- Notes that the last token was the end of a number. -/
def noteNumber : Evaluation Unit := modify ({ · with before := .number })

/-- Reads a token, and evaluates it if it is a number or a variable. -/
def readToken (text : Octets → Evaluation Int) : Evaluation Unit := do
  let s ← get
  let cs := s.rest.dropWhile Text.isSpace
  match cs with
  | [] => set { s with rest := [], before := s.sign, sign := .finish }
  | c :: r =>
    set { s with left := cs, rest := cs }
    if Word.startsName c then
      let name := cs.takeWhile Word.isInName
      let after := cs.drop name.length
      let (index?, after) ← match after with
        | '[' :: inner =>
          match bracketed? 0 inner with
          | some (index, rest) => pure (some index, rest)
          | none => fail "bad array subscript"
        | _ => pure (none, after)
      let nameText := String.ofList name
      modify fun s => { s with shell := afterRandom s.shell nameText }
      let shell := (← get).shell
      let isEvaluated := s.idle == 0
      let spot ← match index? with
        | none => pure none
        | some index =>
          if !isEvaluated then pure none
          else
            match shell.elements? nameText with
            | some (.keyed _) => pure (some (Spot.key index))
            | e? =>
              let n ← text index
              match spotNumber? (e?.getD .empty) n with
              | some n => pure (some (.number n))
              | none => throw (.badIndex (cs.take (cs.length - after.length)))
      let reference : Reference := ⟨nameText, spot⟩
      let steps := match s.sign with
        | .stepBefore _ => true
        | _ => false
      let value ←
        if !isEvaluated || (assignsNext after && !steps) then pure 0
        else
          match valueAt? (← get).shell reference with
          | none =>
            if shell.has 'u' then throw (.unset name)
            pure 0
          | some [] => pure 0
          | some value => text value
      modify fun t => { t with
        whole := s.whole
        left := cs
        rest := after
        reference
        value
        before := s.sign
        sign := .name }
    else if c.isDigit then
      let digits := cs.takeWhile isInNumber
      let rest := cs.drop digits.length
      let value ← number digits rest
      modify ({ · with rest, value, before := s.sign, sign := .number })
    else
      match signOf? s.sign cs with
      | some (sign, rest) => modify ({ · with rest, before := s.sign, sign })
      | none =>
        let _ := r
        fail (if s.sign.isOperator then "syntax error: operand expected"
          else "syntax error: invalid arithmetic operator")

/-- Evaluates a part of an expression of which the first token has been read, and reads the token
after it. -/
def part (fuel : Nat) (p : Part) : Evaluation Int :=
  match fuel with
  | 0 => fail "expression recursion level exceeded"
  | fuel + 1 => do
    let next : Evaluation Unit := do
      let _ ← part fuel .token
    match p with
    | .token =>
      readToken fun o => part fuel (.text o)
      return 0
    | .text o =>
      if o.all Text.isSpace then return 0
      let s ← get
      set { s with whole := o, rest := o, left := o, sign := .finish, before := .finish, idle := 0 }
      next
      let value ← part fuel .all
      if (← get).sign != .finish then fail "syntax error in expression"
      modify fun t => { s with shell := t.shell }
      return value
    | .all => part fuel (.commas (← part fuel .assignment))
    | .commas first =>
      if (← get).sign != .comma then return first
      next
      let value ← part fuel .assignment
      noteNumber
      part fuel (.commas value)
    | .assignment =>
      let value ← part fuel .choice
      let s ← get
      match s.sign with
      | .assign op =>
        if s.before != .name then fail "attempted assignment to non-variable"
        let reference := s.reference
        let start := s.rest
        next
        let right ← part fuel .assignment
        let result ← match op with
          | none => pure right
          | some op => apply op start value right
        store reference result
        return result
      | _ => return value
    | .choice =>
      let condition ← part fuel .either
      if (← get).sign != .question then return condition
      let side (isIdle : Bool) (p : Part) : Evaluation Int := idling isIdle do
        next
        if (← get).sign == .finish then fail "expression expected"
        part fuel p
      let consequence ← side (condition == 0) .all
      if (← get).sign != .colon then fail "\x60:' expected for conditional expression"
      let alternative ← side (condition != 0) .choice
      noteNumber
      return if condition != 0 then consequence else alternative
    | .either => part fuel (.eithers (← part fuel .both))
    | .eithers first =>
      if (← get).sign != .either then return first
      let second ← idling (first != 0) do
        next
        part fuel .both
      noteNumber
      part fuel (.eithers (Arithmetic.truth (first != 0 || second != 0)))
    | .both => part fuel (.boths (← part fuel .operation))
    | .boths first =>
      if (← get).sign != .both then return first
      let second ← idling (first == 0) do
        next
        part fuel .operation
      noteNumber
      part fuel (.boths (Arithmetic.truth (first != 0 && second != 0)))
    | .operation => part fuel (.further (← part fuel .power) 8)
    | .further first level =>
      let s ← get
      match s.sign with
      | .operator op =>
        if level ≤ op.level then return first
        let start := s.rest
        next
        let second ← part fuel .power
        let second ← part fuel (.further second op.level)
        let value ← apply op start first second
        noteNumber
        part fuel (.further value level)
      | _ => return first
    | .power =>
      let first ← part fuel .signed
      if (← get).sign != .power then return first
      next
      let second ← part fuel .power
      noteNumber
      if second < 0 then fail "exponent less than 0"
      return powerOf first second.toNat
    | .signed =>
      let unary (f : Int → Int) : Evaluation Int := do
        next
        let value ← part fuel .signed
        noteNumber
        return f value
      match (← get).sign with
      | .not => unary fun n => Arithmetic.truth (n == 0)
      | .complement => unary fun n => Int64s.wrap (-n - 1)
      | .operator .minus => unary fun n => Int64s.wrap (-n)
      | .operator .plus => unary id
      | _ => part fuel .primary
    | .primary =>
      let s ← get
      match s.sign with
      | .stepBefore up =>
        next
        let t ← get
        if t.sign != .name then
          fail "identifier expected after pre-increment or pre-decrement"
        let value := Int64s.wrap (t.value + if up then 1 else -1)
        store t.reference value
        modify ({ · with sign := .number })
        next
        return value
      | .opening =>
        next
        let value ← part fuel .all
        if (← get).sign != .closing then fail "missing \x60)'"
        next
        return value
      | .number =>
        next
        return s.value
      | .name =>
        next
        match (← get).sign with
        | .stepAfter up =>
          store s.reference (Int64s.wrap (s.value + if up then 1 else -1))
          modify ({ · with sign := .number })
          next
          return s.value
        | _ =>
          modify ({ · with reference := s.reference })
          return s.value
      | _ => fail "syntax error: operand expected"

/-- How deep an expression can be evaluated for its size. -/
def steps : Nat := 20000

/-- The value of an expression, and the shell after its assignments. -/
def evaluate (s : Memory) (text : Octets) : Except Failure Int × Memory :=
  let start : State := ⟨s, text, text, text, .finish, .finish, 0, ⟨"", none⟩, 0⟩
  let (result, t) := ((part steps (.text text)).run).run start
  (result, t.shell)

/-- The place in a variable that an index stands for, and the shell after the assignments in it. -/
def spotOf (s : Memory) (name : String) (index : Octets) : Except Failure Spot × Memory :=
  match s.elements? name with
  | some (.keyed _) => (.ok (.key index), s)
  | e? =>
    match evaluate s index with
    | (.ok n, s) =>
      match spotNumber? (e?.getD .empty) n with
      | some n => (.ok (.number n), s)
      | none => (.error (.badIndex (octets name ++ '[' :: index ++ [']'])), s)
    | (.error failure, s) => (.error failure, s)

end Reckoning

end Flowscript.Shell
