import Flowscript.Binary64.Reading
import Flowscript.Programs.Regex.Basic
import Flowscript.Programs.Text.CharClass
import Flowscript.Programs.Text.Directive
import Flowscript.Text.Octets

/-!
# Scripts for records and their parts

The statements of a script, its values, and its tokens.

* `RecordScript` is a script that says what is done with records and their fields: rules, each with
  a pattern and a statement, and functions.
* `RecordStatement` and `RecordExpr` are what rules and functions are made of.
* `RecordValue` is a value, which can be taken as a number, as a text, and as a condition.
* `RecordValue.ofInput` is the value of a text that was read: it counts as a number if it looks like
  one.
* `formatValues` writes values as a format says.
* `RecordToken` is a token.
* `RecordToken.ofText` takes a script apart.
-/

set_option autoImplicit false

namespace Flowscript.Tool

/-! ## Scripts about records -/

/-- An operator between two numbers. -/
inductive RecordOperator where
  | plus
  | minus
  | times
  | over
  | remainder
  | power
  deriving DecidableEq, Repr

/-- A comparison of two values. -/
inductive RecordComparison where
  | less
  | atMost
  | equal
  | unequal
  | atLeast
  | greater
  deriving DecidableEq, Repr

/-- Whether a comparison holds of values in some order. -/
def RecordComparison.holds : RecordComparison → Ordering → Bool
  | .less, o => o == .lt
  | .atMost, o => o != .gt
  | .equal, o => o == .eq
  | .unequal, o => o != .eq
  | .atLeast, o => o != .lt
  | .greater, o => o == .gt

/-- A function that every script has. -/
inductive RecordFunction where
  | length
  | part
  | index
  | split
  | replaceFirst
  | replaceAll
  | find
  | formatted
  | upper
  | lower
  | sine
  | cosine
  | arctangent
  | exponential
  | logarithm
  | root
  | whole
  | chance
  | seed
  | run
  | close
  | flush
  | time
  deriving DecidableEq, Repr

/-- The functions that every script has, by their names. -/
def recordFunctions : List (String × RecordFunction) :=
  [("length", .length), ("substr", .part), ("index", .index), ("split", .split),
    ("sub", .replaceFirst), ("gsub", .replaceAll), ("match", .find), ("sprintf", .formatted),
    ("toupper", .upper), ("tolower", .lower), ("sin", .sine), ("cos", .cosine),
    ("atan2", .arctangent), ("exp", .exponential), ("log", .logarithm), ("sqrt", .root),
    ("int", .whole), ("rand", .chance), ("srand", .seed), ("system", .run), ("close", .close),
    ("fflush", .flush), ("systime", .time)]

/-- An expression. -/
inductive RecordExpr where
  | number (x : Float)
  | text (o : Octets)
  /-- A regular expression by itself, which is about the record. -/
  | pattern (text : Octets)
  | name (name : Octets)
  | element (array : Octets) (subscripts : List RecordExpr)
  | field (number : RecordExpr)
  /-- Expressions between parentheses. -/
  | group (parts : List RecordExpr)
  | assign (op : Option RecordOperator) (place value : RecordExpr)
  /-- One more or less than there was; the value is the new one or the one before. -/
  | step (isUp givesNew : Bool) (place : RecordExpr)
  | choice (condition yes no : RecordExpr)
  | either (first second : RecordExpr)
  | both (first second : RecordExpr)
  | member (subscripts : List RecordExpr) (array : Octets)
  | fits (isNegated : Bool) (text pattern : RecordExpr)
  | compare (how : RecordComparison) (first second : RecordExpr)
  | join (first second : RecordExpr)
  | arithmetic (op : RecordOperator) (first second : RecordExpr)
  | not (body : RecordExpr)
  | negative (body : RecordExpr)
  | positive (body : RecordExpr)
  | call (function : Octets) (arguments : List RecordExpr)
  | builtin (function : RecordFunction) (arguments : List RecordExpr)
  /-- Reads the next record. -/
  | next (place : Option RecordExpr)
  /-- Reads a record of a file. -/
  | nextOfFile (place : Option RecordExpr) (file : RecordExpr)
  /-- Reads a record of what a command prints. -/
  | nextOfCommand (place : Option RecordExpr) (command : RecordExpr)

/-- Where something is printed. -/
inductive RecordTarget where
  | write
  | append
  | command
  deriving DecidableEq, Repr

/-- A statement. -/
inductive RecordStatement where
  | print (arguments : List RecordExpr) (target : Option (RecordTarget × RecordExpr))
  | printFormatted (arguments : List RecordExpr) (target : Option (RecordTarget × RecordExpr))
  | evaluate (e : RecordExpr)
  | choice (condition : RecordExpr) (yes no : RecordStatement)
  /-- Does the body and then the step as long as the condition holds. -/
  | loop (condition : RecordExpr) (step body : RecordStatement)
  /-- Does the body, and does it again as long as the condition holds. -/
  | again (body : RecordStatement) (condition : RecordExpr)
  /-- Does the body for each subscript of an array. -/
  | each (name array : Octets) (body : RecordStatement)
  | block (body : List RecordStatement)
  | leave
  | goOn
  | nextRecord
  | nextFile
  | exit (status : Option RecordExpr)
  | answer (value : Option RecordExpr)
  | delete (array : Octets) (subscripts : Option (List RecordExpr))

/-- What a rule is about. -/
inductive RecordPattern where
  /-- What comes before all records. -/
  | first
  /-- What comes after all records. -/
  | last
  | always
  | when (condition : RecordExpr)
  /-- The records from one for which a condition holds to one for which another one does. -/
  | range (start stop : RecordExpr)

/-- A rule of a script. -/
structure RecordRule where
  pattern : RecordPattern
  action : RecordStatement

/-- A function of a script. -/
structure RecordDefinition where
  name : Octets
  parameters : List Octets
  body : RecordStatement

/-- A script. -/
structure RecordScript where
  rules : List RecordRule
  definitions : List RecordDefinition

/-- Whether an expression is a place for a value. -/
def RecordExpr.isPlace : RecordExpr → Bool
  | .name _ | .element .. | .field _ => true
  | _ => false

/-! ## Values in scripts about records -/

/-! ### Numbers -/

/-- An exact number as one that is calculated with. -/
def realOf (x : Binary64) : Float := Float.ofBits x.bits.toUInt64

/-- The exact value of a number that is finite. -/
def exactOf (x : Float) : Binary64 :=
  let bits := x.toBits.toNat
  let exponent : Nat := bits / 2 ^ 52 % 2048
  let mantissa : Nat := bits % 2 ^ 52
  if exponent == 0 then ⟨2 ^ 63 ≤ bits, mantissa, Binary64.minExponent⟩
  else ⟨2 ^ 63 ≤ bits, 2 ^ 52 + mantissa, Binary64.minExponent + exponent - 1⟩

/-- The number past all others. -/
def endless (isNegative : Bool) : Float := if isNegative then -1.0 / 0.0 else 1.0 / 0.0

/-- The names of numbers that are not finite, each with whether it is about one past all others. -/
def endlessNames : List (String × Bool) := [("infinity", true), ("inf", true), ("nan", false)]

/-- Whether a character is a digit to the base sixteen. -/
def isHexDigit (c : Char) : Bool := c.isDigit || ('a' ≤ c.toLower && c.toLower ≤ 'f')

/-- Reads the number that a text starts with, and gives what follows it. -/
def scanReal? (o : Octets) : Option (Float × Octets) :=
  let (isNegative, r) := Binary64.takeSign o
  match r with
  | '0' :: x :: digits =>
    if (x == 'x' || x == 'X') && digits.head?.any isHexDigit then
      let (n, rest) := Int64s.digits 16 digits
      let x := Float.ofNat n
      some (if isNegative then -x else x, rest)
    else scanDecimal o
  | _ =>
    let word := String.ofList ((r.takeWhile Char.isAlpha).map Char.toLower)
    match endlessNames.lookup word with
    | some true => some (endless isNegative, r.drop word.length)
    | some false => some (0.0 / 0.0, r.drop word.length)
    | none => scanDecimal o
where
  /-- Reads a decimal number. -/
  scanDecimal (o : Octets) : Option (Float × Octets) :=
    (Binary64.scan o).map fun
      | (some x, rest) => (realOf x, rest)
      | (none, rest) => (endless (Binary64.takeSign o).1, rest)

/-- Whether a character is blank in front of a number. -/
def isGap (c : Char) : Bool := c == ' ' || c == '\t' || c == '\n'

/-- The number that a text starts with, or zero. -/
def realOfText (o : Octets) : Float := ((scanReal? (o.dropWhile isGap)).map (·.1)).getD 0.0

/-- The number that a text is, with blanks around it at most. -/
def realOfWhole? (o : Octets) : Option Float :=
  match scanReal? (o.dropWhile isGap) with
  | some (x, rest) => if rest.all isGap then some x else none
  | none => none

/-- The integer next to a number, towards zero, unless the number is not finite. -/
def integerOf? (x : Float) : Option Int := if x.isFinite then some (exactOf x).truncate else none

/-- The integer that a number is. -/
def wholeOf? (x : Float) : Option Int :=
  if x.isFinite && (exactOf x).isInteger then integerOf? x else none

/-- Writes a number as a conversion says. -/
def realText (d : Text.Directive) (conversion : Char) (x : Float) : Octets :=
  let quantity := if x.isFinite then Quantity.ofBinary64 (exactOf x)
    else if x.isNaN then .undefined true
    else .endless (x < 0.0)
  d.real .double conversion quantity

/-- What is left of a number after as many of another one as go into it. -/
def remainderOf (x y : Float) : Float :=
  if !x.isFinite || y.isNaN || y == 0.0 then 0.0 / 0.0
  else if !y.isFinite then x
  else
    let (a, b) := (exactOf x).quotient
    let (c, d) := (exactOf y).quotient
    -- Both are brought to the denominator `b * d`.
    ((Binary64.ofQuotient? (Int.tmod (a * d) (c * b)) (b * d)).map realOf).getD 0.0

/-! ### Values -/

/-- A value. -/
inductive RecordValue where
  /-- What has never been set. -/
  | unset
  | number (x : Float)
  | text (o : Octets)
  /-- A text that was read, and the number that it looks like. -/
  | numeral (o : Octets) (x : Float)

namespace RecordValue

/-- The value of a text that was read. -/
def ofInput (o : Octets) : RecordValue :=
  match realOfWhole? o with
  | some x => .numeral o x
  | none => .text o

/-- One for what is so, and zero for what is not. -/
def ofBool (b : Bool) : RecordValue := .number (if b then 1.0 else 0.0)

/-- A natural number as a value. -/
def ofNat (n : Nat) : RecordValue := .number (Float.ofNat n)

/-- A value as a number. -/
def real : RecordValue → Float
  | .unset => 0.0
  | .number x => x
  | .text o => realOfText o
  | .numeral _ x => x

/-- A value as a condition. -/
def holds : RecordValue → Bool
  | .unset => false
  | .number x => x != 0.0
  | .text o => !o.isEmpty
  | .numeral _ x => x != 0.0

end RecordValue

/-- The least integer that is written as one. -/
def leastWritten : Int := -9223372036854775808

/-- The greatest integer that is written as one. -/
def greatestWritten : Int := 18446744073709551616

/-- The text of an integer, unless it is too large. -/
def wholeText? (x : Float) : Option Octets :=
  match wholeOf? x with
  | some n =>
    if leastWritten ≤ n && n ≤ greatestWritten then
      let digits := Nat.toDigits 10 (min n.natAbs (greatestWritten.natAbs - 1))
      some (if n < 0 then '-' :: digits else digits)
    else none
  | none => none

/-! ### Formats -/

/-- What can be wrong with a format and its values. -/
inductive FormatFault where
  | fewArguments
  | badConversion (number : Nat)
  deriving DecidableEq, Repr

/-- How values are written: as texts, and as what a format says. -/
structure Formatting where
  values : List RecordValue
  /-- How many conversions there have been. -/
  count : Nat
  output : List Octets

/-- A piece of the work on a format. -/
abbrev FormatRun := ExceptT FormatFault (StateM Formatting)

namespace Formatting

/-- The next value. -/
def next : FormatRun RecordValue := do
  match (← get).values with
  | [] => throw .fewArguments
  | v :: rest =>
    modify ({ · with values := rest })
    return v

/-- Adds to what is written. -/
def put (o : Octets) : FormatRun Unit := modify fun s => { s with output := o :: s.output }

/-- A width or a precision, which can be the next value. -/
def size (cs : Octets) : FormatRun (Option Int × Octets) := do
  match cs with
  | '*' :: r => return (some ((integerOf? (← next).real).getD 0), r)
  | _ =>
    let digits := cs.takeWhile Char.isDigit
    return ((Octets.natural? digits).map Int.ofNat, cs.drop digits.length)

/-- Writes a value as a conversion says. -/
def convert (text : RecordValue → Octets) (d : Text.Directive) (conversion : Char) :
    FormatRun Unit := do
  let number := (← get).count
  match conversion with
  | 'c' =>
    match ← next with
    | .number x => put (d.text [Char.ofNat (((integerOf? x).getD 0) % 256).toNat])
    | v => put (d.text [(text v).headD '\x00'])
  | 's' => put (d.text (text (← next)))
  | _ =>
    if conversion == 'd' || conversion == 'i' then
      let x := (← next).real
      match integerOf? x with
      | some n => put (d.signed (max Int64s.least (min Int64s.greatest n)))
      | none => put (realText d 'f' x)
    else if "ouxX".toList.contains conversion then
      put (d.unsigned conversion (Int64s.unsigned ((integerOf? (← next).real).getD 0)))
    else if "feEgGFaA".toList.contains conversion then
      put (realText d conversion (← next).real)
    else throw (.badConversion number)

/-- Follows a format to its end. -/
def follow (text : RecordValue → Octets) (fuel : Nat) (cs : Octets) : FormatRun Unit :=
  match fuel, cs with
  | 0, _ => return ()
  | _, [] => return ()
  | fuel + 1, '%' :: '%' :: r => do
    put ['%']
    follow text fuel r
  | fuel + 1, '%' :: r => do
    modify fun s => { s with count := s.count + 1 }
    let flags := r.takeWhile Text.Directive.isFlag
    let (width, r) ← size (r.drop flags.length)
    let (precision, r) ← match r with
      | '.' :: r => do
        let (precision, r) ← size r
        pure (some (precision.getD 0), r)
      | _ => pure (none, r)
    let r := r.dropWhile fun c => c == 'l' || c == 'h'
    let d := (Text.Directive.ofFlags flags).withWidth (width.getD 0)
    let d := { d with precision := precision.bind fun n => if n < 0 then none else some n.toNat }
    match r with
    | c :: r =>
      convert text d c
      follow text fuel r
    | [] => throw (.badConversion (← get).count)
  | fuel + 1, cs => do
    put (cs.takeWhile (· != '%'))
    follow text fuel (cs.dropWhile (· != '%'))

end Formatting

/-- Writes values as a format says, up to where something is wrong. -/
def formatValues (text : RecordValue → Octets) (format : Octets) (values : List RecordValue) :
    Octets × Option FormatFault :=
  let (result, s) := ((Formatting.follow text (format.length + 1) format).run).run ⟨values, 0, []⟩
  let fault := match result with
    | .ok () => none
    | .error fault => some fault
  (s.output.reverse.flatten, fault)

/-- How numbers become texts if nothing else is said. -/
def plainNumberFormat : Octets := "%.6g".toList

/-- The text of a number: digits if it is an integer, and what a format says otherwise. -/
def numberText (format : Octets) (x : Float) : Octets :=
  match wholeText? x with
  | some o => o
  | none =>
    if format == plainNumberFormat then
      realText { Text.Directive.plain with precision := some 6 } 'g' x
    else (formatValues (fun _ => []) format [.number x]).1

/-- A value as a text. -/
def RecordValue.asText (format : Octets) : RecordValue → Octets
  | .unset => []
  | .number x => numberText format x
  | .text o => o
  | .numeral o _ => o

/-- How two values are in order: as numbers if both are, and as texts otherwise. -/
def RecordValue.order (format : Octets) (a b : RecordValue) : Ordering :=
  let isNumber : RecordValue → Bool
    | .text _ => false
    | _ => true
  if isNumber a && isNumber b then
    if a.real < b.real then .lt else if a.real == b.real then .eq else .gt
  else
    let (s, t) := (a.asText format, b.asText format)
    if s == t then .eq else if Octets.le s t then .lt else .gt

/-! ## The tokens of scripts about records

A slash starts a regular expression where an operand has to come, and divides elsewhere. -/

/-- A token of a script. -/
inductive RecordToken where
  | finish
  | newline
  | number (x : Float) (spelling : Octets)
  | text (o : Octets)
  /-- The text of a regular expression. -/
  | pattern (o : Octets)
  | name (o : Octets)
  /-- A name right before an opening parenthesis. -/
  | callee (o : Octets)
  | builtin (name : String) (function : RecordFunction)
  | word (w : String)
  | sign (s : String)

/-- Why a script cannot be read: its line, what is said of it, and whether its line is called one
where that is said. -/
structure RecordFault where
  line : Nat
  message : Octets
  namesLine : Bool

/-- The complaint about a script, which can be in a file. -/
def RecordFault.complaint (f : RecordFault) (path : Option Octets) : Octets :=
  let place := match path with
    | some o => o ++ ": ".toList
    | none => []
  (if f.namesLine then place ++ "line ".toList else []) ++ Nat.toDigits 10 f.line ++ ": ".toList
    ++ f.message

namespace RecordToken

/-- The words that mean something. -/
def words : List String :=
  ["BEGIN", "END", "function", "func", "if", "else", "while", "for", "do", "break", "continue",
    "next", "nextfile", "exit", "return", "delete", "in", "getline", "print", "printf"]

/-- The signs; one comes before those that it starts with. -/
def signs : List String :=
  ["**=", "!~", "==", "<=", ">=", "!=", "++", "--", "&&", "||", "+=", "-=", "*=", "/=", "%=", "^=",
    ">>", "**", "\x7b", "\x7d", "(", ")", "[", "]", ";", ",", "+", "-", "*", "/", "%", "^", "!",
    ">", "<", "|", "?", ":", "~", "$", "="]

/-- The other way to write a sign. -/
def usual (s : String) : String := if s == "**" then "^" else if s == "**=" then "^=" else s

/-- How a token is shown in a complaint. -/
def spelling : RecordToken → Octets
  | .finish => "end of file".toList
  | .newline => "end of line".toList
  | .number _ o => o
  | .text o => o
  | .pattern o => '/' :: o ++ ['/']
  | .name o => o
  | .callee o => o
  | .builtin w _ => w.toList
  | .word w => w.toList
  | .sign s => s.toList

/-- Whether a token ends an operand, so that an operator follows. -/
def endsOperand : RecordToken → Bool
  | .number .. | .text _ | .pattern _ | .name _ | .builtin .. => true
  | .sign s => s == ")" || s == "]" || s == "$" || s == "++" || s == "--"
  | _ => false

/-- The character that a letter after a backslash stands for. -/
def escape? : Char → Option Char
  | '"' => some '"'
  | '\\' => some '\\'
  | '/' => some '/'
  | 'a' => some '\x07'
  | 'b' => some '\x08'
  | 'f' => some '\x0c'
  | 'n' => some '\n'
  | 'r' => some '\r'
  | 't' => some '\t'
  | 'v' => some '\x0b'
  | _ => none

/-- A text whose backslashes are signs for other characters; other ones stay. -/
def unescaped (fuel : Nat) (cs : Octets) : Octets :=
  match fuel, cs with
  | 0, _ => cs
  | _, [] => []
  | fuel + 1, '\\' :: c :: r =>
    let digits := ((c :: r).take 3).takeWhile fun d => '0' ≤ d && d ≤ '7'
    if !digits.isEmpty then
      let n := digits.foldl (fun n d => n * 8 + (d.toNat - '0'.toNat)) 0
      Char.ofNat (n % 256) :: unescaped fuel ((c :: r).drop digits.length)
    else if c == '\n' then unescaped fuel r
    else
      match escape? c with
      | some d => d :: unescaped fuel r
      | none => '\\' :: c :: unescaped fuel r
  | fuel + 1, c :: r => c :: unescaped fuel r

/-- The text of a regular expression in which letters after a backslash that stand for characters
have been replaced by those; other backslashes stay. -/
def unescapedPattern (fuel : Nat) (cs : Octets) : Octets :=
  match fuel, cs with
  | 0, _ => cs
  | _, [] => []
  | fuel + 1, '\\' :: c :: r =>
    if c == '\\' then '\\' :: '\\' :: unescapedPattern fuel r
    else
      match escape? c with
      | some d => d :: unescapedPattern fuel r
      | none => '\\' :: c :: unescapedPattern fuel r
  | fuel + 1, c :: r => c :: unescapedPattern fuel r

/-- The text up to a mark, past which it goes on; a backslash keeps what follows it.  Between
brackets, where `hasClasses` says that there are some, a mark is none. -/
def upTo? (mark : Char) (hasClasses : Bool) (fuel : Nat) (isInside : Bool) (taken cs : Octets) :
    Option (Octets × Octets) :=
  match fuel, cs with
  | 0, _ => none
  | _, [] => none
  | fuel + 1, '\\' :: c :: r => upTo? mark hasClasses fuel isInside (c :: '\\' :: taken) r
  | fuel + 1, c :: r =>
    if c == '\n' then none
    else if c == mark && !isInside then some (taken.reverse, r)
    else if c == '[' && hasClasses && !isInside then
      -- A closing bracket that comes first is part of the class.
      let lead := match r with
        | '^' :: ']' :: _ => 2
        | '^' :: _ => 1
        | ']' :: _ => 1
        | _ => 0
      upTo? mark hasClasses fuel (r.contains ']') ((r.take lead).reverse ++ c :: taken)
        (r.drop lead)
    else upTo? mark hasClasses fuel (isInside && c != ']') (c :: taken) r

/-- Whether a character can start a name. -/
def startsName (c : Char) : Bool := c.isAlpha || c == '_'

/-- Whether a character can be in a name. -/
def isInName (c : Char) : Bool := c.isAlphanum || c == '_'

/-- The token of a name. -/
def ofName (o : Octets) (rest : Octets) : RecordToken :=
  let w := String.ofList o
  if words.contains w then .word (if w == "func" then "function" else w)
  else
    match recordFunctions.lookup w with
    | some f => .builtin w f
    | none => if rest.head? == some '(' then .callee o else .name o

/-- The least number that has as many digits as others. -/
def leastReal : Float := Float.ofScientific 22250738585072014 true 324

/-- Reads a token that is not at the end of a line; what comes before decides what a slash is. -/
def read (line : Nat) (before : RecordToken) (cs : Octets) :
    Except RecordFault (RecordToken × Octets) := do
  match cs with
  | [] => return (.finish, [])
  | '"' :: r =>
    match upTo? '"' false (r.length + 1) false [] r with
    | some (o, rest) => return (.text (unescaped (o.length + 1) o), rest)
    | none =>
      throw ⟨line, "runaway string constant \"".toList ++ (r.takeWhile (· != '\n')).take 10
        ++ " ...".toList, true⟩
  | '/' :: r =>
    if before.endsOperand then
      match r with
      | '=' :: rest => return (.sign "/=", rest)
      | _ => return (.sign "/", r)
    match upTo? '/' true (r.length + 1) false [] r with
    | some (o, rest) => return (.pattern o, rest)
    | none =>
      throw ⟨line, "runaway regular expression /".toList ++ (r.takeWhile (· != '\n')).take 10
        ++ " ...".toList, true⟩
  | c :: r =>
    if startsName c then
      let spelled := cs.takeWhile isInName
      let rest := cs.drop spelled.length
      return (ofName spelled rest, rest)
    if c.isDigit || (c == '.' && r.head?.any Char.isDigit) then
      match Binary64.scan cs with
      | some (x, rest) =>
        let spelling := cs.take (cs.length - rest.length)
        let x := x.map realOf
        let isNothing := (spelling.takeWhile fun d => d != 'e' && d != 'E').all fun d =>
          d == '0' || d == '.'
        if !isNothing && x == some 0.0 then
          throw ⟨line, spelling ++ " : decimal underflow".toList, false⟩
        if !isNothing && x.all (· < leastReal) then
          throw ⟨line, spelling ++ " : decimal overflow".toList, true⟩
        return (.number (x.getD 0.0) spelling, rest)
      | none => pure ()
    match signs.find? fun s => s.toList.isPrefixOf cs with
    | some s => return (.sign (usual s), cs.drop s.length)
    | none => throw ⟨line, "unexpected character '".toList ++ [c, '\''], false⟩

/-- Takes a script apart; each token comes with its line. -/
def readAll (fuel line : Nat) (before : RecordToken) (cs : Octets) :
    Except RecordFault (List (RecordToken × Nat)) := do
  match fuel, cs with
  | 0, _ => return [(.finish, line)]
  | _, [] => return [(.finish, line)]
  | fuel + 1, c :: r =>
    match c, r with
    | '\n', _ => return (.newline, line) :: (← readAll fuel (line + 1) .newline r)
    | '\\', '\n' :: r => readAll fuel (line + 1) before r
    | '\\', '\r' :: '\n' :: r => readAll fuel (line + 1) before r
    | '#', _ => readAll fuel line before (r.dropWhile (· != '\n'))
    | _, _ =>
      if c == ' ' || c == '\t' || c == '\r' then readAll fuel line before r
      else
        let (token, rest) ← read line before cs
        return (token, line) :: (← readAll fuel line token rest)

/-- Takes a script apart; each token comes with its line. -/
def ofText (o : Octets) : Except RecordFault (List (RecordToken × Nat)) :=
  readAll (o.length + 2) 1 .newline (o ++ ['\n'])

end RecordToken

end Flowscript.Tool
