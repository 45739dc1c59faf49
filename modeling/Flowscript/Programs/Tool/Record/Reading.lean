import Flowscript.Programs.Tool.Record.Token

/-!
# How scripts about records are written

* `RecordScript.read` reads a script.
* `RecordReading.expr` reads a part of an expression, `RecordReading.statement` a statement.
-/

set_option autoImplicit false

namespace Flowscript.Tool

/-- A piece of the reading of a script, from the tokens that are left. -/
abbrev RecordReading := StateT (List (RecordToken × Nat)) (Except RecordFault)

namespace RecordReading

/-- The next token. -/
def peek : RecordReading RecordToken := do
  return ((← get).head?.map (·.1)).getD .finish

/-- The line of the next token. -/
def line : RecordReading Nat := do
  return ((← get).head?.map (·.2)).getD 1

/-- Takes the next token; the end stays. -/
def skip : RecordReading Unit := modify fun tokens =>
  match tokens with
  | [last] => [last]
  | _ => tokens.drop 1

/-- Refuses the next token. -/
def refuse {α : Type} : RecordReading α := do
  match ← peek with
  | .finish => throw ⟨← line, "missing \x7d near end of file".toList, true⟩
  | .newline => throw ⟨← line, "syntax error at or near end of line".toList, true⟩
  | token => throw ⟨← line, "syntax error at or near ".toList ++ token.spelling, true⟩

/-- Whether the next token is a sign. -/
def isSign (s : String) : RecordReading Bool := do
  match ← peek with
  | .sign t => return s == t
  | _ => return false

/-- Whether the next token is a word. -/
def isWord (w : String) : RecordReading Bool := do
  match ← peek with
  | .word v => return v == w
  | _ => return false

/-- Takes a sign if it is next. -/
def takeSign (s : String) : RecordReading Bool := do
  if ← isSign s then
    skip
    return true
  return false

/-- Takes a word if it is next. -/
def takeWord (w : String) : RecordReading Bool := do
  if ← isWord w then
    skip
    return true
  return false

/-- Takes a sign that has to be next. -/
def needSign (s : String) : RecordReading Unit := do
  if !(← takeSign s) then refuse

/-- Takes the ends of lines. -/
def skipNewlines : RecordReading Unit := modify fun tokens =>
  tokens.dropWhile fun
    | (.newline, _) => true
    | _ => false

/-- Takes the ends of lines and of statements. -/
def skipEnds : RecordReading Unit := modify fun tokens =>
  tokens.dropWhile fun
    | (.newline, _) => true
    | (.sign s, _) => s == ";"
    | _ => false

/-- Takes a name that has to be next. -/
def takeName : RecordReading Octets := do
  match ← peek with
  | .name o =>
    skip
    return o
  | _ => refuse

/-- Whether the next token ends a statement. -/
def atEnd : RecordReading Bool := do
  match ← peek with
  | .finish | .newline => return true
  | .sign s => return s == ";" || s == "\x7d"
  | _ => return false

/-! ## Expressions -/

/-- What is read: a choice or less, and so on down to what operators stand between, and what comes
after an operand up to some operators. -/
inductive Part where
  | choice
  | either
  | both
  | member
  | memberAfter (first : RecordExpr)
  | fits
  | fitsAfter (first : RecordExpr)
  | compare
  | pipedAfter (first : RecordExpr)
  | join
  | joinAfter (first : RecordExpr)
  | sum
  | sumAfter (first : RecordExpr)
  | product
  | productAfter (first : RecordExpr)
  | signed
  | power
  | exponent
  | operand
  | bare

/-- The operator of an assignment. -/
def assignment? : RecordToken → Option (Option RecordOperator)
  | .sign s =>
    [("=", none), ("+=", some RecordOperator.plus), ("-=", some .minus), ("*=", some .times),
      ("/=", some .over), ("%=", some .remainder), ("^=", some .power)].lookup s
  | _ => none

/-- The comparison that a token is. -/
def comparison? (allowsGreater : Bool) : RecordToken → Option RecordComparison
  | .sign s =>
    if s == ">" && !allowsGreater then none
    else
      [("<", RecordComparison.less), ("<=", .atMost), ("==", .equal), ("!=", .unequal),
        (">=", .atLeast), (">", .greater)].lookup s
  | _ => none

/-- Whether a token starts an operand that can follow another one directly. -/
def startsOperand : RecordToken → Bool
  | .number .. | .text _ | .pattern _ | .name _ | .callee _ | .builtin .. => true
  | .sign s => s == "$" || s == "!" || s == "(" || s == "++" || s == "--"
  | _ => false

/-- The parts of a group, or the expression itself if it is none. -/
def partsOf : RecordExpr → List RecordExpr
  | .group parts => parts
  | e => [e]

/-- Reads expressions between commas. -/
def list (item : RecordReading RecordExpr) (fuel : Nat) : RecordReading (List RecordExpr) :=
  match fuel with
  | 0 => refuse
  | fuel + 1 => do
    let first ← item
    if ← takeSign "," then
      skipNewlines
      return first :: (← list item fuel)
    return [first]

/-- Reads expressions between commas up to a sign; there can be none. -/
def listUpTo (stop : String) (item : RecordReading RecordExpr) (fuel : Nat) :
    RecordReading (List RecordExpr) := do
  skipNewlines
  if ← takeSign stop then return []
  let items ← list item fuel
  skipNewlines
  needSign stop
  return items

/-- Reads a place for what a reading gives, if one follows. -/
def place? (bare : RecordReading RecordExpr) : RecordReading (Option RecordExpr) := do
  match ← peek with
  | .name _ => some <$> bare
  | .sign s => if s == "$" then some <$> bare else return none
  | _ => return none

/-- Reads an operand without what changes it. -/
def bare (expr : Part → RecordReading RecordExpr) (inside : RecordReading RecordExpr) (fuel : Nat) :
    RecordReading RecordExpr := do
  let token ← peek
  match token with
  | .number x _ =>
    skip
    return .number x
  | .text o =>
    skip
    return .text o
  | .pattern o =>
    skip
    return .pattern o
  | .name o =>
    skip
    if ← takeSign "[" then return .element o (← listUpTo "]" inside fuel)
    return .name o
  | .callee o =>
    skip
    needSign "("
    return .call o (← listUpTo ")" inside fuel)
  | .builtin _ f =>
    skip
    if ← takeSign "(" then return .builtin f (← listUpTo ")" inside fuel)
    if f == .length then return .builtin f []
    refuse
  | .word w =>
    if w != "getline" then refuse
    skip
    let place ← place? (expr .bare)
    if ← takeSign "<" then return .nextOfFile place (← expr .bare)
    return .next place
  | .sign s =>
    if s == "(" then
      skip
      let parts ← listUpTo ")" inside fuel
      if parts.isEmpty then refuse
      return .group parts
    if s == "$" then
      skip
      if ← takeSign "-" then return .field (.negative (← expr .bare))
      return .field (← expr .bare)
    if s == "++" || s == "--" then
      skip
      let place ← expr .bare
      if !place.isPlace then refuse
      return .step (s == "++") true place
    if s == "-" then
      skip
      return .negative (← expr .bare)
    if s == "!" then
      skip
      return .not (← expr .bare)
    refuse
  | .finish | .newline => refuse

/-- Reads a part of an expression.  `allowsGreater` says whether a sign that is greater compares. -/
def expr (fuel : Nat) (allowsGreater : Bool) (p : Part) : RecordReading RecordExpr :=
  match fuel with
  | 0 => refuse
  | fuel + 1 => do
    let down (p : Part) : RecordReading RecordExpr := expr fuel allowsGreater p
    match p with
    | .choice =>
      let condition ← down .either
      if !(← takeSign "?") then return condition
      skipNewlines
      let yes ← down .choice
      skipNewlines
      needSign ":"
      skipNewlines
      return .choice condition yes (← down .choice)
    | .either =>
      let first ← down .both
      if !(← takeSign "||") then return first
      skipNewlines
      return .either first (← down .either)
    | .both =>
      let first ← down .member
      if !(← takeSign "&&") then return first
      skipNewlines
      return .both first (← down .both)
    | .member => down (.memberAfter (← down .fits))
    | .memberAfter first =>
      if !(← takeWord "in") then return first
      down (.memberAfter (.member (partsOf first) (← takeName)))
    | .fits => down (.fitsAfter (← down .compare))
    | .fitsAfter first =>
      if ← takeSign "~" then return ← down (.fitsAfter (.fits false first (← down .compare)))
      if ← takeSign "!~" then return ← down (.fitsAfter (.fits true first (← down .compare)))
      return first
    | .compare =>
      let first ← down (.pipedAfter (← down .join))
      match comparison? allowsGreater (← peek) with
      | none => return first
      | some how =>
        skip
        return .compare how first (← down (.pipedAfter (← down .join)))
    | .pipedAfter first =>
      match ← get with
      | (.sign "|", _) :: (.word "getline", _) :: _ =>
        skip
        skip
        down (.pipedAfter (.nextOfCommand (← place? (down .bare)) first))
      | _ => return first
    | .join => down (.joinAfter (← down .sum))
    | .joinAfter first =>
      if startsOperand (← peek) then down (.joinAfter (.join first (← down .sum)))
      else return first
    | .sum => down (.sumAfter (← down .product))
    | .sumAfter first =>
      if ← takeSign "+" then
        return ← down (.sumAfter (.arithmetic .plus first (← down .product)))
      if ← takeSign "-" then
        return ← down (.sumAfter (.arithmetic .minus first (← down .product)))
      return first
    | .product => down (.productAfter (← down .signed))
    | .productAfter first =>
      if ← takeSign "*" then
        return ← down (.productAfter (.arithmetic .times first (← down .signed)))
      if ← takeSign "/" then
        return ← down (.productAfter (.arithmetic .over first (← down .signed)))
      if ← takeSign "%" then
        return ← down (.productAfter (.arithmetic .remainder first (← down .signed)))
      return first
    | .signed =>
      if ← takeSign "!" then return .not (← down .signed)
      if ← takeSign "-" then return .negative (← down .signed)
      if ← takeSign "+" then return .positive (← down .signed)
      down .power
    | .power =>
      let base ← down .operand
      if ← takeSign "^" then return .arithmetic .power base (← down .exponent)
      return base
    | .exponent =>
      if ← takeSign "-" then return .negative (← down .exponent)
      if ← takeSign "+" then return .positive (← down .exponent)
      if ← takeSign "!" then return .not (← down .exponent)
      down .power
    | .operand =>
      let first ← down .bare
      if !first.isPlace then return first
      if ← takeSign "++" then return .step true false first
      if ← takeSign "--" then return .step false false first
      match assignment? (← peek) with
      | some op =>
        skip
        skipNewlines
        return .assign op first (← down .choice)
      | none => return first
    | .bare => bare down (expr fuel true .choice) fuel

/-! ## Statements -/

/-- Reads where something is printed. -/
def target? (fuel : Nat) : RecordReading (Option (RecordTarget × RecordExpr)) := do
  let onto (t : RecordTarget) : RecordReading (Option (RecordTarget × RecordExpr)) := do
    skip
    return some (t, ← expr fuel false .choice)
  if ← isSign ">" then return ← onto .write
  if ← isSign ">>" then return ← onto .append
  if ← isSign "|" then return ← onto .command
  return none

/-- Reads what is printed, and where. -/
def printed (fuel : Nat) :
    RecordReading (List RecordExpr × Option (RecordTarget × RecordExpr)) := do
  let target ← target? fuel
  if target.isSome then return ([], target)
  if ← atEnd then return ([], none)
  let arguments ← list (expr fuel false .choice) fuel
  let arguments := match arguments with
    | [.group parts] => parts
    | _ => arguments
  return (arguments, ← target? fuel)

/-- Reads an expression that can be left out. -/
def expr? (fuel : Nat) : RecordReading (Option RecordExpr) := do
  if ← atEnd then return none
  some <$> expr fuel true .choice

/-- Reads a statement that holds no others. -/
def simple (fuel : Nat) : RecordReading RecordStatement := do
  match ← peek with
  | .word w =>
    match w with
    | "print" =>
      skip
      let (arguments, target) ← printed fuel
      return .print arguments target
    | "printf" =>
      skip
      let (arguments, target) ← printed fuel
      if arguments.isEmpty then refuse
      return .printFormatted arguments target
    | "break" =>
      skip
      return .leave
    | "continue" =>
      skip
      return .goOn
    | "next" =>
      skip
      return .nextRecord
    | "nextfile" =>
      skip
      return .nextFile
    | "exit" =>
      skip
      return .exit (← expr? fuel)
    | "return" =>
      skip
      return .answer (← expr? fuel)
    | "delete" =>
      skip
      let array ← takeName
      if ← takeSign "[" then
        return .delete array (some (← listUpTo "]" (expr fuel true .choice) fuel))
      return .delete array none
    | _ => return .evaluate (← expr fuel true .choice)
  | _ => return .evaluate (← expr fuel true .choice)

/-- Takes the end of a statement. -/
def statementEnd : RecordReading Unit := do
  if !(← atEnd) then refuse
  if !(← isSign "\x7d") then skip

/-- The name and the array of a loop over subscripts, if one follows. -/
def subscripts? : RecordReading (Option (Octets × Octets)) := do
  match ← get with
  | (.name name, _) :: (.word "in", _) :: (.name array, _) :: (.sign ")", _) :: rest =>
    set rest
    return some (name, array)
  | _ => return none

/-- A statement that does nothing. -/
def nothing : RecordStatement := .block []

/-- What always holds. -/
def always : RecordExpr := .number 1.0

/-- Reads a statement. -/
def statement (fuel : Nat) : RecordReading RecordStatement :=
  match fuel with
  | 0 => refuse
  | fuel + 1 => do
    let whole : RecordReading RecordExpr := expr fuel true .choice
    let body : RecordReading RecordStatement := do
      skipNewlines
      statement fuel
    let parenthesized : RecordReading RecordExpr := do
      needSign "("
      let e ← whole
      needSign ")"
      return e
    match ← peek with
    | .sign "\x7b" =>
      skip
      let statements ← block (statement fuel) fuel
      return .block statements
    | .sign ";" =>
      skip
      return nothing
    | .word "if" =>
      skip
      let condition ← parenthesized
      let yes ← body
      let before ← get
      skipEnds
      if ← takeWord "else" then return .choice condition yes (← body)
      set before
      return .choice condition yes nothing
    | .word "while" =>
      skip
      let condition ← parenthesized
      return .loop condition nothing (← body)
    | .word "do" =>
      skip
      let repeated ← body
      skipEnds
      if !(← takeWord "while") then refuse
      let condition ← parenthesized
      statementEnd
      return .again repeated condition
    | .word "for" =>
      skip
      needSign "("
      match ← subscripts? with
      | some (name, array) => return .each name array (← body)
      | none =>
        let start ← if ← isSign ";" then pure nothing else simple fuel
        needSign ";"
        skipNewlines
        let condition ← if ← isSign ";" then pure always else whole
        needSign ";"
        skipNewlines
        let step ← if ← isSign ")" then pure nothing else simple fuel
        needSign ")"
        return .block [start, .loop condition step (← body)]
    | _ =>
      let s ← simple fuel
      statementEnd
      return s
where
  /-- Reads the statements of a block up to its end. -/
  block (item : RecordReading RecordStatement) (fuel : Nat) :
      RecordReading (List RecordStatement) :=
    match fuel with
    | 0 => refuse
    | fuel + 1 => do
      skipEnds
      if ← takeSign "\x7d" then return []
      let first ← item
      return first :: (← block item fuel)

/-- Reads the names of parameters. -/
def parameters (fuel : Nat) : RecordReading (List Octets) :=
  match fuel with
  | 0 => refuse
  | fuel + 1 => do
    if ← takeSign ")" then return []
    let name ← takeName
    if ← takeSign "," then
      skipNewlines
    else if !(← isSign ")") then refuse
    return name :: (← parameters fuel)

/-- Reads the action of a rule. -/
def action (fuel : Nat) : RecordReading RecordStatement := do
  if !(← isSign "\x7b") then refuse
  statement fuel

/-- Reads the rules and the functions of a script. -/
def script (fuel : Nat) : RecordReading RecordScript :=
  match fuel with
  | 0 => refuse
  | fuel + 1 => do
    skipEnds
    let add (pattern : RecordPattern) (action : RecordStatement) : RecordReading RecordScript := do
      let rest ← script fuel
      return { rest with rules := ⟨pattern, action⟩ :: rest.rules }
    match ← peek with
    | .finish => return ⟨[], []⟩
    | .word "BEGIN" =>
      skip
      add .first (← action fuel)
    | .word "END" =>
      skip
      add .last (← action fuel)
    | .word "function" =>
      skip
      let name ← match ← peek with
        | .name o => pure o
        | .callee o => pure o
        | _ => refuse
      skip
      needSign "("
      let names ← parameters fuel
      skipNewlines
      let body ← action fuel
      let rest ← script fuel
      return { rest with definitions := ⟨name, names, body⟩ :: rest.definitions }
    | .sign "\x7b" => add .always (← action fuel)
    | _ =>
      let condition ← expr fuel true .choice
      let pattern ← if ← takeSign "," then do
          skipNewlines
          pure (.range condition (← expr fuel true .choice))
        else pure (.when condition)
      if ← isSign "\x7b" then add pattern (← action fuel)
      else
        if !(← atEnd) then refuse
        add pattern (.print [] none)

end RecordReading

/-- The functions that tokens call. -/
def calledFunctions (tokens : List (RecordToken × Nat)) : List Octets :=
  tokens.filterMap fun
    | (.callee o, _) => some o
    | _ => none

/-- Reads a script. -/
def RecordScript.read (text : Octets) : Except RecordFault RecordScript := do
  let tokens ← RecordToken.ofText text
  let (script, _) ← (RecordReading.script (20 * tokens.length + 40)).run tokens
  match (calledFunctions tokens).find? fun o => !script.definitions.any (·.name == o) with
  | some name =>
    let last := (tokens.getLast?.map (·.2)).getD 1
    throw ⟨last, "function ".toList ++ name ++ " never defined".toList, true⟩
  | none => return script

end Flowscript.Tool
