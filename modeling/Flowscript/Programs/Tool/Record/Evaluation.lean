import Flowscript.Programs.Tool.Processes
import Flowscript.Programs.Tool.Record.State

/-!
# Running scripts for records

What a script writes, and how its statements are carried out.

* `Records.putTo` prints to a file or a command.
* `Records.nextFrom` reads a record of a file or of what a command prints.
* `Records.closeNamed` is done with one of them.
* `Records.evaluate` gives the value of an expression.
* `Records.execute` does what a statement says.
* `Records.applyBuiltin` applies a function that every script has.
-/

set_option autoImplicit false

namespace Flowscript.Tool.Records

/-! ## What records are read from and printed to -/

/-- Writes what has not been written to an output. -/
def flushOutput (o : RecordOutput) : RecordRun RecordOutput := do
  if o.pending.isEmpty then return o
  match ← act (liftM (Run.write o.descriptor o.pending)) with
  | .ok () => return { o with pending := .empty }
  | .error f => fault ("write failure (".toList ++ f.message.toList ++ [')'])

/-- Writes what has not been written. -/
def flushAll : RecordRun Unit := do
  act flush
  let outputs ← (← get).outputs.mapM flushOutput
  modify fun s => { s with outputs := outputs }

/-- Starts a command one of whose descriptors is an end of a new pipe; gives the other end, and the
number of the process. -/
def startCommand (command : Octets) (reads : Bool) : RecordRun (Nat × Nat) := do
  flushAll
  let (mine, theirs) ← act <| kernel fun k =>
    let (reading, writing, k) := k.openPipe
    let (first, k) := k.addDescriptor Kernel.firstPrivate reading
    let (second, k) := k.addDescriptor Kernel.firstPrivate writing
    (if reads then (second, first) else (first, second), k)
  let others := (← get).outputs.map (·.descriptor)
  let prepare : ToolRun Unit := kernel fun k =>
    let k := (mine :: others).foldl (fun k d => k.close d) k
    match k.file? theirs with
    | some (i, _) => ((), (k.setDescriptor (if reads then 0 else 1) i).close theirs)
    | none => ((), k)
  let number ← act (spawn (← get).start id (commandShell command) prepare)
  act (liftM (Run.close theirs))
  return (mine, number)

/-! ### Printing -/

/-- The output with a name, which is opened if it has not been. -/
def outputNamed (target : RecordTarget) (name : Octets) : RecordRun RecordOutput := do
  match (← get).outputs.find? (·.name == name) with
  | some o => return o
  | none =>
    let o ← match target with
      | .command =>
        let (descriptor, process) ← startCommand name true
        pure (⟨name, descriptor, some process, .empty⟩ : RecordOutput)
      | _ =>
        let mode := if target == .append then OpenMode.append else .write
        match ← act (liftM (Run.openFile (Octets.toText name) mode)) with
        | .ok descriptor => pure ⟨name, descriptor, none, .empty⟩
        | .error f =>
          fault ("cannot open \"".toList ++ name ++ "\" for output (".toList ++ f.message.toList
            ++ [')'])
    modify fun s => { s with outputs := s.outputs ++ [o] }
    return o

/-- Prints to what a statement names. -/
def putTo (target : RecordTarget) (name text : Octets) : RecordRun Unit := do
  let isFile := target != .command
  if isFile && (name == "/dev/stdout".toList || name == ['-']) then act (print text)
  else if isFile && name == "/dev/stderr".toList then act (writeErrors text)
  else
    let o ← outputNamed target name
    let o := { o with pending := o.pending ++ Octets.toBytes text }
    let o ← if bufferSize ≤ o.pending.size then flushOutput o else pure o
    modify fun s => { s with outputs := s.outputs.map fun p => if p.name == name then o else p }

/-! ### Reading -/

/-- The input with a name, which is opened if it has not been. -/
def inputNamed (isCommand : Bool) (name : Octets) : RecordRun (Option RecordInput) := do
  match (← get).inputs.find? fun i => i.name == name && i.process.isSome == isCommand with
  | some i => return some i
  | none =>
    if isCommand then
      let (descriptor, process) ← startCommand name false
      return some ⟨name, descriptor, some process, [], false⟩
    if name == ['-'] || name == "/dev/stdin".toList then return some ⟨name, 0, none, [], false⟩
    match ← act (liftM (Run.openFile (Octets.toText name) .read)) with
    | .ok descriptor => return some ⟨name, descriptor, none, [], false⟩
    | .error _ => return none

/-- Reads a record of a file or of what a command prints.  There is no answer if that cannot be
read, and no record at the end. -/
def nextFrom (isCommand : Bool) (name : Octets) : RecordRun (Option (Option Octets)) := do
  match ← inputNamed isCommand name with
  | none => return none
  | some i =>
    let (result, i) ← takeRecord (← recordEnd) Run.patience i
    modify fun s =>
      let others := s.inputs.filter fun j => j.name != name || j.process.isSome != isCommand
      { s with inputs := i :: others }
    return result.toOption

/-! ### The end -/

/-- Waits for a process if there is one, and gives its status. -/
def awaitStatus (process : Option Nat) : RecordRun Nat := do
  match process with
  | none => return 0
  | some number =>
    match ← act (liftM (Run.wait number)) with
    | .exited status => return status
    | .killed signal => return 256 + signal

/-- Is done with an output, and gives the status of its process. -/
def closeOutput (o : RecordOutput) : RecordRun Nat := do
  let o ← flushOutput o
  act (liftM (Run.close o.descriptor))
  modify fun s => { s with outputs := s.outputs.filter (·.name != o.name) }
  awaitStatus o.process

/-- Is done with an input, and gives the status of its process. -/
def closeNamedInput (i : RecordInput) : RecordRun Nat := do
  act (closeInput i.descriptor)
  modify fun s => { s with inputs := s.inputs.filter (·.name != i.name) }
  awaitStatus i.process

/-- Is done with what has a name, and gives the status of its process; there is none if there is
nothing with that name. -/
def closeNamed (name : Octets) : RecordRun (Option Nat) := do
  let s ← get
  match s.outputs.find? (·.name == name), s.inputs.find? (·.name == name) with
  | none, none => return none
  | some o, none => return some (← closeOutput o)
  | none, some i => return some (← closeNamedInput i)
  | some o, some i =>
    let _ ← closeOutput o
    return some (← closeNamedInput i)

/-- Is done with everything. -/
def closeAll : RecordRun Unit := do
  for i in (← get).inputs do
    act (closeInput i.descriptor)
  for o in (← get).outputs do
    let _ ← closeOutput o
  flushAll

/-! ## Expressions and statements about records -/

/-- What gives the value of an expression. -/
abbrev Evaluator := RecordExpr → RecordRun RecordValue

/-! ### Places -/

/-- A place for a value. -/
inductive Place where
  | name (name : Octets)
  | element (array : Nat) (key : Octets)
  | field (n : Nat)

/-- The place that an expression is. -/
def placeOf (eval : Evaluator) : RecordExpr → RecordRun Place
  | .name o => return .name o
  | .element array subscripts => do
    let key ← joinedKey (← subscripts.mapM eval)
    return .element (← arrayOf array) key
  | .field e => do return .field (← fieldNumber (← eval e))
  | _ => runFault "assignment to a value".toList

/-- The value at a place. -/
def Place.value : Place → RecordRun RecordValue
  | .name o => valueOf o
  | .element n key => elementOf n key
  | .field n => fieldOf n

/-- Puts a value at a place. -/
def Place.set (p : Place) (v : RecordValue) : RecordRun Unit :=
  match p with
  | .name o => setValue o v
  | .element n key => setElement n key v
  | .field n => setField n v

/-! ### Numbers -/

/-- The value of an operator between two numbers. -/
def applyOperator (op : RecordOperator) (x y : Float) : Float :=
  match op with
  | .plus => x + y
  | .minus => x - y
  | .times => x * y
  | .over => x / y
  | .remainder => remainderOf x y
  | .power => Float.pow x y

/-- The next seed. -/
def nextSeed (seed : Nat) : Nat := (seed * 6364136223846793005 + 1442695040888963407) % 2 ^ 64

/-! ### Text -/

/-- The regular expression that an expression means. -/
def patternOf (eval : Evaluator) : RecordExpr → RecordRun Regex
  | .pattern o => regexOf o
  | .group [.pattern o] => regexOf o
  | e => do regexOf (← textOf (← eval e))

/-- The text from a position on, which counts from one, up to some length.  A position before the
first one counts as the first one. -/
def partOf (o : Octets) (start : Float) (length : Option Float) : Octets :=
  let round (x : Float) : Int := (integerOf? x.round).getD (if x < 0.0 then -(10 ^ 9) else 10 ^ 9)
  let start := if start < 1.0 then 1.0 else start
  let first := round start
  let last : Int := match length with
    | some n => round (start + n)
    | none => 10 ^ 9
  if start.isNaN || (length.any Float.isNaN) then []
  else (o.drop (first - 1).toNat).take (last - first).toNat

/-- Where a text is in another one, counting from one, or zero. -/
def indexIn (part : Octets) (fuel position : Nat) (o : Octets) : Nat :=
  match fuel with
  | 0 => 0
  | fuel + 1 =>
    if part.isPrefixOf o then position else
      match o with
      | [] => 0
      | _ :: r => indexIn part fuel (position + 1) r

/-- What is put in place of a match: an ampersand stands for the match. -/
def replacement (template found : Octets) : Octets :=
  match template with
  | [] => []
  | '\\' :: '&' :: r => '&' :: replacement r found
  | '\\' :: '\\' :: r => '\\' :: replacement r found
  | '&' :: r => found ++ replacement r found
  | c :: r => c :: replacement r found

/-- Replaces matches from some position on, all or one, and counts them.  No match is empty right
after another one. -/
def replaceMatches (r : Regex) (template text : Octets) (isGlobal : Bool) (fuel start count : Nat)
    (isAfterMatch : Bool) : Octets × Nat :=
  let rest := text.drop start
  match fuel with
  | 0 => (rest, count)
  | fuel + 1 =>
    match r.search? regexMode text start with
    | none => (rest, count)
    | some m =>
      let lead := rest.take (m.start - start)
      let next := text.drop m.stop
      if m.start == m.stop then
        let put := if isAfterMatch && m.start == start then []
          else replacement template []
        let count := if isAfterMatch && m.start == start then count else count + 1
        match next with
        | [] => (lead ++ put, count)
        | c :: _ =>
          if isGlobal then
            let (more, count) :=
              replaceMatches r template text isGlobal fuel (m.stop + 1) count false
            (lead ++ put ++ c :: more, count)
          else (lead ++ put ++ next, count)
      else
        let put := replacement template (m.text text)
        if isGlobal then
          let (more, count) := replaceMatches r template text isGlobal fuel m.stop (count + 1) true
          (lead ++ put ++ more, count)
        else (lead ++ put ++ next, count + 1)

/-- Values as a format says.  What there is before something is wrong goes to `putStart`. -/
def formatted (name : String) (putStart : Octets → RecordRun Unit) (values : List RecordValue) :
    RecordRun Octets := do
  match values with
  | [] => runFault ("not enough arguments passed to ".toList ++ name.toList)
  | format :: rest =>
    let format ← textOf format
    let number ← numberFormat
    let shown := name.toList ++ "(\"".toList ++ format ++ "\")".toList
    let (o, fault) := formatValues (·.asText number) format rest
    if fault.isSome then putStart o
    match fault with
    | none => return o
    | some .fewArguments => runFault ("not enough arguments passed to ".toList ++ shown)
    | some (.badConversion n) =>
      runFault ("improper conversion(number ".toList ++ Nat.toDigits 10 n ++ ") in ".toList
        ++ shown)

/-! ### Functions that every script has -/

/-- How many characters or elements there are. -/
def lengthOf (eval : Evaluator) (arguments : List RecordExpr) : RecordRun RecordValue := do
  match arguments with
  | [] => return .ofNat (← currentRecord).length
  | e :: _ =>
    match e with
    | .name name =>
      match ← holdingOf name with
      | .array n => return .ofNat (← arrayAt n).size
      | _ => return .ofNat (← textOf (← eval e)).length
    | _ => return .ofNat (← textOf (← eval e)).length

/-- Cuts a text into the elements of an array. -/
def split (eval : Evaluator) (text : RecordExpr) (array : Octets) (separator : Option RecordExpr) :
    RecordRun RecordValue := do
  let text ← textOf (← eval text)
  let all ← match separator with
    | none => pieces (← settingOf "FS") text false
    | some (.pattern o) =>
      if text.isEmpty then pure [] else
        pure (piecesFrom (← regexOf o) text (text.length + 1) 0 0)
    | some e => pieces (← textOf (← eval e)) text false
  let n ← arrayOf array
  modifyArray n fun _ => {}
  for (o, i) in all.zipIdx 1 do
    setElement n (Nat.toDigits 10 i) (.ofInput o)
  return .ofNat all.length

/-- Replaces matches in what is at a place. -/
def replace (eval : Evaluator) (isGlobal : Bool) (pattern template : RecordExpr)
    (place : RecordExpr) : RecordRun RecordValue := do
  let r ← patternOf eval pattern
  let template ← textOf (← eval template)
  let place ← placeOf eval place
  let text ← textOf (← place.value)
  let (result, count) := replaceMatches r template text isGlobal (text.length + 2) 0 0 false
  if count != 0 then place.set (.text result)
  return .ofNat count

/-- The function with one argument that a number goes through. -/
def realFunction? : RecordFunction → Option (Float → Float)
  | .sine => some Float.sin
  | .cosine => some Float.cos
  | .exponential => some Float.exp
  | .logarithm => some Float.log
  | .root => some Float.sqrt
  | .whole => some fun x => if x < 0.0 then x.ceil else x.floor
  | _ => none

/-- Applies a function that every script has. -/
def applyBuiltin (eval : Evaluator) (f : RecordFunction) (arguments : List RecordExpr) :
    RecordRun RecordValue := do
  let text (e : RecordExpr) : RecordRun Octets := do textOf (← eval e)
  let real (e : RecordExpr) : RecordRun Float := do return (← eval e).real
  let place : RecordExpr → RecordExpr
    | .group [e] => e
    | e => e
  match f, arguments with
  | .length, _ => lengthOf eval arguments
  | .part, [e, start] => do
    let o ← text e
    return .text (partOf o (← real start) none)
  | .part, [e, start, length] => do
    let o ← text e
    let start ← real start
    return .text (partOf o start (some (← real length)))
  | .index, [e, part] => do
    let o ← text e
    return .ofNat (indexIn (← text part) (o.length + 1) 1 o)
  | .split, [e, .name array] => split eval e array none
  | .split, [e, .name array, separator] => split eval e array (some separator)
  | .replaceFirst, [pattern, template] =>
    replace eval false pattern template (.field (.number 0.0))
  | .replaceFirst, [pattern, template, e] => replace eval false pattern template (place e)
  | .replaceAll, [pattern, template] => replace eval true pattern template (.field (.number 0.0))
  | .replaceAll, [pattern, template, e] => replace eval true pattern template (place e)
  | .find, [e, pattern] => do
    let o ← text e
    let r ← patternOf eval pattern
    let (start, length) : Nat × Float := match r.search? regexMode o 0 with
      | some m => (m.start + 1, Float.ofNat (m.stop - m.start))
      | none => (0, -1.0)
    setPlain "RSTART" (.ofNat start)
    setPlain "RLENGTH" (.number length)
    return .ofNat start
  | .formatted, _ =>
    return .text (← formatted "sprintf" (fun _ => return ()) (← arguments.mapM eval))
  | .upper, [e] => return .text ((← text e).map Char.toUpper)
  | .lower, [e] => return .text ((← text e).map Char.toLower)
  | .arctangent, [a, b] => do
    let a ← real a
    return .number (Float.atan2 a (← real b))
  | .chance, _ => do
    let seed := nextSeed (← get).seed
    modify ({ · with seed := seed })
    return .number (Float.ofNat (seed / 2 ^ 11) / Float.ofNat (2 ^ 53))
  | .seed, _ => do
    let before := (← get).seed
    let seed ← match arguments with
      | [] => pure ((← act (look (·.now))) / 1000000000)
      | e :: _ => pure ((integerOf? (← real e)).getD 0).toNat
    modify ({ · with seed := seed })
    return .ofNat before
  | .run, [e] => do
    let command ← text e
    flushAll
    let number ← act (spawn (← get).start id (commandShell command) (pure ()))
    return .ofNat (← awaitStatus (some number))
  | .close, [e] => do
    match ← closeNamed (← text e) with
    | some status => return .ofNat status
    | none => return .number (-1.0)
  | .flush, _ => do
    flushAll
    return .ofNat 0
  | .time, _ => return .ofNat ((← act (look (·.now))) / 1000000000)
  | _, [e] =>
    match realFunction? f with
    | some g => return .number (g (← real e))
    | none => runFault "wrong number of arguments in a call".toList
  | _, _ => runFault "wrong number of arguments in a call".toList

/-! ### Records that are read by expressions -/

/-- Puts a record that was read where it belongs, and gives one; zero if there was none, and less if
it could not be read. -/
def received (eval : Evaluator) (place : Option RecordExpr) (counts : Bool)
    (result : Option (Option Octets)) : RecordRun RecordValue := do
  match result with
  | none => return .number (-1.0)
  | some none => return .ofNat 0
  | some (some o) =>
    match place with
    | none => setRecord o
    | some e => (← placeOf eval e).set (.ofInput o)
    if counts then count "NR"
    return .ofNat 1

/-! ### Functions of the script -/

/-- What a parameter stands for when an argument is given for it. -/
def holdingFor (eval : Evaluator) (argument : Option RecordExpr) : RecordRun Holding := do
  match argument with
  | none => return .unused (← fresh)
  | some (.name name) =>
    if name == "NF".toList then return .value (← valueOf name)
    holdingOf name
  | some e => return .value (← eval e)

/-- Calls a function of the script. -/
def callFunction (eval : Evaluator) (exec : RecordStatement → RecordRun Unit) (name : Octets)
    (arguments : List RecordExpr) : RecordRun RecordValue := do
  match (← get).script.definitions.find? (·.name == name) with
  | none => runFault ("function ".toList ++ name ++ " never defined".toList)
  | some d =>
    let holdings ← d.parameters.zipIdx.mapM fun (p, i) => do
      return (p, ← holdingFor eval arguments[i]?)
    let before := (← get).locals
    modify fun s => { s with locals := Std.HashMap.ofList holdings :: before }
    let restore : RecordRun Unit := modify fun s => { s with locals := before }
    let body : RecordRun RecordValue := do
      exec d.body
      return .unset
    let v ← tryCatch body fun leap => do
      match leap with
      | .answer v => return v
      | leap =>
        restore
        throw leap
    restore
    return v

/-! ### Loops -/

/-- Does the body of a loop once, and says whether the loop goes on. -/
def goesOnAfter (body : RecordRun Unit) : RecordRun Bool := do
  let whole : RecordRun Bool := do
    body
    return true
  tryCatch whole fun leap => do
    match leap with
    | .leave => return false
    | .goOn => return true
    | leap => throw leap

/-- Does a body and a step as long as a condition holds. -/
def loop (condition : RecordRun Bool) (step body : RecordRun Unit) (fuel : Nat) : RecordRun Unit :=
  match fuel with
  | 0 => return ()
  | fuel + 1 => do
    if ← condition then
      if ← goesOnAfter body then
        step
        loop condition step body fuel

/-- Does a body for each of some subscripts. -/
def overKeys (name : Octets) (body : RecordRun Unit) : List Octets → RecordRun Unit
  | [] => return ()
  | key :: rest => do
    setValue name (.ofInput key)
    if ← goesOnAfter body then overKeys name body rest

/-- More rounds than a loop has. -/
def manyRounds : Nat := 1000000000

/-! ### Printing -/

/-- A value as it is printed. -/
def shown (v : RecordValue) : RecordRun Octets := do
  match v with
  | .number x =>
    match wholeText? x with
    | some o => return o
    | none => return numberText (← settingOf "OFMT") x
  | v => textOf v

/-- Prints a text where a statement says. -/
def put (eval : Evaluator) (target : Option (RecordTarget × RecordExpr)) (o : Octets) :
    RecordRun Unit := do
  match target with
  | none => act (print o)
  | some (t, e) => putTo t (← textOf (← eval e)) o

/-! ### All of it -/

mutual

/-- The value of an expression. -/
def evaluate (fuel : Nat) (e : RecordExpr) : RecordRun RecordValue :=
  match fuel with
  | 0 => runFault "nested too deeply".toList
  | fuel + 1 => do
    let eval : Evaluator := evaluate fuel
    let text (e : RecordExpr) : RecordRun Octets := do textOf (← eval e)
    let real (e : RecordExpr) : RecordRun Float := do return (← eval e).real
    match e with
    | .number x => return .number x
    | .text o => return .text o
    | .pattern o => do
      let r ← regexOf o
      return .ofBool (r.search? regexMode (← currentRecord) 0).isSome
    | .name name => valueOf name
    | .element .. => do (← placeOf eval e).value
    | .field .. => do (← placeOf eval e).value
    | .group [e] => eval e
    | .group parts => return .text (← joinedKey (← parts.mapM eval))
    | .assign op place value => do
      let place ← placeOf eval place
      match op with
      | none =>
        let v ← eval value
        place.set v
        return v
      | some op =>
        let y ← real value
        let v := RecordValue.number (applyOperator op (← place.value).real y)
        place.set v
        return v
    | .step isUp givesNew place => do
      let place ← placeOf eval place
      let before := (← place.value).real
      let after := if isUp then before + 1.0 else before - 1.0
      place.set (.number after)
      return .number (if givesNew then after else before)
    | .choice condition yes no => do
      if (← eval condition).holds then eval yes else eval no
    | .either first second => do
      if (← eval first).holds then return .ofBool true
      return .ofBool (← eval second).holds
    | .both first second => do
      if !(← eval first).holds then return .ofBool false
      return .ofBool (← eval second).holds
    | .member subscripts array => do
      let key ← joinedKey (← subscripts.mapM eval)
      return .ofBool ((← arrayAt (← arrayOf array)).contains key)
    | .fits isNegated e pattern => do
      let o ← text e
      let r ← patternOf eval pattern
      return .ofBool ((r.search? regexMode o 0).isSome != isNegated)
    | .compare how first second => do
      let a ← eval first
      let b ← eval second
      return .ofBool (how.holds (a.order (← numberFormat) b))
    | .join first second => do
      let a ← text first
      return .text (a ++ (← text second))
    | .arithmetic op first second => do
      let x ← real first
      return .number (applyOperator op x (← real second))
    | .not e => return .ofBool !(← eval e).holds
    | .negative e => return .number (-(← real e))
    | .positive e => return .number (← real e)
    | .call name arguments => callFunction eval (execute fuel) name arguments
    | .builtin f arguments => applyBuiltin eval f arguments
    | .next place => do
      received eval place false (some (← nextMain Run.patience))
    | .nextOfFile place file => do
      received eval place false (← nextFrom false (← text file))
    | .nextOfCommand place command => do
      received eval place true (← nextFrom true (← text command))

/-- Does what a statement says. -/
def execute (fuel : Nat) (s : RecordStatement) : RecordRun Unit :=
  match fuel with
  | 0 => runFault "nested too deeply".toList
  | fuel + 1 => do
    let eval : Evaluator := evaluate fuel
    let exec : RecordStatement → RecordRun Unit := execute fuel
    let holds (e : RecordExpr) : RecordRun Bool := do return (← eval e).holds
    match s with
    | .print arguments target => do
      let parts ← if arguments.isEmpty then pure [← currentRecord]
        else (← arguments.mapM eval).mapM shown
      put eval target (Octets.join (← settingOf "OFS") parts ++ (← settingOf "ORS"))
    | .printFormatted arguments target => do
      put eval target (← formatted "printf" (put eval target) (← arguments.mapM eval))
    | .evaluate e => do
      let _ ← eval e
    | .choice condition yes no => do
      if ← holds condition then exec yes else exec no
    | .loop condition step body => loop (holds condition) (exec step) (exec body) manyRounds
    | .again body condition => do
      if ← goesOnAfter (exec body) then
        loop (holds condition) (pure ()) (exec body) manyRounds
    | .each name array body => do
      let n ← arrayOf array
      overKeys name (exec body) (← keysOf n)
    | .block body => body.forM exec
    | .leave => throw .leave
    | .goOn => throw .goOn
    | .nextRecord => throw .nextRecord
    | .nextFile => throw .nextFile
    | .exit none => throw (.exit none)
    | .exit (some e) => do
      throw (.exit (some (((integerOf? (← eval e).real).getD 0) % 256).toNat))
    | .answer none => throw (.answer .unset)
    | .answer (some e) => do throw (.answer (← eval e))
    | .delete array none => do modifyArray (← arrayOf array) fun _ => {}
    | .delete array (some subscripts) => do
      let key ← joinedKey (← subscripts.mapM eval)
      modifyArray (← arrayOf array) (·.erase key)

end

end Flowscript.Tool.Records
