import Std.Data.HashMap
import Flowscript.Programs.Regex.Reading
import Flowscript.Programs.Tool.Basic
import Flowscript.Programs.Tool.Record.Token

/-!
# What is known while records are worked on

* `Records` holds the variables, the arrays, the record at hand with its fields, and the files and
  commands in use.
* `RecordRun` is a piece of the work.
* `Records.takeRecord` cuts the next record off what can be read.
-/

set_option autoImplicit false

namespace Flowscript.Tool

/-- What a name stands for: nothing yet, in which case it can become an array, a value, or an
array. -/
inductive Holding where
  | unused (array : Nat)
  | value (v : RecordValue)
  | array (n : Nat)

/-- An array: its values by their subscripts, each with when it was added or used. -/
abbrev RecordArray := Std.HashMap Octets (Nat × RecordValue)

/-- Something that is read: its name, its descriptor, the process that prints it if it is a command,
what has been read and not been used, and whether there is no more. -/
structure RecordInput where
  name : Octets
  descriptor : Nat
  process : Option Nat
  pending : Octets
  isOver : Bool

/-- Something that is written: its name, its descriptor, the process that reads it if it is a
command, and what has not been written yet. -/
structure RecordOutput where
  name : Octets
  descriptor : Nat
  process : Option Nat
  pending : ByteArray

/-- How work is left. -/
inductive Leap where
  | leave
  | goOn
  | nextRecord
  | nextFile
  | answer (v : RecordValue)
  /-- Ends the script, with a status if one is given. -/
  | exit (status : Option Nat)
  /-- Ends the program at once. -/
  | fail (status : Nat)

/-- What is known while records are worked on.  `fields` are those of the record if it has been cut,
and `isStale` says that the record has to be put together from them again. -/
structure Records where
  script : RecordScript
  /-- How other programs are started. -/
  start : Invocation → Run Nat
  names : Std.HashMap Octets Holding
  locals : List (Std.HashMap Octets Holding)
  arrays : Std.HashMap Nat RecordArray
  /-- A number that has not been used. -/
  unused : Nat
  record : Octets
  fields : Option (Array RecordValue)
  isStale : Bool
  patterns : Std.HashMap Octets Regex
  inputs : List RecordInput
  outputs : List RecordOutput
  /-- The input whose records rules are about. -/
  main : Option RecordInput
  /-- The number of the next argument. -/
  argument : Nat
  hasOpened : Bool
  /-- The ranges that have begun, by their rules. -/
  active : List Nat
  seed : Nat
  status : Nat

/-- A piece of the work on records. -/
abbrev RecordRun := ExceptT Leap (StateT Records ToolRun)

namespace Records

/-- Does something that is no work on records. -/
def act {α : Type} (x : ToolRun α) : RecordRun α := liftM (liftM x : StateT Records ToolRun α)

/-- A number that has not been used. -/
def fresh : RecordRun Nat := do
  let n := (← get).unused
  modify fun s => { s with unused := n + 1 }
  return n

/-- Ends the program after a complaint. -/
def fault {α : Type} (message : Octets) : RecordRun α := do
  act (complain message)
  throw (.fail 2)

/-- Ends the program after a complaint that also says which record it is about. -/
def runFault {α : Type} (message : Octets) : RecordRun α := do
  let known (name : String) : RecordRun Octets := do
    match (← get).names[name.toList]? with
    | some (.value v) => return v.asText plainNumberFormat
    | _ => return []
  let place := "\n\tFILENAME=\"".toList ++ (← known "FILENAME") ++ "\" FNR=".toList
    ++ (← known "FNR") ++ " NR=".toList ++ (← known "NR")
  fault ("run time error: ".toList ++ message ++ place)

/-! ## Names -/

/-- What a name stands for. -/
def holdingOf (name : Octets) : RecordRun Holding := do
  let s ← get
  match (s.locals.head?.bind fun l => l[name]?).or s.names[name]? with
  | some h => return h
  | none =>
    let h := Holding.unused (← fresh)
    modify fun s => { s with names := s.names.insert name h }
    return h

/-- Lets a name stand for something. -/
def hold (name : Octets) (h : Holding) : RecordRun Unit := modify fun s =>
  match s.locals with
  | l :: rest =>
    if l.contains name then { s with locals := l.insert name h :: rest }
    else { s with names := s.names.insert name h }
  | [] => { s with names := s.names.insert name h }

/-- The number of the array that a name stands for. -/
def arrayOf (name : Octets) : RecordRun Nat := do
  match ← holdingOf name with
  | .array n => return n
  | .unused n =>
    hold name (.array n)
    return n
  | .value _ => runFault ("type error in reference to array ".toList ++ name)

/-- The value of a variable that is no field and none of their number. -/
def plainValue (name : Octets) : RecordRun RecordValue := do
  match (← get).names[name]? with
  | some (.value v) => return v
  | _ => return .unset

/-- How numbers become texts. -/
def numberFormat : RecordRun Octets := do
  match ← plainValue "CONVFMT".toList with
  | .text o => return o
  | v => return v.asText plainNumberFormat

/-- A value as a text. -/
def textOf (v : RecordValue) : RecordRun Octets := do
  match v with
  | .text o => return o
  | .numeral o _ => return o
  | .unset => return []
  | .number _ => return v.asText (← numberFormat)

/-- The text of a variable. -/
def settingOf (name : String) : RecordRun Octets := do textOf (← plainValue name.toList)

/-- Sets a variable. -/
def setPlain (name : String) (v : RecordValue) : RecordRun Unit :=
  modify fun s => { s with names := s.names.insert name.toList (.value v) }

/-- Adds one to a variable. -/
def count (name : String) : RecordRun Unit := do
  let v ← plainValue name.toList
  setPlain name (.number (v.real + 1.0))

/-! ## Arrays -/

/-- The array with a number. -/
def arrayAt (n : Nat) : RecordRun RecordArray := do
  return ((← get).arrays[n]?).getD {}

/-- Changes an array. -/
def modifyArray (n : Nat) (f : RecordArray → RecordArray) : RecordRun Unit := modify fun s =>
  { s with arrays := s.arrays.insert n (f ((s.arrays[n]?).getD {})) }

/-- Sets an element of an array. -/
def setElement (n : Nat) (key : Octets) (v : RecordValue) : RecordRun Unit := do
  let stamp ← match (← arrayAt n)[key]? with
    | some (stamp, _) => pure stamp
    | none => fresh
  modifyArray n (·.insert key (stamp, v))

/-- The value of an element, which is there from then on. -/
def elementOf (n : Nat) (key : Octets) : RecordRun RecordValue := do
  match (← arrayAt n)[key]? with
  | some (_, v) =>
    if !key.all Char.isDigit then
      let stamp ← fresh
      modifyArray n (·.insert key (stamp, v))
    return v
  | none =>
    setElement n key .unset
    return .unset

/-- A number between 0 and `2 ^ 32` that scatters texts. -/
def scatter (o : Octets) : UInt32 :=
  o.foldl (fun h c => (h ^^^ c.toNat.toUInt32) * 16777619) 2166136261

/-- How many groups the subscripts of an array are in: at first 64, and twice as many when there are
more than twelve for each. -/
def groupCount (fuel groups size : Nat) : Nat :=
  match fuel with
  | 0 => groups
  | fuel + 1 => if size ≤ 12 * groups then groups else groupCount fuel (2 * groups) size

/-- The subscripts of an array, group by group, and in a group the one used last first. -/
def keysOf (n : Nat) : RecordRun (List Octets) := do
  let items ← arrayAt n
  let groups := groupCount 64 64 items.size
  let keys := items.toList.map fun (key, stamp, _) => ((scatter key).toNat % groups, stamp, key)
  let isBefore (a b : Nat × Nat × Octets) : Bool :=
    a.1 < b.1 || (a.1 == b.1 && b.2.1 ≤ a.2.1)
  return (keys.mergeSort isBefore).map (·.2.2)

/-- The text of a subscript. -/
def keyOf (v : RecordValue) : RecordRun Octets := textOf v

/-- The key of an element that has some subscripts. -/
def joinedKey (values : List RecordValue) : RecordRun Octets := do
  match values with
  | [v] => keyOf v
  | _ => return Octets.join (← settingOf "SUBSEP") (← values.mapM keyOf)

/-! ## Regular expressions -/

/-- What is said of a regular expression that is wrong. -/
def patternFault : RegexFault → String
  | .openGroup => "missing ')'"
  | .closedGroup => "missing '('"
  | .nothingToRepeat => "missing operand"
  | _ => "bad class -- [], [^] or ["

/-- The regular expression that a text is. -/
def regexOf (text : Octets) : RecordRun Regex := do
  match (← get).patterns[text]? with
  | some r => return r
  | none =>
    let plain := RecordToken.unescapedPattern (text.length + 1) text
    match Regex.read .records plain with
    | .ok r =>
      modify fun s => { s with patterns := s.patterns.insert text r }
      return r
    | .error f =>
      fault ("regular expression compile failed (".toList ++ (patternFault f).toList
        ++ ")\n".toList ++ text)

/-- How regular expressions are matched. -/
def regexMode : RegexMode := ⟨false, false⟩

/-! ## Fields -/

/-- The pieces of a text between the matches of a regular expression, from some position on; a
match that is empty is none. -/
def piecesFrom (r : Regex) (text : Octets) (fuel start position : Nat) : List Octets :=
  let rest := [(text.drop start)]
  match fuel with
  | 0 => rest
  | fuel + 1 =>
    match r.search? regexMode text position with
    | none => rest
    | some m =>
      if m.start == m.stop then
        if m.stop < text.length then piecesFrom r text fuel start (m.stop + 1) else rest
      else (text.drop start).take (m.start - start) :: piecesFrom r text fuel m.stop m.stop

/-- The pieces of a text as a separator says: words if it is a blank, characters if it is empty,
and otherwise what is between single characters or between matches. -/
def pieces (separator text : Octets) (hasLines : Bool) : RecordRun (List Octets) := do
  if text.isEmpty then return []
  match separator with
  | [' '] => return (Text.splitAt isGap text).filter (!·.isEmpty)
  | [] => return text.map ([·])
  | [c] => return Text.splitAt (fun d => d == c || (hasLines && d == '\n')) text
  | _ =>
    let separator := if hasLines then '(' :: separator ++ ")|\n".toList else separator
    return piecesFrom (← regexOf separator) text (text.length + 1) 0 0

/-- The fields of the record. -/
def allFields : RecordRun (Array RecordValue) := do
  match (← get).fields with
  | some fields => return fields
  | none =>
    let hasLines := (← settingOf "RS").isEmpty
    let all := ((← pieces (← settingOf "FS") (← get).record hasLines).map
      RecordValue.ofInput).toArray
    modify fun s => { s with fields := some all }
    return all

/-- The record. -/
def currentRecord : RecordRun Octets := do
  let s ← get
  if !s.isStale then return s.record
  let texts ← (s.fields.getD #[]).toList.mapM textOf
  let record := Octets.join (← settingOf "OFS") texts
  modify fun s => { s with record := record, isStale := false }
  return record

/-- Sets the record. -/
def setRecord (o : Octets) : RecordRun Unit :=
  modify fun s => { s with record := o, fields := none, isStale := false }

/-- The value of a field; the one with the number zero is the record. -/
def fieldOf (n : Nat) : RecordRun RecordValue := do
  if n == 0 then return .ofInput (← currentRecord)
  return ((← allFields)[n - 1]?).getD .unset

/-- Sets a field. -/
def setField (n : Nat) (v : RecordValue) : RecordRun Unit := do
  if n == 0 then setRecord (← textOf v)
  else
    let before ← allFields
    let filled := before ++ Array.replicate (n - before.size) (RecordValue.text [])
    modify fun s => { s with fields := some (filled.set! (n - 1) v), isStale := true }

/-- Sets the number of fields. -/
def setFieldCount (n : Nat) : RecordRun Unit := do
  let before ← allFields
  let filled := before.extract 0 n ++ Array.replicate (n - before.size) (RecordValue.text [])
  modify fun s => { s with fields := some filled, isStale := true }

/-- The number of a field. -/
def fieldNumber (v : RecordValue) : RecordRun Nat := do
  match integerOf? v.real with
  | some n =>
    if n < 0 then runFault ("negative field index $".toList ++ (toString n).toList)
    else if 1000000 < n then runFault ("field index too large: ".toList ++ (toString n).toList)
    else return n.toNat
  | none => runFault "invalid field index".toList

/-! ## Variables -/

/-- The value of a name. -/
def valueOf (name : Octets) : RecordRun RecordValue := do
  match ← holdingOf name with
  | .value v => return v
  | .array _ => runFault ("type error in reference to array ".toList ++ name)
  | .unused _ =>
    if name == "NF".toList then return .ofNat (← allFields).size
    return .unset

/-- Sets a name. -/
def setValue (name : Octets) (v : RecordValue) : RecordRun Unit := do
  if name == "NF".toList then setFieldCount (← fieldNumber v)
  else
    -- How the record is cut is decided when it is read.
    if name == "FS".toList then
      let _ ← allFields
    hold name (.value v)

/-- Sets a variable as an argument or an option says; its value is as if it had been read. -/
def assignText (name text : Octets) : RecordRun Unit :=
  setValue name (.ofInput (RecordToken.unescaped (text.length + 1) text))

/-! ## Input -/

/-- How records end. -/
inductive RecordEnd where
  | char (c : Char)
  /-- Empty lines. -/
  | blank
  | fitting (r : Regex)

/-- How records end as the variable for that says. -/
def recordEnd : RecordRun RecordEnd := do
  match ← settingOf "RS" with
  | [] => return .blank
  | [c] => return .char c
  | text => return .fitting (← regexOf text)

/-- Cuts a record off a text, if its end is there.  `isOver` says that nothing follows. -/
def cut? (e : RecordEnd) (isOver : Bool) (text : Octets) : Option (Octets × Octets) :=
  match e with
  | .char c =>
    let record := text.takeWhile (· != c)
    match text.drop record.length with
    | _ :: rest => some (record, rest)
    | [] => if isOver && !text.isEmpty then some (record, []) else none
  | .fitting r =>
    match r.search? regexMode text 0 with
    | some m =>
      if m.start < m.stop && (isOver || m.stop < text.length) then
        some (text.take m.start, text.drop m.stop)
      else if isOver && !text.isEmpty then some (text, []) else none
    | none => if isOver && !text.isEmpty then some (text, []) else none
  | .blank =>
    let text := text.dropWhile (· == '\n')
    let rec go (fuel : Nat) (taken rest : Octets) : Option (Octets × Octets) :=
      match fuel, rest with
      | 0, _ => none
      | _, [] => if isOver && !taken.isEmpty then some (taken.reverse, []) else none
      | _, ['\n'] => if isOver then some (taken.reverse, []) else none
      | _ + 1, '\n' :: '\n' :: r =>
        let after := r.dropWhile (· == '\n')
        if after.isEmpty && !isOver then none else some (taken.reverse, after)
      | fuel + 1, c :: r => go fuel (c :: taken) r
    go (text.length + 1) [] text

/-- Takes the next record of an input, and gives none if it cannot be read. -/
def takeRecord (e : RecordEnd) (fuel : Nat) (i : RecordInput) :
    RecordRun (Except Fault (Option Octets) × RecordInput) :=
  match fuel with
  | 0 => return (.ok none, i)
  | fuel + 1 => do
    match cut? e i.isOver i.pending with
    | some (record, rest) => return (.ok (some record), { i with pending := rest })
    | none =>
      if i.isOver then return (.ok none, { i with pending := [] })
      match ← act (liftM (Run.read i.descriptor Run.blockSize)) with
      | .error fault => return (.error fault, i)
      | .ok bytes =>
        if bytes.isEmpty then takeRecord e fuel { i with isOver := true }
        else takeRecord e fuel { i with pending := i.pending ++ Octets.ofBytes bytes }

/-- What an argument sets if it is an assignment. -/
def assignment? (o : Octets) : Option (Octets × Octets) :=
  let name := o.takeWhile RecordToken.isInName
  match o, o.drop name.length with
  | c :: _, '=' :: value => if RecordToken.startsName c then some (name, value) else none
  | _, _ => none

/-- Opens the input that the next argument names; there is none after the last one. -/
def openMain (fuel : Nat) : RecordRun (Option RecordInput) :=
  match fuel with
  | 0 => return none
  | fuel + 1 => do
    let s ← get
    let last := ((integerOf? (← plainValue "ARGC".toList).real).getD 0).toNat
    if last ≤ s.argument then
      if s.hasOpened then return none
      set { s with hasOpened := true }
      return some ⟨['-'], 0, none, [], false⟩
    set { s with argument := s.argument + 1 }
    let n ← arrayOf "ARGV".toList
    let text ← match (← arrayAt n)[Nat.toDigits 10 s.argument]? with
      | some (_, v) => textOf v
      | none => pure []
    if text.isEmpty then openMain fuel
    else
      match assignment? text with
      | some (name, value) =>
        assignText name value
        openMain fuel
      | none =>
        modify fun s => { s with hasOpened := true }
        setPlain "FILENAME" (.text text)
        setPlain "FNR" (.number 0.0)
        match ← act (openInput text) with
        | .ok descriptor => return some ⟨text, descriptor, none, [], false⟩
        | .error f =>
          fault ("cannot open \"".toList ++ text ++ "\" (".toList ++ f.message.toList ++ [')'])

/-- The next record that rules are about. -/
def nextMain (fuel : Nat) : RecordRun (Option Octets) :=
  match fuel with
  | 0 => return none
  | fuel + 1 => do
    match (← get).main with
    | none =>
      match ← openMain Run.patience with
      | none => return none
      | some i =>
        modify fun s => { s with main := some i }
        nextMain fuel
    | some i =>
      let (result, i) ← takeRecord (← recordEnd) Run.patience i
      match result with
      | .ok (some record) =>
        modify fun s => { s with main := some i }
        count "NR"
        count "FNR"
        return some record
      | .ok none =>
        act (closeInput i.descriptor)
        modify fun s => { s with main := none }
        nextMain fuel
      | .error f =>
        fault ("read failure (".toList ++ f.message.toList ++ [')'])

end Records

end Flowscript.Tool
