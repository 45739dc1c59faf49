import Flowscript.Programs.Shell.Reckoning

/-!
# Assignments

* `assign`, `assignWith` and `unassign` set variables and take them away.
* `assignSpot` and `assignList` set places of variables in the wide dialect.
* `makeLocal`, `pushLocals` and `popLocals` let variables come back when functions are left.
* `reckon` gives the value of an expression of the wide dialect.
-/

set_option autoImplicit false

namespace Flowscript.Shell

/-- Gives up because a variable cannot be changed. -/
def failReadOnly {α : Type} (name : String) : Act α := do
  if (← get).isWide then
    modify ({ · with commandName := none })
    discard (octets (name ++ ": readonly variable"))
  fail (octets (name ++ ": is read only"))

/-! ## Arithmetic in the wide dialect -/

/-- Gives up because an expression has no value. -/
def failReckoning {α : Type} (failure : Reckoning.Failure) : Act α :=
  match failure with
  | .unset _ => failScript failure.message
  | _ => discard failure.message

/-- The value of an expression, or why there is none. -/
def tryReckon (text : Octets) : Act (Except Reckoning.Failure Int) := do
  let (result, s) := Reckoning.evaluate (← get) text
  set s
  return result

/-- The value of an expression. -/
def reckon (text : Octets) : Act Int := do
  match ← tryReckon text with
  | .ok value => return value
  | .error failure => failReckoning failure

/-- The place in a variable that an index stands for. -/
def spotOf (name : String) (index : Octets) : Act Spot := do
  let (result, s) := Reckoning.spotOf (← get) name index
  set s
  match result with
  | .ok spot => return spot
  | .error failure => failReckoning failure

/-! ## Values -/

/-- The text that a variable with its marks has for another one. -/
def Variable.shaped (v : Variable) (o : Octets) : Octets :=
  if v.marks.contains 'l' then o.map Char.toLower
  else if v.marks.contains 'u' then o.map Char.toUpper
  else if v.marks.contains 'c' then
    match o with
    | c :: r => c.toUpper :: r.map Char.toLower
    | [] => []
  else o

/-- The value that a variable has before something is added to it. -/
def Variable.valueAt? (v : Variable) (spot : Option Spot) : Option Octets :=
  match spot, v.elements with
  | none, _ => v.first?
  | some spot, some e => e.at? spot
  | some spot, none => if spot == .number 0 then v.value else none

/-- The value that is to be put into a variable: a number if it is for numbers, and after the value
before it if it is added to that. -/
def valueFor (v : Variable) (spot : Option Spot) (isAdded : Bool) (value : Octets) :
    Act Octets := do
  let before := if isAdded then (v.valueAt? spot).getD [] else []
  if v.marks.contains 'i' then
    let first ← reckon before
    let n ← reckon value
    return octets (toString (Int64s.wrap (first + n)))
  return v.shaped (before ++ value)

/-- Notes what a new value of some variables means for the shell. -/
def noteValue (name : String) (value : Octets) : Act Unit := do
  modify (·.noteAssignment name (some value))
  if name == "RANDOM" then
    modify ({ · with seed := (Octets.natural? value).getD 0 })
  if name == "SECONDS" then
    let now ← look (·.now)
    modify ({ · with startedAt := now - (Octets.natural? value).getD 0 * 1000000000 })

/-- Sets a variable of the wide dialect, or a place in one. -/
def assignSpot (name : String) (spot : Option Spot) (isAdded : Bool) (value : Octets) :
    Act Unit := do
  let name := (← get).meant name
  let v := (← get).variableNamed name
  if v.isReadOnly then failReadOnly name
  let value ← valueFor v spot isAdded value
  noteValue name value
  let s ← get
  set (s.put { v.withValue spot value with isExported := v.isExported || s.has 'a' })

/-- Puts values into the variable with a name one after the other. -/
def assignItems (name : String) (next : Nat) : List ListItem → Act Unit
  | [] => return ()
  | item :: rest => do
    let spot ← match item.index with
      | some index => spotOf name index
      | none => pure (.number next)
    let v := (← get).variableNamed name
    let value ← valueFor v (some spot) item.isAdded item.value
    modify (·.put (v.withValue (some spot) value))
    let next := match spot with
      | .number n => n + 1
      | .key _ => next
    assignItems name next rest

/-- Values with keys, if no key is written before them: each key is followed by its value. -/
def pairedItems : List ListItem → List ListItem
  | key :: value :: rest => ⟨some key.value, false, value.value⟩ :: pairedItems rest
  | [key] => [⟨some key.value, false, []⟩]
  | [] => []

/-- Gives a variable of the wide dialect a list of values. -/
def assignList (name : String) (isAdded : Bool) (items : List ListItem) : Act Unit := do
  let name := (← get).meant name
  let v := (← get).variableNamed name
  if v.isReadOnly then failReadOnly name
  let before : Elements := match v.elements, v.value with
    | some e, _ => e
    | none, some value => .listed [(0, value)]
    | none, none => .empty
  let cleared : Elements := match before with
    | .listed _ => .listed []
    | .keyed _ => .keyed []
  let items := match before with
    | .keyed _ => if items.all (·.index.isNone) then pairedItems items else items
    | .listed _ => items
  let start := if isAdded then before else cleared
  let marks := v.marks.filter (· != 'h')
  modify (·.put { v with value := none, elements := some start, marks })
  assignItems name (if isAdded then before.nextNumber else 0) items

/-! ## Variables of both dialects -/

/-- Sets a variable, or takes its value away. -/
def assignWith (name : String) (value : Option Octets) (isExported isReadOnly : Bool) :
    Act Unit := do
  let s ← get
  let name := if s.isWide then s.meant name else name
  let isExported := isExported || (s.has 'a' && value.isSome)
  match s.binding? name with
  | some v =>
    if v.isReadOnly then failReadOnly name
    if s.isWide then
      match value with
      | none => set ((s.noteAssignment name none).drop name)
      | some value =>
        assignSpot name none false value
        let v := (← get).variableNamed name
        modify (·.put { v with
          isExported := v.isExported || isExported
          isReadOnly := v.isReadOnly || isReadOnly })
    else
      let s := s.noteAssignment name value
      if value.isNone && !isExported && !isReadOnly then set (s.drop name)
      else
        set (s.put
          (.single name value (v.isExported || isExported) (v.isReadOnly || isReadOnly)))
  | none =>
    if value.isSome || isExported || isReadOnly then
      if s.isWide then noteValue name (value.getD [])
      modify (·.put (.single name value isExported isReadOnly))

/-- Whether a text is a name, and else a complaint. -/
def checkName (name : Octets) : Act String := do
  let start := name.takeWhile (· != '=')
  if !Word.isName start then
    if (← get).isWide then failWith 1 ('\x60' :: name ++ octets "': not a valid identifier")
    fail (start ++ octets ": bad variable name")
  return String.ofList start

/-- Sets a variable. -/
def assign (name : String) (value : Octets) : Act Unit :=
  assignWith name (some value) false false

/-- Sets a variable whose name may be none. -/
def assignChecked (name value : Octets) : Act Unit := do
  assign (← checkName name) value

/-- Takes a variable away. -/
def unassign (name : String) : Act Unit := assignWith name none false false

/-! ## Variables that come back -/

/-- Remembers something that comes back when the present function is left. -/
def remember (saved : Saved) : Act Unit := modify fun s =>
  match s.locals with
  | frame :: rest => { s with locals := (saved :: frame) :: rest }
  | [] => s

/-- Remembers a variable, which comes back when the present function is left, and sets it. -/
def makeLocal (text : Octets) (isExported : Bool) : Act Unit := do
  if text == ['-'] then remember (.options (← get).options)
  else
    let (name, value) := splitAssignment text
    let name ← checkName name
    let before := (← get).binding? name
    match value, before with
    | some value, _ => assignWith name (some value) isExported false
    | none, some _ => pure ()
    | none, none => modify (·.put (.single name none isExported false))
    remember (.variable name before)

/-- Brings back what was remembered. -/
def Memory.restore (s : Memory) : Saved → Memory
  | .variable name none => (s.noteAssignment name none).drop name
  | .variable name (some v) => (s.noteAssignment name v.value).put v
  | .options letters => { s with options := letters }

/-- Starts to remember what comes back later. -/
def pushLocals : Act Unit := modify fun s => { s with locals := [] :: s.locals }

/-- Brings back all that was remembered last. -/
def popLocals : Act Unit := modify fun s =>
  match s.locals with
  | frame :: rest => frame.foldl Memory.restore { s with locals := rest }
  | [] => s

/-- Lets a name be that of a new variable until the present function is left, unless it is so
already. -/
def hideVariable (name : String) : Act Unit := do
  let s ← get
  let isHidden := match s.locals with
    | frame :: _ => frame.any fun
      | .variable other _ => other == name
      | .options _ => false
    | [] => false
  if isHidden then return ()
  remember (.variable name (s.binding? name))
  modify (·.drop name)

end Flowscript.Shell
