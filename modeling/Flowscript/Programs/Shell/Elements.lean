import Flowscript.Programs.Shell.Assigning
import Flowscript.Programs.Shell.Matching
import Flowscript.Programs.Shell.Means
import Flowscript.Programs.Shell.Quoting
import Flowscript.Programs.Shell.StatementReading

/-!
# Values of parameters

* `Expanding` says how a word is expanded, and `Segments` are what comes of it.
* `parameterParts?` is the value of a parameter.
* `expandElement` is what becomes of the values of a variable in the wide dialect, which can be cut,
  replaced, or written in another form.
-/

set_option autoImplicit false

namespace Flowscript.Shell

/-- Where a tilde stands for a home. -/
inductive Tildes where
  | nowhere
  /-- At the start. -/
  | atStart
  /-- At the start, after the first equals sign and after colons. -/
  | inAssignment
  deriving DecidableEq, Repr

/-- How a word is expanded. -/
structure Expanding where
  /-- It is cut into fields. -/
  isCut : Bool
  /-- It is between double quotes. -/
  isQuoted : Bool
  /-- Plain characters of it can be separators. -/
  isOpen : Bool
  tildes : Tildes

/-- What a piece of an expansion gives: the last segments first. -/
abbrev Segments := List Segment

/-! ## Values -/

/-- The parts for a value. -/
def valueParts (isQuoted : Bool) (value : Octets) : Field :=
  value.map fun c => if isQuoted then .literal c else .plain c

/-- What stands between parameters that are put together. -/
def parameterSeparator (s : Memory) (e : Expanding) (name : String) (isQuoted : Bool) :
    Option FieldPart :=
  if e.isCut && isQuoted && name == "@" then some (.plain '\x00')
  else if s.isWide && !e.isCut && name == "@" then some (.literal ' ')
  else if e.isCut && !isQuoted then
    some (.plain (if s.separators?.isSome then '\x00' else ' '))
  else
    match s.separators? with
    | none => some (.literal ' ')
    | some [] => none
    | some (c :: _) => some (.literal c)

/-- All parameters put together. -/
def joinParameters (separator : Option FieldPart) (isQuoted : Bool) : List Octets → Field
  | [] => []
  | [value] => valueParts isQuoted value
  | value :: rest =>
    valueParts isQuoted value ++ separator.toList ++ joinParameters separator isQuoted rest

/-- The parts for the value of a parameter, if it has one. -/
def parameterParts? (s : Memory) (e : Expanding) (name : String) (isQuoted : Bool) :
    Option Field :=
  let number (n : Nat) : Option Field := some (valueParts isQuoted (octets (toString n)))
  match name with
  | "$" => number s.number
  | "?" => number s.status
  | "#" => number s.parameters.length
  | "!" => s.lastStarted.bind number
  | "-" => some (valueParts isQuoted s.optionLetters)
  | "@" | "*" =>
    if s.parameters.isEmpty then some []
    else some (joinParameters (parameterSeparator s e name isQuoted) isQuoted s.parameters)
  | _ =>
    if name.toList.all Char.isDigit then
      (s.parameter? ((octets name).foldl (fun n d => n * 10 + (d.toNat - '0'.toNat)) 0)).map
        (valueParts isQuoted)
    else (s.get? name).map (valueParts isQuoted)

/-- The segment for a value. -/
def valueSegment (s : Memory) (name : String) (isQuoted : Bool) (parts : Field) : Segment :=
  if !isQuoted then ⟨parts, .separators⟩
  else if name == "@" && !s.parameters.isEmpty then ⟨parts, .nulls⟩
  else ⟨parts, .nowhere⟩

/-- Gives a new segment. -/
def one (parts : Field) (cutting : Cutting) : Segments := [⟨parts, cutting⟩]

/-! ## Faults -/

/-- Gives up because a parameter has no value. -/
def failUnset {α : Type} (name : String) (words : Option Octets) (emptyToo : Bool) : Act α := do
  let s ← get
  let name := if s.isWide && name.toList.all Char.isDigit then "$" ++ name else name
  let message := octets (name ++ ": ") ++ match words with
    | some words => words
    | none =>
      if emptyToo then
        octets (if s.isWide then "parameter null or not set" else "parameter not set or null")
      else octets "parameter not set"
  if s.isWide then failScript message else fail message

/-- Gives up because a parameter has no value where each has to have one. -/
def failUnbound {α : Type} (name : String) : Act α := do
  if (← get).isWide then
    let lead := if name.toList.all Char.isDigit then "$" else ""
    failScript (octets (lead ++ name ++ ": unbound variable"))
  failUnset name none false

/-- Gives up because a parameter in braces makes no sense. -/
def failSenseless {α : Type} (text : Octets) : Act α := do
  if (← get).isWide then discard (text ++ octets ": bad substitution")
  fail (octets "Bad substitution")

/-! ## What a variable is worth now -/

/-- Names in order, with colons between them. -/
def joinedNames (names : List String) : Octets :=
  Octets.join [':'] ((names.map octets).mergeSort Octets.le)

/-- Brings variables that change by themselves up to date, as far as one of them is meant. -/
def refresh (name : String) : Act Unit := do
  let s ← get
  if !s.isWide || (s.binding? name).isNone then return ()
  let update (value : Octets) : Act Unit := modify fun s =>
    s.put { s.variableNamed name with value := some value }
  match name with
  | "RANDOM" => modify fun s => Reckoning.afterRandom s name
  | "SECONDS" =>
    let now ← look (·.now)
    update (numeral ((now - s.startedAt) / 1000000000))
  | "EPOCHSECONDS" =>
    let now ← look (·.now)
    update (numeral (now / 1000000000))
  | "BASHOPTS" =>
    let names := s.features.filter fun f => !namedOptions.contains f
    update (joinedNames names)
  | "SHELLOPTS" =>
    let lettered := (wideOptionNames.filter fun o => s.has o.1).map (·.2)
    update (joinedNames (lettered ++ s.features.filter namedOptions.contains))
  | "EPOCHREALTIME" =>
    let now ← look (·.now)
    let digits := numeral (now / 1000 % 1000000)
    update (numeral (now / 1000000000) ++ '.' :: List.replicate (6 - digits.length) '0' ++ digits)
  | "BASHPID" =>
    let number ← look (·.self.number)
    update (numeral number)
  | _ => return ()

/-- What can be in patterns. -/
def Memory.patternStyle (s : Memory) : PatternStyle :=
  match s.dialect with
  | .common => .plain
  | .wide => ⟨true, s.does "extglob", false⟩

/-- What names patterns match. -/
def Memory.pathStyle (s : Memory) : PathStyle :=
  match s.dialect with
  | .common => .plain
  | .wide =>
    ⟨{ s.patternStyle with foldsCase := s.does "nocaseglob" }, s.does "dotglob",
      s.does "globskipdots", s.does "globstar"⟩

/-! ## Changed values -/

/-- A text whose letters are of another case, as far as a pattern matches them. -/
def changeLetters (change : LetterChange) (isEvery : Bool) (pattern : Pattern) (o : Octets) :
    Octets :=
  let changed (c : Char) : Char :=
    if !(pattern.isEmpty || pattern.accepts [c]) then c
    else
      match change with
      | .upper => c.toUpper
      | .lower => c.toLower
      | .opposite => if c.isUpper then c.toLower else c.toUpper
  match o with
  | [] => []
  | c :: r => changed c :: if isEvery then r.map changed else r

/-- A replacement, in which an ampersand stands for what is replaced. -/
def replacement (hasAmpersands : Bool) (parts : Field) (found : Octets) : Octets :=
  match parts with
  | [] => []
  | .plain '\\' :: .plain '&' :: rest =>
    if hasAmpersands then '&' :: replacement hasAmpersands rest found
    else '\\' :: '&' :: replacement hasAmpersands rest found
  | .plain '&' :: rest =>
    (if hasAmpersands then found else ['&']) ++ replacement hasAmpersands rest found
  | .mark :: rest => replacement hasAmpersands rest found
  | .plain c :: rest => c :: replacement hasAmpersands rest found
  | .literal c :: rest => c :: replacement hasAmpersands rest found

/-- A text with something in place of what a pattern matches. -/
def replaceIn (anchor : Anchor) (pattern : Pattern) (put : Octets → Octets) (o : Octets) :
    Octets :=
  match anchor with
  | .atStart =>
    match pattern.longestStart? o with
    | some n => put (o.take n) ++ o.drop n
    | none => o
  | .atEnd =>
    match (List.range (o.length + 1)).find? fun n => pattern.accepts (o.drop n) with
    | some n => o.take n ++ put (o.drop n)
    | none => o
  | _ =>
    if pattern.isEmpty then o
    else if o.isEmpty then (if pattern.accepts [] then put [] else [])
    else pattern.replaceFrom (anchor == .every) put (o.length + 1) o

/-- A text in which backslashes are signs for other characters. -/
def withoutSigns (fuel : Nat) (cs : Octets) : Octets :=
  match fuel, cs with
  | 0, _ => []
  | _, [] => []
  | fuel + 1, '\\' :: r =>
    let (text, r) := Source.signOf r
    text ++ withoutSigns fuel r
  | fuel + 1, c :: r => c :: withoutSigns fuel r

/-- The letters of what kind a variable is. -/
def Variable.kindLetters (v : Variable) : Octets :=
  let kind := match v.elements with
    | some (.listed _) => ['a']
    | some (.keyed _) => ['A']
    | none => []
  let marked (c : Char) : Octets := if v.marks.contains c then [c] else []
  kind ++ marked 'i' ++ marked 'n' ++ (if v.isReadOnly then ['r'] else []) ++ marked 't'
    ++ (if v.isExported then ['x'] else []) ++ marked 'c' ++ marked 'l' ++ marked 'u'

/-- The values of a variable as a list that can be assigned. -/
def Elements.listText : Elements → Octets
  | .listed items =>
    let texts := items.map fun (n, value) =>
      '[' :: numeral n ++ octets "]=" ++ Quoting.visible value
    '(' :: Octets.join [' '] texts ++ [')']
  | .keyed items =>
    let texts := items.map fun (k, value) =>
      '[' :: Quoting.key k ++ octets "]=" ++ Quoting.visible value ++ [' ']
    '(' :: texts.flatten ++ [')']

/-- A value in another form, which a letter tells. -/
def formed (v : Option Variable) (letter : Char) (o : Octets) : Octets :=
  match letter with
  | 'Q' => Quoting.reusable o
  | 'U' => o.map Char.toUpper
  | 'L' => o.map Char.toLower
  | 'u' => changeLetters .upper false [] o
  | 'E' => withoutSigns (o.length + 1) o
  | 'a' => (v.map Variable.kindLetters).getD []
  | 'A' =>
    match v with
    | some v =>
      let kind := v.kindLetters
      let lead := if kind.isEmpty then [] else octets "declare -" ++ kind ++ [' ']
      lead ++ octets v.name ++ '=' :: Quoting.reusable o
    | none => o
  | 'K' | 'k' => Quoting.reusable o
  | _ => o

/-! ## Values that are meant -/

/-- Values that are meant: all of a variable, joined or not, or one.  `shown` is how complaints call
them, and `owner` the variable that they are of. -/
structure Selected where
  values : List Octets
  isAll : Bool
  isJoined : Bool
  shown : Octets
  owner : Option Variable
  elements : Option Elements
  spot : Option Spot

/-- The text that a word stands for. -/
def innerText (self : Expanding → Word → Act Segments) (word : Word) : Act Octets := do
  return Segment.text (← self ⟨false, false, false, .nowhere⟩ word).reverse

/-- The pattern that a word stands for. -/
def innerPattern (self : Expanding → Word → Act Segments) (word : Word) : Act Pattern := do
  let parts := Segment.whole (← self ⟨false, false, false, .atStart⟩ word).reverse
  return Pattern.ofChars (← get).patternStyle parts.chars

/-- The values of a variable that are meant. -/
def select (self : Expanding → Word → Act Segments) (e : Expanding) (name : String)
    (place : Place) : Act Selected := do
  refresh name
  let s ← get
  let v := s.binding? (s.meant name)
  let chosen (values : List Octets) (isAll isJoined : Bool) (shown : Octets) : Selected :=
    ⟨values, isAll, isJoined, shown, v, s.elements? name, none⟩
  if name == "@" || name == "*" then
    return chosen s.parameters true (name == "*") (octets name)
  match place with
  | .only =>
    let value := (parameterParts? s e name false).map Field.text
    return chosen value.toList false false (octets name)
  | .all isJoined =>
    let shown := octets name ++ octets (if isJoined then "[*]" else "[@]")
    return chosen ((s.elements? name).map (·.values) |>.getD []) true isJoined shown
  | .at index =>
    let index ← innerText self index
    let shown := octets name ++ '[' :: index ++ [']']
    let (result, after) := Reckoning.spotOf (← get) name index
    set after
    match result with
    | .ok spot =>
      let value := (s.elements? name).bind (·.at? spot)
      return { chosen value.toList false false shown with spot := some spot }
    | .error (.badIndex _) =>
      complain (octets (name ++ ": bad array subscript"))
      return chosen [] false false shown
    | .error failure => failReckoning failure

/-- The variable, or the place in one, that a text names. -/
def named? (o : Octets) : Option (String × Place) :=
  let name := o.takeWhile Word.isInName
  match o.drop name.length with
  | [] =>
    if Word.isName name || (!name.isEmpty && name.all Char.isDigit) then
      some (String.ofList name, .only)
    else if o == ['@'] || o == ['*'] || o == ['#'] || o == ['?'] then some (String.ofList o, .only)
    else none
  | '[' :: rest =>
    if Word.isName name && rest.getLast? == some ']' then
      let place : Place := match rest.dropLast with
        | ['@'] => .all false
        | ['*'] => .all true
        | index => .at (index.map .plain)
      some (String.ofList name, place)
    else if o == ['@'] || o == ['*'] then some (String.ofList o, .only)
    else none
  | _ => if o == ['@'] || o == ['*'] || o == ['#'] || o == ['?'] then some (String.ofList o, .only)
    else none

/-- Part of a text: from `offset` on, up to `length` characters, or up to so many before the end. -/
def cutText (offset : Int) (length : Option Int) (size : Nat) : Except Int (Nat × Nat) :=
  let start := if offset < 0 then offset + size else offset
  if start < 0 || (size : Int) < start then .ok (0, 0)
  else
    match length with
    | none => .ok (start.toNat, size - start.toNat)
    | some n =>
      if n < 0 then
        let stop := (size : Int) + n
        if stop < start then .error n else .ok (start.toNat, (stop - start).toNat)
      else .ok (start.toNat, n.toNat)

/-- The values of a list from a place on. -/
def cutValues (s : Memory) (name : String) (selected : Selected) (offset : Int)
    (length : Option Int) : Except Int (List Octets) :=
  match length with
  | some n =>
    if n < 0 then .error n else .ok ((from?).take n.toNat)
  | none => .ok from?
where
  from? : List Octets :=
    if name == "@" || name == "*" then
      let size := s.parameters.length + 1
      let start := if offset < 0 then offset + size else offset
      if start < 0 then [] else (s.name :: s.parameters).drop start.toNat
    else
      match selected.elements with
      | some (.listed items) =>
        let size := (Elements.listed items).nextNumber
        let start := if offset < 0 then offset + size else offset
        if start < 0 then [] else (items.filter fun i => start ≤ i.1).map (·.2)
      | some e =>
        let size := e.values.length
        let start := if offset < 0 then offset + size else offset
        if start < 0 then [] else e.values.drop start.toNat
      | none => []

/-- What comes of values. -/
def selectedSegments (s : Memory) (e : Expanding) (isQuoted isAll isJoined : Bool)
    (values : List Octets) : Segments :=
  if isAll then
    let separator := parameterSeparator s e (if isJoined then "*" else "@") isQuoted
    let parts := joinParameters separator isQuoted values
    let cutting := if !isQuoted then Cutting.separators
      else if !isJoined && !values.isEmpty then .nulls else .nowhere
    one parts cutting
  else
    one (valueParts isQuoted (values.headD [])) (if isQuoted then .nowhere else .separators)

/-- Whether all values of a variable or all parameters are meant one by one. -/
def meansEach (name : String) : Place → Bool
  | .all isJoined => !isJoined
  | _ => name == "@"

/-- What is meant by the name that a variable holds. -/
def indirectly (self : Expanding → Word → Act Segments) (e : Expanding) (name : String)
    (place : Place) : Act (String × Place) := do
  let s ← get
  match s.binding? name with
  | some v =>
    if v.marks.contains 'n' then return (String.ofList (v.value.getD []), .only)
  | none => pure ()
  let selected ← select self e name place
  match selected.values with
  | [] => discard (selected.shown ++ octets ": invalid indirect expansion")
  | value :: _ =>
    match named? value with
    | some meant => return meant
    | none => discard (value ++ octets ": invalid variable name")

/-- The value of a variable in a form that a letter tells, or the values in one. -/
def formedSegments (s : Memory) (e : Expanding) (isQuoted : Bool) (letter : Char)
    (selected : Selected) : Segments :=
  let build := selectedSegments s e isQuoted selected.isAll selected.isJoined
  match letter, selected.isAll, selected.elements, selected.owner with
  | 'A', true, some elements, some v =>
    let kind := v.kindLetters
    build [octets "declare -" ++ (if kind.isEmpty then ['-'] else kind) ++ ' ' :: octets v.name
      ++ '=' :: elements.listText]
  | 'K', true, some (.listed items), _ =>
    build [Octets.join [' '] (items.map fun i => numeral i.1 ++ ' ' :: Quoting.visible i.2)]
  | 'K', true, some (.keyed items), _ =>
    build [items.flatMap fun i => Quoting.key i.1 ++ ' ' :: Quoting.visible i.2 ++ [' ']]
  | 'k', true, some elements, _ =>
    build ((elements.places.zip elements.values).flatMap fun p => [p.1, p.2])
  | _, _, _, v =>
    if selected.values.isEmpty && letter != 'a' then []
    else if selected.values.isEmpty then build [formed v letter []]
    else build (selected.values.map (formed v letter))

/-- What becomes of the values of a variable in the wide dialect. -/
def expandElement (self : Expanding → Word → Act Segments) (e : Expanding) (name : String)
    (place : Place) (isIndirect : Bool) (operation : Operation) (isQuoted : Bool) :
    Act Segments := do
  let (name, place) ← if isIndirect then indirectly self e name place else pure (name, place)
  let inner : Expanding := { e with isQuoted, isOpen := !isQuoted, tildes := .atStart }
  match operation with
  | .places =>
    let places := (((← get).elements? name).map (·.places)).getD []
    let isJoined := match place with
      | .all isJoined => isJoined
      | _ => false
    return selectedSegments (← get) e isQuoted true isJoined places
  | .names isJoined =>
    let s ← get
    let names := ((s.bindings.filter fun v => v.name.startsWith name && v.first?.isSome).map
      fun v => octets v.name).mergeSort Octets.le
    return selectedSegments s e isQuoted true isJoined names
  | _ =>
    let selected ← select self e name place
    let s ← get
    let build (values : List Octets) : Act Segments := do
      return selectedSegments (← get) e isQuoted selected.isAll selected.isJoined values
    let isSet := !selected.values.isEmpty
    let checkSet : Act Unit := do
      if !isSet && !selected.isAll && s.has 'u' then
        failScript (selected.shown ++ octets ": unbound variable")
    match operation with
    | .adjusted adjustment emptyToo word =>
      let isThere := isSet && !(emptyToo && selected.values.all (·.isEmpty)
        && (!selected.isAll || selected.values.length == 1))
      match adjustment with
      | .senseless => failSenseless selected.shown
      | .whole =>
        checkSet
        build selected.values
      | .length =>
        checkSet
        let size := if selected.isAll then selected.values.length
          else (selected.values.headD []).length
        return one (valueParts isQuoted (numeral size)) (if isQuoted then .nowhere else .separators)
      | .otherwise => if isThere then build selected.values else self inner word
      | .instead => if isThere then self inner word else return []
      | .assigned =>
        if isThere then return ← build selected.values
        if !Word.isName (octets name) then
          discard ('$' :: selected.shown ++ octets ": cannot assign in this way")
        let value ← innerText self word
        assignSpot name selected.spot false value
        build [value]
      | .demanded =>
        if isThere then return ← build selected.values
        let words ← if word.isEmpty then pure none else some <$> innerText self word
        failUnset (Octets.toText selected.shown) words emptyToo
      | .without atEnd longest =>
        checkSet
        let pattern ← innerPattern self word
        build (selected.values.map fun o =>
          if atEnd then pattern.cutEnd longest o else pattern.cutStart longest o)
    | .replaced anchor patternWord word =>
      checkSet
      let pattern ← innerPattern self patternWord
      let pattern := if s.does "nocasematch" then pattern else pattern
      let parts := Segment.whole (← self ⟨false, false, false, .atStart⟩ word).reverse
      let put (found : Octets) : Octets :=
        replacement (s.does "patsub_replacement") parts found
      build (selected.values.map (replaceIn anchor pattern put))
    | .lettered change isEvery word =>
      checkSet
      let pattern ← innerPattern self word
      build (selected.values.map (changeLetters change isEvery pattern))
    | .cut offsetWord lengthWord =>
      checkSet
      let offset ← reckon (← innerText self offsetWord)
      let lengthText ← lengthWord.mapM (innerText self)
      let length ← lengthText.mapM fun o => do
        let n ← reckon o
        return n
      let refuse : Act Segments :=
        discard ((lengthText.getD []) ++ octets ": substring expression < 0")
      if selected.isAll then
        match cutValues s name selected offset length with
        | .ok values => build values
        | .error _ => refuse
      else
        let o := selected.values.headD []
        match cutText offset length o.length with
        | .ok (start, size) => build [(o.drop start).take size]
        | .error _ => refuse
    | .formed letter => return formedSegments s e isQuoted letter selected
    | .places | .names _ => return []

end Flowscript.Shell
