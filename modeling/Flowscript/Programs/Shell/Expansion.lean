import Flowscript.Programs.Shell.Elements
import Flowscript.Programs.Shell.Means
import Flowscript.Programs.Shell.Statement
import Flowscript.Programs.Text.CharClass

/-!
# Expansion

Braces come first, and then all other expansions of words.

* `Word.unbraced` are the words that a word stands for.
* `expandFields` makes arguments of words.
* `expandText` makes one text of a word, and `expandPattern` a pattern.
-/

set_option autoImplicit false

namespace Flowscript.Shell

/-! ## Words with braces

In the wide dialect a word with choices between braces stands for several words, one for each
choice.  A sequence between braces stands for all that is in it. -/

namespace Word

/-- The words that start with one word and end with another one. -/
def combined (first second : List Word) : List Word :=
  first.flatMap fun a => second.map fun b => a ++ b

/-- The parts of a word up to the brace that closes one that has been opened, and what follows it.
It only counts if there is a choice or a sequence between them. -/
def braced? (depth : Nat) (isChoice : Bool) : Word → Option (Word × Word)
  | [] => none
  | .plain c :: rest =>
    let isRange := c == '.' && match rest with
      | .plain '.' :: .plain d :: _ => d != '\x7d'
      | .plain '.' :: _ :: _ => true
      | _ => false
    let isChoice' := isChoice || (depth == 0 && (c == ',' || isRange))
    if c == '\x7d' && depth == 0 && isChoice then some ([], rest)
    else
      let depth :=
        if c == '\x7b' then depth + 1 else if c == '\x7d' then depth - 1 else depth
      (braced? depth isChoice' rest).map fun p => (.plain c :: p.1, p.2)
  | part :: rest => (braced? depth isChoice rest).map fun p => (part :: p.1, p.2)

/-- The pieces of a word between commas that are in no further braces. -/
def choices (depth : Nat) (present : Word) : Word → List Word
  | [] => [present.reverse]
  | .plain c :: rest =>
    if c == ',' && depth == 0 then present.reverse :: choices 0 [] rest
    else
      let depth :=
        if c == '\x7b' then depth + 1 else if c == '\x7d' then depth - 1 else depth
      choices depth (.plain c :: present) rest
  | part :: rest => choices depth (part :: present) rest

/-- Whether a comma is in a word. -/
def hasComma (w : Word) : Bool := w.any fun
  | .plain ',' => true
  | _ => false

/-! ### Sequences -/

/-- The pieces of a text between pairs of points. -/
def pieces (o : Octets) : List Octets :=
  let rec go (present : Octets) : Octets → List Octets
    | [] => [present.reverse]
    | '.' :: '.' :: r => present.reverse :: go [] r
    | c :: r => go (c :: present) r
  go [] o

/-- The number that a text is. -/
def wholeNumber? (o : Octets) : Option Int :=
  match o with
  | '-' :: r => (Octets.natural? r).map fun n => -(n : Int)
  | '+' :: r => (Octets.natural? r).map fun n => (n : Int)
  | _ => (Octets.natural? o).map fun n => (n : Int)

/-- The numbers from one to another with steps between them. -/
def numbers (first last step : Int) : List Int :=
  let step := if step == 0 then 1 else step.natAbs
  let count := (last - first).natAbs / step + 1
  (List.range count).map fun n =>
    if first ≤ last then first + (n * step : Nat) else first - (n * step : Nat)

/-- More members than a sequence has. -/
def mostMembers : Nat := 10000000

/-- Whether a number is written with zeros before it. -/
def isPadded (o : Octets) : Bool :=
  match o with
  | '0' :: _ :: _ => true
  | '-' :: '0' :: _ => true
  | _ => false

/-- A number with zeros before it. -/
def paddedNumber (width : Nat) (n : Int) : Octets :=
  let digits := (toString n.natAbs).toList
  let lead : Octets := if n < 0 then ['-'] else []
  lead ++ List.replicate (width - lead.length - digits.length) '0' ++ digits

/-- The members of a sequence that pieces of a text stand for. -/
def members? (first last : Octets) (step : Int) : Option (List Octets) :=
  match first, last with
  | [a], [b] =>
    if a.isAlpha && b.isAlpha then
      some ((numbers a.toNat b.toNat step).map fun n => [Char.ofNat n.toNat])
    else numeric
  | _, _ => numeric
where
  numeric : Option (List Octets) := do
    let a ← wholeNumber? first
    let b ← wholeNumber? last
    if mostMembers < (b - a).natAbs then none
    let width := if isPadded first || isPadded last then max first.length last.length else 0
    some ((numbers a b step).map (paddedNumber width))

/-- The members of a sequence that a word stands for. -/
def sequence? (w : Word) : Option (List Octets) := do
  let text ← w.plainText?
  match pieces text with
  | [first, last] => members? first last 1
  | [first, last, step] => members? first last (← wholeNumber? step)
  | _ => none

/-! ### Words -/

/-- The words that a word stands for, with what comes before the first braces that count. -/
def unbracedFrom (fuel : Nat) (before : Word) (w : Word) : List Word :=
  match fuel with
  | 0 => [before.reverse ++ w]
  | fuel + 1 =>
    match w with
    | [] => [before.reverse]
    | .plain '\x7b' :: rest =>
      match braced? 0 false rest with
      | none => unbracedFrom fuel (.plain '\x7b' :: before) rest
      | some (inside, after) =>
        let further : List Word := unbracedFrom fuel [] after
        if hasComma inside then
          let chosen := (choices 0 [] inside).flatMap (unbracedFrom fuel [])
          (combined chosen further).map (before.reverse ++ ·)
        else
          match sequence? inside with
          | some members =>
            (combined (members.map fun o => o.map .plain) further).map (before.reverse ++ ·)
          | none =>
            let whole : Word := .plain '\x7b' :: inside ++ [.plain '\x7d']
            further.map (before.reverse ++ whole ++ ·)
    | part :: rest => unbracedFrom fuel (part :: before) rest

/-- The words that a word stands for. -/
def unbraced (w : Word) : List Word :=
  let isBrace : WordPart → Bool
    | .plain '\x7b' => true
    | _ => false
  if w.any isBrace then unbracedFrom (w.length + 1) [] w else [w]

end Word

/-! ## Expansion of words

What stands between double quotes is not cut.  An output loses the ends of lines at its end. -/

/-! ### Tildes -/

/-- The directory that the name of a home stands for. -/
def homeNamed? (s : Memory) (name : Octets) : Option Octets :=
  if name.isEmpty then s.get? "HOME"
  else if name == octets "root" then some (octets "/root")
  else if s.isWide && name == ['+'] then s.get? "PWD"
  else if s.isWide && name == ['-'] then s.get? "OLDPWD"
  else none

/-- The home that a tilde at the start of a word stands for, and what follows it. -/
def home? (s : Memory) (inAssignment : Bool) : Word → Option (Octets × Word)
  | .plain '~' :: rest =>
    let isInName : WordPart → Bool
      | .plain c => c != '/' && !(inAssignment && c == ':')
      | _ => false
    let name := rest.takeWhile isInName
    let rest := rest.drop name.length
    let ends := match rest with
      | [] => true
      | .plain _ :: _ => true
      | _ => false
    if ends then (homeNamed? s (Word.text name)).map (·, rest) else none
  | _ => none

/-! ### Parts of words -/

/-- The value of arithmetic in a word, after which its assignments are made. -/
def arithmeticValue (text : Octets) : Act Octets := do
  let s ← get
  if s.isWide then return octets (toString (← reckon text))
  let (result, assigned) := Arithmetic.evaluate s.get? text
  for (name, value) in assigned do
    assign name (octets (toString value))
  match result with
  | .ok value => return octets (toString value)
  | .error failure => fail (failure.message text)

/-- The value of a parameter, or what stands in its place. -/
def expandParameter (self : Expanding → Word → Act Segments) (e : Expanding) (name : String)
    (adjustment : Adjustment) (emptyToo : Bool) (word : Word) (isQuoted : Bool) :
    Act Segments := do
  refresh name
  let s ← get
  let inner : Expanding :=
    { e with isQuoted, isOpen := !isQuoted, tildes := if e.tildes == .inAssignment then
        .inAssignment else .atStart }
  let separate : Expanding := ⟨false, false, false, .atStart⟩
  let parts? := parameterParts? s e name isQuoted
  let value? := match parts? with
    | some [] => if emptyToo then none else parts?
    | _ => parts?
  let whole (parts : Field) : Act Segments := do
    return [valueSegment (← get) name isQuoted parts]
  let orUnset : Act Unit := do
    if value?.isNone && parts?.isNone && s.has 'u' && name != "@" && name != "*" then
      failUnbound name
  match adjustment with
  | .senseless => failSenseless (octets name)
  | .whole =>
    orUnset
    whole (parts?.getD [])
  | .length =>
    orUnset
    let size := octets (toString ((parts?.getD []).length))
    return one (valueParts isQuoted size) (if isQuoted then .nowhere else .separators)
  | .otherwise =>
    match value? with
    | some parts => whole parts
    | none => self inner word
  | .instead =>
    match value? with
    | some _ => self inner word
    | none => return []
  | .assigned =>
    match value? with
    | some parts => whole parts
    | none =>
      if s.isWide && !Word.isName (octets name) then
        discard ('$' :: octets name ++ octets ": cannot assign in this way")
      assignChecked (octets name) (Segment.text (← self separate word).reverse)
      whole ((parameterParts? (← get) e name isQuoted).getD [])
  | .demanded =>
    match value? with
    | some parts => whole parts
    | none =>
      let words ← if word.isEmpty then pure none
        else pure (some (Segment.text (← self separate word).reverse))
      failUnset name words emptyToo
  | .without atEnd longest =>
    orUnset
    match parts? with
    | none => return []
    | some parts =>
      let chars := (Segment.whole (← self separate word).reverse).chars
      let pattern := Pattern.ofChars s.patternStyle chars
      let text := parts.filterMap FieldPart.char?
      let text := if atEnd then pattern.cutEnd longest text else pattern.cutStart longest text
      whole (valueParts isQuoted text)

/-- Whether something is done with each parameter by itself in the wide dialect. -/
def isForEach (s : Memory) (name : String) : Adjustment → Bool
  | .without .. | .length => s.isWide && (name == "@" || name == "*")
  | _ => false

/-- What a statement between parentheses stands for: one that only names a file stands for what is
in it, in the wide dialect. -/
def outputStatement (s : Memory) (body : Statement) : Statement :=
  match body with
  | .simple line [] [] [.file 0 .input path] =>
    if s.isWide then .simple line [] ["/bin/cat".toList.map .plain] [.file 0 .input path] else body
  | _ => body

/-- What work that is a part of a word prints. -/
def printedBy (m : Means) (work : Work) : Act Octets := do
  let (text, status) ← outputOf m work
  modify ({ · with outputStatus := status })
  return text

/-- The run of plain characters that a word starts with, and what follows it.  Where tildes count,
the run ends after a character that one can follow. -/
def plainRun (stops : Char → Bool) : Word → Octets × Word
  | .plain c :: rest =>
    if stops c then ([c], rest)
    else
      let (run, rest) := plainRun stops rest
      (c :: run, rest)
  | rest => ([], rest)

/-- Expands the parts of a word.  `isInside` says that they are between double quotes. -/
def expandParts (m : Means) (self : Expanding → Word → Act Segments) (fuel : Nat)
    (e : Expanding) (isInside isTilde afterEquals : Bool) (word : Word) (before : Segments) :
    Act Segments :=
  match fuel with
  | 0 => pure before
  | fuel + 1 => do
    let goOn (isInside : Bool) (word : Word) (more : Segments) : Act Segments :=
      expandParts m self fuel e isInside false afterEquals word (more ++ before)
    let s ← get
    match if isTilde then home? s (e.tildes == .inAssignment) word else none with
    | some (home, rest) => goOn isInside rest (one (valueParts true home) .nowhere)
    | none =>
    match word with
    | [] => return before
    | .plain _ :: _ =>
      let stops (c : Char) : Bool := e.tildes == .inAssignment && !isInside
        && (c == ':' || (c == '=' && !afterEquals))
      let (run, rest) := plainRun stops word
      let last := run.getLast?.getD 'a'
      let cutting := if e.isOpen && !e.isQuoted && !isInside then Cutting.separators else .nowhere
      expandParts m self fuel e isInside (stops last) (afterEquals || last == '=') rest
        (one (valueParts false run) cutting ++ before)
    | .literal c :: rest => goOn isInside rest (one [.literal c] .nowhere)
    | .mark :: .parameter "@" .whole emptyToo [] true :: .mark :: rest =>
      if isInside then
        goOn false (.parameter "@" .whole emptyToo [] true :: .mark :: rest) (one [.mark] .nowhere)
      else
        let more ← expandParameter self e "@" .whole emptyToo [] true
        goOn isInside rest more
    | .mark :: .element name place indirect operation true :: .mark :: rest =>
      if isInside || !(meansEach name place || indirect) then
        goOn (!isInside) (.element name place indirect operation true :: .mark :: rest)
          (one [.mark] .nowhere)
      else
        let more ← expandElement self e name place indirect operation true
        let isGone := more.all fun s => s.parts.isEmpty && s.cutting == .nowhere
        let isEach := more.any fun s => s.cutting == .nulls
        if isEach || (isGone && meansEach name place) then goOn isInside rest more
        else goOn isInside rest (one [.mark] .nowhere ++ more)
    | .mark :: rest => goOn (!isInside) rest (one [.mark] .nowhere)
    | .parameter name adjustment emptyToo inner quoted :: rest =>
      let more ←
        if isForEach s name adjustment then
          expandElement self e name .only false (.adjusted adjustment emptyToo inner) quoted
        else expandParameter self e name adjustment emptyToo inner quoted
      goOn isInside rest more
    | .element name place indirect operation quoted :: rest =>
      goOn isInside rest (← expandElement self e name place indirect operation quoted)
    | .senseless text :: _ => failSenseless text
    | .list _ :: rest => goOn isInside rest []
    | .channel body isRead :: rest =>
      let descriptor ← openChannel m body isRead
      goOn isInside rest
        (one (valueParts true (octets ("/dev/fd/" ++ toString descriptor))) .nowhere)
    | .output body quoted :: rest =>
      let text ← match body with
        | none => do
          if s.isWide then modify ({ · with outputStatus := 0 })
          pure []
        | some statement => printedBy m (.statement (outputStatement s statement) .last)
      goOn isInside rest
        (one (valueParts quoted text) (if quoted then .nowhere else .separators))
    | .script script quoted :: rest =>
      let text ← printedBy m (.text script .last)
      goOn isInside rest
        (one (valueParts quoted text) (if quoted then .nowhere else .separators))
    | .arithmetic inner quoted :: rest =>
      let text := Segment.text (← self ⟨false, true, false, .nowhere⟩ inner).reverse
      let value ← arithmeticValue text
      goOn isInside rest
        (one (valueParts quoted value) (if quoted then .nowhere else .separators))

/-- Expands a word; the last segment comes first. -/
def expandSegments (m : Means) (fuel : Nat) (e : Expanding) (word : Word) : Act Segments :=
  match fuel with
  | 0 => pure []
  | fuel + 1 =>
    expandParts m (expandSegments m fuel) (word.length + 1) e false (e.tildes != .nowhere) false
      word []

/-- How deep words can be in words. -/
def deepest : Nat := 1000000

/-- The files that fields stand for, and the texts of those that stand for none. -/
def matchFields (s : Memory) (fields : List Field) : Act (List Octets) := do
  let style := s.pathStyle
  let results ← look fun k => fields.map fun f => (f, f.paths style k)
  let pieces ← results.mapM fun (f, paths) => do
    if !paths.isEmpty then return paths
    if s.isWide && f.isPattern style then
      if s.does "failglob" then discard (octets "no match: " ++ f.text)
      if s.does "nullglob" then return []
    return [f.text]
  return pieces.flatten

/-- The arguments that a word stands for, without a look at its braces. -/
def expandBraceless (m : Means) (word : Word) : Act (List Octets) := do
  let s ← get
  let tildes := if s.isWide && word.assignment?.isSome then Tildes.inAssignment else .atStart
  let segments ← expandSegments m deepest ⟨true, false, false, tildes⟩ word
  let s ← get
  let fields := Segment.fields (s.separators?.getD standardSeparators) none segments.reverse
  if s.has 'f' then return fields.map Field.text
  if !fields.any Field.hasOpenChar then return fields.map Field.text
  matchFields s fields

/-- The arguments that a word stands for. -/
def expandFields (m : Means) (word : Word) : Act (List Octets) := do
  let s ← get
  if s.isWide && s.has 'B' then
    return (← word.unbraced.mapM (expandBraceless m)).flatten
  expandBraceless m word

/-- The text that a word stands for. -/
def expandText (m : Means) (tildes : Tildes) (word : Word) : Act Octets := do
  return Segment.text (← expandSegments m deepest ⟨false, false, false, tildes⟩ word).reverse

/-- The pattern that a word stands for, in some style. -/
def expandPatternIn (m : Means) (style : PatternStyle) (word : Word) : Act Pattern := do
  let segments ← expandSegments m deepest ⟨false, false, false, .atStart⟩ word
  return Pattern.ofChars style (Segment.whole segments.reverse).chars

/-- The pattern that a word stands for. -/
def expandPattern (m : Means) (word : Word) : Act Pattern := do
  expandPatternIn m (← get).patternStyle word

/-- The text that a text in the script stands for. -/
def expandDocument (m : Means) (word : Word) : Act Octets := do
  return Segment.text (← expandSegments m deepest ⟨false, true, false, .nowhere⟩ word).reverse

/-! ### Values for lists -/

/-- The index that a value for a list is for, whether the value is added, and the value, if an index
is written before it. -/
def listIndex? (w : Word) : Option (Word × Bool × Word) :=
  match w with
  | .plain '[' :: rest =>
    match Word.bracketed? 0 rest with
    | some (index, .plain '=' :: value) => some (index, false, value)
    | some (index, .plain '+' :: .plain '=' :: value) => some (index, true, value)
    | _ => none
  | _ => none

/-- The values for a list that words stand for. -/
def expandItems (m : Means) (words : List Word) : Act (List ListItem) := do
  let pieces ← words.mapM fun w => do
    match listIndex? w with
    | some (index, isAdded, value) =>
      let key ← expandText m .nowhere index
      let value ← expandText m .inAssignment value
      return [(⟨some key, isAdded, value⟩ : ListItem)]
    | none => return (← expandFields m w).map fun o => (⟨none, false, o⟩ : ListItem)
  return pieces.flatten

/-- An assignment as it is shown before it is made. -/
def shownAssignment (a : Word.Assignment) (index : Option Octets) (value : Octets) : Octets :=
  let place := match index with
    | some o => '[' :: o ++ [']']
    | none => []
  octets a.name ++ place ++ octets (if a.isAdded then "+=" else "=")
    ++ if value.isEmpty then [] else Quoting.shown value

/-- Makes an assignment of the wide dialect, and gives the text that is shown of it. -/
def makeWideAssignment (m : Means) (a : Word.Assignment) : Act Octets := do
  match a.index, a.value with
  | none, [.list items] =>
    assignList a.name a.isAdded (← expandItems m items)
    return shownAssignment a none [] ++ Word.written a.value
  | some index, value =>
    let index ← expandText m .nowhere index
    if value matches [.list _] then
      discard (octets a.name ++ '[' :: index ++ octets "]: cannot assign list to array member")
    let text ← expandText m .inAssignment value
    let spot ← spotOf a.name index
    assignSpot a.name (some spot) a.isAdded text
    return shownAssignment a (some index) text
  | none, value =>
    let text ← expandText m .inAssignment value
    assignSpot a.name none a.isAdded text
    return shownAssignment a none text

end Flowscript.Shell
