import Flowscript.Programs.Shell.Source
import Flowscript.Programs.Text.CharClass

/-!
# Reading words

* `Source.readWord` reads a word, up to a blank or an operator.
* `Source.documentWord` reads a text in the script.
* `Source.wideBraces` reads what braces after a dollar hold in the wide dialect.

What a dollar starts nests: braces hold words, parentheses hold statements or arithmetic.  How
statements are read is for the reader of statements to say; here it is the argument `body`.
-/

set_option autoImplicit false

namespace Flowscript.Shell

/-- What a word is a part of, and so where it ends. -/
inductive Surrounding where
  | script
  | braces
  | brackets
  | parentheses
  | document
  /-- A regular expression, in which only blanks end a word. -/
  | expression
  deriving DecidableEq, Repr

/-- Where a word is read: what it is a part of and in which line that starts, whether double quotes
are around all of that, whether it is in a text in the script, and whether it is the end mark of
one, in which dollars are plain. -/
structure Context where
  around : Surrounding
  line : Nat
  doubled : Bool
  inDocument : Bool
  inEndMark : Bool

namespace Source

/-- Whether a character ends a word. -/
def endsWord (c : Char) : Bool :=
  c == ' ' || c == '\t' || c == '\n' || c == ';' || c == '&' || c == '|' || c == '<' || c == '>'
    || c == '(' || c == ')'

/-- Whether a character is the name of a parameter by itself. -/
def isSpecial (c : Char) : Bool :=
  c == '@' || c == '*' || c == '#' || c == '?' || c == '-' || c == '$' || c == '!'

/-- Reads characters of a class. -/
def takeWhile (isMember : Char → Bool) (fuel : Nat) : Reading Octets :=
  match fuel with
  | 0 => pure []
  | fuel + 1 => do
    match ← peekOn? with
    | some c =>
      if isMember c then
        advance
        return c :: (← takeWhile isMember fuel)
      else pure []
    | none => pure []

/-- How many characters are left, and one more. -/
def allRest : Reading Nat := do return (← get).rest.length + 1

/-- Reads characters of a class, as a name. -/
def takeName (isMember : Char → Bool) : Reading String := do
  return String.ofList (← takeWhile isMember (← allRest))

/-- The text between two single quotes, the first of which has been read. -/
def singleQuoted : Reading Word := do
  let s ← get
  let inside := s.rest.takeWhile (· != '\'')
  let line := s.line + inside.count '\n'
  match s.rest.drop inside.length with
  | [] =>
    set { s with rest := [], line }
    unclosed "Unterminated quoted string" s.line "'"
  | _ :: r =>
    set { s with rest := r, line }
    return .mark :: inside.map .literal ++ [.mark]

/-- A digit's value in some base at the start of a text, of at most `most` digits, and the rest. -/
def digitsUpTo (most : Nat) (isMember : Char → Bool) (base : Nat) (cs : Octets) : Nat × Octets :=
  let digits := (cs.take most).takeWhile isMember
  (digits.foldl (fun n d => n * base + Text.wideDigitValue d) 0, cs.drop digits.length)

/-- A character that is known by its number, as far as it is one byte. -/
def numberedChar (letter : Char) (width n : Nat) : Octets :=
  if n < 128 then [Char.ofNat n]
  else
    let digits := (Nat.toDigits 16 n).map Char.toUpper
    '\\' :: letter :: List.replicate (width - digits.length) '0' ++ digits

/-- What a backslash between single quotes after a dollar stands for with what follows it, and the
rest. -/
def signOf (cs : Octets) : Octets × Octets :=
  match cs with
  | [] => (['\\'], [])
  | c :: r =>
    let byte (n : Nat) : Octets := [Char.ofNat (n % 256)]
    let hexadecimal (most : Nat) : Option (Nat × Octets) :=
      if (r.headD 'g') |> Text.isHexDigit then some (digitsUpTo most Text.isHexDigit 16 r) else none
    match c with
    | 'a' => (['\x07'], r)
    | 'b' => (['\x08'], r)
    | 'e' | 'E' => (['\x1b'], r)
    | 'f' => (['\x0c'], r)
    | 'n' => (['\n'], r)
    | 'r' => (['\r'], r)
    | 't' => (['\t'], r)
    | 'v' => (['\x0b'], r)
    | '\\' | '\'' | '"' | '?' => ([c], r)
    | 'c' =>
      match r with
      | d :: r => (byte (d.toUpper.toNat % 32), r)
      | [] => (['\\', 'c'], [])
    | 'x' =>
      match hexadecimal 2 with
      | some (n, r) => (byte n, r)
      | none => (['\\', c], r)
    | 'u' =>
      match hexadecimal 4 with
      | some (n, r) => (numberedChar c 4 n, r)
      | none => (['\\', c], r)
    | 'U' =>
      match hexadecimal 8 with
      | some (n, r) => (numberedChar (if n < 0x10000 then 'u' else c) (if n < 0x10000 then 4 else 8) n, r)
      | none => (['\\', c], r)
    | _ =>
      if Text.isOctalDigit c then
        let (n, r) := digitsUpTo 3 Text.isOctalDigit 8 cs
        (byte n, r)
      else (['\\', c], r)

/-- The text between single quotes after a dollar, in which backslashes are signs for other
characters, and what follows it. -/
def signedText (fuel : Nat) (cs : Octets) : Option (Octets × Octets) :=
  match fuel, cs with
  | 0, _ => none
  | _, [] => none
  | _, '\'' :: r => some ([], r)
  | fuel + 1, '\\' :: r =>
    let (text, r) := signOf r
    (signedText fuel r).map fun p => (text ++ p.1, p.2)
  | fuel + 1, c :: r => (signedText fuel r).map fun p => (c :: p.1, p.2)

/-- The text between single quotes after a dollar; the first quote has been read. -/
def signQuoted : Reading Word := do
  let s ← get
  match signedText (s.rest.length + 1) s.rest with
  | none =>
    set { s with rest := [], line := s.line + s.rest.count '\n' }
    unclosed "Unterminated quoted string" s.line "'"
  | some (text, r) =>
    set { s with
      rest := r
      line := s.line + (s.rest.take (s.rest.length - r.length)).count '\n' }
    return .mark :: (text.takeWhile (· != '\x00')).map .literal ++ [.mark]

/-- A backslash and the character after it, which stands for itself; between double quotes that is
so only for some. -/
def escaped (context : Context) (inDouble : Bool) : Reading Word := do
  advance
  match ← peek? with
  | none => return [.literal '\\']
  | some c =>
    advance
    let inBraces := context.around == .braces
    let isSpecial := c == '\\' || c == '`' || c == '$'
      || (c == '"' && (!context.inDocument || inBraces)) || (c == '\x7d' && inBraces)
    return if inDouble && !isSpecial then [.literal '\\', .literal c] else [.literal c]

/-- The script between back quotes, of which some backslashes have been dropped, and what follows
it. -/
def backQuoted (inDouble : Bool) : List Char → Option (List Char × List Char)
  | [] => none
  | '`' :: r => some ([], r)
  | '\\' :: '\n' :: r => backQuoted inDouble r
  | '\\' :: c :: r =>
    let kept := c != '\\' && c != '`' && c != '$' && !(inDouble && c == '"')
    (backQuoted inDouble r).map fun p => ((if kept then ['\\', c] else [c]) ++ p.1, p.2)
  | c :: r => (backQuoted inDouble r).map fun p => (c :: p.1, p.2)

/-- Reads something with a state of its own, of which only the place in the script and the texts
that have been read are kept. -/
def nested {α : Type} (act : Reading α) : Reading α := do
  let before ← get
  set { before with isBack := false, awaited := [], checks := .none }
  let result ← act
  modify fun after =>
    { before with
      rest := after.rest
      line := after.line
      documents := after.documents
      nextDocument := after.nextDocument }
  return result

/-- Statements between back quotes, the first of which has been read. -/
def oldSubstitution (body : Bool → Reading (Option Statement)) (quoted : Bool) :
    Reading WordPart := do
  advance
  let s ← get
  match backQuoted quoted s.rest with
  | none =>
    set { s with rest := [], line := s.line + s.rest.count '\n' }
    unclosed "EOF in backquote substitution" s.line "\x60"
  | some (script, r) =>
    let line := s.line + (s.rest.take (s.rest.length - r.length)).count '\n'
    if s.dialect == .wide then
      set { s with rest := r, line }
      return .script script quoted
    let statement ← nested do
      modify ({ · with rest := script, line := 1 })
      body true
    modify ({ · with rest := r, line := line })
    return .output statement quoted

/-- What is done with a parameter, told by a character after its name; `none` if the braces end. -/
def adjustmentOf (c : Char) : Adjustment :=
  match c with
  | '-' => .otherwise
  | '+' => .instead
  | '?' => .demanded
  | '=' => .assigned
  | _ => .senseless

/-- The rest of a parameter in braces after its name. -/
def adjusted (self : Context → Reading Word) (context : Context) (name : String)
    (quoted : Bool) : Reading WordPart := do
  let inBraces : Context := { context with around := .braces, doubled := quoted }
  let emptyToo ← accept ':'
  match ← peekOn? with
  | some '\x7d' =>
    advance
    return .parameter name .whole emptyToo [] quoted
  | some c =>
    advance
    if (c == '%' || c == '#') && !emptyToo then
      let longest ← accept c
      let word ← self { inBraces with doubled := false }
      return .parameter name (.without (c == '%') longest) false word quoted
    else
      let word ← self inBraces
      return .parameter name (adjustmentOf c) emptyToo word quoted
  | none =>
    let word ← self inBraces
    return .parameter name .senseless emptyToo word quoted

/-- A parameter in braces, the first of which has been read. -/
def inBraces (self : Context → Reading Word) (context : Context) (quoted : Bool) :
    Reading WordPart := do
  let braces : Context := { context with around := .braces, doubled := quoted }
  let senseless : Reading WordPart := do
    return .parameter "" .senseless false (← self braces) quoted
  let measured (name : String) : Reading WordPart := do
    let word ← self braces
    return .parameter name (if word.isEmpty then .length else .senseless) false [] quoted
  match ← peekOn? with
  | none => senseless
  | some c =>
    if Word.startsName c then adjusted self context (← takeName Word.isInName) quoted
    else if c.isDigit then adjusted self context (← takeName Char.isDigit) quoted
    else if c == '#' then
      advance
      match (← get).rest with
      | d :: e :: _ =>
        if Word.startsName d then measured (← takeName Word.isInName)
        else if d.isDigit then measured (← takeName Char.isDigit)
        else if d != '\x7d' && e == '\x7d' then
          if isSpecial d then
            advance
            measured (toString d)
          else senseless
        else adjusted self context "#" quoted
      | _ => adjusted self context "#" quoted
    else if isSpecial c then
      advance
      adjusted self context (toString c) quoted
    else senseless

/-- Statements between parentheses, the first of which has been read. -/
def newSubstitution (body : Bool → Reading (Option Statement)) (quoted : Bool) :
    Reading WordPart := do
  return .output (← nested (body false)) quoted

/-! ## Braces in the wide dialect -/

/-- A word up to a character at which it is cut in two, and what follows that.  Parentheses are
passed over, and so is a choice of arithmetic with its colon. -/
def cutAt? (c : Char) (depth choices : Nat) : Word → Option (Word × Word)
  | [] => none
  | .plain d :: rest =>
    if d == c && depth == 0 && choices == 0 then some ([], rest)
    else
      let depth := if d == '(' then depth + 1 else if d == ')' then depth - 1 else depth
      let choices := if d == '?' then choices + 1 else if d == ':' then choices - 1 else choices
      (cutAt? c depth choices rest).map fun p => (.plain d :: p.1, p.2)
  | part :: rest => (cutAt? c depth choices rest).map fun p => (part :: p.1, p.2)

/-- The place of a value in brackets after a name, if there is one. -/
def placeAfter (self : Context → Reading Word) (context : Context) : Reading Place := do
  if ← accept '[' then
    let line := (← get).line
    match ← self { context with around := .brackets, line, doubled := false } with
    | [.plain '@'] => return .all false
    | [.plain '*'] => return .all true
    | index => return .at index
  else return .only

/-- What is done with a value, told after its name up to the brace that closes; nothing if it makes
no sense. -/
def operationAfter (self : Context → Reading Word) (braces : Context) :
    Reading (Option Operation) := do
  let unquoted : Reading Word := self { braces with doubled := false }
  match ← peekOn? with
  | none =>
    let _ ← self braces
    return none
  | some c =>
    let adjusting := c == '-' || c == '=' || c == '?' || c == '+'
    if c == '\x7d' then
      advance
      return some (.adjusted .whole false [])
    else if adjusting then
      advance
      return some (.adjusted (adjustmentOf c) false (← self braces))
    else if c == ':' then
      advance
      let next := (← peekOn?).getD ' '
      if next == '-' || next == '=' || next == '?' || next == '+' then
        advance
        return some (.adjusted (adjustmentOf next) true (← self braces))
      else
        let word ← unquoted
        match cutAt? ':' 0 0 word with
        | some (offset, length) => return some (.cut offset (some length))
        | none => return if word.isEmpty then none else some (.cut word none)
    else if c == '%' || c == '#' then
      advance
      let longest ← accept c
      return some (.adjusted (.without (c == '%') longest) false (← unquoted))
    else if c == '/' then
      advance
      let anchor ←
        if ← accept '/' then pure Anchor.every
        else if ← accept '#' then pure .atStart
        else if ← accept '%' then pure .atEnd
        else pure .first
      let word ← unquoted
      let isSlash : WordPart → Bool
        | .plain '/' => true
        | _ => false
      let pattern := word.takeWhile (!isSlash ·)
      return some (.replaced anchor pattern (word.drop (pattern.length + 1)))
    else if c == '^' || c == ',' || c == '~' then
      advance
      let isEvery ← accept c
      let change := if c == '^' then LetterChange.upper else if c == ',' then .lower else .opposite
      return some (.lettered change isEvery (← unquoted))
    else if c == '@' then
      advance
      match ← unquoted with
      | [.plain letter] =>
        return if "UuLQEPAKak".toList.contains letter then some (.formed letter) else none
      | _ => return none
    else
      let _ ← self braces
      return none

/-- A parameter, or the values of a variable, with what is done with them. -/
def elementPart (name : String) (place : Place) (isIndirect : Bool) (operation : Operation)
    (quoted : Bool) : WordPart :=
  match place, isIndirect, operation with
  | .only, false, .adjusted adjustment emptyToo word =>
    .parameter name adjustment emptyToo word quoted
  | _, _, _ => .element name place isIndirect operation quoted

/-- What braces hold in the wide dialect after the first of them; nothing if it makes no sense. -/
def wideElement (self : Context → Reading Word) (braces : Context) (quoted : Bool) :
    Reading (Option WordPart) := do
  let named (name : String) (isIndirect : Bool) : Reading (Option WordPart) := do
    let place ← if (name.toList.head?.any Word.startsName) then placeAfter self braces
      else pure .only
    return (← operationAfter self braces).map fun o => elementPart name place isIndirect o quoted
  let senseless : Reading (Option WordPart) := do
    let _ ← self braces
    return none
  let measured (name : String) : Reading (Option WordPart) := do
    let place ← if (name.toList.head?.any Word.startsName) then placeAfter self braces
      else pure .only
    let word ← self braces
    return if word.isEmpty then
        some (elementPart name place false (.adjusted .length false []) quoted)
      else none
  let indirect (name : String) : Reading (Option WordPart) := do
    let place ← if (name.toList.head?.any Word.startsName) then placeAfter self braces
      else pure .only
    match place, (← get).rest with
    | .all _, '\x7d' :: _ =>
      advance
      return some (.element name place false .places quoted)
    | .only, '@' :: '\x7d' :: _ =>
      advance
      advance
      return some (.element name .only false (.names false) quoted)
    | .only, '*' :: '\x7d' :: _ =>
      advance
      advance
      return some (.element name .only false (.names true) quoted)
    | _, _ =>
      return (← operationAfter self braces).map fun o => elementPart name place true o quoted
  match ← peekOn? with
  | none => senseless
  | some c =>
    if Word.startsName c then named (← takeName Word.isInName) false
    else if c.isDigit then named (← takeName Char.isDigit) false
    else if c == '#' then
      advance
      match (← get).rest with
      | d :: e :: _ =>
        if Word.startsName d then measured (← takeName Word.isInName)
        else if d.isDigit then measured (← takeName Char.isDigit)
        else if d != '\x7d' && e == '\x7d' && isSpecial d then
          advance
          measured (toString d)
        else named "#" false
      | _ => named "#" false
    else if c == '!' then
      advance
      match (← get).rest with
      | d :: e :: _ =>
        if Word.startsName d then indirect (← takeName Word.isInName)
        else if d.isDigit then indirect (← takeName Char.isDigit)
        else if e == '\x7d' && isSpecial d && d != '-' && d != '?' then
          advance
          indirect (toString d)
        else named "!" false
      | _ => named "!" false
    else if isSpecial c then
      advance
      named (toString c) false
    else senseless

/-- What braces hold in the wide dialect after the first of them. -/
def wideBraces (self : Context → Reading Word) (context : Context) (quoted : Bool) :
    Reading WordPart := do
  let s ← get
  let braces : Context := { context with around := .braces, line := s.line, doubled := quoted }
  match ← wideElement self braces quoted with
  | some part => return part
  | none =>
    let inside := s.rest.take (s.rest.length - (← get).rest.length)
    return .senseless ('$' :: '\x7b' :: inside)

/-- Whether two parentheses that have been opened are closed together. -/
def closesTwice (fuel depth : Nat) (cs : List Char) : Bool :=
  match fuel, cs with
  | 0, _ => true
  | _, [] => true
  | fuel + 1, '\\' :: r => closesTwice fuel depth (r.drop 1)
  | fuel + 1, '\'' :: r => closesTwice fuel depth ((r.dropWhile (· != '\'')).drop 1)
  | fuel + 1, '(' :: r => closesTwice fuel (depth + 1) r
  | fuel + 1, ')' :: r =>
    match depth with
    | 0 => r.head? == some ')'
    | depth + 1 => closesTwice fuel depth r
  | fuel + 1, _ :: r => closesTwice fuel depth r

/-! ## Words -/

/-- What a dollar starts, which has been read. -/
def dollar (self : Context → Reading Word) (body : Bool → Reading (Option Statement))
    (context : Context) (quoted : Bool) : Reading Word := do
  let plain : WordPart := if quoted then .literal '$' else .plain '$'
  let next ← peekOn?
  let s ← get
  let wide := s.dialect == .wide
  match if context.inEndMark then none else next with
  | none => return [plain]
  | some c =>
    if c == '(' then
      advance
      let isDouble := (← peekOn?) == some '('
      let isArithmetic := isDouble && (!wide || closesTwice s.rest.length 0 (s.rest.drop 2))
      if isArithmetic then
        advance
        let word ← self { context with around := .parentheses, line := s.line, doubled := true }
        return [.arithmetic word quoted]
      else return [← newSubstitution body quoted]
    else if c == '\x7b' then
      advance
      if wide then return [← wideBraces self context quoted]
      return [← inBraces self context quoted]
    else if Word.startsName c then
      return [.parameter (← takeName Word.isInName) .whole false [] quoted]
    else if c.isDigit || isSpecial c then
      advance
      return [.parameter (toString c) .whole false [] quoted]
    else if wide && c == '[' then
      advance
      let word ← self { context with around := .brackets, line := s.line, doubled := true }
      return [.arithmetic word quoted]
    else if wide && c == '\'' && !quoted then
      advance
      signQuoted
    else if wide && c == '"' && !quoted then return []
    else return [plain]

/-- Reads values of a list up to the parenthesis that closes it.  A value can say in brackets which
place it is for. -/
def listItems (item : Word → Reading Word) (index : Reading Word) (line fuel : Nat) :
    Reading (List Word) :=
  match fuel with
  | 0 => pure []
  | fuel + 1 => do
    match ← peekOn? with
    | none => unclosed "" line ")"
    | some ' ' | some '\t' | some '\n' =>
      advance
      listItems item index line fuel
    | some '#' =>
      modify fun s => { s with rest := s.rest.dropWhile (· != '\n') }
      listItems item index line fuel
    | some ')' =>
      advance
      return []
    | some '[' =>
      advance
      let place ← index
      let word ← item (.plain ']' :: place.reverse ++ [.plain '['])
      return word :: (← listItems item index line fuel)
    | some _ =>
      let start := (← get).rest
      match ← item [] with
      | [] =>
        advance
        modify ({ · with tokenRest := start, token := .opening })
        wideUnexpected
      | word => return word :: (← listItems item index line fuel)

/-- The statement in parentheses that starts with a sign of what is done with it, which is next. -/
def channelPart (body : Bool → Reading (Option Statement)) (isRead : Bool) : Reading WordPart := do
  advance
  advance
  return .channel (← nested (body false)) isRead

/-- Whether the next word may assign a list: it does where a command can start. -/
def canTakeList (s : Source) : Bool := s.takesLists || s.checks.keywords

/-- Whether a character before a parenthesis makes a group of patterns of it. -/
def opensGroup (c : Char) : Bool := c == '?' || c == '*' || c == '+' || c == '@' || c == '!'

/-- Reads a word.  `isOpen` says that double quotes have been opened and not closed, in the line
`opened`, and `depth` how many parentheses have.  The parts that have been read come last one
first. -/
def parts (body : Bool → Reading (Option Statement)) (fuel : Nat) (context : Context)
    (isOpen : Bool) (opened depth : Nat) (before : Word) : Reading Word :=
  match fuel with
  | 0 => fail "word too long"
  | fuel + 1 => do
    let quoted := context.doubled || isOpen
    let char (c : Char) : WordPart := if quoted then .literal c else .plain c
    let goOn (isOpen : Bool) (depth : Nat) (more : Word) : Reading Word :=
      parts body fuel context isOpen opened depth (more.reverse ++ before)
    let toggle : Reading Word := do
      advance
      parts body fuel context (!isOpen) (← get).line depth (.mark :: before)
    let self (context : Context) : Reading Word := parts body fuel context false 0 0 []
    match ← peekOn? with
    | none =>
      match context.around with
      | .parentheses => unclosed "Missing '))'" context.line ")"
      | .document => return before.reverse
      | .brackets => unclosed "" context.line (if isOpen then "\"" else "]")
      | .braces =>
        unclosed (if quoted && !context.inDocument then "Unterminated quoted string"
          else "Missing '\x7d'") (if isOpen then opened else context.line)
          (if isOpen then "\"" else "\x7d")
      | .script | .expression =>
        if isOpen then unclosed "Unterminated quoted string" opened "\"" else return before.reverse
    | some c =>
      if c == '\\' then goOn isOpen depth (← escaped context quoted)
      else if c == '$' then
        advance
        goOn isOpen depth (← dollar self body context quoted)
      else if c == '\x60' then goOn isOpen depth [← oldSubstitution body quoted]
      else
        let s ← get
        let wide := s.dialect == .wide
        match context.around with
        | .parentheses =>
          advance
          if c == '(' then goOn isOpen (depth + 1) [char c]
          else if c == ')' then
            if depth != 0 then goOn isOpen (depth - 1) [char c]
            else if ← accept ')' then return before.reverse
            else goOn isOpen depth [char c]
          else if c == '"' && wide then goOn isOpen depth []
          else goOn isOpen depth [char c]
        | .document =>
          advance
          goOn isOpen depth [char c]
        | .brackets =>
          if c == '"' then toggle
          else if c == '\'' && !isOpen then
            advance
            goOn isOpen depth (← singleQuoted)
          else
            advance
            if isOpen then goOn isOpen depth [char c]
            else if c == '[' then goOn isOpen (depth + 1) [char c]
            else if c == ']' then
              if depth != 0 then goOn isOpen (depth - 1) [char c] else return before.reverse
            else goOn isOpen depth [char c]
        | .braces =>
          if c == '\x7d' && !isOpen then
            advance
            return before.reverse
          else if c == '"' then toggle
          else if c == '\'' && !quoted then
            advance
            goOn isOpen depth (← singleQuoted)
          else
            advance
            goOn isOpen depth [char c]
        | .expression =>
          if c == '"' then toggle
          else if c == '\'' && !isOpen then
            advance
            goOn isOpen depth (← singleQuoted)
          else if !isOpen && depth == 0 && (c == ' ' || c == '\t' || c == '\n') then
            return before.reverse
          else
            advance
            if isOpen then goOn isOpen depth [char c]
            else if c == '(' then goOn isOpen (depth + 1) [char c]
            else if c == ')' then goOn isOpen (depth - 1) [char c]
            else goOn isOpen depth [char c]
        | .script =>
          let next := (s.rest.drop 1).head?
          if c == '"' then toggle
          else if isOpen then
            advance
            goOn isOpen depth [char c]
          else if c == '\'' then
            advance
            goOn isOpen depth (← singleQuoted)
          else if wide && (c == '<' || c == '>') && next == some '(' then
            goOn isOpen depth [← channelPart body (c == '<')]
          else if wide && s.takesGroups && opensGroup c && next == some '(' then
            advance
            advance
            goOn isOpen (depth + 1) [.plain c, .plain '(']
          else if wide && depth != 0 && (c == '(' || c == ')') then
            advance
            goOn isOpen (if c == '(' then depth + 1 else depth - 1) [.plain c]
          else if wide && s.canTakeList && c == '[' && before.all Word.isNamePart
              && Word.isName (Word.text before.reverse) then
            advance
            let index ← self { context with around := .brackets, line := s.line }
            goOn isOpen depth (.plain '[' :: index ++ [.plain ']'])
          else if wide && s.canTakeList && c == '('
              && (Word.wideAssignment? before.reverse).any (·.value.isEmpty) then
            advance
            let item (start : Word) : Reading Word := parts body fuel context false 0 0 start
            let index : Reading Word := self { context with around := .brackets, line := s.line }
            let items ← listItems item index s.line s.rest.length
            goOn isOpen depth [.list items]
          else if depth == 0 && endsWord c then return before.reverse
          else
            advance
            goOn isOpen depth [char c]

/-- Reads a word, up to a blank or an operator. -/
def readWord (body : Bool → Reading (Option Statement)) (isEndMark : Bool) : Reading Word := do
  let line := (← get).line
  parts body (2 * (← allRest)) ⟨.script, line, false, false, isEndMark⟩ false line 0 []

/-- Reads a regular expression, up to a blank. -/
def readExpression (body : Bool → Reading (Option Statement)) : Reading Word := do
  let line := (← get).line
  parts body (2 * (← allRest)) ⟨.expression, line, false, false, false⟩ false line 0 []

/-- Reads arithmetic up to two parentheses that close it. -/
def readArithmetic (body : Bool → Reading (Option Statement)) : Reading Word := do
  let line := (← get).line
  parts body (2 * (← allRest)) ⟨.parentheses, line, false, false, false⟩ false line 0 []

/-- Reads all there is as a text in the script, which is expanded as if between double quotes. -/
def documentWord (body : Bool → Reading (Option Statement)) : Reading Word := do
  let line := (← get).line
  parts body (2 * (← allRest)) ⟨.document, line, true, true, false⟩ false line 0 []

end Source

end Flowscript.Shell
