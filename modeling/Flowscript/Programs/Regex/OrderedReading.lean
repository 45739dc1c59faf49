import Flowscript.Programs.Regex.Ordered
import Flowscript.Text.Octets

/-!
# How regular expressions are written whose ways to match have an order

* `OrderedFault` is what can be wrong with the text of one.
* `OrderedRegex.read` reads one.
-/

set_option autoImplicit false

namespace Flowscript

/-- What can be wrong with the text of an ordered regular expression. -/
inductive OrderedFault where
  | openGroup
  | closedGroup
  | openClass
  | badRange
  | mixedRange
  | nothingToRepeat
  | badOrder
  | largeCount
  | trailingBackslash
  | unknownLetter
  | badRecall
  | unknownGroup
  | variableLook
  | unknownClass
  | classOutside
  | unknownProperty
  | openControl
  | badHexadecimal
  | unknownVerb
  | doubledName
  | badName
  | noName
  | digitInName
  | openComment
  | noGroupNumber
  | noGroupName
  | badProperty
  | unsupportedLetter
  | unicodeOnly
  | noDigits
  | largeChar
  | badOctal
  | wrongInClass
  | allInClass
  | collation
  | badCondition
  | doubledCondition
  deriving DecidableEq, Repr

/-- The wording of a fault. -/
def OrderedFault.message : OrderedFault → String
  | .openGroup => "missing closing parenthesis"
  | .closedGroup => "unmatched closing parenthesis"
  | .openClass => "missing terminating ] for character class"
  | .badRange => "range out of order in character class"
  | .mixedRange => "invalid range in character class"
  | .nothingToRepeat => "quantifier does not follow a repeatable item"
  | .badOrder => "numbers out of order in \x7b\x7d quantifier"
  | .largeCount => "number too big in \x7b\x7d quantifier"
  | .trailingBackslash => "\\ at end of pattern"
  | .unknownLetter => "unrecognized character follows \\"
  | .badRecall => "reference to non-existent subpattern"
  | .unknownGroup => "unrecognized character after (? or (?-"
  | .variableLook => "lookbehind assertion is not fixed length"
  | .unknownClass => "unknown POSIX class name"
  | .classOutside => "POSIX named classes are supported only within a class"
  | .unknownProperty => "unknown property after \\P or \\p"
  | .openControl => "\\c at end of pattern"
  | .badHexadecimal => "non-hex character in \\x\x7b\x7d (closing brace missing?)"
  | .unknownVerb => "(*VERB) not recognized or malformed"
  | .doubledName => "two named subpatterns have the same name (PCRE2_DUPNAMES not set)"
  | .badName => "syntax error in subpattern name (missing terminator?)"
  | .noName => "subpattern name expected"
  | .digitInName => "subpattern name must start with a non-digit"
  | .openComment => "missing ) after (?# comment"
  | .noGroupNumber =>
    "\\g is not followed by a braced, angle-bracketed, or quoted name/number or by a plain number"
  | .noGroupName => "\\k is not followed by a braced, angle-bracketed, or quoted name"
  | .badProperty => "malformed \\P or \\p sequence"
  | .unsupportedLetter => "PCRE2 does not support \\F, \\L, \\l, \\N\x7bname\x7d, \\U, or \\u"
  | .unicodeOnly => "\\N\x7bU+dddd\x7d is supported only in Unicode (UTF) mode"
  | .noDigits => "digits missing in \\x\x7b\x7d or \\o\x7b\x7d or \\N\x7bU+\x7d"
  | .largeChar => "character code point value in \\x\x7b\x7d or \\o\x7b\x7d is too large"
  | .badOctal => "non-octal character in \\o\x7b\x7d (closing brace missing?)"
  | .wrongInClass => "escape sequence is invalid in character class"
  | .allInClass => "\\N is not supported in a class"
  | .collation => "POSIX collating elements are not supported"
  | .badCondition => "malformed number or name after (?("
  | .doubledCondition => "conditional subpattern contains more than two branches"

namespace OrderedRegex

/-- What has been read so far: the number of groups, their names, the groups that are asked for, and
how letters are read from here on. -/
structure Reading where
  groups : Nat
  names : List (List Char × Nat)
  recalled : List Nat
  foldsCase : Bool
  takesNewlines : Bool
  skipsBlanks : Bool
  skipsInClasses : Bool
  hasLines : Bool
  prefersLeast : Bool
  doublesNames : Bool

/-- A reader: what has been read, and what is left. -/
abbrev Reader := StateT (Reading × List Char) (Except OrderedFault)

/-- What is left. -/
def rest : Reader (List Char) := do return (← get).2

/-- Goes on with what is left. -/
def goOn (cs : List Char) : Reader Unit := modify fun s => (s.1, cs)

/-- The length of what it matches, if there is only one. -/
def length? : OrderedRegex → Option Nat
  | .empty | .place _ | .look .. | .startHere => some 0
  | .char .. | .any _ | .oneOf .. => some 1
  | .join first second => do return (← first.length?) + (← second.length?)
  | .either first second => do
    let n ← first.length?
    let m ← second.length?
    if n == m then some n else none
  | .repeated body least most _ => do
    if most == some least then return least * (← body.length?) else none
  | .group _ body | .firstOnly body => body.length?
  | .recall .. | .call _ => none
  | .ifGroup _ yes no | .ifLook _ yes no => do
    let n ← yes.length?
    let m ← no.length?
    if n == m then some n else none

/-- Whether each alternative has only one length. -/
def hasLengths : OrderedRegex → Bool
  | .either first second => first.hasLengths && second.hasLengths
  | r => r.length?.isSome

/-! ## Letters after a backslash -/

/-- The members of a class that is written as a letter, and whether it means all others. -/
def letterItems? (c : Char) : Option (Bool × List RegexItem) :=
  let word := [RegexItem.named "alnum", .range '_' '_']
  let blanks := [RegexItem.range ' ' ' ', .range '\t' '\t', .range '\xa0' '\xa0']
  let ends := [RegexItem.range '\n' '\r', .range '\x85' '\x85']
  match c with
  | 'd' => some (false, [.named "digit"])
  | 'D' => some (true, [.named "digit"])
  | 'w' => some (false, word)
  | 'W' => some (true, word)
  | 's' => some (false, [.named "space"])
  | 'S' => some (true, [.named "space"])
  | 'h' => some (false, blanks)
  | 'H' => some (true, blanks)
  | 'v' => some (false, ends)
  | 'V' => some (true, ends)
  | 'N' => some (true, [.range '\n' '\n'])
  | _ => none

/-- Whether a letter after a backslash means something in other programs only. -/
def isUnsupported (c : Char) : Bool := "FLluU".toList.contains c

/-- The members of a class with a property. -/
def propertyItems? (name : List Char) : Option (List RegexItem) :=
  let small := [RegexItem.range 'a' 'z', .range '\xb5' '\xb5', .range '\xdf' '\xf6',
    .range '\xf8' '\xff']
  let great := [RegexItem.range 'A' 'Z', .range '\xc0' '\xd6', .range '\xd8' '\xde']
  match String.ofList name with
  | "L" => some (small ++ great ++ [.range '\xaa' '\xaa', .range '\xba' '\xba'])
  | "L&" => some (small ++ great)
  | "Lu" => some great
  | "Ll" => some small
  | "N" =>
    some [.named "digit", .range '\xb2' '\xb3', .range '\xb9' '\xb9', .range '\xbc' '\xbe']
  | "Nd" => some [.named "digit"]
  | "P" => some ("!\"#%&'()*,-./:;?@[\\]_\x7b\x7d\xa1\xa7\xab\xb6\xb7\xbb\xbf".toList.map fun c =>
      RegexItem.range c c)
  | "S" => some ("$+<=>^\x60|~\xa2\xa3\xa4\xa5\xa6\xa8\xa9\xac\xae\xaf\xb0\xb1\xb4\xb8\xd7\xf7".toList.map
      fun c => RegexItem.range c c)
  | "Any" => some [.range '\x00' '\xff']
  | "Xan" => some [.named "alnum"]
  | "Xwd" => some [.named "alnum", .range '_' '_']
  | "Xsp" | "Xps" => some [.named "space"]
  | "Z" | "Zs" => some [.range ' ' ' ', .range '\xa0' '\xa0']
  | "Cc" => some [.range '\x00' '\x1f', .range '\x7f' '\x9f']
  | _ => none

/-- The value of digits to a base. -/
def valueOf (base : Nat) (digits : List Char) : Nat :=
  digits.foldl (fun n d => base * n + Text.wideDigitValue d) 0

/-- A character that is written with a letter or a number after a backslash, and what follows. -/
def escapedChar? (cs : List Char) : Except OrderedFault (Option (Char × List Char)) :=
  let plain (c : Char) (r : List Char) : Except OrderedFault (Option (Char × List Char)) :=
    .ok (some (c, r))
  let octal (cs : List Char) (most : Nat) : Except OrderedFault (Option (Char × List Char)) :=
    let digits := (cs.take most).takeWhile Text.isOctalDigit
    if 255 < valueOf 8 digits then .error .largeChar
    else plain (Char.ofNat (valueOf 8 digits)) (cs.drop digits.length)
  let braced (base : Nat) (isDigit : Char → Bool) (fault : OrderedFault) (r : List Char) :
      Except OrderedFault (Option (Char × List Char)) :=
    let digits := r.takeWhile isDigit
    match r.drop digits.length with
    | '}' :: s =>
      if digits.isEmpty then .error .noDigits
      else if 255 < valueOf base digits then .error .largeChar
      else plain (Char.ofNat (valueOf base digits)) s
    | [] => .error (if digits.isEmpty then .noDigits else fault)
    | _ => .error fault
  match cs with
  | 't' :: r => plain '\t' r
  | 'n' :: r => plain '\n' r
  | 'r' :: r => plain '\r' r
  | 'f' :: r => plain '\x0c' r
  | 'e' :: r => plain '\x1b' r
  | 'a' :: r => plain '\x07' r
  | 'c' :: c :: r => plain (Char.ofNat (c.toUpper.toNat ^^^ 64)) r
  | ['c'] => .error .openControl
  | '0' :: _ => octal cs 3
  | 'o' :: '{' :: r => braced 8 Text.isOctalDigit .badOctal r
  | 'x' :: '{' :: r => braced 16 Text.isHexDigit .badHexadecimal r
  | 'x' :: r =>
    let digits := (r.take 2).takeWhile Text.isHexDigit
    plain (Char.ofNat (valueOf 16 digits)) (r.drop digits.length)
  | _ => .ok none

/-- The members that have a property or not, which stands after its letter, and what follows. -/
def readProperty (letter : Char) (cs : List Char) :
    Except OrderedFault (Bool × List RegexItem × List Char) :=
  let find (isNegated : Bool) (name r : List Char) :
      Except OrderedFault (Bool × List RegexItem × List Char) :=
    match propertyItems? name with
    | some items => .ok (isNegated != (letter == 'P'), items, r)
    | none => .error .unknownProperty
  match cs with
  | '{' :: r =>
    let (isNegated, r) := match r with
      | '^' :: r => (true, r)
      | r => (false, r)
    let name := r.takeWhile (· != '}')
    match r.drop name.length with
    | _ :: s => find isNegated name s
    | [] => .error .badProperty
  | c :: r => if c.isAlpha then find false [c] r else .error .badProperty
  | [] => .error .badProperty

/-! ## Classes in brackets -/

/-- A member of a class: a character, or members of another class. -/
inductive ClassMember where
  | char (c : Char)
  | items (complement : Bool) (items : List RegexItem)

/-- All characters that are no members. -/
def others (items : List RegexItem) : List RegexItem :=
  ((List.range 256).map Char.ofNat).filterMap fun c =>
    if items.any (·.accepts c) then none else some (.range c c)

/-- Reads a member of a class. -/
def readMember (cs : List Char) : Except OrderedFault (ClassMember × List Char) :=
  match cs with
  | [] => .error .openClass
  | '[' :: ':' :: r =>
    let name := r.takeWhile fun c => c.isAlpha || c == '^'
    match (r.drop name.length) with
    | ':' :: ']' :: s =>
      let (isNegated, name) := match name with
        | '^' :: n => (true, n)
        | n => (false, n)
      if name == "word".toList then
        .ok (.items isNegated [.named "alnum", .range '_' '_'], s)
      else if (Text.charClass? (String.ofList name)).isSome then
        .ok (.items isNegated [.named (String.ofList name)], s)
      else .error .unknownClass
    | _ => .ok (.char '[', ':' :: r)
  | '[' :: mark :: r =>
    if (mark == '.' || mark == '=')
        && (r.dropWhile fun c => c != mark && c != ']').take 2 == [mark, ']'] then
      .error .collation
    else .ok (.char '[', mark :: r)
  | '\\' :: [] => .error .trailingBackslash
  | '\\' :: 'N' :: _ => .error .allInClass
  | '\\' :: c :: r =>
    match letterItems? c with
    | some (complement, items) => .ok (.items complement items, r)
    | none =>
      if c == 'p' || c == 'P' then do
        let (complement, items, r) ← readProperty c r
        .ok (.items complement items, r)
      else if c == 'B' || c == 'R' || c == 'X' then .error .wrongInClass
      else if isUnsupported c then .error .unsupportedLetter
      else if c == 'b' then .ok (.char '\x08', r)
      else do
        match ← escapedChar? (c :: r) with
        | some (d, s) => .ok (.char d, s)
        | none =>
          if Text.isOctalDigit c then
            let digits := ((c :: r).take 3).takeWhile Text.isOctalDigit
            .ok (.char (Char.ofNat (valueOf 8 digits % 256)), (c :: r).drop digits.length)
          else if c.isAlphanum && c != 'E' && c != 'Q' then .error .unknownLetter
          else .ok (.char c, r)
  | c :: r => .ok (.char c, r)

/-- Text up to the sign that ends a quotation, and what follows that. -/
def takeQuoted (fuel : Nat) (cs : List Char) : List Char × List Char :=
  match fuel, cs with
  | 0, _ => ([], cs)
  | _, [] => ([], [])
  | _, '\\' :: 'E' :: r => ([], r)
  | fuel + 1, c :: r =>
    let (quoted, r) := takeQuoted fuel r
    (c :: quoted, r)

/-- Reads the members of a class up to its closing bracket. -/
def readItems (skipsBlanks : Bool) (fuel : Nat) (isFirst : Bool) (cs : List Char) :
    Except OrderedFault (List RegexItem × List Char) :=
  match fuel with
  | 0 => .error .openClass
  | fuel + 1 => do
    let next (items : List RegexItem) (r : List Char) :
        Except OrderedFault (List RegexItem × List Char) := do
      let (more, r) ← readItems skipsBlanks fuel false r
      .ok (items ++ more, r)
    match cs, isFirst with
    | ']' :: r, false => .ok ([], r)
    | [], _ => .error .openClass
    | '\\' :: 'E' :: r, _ => readItems skipsBlanks fuel isFirst r
    | '\\' :: 'Q' :: r, _ =>
      let (quoted, r) := takeQuoted (r.length + 1) r
      if quoted.isEmpty then readItems skipsBlanks fuel isFirst r
      else next (quoted.map fun c => .range c c) r
    | c :: r, _ =>
      if skipsBlanks && (c == ' ' || c == '\t') then readItems skipsBlanks fuel isFirst r
      else
      let (member, r) ← readMember cs
      let own := match member with
        | .char c => [.range c c]
        | .items complement items => if complement then others items else items
      match r with
      | '-' :: d :: s =>
        if d == ']' then next own r
        else
          let (last, s) ← readMember (d :: s)
          match member, last with
          | .char first, .char last =>
            if last < first then .error .badRange else next [.range first last] s
          | _, _ => .error .mixedRange
      | _ => next own r

/-! ## Parts -/

/-- Whether text that starts here looks like the name of a class outside of brackets. -/
def isClassOutside (cs : List Char) : Bool :=
  match cs with
  | '[' :: mark :: r =>
    (mark == ':' || mark == '.' || mark == '=') && (
      let name := r.takeWhile fun c => c.isAlpha || c == '^'
      !name.isEmpty && (r.drop name.length).take 2 == [mark, ']'])
  | _ => false

/-- How often something is repeated, after the sign for it; nothing if there is no such sign. -/
def readQuantity? (cs : List Char) :
    Except OrderedFault (Option (Nat × Option Nat × List Char)) :=
  match cs with
  | '*' :: r => .ok (some (0, none, r))
  | '+' :: r => .ok (some (1, none, r))
  | '?' :: r => .ok (some (0, some 1, r))
  | '{' :: r =>
    let first := r.takeWhile Char.isDigit
    let checked (least : Nat) (most : Option Nat) (r : List Char) :
        Except OrderedFault (Option (Nat × Option Nat × List Char)) :=
      if 65535 < most.getD least || 65535 < least then .error .largeCount
      else if most.any (· < least) then .error .badOrder
      else .ok (some (least, most, r))
    if first.isEmpty then .ok none
    else
      match r.drop first.length with
      | '}' :: s => checked (valueOf 10 first) (some (valueOf 10 first)) s
      | ',' :: s =>
        let last := s.takeWhile Char.isDigit
        match s.drop last.length with
        | '}' :: t =>
          checked (valueOf 10 first) (if last.isEmpty then none else some (valueOf 10 last)) t
        | _ => .ok none
      | _ => .ok none
  | _ => .ok none

/-- Takes the repetitions that follow a part; a place cannot be repeated. -/
def readRepetition (canRepeat : Bool) (part : OrderedRegex) : Reader OrderedRegex := do
  match ← readQuantity? (← rest) with
  | none => return part
  | some (least, most, r) =>
    if !canRepeat then throw .nothingToRepeat
    let prefersLeast := (← get).1.prefersLeast
    let (manner, r) := match r with
      | '?' :: r => (if prefersLeast then RepeatManner.most else .least, r)
      | '+' :: r => (.only, r)
      | r => (if prefersLeast then .least else .most, r)
    goOn r
    match ← readQuantity? r with
    | some _ => throw .nothingToRepeat
    | none => return .repeated part least most manner

/-- Adds a name for a group. -/
def nameGroup (name : List Char) (number : Nat) : Reader Unit := do
  let (s, cs) ← get
  if (s.names.lookup name).isSome && !s.doublesNames then throw .doubledName
  set ({ s with names := (name, number) :: s.names }, cs)

/-- A part that asks for a group. -/
def recallOf (number : Nat) : Reader OrderedRegex := do
  let (s, cs) ← get
  set ({ s with recalled := number :: s.recalled }, cs)
  return .recall number s.foldsCase

/-- A part that asks for a group with a name. -/
def recallNamed (name : List Char) : Reader OrderedRegex := do
  match (← get).1.names.lookup name with
  | some number => recallOf number
  | none => throw .badRecall

/-- A part that does what a group does, which is given by its number or its name, or by how many
groups there are in between. -/
def callOf (text : List Char) : Reader OrderedRegex := do
  let (s, cs) ← get
  let call (number : Nat) : Reader OrderedRegex := do
    set ({ s with recalled := number :: s.recalled }, cs)
    return .call number
  match text with
  | ['R'] => return .call 0
  | '+' :: digits => call (s.groups + valueOf 10 digits)
  | '-' :: digits =>
    let n := valueOf 10 digits
    if n == 0 || s.groups < n then throw .badRecall
    call (s.groups + 1 - n)
  | text =>
    if text.all Char.isDigit then call (valueOf 10 text)
    else
      match s.names.lookup text with
      | some number => return .call number
      | none => throw .badRecall

/-- Reads what follows a backslash, and tells whether it can be repeated. -/
def readEscape : Reader (OrderedRegex × Bool) := do
  let foldsCase := (← get).1.foldsCase
  match ← rest with
  | [] => throw .trailingBackslash
  | c :: r =>
    let spot (p : OrderedPlace) : Reader (OrderedRegex × Bool) := do
      goOn r
      return (.place p, false)
    match c with
    | 'b' => spot .wordEdge
    | 'B' => spot .wordInside
    | 'A' | 'G' => spot .textStart
    | 'z' => spot .textEnd
    | 'Z' => spot .lastEnd
    | 'K' =>
      goOn r
      return (.startHere, false)
    | 'R' =>
      goOn r
      return (.either (.join (.char '\r' false) (.char '\n' false))
        (.oneOf false [.range '\n' '\r', .range '\x85' '\x85'] false), true)
    | 'X' | 'C' =>
      goOn r
      return (.any true, true)
    | 'Q' =>
      let (quoted, s) := takeQuoted (r.length + 1) r
      goOn s
      let parts := quoted.map fun d => OrderedRegex.char d foldsCase
      return (parts.tail.foldl .join (parts.headD .empty), true)
    | 'E' =>
      goOn r
      return (.empty, true)
    | 'k' =>
      let closing (mark : Char) (r : List Char) : Reader (OrderedRegex × Bool) := do
        let name := r.takeWhile (· != mark)
        goOn (r.drop (name.length + 1))
        return (← recallNamed name, true)
      match r with
      | '<' :: r => closing '>' r
      | '\'' :: r => closing '\'' r
      | '{' :: r => closing '}' r
      | _ => throw .noGroupName
    | 'g' =>
      let (text, s) := match r with
        | '{' :: r =>
          let inside := r.takeWhile (· != '}')
          (inside, r.drop (inside.length + 1))
        | '<' :: r =>
          let inside := r.takeWhile (· != '>')
          ('&' :: inside, r.drop (inside.length + 1))
        | '\'' :: r =>
          let inside := r.takeWhile (· != '\'')
          ('&' :: inside, r.drop (inside.length + 1))
        | r =>
          let sign := r.takeWhile (· == '-')
          let digits := (r.drop sign.length).takeWhile Char.isDigit
          (sign ++ digits, r.drop (sign.length + digits.length))
      goOn s
      match text with
      | [] => throw (if r.isEmpty then .noGroupNumber else if r.head? == some '{' then .noName
          else .noGroupNumber)
      | '&' :: name => return (← callOf name, true)
      | '-' :: digits =>
        let groups := (← get).1.groups
        let n := valueOf 10 digits
        if n == 0 || groups < n then throw .badRecall
        return (← recallOf (groups + 1 - n), true)
      | text =>
        if text.all Char.isDigit && !text.isEmpty then return (← recallOf (valueOf 10 text), true)
        else return (← recallNamed text, true)
    | 'p' | 'P' =>
      let (complement, items, s) ← readProperty c r
      goOn s
      return (.oneOf complement items false, true)
    | 'N' =>
      match r with
      | '{' :: 'U' :: '+' :: _ => throw .unicodeOnly
      | '{' :: d :: _ => if !d.isDigit then throw .unsupportedLetter
      | _ => pure ()
      goOn r
      return (.any false, true)
    | c =>
      match letterItems? c with
      | some (complement, items) =>
        goOn r
        return (.oneOf complement items false, true)
      | none =>
        if c.isDigit && c != '0' then
          let digits := (c :: r).takeWhile Char.isDigit
          let n := valueOf 10 digits
          if n < 10 || n ≤ (← get).1.groups then
            goOn ((c :: r).drop digits.length)
            return (← recallOf n, true)
          let octal := ((c :: r).take 3).takeWhile Text.isOctalDigit
          if octal.isEmpty then
            goOn r
            return (.char c foldsCase, true)
          goOn ((c :: r).drop octal.length)
          return (.char (Char.ofNat (valueOf 8 octal % 256)) foldsCase, true)
        match ← escapedChar? (c :: r) with
        | some (d, s) =>
          goOn s
          return (.char d foldsCase, true)
        | none =>
          if isUnsupported c then throw .unsupportedLetter
          if c.isAlphanum then throw .unknownLetter
          goOn r
          return (.char c foldsCase, true)

/-- Sets how letters are read, as other letters say. -/
def applyLetters (letters : List Char) : Reader Unit := do
  let (clears, letters) := match letters with
    | '^' :: r => (true, r)
    | r => (false, r)
  let on := letters.takeWhile (· != '-')
  let off := (letters.drop on.length).drop 1
  if !(on ++ off).all "imsxnJU".toList.contains then throw .unknownGroup
  modify fun (s, cs) =>
    let choose (c : Char) (before : Bool) : Bool :=
      if on.contains c then true else if off.contains c || clears then false else before
    ({ s with
      foldsCase := choose 'i' s.foldsCase
      takesNewlines := choose 's' s.takesNewlines
      hasLines := choose 'm' s.hasLines
      skipsBlanks := choose 'x' s.skipsBlanks
      skipsInClasses := (on.filter (· == 'x')).length == 2 || (!on.contains 'x'
        && !off.contains 'x' && s.skipsInClasses)
      prefersLeast := if on.contains 'U' then true else s.prefersLeast && !off.contains 'U'
      doublesNames := s.doublesNames || on.contains 'J' }, cs)

/-- What kind of group one is. -/
inductive GroupKind where
  | plain
  | numbered (name : Option (List Char))
  | look (isBehind isNegated : Bool)
  | firstOnly
  /-- Letters are read in another way, in the group or, if it is no group, from here on. -/
  | letters (letters : List Char) (isOpen : Bool)
  | comment
  /-- Its alternatives number their groups in the same way. -/
  | renumbered
  | call (text : List Char)
  | recall (name : List Char)
  | conditional
  | never

/-- Reads what kind of group one is, after its opening parenthesis. -/
def readGroupKind (cs : List Char) : Except OrderedFault (GroupKind × List Char) :=
  let named (mark : Char) (r : List Char) : Except OrderedFault (GroupKind × List Char) :=
    let name := r.takeWhile isWordChar
    if name.head?.any Char.isDigit then .error .digitInName
    else if name.isEmpty then .error .noName
    else if (r.drop name.length).head? != some mark then .error .badName
    else .ok (.numbered (some name), r.drop (name.length + 1))
  let closed (make : List Char → GroupKind) (r : List Char) :
      Except OrderedFault (GroupKind × List Char) :=
    let text := r.takeWhile (· != ')')
    match r.drop text.length with
    | _ :: s => .ok (make text, s)
    | [] => .error .openGroup
  match cs with
  | '?' :: r =>
    match r with
    | [] => .error .openGroup
    | ':' :: s => .ok (.plain, s)
    | '|' :: s => .ok (.renumbered, s)
    | '=' :: s => .ok (.look false false, s)
    | '!' :: s => .ok (.look false true, s)
    | '<' :: '=' :: s => .ok (.look true false, s)
    | '<' :: '!' :: s => .ok (.look true true, s)
    | '>' :: s => .ok (.firstOnly, s)
    | '#' :: s =>
      match s.dropWhile (· != ')') with
      | _ :: t => .ok (.comment, t)
      | [] => .error .openComment
    | '(' :: _ => .ok (.conditional, r)
    | 'P' :: '=' :: s => closed .recall s
    | 'P' :: '>' :: s => closed .call s
    | '&' :: s => closed .call s
    | 'R' :: ')' :: s => .ok (.call ['R'], s)
    | 'C' :: s => closed (fun _ => .comment) s
    | '+' :: d :: s => if d.isDigit then closed .call ('+' :: d :: s) else .error .unknownGroup
    | '<' :: s => named '>' s
    | '\'' :: s => named '\'' s
    | 'P' :: '<' :: s => named '>' s
    | s =>
      let letters := s.takeWhile fun c => c.isAlpha || c == '-' || c == '^'
      let isNumber := s.head?.any Char.isDigit
        || (s.head? == some '-' && (s.drop 1).head?.any Char.isDigit)
      if isNumber then closed .call s
      else
      match s.drop letters.length with
      | ':' :: t => .ok (.letters letters true, t)
      | ')' :: t => .ok (.letters letters false, t)
      | [] => .error .openGroup
      | _ => .error .unknownGroup
  | '*' :: r =>
    let verb := String.ofList (r.takeWhile fun c => c != ')' && c != ':')
    let rest := (r.dropWhile (· != ')')).drop 1
    if ["F", "FAIL"].contains verb then .ok (.never, rest)
    else if ["", "MARK", "UTF", "UTF8", "UCP", "COMMIT", "PRUNE", "THEN", "ACCEPT"].contains verb
    then .ok (.comment, rest)
    else .error .unknownVerb
  | cs => .ok (.numbered none, cs)

/-- One part after another. -/
def joined (before part : OrderedRegex) : OrderedRegex :=
  match before, part with
  | .empty, part => part
  | before, .empty => before
  | before, part => .join before part

/-- Does something, and then reads letters as before. -/
def keepingLetters {α : Type} (act : Reader α) : Reader α := do
  let before := (← get).1
  let result ← act
  modify fun (s, cs) =>
    ({ s with
      foldsCase := before.foldsCase
      takesNewlines := before.takesNewlines
      skipsBlanks := before.skipsBlanks
      skipsInClasses := before.skipsInClasses
      hasLines := before.hasLines
      prefersLeast := before.prefersLeast }, cs)
  return result

/-- Reads alternatives up to the end of a group or of the text.  If a number is given, the groups in
each of them follow that number. -/
def readAlternatives (fuel : Nat) (start : Option Nat) : Reader OrderedRegex :=
  match fuel with
  | 0 => throw .openGroup
  | fuel + 1 => do
    let first ← readParts fuel .empty
    match ← rest with
    | '|' :: r =>
      goOn r
      let groups := (← get).1.groups
      if let some start := start then modify fun (s, cs) => ({ s with groups := start }, cs)
      let second ← readAlternatives fuel start
      modify fun (s, cs) => ({ s with groups := max groups s.groups }, cs)
      return .either first second
    | _ => return first
where
  /-- Reads one or two alternatives up to the end of a group. -/
  readChoices (fuel : Nat) : Reader (OrderedRegex × OrderedRegex) :=
    match fuel with
    | 0 => throw .openGroup
    | fuel + 1 => do
      let yes ← readParts fuel .empty
      match ← rest with
      | '|' :: r =>
        goOn r
        let no ← readParts fuel .empty
        if (← rest).head? == some '|' then throw .doubledCondition
        return (yes, no)
      | _ => return (yes, .empty)
  /-- Reads a condition with its parentheses, and gives what makes a part of two alternatives. -/
  readCondition (fuel : Nat) : Reader (OrderedRegex → OrderedRegex → OrderedRegex) :=
    match fuel with
    | 0 => throw .openGroup
    | fuel + 1 => do
      let inside := (← rest).drop 1
      match inside with
      | '?' :: _ =>
        let (kind, inside) ← readGroupKind inside
        goOn inside
        match kind with
        | .look isBehind isNegated =>
          let body ← keepingLetters (readAlternatives fuel none)
          goOn ((← rest).drop 1)
          return .ifLook (.look isBehind isNegated body)
        | _ => throw .badCondition
      | _ =>
        let text := inside.takeWhile (· != ')')
        goOn (inside.drop (text.length + 1))
        let byName (name : List Char) : Reader (OrderedRegex → OrderedRegex → OrderedRegex) := do
          match (← get).1.names.lookup name with
          | some number => return .ifGroup number
          | none => throw .badRecall
        match text with
        | '<' :: name => byName name.dropLast
        | '\'' :: name => byName name.dropLast
        | text =>
          if text.isEmpty then throw .badCondition
          if String.ofList text == "DEFINE" then return .ifLook (.oneOf false [] false)
          if text.all Char.isDigit then
            let number := valueOf 10 text
            modify fun (s, cs) => ({ s with recalled := number :: s.recalled }, cs)
            return .ifGroup number
          byName text
  /-- Reads parts up to the end of an alternative, after those that have been read. -/
  readParts (fuel : Nat) (before : OrderedRegex) : Reader OrderedRegex :=
    match fuel with
    | 0 => throw .openGroup
    | fuel + 1 => do
      let s := (← get).1
      let add (canRepeat : Bool) (part : OrderedRegex) : Reader OrderedRegex := do
        readParts fuel (joined before (← readRepetition canRepeat part))
      let closed (body : OrderedRegex) : Reader OrderedRegex := do
        match ← rest with
        | ')' :: r =>
          goOn r
          return body
        | _ => throw .openGroup
      match ← rest with
      | [] => return before
      | c :: r =>
        if s.skipsBlanks && Text.isSpace c then
          goOn r
          readParts fuel before
        else if s.skipsBlanks && c == '#' then
          goOn ((r.dropWhile (· != '\n')).drop 1)
          readParts fuel before
        else
          match c with
          | '|' | ')' => return before
          | '(' =>
            let (kind, inside) ← readGroupKind r
            goOn inside
            match kind with
            | .comment => readParts fuel before
            | .letters letters false =>
              applyLetters letters
              readParts fuel before
            | .letters letters true =>
              let body ← keepingLetters do
                applyLetters letters
                readAlternatives fuel none
              add true (← closed body)
            | .plain => add true (← closed (← keepingLetters (readAlternatives fuel none)))
            | .renumbered =>
              add true (← closed (← keepingLetters (readAlternatives fuel (some s.groups))))
            | .call text => add true (← callOf text)
            | .recall name => add true (← recallNamed name)
            | .never => add true (.oneOf false [] false)
            | .conditional =>
              let make ← readCondition fuel
              let (yes, no) ← keepingLetters (readChoices fuel)
              add true (← closed (make yes no))
            | .firstOnly =>
              add true (.firstOnly (← closed (← keepingLetters (readAlternatives fuel none))))
            | .look isBehind isNegated =>
              let body ← closed (← keepingLetters (readAlternatives fuel none))
              if isBehind && !body.hasLengths then throw .variableLook
              add true (.look isBehind isNegated body)
            | .numbered name =>
              let number := s.groups + 1
              modify fun (s, cs) => ({ s with groups := number }, cs)
              if let some name := name then nameGroup name number
              let body ← closed (← keepingLetters (readAlternatives fuel none))
              add true (.group number body)
          | '[' =>
            if "[[:<:]]".toList.isPrefixOf (c :: r) then
              goOn (r.drop 6)
              return ← add false (.place .wordStart)
            if "[[:>:]]".toList.isPrefixOf (c :: r) then
              goOn (r.drop 6)
              return ← add false (.place .wordEnd)
            if isClassOutside (c :: r) then throw .classOutside
            let (complement, inside) := match r with
              | '^' :: r => (true, r)
              | r => (false, r)
            let (items, left) ← readItems s.skipsInClasses (inside.length + 1) true inside
            goOn left
            add true (.oneOf complement items s.foldsCase)
          | '.' =>
            goOn r
            add true (.any s.takesNewlines)
          | '^' =>
            goOn r
            add false (.place (if s.hasLines then .lineStart else .textStart))
          | '$' =>
            goOn r
            add false (.place (if s.hasLines then .lineEnd else .textEnd))
          | '\\' =>
            goOn r
            let (part, canRepeat) ← readEscape
            add canRepeat part
          | c =>
            if (← readQuantity? (c :: r)).isSome then throw .nothingToRepeat
            goOn r
            add true (.char c s.foldsCase)

/-- Reads a regular expression whose ways to match have an order. -/
def read (foldsCase : Bool) (text : List Char) : Except OrderedFault OrderedRegex := do
  let start : Reading := ⟨0, [], [], foldsCase, false, false, false, false, false, false⟩
  let (r, s, left) ← (readAlternatives (3 * text.length + 3) none).run (start, text)
  if !left.isEmpty then throw .closedGroup
  if s.recalled.any (s.groups < ·) then throw .badRecall
  return r

end OrderedRegex

end Flowscript
