import Flowscript.Programs.Regex.Basic
import Flowscript.Text.Octets

/-!
# How regular expressions are written

* `Regex.read` reads a regular expression in some notation.
* `Regex.readNoting` also tells what is strange about it.
-/

set_option autoImplicit false

namespace Flowscript.Regex

/-! ## Classes in brackets -/

/-- A class whose name stands after its opening mark, and what follows its closing one. -/
def readNamed? (mark : Char) (cs : List Char) : Option (List Char × List Char) :=
  let rec go (fuel : Nat) (name cs : List Char) : Option (List Char × List Char) :=
    match fuel, cs with
    | 0, _ => none
    | _, [] => none
    | fuel + 1, c :: r =>
      if c == mark && r.head? == some ']' then some (name.reverse, r.drop 1)
      else go fuel (c :: name) r
  go (cs.length + 1) [] cs

/-- A member of a class in brackets: a character, one that cannot start a range, or a class. -/
inductive ClassMember where
  | char (c : Char)
  | equivalent (c : Char)
  | named (name : String)

/-- Reads a member of a class. -/
def readMember (s : RegexSyntax) (takesHyphen : Bool) (cs : List Char) :
    Except RegexFault (ClassMember × List Char) :=
  let single (name : List Char) : Except RegexFault Char := match name with
    | [c] => .ok c
    | _ => .error .badCollation
  match cs with
  | [] => .error .openBracket
  | '[' :: '.' :: r =>
    match readNamed? '.' r with
    | some (name, r) => do return (.char (← single name), r)
    | none => .error .openBracket
  | '[' :: '=' :: r =>
    match readNamed? '=' r with
    | some (name, r) => do return (.equivalent (← single name), r)
    | none => .error .openBracket
  | c :: r =>
    match c, r with
    | '[', ':' :: t =>
      if !s.hasClasses then .ok (.char '[', r)
      else
        match readNamed? ':' t with
        | none => .error .openBracket
        | some (name, r) =>
          let name := String.ofList name
          if (Text.charClass? name).isSome then .ok (.named name, r) else .error .badClass
    | '-', d :: _ => if takesHyphen || d == ']' then .ok (.char c, r) else .error .badRange
    | _, _ => .ok (.char c, r)

/-- Reads the members of a class up to its closing bracket, which is one itself if it comes first. -/
def readItems (s : RegexSyntax) (fuel : Nat) (isFirst : Bool) (cs : List Char) :
    Except RegexFault (List RegexItem × List Char) :=
  match fuel with
  | 0 => .error .openBracket
  | fuel + 1 =>
    match cs, isFirst with
    | ']' :: r, false => .ok ([], r)
    | [], _ => .error .openBracket
    | _, _ => do
      let (member, r) ← readMember s isFirst cs
      let goOn (item : RegexItem) (r : List Char) :
          Except RegexFault (List RegexItem × List Char) := do
        let (items, r) ← readItems s fuel false r
        .ok (item :: items, r)
      match member, r with
      | .named name, _ => goOn (.named name) r
      | .equivalent c, _ => goOn (.range c c) r
      | .char _, ['-'] => .error .openBracket
      | .char first, '-' :: d :: t =>
        if d == ']' then goOn (.range first first) r
        else
          let (last, t) ← readMember s true (d :: t)
          match last with
          | .char last =>
            if last < first && !s.hasEmptyRanges then .error .badRange
            else goOn (.range first last) t
          | _ => .error .badRange
      | .char c, _ => goOn (.range c c) r

/-- Whether what stands in brackets looks like the name of a class. -/
def isUnclear (inside : List Char) : Bool :=
  let inside := if inside.head? == some '^' then inside.drop 1 else inside
  3 ≤ inside.length && inside.head? == some ':' && inside.getLast? == some ':'
    && (inside.drop 1).dropLast.all fun c => c != '[' && c != '-'

/-- Reads a class after its opening bracket, and tells whether it is unclear. -/
def readClass (s : RegexSyntax) (cs : List Char) :
    Except RegexFault (Regex × Bool × List Char) := do
  let (complement, r) := match cs with
    | '^' :: r => (true, r)
    | _ => (false, cs)
  if r.isEmpty then .error .badPattern
  let (items, r) ← readItems s (r.length + 1) true r
  .ok (.oneOf complement items, isUnclear (cs.take (cs.length - r.length - 1)), r)

/-! ## Counts -/

/-- How many repetitions can be asked for. -/
def mostRepetitions : Nat := 32767

/-- A number in counts. -/
inductive CountNumber where
  | missing
  | malformed
  | some (n : Nat)

/-- Reads a number in counts up to a comma or the closing brace, with what is left from there on;
nothing is answered if there is neither. -/
def readCount? (s : RegexSyntax) (fuel : Nat) (before : CountNumber) (cs : List Char) :
    Option (CountNumber × List Char) :=
  match fuel, cs with
  | 0, _ => none
  | _, [] => none
  | fuel + 1, c :: r =>
    let isClosed := if s.hasPlainGroups then c == '}' else c == '\\' && r.head? == some '}'
    if isClosed || c == ',' then some (before, cs)
    else
      let next : CountNumber := match before with
        | .malformed => .malformed
        | .missing => if c.isDigit then .some (c.toNat - '0'.toNat) else .malformed
        | .some n => if c.isDigit then .some (10 * n + (c.toNat - '0'.toNat)) else .malformed
      readCount? s fuel next r

/-- Reads the counts of a repetition after the opening brace: the least number, the greatest one if
there is one, and what follows.  Nothing is answered if the brace stands for itself. -/
def readCounts (s : RegexSyntax) (cs : List Char) :
    Except RegexFault (Option (Nat × Option Nat × List Char)) :=
  let wrong (fault : RegexFault) : Except RegexFault (Option (Nat × Option Nat × List Char)) :=
    if s.keepsWrongCounts then .ok none else .error fault
  let closeLength := if s.hasPlainGroups then 1 else 2
  let checked (least : Nat) (most : Option Nat) (r : List Char) :
      Except RegexFault (Option (Nat × Option Nat × List Char)) :=
    if r.head? == some ',' || most.any (· < least) then .error .badCount
    else if mostRepetitions < most.getD least then .error .largeCount
    else .ok (some (least, most, r.drop closeLength))
  let upper (least : Nat) (r : List Char) :
      Except RegexFault (Option (Nat × Option Nat × List Char)) :=
    match readCount? s (r.length + 1) .missing r with
    | none => wrong .openCount
    | some (.malformed, _) => wrong .badCount
    | some (.missing, r) => checked least none r
    | some (.some n, r) => checked least (some n) r
  match readCount? s (cs.length + 1) .missing cs with
  | none => wrong .openCount
  | some (.malformed, _) => wrong .badCount
  | some (.missing, ',' :: r) => upper 0 r
  | some (.missing, _) => .error .badCount
  | some (.some n, ',' :: r) => upper n r
  | some (.some n, r) => checked n (some n) r

/-! ## Parts -/

/-- A class that is written as a letter after a backslash. -/
def letterClass? (c : Char) : Option Regex :=
  let word := [RegexItem.named "alnum", .range '_' '_']
  match c with
  | 'w' => some (.oneOf false word)
  | 'W' => some (.oneOf true word)
  | 's' => some (.oneOf false [.named "space"])
  | 'S' => some (.oneOf true [.named "space"])
  | _ => none

/-- A place that is written as a letter after a backslash. -/
def letterPlace? (c : Char) : Option RegexPlace :=
  match c with
  | '<' => some .wordStart
  | '>' => some .wordEnd
  | 'b' => some .wordEdge
  | 'B' => some .wordInside
  | '\x60' => some .textStart
  | '\'' => some .textEnd
  | _ => none

/-- What has been read so far: the number of groups, those of them that are closed, and what is
strange, the last first. -/
structure Reading where
  groups : Nat
  closed : List Nat
  notices : List RegexNotice

/-- What comes before a part: nothing, only places, places after other parts, or a part. -/
inductive PartContext where
  | start
  | afterPlace
  | afterPart
  deriving DecidableEq, Repr

/-- Whether an alternative or a group ends here. -/
def endsHere (s : RegexSyntax) (depth : Nat) (cs : List Char) : Bool :=
  match cs with
  | [] => true
  | '|' :: _ => s.hasPlainGroups
  | ')' :: _ => s.hasPlainGroups && (depth != 0 || !s.keepsLoneClose)
  | '\\' :: '|' :: _ => !s.hasPlainGroups
  | '\\' :: ')' :: _ => !s.hasPlainGroups
  | _ => false

/-- The repetition that an operator asks for, with what follows it. -/
def readRepeat? (s : RegexSyntax) (cs : List Char) :
    Except RegexFault (Option (Nat × Option Nat × List Char)) :=
  match cs with
  | '*' :: r => .ok (some (0, none, r))
  | '+' :: r => .ok (if s.hasPlainRepeats then some (1, none, r) else none)
  | '?' :: r => .ok (if s.hasPlainRepeats then some (0, some 1, r) else none)
  | '{' :: r => if s.hasPlainGroups && s.hasCounts then readCounts s r else .ok none
  | '\\' :: '+' :: r => .ok (if s.hasPlainRepeats then none else some (1, none, r))
  | '\\' :: '?' :: r => .ok (if s.hasPlainRepeats then none else some (0, some 1, r))
  | '\\' :: '{' :: r => if s.hasPlainGroups || !s.hasCounts then .ok none else readCounts s r
  | _ => .ok none

/-- Takes the repetitions that follow a part. -/
def readRepetitions (s : RegexSyntax) (fuel : Nat) (part : Regex) (cs : List Char) :
    Except RegexFault (Regex × List Char) :=
  match fuel with
  | 0 => .ok (part, cs)
  | fuel + 1 => do
    match ← readRepeat? s cs with
    | none => .ok (part, cs)
    | some (least, most, r) =>
      let isFollowed := match r with
        | '*' :: _ => true
        | '\\' :: '{' :: _ => !s.hasPlainGroups
        | _ => false
      if isFollowed && !s.stacksRepeats then .error .nothingToRepeat
      else readRepetitions s fuel (.repeated part least most) r

/-- How an operator that has nothing to repeat is called. -/
def operatorName (c : Char) : String := if c == '{' then "\x7b...\x7d" else String.singleton c

/-- One part after another. -/
def joined (before part : Regex) : Regex :=
  match before with
  | .empty => part
  | _ => .join before part

/-- Reads alternatives up to their end.  `depth` groups are open. -/
def readAlternatives (y : RegexSyntax) (fuel depth : Nat) (s : Reading) (cs : List Char) :
    Except RegexFault (Regex × Reading × List Char) :=
  match fuel with
  | 0 => .error .openGroup
  | fuel + 1 => do
    let (first, s, r) ← readParts fuel depth .start s cs .empty
    let more (r : List Char) : Except RegexFault (Regex × Reading × List Char) := do
      if r.isEmpty && !y.hasEmptyParts then .error .nothingToRepeat
      let (second, s, r) ← readAlternatives y fuel depth s r
      .ok (.either first second, s, r)
    match y.hasPlainGroups, r with
    | true, '|' :: r => more r
    | false, '\\' :: '|' :: r => more r
    | _, _ => .ok (first, s, r)
where
  /-- Reads parts up to the end of an alternative, after those that have been read. -/
  readParts (fuel depth : Nat) (context : PartContext) (s : Reading) (cs : List Char)
      (before : Regex) : Except RegexFault (Regex × Reading × List Char) :=
    match fuel with
    | 0 => .error .openGroup
    | fuel + 1 => do
      let add (part : Regex) (s : Reading) (r : List Char) :
          Except RegexFault (Regex × Reading × List Char) := do
        let (part, r) ← readRepetitions y (r.length + 1) part r
        readParts fuel depth .afterPart s r (joined before part)
      let addPlace (place : RegexPlace) (r : List Char) :
          Except RegexFault (Regex × Reading × List Char) :=
        readParts fuel depth (if context == .start then .start else .afterPlace) s r
          (joined before (.place place))
      let group (r : List Char) : Except RegexFault (Regex × Reading × List Char) := do
        let number := s.groups + 1
        let (body, s, r) ← readAlternatives y fuel (depth + 1) { s with groups := number } r
        let s := { s with closed := number :: s.closed }
        match y.hasPlainGroups, r with
        | true, ')' :: r => add (.group number body) s r
        | false, '\\' :: ')' :: r => add (.group number body) s r
        | _, _ => .error .openGroup
      let lone (c : Char) (r : List Char) : Except RegexFault (Regex × Reading × List Char) := do
        match y.loneOperator with
        | .ordinary => add (.char c) s r
        | .refused => .error .nothingToRepeat
        | .idle =>
          match ← readRepeat? y cs with
          | none => add (.char c) s r
          | some _ =>
            let s := if context == .start then
              { s with notices := .lone (operatorName c) :: s.notices } else s
            let (_, r) ← readRepetitions y (cs.length + 1) .empty cs
            readParts fuel depth .afterPlace s r before
      let isLone := context != .afterPart
      let isEmpty := context == .start && !y.hasEmptyParts && before matches .empty
      match cs with
      | [] => .ok (before, s, [])
      | c :: r =>
        if endsHere y depth cs then
          if isEmpty then .error .nothingToRepeat
          else if depth == 0 && (c == ')' || (c == '\\' && r.head? == some ')')) then
            .error .closedGroup
          else .ok (before, s, cs)
        else
          match c with
          | '.' => add .any s r
          | '[' =>
            let (part, isUnclear, r) ← readClass y r
            let s := if isUnclear then { s with notices := .unclearClass :: s.notices } else s
            add part s r
          | '^' =>
            if y.hasPlainGroups || isLone then addPlace .lineStart r else add (.char '^') s r
          | '$' =>
            if y.hasPlainGroups || endsHere y 1 r then addPlace .lineEnd r
            else add (.char '$') s r
          | '*' => if isLone then lone c r else add (.char c) s r
          | '(' => if y.hasPlainGroups then group r else add (.char '(') s r
          | '+' | '?' => if isLone && y.hasPlainRepeats then lone c r else add (.char c) s r
          | '{' =>
            if isLone && y.hasPlainGroups && y.hasCounts then lone c r else add (.char c) s r
          | '\\' =>
            match r with
            | [] => .error .trailingBackslash
            | d :: r =>
              if d == '(' && !y.hasPlainGroups then group r
              else if d == '{' && !y.hasPlainGroups && y.hasCounts then
                if isLone && !y.stacksRepeats then .error .nothingToRepeat
                else add (.char '{') s r
              else if !y.hasLetters then add (.char d) s r
              else if d.isDigit && d != '0' then
                let number := Text.wideDigitValue d
                if s.closed.contains number then add (.recall number) s r
                else .error .badRecall
              else
                match letterPlace? d with
                | some found => addPlace found r
                | none => add ((letterClass? d).getD (.char d)) s r
          | _ => add (.char c) s r

/-- Reads a regular expression, and tells what is strange about it. -/
def readNoting (y : RegexSyntax) (text : List Char) :
    Except RegexFault (Regex × List RegexNotice) := do
  let (r, s, rest) ← readAlternatives y (3 * text.length + 3) 0 ⟨0, [], []⟩ text
  if rest.isEmpty then .ok (r, s.notices.reverse) else .error .closedGroup

/-- Reads a regular expression. -/
def read (y : RegexSyntax) (text : List Char) : Except RegexFault Regex :=
  (readNoting y text).map (·.1)

end Flowscript.Regex
