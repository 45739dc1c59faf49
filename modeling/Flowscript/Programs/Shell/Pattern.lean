import Flowscript.Programs.Text.CharClass

/-!
# Patterns and fields

Patterns of the shell, and the fields that words are split into.

* `Pattern` is a list of parts that each match some characters.
* `PatternStyle` says what can be in a pattern, and `Pattern.ofChars` reads one from characters of
  which some are quoted.
* `Pattern.accepts` says whether a pattern matches a whole text.
* `Pattern.cutStart` and `Pattern.cutEnd` cut off what a pattern matches.
* `Pattern.replace` puts something in place of what a pattern matches.
* `Segment` is a piece of an expanded word, which says at what it may be cut.
* `Segment.fields` cuts a word into fields.
* `Field.text` is the argument that a field is, and `Field.chars` the pattern.
-/

set_option autoImplicit false

namespace Flowscript.Shell

/-! ## Patterns for names -/

/-- A character, and whether it was quoted and so only stands for itself. -/
abbrev MarkedChar := Char × Bool

/-- A member of a class in brackets: the characters from one to another, or a class with a name. -/
inductive ClassItem where
  | range (first last : Char)
  | named (name : String)
  deriving DecidableEq, Repr

/-- A part of a pattern: a character, any character, one of a class or none of it, any characters at
all, or a group of patterns, of which a sign says how many match. -/
inductive PatternPart where
  | exactly (c : Char)
  | one
  | oneOf (complement : Bool) (items : List ClassItem)
  | any
  | group (sign : Char) (choices : List (List PatternPart))

/-- A pattern is its parts. -/
abbrev Pattern := List PatternPart

/-- What can be in a pattern: a caret for the complement of a class, groups, and letters that also
stand for those of the other case. -/
structure PatternStyle where
  hasCarets : Bool
  hasGroups : Bool
  foldsCase : Bool
  deriving DecidableEq, Repr

namespace PatternStyle

/-- Only what all patterns have. -/
def plain : PatternStyle := ⟨false, false, false⟩

/-- With carets, as programs other than shells have them. -/
def withCarets : PatternStyle := ⟨true, false, false⟩

end PatternStyle

/-- Whether a character is meant. -/
def ClassItem.accepts (item : ClassItem) (c : Char) : Bool :=
  match item with
  | .range first last => first ≤ c && c ≤ last
  | .named name => match Text.charClass? name with
    | some isMember => isMember c
    | none => false

/-- Whether a part matches a character. -/
def PatternPart.acceptsChar (part : PatternPart) (c : Char) : Bool :=
  match part with
  | .exactly d => c == d
  | .one => true
  | .oneOf complement items => complement != items.any (·.accepts c)
  | .any => true
  | .group .. => false

namespace Pattern

/-- The name of a class and what follows it, after its opening bracket and colon. -/
def className? (cs : List MarkedChar) : Option (String × List MarkedChar) :=
  let name := (cs.takeWhile fun m => m.1.isAlpha).map (·.1)
  match cs.drop name.length with
  | (':', _) :: (']', _) :: r =>
    let name := String.ofList name
    if (Text.charClass? name).isSome then some (name, r) else none
  | _ => none

/-- Reads the items of a class up to its closing bracket, which is one itself if it comes first. -/
def readItems? (fuel : Nat) (isFirst : Bool) (cs : List MarkedChar) :
    Option (List ClassItem × List MarkedChar) :=
  match fuel, cs with
  | 0, _ => none
  | _, [] => none
  | fuel + 1, (c, isQuoted) :: r =>
    let followedBy (item : ClassItem) (r : List MarkedChar) :=
      (readItems? fuel false r).map fun p => (item :: p.1, p.2)
    if c == ']' && !isQuoted && !isFirst then some ([], r)
    else
      let named := match r with
        | (':', _) :: s => if c == '[' && !isQuoted then className? s else none
        | _ => none
      match named with
      | some (name, r) => followedBy (.named name) r
      | none =>
        let (c, r) := match r with
          | (d, _) :: s => if c == '\\' && !isQuoted then (d, s) else (c, r)
          | [] => (c, r)
        match r with
        | ('-', false) :: (d, isQuoted) :: s =>
          if d == ']' && !isQuoted then followedBy (.range c c) r else followedBy (.range c d) s
        | _ => followedBy (.range c c) r

/-- Reads a class after its opening bracket. -/
def readClass? (hasCarets : Bool) (cs : List MarkedChar) :
    Option (PatternPart × List MarkedChar) :=
  let complement (r : List MarkedChar) : Option (PatternPart × List MarkedChar) :=
    (readItems? (cs.length + 1) true r).map fun p => (.oneOf true p.1, p.2)
  let plain : Option (PatternPart × List MarkedChar) :=
    (readItems? (cs.length + 1) true cs).map fun p => (.oneOf false p.1, p.2)
  match cs with
  | ('!', false) :: r => complement r
  | ('^', false) :: r => if hasCarets then complement r else plain
  | _ => plain

/-- The choices of a group after its opening parenthesis, and what follows the closing one. -/
def groupChoices? (depth : Nat) (present : List MarkedChar) (cs : List MarkedChar) :
    Option (List (List MarkedChar) × List MarkedChar) :=
  match cs with
  | [] => none
  | ('\\', false) :: c :: r => groupChoices? depth (c :: ('\\', false) :: present) r
  | ('(', false) :: r => groupChoices? (depth + 1) (('(', false) :: present) r
  | (')', false) :: r =>
    match depth with
    | 0 => some ([present.reverse], r)
    | depth + 1 => groupChoices? depth ((')', false) :: present) r
  | ('|', false) :: r =>
    if depth == 0 then
      (groupChoices? 0 [] r).map fun p => (present.reverse :: p.1, p.2)
    else groupChoices? depth (('|', false) :: present) r
  | c :: r => groupChoices? depth (c :: present) r

/-- Reads a pattern, of which each step takes at least one character. -/
def readParts (style : PatternStyle) (fuel : Nat) (cs : List MarkedChar) : Pattern :=
  match fuel with
  | 0 => []
  | fuel + 1 =>
    let group? : Option (PatternPart × List MarkedChar) :=
      match cs with
      | (sign, false) :: ('(', false) :: r =>
        if style.hasGroups && "?*+@!".toList.contains sign then
          (groupChoices? 0 [] r).map fun p => (.group sign (p.1.map (readParts style fuel)), p.2)
        else none
      | _ => none
    match group? with
    | some (part, r) => part :: readParts style fuel r
    | none =>
      match cs with
      | [] => []
      | ('*', false) :: r => .any :: readParts style fuel r
      | ('?', false) :: r => .one :: readParts style fuel r
      | ('\\', false) :: (c, _) :: r => .exactly c :: readParts style fuel r
      | ('[', false) :: r =>
        match readClass? style.hasCarets r with
        | some (part, r) => part :: readParts style fuel r
        | none => .exactly '[' :: readParts style fuel r
      | (c, _) :: r => .exactly c :: readParts style fuel r

/-- The pattern that characters spell. -/
def ofChars (style : PatternStyle) (cs : List MarkedChar) : Pattern :=
  readParts style cs.length (if style.foldsCase then cs.map fun c => (c.1.toLower, c.2) else cs)

/-- The pattern that a text spells. -/
def ofOctets (o : Octets) : Pattern := ofChars .withCarets (o.map (·, false))

/-- Whether a group is in a pattern. -/
def hasGroup (pattern : Pattern) : Bool := pattern.any fun
  | .group .. => true
  | _ => false

/-- Texts without those that come again. -/
def withoutRepeats (texts : List (List Char)) : List (List Char) :=
  (texts.foldl (fun (seen : List (List Char)) t =>
    if seen.any fun u => u.length == t.length then seen else t :: seen) []).reverse

/-- What can be left of a text after a pattern has matched its start. -/
def leavings (fuel : Nat) (pattern : Pattern) (cs : List Char) : List (List Char) :=
  match fuel with
  | 0 => []
  | fuel + 1 =>
    match pattern with
    | [] => [cs]
    | .any :: rest =>
      withoutRepeats ((List.range (cs.length + 1)).flatMap fun n => leavings fuel rest (cs.drop n))
    | .group sign choices :: rest =>
      let once := withoutRepeats (choices.flatMap fun choice => leavings fuel choice cs)
      let shorter := once.filter fun r => r.length < cs.length
      let again (r : List Char) : List (List Char) :=
        leavings fuel (.group '*' choices :: rest) r
      match sign with
      | '@' => withoutRepeats (once.flatMap (leavings fuel rest))
      | '?' => withoutRepeats (leavings fuel rest cs ++ once.flatMap (leavings fuel rest))
      | '*' => withoutRepeats (leavings fuel rest cs ++ shorter.flatMap again)
      | '+' =>
        withoutRepeats (once.flatMap fun r =>
          if r.length < cs.length then again r else leavings fuel rest r)
      | _ =>
        let others := (List.range (cs.length + 1)).filterMap fun n =>
          let r := cs.drop n
          if once.contains r then none else some r
        withoutRepeats (others.flatMap (leavings fuel rest))
    | part :: rest =>
      match cs with
      | [] => []
      | c :: r => if part.acceptsChar c then leavings fuel rest r else []

/-- More steps than matching a pattern takes. -/
def matchingSteps : Nat := 100000

/-- Whether a pattern without groups matches a whole text. -/
def acceptsPlainly (pattern : Pattern) (cs : List Char) : Bool :=
  match pattern, cs with
  | [], [] => true
  | [], _ :: _ => false
  | .any :: rest, [] => acceptsPlainly rest []
  | .any :: rest, c :: r =>
    if rest.isEmpty then true
    else acceptsPlainly rest (c :: r) || acceptsPlainly (.any :: rest) r
  | _ :: _, [] => false
  | part :: rest, c :: r => part.acceptsChar c && acceptsPlainly rest r
termination_by pattern.length + cs.length

/-- Whether a pattern matches a whole text. -/
def accepts (pattern : Pattern) (cs : List Char) : Bool :=
  if pattern.hasGroup then (leavings matchingSteps pattern cs).contains []
  else acceptsPlainly pattern cs

/-- Whether something other than characters is in a pattern. -/
def isOpen (pattern : Pattern) : Bool := pattern.any fun
  | .exactly _ => false
  | _ => true

/-- The shortest or longest end of a text that a pattern matches is cut off. -/
def cutEnd (pattern : Pattern) (longest : Bool) (cs : List Char) : List Char :=
  let sizes := List.range (cs.length + 1)
  let sizes := if longest then sizes else sizes.reverse
  match sizes.find? fun n => pattern.accepts (cs.drop n) with
  | some n => cs.take n
  | none => cs

/-- The shortest or longest start of a text that a pattern matches is cut off. -/
def cutStart (pattern : Pattern) (longest : Bool) (cs : List Char) : List Char :=
  let sizes := List.range (cs.length + 1)
  let sizes := if longest then sizes.reverse else sizes
  match sizes.find? fun n => pattern.accepts (cs.take n) with
  | some n => cs.drop n
  | none => cs

/-- How much of a text that a pattern matches at its start there is at most, if it does; a pattern
without anything open in it has a size. -/
def longestStart? (pattern : Pattern) (cs : List Char) : Option Nat :=
  let isSized := pattern.all fun
    | .any | .group .. => false
    | _ => true
  if isSized then
    if pattern.length ≤ cs.length && pattern.accepts (cs.take pattern.length) then
      some pattern.length
    else none
  else (List.range (cs.length + 1)).reverse.find? fun n => pattern.accepts (cs.take n)

/-- A text with something in place of what a pattern matches from some place on; nothing is matched
where nothing is. -/
def replaceFrom (pattern : Pattern) (isEvery : Bool) (put : List Char → List Char) (fuel : Nat)
    (cs : List Char) : List Char :=
  match fuel, cs with
  | 0, cs => cs
  | _, [] => []
  | fuel + 1, c :: r =>
    match pattern.longestStart? cs with
    | some (n + 1) =>
      let rest := cs.drop (n + 1)
      put (cs.take (n + 1))
        ++ if isEvery then replaceFrom pattern isEvery put fuel rest else rest
    | _ => c :: replaceFrom pattern isEvery put fuel r

end Pattern

/-! ## Fields

An expanded word is cut into fields, each of which is an argument.

Blanks between fields count as one end, even with another separator among them; each further
separator ends a field of its own. -/

/-- A part of an expanded word: a character, one that only stands for itself, or the mark of a
quote. -/
inductive FieldPart where
  | plain (c : Char)
  | literal (c : Char)
  | mark
  deriving DecidableEq, Repr

/-- A field, or a word that is not cut. -/
abbrev Field := List FieldPart

namespace FieldPart

/-- The character that a part is. -/
def char? : FieldPart → Option Char
  | .plain c => some c
  | .literal c => some c
  | .mark => none

/-- A character, and whether it only stands for itself. -/
def marked? : FieldPart → Option MarkedChar
  | .plain c => some (c, false)
  | .literal c => some (c, true)
  | .mark => none

end FieldPart

namespace Field

/-- The text of a field. -/
def text (f : Field) : Octets := f.filterMap FieldPart.char?

/-- The characters of a field as those of a pattern. -/
def chars (f : Field) : List MarkedChar := f.filterMap FieldPart.marked?

end Field

/-- Where a piece of an expanded word may be cut. -/
inductive Cutting where
  | nowhere
  | separators
  /-- At null characters, which stand between parameters. -/
  | nulls
  deriving DecidableEq, Repr

/-- A piece of an expanded word. -/
structure Segment where
  parts : Field
  cutting : Cutting

namespace Segment

/-- Fields that are being cut: those that are complete and the parts of the present one, each with
the last one first.  `isAfterBlank` says that blanks end the last field, `trimmed` how many parts
are left if those after them are not wanted, and `more` how many fields there can be, unless there
can be any number. -/
structure Cut where
  complete : List Field
  present : Field
  isAfterBlank : Bool
  trimmed : Option Nat
  more : Option Nat

/-- Whether a character is a blank that can stand between fields. -/
def isBlank (c : Char) : Bool := c == ' ' || c == '\t' || c == '\n' || c == '\x00'

/-- Goes on with a part that may be cut at. -/
def Cut.step (isEnd : Char → Bool) (afterNulls : Bool) (cut : Cut) (part : FieldPart) : Cut :=
  let c := (part.char?).getD 'a'
  let ends := isEnd c
  let isBlankEnd := ends && isBlank c
  let kept : Cut := { cut with present := part :: cut.present, isAfterBlank := false }
  if cut.more == some 0 then
    if isBlankEnd then
      { cut with
        present := part :: cut.present
        trimmed := some (cut.trimmed.getD cut.present.length) }
    else if ends && cut.isAfterBlank then kept
    else { kept with trimmed := none }
  else if cut.isAfterBlank then
    if isBlankEnd then cut
    else if ends then { cut with isAfterBlank := false }
    else kept
  else if ends then
    let blankEnd := isBlankEnd && !afterNulls
    if cut.present.isEmpty && blankEnd then cut
    else
      match cut.more with
      | some 1 =>
        { cut with
          present := part :: cut.present
          isAfterBlank := blankEnd
          trimmed := some cut.present.length
          more := some 0 }
      | more =>
        { complete := cut.present.reverse :: cut.complete
          present := []
          isAfterBlank := blankEnd
          trimmed := none
          more := more.map (· - 1) }
  else kept

/-- Goes on with a segment, after one that was cut at null characters or not. -/
def Cut.over (separators : Octets) (afterNulls : Bool) (cut : Cut) (s : Segment) : Cut :=
  match s.cutting with
  | .nowhere => { cut with present := s.parts.reverse ++ cut.present }
  | .separators =>
    let isEnd (c : Char) : Bool := c == '\x00' || separators.contains c
    s.parts.foldl (Cut.step isEnd afterNulls) { cut with isAfterBlank := false }
  | .nulls => s.parts.foldl (Cut.step (· == '\x00') true) { cut with isAfterBlank := false }

/-- The fields of a word; at most `most` of them if that is given. -/
def fields (separators : Octets) (most : Option Nat) (segments : List Segment) : List Field :=
  let (cut, isNulls) := segments.foldl (fun (cut, isNulls) s =>
    (cut.over separators isNulls s,
      if s.cutting == .nowhere then isNulls else s.cutting == .nulls))
    (({ complete := [], present := [], isAfterBlank := false, trimmed := none, more := most } : Cut),
      false)
  let last := match cut.trimmed with
    | some size => if isNulls then cut.present else cut.present.drop (cut.present.length - size)
    | none => cut.present
  if isNulls || !last.isEmpty then (last.reverse :: cut.complete).reverse
  else cut.complete.reverse

/-- A word that is not cut. -/
def whole (segments : List Segment) : Field := segments.flatMap (·.parts)

/-- The text of a word that is not cut. -/
def text (segments : List Segment) : Octets := (whole segments).text

end Segment

end Flowscript.Shell
