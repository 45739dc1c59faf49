import Flowscript.Host.Kernel
import Flowscript.Programs.Shell.Pattern

/-!
# Names of files that match a pattern

* `PathStyle` says what names patterns match.
* `Field.paths` are the files that a field with a pattern in it stands for.

A name that starts with a point is only matched by a pattern that does so too, unless the style says
otherwise.
-/

set_option autoImplicit false

namespace Flowscript.Shell

/-- What names patterns match: what can be in them, whether names that start with a point count like
others, whether the two names of directories for themselves count at all, and whether two stars
stand for any number of directories. -/
structure PathStyle where
  pattern : PatternStyle
  hasHidden : Bool
  skipsPoints : Bool
  isDeep : Bool
  deriving DecidableEq, Repr

/-- The style of the common dialect. -/
def PathStyle.plain : PathStyle := ⟨.plain, false, false, false⟩

namespace Field

/-- Whether a class that starts here, after its bracket, has an end before the next slash. -/
def isClassClosed (fuel : Nat) (cs : List MarkedChar) : Bool :=
  match fuel, cs with
  | 0, _ => false
  | _, [] => false
  | fuel + 1, (c, isLiteral) :: r =>
    let r := if c == '\\' && !isLiteral then r.drop 1 else r
    if c == '/' then false
    else
      match r with
      | (']', false) :: _ => true
      | _ => isClassClosed fuel r

/-- Whether a pattern is open at its start, which is past a bracket if there is one. -/
def startsOpen (hasGroups : Bool) : List MarkedChar → Bool
  | ('+', false) :: ('(', false) :: _ => hasGroups
  | ('@', false) :: ('(', false) :: _ => hasGroups
  | ('!', false) :: ('(', false) :: _ => hasGroups
  | ('*', false) :: _ => true
  | ('?', false) :: _ => true
  | ('[', false) :: ('!', false) :: r => isClassClosed (r.length + 1) r
  | ('[', false) :: r => isClassClosed (r.length + 1) r
  | _ => false

/-- Whether a part of a path has something in it that matches more than itself. -/
def isOpenPart (hasGroups : Bool) : List MarkedChar → Bool
  | [] => false
  | c :: r => startsOpen hasGroups (c :: r) || isOpenPart hasGroups r

/-- The parts of a path, of which all but the last one are followed by a slash. -/
def pathParts (cs : List MarkedChar) : List (List MarkedChar) :=
  cs.foldr (fun c parts =>
    if c.1 == '/' then [] :: parts
    else
      match parts with
      | part :: rest => (c :: part) :: rest
      | [] => [[c]]) [[]]

/-- The names in a directory as a pattern sees them. -/
def namesIn (k : Kernel) (directory : Octets) : List Octets :=
  let path := if directory.isEmpty then "." else Octets.toText directory
  match k.find path true with
  | .ok n =>
    if k.tree.isDirectoryAt n then ['.'] :: ['.', '.'] :: (k.tree.namesAt n).map Octets.ofText
    else []
  | .error _ => []

/-- Whether a part of a path asks for names that start with a point. -/
def asksForHidden : List MarkedChar → Bool
  | ('.', _) :: _ => true
  | ('\\', false) :: ('.', _) :: _ => true
  | _ => false

/-- A part of a path without backslashes that only stand before a character. -/
def plainPart : List MarkedChar → Octets
  | ('\\', false) :: (c, _) :: r => c :: plainPart r
  | (c, _) :: r => c :: plainPart r
  | [] => []

/-- The names in a directory that a part of a path matches. -/
def matchingNames (style : PathStyle) (k : Kernel) (before : Octets) (part : List MarkedChar) :
    List Octets :=
  let pattern := Pattern.ofChars style.pattern part
  let mayBeHidden := asksForHidden part
  (namesIn k before).filter fun name =>
    let isPoint := name == ['.'] || name == ['.', '.']
    let counts := if name.head? != some '.' then true
      else if isPoint then mayBeHidden && !style.skipsPoints
      else mayBeHidden || style.hasHidden
    counts && pattern.accepts (if style.pattern.foldsCase then name.map Char.toLower else name)

/-- The directories below one, with the slashes after them, and itself without a name. -/
def directoriesBelow (style : PathStyle) (k : Kernel) (fuel : Nat) (before : Octets) :
    List Octets :=
  match fuel with
  | 0 => [before]
  | fuel + 1 =>
    let names := (namesIn k before).filter fun name =>
      name.head? != some '.' || (style.hasHidden && name != ['.'] && name != ['.', '.'])
    before :: (names.filter fun name =>
      match k.find (Octets.toText (before ++ name)) false with
      | .ok n => k.tree.isDirectoryAt n
      | .error _ => false).flatMap fun name =>
        directoriesBelow style k fuel (before ++ name ++ ['/'])

/-- How deep directories are looked through. -/
def mostDepth : Nat := 100

/-- Two stars, for any number of directories. -/
def anyDepth : List MarkedChar := [('*', false), ('*', false)]

/-- The paths that match the parts of a path, after what has been matched. -/
def matching (style : PathStyle) (k : Kernel) (before : Octets) :
    List (List MarkedChar) → List Octets
  | [] => []
  | [part] =>
    if style.isDeep && part == anyDepth then
      (directoriesBelow style k mostDepth before).flatMap fun directory =>
        (if directory == before then [] else [directory.dropLast])
          ++ ((matchingNames style k directory [('*', false)]).filter fun name =>
            match k.find (Octets.toText (directory ++ name)) false with
            | .ok n => !k.tree.isDirectoryAt n
            | .error _ => true).map (directory ++ ·)
    else if isOpenPart style.pattern.hasGroups part then
      (matchingNames style k before part).map (before ++ ·)
    else
      let path := before ++ plainPart part
      match k.find (Octets.toText path) false with
      | .ok _ => [path]
      | .error _ => []
  | part :: rest =>
    if style.isDeep && part == anyDepth then
      (directoriesBelow style k mostDepth before).flatMap fun directory =>
        matching style k directory rest
    else if isOpenPart style.pattern.hasGroups part then
      (matchingNames style k before part).flatMap fun name =>
        matching style k (before ++ name ++ ['/']) rest
    else matching style k (before ++ plainPart part ++ ['/']) rest

/-- Whether a character of a field can make it a pattern. -/
def hasOpenChar (f : Field) : Bool := f.any fun part =>
  part == .plain '*' || part == .plain '?' || part == .plain '[' || part == .plain '('

/-- Whether a field is a pattern. -/
def isPattern (style : PathStyle) (f : Field) : Bool :=
  f.hasOpenChar && (pathParts f.chars).any (isOpenPart style.pattern.hasGroups)

/-- The files that a field stands for, sorted; none if it is no pattern or nothing matches. -/
def paths (style : PathStyle) (k : Kernel) (f : Field) : List Octets :=
  if f.isPattern style then (matching style k [] (pathParts f.chars)).mergeSort Octets.le else []

end Field

end Flowscript.Shell
