import Flowscript.Text.Basic

/-!
# Paths

A path is its text.  Joining and making absolute work on the text alone and ask no file system.

* `join` puts a path after another one.
* `names` are the parts between the slashes that name something.
* `fileName?` and `fileStem?` are the last of them, with and without its extension.
* `absolute?` puts a path after the working directory.
* `above` are the paths of the directories on the way to a path.
-/

set_option autoImplicit false

namespace Flowscript.Path

/-- Whether a path starts at the root. -/
def isAbsolute (path : String) : Bool := path.toList.head? == some '/'

/-- Whether a path ends in a slash. -/
def endsInSlash (path : String) : Bool := path.toList.getLast? == some '/'

/-- One path after another: an absolute one stands for itself, and else there is one slash between
the two unless the first is empty or ends in one. -/
def join (base path : String) : String :=
  if isAbsolute path then path
  else if base.isEmpty || endsInSlash base then base ++ path
  else base ++ "/" ++ path

/-- The parts of a path that name something: all but the empty ones and `.`; `..` is one. -/
def names (path : String) : List String :=
  ((Text.splitAt (· == '/') path.toList).map String.ofList).filter fun s => s != "" && s != "."

/-- The last name in a path, unless that is `..`. -/
def fileName? (path : String) : Option String :=
  (names path).getLast?.filter (· != "..")

/-- A file name up to its last point; one that has no other point than a leading one is kept. -/
def stem (name : String) : String :=
  let before := (name.toList.reverse.dropWhile (· != '.')).drop 1
  if before.isEmpty then name else String.ofList before.reverse

/-- The last name in a path, without its extension. -/
def fileStem? (path : String) : Option String := (fileName? path).map stem

/-- What an absolute path starts with: one slash, or exactly two. -/
def rootOf (path : String) : String :=
  match path.toList with
  | '/' :: '/' :: '/' :: _ => "/"
  | '/' :: '/' :: _ => "//"
  | _ => "/"

/-- A path from the root, with neither empty parts nor `.` in it.  Nothing is looked up, so `..`
stays, and so does a slash at the end.  The empty path has none. -/
def absolute? (workingDirectory path : String) : Option String :=
  if path.isEmpty then none
  else
    let base := if isAbsolute path then rootOf path else workingDirectory
    let full := (names path).foldl join base
    some (if endsInSlash path && !endsInSlash full then full ++ "/" else full)

/-- The parts between the slashes of a path, without empty ones. -/
def parts (path : String) : List String :=
  ((Text.splitAt (· == '/') path.toList).map String.ofList).filter (· != "")

/-- A path without the slashes, and the parts that are `.`, at its end; but a path that starts with
`.` keeps that. -/
def trimEnd (fuel : Nat) (path : List Char) : List Char :=
  match fuel with
  | 0 => path
  | fuel + 1 =>
    match path.reverse with
    | '/' :: c :: r => trimEnd fuel (c :: r).reverse
    | '.' :: '/' :: c :: r => trimEnd fuel ('/' :: c :: r).reverse
    | _ => path

/-- The path of the directory that a path is in: the path without its last part.  The root is in
none. -/
def parent? (path : String) : Option String :=
  let cs := trimEnd (path.length + 1) path.toList
  match cs with
  | [] => none
  | ['/'] => none
  | ['/', '.'] => none
  | _ =>
    let before := (cs.reverse.dropWhile (· != '/')).reverse
    match before with
    | ['/'] => some "/"
    | _ => some (String.ofList (trimEnd (path.length + 1) before))

/-- A path and the paths of the directories on the way to it, the longest first. -/
def above (fuel : Nat) (path : String) : List String :=
  match fuel with
  | 0 => []
  | fuel + 1 =>
    match parent? path with
    | none => [path]
    | some up => path :: above fuel up

/-- A path without the slashes at its end. -/
def trimSlashes (path : String) : String :=
  String.ofList (path.toList.reverse.dropWhile (· == '/')).reverse

end Flowscript.Path
