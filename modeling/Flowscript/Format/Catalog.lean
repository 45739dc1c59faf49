import Flowscript.Instances

/-!
# File formats

Formats form a forest: a format may extend one other, its parent.  A file of one format may go
where another is asked for when the other is the format itself or one of its ancestors.  The format
`arg` stands for a piece of text instead of a file; every catalog has it, and no definition may
take its name.

* `Format` is one definition.
* `FormatCatalog.ofDefinitions` checks a list of definitions and gathers them.
* `FormatCatalog.ancestry` is a format with its ancestors.
* `FormatCatalog.accepts` is the relation between what is at hand and what is asked for.
-/

set_option autoImplicit false

namespace Flowscript

/-- A colour for display. -/
structure Colour where
  red : Nat
  green : Nat
  blue : Nat
  deriving DecidableEq, Repr

/-- The colour of formats that name none. -/
def Colour.grey : Colour := ⟨80, 80, 80⟩

/-- The name of the format for text in place of a file. -/
def argFormat : String := "arg"

/-- A file format: its name, the suffix of its files, the format it extends, and its colour. -/
structure Format where
  name : String
  suffix : String
  parent : Option String
  colour : Colour
  deriving DecidableEq, Repr

namespace Format

/-- A suffix is empty or starts with a point. -/
def normalizeSuffix (suffix : String) : String :=
  if suffix.isEmpty || suffix.toList.head? == some '.' then suffix else "." ++ suffix

/-- A format whose suffix is written with or without its point. -/
def define (name suffix : String) (parent : Option String) (colour : Colour) : Format :=
  ⟨name, normalizeSuffix suffix, parent, colour⟩

/-- Whether the format stands for text in place of a file. -/
def isArg (f : Format) : Bool := f.name == argFormat

/-- The format for text in place of a file. -/
def arg : Format := define argFormat "" none .grey

end Format

/-- What is wrong with a catalog of formats. -/
inductive FormatError where
  /-- The text does not have the shape of a catalog. -/
  | unreadable
  /-- An entry of the text defines another number of formats than one. -/
  | entryNames (found : Nat)
  | reserved
  | duplicate (name : String)
  | undefinedParent (name parent : String)
  /-- The chain goes once round the cycle, its first name again at the end. -/
  | cycle (chain : List String)
  deriving DecidableEq, Repr

/-- The wording of an error. -/
def FormatError.message : FormatError → String
  | .unreadable => "Malformed format catalog"
  | .entryNames found =>
    "Malformed format catalog: each format entry must have exactly one name, found "
      ++ toString found
  | .reserved => "Format name '" ++ argFormat ++ "' is reserved"
  | .duplicate name => "Duplicate format definition: " ++ name
  | .undefinedParent name parent =>
    "Invalid format definition '" ++ name ++ "': parent format '" ++ parent ++ "' is not defined"
  | .cycle chain => "Format inheritance cycle: " ++ String.intercalate " -> " chain

/-- The formats that are known, in the order of their definition. -/
structure FormatCatalog where
  formats : List Format
  deriving DecidableEq, Repr

namespace FormatCatalog

/-- The catalog that knows no format but `arg`. -/
def basic : FormatCatalog := ⟨[.arg]⟩

/-- The format of a name. -/
def get? (c : FormatCatalog) (name : String) : Option Format :=
  c.formats.find? (·.name == name)

/-- Whether a name is known. -/
def contains (c : FormatCatalog) (name : String) : Bool := c.formats.any (·.name == name)

/-- The parent of the format of a name. -/
def parent? (c : FormatCatalog) (name : String) : Option String := (c.get? name).bind (·.parent)

/-- The suffix of the files of a format, empty if the name is not known. -/
def suffix (c : FormatCatalog) (name : String) : String :=
  ((c.get? name).map (·.suffix)).getD ""

/-- A name and the names reached from it through parents, `steps` names at most. -/
def lineage (c : FormatCatalog) : Nat → String → List String
  | 0, _ => []
  | steps + 1, name =>
    name :: (match c.parent? name with
      | none => []
      | some parent => c.lineage steps parent)

/-- The format itself and its ancestors, nearest first.  Without a cycle no chain is longer than
the number of formats, but for a name that is not known. -/
def ancestry (c : FormatCatalog) (name : String) : List String :=
  c.lineage (c.formats.length + 1) name

/-- Whether a file of format `source` may go where `target` is asked for. -/
def accepts (c : FormatCatalog) (source target : String) : Bool :=
  (c.ancestry source).contains target

/-- The part of a list from the first entry that comes again up to where it does.  The list starts
with `passed`, last one first. -/
def loopIn (passed : List String) : List String → Option (List String)
  | [] => none
  | name :: rest =>
    if passed.contains name then some (passed.reverse.dropWhile (· != name) ++ [name])
    else loopIn (name :: passed) rest

/-- A cycle among the ancestors of a name. -/
def cycleFrom? (c : FormatCatalog) (name : String) : Option (List String) :=
  loopIn [] (c.ancestry name)

/-- Checks the names of definitions, given the names that come before them. -/
def checkNames (passed : List String) : List Format → Except FormatError Unit
  | [] => .ok ()
  | f :: rest =>
    if f.isArg then .error .reserved
    else if passed.contains f.name then .error (.duplicate f.name)
    else checkNames (f.name :: passed) rest

/-- The first error in the parents of a catalog: a parent that is not defined, or else a cycle. -/
def parentError? (c : FormatCatalog) : Option FormatError :=
  let undefined := c.formats.findSome? fun f =>
    match f.parent with
    | some parent => if c.contains parent then none else some (.undefinedParent f.name parent)
    | none => none
  match undefined with
  | some error => some error
  | none => (c.formats.findSome? fun f => c.cycleFrom? f.name).map .cycle

/-- The catalog of a list of definitions, followed by `arg`.  Parents may come in any order. -/
def ofDefinitions (definitions : List Format) : Except FormatError FormatCatalog := do
  checkNames [] definitions
  let catalog : FormatCatalog := ⟨definitions ++ [.arg]⟩
  match catalog.parentError? with
  | some error => .error error
  | none => .ok catalog

end FormatCatalog

end Flowscript
