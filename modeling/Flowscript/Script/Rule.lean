import Flowscript.Json.Value
import Flowscript.Json.Reader
import Flowscript.Json.Writer
import Flowscript.Script.Layout

/-!
# Options and rules of a build script

What holds for a whole script, and its rules.

* `ScriptOptions` says which shell runs the recipes and whether a failed recipe stops the build.
* `ScriptOptions.read?` and `ScriptOptions.toJson` go from and to text.
* `Rule` is one rule: the directory of a row, the copy of a result into a sink's file, or the
  command of a module for a row.
* `Rule.targets`, `Rule.prerequisites` and `Rule.orderOnly` are what its header says.
* `Rule.text` is the rule as it is written.
-/

set_option autoImplicit false

namespace Flowscript

open Json

/-! ## Options of a build script -/

/-- Options of a build script.  With `keepGoing` a failed recipe leaves its marker and lets the
rule succeed. -/
structure ScriptOptions where
  keepGoing : Bool
  shell : String
  deriving DecidableEq, Repr

namespace ScriptOptions

/-- A failed recipe stops the build, and `/bin/bash` runs the recipes. -/
def standard : ScriptOptions := ⟨false, "/bin/bash"⟩

/-- Takes options out of their value; those not given are standard. -/
def ofValue? (v : Value) : Option ScriptOptions := do
  let fields ← v.record? ["keep_going", "shell"]
  let keepGoing ← fields.withDefault? "keep_going" standard.keepGoing Value.bool?
  let shell ← fields.withDefault? "shell" standard.shell Value.string?
  some ⟨keepGoing, shell⟩

/-- Reads options. -/
def read? (text : String) : Option ScriptOptions := (Json.read? text).bind ofValue?

/-- The options as text on one line. -/
def toJson (o : ScriptOptions) : String :=
  (Value.ofMembers [("keep_going", .bool o.keepGoing), ("shell", .ofString o.shell)]).compact

end ScriptOptions

/-! ## Rules of a build script -/

/-- A rule of a build script. -/
inductive Rule where
  /-- Makes the directory of a row. -/
  | directory (row : String)
  /-- Copies a result to the file that a sink names. -/
  | copy (target prerequisite : String)
  /-- Runs the command of a module block for a row. -/
  | run (row : String) (block : BlockId) (name : String) (targets prerequisites : List String)
      (command : String)
  deriving DecidableEq, Repr

namespace Rule

/-- The files that the rule makes. -/
def targets : Rule → List String
  | .directory row => [Layout.rowDirectory row]
  | .copy target _ => [target]
  | .run _ _ _ targets _ _ => targets

/-- The files that the rule needs and that make it run again when they change. -/
def prerequisites : Rule → List String
  | .directory _ => []
  | .copy _ prerequisite => [prerequisite]
  | .run _ _ _ _ prerequisites _ => prerequisites

/-- What has to exist before the rule runs, however old it is. -/
def orderOnly : Rule → List String
  | .directory _ => []
  | .copy _ _ => []
  | .run row _ _ _ _ _ => [Layout.rowDirectory row]

/-- Whether all targets are made by one run of the recipe. -/
def isGrouped (r : Rule) : Bool := 1 < r.targets.length

/-- Words with one space between each two. -/
def spaced (words : List String) : String := String.intercalate " " words

/-- The line that names targets and prerequisites. -/
def header : Rule → String
  | .directory row => Layout.rowDirectory row ++ ":"
  | .copy target prerequisite => target ++ ": " ++ prerequisite
  | .run row _ _ targets prerequisites _ =>
    spaced targets ++ (if 1 < targets.length then " &: " else ": ") ++ spaced prerequisites
      ++ " | " ++ Layout.rowDirectory row

/-- The command of a module, and what happens when it fails: its marker is made, and the build
stops unless it keeps going. -/
def catching (keepGoing : Bool) (row : String) (block : BlockId) (command : String) : String :=
  if keepGoing then "(" ++ command ++ ") || mkdir -p " ++ Layout.marker row block
  else "(" ++ command ++ ") || \x7b mkdir -p " ++ Layout.marker row block ++ "; exit 1; \x7d"

/-- The command that copies a result.  A build that keeps going may have nothing to copy. -/
def copying (keepGoing : Bool) : String :=
  if keepGoing then "test ! -e $< || cp $< $@" else "cp $< $@"

/-- The lines of the recipe. -/
def recipe (keepGoing : Bool) : Rule → List String
  | .directory _ => ["mkdir -p $@"]
  | .copy _ _ => ["mkdir -p $(@D)", copying keepGoing]
  | .run row block _ _ _ command => [catching keepGoing row block command]

/-- The comment above the rule, if it has one. -/
def comment? : Rule → Option String
  | .directory row => some ("row " ++ row)
  | .copy _ _ => none
  | .run _ block name _ _ _ => some (name ++ " (block " ++ block.text ++ ")")

/-- The rule as it is written, with an empty line after it. -/
def text (keepGoing : Bool) (r : Rule) : String :=
  (match r.comment? with
    | some comment => "# " ++ comment ++ "\n"
    | none => "")
    ++ r.header ++ "\n"
    ++ String.join ((r.recipe keepGoing).map fun line => "\t" ++ line ++ "\n")
    ++ "\n"

end Rule

end Flowscript
