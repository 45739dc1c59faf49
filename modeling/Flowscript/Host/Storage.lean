import Flowscript.Host.Basic
import Flowscript.Pipeline.Document
import Flowscript.Script.Compile

/-!
# What is kept in files

* `Toolbox.load` loads a toolbox from its directory.
* `Pipeline.load`, `Pipeline.save` and `Table.load` go from and to files.
* `BuildScript.write` puts a script into its output root.
-/

set_option autoImplicit false

namespace Flowscript

namespace Toolbox

/-- The name of a toolbox in a directory: the directory's, or the whole path if that names none. -/
def nameOf (directory : String) : String := (Path.fileName? directory).getD directory

/-- The files in a directory that hold modules: all that are not backups, by name. -/
def moduleFiles (h : Host) (directory : String) : Except ToolboxError (List String) := do
  let names ← (h.namesIn directory).mapError fun _ => .unreadable directory
  .ok ((names.filter fun name => !name.endsWith "~").map (Path.join directory)
    |>.filter h.isFile)

/-- Adds the module in a file. -/
def loadModule (h : Host) (t : Toolbox) (path : String) : Except ToolboxError Toolbox :=
  match h.readText? path with
  | none => .error (.unreadable path)
  | some text => do t.register (← moduleOfText text path)

/-- Loads the toolbox in a directory.  Its description and its modules need not be there. -/
def load (h : Host) (directory : String) : Except ToolboxError Toolbox :=
  let configuration := Path.join directory "config"
  let formatsPath := Path.join configuration "formats.json"
  match h.readText? formatsPath with
  | none => .error (.unreadable formatsPath)
  | some text => do
    let formats ← (FormatCatalog.read text).mapError .catalog
    let about := h.readText? (Path.join configuration "ABOUT.txt")
    let bare : Toolbox := ⟨nameOf directory, some directory, formats, [], about⟩
    (← moduleFiles h (Path.join directory "modules")).foldlM (loadModule h) bare

end Toolbox

namespace Pipeline

/-- Loads a pipeline whose modules are those of a toolbox. -/
def load (h : Host) (path : String) (toolbox : Toolbox) : Except DocumentError Pipeline :=
  match h.readText? path with
  | none => .error (.inaccessible path)
  | some text => ofJson text toolbox

/-- Writes a pipeline to a file, after which it has no unsaved change. -/
def save (p : Pipeline) (h : Host) (path : String) : Except DocumentError (Pipeline × Host) :=
  match h.write? path p.toJson with
  | none => .error (.inaccessible path)
  | some h => .ok (p.markSaved, h)

end Pipeline

/-- Loads a table. -/
def Table.load (h : Host) (path : String) : Except TableError Table :=
  match h.readText? path with
  | none => .error (.unreadable path)
  | some text => parse text

/-- Writes a script into its output root, which is made if it is not there. -/
def BuildScript.write (s : BuildScript) (h : Host) : Except CompileError Unit × Host :=
  match h.makeDirectories s.outputRoot with
  | (false, h) => (.error (.inaccessible s.outputRoot), h)
  | (true, h) =>
    match h.write? s.path s.text with
    | none => (.error (.inaccessible s.path), h)
    | some h => (.ok (), h)

end Flowscript
