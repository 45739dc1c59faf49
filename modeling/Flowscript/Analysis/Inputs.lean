import Flowscript.Analysis.Settings
import Flowscript.Host.Storage
import Flowscript.Json.Value
import Flowscript.Json.Reader
import Flowscript.Json.Writer
import Flowscript.Path
import Flowscript.Pipeline.Basic
import Flowscript.Table.Basic

/-!
# What an analysis is made from

The descriptor that names the inputs, the inputs, and the columns that have to be there.

* `AnalysisDescriptor` is a descriptor.
* `AnalysisDescriptor.read?` and `AnalysisDescriptor.toJson` go from and to text.
* `BindingReport.check` lists the columns that are missing and those that are not used.
* `AnalysisError` is what can go wrong with an analysis.
* `RunSettings.load` and `AnalysisDescriptor.load` read settings and descriptors from files.
* `AnalysisDescriptor.loadInputs` loads the toolbox, the pipeline and the table of a descriptor.
-/

set_option autoImplicit false

namespace Flowscript

open Json

/-! ## Descriptors

A descriptor tells where the inputs of an analysis lie, so that it can be looked at again later. -/

/-- The toolbox directory, the name of the analysis, the pipeline document and the table. -/
structure AnalysisDescriptor where
  toolbox : String
  analysis : String
  pipeline : String
  tablePath : String
  deriving DecidableEq, Repr

namespace AnalysisDescriptor

/-- The name of a descriptor in an output root. -/
def fileName : String := "analysis.json"

/-- The output root of an analysis that names none. -/
def defaultOutputRoot (d : AnalysisDescriptor) : String :=
  Path.join (Path.join d.toolbox "data") d.analysis

/-- Takes a descriptor out of its value. -/
def ofValue? (v : Value) : Option AnalysisDescriptor := do
  let fields ← v.record? ["toolbox", "analysis", "pipeline", "tablePath"]
  let toolbox ← fields.required? "toolbox" Value.string?
  let analysis ← fields.required? "analysis" Value.string?
  let pipeline ← fields.required? "pipeline" Value.string?
  let tablePath ← fields.required? "tablePath" Value.string?
  some ⟨toolbox, analysis, pipeline, tablePath⟩

/-- Reads a descriptor. -/
def read? (text : String) : Option AnalysisDescriptor := (Json.read? text).bind ofValue?

/-- The descriptor as text. -/
def toJson (d : AnalysisDescriptor) : String :=
  (Value.ofMembers [("toolbox", .ofString d.toolbox), ("analysis", .ofString d.analysis),
    ("pipeline", .ofString d.pipeline), ("tablePath", .ofString d.tablePath)]).pretty

end AnalysisDescriptor

/-! ## Binding a pipeline to a table

Sources and sinks name columns of the table. -/

/-- Columns that a pipeline names and the table does not have, and data columns of the table that
the pipeline does not name. -/
structure BindingReport where
  missing : List String
  unused : List String
  deriving DecidableEq, Repr

namespace BindingReport

/-- Compares the columns of a pipeline with those of a table. -/
def check (p : Pipeline) (t : Table) : BindingReport :=
  let bound := p.boundColumns
  ⟨bound.filter fun c => !t.hasColumn c, t.dataColumns.filter fun c => !bound.contains c⟩

/-- Whether the table has every column that is named. -/
def isOk (r : BindingReport) : Bool := r.missing.isEmpty

end BindingReport

/-! ## The inputs of an analysis -/

/-- What can go wrong with an analysis. -/
inductive AnalysisError where
  | alreadyRunning
  /-- A program cannot be started. -/
  | notStarted (program : String)
  /-- A file or directory cannot be read or written. -/
  | inaccessible (path : String)
  | missingColumns (columns : List String)
  | script (error : CompileError)
  | toolbox (error : ToolboxError)
  | document (error : DocumentError)
  | table (error : TableError)
  /-- A file does not hold settings or a descriptor. -/
  | malformed (path : String)
  deriving DecidableEq, Repr

/-- The wording of an error. -/
def AnalysisError.message : AnalysisError → String
  | .alreadyRunning => "Analysis is already running"
  | .notStarted program => "Failed to start " ++ program
  | .inaccessible path => "I/O error on " ++ path
  | .missingColumns columns =>
    "Table is missing bound columns: " ++ String.intercalate ", " columns
  | .script error => error.message
  | .toolbox error => error.message
  | .document error => error.message
  | .table error => error.message
  | .malformed path => "Malformed " ++ path

/-- Loads settings from a file. -/
def RunSettings.load (h : Host) (path : String) : Except AnalysisError RunSettings :=
  match h.readText? path with
  | none => .error (.inaccessible path)
  | some text =>
    match read? text with
    | none => .error (.malformed path)
    | some settings => .ok settings

/-- The toolbox, the pipeline and the table of an analysis. -/
structure AnalysisInputs where
  toolbox : Toolbox
  pipeline : Pipeline
  table : Table

namespace AnalysisDescriptor

/-- Loads a descriptor from its file, or from the output root that the file is in. -/
def load (h : Host) (path : String) : Except AnalysisError AnalysisDescriptor :=
  let file := if h.isDirectory path then Path.join path fileName else path
  match h.readText? file with
  | none => .error (.inaccessible file)
  | some text =>
    match read? text with
    | none => .error (.malformed file)
    | some descriptor => .ok descriptor

/-- Writes a descriptor into a directory, which is made if it is not there, and gives its path. -/
def save (d : AnalysisDescriptor) (h : Host) (directory : String) :
    Except AnalysisError String × Host :=
  match h.makeDirectories directory with
  | (false, h) => (.error (.inaccessible directory), h)
  | (true, h) =>
    let path := Path.join directory fileName
    match h.write? path d.toJson with
    | none => (.error (.inaccessible path), h)
    | some h => (.ok path, h)

/-- Loads what a descriptor names. -/
def loadInputs (d : AnalysisDescriptor) (h : Host) : Except AnalysisError AnalysisInputs := do
  let toolbox ← (Toolbox.load h d.toolbox).mapError .toolbox
  let pipeline ← (Pipeline.load h d.pipeline toolbox).mapError .document
  let table ← (Table.load h d.tablePath).mapError .table
  .ok ⟨toolbox, pipeline, table⟩

end AnalysisDescriptor

end Flowscript
