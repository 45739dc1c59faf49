import Flowscript.Json.Writer
import Flowscript.Pipeline.Endpoint

/-!
# Pipeline documents

A pipeline is saved as a document that lists its sources, sinks and modules by number and its
connections by age.  Loading a document makes its connections one after the other, so a loaded
pipeline obeys the rules of one that was edited by hand.

* `PipelineDocument` is a document.
* `PipelineDocument.ofPipeline` and `Pipeline.ofDocument` go from one to the other.
* `Pipeline.toJson` and `Pipeline.ofJson` go to and from the text.
-/

set_option autoImplicit false

namespace Flowscript

open Json

/-- A source or sink in a document. -/
structure TerminalEntry where
  column : String
  id : BlockId
  position : Position
  parameter : Parameter
  deriving DecidableEq, Repr

/-- A module block in a document. -/
structure ModuleEntry where
  name : String
  id : BlockId
  position : Position
  deriving DecidableEq, Repr

/-- A connection in a document: the texts of its two ends. -/
structure ConnectionEntry where
  start : String
  stop : String
  deriving DecidableEq, Repr

/-- A pipeline as it is saved. -/
structure PipelineDocument where
  name : String
  sources : List TerminalEntry
  sinks : List TerminalEntry
  modules : List ModuleEntry
  connections : List ConnectionEntry
  deriving DecidableEq, Repr

/-! ## From a pipeline and back -/

namespace PipelineDocument

/-- The blocks of a pipeline by number. -/
def sortedBlocks (p : Pipeline) : List Block :=
  p.blocks.mergeSort fun a b => a.id.number ≤ b.id.number

/-- The entry of a source. -/
def entryOfSource? (b : Block) : Option TerminalEntry :=
  match b.kind with
  | .source column output => some ⟨column, b.id, b.position, output.parameter⟩
  | _ => none

/-- The entry of a sink. -/
def entryOfSink? (b : Block) : Option TerminalEntry :=
  match b.kind with
  | .sink column input => some ⟨column, b.id, b.position, input.parameter⟩
  | _ => none

/-- The entry of a module block. -/
def entryOfModule? (b : Block) : Option ModuleEntry :=
  match b.kind with
  | .module definition _ _ => some ⟨definition.name, b.id, b.position⟩
  | _ => none

/-- The entry of a connection. -/
def entryOfConnection? (p : Pipeline) (c : Connection) : Option ConnectionEntry := do
  some ⟨← p.endpoint? c.source, ← p.endpoint? c.target⟩

/-- The document of a pipeline. -/
def ofPipeline (p : Pipeline) : PipelineDocument :=
  let blocks := sortedBlocks p
  ⟨p.name, blocks.filterMap entryOfSource?, blocks.filterMap entryOfSink?,
    blocks.filterMap entryOfModule?, p.connections.filterMap (entryOfConnection? p)⟩

end PipelineDocument

namespace Pipeline

/-- Puts blocks back in, one after the other. -/
def restoreAll (p : Pipeline) : List Block → Except DocumentError Pipeline
  | [] => .ok p
  | b :: rest =>
    match p.restore b with
    | (.error e, _) => .error (.edit e)
    | (.ok (), p) => p.restoreAll rest

/-- Puts module blocks back in, one after the other. -/
def restoreModules (p : Pipeline) : List ModuleEntry → Except DocumentError Pipeline
  | [] => .ok p
  | m :: rest =>
    match p.toolbox.module m.name with
    | .error e => .error (.edit (.toolbox e))
    | .ok definition =>
      match p.restore (.ofModule m.id definition m.position) with
      | (.error e, _) => .error (.edit e)
      | (.ok (), p) => p.restoreModules rest

/-- Makes connections, one after the other. -/
def restoreConnections (p : Pipeline) : List ConnectionEntry → Except DocumentError Pipeline
  | [] => .ok p
  | c :: rest => do
    let source ← p.resolve c.start .output
    let target ← p.resolve c.stop .input
    match p.connect source target with
    | (.error e, _) => .error (.edit e)
    | (.ok _, p) => p.restoreConnections rest

/-- The pipeline of a document, with nothing left to be saved. -/
def ofDocument (d : PipelineDocument) (toolbox : Toolbox) : Except DocumentError Pipeline := do
  let p := Pipeline.empty d.name toolbox
  let p ← p.restoreAll (d.sources.map fun s => .source s.id s.column s.parameter s.position)
  let p ← p.restoreAll (d.sinks.map fun s => .sink s.id s.column s.parameter s.position)
  let p ← p.restoreModules d.modules
  let p ← p.restoreConnections d.connections
  .ok p.markSaved

end Pipeline

/-! ## From a text and back -/

/-- Takes the number of a block out of its value. -/
def BlockId.ofValue? (v : Value) : Option BlockId := v.natural?.map (⟨·⟩)

/-- Takes a place on the canvas out of its value. -/
def Position.ofValue? (v : Value) : Option Position := do
  let fields ← v.record? ["X", "Y"]
  some ⟨← fields.required? "X" Value.binary64?, ← fields.required? "Y" Value.binary64?⟩

/-- A place on the canvas as a value. -/
def Position.value (p : Position) : Value :=
  .ofMembers [("X", .ofBinary64 p.x), ("Y", .ofBinary64 p.y)]

namespace TerminalEntry

/-- Takes a source or sink out of its value; `port` is the name of the field of its port. -/
def ofValue? (port : String) (v : Value) : Option TerminalEntry := do
  let fields ← v.record? ["dataTableField", "id", "position", port]
  let column ← fields.required? "dataTableField" Value.string?
  let id ← fields.required? "id" BlockId.ofValue?
  let position ← fields.required? "position" Position.ofValue?
  let parameter ← fields.required? port Parameter.ofValue?
  some ⟨column, id, position, parameter⟩

/-- A source or sink as a value. -/
def value (port : String) (e : TerminalEntry) : Value :=
  .ofMembers [("dataTableField", .ofString e.column), ("id", .ofNat e.id.number),
    ("position", e.position.value), (port, e.parameter.value)]

end TerminalEntry

namespace ModuleEntry

/-- Takes a module block out of its value. -/
def ofValue? (v : Value) : Option ModuleEntry := do
  let fields ← v.record? ["moduleName", "id", "position"]
  let name ← fields.required? "moduleName" Value.string?
  let id ← fields.required? "id" BlockId.ofValue?
  let position ← fields.required? "position" Position.ofValue?
  some ⟨name, id, position⟩

/-- A module block as a value. -/
def value (e : ModuleEntry) : Value :=
  .ofMembers [("moduleName", .ofString e.name), ("id", .ofNat e.id.number),
    ("position", e.position.value)]

end ModuleEntry

namespace ConnectionEntry

/-- Takes a connection out of its value. -/
def ofValue? (v : Value) : Option ConnectionEntry := do
  let fields ← v.record? ["start", "stop"]
  some ⟨← fields.required? "start" Value.string?, ← fields.required? "stop" Value.string?⟩

/-- A connection as a value. -/
def value (e : ConnectionEntry) : Value :=
  .ofMembers [("start", .ofString e.start), ("stop", .ofString e.stop)]

end ConnectionEntry

namespace PipelineDocument

/-- Takes a document out of its value. -/
def ofValue? (v : Value) : Option PipelineDocument := do
  let fields ← v.record? ["workflowName", "sources", "sinks", "modules", "connections"]
  let name ← fields.required? "workflowName" Value.string?
  let sources ← fields.withDefault? "sources" [] (Value.list? (TerminalEntry.ofValue? "output"))
  let sinks ← fields.withDefault? "sinks" [] (Value.list? (TerminalEntry.ofValue? "input"))
  let modules ← fields.withDefault? "modules" [] (Value.list? ModuleEntry.ofValue?)
  let connections ← fields.withDefault? "connections" [] (Value.list? ConnectionEntry.ofValue?)
  some ⟨name, sources, sinks, modules, connections⟩

/-- A document as a value. -/
def value (d : PipelineDocument) : Value :=
  .ofMembers [("workflowName", .ofString d.name),
    ("sources", .array (d.sources.map (·.value "output"))),
    ("sinks", .array (d.sinks.map (·.value "input"))),
    ("modules", .array (d.modules.map (·.value))),
    ("connections", .array (d.connections.map (·.value)))]

/-- Reads the text of a document. -/
def ofJson (text : String) : Except DocumentError PipelineDocument :=
  match (Json.read? text).bind ofValue? with
  | some d => .ok d
  | none => .error .malformed

/-- The text of a document. -/
def toJson (d : PipelineDocument) : String := d.value.pretty

end PipelineDocument

namespace Pipeline

/-- The text of the document of a pipeline. -/
def toJson (p : Pipeline) : String := (PipelineDocument.ofPipeline p).toJson

/-- The pipeline of the text of a document. -/
def ofJson (text : String) (toolbox : Toolbox) : Except DocumentError Pipeline := do
  Pipeline.ofDocument (← PipelineDocument.ofJson text) toolbox

end Pipeline

end Flowscript
