import Flowscript.Pipeline.Block
import Flowscript.Toolbox

/-!
# Pipelines

A pipeline joins the outputs of blocks to the inputs of blocks.  A connection is allowed when the
format of the output may go where the format of the input is asked for, and when nothing else is
connected to the input.

Every edit gives its result together with the pipeline after it, also when it fails, so that what a
failed edit leaves behind can be seen.

* `Pipeline.addSource`, `Pipeline.addSink` and `Pipeline.addModule` add blocks.
* `Pipeline.connect` and `Pipeline.disconnect` make and undo connections.
* `Pipeline.delete`, `Pipeline.move` and `Pipeline.rename` are the other edits.
* `Pipeline.feeder?` and `Pipeline.fedBy` follow connections from end to end.
-/

set_option autoImplicit false

namespace Flowscript

/-- Why an edit is refused. -/
inductive EditError where
  | incompatibleFormat (output input : String)
  | portOccupied (port : PortRef)
  | unknownBlock (id : BlockId)
  | unknownPort (port : PortRef)
  | unknownConnection (id : ConnectionId)
  | duplicateBlockId (id : BlockId)
  | unknownFormat (format : String)
  | toolbox (error : ToolboxError)
  deriving DecidableEq, Repr

/-- The wording of an error. -/
def EditError.message : EditError → String
  | .incompatibleFormat output input =>
    "Format '" ++ output ++ "' is not a valid input to '" ++ input ++ "'"
  | .portOccupied port => "Input port " ++ port.text ++ " is already connected"
  | .unknownBlock id => "Block not found: " ++ id.text
  | .unknownPort port => "Port not found: " ++ port.text
  | .unknownConnection id => "Connection not found: " ++ id.text
  | .duplicateBlockId id => "Block id " ++ id.text ++ " is already in use"
  | .unknownFormat format => "Unknown format: " ++ format
  | .toolbox error => error.message

/-- A connection from an output port to an input port. -/
structure Connection where
  id : ConnectionId
  source : PortRef
  target : PortRef
  deriving DecidableEq, Repr

/-- Blocks in the order in which they were put in, connections in the order in which they were
made, and the toolbox that they refer to.  A pipeline is unsaved from its first change on until it
is marked as saved. -/
structure Pipeline where
  name : String
  toolbox : Toolbox
  ids : Allocator
  blocks : List Block
  connections : List Connection
  unsaved : Bool
  deriving DecidableEq, Repr

namespace Pipeline

/-- A pipeline without blocks. -/
def empty (name : String) (toolbox : Toolbox) : Pipeline :=
  ⟨name, toolbox, .fresh, [], [], false⟩

/-! ## Looking things up -/

/-- The block of a number. -/
def block? (p : Pipeline) (id : BlockId) : Option Block := p.blocks.find? (·.id == id)

/-- The connection of a number. -/
def connection? (p : Pipeline) (id : ConnectionId) : Option Connection :=
  p.connections.find? (·.id == id)

/-- The port that a reference points at. -/
def port (p : Pipeline) (ref : PortRef) : Except EditError Port :=
  match p.block? ref.block with
  | none => .error (.unknownBlock ref.block)
  | some b =>
    match b.port? ref.side ref.index with
    | none => .error (.unknownPort ref)
    | some port => .ok port

/-- The port that a reference points at, if there is one. -/
def port? (p : Pipeline) (ref : PortRef) : Option Port := (p.port ref).toOption

/-- The sources in the order of blocks. -/
def sources (p : Pipeline) : List Block := p.blocks.filter (·.isSource)

/-- The module blocks in the order of blocks. -/
def modules (p : Pipeline) : List Block := p.blocks.filter (·.isModule)

/-- The sinks in the order of blocks. -/
def sinks (p : Pipeline) : List Block := p.blocks.filter (·.isSink)

/-- The output port at the other end of the oldest connection of a port. -/
def feeder? (p : Pipeline) (ref : PortRef) : Option PortRef := do
  let id ← (← p.port? ref).connections.head?
  (← p.connection? id).source

/-- The input ports that the outputs of a block feed, by output and then by age. -/
def fedBy (p : Pipeline) (id : BlockId) : List PortRef :=
  match p.block? id with
  | none => []
  | some b => (b.outputs.flatMap (·.connections)).filterMap fun c =>
      (p.connection? c).map (·.target)

/-- The columns of sources and sinks, each once, in the order of blocks. -/
def boundColumns (p : Pipeline) : List String := (p.blocks.filterMap (·.column?)).eraseDups

/-! ## Adding blocks -/

/-- A format that blocks name has to be known. -/
def checkFormat (p : Pipeline) (format : String) : Except EditError Unit :=
  if p.toolbox.formats.contains format then .ok () else .error (.unknownFormat format)

/-- The first error among formats that blocks name. -/
def checkFormats (p : Pipeline) : List String → Except EditError Unit
  | [] => .ok ()
  | f :: rest =>
    match p.checkFormat f with
    | .error e => .error e
    | .ok () => p.checkFormats rest

/-- Puts a block in whose number is not in use. -/
def insert (p : Pipeline) (b : Block) : Except EditError Unit × Pipeline :=
  match p.block? b.id with
  | some _ => (.error (.duplicateBlockId b.id), p)
  | none =>
    (.ok (), { p with ids := p.ids.observe b.id, blocks := p.blocks ++ [b], unsaved := true })

/-- Puts a block in under a new number. -/
def insertNew (p : Pipeline) (make : BlockId → Block) : Except EditError BlockId × Pipeline :=
  let (id, ids) := p.ids.takeBlock
  match { p with ids }.insert (make id) with
  | (.error e, p) => (.error e, p)
  | (.ok (), p) => (.ok id, p)

/-- Adds a source. -/
def addSource (p : Pipeline) (column : String) (parameter : Parameter) (position : Position) :
    Except EditError BlockId × Pipeline :=
  match p.checkFormat parameter.format with
  | .error e => (.error e, p)
  | .ok () => p.insertNew fun id => .source id column parameter position

/-- Adds a sink. -/
def addSink (p : Pipeline) (column : String) (parameter : Parameter) (position : Position) :
    Except EditError BlockId × Pipeline :=
  match p.checkFormat parameter.format with
  | .error e => (.error e, p)
  | .ok () => p.insertNew fun id => .sink id column parameter position

/-- Adds a block that runs the module of a name. -/
def addModule (p : Pipeline) (name : String) (position : Position) :
    Except EditError BlockId × Pipeline :=
  match p.toolbox.module name with
  | .error e => (.error (.toolbox e), p)
  | .ok definition => p.insertNew fun id => .ofModule id definition position

/-- Puts a block back in under the number it has. -/
def restore (p : Pipeline) (b : Block) : Except EditError Unit × Pipeline :=
  match p.checkFormats ((b.inputs ++ b.outputs).map (·.format)) with
  | .error e => (.error e, p)
  | .ok () => p.insert b

/-! ## Connections -/

/-- Changes one block. -/
def updateBlock (p : Pipeline) (id : BlockId) (change : Block → Block) : Pipeline :=
  { p with blocks := p.blocks.map fun b => if b.id == id then change b else b }

/-- Changes the port that a reference points at, if there is one. -/
def updatePort (p : Pipeline) (ref : PortRef) (change : Port → Port) : Pipeline :=
  p.updateBlock ref.block fun b => b.updatePort ref.side ref.index change

/-- Lists a connection at a port, which has to exist. -/
def attach (p : Pipeline) (ref : PortRef) (id : ConnectionId) : Except EditError Unit × Pipeline :=
  match p.port ref with
  | .error e => (.error e, p)
  | .ok _ => (.ok (), p.updatePort ref (·.attach id))

/-- Joins two ports that are known to fit. -/
def join (p : Pipeline) (source target : PortRef) : Except EditError ConnectionId × Pipeline :=
  let (id, ids) := p.ids.takeConnection
  match { p with ids }.attach source id with
  | (.error e, p) => (.error e, p)
  | (.ok (), p) =>
    match p.attach target id with
    | (.error e, p) => (.error e, p)
    | (.ok (), p) =>
      (.ok id, { p with connections := p.connections ++ [⟨id, source, target⟩], unsaved := true })

/-- Why two ports cannot be joined, if they cannot. -/
def connectError? (p : Pipeline) (source target : PortRef) : Option EditError :=
  if source.side = .input then some (.unknownPort source)
  else if target.side = .output then some (.unknownPort target)
  else
    match p.port source, p.port target with
    | .error e, _ => some e
    | .ok _, .error e => some e
    | .ok output, .ok input =>
      if !p.toolbox.formats.accepts output.format input.format then
        some (.incompatibleFormat output.format input.format)
      else if input.isConnected then some (.portOccupied target)
      else none

/-- Joins an output port to an input port. -/
def connect (p : Pipeline) (source target : PortRef) : Except EditError ConnectionId × Pipeline :=
  match p.connectError? source target with
  | some e => (.error e, p)
  | none => p.join source target

/-- Takes a connection out of the pipeline and off both its ports. -/
def disconnect (p : Pipeline) (id : ConnectionId) : Except EditError Connection × Pipeline :=
  match p.connection? id with
  | none => (.error (.unknownConnection id), p)
  | some c =>
    let p := { p with connections := p.connections.filter (·.id != id) }
    let p := (p.updatePort c.source (·.detach id)).updatePort c.target (·.detach id)
    (.ok c, { p with unsaved := true })

/-- Takes connections out one after the other. -/
def disconnectAll (p : Pipeline) : List ConnectionId → Except EditError Unit × Pipeline
  | [] => (.ok (), p)
  | id :: rest =>
    match p.disconnect id with
    | (.error e, p) => (.error e, p)
    | (.ok _, p) => p.disconnectAll rest

/-! ## Other edits -/

/-- Takes a block out, and with it every connection at its ports.  The result is the block as it
is then. -/
def delete (p : Pipeline) (id : BlockId) : Except EditError Block × Pipeline :=
  match p.block? id with
  | none => (.error (.unknownBlock id), p)
  | some b =>
    match p.disconnectAll b.touching with
    | (.error e, p) => (.error e, p)
    | (.ok (), p) =>
      match p.block? id with
      | none => (.error (.unknownBlock id), p)
      | some b => (.ok b, { p with blocks := p.blocks.filter (·.id != id), unsaved := true })

/-- Moves a block on the canvas. -/
def move (p : Pipeline) (id : BlockId) (position : Position) : Except EditError Unit × Pipeline :=
  match p.block? id with
  | none => (.error (.unknownBlock id), p)
  | some _ => (.ok (), { p.updateBlock id ({ · with position }) with unsaved := true })

/-- Gives the pipeline another name. -/
def rename (p : Pipeline) (name : String) : Pipeline := { p with name, unsaved := true }

/-- Nothing is left to be saved. -/
def markSaved (p : Pipeline) : Pipeline := { p with unsaved := false }

end Pipeline

end Flowscript
