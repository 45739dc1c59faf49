import Flowscript.Binary64.Basic
import Flowscript.Module.Definition
import Flowscript.Pipeline.Identifier

/-!
# Blocks

A pipeline is made of blocks.  A source reads a column of the table, a module runs a command, and a
sink names the file that receives a result.  Blocks are joined at their ports.

* `Port` is a declared parameter together with the connections made at it.
* `Block` is a number, a place on the canvas, and one of the three kinds.
* `Block.ports` and `Block.port?` find the ports of a side.
* `Block.updatePort` changes one port.
-/

set_option autoImplicit false

namespace Flowscript

/-- A place on the canvas. -/
structure Position where
  x : Binary64
  y : Binary64
  deriving DecidableEq, Repr

/-- A port: its declaration, its position among the ports of its side, and its connections with
the oldest first. -/
structure Port where
  parameter : Parameter
  index : Nat
  connections : List ConnectionId
  deriving DecidableEq, Repr

namespace Port

/-- The port of a declaration, not connected. -/
def declare (parameter : Parameter) (index : Nat) : Port := ⟨parameter, index, []⟩

/-- The ports of declarations, numbered in order. -/
def declareAll (parameters : List Parameter) : List Port :=
  parameters.zipIdx.map fun (p, i) => declare p i

/-- The name of the port's format. -/
def format (p : Port) : String := p.parameter.format

/-- Whether anything is connected. -/
def isConnected (p : Port) : Bool := !p.connections.isEmpty

/-- One connection more, the youngest. -/
def attach (p : Port) (id : ConnectionId) : Port := { p with connections := p.connections ++ [id] }

/-- The connection taken off. -/
def detach (p : Port) (id : ConnectionId) : Port :=
  { p with connections := p.connections.filter (· != id) }

end Port

/-- The three kinds of blocks with their ports. -/
inductive BlockKind where
  | source (column : String) (output : Port)
  | module (definition : ModuleDef) (inputs outputs : List Port)
  | sink (column : String) (input : Port)
  deriving DecidableEq, Repr

/-- A block of a pipeline. -/
structure Block where
  id : BlockId
  position : Position
  kind : BlockKind
  deriving DecidableEq, Repr

namespace Block

/-- A source that reads a column. -/
def source (id : BlockId) (column : String) (parameter : Parameter) (position : Position) :
    Block :=
  ⟨id, position, .source column (.declare parameter 0)⟩

/-- A sink that writes the files named by a column. -/
def sink (id : BlockId) (column : String) (parameter : Parameter) (position : Position) : Block :=
  ⟨id, position, .sink column (.declare parameter 0)⟩

/-- A block that runs a module. -/
def ofModule (id : BlockId) (definition : ModuleDef) (position : Position) : Block :=
  ⟨id, position,
    .module definition (Port.declareAll definition.inputs) (Port.declareAll definition.outputs)⟩

/-- The input ports. -/
def inputs (b : Block) : List Port :=
  match b.kind with
  | .source _ _ => []
  | .module _ inputs _ => inputs
  | .sink _ input => [input]

/-- The output ports. -/
def outputs (b : Block) : List Port :=
  match b.kind with
  | .source _ output => [output]
  | .module _ _ outputs => outputs
  | .sink _ _ => []

/-- The ports of a side. -/
def ports (b : Block) : Side → List Port
  | .input => b.inputs
  | .output => b.outputs

/-- The port at a position of a side. -/
def port? (b : Block) (side : Side) (index : Nat) : Option Port := (b.ports side)[index]?

/-- The block with one of its ports changed. -/
def updatePort (b : Block) (side : Side) (index : Nat) (change : Port → Port) : Block :=
  match b.kind, side with
  | .source column output, .output =>
    if index = 0 then { b with kind := .source column (change output) } else b
  | .module definition inputs outputs, .input =>
    { b with kind := .module definition (inputs.modify index change) outputs }
  | .module definition inputs outputs, .output =>
    { b with kind := .module definition inputs (outputs.modify index change) }
  | .sink column input, .input =>
    if index = 0 then { b with kind := .sink column (change input) } else b
  | .source _ _, .input => b
  | .sink _ _, .output => b

/-- The column of a source or sink. -/
def column? (b : Block) : Option String :=
  match b.kind with
  | .source column _ => some column
  | .module _ _ _ => none
  | .sink column _ => some column

/-- The definition that a module block runs. -/
def definition? (b : Block) : Option ModuleDef :=
  match b.kind with
  | .module definition _ _ => some definition
  | _ => none

/-- The name of the module, or else the column. -/
def label (b : Block) : String :=
  match b.kind with
  | .source column _ => column
  | .module definition _ _ => definition.name
  | .sink column _ => column

/-- Whether the block is a source. -/
def isSource (b : Block) : Bool := b.kind matches .source ..

/-- Whether the block runs a module. -/
def isModule (b : Block) : Bool := b.kind matches .module ..

/-- Whether the block is a sink. -/
def isSink (b : Block) : Bool := b.kind matches .sink ..

/-- The connections at any of the ports, each once: those of the inputs come first. -/
def touching (b : Block) : List ConnectionId :=
  ((b.inputs ++ b.outputs).flatMap (·.connections)).eraseDups

end Block

end Flowscript
