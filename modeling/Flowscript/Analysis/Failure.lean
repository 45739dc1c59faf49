import Flowscript.Pipeline.Feeders
import Flowscript.Table.Basic

/-!
# Failure reports

A module that fails for a row leaves a marker.  The report shows for every marker which modules and
sinks depend on the module and so have nothing to work on.

* `Pipeline.failureLines` is the tree below a block, in which no way goes through a block twice.
* `FailureReport.build` makes a tree for every marker that names a module and a row.
* `FailureReport.text` is the report as it is shown.
-/

set_option autoImplicit false

namespace Flowscript

/-- The marker that a block failed for a row. -/
structure FailureMarker where
  row : String
  block : BlockId
  deriving DecidableEq, Repr

namespace FailureMarker

/-- The order by row and then by number. -/
def le (a b : FailureMarker) : Bool :=
  decide (a.row < b.row) || (a.row == b.row && a.block.number ≤ b.block.number)

/-- Markers by row and then by number. -/
def sort (markers : List FailureMarker) : List FailureMarker := markers.mergeSort le

end FailureMarker

/-- What a line of a tree names: a module without output, or a file that is not made. -/
inductive FailureNode where
  | module (name : String)
  | sink (column file : String)
  deriving DecidableEq, Repr

/-- A line of a tree: how far it is from the failed module, and what it names. -/
structure FailureLine where
  depth : Nat
  node : FailureNode
  deriving DecidableEq, Repr

/-- The line as it is shown, four spaces deeper for each step. -/
def FailureLine.text (l : FailureLine) : String :=
  String.ofList (List.replicate (4 * l.depth) ' ')
    ++ (match l.node with
      | .module name => "+ " ++ name
      | .sink column file => "- " ++ column ++ ": " ++ file)

namespace Pipeline

/-- What a line names for a block.  Sources have no line. -/
def failureNode? (row : Row) (b : Block) : Option FailureNode :=
  match b.kind with
  | .source _ _ => none
  | .module definition _ _ => some (.module definition.name)
  | .sink column _ => some (.sink column ((row.resolved? column).getD "<missing>"))

/-- The tree below a block, root first, where the way to the block goes through `path`. -/
def failureLines (p : Pipeline) (row : Row) (path : List BlockId) (depth : Nat) (id : BlockId) :
    List FailureLine :=
  match h : p.block? id with
  | none => []
  | some b =>
    if hpath : id ∈ path then []
    else
      have := length_offPath_cons_lt h hpath
      match failureNode? row b with
      | none => []
      | some node =>
        ⟨depth, node⟩ :: (p.fedBy id).flatMap fun port =>
          p.failureLines row (id :: path) (depth + 1) port.block
termination_by (p.offPath path).length

end Pipeline

/-- The tree of a marker. -/
structure FailureEntry where
  row : String
  block : BlockId
  module : String
  lines : List FailureLine
  deriving DecidableEq, Repr

/-- The tree as it is shown, below a line that names row and module. -/
def FailureEntry.text (e : FailureEntry) : String :=
  "id " ++ e.row ++ " at module " ++ e.module ++ "\n"
    ++ String.join (e.lines.map fun l => l.text ++ "\n")

/-- The trees of all markers. -/
structure FailureReport where
  entries : List FailureEntry
  deriving DecidableEq, Repr

namespace FailureReport

/-- The tree of a marker that names a module and a row. -/
def entryOf? (p : Pipeline) (t : Table) (m : FailureMarker) : Option FailureEntry := do
  let definition ← (← p.block? m.block).definition?
  let row ← t.row? m.row
  some ⟨m.row, m.block, definition.name, p.failureLines row [] 0 m.block⟩

/-- The trees of markers, in their order.  Other markers are passed over. -/
def build (p : Pipeline) (t : Table) (markers : List FailureMarker) : FailureReport :=
  ⟨markers.filterMap (entryOf? p t)⟩

/-- The report as it is shown. -/
def text (r : FailureReport) : String := String.join (r.entries.map (·.text))

end FailureReport

end Flowscript
