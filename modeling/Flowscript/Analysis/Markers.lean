import Flowscript.Analysis.Failure
import Flowscript.Analysis.Inputs
import Flowscript.Host.Basic
import Flowscript.Script.Layout

/-!
# The markers of an output root

A module that fails for a row leaves a directory below `errors`: the row's, and in it one with the
number of the module's block.

* `FailureMarker.scan` finds all markers, unless a directory that is there cannot be read.
* `FailureReport.ofOutputRoot` reports on them.
-/

set_option autoImplicit false

namespace Flowscript

namespace FailureMarker

/-- The marker that a name in the directory of a row stands for. -/
def ofName? (row name : String) : Option FailureMarker :=
  match BlockId.read name with
  | .ok block => some ⟨row, block⟩
  | .error _ => none

/-- The names in a directory of markers, which has to be read if it is there. -/
def namesIn (h : Host) (directory : String) : Except AnalysisError (List String) :=
  (h.namesIn directory).mapError fun _ => .inaccessible directory

/-- The markers of a row.  What is not named like a block is none. -/
def scanRow (h : Host) (errors row : String) : Except AnalysisError (List FailureMarker) :=
  (namesIn h (Path.join errors row)).map (·.filterMap (ofName? row))

/-- The markers below an output root, by row and then by number. -/
def scan (h : Host) (outputRoot : String) : Except AnalysisError (List FailureMarker) := do
  let errors := Path.join outputRoot Layout.errorsDirectory
  let rows ← namesIn h errors
  let markers ← rows.mapM (scanRow h errors)
  .ok (sort markers.flatten)

end FailureMarker

/-- The report on all markers below an output root. -/
def FailureReport.ofOutputRoot (p : Pipeline) (t : Table) (h : Host) (outputRoot : String) :
    Except AnalysisError FailureReport :=
  (FailureMarker.scan h outputRoot).map (build p t)

end Flowscript
