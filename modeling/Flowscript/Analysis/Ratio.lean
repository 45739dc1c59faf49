import Flowscript.Binary64.Basic
import Flowscript.Text.Basic
import Flowscript.Text.Quoted

/-!
# Ratios

Two targets of a build script print how many files there are and how many there should be, as in
`3 / 5`.

* `Ratio` holds the two counts.
* `Ratio.read?` reads a line, and `RatioReading.ofOutput` the last line of an output that is not
  blank.
* `ProgressSnapshot` holds one reading of either target.
-/

set_option autoImplicit false

namespace Flowscript

/-- How many files exist, of how many. -/
structure Ratio where
  produced : Nat
  expected : Nat
  deriving DecidableEq, Repr

namespace Ratio

/-- Reads two counts with a slash between them, each a word of its own. -/
def read? (line : List Char) : Option Ratio :=
  match Text.words line with
  | [produced, ['/'], expected] =>
    match Text.readWord64 (String.ofList produced), Text.readWord64 (String.ofList expected) with
    | .ok produced, .ok expected => some ⟨produced, expected⟩
    | _, _ => none
  | _ => none

/-- Whether all expected files exist. -/
def isComplete (r : Ratio) : Bool := r.produced == r.expected

/-- The share of files that exist, at most one; it is one when none are expected. -/
def fraction (r : Ratio) : Binary64 :=
  let one := (Binary64.nearest? false 1 1).getD default
  if r.expected = 0 then one
  else
    let count (n : Nat) := (Binary64.nearest? false n 1).getD default
    (Binary64.div? (count (min r.produced r.expected)) (count r.expected)).getD default

/-- The ratio as it is printed. -/
def text (r : Ratio) : String := toString r.produced ++ " / " ++ toString r.expected

end Ratio

/-- Why a ratio is not known. -/
inductive ReadingFault where
  | notPolled
  | unparsable (line : String)
  | timedOut
  | notStarted (program : String)
  | exitCode (code : Int)
  deriving DecidableEq, Repr

/-- The wording of a fault. -/
def ReadingFault.message : ReadingFault → String
  | .notPolled => "not polled yet"
  | .unparsable line => "unparsable ratio " ++ Text.quoted line
  | .timedOut => "timed out"
  | .notStarted program => "failed to start " ++ program
  | .exitCode code => "exit code " ++ toString code

/-- What a query for a ratio found. -/
inductive RatioReading where
  | known (ratio : Ratio)
  | unknown (fault : ReadingFault)
  deriving DecidableEq, Repr

namespace RatioReading

/-- The last line that is not blank, or the empty line. -/
def lastLine (output : List Char) : List Char :=
  ((Text.lines output).reverse.find? fun line => !Text.isAllBlank line).getD []

/-- Reads the last line of an output that is not blank, whatever stands before it. -/
def ofOutput (output : String) : RatioReading :=
  let line := lastLine output.toList
  match Ratio.read? line with
  | some ratio => .known ratio
  | none => .unknown (.unparsable (String.ofList (Text.trimChars line)))

/-- The ratio if it is known. -/
def ratio? : RatioReading → Option Ratio
  | .known ratio => some ratio
  | .unknown _ => none

/-- Whether the ratio is known and complete. -/
def isComplete (r : RatioReading) : Bool := r.ratio?.any (·.isComplete)

/-- The ratio as it is shown. -/
def text : RatioReading → String
  | .known ratio => ratio.text
  | .unknown _ => "unknown"

end RatioReading

/-- One reading of each target, and how many polls there have been. -/
structure ProgressSnapshot where
  target : RatioReading
  intermediate : RatioReading
  polls : Nat
  deriving DecidableEq, Repr

namespace ProgressSnapshot

/-- Nothing has been read. -/
def initial : ProgressSnapshot := ⟨.unknown .notPolled, .unknown .notPolled, 0⟩

/-- Whether both ratios are known and complete. -/
def isComplete (s : ProgressSnapshot) : Bool := s.target.isComplete && s.intermediate.isComplete

/-- The share of all files that exist. -/
def fraction? (s : ProgressSnapshot) : Option Binary64 := s.intermediate.ratio?.map (·.fraction)

end ProgressSnapshot

end Flowscript
