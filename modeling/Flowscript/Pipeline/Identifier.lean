import Flowscript.Text.Basic
import Flowscript.Text.Quoted

/-!
# Identifiers

Blocks and connections are told apart by numbers that their pipeline hands out.  The number of a
block is stored with it, so it stays the same when the pipeline is saved and loaded.

* `BlockId` and `ConnectionId` are the numbers.
* `PortRef` points at a port: a block, a side and a position on it.
* `Allocator` hands out numbers that are above all those it has seen.
-/

set_option autoImplicit false

namespace Flowscript

/-- The number of a block. -/
structure BlockId where
  number : Nat
  deriving DecidableEq, Repr

/-- A text that is no block number. -/
inductive IdentifierError where
  | invalid (text : String) (fault : Text.NumeralFault)
  deriving DecidableEq, Repr

/-- The wording of an error. -/
def IdentifierError.message : IdentifierError → String
  | .invalid text fault => "Invalid id " ++ Text.quoted text ++ ": " ++ fault.message

namespace BlockId

/-- The number in decimal digits. -/
def text (id : BlockId) : String := toString id.number

/-- Reads a block number. -/
def read (text : String) : Except IdentifierError BlockId :=
  match Text.readWord64 text with
  | .ok n => .ok ⟨n⟩
  | .error fault => .error (.invalid text fault)

end BlockId

/-- The number of a connection. -/
structure ConnectionId where
  number : Nat
  deriving DecidableEq, Repr

/-- The name that messages use for a connection. -/
def ConnectionId.text (id : ConnectionId) : String := "conn_" ++ toString id.number

/-- The two sides of a block: data flows in or out. -/
inductive Side where
  | input
  | output
  deriving DecidableEq, Repr

/-- Points at a port: its block, its side, and its position among the ports of that side. -/
structure PortRef where
  block : BlockId
  side : Side
  index : Nat
  deriving DecidableEq, Repr

namespace PortRef

/-- The input port of a block at a position. -/
def input (block : BlockId) (index : Nat) : PortRef := ⟨block, .input, index⟩

/-- The output port of a block at a position. -/
def output (block : BlockId) (index : Nat) : PortRef := ⟨block, .output, index⟩

/-- The text of a reference, such as `2.out1`. -/
def text (p : PortRef) : String :=
  p.block.text ++ (match p.side with | .input => ".in" | .output => ".out") ++ toString p.index

/-- Inputs come before outputs. -/
def sideRank (p : PortRef) : Nat := match p.side with | .input => 0 | .output => 1

/-- The order by block, then side, then position. -/
def le (p q : PortRef) : Bool :=
  p.block.number < q.block.number
    || (p.block.number == q.block.number
      && (p.sideRank < q.sideRank || (p.sideRank == q.sideRank && p.index ≤ q.index)))

end PortRef

/-- Hands out numbers, counting up from nought. -/
structure Allocator where
  nextBlock : Nat
  nextConnection : Nat
  deriving DecidableEq, Repr

namespace Allocator

/-- Nothing has been handed out. -/
def fresh : Allocator := ⟨0, 0⟩

/-- A block number that has not been seen. -/
def takeBlock (a : Allocator) : BlockId × Allocator :=
  (⟨a.nextBlock⟩, { a with nextBlock := a.nextBlock + 1 })

/-- A connection number that has not been seen. -/
def takeConnection (a : Allocator) : ConnectionId × Allocator :=
  (⟨a.nextConnection⟩, { a with nextConnection := a.nextConnection + 1 })

/-- Remembers a block number that is in use. -/
def observe (a : Allocator) (id : BlockId) : Allocator :=
  { a with nextBlock := max a.nextBlock (id.number + 1) }

/-- The block number that comes next. -/
def peekBlock (a : Allocator) : BlockId := ⟨a.nextBlock⟩

end Allocator

end Flowscript
