import Flowscript.Pipeline.Basic

/-!
# Walking against the connections

The modules that a result depends on are found by going against the connections.  The walk enters a
module before the modules that feed it, goes through its inputs in order, and enters no module
twice.  Coming back to a module that it has not left yet, it reports a loop.

* `Pipeline.feeders` are the blocks connected to the inputs of a block.
* `Pipeline.walk` is the walk from a block, given the modules on the way to it and those entered
  before.
-/

set_option autoImplicit false

namespace Flowscript

/-- A step of a walk: a module entered for the first time, or one that the way to it goes through
already. -/
inductive Visit where
  | enter (id : BlockId)
  | loop (id : BlockId)
  deriving DecidableEq, Repr

namespace Pipeline

/-- The blocks that feed the inputs of a block, by input, with repeats. -/
def feeders (p : Pipeline) (b : Block) : List BlockId :=
  b.inputs.filterMap fun port => (p.feeder? (.input b.id port.index)).map (·.block)

/-- The blocks that a way does not go through. -/
def offPath (p : Pipeline) (path : List BlockId) : List Block :=
  p.blocks.filter fun b => !path.contains b.id

theorem mem_blocks_of_block? {p : Pipeline} {id : BlockId} {b : Block}
    (h : p.block? id = some b) : b ∈ p.blocks ∧ b.id = id := by
  refine ⟨List.mem_of_find?_eq_some h, ?_⟩
  simpa using List.find?_some h

theorem length_filter_lt {α : Type} {f g : α → Bool} {l : List α} {a : α}
    (hsub : ∀ x, f x = true → g x = true) (ha : a ∈ l) (hf : f a = false) (hg : g a = true) :
    (l.filter f).length < (l.filter g).length := by
  induction l with
  | nil => simp at ha
  | cons x l ih =>
    have hle : (l.filter f).length ≤ (l.filter g).length := by
      rw [← List.countP_eq_length_filter, ← List.countP_eq_length_filter]
      exact List.countP_mono_left fun x _ => hsub x
    rcases List.mem_cons.mp ha with rfl | ha
    · simp only [List.filter_cons, hf, hg, if_true, List.length_cons]
      simp only [Bool.false_eq_true, if_false]
      omega
    · have := ih ha
      cases hfx : f x with
      | true => simpa [List.filter_cons, hfx, hsub x hfx] using this
      | false =>
        simp only [List.filter_cons, hfx, Bool.false_eq_true, if_false]
        split
        · exact Nat.lt_succ_of_lt this
        · exact this

theorem length_offPath_cons_lt {p : Pipeline} {path : List BlockId} {id : BlockId} {b : Block}
    (h : p.block? id = some b) (hid : id ∉ path) :
    (p.offPath (id :: path)).length < (p.offPath path).length := by
  obtain ⟨hb, rfl⟩ := mem_blocks_of_block? h
  refine length_filter_lt (a := b) ?_ hb ?_ ?_
  · intro x hx
    simp_all
  · simp
  · simpa using hid

/-- The walk from a block, and the modules entered so far.  `path` holds the modules that
the way to the block goes through, the nearest first. -/
def walk (p : Pipeline) (path seen : List BlockId) (id : BlockId) : List Visit × List BlockId :=
  match h : p.block? id with
  | none => ([], seen)
  | some b =>
    if !b.isModule then ([], seen)
    else if hpath : id ∈ path then ([.loop id], seen)
    else if id ∈ seen then ([], seen)
    else
      have := length_offPath_cons_lt h hpath
      let (visits, seen) := (p.feeders b).foldl
        (fun (acc : List Visit × List BlockId) feeder =>
          let (visits, seen) := p.walk (id :: path) acc.2 feeder
          (acc.1 ++ visits, seen))
        ([], id :: seen)
      (.enter id :: visits, seen)
termination_by (p.offPath path).length

end Pipeline

end Flowscript
