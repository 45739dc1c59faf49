import Flowscript.Proofs.Pipeline.Reachability

/-!
# Edits that fail

An edit may take a number before it puts its block in, change one port before the other, or take
connections out one after the other.  If it could fail halfway, it would leave a pipeline behind
that is neither the old one nor the new one.  In a consistent pipeline it cannot: what an edit asks
for can be looked up before it starts, and once it has started nothing is missing.

* `Pipeline.refusal?` is the error that an edit ends with.
* `Pipeline.objection?` is the error that can be told from the pipeline as it is.
* `Pipeline.Consistent.insertNew_fst` says that a new block can always be put in.
* `Pipeline.Reachable.refused_unchanged` says that the two errors are the same, and that an edit
  with an error changes nothing.
-/

set_option autoImplicit false

namespace Flowscript

namespace Pipeline

/-! ## Two ways to tell that an edit fails -/

/-- The error of an operation that fails. -/
def failure? {ε α : Type} : Except ε α → Option ε
  | .error e => some e
  | .ok _ => none

/-- The error that an edit ends with, if it fails. -/
def refusal? (p : Pipeline) : Edit → Option EditError
  | .addSource column parameter position => failure? (p.addSource column parameter position).1
  | .addSink column parameter position => failure? (p.addSink column parameter position).1
  | .addModule name position => failure? (p.addModule name position).1
  | .connect source target => failure? (p.connect source target).1
  | .disconnect id => failure? (p.disconnect id).1
  | .delete id => failure? (p.delete id).1
  | .move id position => failure? (p.move id position).1
  | .rename _ => none
  | .markSaved => none

/-- What there is to say against an edit before it starts: a format or module is unknown, two ports
cannot be joined, or what is to be changed is not there. -/
def objection? (p : Pipeline) : Edit → Option EditError
  | .addSource _ parameter _ => failure? (p.checkFormat parameter.format)
  | .addSink _ parameter _ => failure? (p.checkFormat parameter.format)
  | .addModule name _ => (failure? (p.toolbox.module name)).map .toolbox
  | .connect source target => p.connectError? source target
  | .disconnect id => if (p.connection? id).isSome then none else some (.unknownConnection id)
  | .delete id => if (p.block? id).isSome then none else some (.unknownBlock id)
  | .move id _ => if (p.block? id).isSome then none else some (.unknownBlock id)
  | .rename _ => none
  | .markSaved => none

variable {t : Toolbox} {p : Pipeline}

/-! ## Nothing fails halfway -/

/-- The number that comes next is free, so the block that gets it can be put in. -/
theorem Consistent.insertNew_fst (h : p.Consistent) {make : BlockId → Block}
    (hmake : ∀ id, (make id).id = id) :
    (p.insertNew make).1 = .ok ⟨p.ids.nextBlock⟩ := by
  have hfree : block? { p with ids := p.ids.takeBlock.2 } (make ⟨p.ids.nextBlock⟩).id = none := by
    rw [hmake, block?_eq_none_iff]
    intro b hb hid
    have hlt := h.block_lt b hb
    rw [hid] at hlt
    exact Nat.lt_irrefl _ hlt
  rw [Pipeline.insertNew]
  simp only [Allocator.takeBlock] at hfree ⊢
  rw [Pipeline.insert, hfree]

/-- Two ports that may be joined are joined at both ends. -/
theorem connect_fst_of_joinable {source target : PortRef} (h : p.Joinable source target) :
    (p.connect source target).1 = .ok ⟨p.ids.nextConnection⟩ := by
  rw [connect_of_joinable h]

/-- A block that is there can be deleted: what its ports list can be disconnected. -/
theorem Consistent.delete_fst_of_mem (h : p.Consistent) {b : Block} (hb : b ∈ p.blocks) :
    (p.delete b.id).1 = .ok b.cleared := by
  obtain ⟨q, hq, -⟩ := delete_of_mem h hb
  rw [hq]

/-- **An edit of a consistent pipeline fails only if it is refused from the start.** -/
theorem Consistent.refusal?_eq (h : p.Consistent) (e : Edit) : p.refusal? e = p.objection? e := by
  cases e with
  | addSource column parameter position =>
    rw [refusal?, objection?, Pipeline.addSource]
    cases p.checkFormat parameter.format with
    | error e => rfl
    | ok u =>
      simp only
      rw [h.insertNew_fst fun _ => rfl]
      rfl
  | addSink column parameter position =>
    rw [refusal?, objection?, Pipeline.addSink]
    cases p.checkFormat parameter.format with
    | error e => rfl
    | ok u =>
      simp only
      rw [h.insertNew_fst fun _ => rfl]
      rfl
  | addModule name position =>
    rw [refusal?, objection?, Pipeline.addModule]
    cases p.toolbox.module name with
    | error e => rfl
    | ok definition =>
      simp only
      rw [h.insertNew_fst fun _ => rfl]
      rfl
  | connect source target =>
    rw [refusal?, objection?]
    cases he : p.connectError? source target with
    | some e =>
      rw [Pipeline.connect, he]
      rfl
    | none =>
      rw [connect_fst_of_joinable (connectError?_eq_none_iff.1 he)]
      rfl
  | disconnect id =>
    rw [refusal?, objection?, Pipeline.disconnect]
    cases p.connection? id <;> rfl
  | delete id =>
    rw [refusal?, objection?]
    cases hb : p.block? id with
    | none =>
      rw [Pipeline.delete, hb]
      rfl
    | some b =>
      obtain ⟨hmem, rfl⟩ := mem_blocks_of_block? hb
      rw [h.delete_fst_of_mem hmem]
      rfl
  | move id position =>
    rw [refusal?, objection?, Pipeline.move]
    cases p.block? id <;> rfl
  | rename name => rfl
  | markSaved => rfl

/-- An edit that is refused from the start does not start, whatever the pipeline. -/
theorem edit_of_objection {e : Edit} (h : p.objection? e ≠ none) : p.edit e = p := by
  cases e with
  | addSource column parameter position =>
    rw [objection?] at h
    rw [edit, addSource]
    cases hc : p.checkFormat parameter.format with
    | error e => rfl
    | ok u => exact absurd (by rw [hc]; rfl) h
  | addSink column parameter position =>
    rw [objection?] at h
    rw [edit, addSink]
    cases hc : p.checkFormat parameter.format with
    | error e => rfl
    | ok u => exact absurd (by rw [hc]; rfl) h
  | addModule name position =>
    rw [objection?] at h
    rw [edit, addModule]
    cases hm : p.toolbox.module name with
    | error e => rfl
    | ok definition => exact absurd (by rw [hm]; rfl) h
  | connect source target =>
    exact connect_of_not_joinable fun hj => h (connectError?_eq_none_iff.2 hj)
  | disconnect id =>
    rw [objection?] at h
    rw [edit, disconnect]
    cases hc : p.connection? id with
    | none => rfl
    | some c => exact absurd (by rw [hc]; rfl) h
  | delete id =>
    rw [objection?] at h
    rw [edit, delete]
    cases hb : p.block? id with
    | none => rfl
    | some b => exact absurd (by rw [hb]; rfl) h
  | move id position =>
    rw [objection?] at h
    rw [edit, move]
    cases hb : p.block? id with
    | none => rfl
    | some b => exact absurd (by rw [hb]; rfl) h
  | rename name => exact absurd rfl h
  | markSaved => exact absurd rfl h

/-- **An edit that fails changes nothing.**  The error is one that can be told from the pipeline as
it was, so none is left for the middle of an edit: a new number is never in use, both ports are
there once their formats have been compared, and what a block's ports list can be taken out. -/
theorem Reachable.refused_unchanged (hp : Reachable t p) (e : Edit) :
    p.refusal? e = p.objection? e ∧ (p.refusal? e ≠ none → p.edit e = p) := by
  have heq := hp.consistent.1.refusal?_eq e
  exact ⟨heq, fun h => edit_of_objection (heq ▸ h)⟩

/-- A second connection to an input is refused, and the pipeline stays as it is. -/
theorem refused_unchanged_tangled :
    Reachable Specimen.toolbox Specimen.tangled ∧
      Specimen.tangled.refusal? (.connect (.output ⟨0⟩ 0) (.input ⟨2⟩ 0)) =
        some (.portOccupied (.input ⟨2⟩ 0)) ∧
      Specimen.tangled.edit (.connect (.output ⟨0⟩ 0) (.input ⟨2⟩ 0)) = Specimen.tangled := by
  have hrefused : Specimen.tangled.refusal? (.connect (.output ⟨0⟩ 0) (.input ⟨2⟩ 0)) =
      some (.portOccupied (.input ⟨2⟩ 0)) := by decide
  exact ⟨Specimen.reachable_tangled, hrefused,
    (Reachable.refused_unchanged Specimen.reachable_tangled _).2 (by rw [hrefused]; exact nofun)⟩

end Pipeline

end Flowscript
