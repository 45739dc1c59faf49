import Flowscript.Proofs.Pipeline.Undoing

/-!
# Blocks taken out

A block goes together with the connections that have an end on it.  They are taken out one after the
other before the block itself is, and each of them is also listed by a block at its other end.  What
comes of it can be said at once: the connections that stay are kept in order, and the other blocks
stay as they are but for what their ports list.

* `Block.restrict` is a block whose ports list only some of the connections.
* `Pipeline.severed` are the connections that go, and `Pipeline.deleted` the pipeline that is left.
* `Pipeline.Reachable.delete_eq` says that this is what deleting comes to.
-/

set_option autoImplicit false

namespace Flowscript

/-! ## Blocks that list less -/

/-- The port listing only the connections that are kept, in the same order. -/
def Port.restrict (port : Port) (keep : ConnectionId → Bool) : Port :=
  { port with connections := port.connections.filter keep }

namespace Block

/-- The block with every port listing only the connections that are kept. -/
def restrict (b : Block) (keep : ConnectionId → Bool) : Block :=
  match b.kind with
  | .source column output => { b with kind := .source column (output.restrict keep) }
  | .module definition inputs outputs =>
    { b with
      kind := .module definition (inputs.map (·.restrict keep)) (outputs.map (·.restrict keep)) }
  | .sink column input => { b with kind := .sink column (input.restrict keep) }

variable (b : Block) (keep : ConnectionId → Bool)

@[simp] theorem restrict_id : (b.restrict keep).id = b.id := by
  obtain ⟨id, position, kind⟩ := b
  cases kind <;> rfl

theorem ports_restrict (side : Side) :
    (b.restrict keep).ports side = (b.ports side).map (·.restrict keep) := by
  obtain ⟨id, position, kind⟩ := b
  cases kind <;> cases side <;> rfl

theorem port?_restrict (side : Side) (i : Nat) :
    (b.restrict keep).port? side i = (b.port? side i).map (·.restrict keep) := by
  rw [port?, ports_restrict, List.getElem?_map, port?]

/-- What ports list does not show in a cleared block. -/
@[simp] theorem cleared_restrict : (b.restrict keep).cleared = b.cleared := by
  obtain ⟨id, position, kind⟩ := b
  have hclear : Block.clearPort ∘ (·.restrict keep) = Block.clearPort := rfl
  cases kind <;> simp [restrict, cleared, hclear] <;> rfl

end Block

/-- Whether a connection has an end on a block. -/
def Connection.endsOn (c : Connection) (id : BlockId) : Bool :=
  c.source.block == id || c.target.block == id

namespace Pipeline

/-! ## What is left of a pipeline -/

/-- The connections that have an end on a block. -/
def severed (p : Pipeline) (id : BlockId) : List ConnectionId :=
  (p.connections.filter (·.endsOn id)).map (·.id)

/-- The pipeline that is left of another one when a block is taken out: without the block and the
connections that have an end on it, and with other blocks no longer listing these. -/
def deleted (p : Pipeline) (id : BlockId) : Pipeline :=
  { p with
    blocks := (p.blocks.filter (·.id != id)).map (·.restrict fun c => !(p.severed id).contains c)
    connections := p.connections.filter fun c => !c.endsOn id
    unsaved := true }

/-- The pipeline with every port listing only the connections that are kept. -/
def restricted (p : Pipeline) (keep : ConnectionId → Bool) : Pipeline :=
  { p with blocks := p.blocks.map (·.restrict keep) }

theorem port?_restricted (p : Pipeline) (keep : ConnectionId → Bool) (ref : PortRef) :
    (p.restricted keep).port? ref = (p.port? ref).map (·.restrict keep) := by
  have hfind : (p.restricted keep).block? ref.block =
      (p.block? ref.block).map (·.restrict keep) := by
    rw [block?, block?, restricted, List.find?_map]
    simp only [Function.comp_def, Block.restrict_id]
  rw [port?_eq, port?_eq, hfind, Option.bind_map, Option.map_bind]
  simp only [Function.comp_def, Block.port?_restrict]

/-- What ports list does not show in the shape. -/
theorem shape_restricted (p : Pipeline) (keep : ConnectionId → Bool) :
    (p.restricted keep).shape = p.shape := by
  rw [shape, restricted, List.map_map, shape]
  exact List.map_congr_left fun b _ => b.cleared_restrict keep

variable {p q : Pipeline}

theorem block?_deleted_self (p : Pipeline) (id : BlockId) : (p.deleted id).block? id = none := by
  rw [block?_eq_none_iff]
  intro b hb
  obtain ⟨other, hother, rfl⟩ := List.mem_map.1 hb
  simpa using (List.mem_filter.1 hother).2

/-- A connection is told by its number whether it goes. -/
theorem Consistent.contains_severed (h : p.Consistent) {c : Connection} (hc : c ∈ p.connections)
    (id : BlockId) : (p.severed id).contains c.id = c.endsOn id := by
  rw [Bool.eq_iff_iff, List.contains_iff_mem, severed, List.mem_map]
  constructor
  · rintro ⟨d, hd, hid⟩
    obtain ⟨hd, hend⟩ := List.mem_filter.1 hd
    rwa [List.inj_on_of_nodup_map h.nodup_connectionIds hd hc hid] at hend
  · exact fun hend => ⟨c, List.mem_filter.2 ⟨hc, hend⟩, rfl⟩

/-- **Blocks that keep their shape are restricted to the connections that are kept.** -/
theorem Consistent.blocks_eq_restrict (hp : p.Consistent) (hq : q.Consistent)
    (hs : q.shape = p.shape) (keep : ConnectionId → Bool)
    (hc : q.connections = p.connections.filter fun c => keep c.id) :
    q.blocks = (p.restricted keep).blocks := by
  have hshape : q.shape = (p.restricted keep).shape := by rw [hs, shape_restricted]
  have hids : ((p.restricted keep).blocks.map (·.id)).Nodup := by
    rw [← map_id_shape, shape_restricted, map_id_shape]
    exact hp.nodup_ids
  refine blocks_eq_of_port? hids hshape fun ref => port?_eq_of_shape hshape ?_
  intro port port' hport hport'
  rw [port?_restricted] at hport
  obtain ⟨whole, hwhole, rfl⟩ := Option.map_eq_some_iff.1 hport
  rw [hq.listed ref port' hport', attached_filter hc, ← hp.listed ref whole hwhole]
  rfl

/-- **Deleting a block of a consistent pipeline succeeds, and what is left is known.** -/
theorem Consistent.delete_eq_deleted (h : p.Consistent) {b : Block} (hb : b ∈ p.blocks) :
    p.delete b.id = (.ok b.cleared, p.deleted b.id) := by
  obtain ⟨q, hq, hcons, hshape, htoolbox, hids, hname, hconnections⟩ := delete_of_mem h hb
  have hstays : q.connections = p.connections.filter fun c => !c.endsOn b.id := by
    rw [hconnections]
    refine List.filter_congr fun c _ => ?_
    rw [Connection.endsOn, Bool.not_or]
    rfl
  have hkept : q.connections = p.connections.filter fun c => !(p.severed b.id).contains c.id := by
    rw [hstays]
    exact List.filter_congr fun c hc => by rw [h.contains_severed hc]
  have hblocks : q.blocks.filter (·.id != b.id) = (p.deleted b.id).blocks := by
    rw [h.blocks_eq_restrict hcons hshape (fun i => !(p.severed b.id).contains i) hkept,
      restricted, List.filter_map]
    simp only [Function.comp_def, Block.restrict_id]
    rfl
  rw [hq, Prod.mk.injEq, Pipeline.without, Pipeline.mk.injEq]
  exact ⟨rfl, hname, htoolbox, hids, hblocks, hstays, rfl⟩

/-- **Deleting a block takes out exactly it and the connections that end on it.**  What is returned
is the block with nothing connected.  The connections that stay are in their former order; other
blocks are in their former order too, and only lose the connections that are gone from what their
ports list; the name, the toolbox and the numbers that come next are kept. -/
theorem Reachable.delete_eq {t : Toolbox} (hp : Reachable t p) {id : BlockId} {b : Block}
    (hb : p.block? id = some b) :
    p.delete id = (.ok b.cleared, p.deleted id) ∧ (p.deleted id).block? id = none := by
  obtain ⟨hmem, rfl⟩ := mem_blocks_of_block? hb
  exact ⟨hp.consistent.1.delete_eq_deleted hmem, block?_deleted_self p b.id⟩

end Pipeline

/-- A module that feeds itself and another module is taken out.  Both connections go with it, so
that nothing feeds the other module any more, and what that one feeds stays as it was. -/
theorem Pipeline.delete_eq_knotted :
    Reachable Specimen.toolbox Specimen.knotted ∧
      ∃ b, Specimen.knotted.block? ⟨1⟩ = some b ∧
        Specimen.knotted.delete ⟨1⟩ = (.ok b.cleared, Specimen.knotted.deleted ⟨1⟩) ∧
        Specimen.knotted.severed ⟨1⟩ = [⟨0⟩, ⟨1⟩] ∧
        (Specimen.knotted.deleted ⟨1⟩).feeder? (.input ⟨2⟩ 0) = none ∧
        (Specimen.knotted.deleted ⟨1⟩).connections = [⟨⟨3⟩, .output ⟨2⟩ 0, .input ⟨4⟩ 0⟩] := by
  obtain ⟨b, hb⟩ : ∃ b, Specimen.knotted.block? ⟨1⟩ = some b :=
    Option.isSome_iff_exists.1 (by decide)
  exact ⟨Specimen.reachable_knotted, b, hb, (Reachable.delete_eq Specimen.reachable_knotted hb).1,
    by decide, by decide, by decide⟩

end Flowscript
