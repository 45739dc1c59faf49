import Flowscript.Proofs.Pipeline.DocumentText
import Flowscript.Proofs.Pipeline.Reachability
import Flowscript.Proofs.Pipeline.Replay

/-!
# Saving and loading

A pipeline that is saved and loaded again comes back with the same blocks and the same connections
in the same order, and it is saved to the same text once more.

* `Pipeline.stored` are the blocks in the order in which a document holds them.
* `Pipeline.Consistent.ofDocument_ofPipeline` takes a pipeline through its document, and
  `PipelineDocument.ofPipeline_congr` says what a document depends on.
* `Pipeline.Reachable.saved_loads_back` is the round trip through the text.
-/

set_option autoImplicit false

namespace Flowscript

/-! ## Documents of blocks -/

namespace PipelineDocument

/-- The blocks of a pipeline by number, with nothing connected. -/
def sortedShape (p : Pipeline) : List Block :=
  p.shape.mergeSort fun a b => a.id.number ≤ b.id.number

theorem map_cleared_sortedBlocks (p : Pipeline) :
    (sortedBlocks p).map Block.cleared = sortedShape p := by
  rw [sortedBlocks, sortedShape, Pipeline.shape]
  refine List.map_mergeSort fun a _ b _ => ?_
  rw [Block.cleared_id, Block.cleared_id]

theorem sortedShape_perm (p : Pipeline) : (sortedShape p).Perm p.shape := List.mergeSort_perm _ _

theorem entryOfSource?_cleared (b : Block) : entryOfSource? b.cleared = entryOfSource? b := by
  obtain ⟨id, position, kind⟩ := b
  cases kind <;> rfl

theorem entryOfSink?_cleared (b : Block) : entryOfSink? b.cleared = entryOfSink? b := by
  obtain ⟨id, position, kind⟩ := b
  cases kind <;> rfl

theorem entryOfModule?_cleared (b : Block) : entryOfModule? b.cleared = entryOfModule? b := by
  obtain ⟨id, position, kind⟩ := b
  cases kind <;> rfl

/-- Entries do not show what is connected. -/
theorem filterMap_sortedBlocks {α : Type} {item? : Block → Option α}
    (h : ∀ b : Block, item? b.cleared = item? b) (p : Pipeline) :
    (sortedBlocks p).filterMap item? = (sortedShape p).filterMap item? := by
  rw [← map_cleared_sortedBlocks, List.filterMap_map]
  exact List.filterMap_congr fun b _ => (h b).symm

/-- The order by number leaves no choice where numbers are different. -/
theorem mergeSort_number_congr {l l' : List Block} (hperm : l'.Perm l)
    (hnodup : (l.map (·.id)).Nodup) :
    (l'.mergeSort fun a b => a.id.number ≤ b.id.number) =
      l.mergeSort fun a b => a.id.number ≤ b.id.number := by
  have hsorted : ∀ l : List Block, (l.mergeSort fun a b => a.id.number ≤ b.id.number).Pairwise
      fun a b => a.id.number ≤ b.id.number := by
    intro l
    have hpair : (l.mergeSort fun a b => a.id.number ≤ b.id.number).Pairwise
        fun a b => decide (a.id.number ≤ b.id.number) = true :=
      List.pairwise_mergeSort (fun a b c => by simp; omega) (fun a b => by simp; omega) l
    simpa using hpair
  refine List.Perm.eq_of_pairwise ?_ (hsorted l') (hsorted l)
    ((List.mergeSort_perm _ _).trans (hperm.trans (List.mergeSort_perm _ _).symm))
  intro a b ha hb hab hba
  have ha' : a ∈ l := hperm.subset (List.mem_mergeSort.1 ha)
  have hb' : b ∈ l := List.mem_mergeSort.1 hb
  refine List.inj_on_of_nodup_map hnodup ha' hb' ?_
  have hnumber : a.id.number = b.id.number := Nat.le_antisymm hab hba
  cases ha'' : a.id
  cases hb'' : b.id
  simp_all

theorem sortedShape_congr {p q : Pipeline} (hperm : q.shape.Perm p.shape)
    (hnodup : (p.shape.map (·.id)).Nodup) : sortedShape q = sortedShape p :=
  mergeSort_number_congr hperm hnodup

/-- **A document depends on the name, on the blocks and on the ends of connections alone.** -/
theorem ofPipeline_congr {p q : Pipeline} (hname : q.name = p.name)
    (hperm : q.shape.Perm p.shape) (hnodup : (p.shape.map (·.id)).Nodup)
    (hblocks : p.SameBlocks q) (hends : q.ends = p.ends) : ofPipeline q = ofPipeline p := by
  have hentries : ∀ r : Pipeline, r.connections.filterMap (entryOfConnection? r) =
      r.ends.filterMap fun e => (r.endpoint? e.1).bind fun start =>
        (r.endpoint? e.2).bind fun stop => some (ConnectionEntry.mk start stop) := by
    intro r
    rw [Pipeline.ends, List.filterMap_map]
    rfl
  have hconn : q.connections.filterMap (entryOfConnection? q) =
      p.connections.filterMap (entryOfConnection? p) := by
    rw [hentries, hentries, hends]
    refine List.filterMap_congr fun e _ => ?_
    rw [Pipeline.endpoint?_congr (hblocks e.1.block), Pipeline.endpoint?_congr (hblocks e.2.block)]
  rw [ofPipeline, ofPipeline]
  simp only [filterMap_sortedBlocks entryOfSource?_cleared,
    filterMap_sortedBlocks entryOfSink?_cleared, filterMap_sortedBlocks entryOfModule?_cleared,
    sortedShape_congr hperm hnodup, hname, hconn]

end PipelineDocument

/-! ## Blocks put back -/

namespace Pipeline

open PipelineDocument

/-- The blocks of a pipeline in the order in which its document holds them: sources, sinks and
modules, each by number. -/
def stored (p : Pipeline) : List Block :=
  (sortedShape p).filter (·.isSource) ++ ((sortedShape p).filter (·.isSink) ++
    (sortedShape p).filter (·.isModule))

theorem stored_perm (p : Pipeline) : p.stored.Perm p.shape := by
  have hkinds : ∀ b : Block, (b.isSink && !b.isSource) = b.isSink ∧
      (!b.isSink && !b.isSource) = b.isModule := by
    rintro ⟨id, position, kind⟩
    cases kind <;> exact ⟨rfl, rfl⟩
  have hothers := List.filter_append_perm (·.isSink)
    ((sortedShape p).filter fun b : Block => !b.isSource)
  rw [List.filter_filter, List.filter_filter, List.filter_congr fun b _ => (hkinds b).1,
    List.filter_congr fun b _ => (hkinds b).2] at hothers
  exact ((List.Perm.append_left _ hothers).trans (List.filter_append_perm _ _)).trans
    (sortedShape_perm p)

theorem map_filterMap_eq_filter {α β : Type} {l : List α} {item? : α → Option β} {build : β → α}
    {keep : α → Bool} (h : ∀ a ∈ l, (item? a).map build = if keep a then some a else none) :
    (l.filterMap item?).map build = l.filter keep := by
  rw [List.map_filterMap, List.filterMap_congr h, ← List.filterMap_eq_filter]
  rfl

variable {p : Pipeline}

theorem Consistent.fresh_of_sortedShape (h : p.Consistent) {b : Block} (hb : b ∈ sortedShape p) :
    b.Fresh p.toolbox :=
  h.fresh b ((sortedShape_perm p).subset hb)

theorem Consistent.restored_sources (h : p.Consistent) :
    ((ofPipeline p).sources.map fun s => Block.source s.id s.column s.parameter s.position) =
      (sortedShape p).filter (·.isSource) := by
  have hentries : (ofPipeline p).sources = (sortedShape p).filterMap entryOfSource? :=
    filterMap_sortedBlocks entryOfSource?_cleared p
  rw [hentries]
  refine map_filterMap_eq_filter fun b hb => ?_
  cases h.fresh_of_sortedShape hb <;> rfl

theorem Consistent.restored_sinks (h : p.Consistent) :
    ((ofPipeline p).sinks.map fun s => Block.sink s.id s.column s.parameter s.position) =
      (sortedShape p).filter (·.isSink) := by
  have hentries : (ofPipeline p).sinks = (sortedShape p).filterMap entryOfSink? :=
    filterMap_sortedBlocks entryOfSink?_cleared p
  rw [hentries]
  refine map_filterMap_eq_filter fun b hb => ?_
  cases h.fresh_of_sortedShape hb <;> rfl

/-- The entry of a block that runs a module. -/
def moduleEntry (b : Block) : ModuleEntry := ⟨b.label, b.id, b.position⟩

theorem modules_ofPipeline (p : Pipeline) :
    (ofPipeline p).modules = ((sortedShape p).filter (·.isModule)).map moduleEntry := by
  have hentries : (ofPipeline p).modules = (sortedShape p).filterMap entryOfModule? :=
    filterMap_sortedBlocks entryOfModule?_cleared p
  rw [hentries, ← List.filterMap_eq_filter, List.map_filterMap]
  refine List.filterMap_congr fun b _ => ?_
  obtain ⟨id, position, kind⟩ := b
  cases kind <;> rfl

theorem Consistent.restoreModules_ofPipeline (h : p.Consistent) {q : Pipeline}
    (ht : q.toolbox = p.toolbox) :
    q.restoreModules (ofPipeline p).modules =
      q.restoreAll ((sortedShape p).filter (·.isModule)) := by
  have hmodules := restoreModules_eq moduleEntry id
    ((sortedShape p).filter (·.isModule)) (p := q) fun b hb => by
      obtain ⟨hmem, hm⟩ := List.mem_filter.1 hb
      obtain ⟨d, hd, heq⟩ := (h.fresh_of_sortedShape hmem).exists_definition hm
      refine ⟨d, ?_, heq⟩
      rw [ht, heq]
      exact hd
  rw [List.map_id] at hmodules
  rw [modules_ofPipeline]
  exact hmodules

/-- **A document holds all blocks of its pipeline, and they can be put back.** -/
theorem Consistent.restore_stored (h : p.Consistent) (ht : p.toolbox.Built) :
    ∃ q, (Pipeline.empty p.name p.toolbox).restoreAll p.stored = .ok q ∧ q.Consistent ∧
      q.shape.Perm p.shape ∧ q.connections = [] ∧ q.name = p.name := by
  have hfresh : ∀ b ∈ p.stored, b.Fresh p.toolbox :=
    fun b hb => h.fresh b ((stored_perm p).subset hb)
  have hknown : ∀ b ∈ p.stored, ∀ port ∈ b.inputs ++ b.outputs,
      p.toolbox.formats.contains port.format = true := by
    intro b hb port hport
    rcases List.mem_append.1 hport with hport | hport
    · obtain ⟨i, hi⟩ := List.getElem?_of_mem hport
      have hp : b.port? .input i = some port := hi
      exact ((hfresh b hb).port? ht hp).2
    · obtain ⟨i, hi⟩ := List.getElem?_of_mem hport
      have hp : b.port? .output i = some port := hi
      exact ((hfresh b hb).port? ht hp).2
  have hnodup : (p.stored.map (·.id)).Nodup := by
    have hids := h.nodup_ids
    rw [← map_id_shape] at hids
    exact ((stored_perm p).map _).nodup_iff.2 hids
  obtain ⟨q, hq, hblocks, hconn, hname⟩ := restoreAll_eq_ok p.stored
    (p := Pipeline.empty p.name p.toolbox) hknown hnodup fun _ _ => rfl
  have hshape : q.shape = p.stored := by
    rw [shape, hblocks]
    exact (List.map_congr_left fun b hb => (hfresh b hb).cleared_eq).trans (List.map_id' _)
  have hcons := (Consistent.empty p.name p.toolbox).restoreAll (fun b hb _ => hfresh b hb) hq
  exact ⟨q, hq, hcons, hshape ▸ stored_perm p, hconn, hname⟩

/-- Where numbers are different, the order does not matter to what is found. -/
theorem SameBlocks.of_perm {q : Pipeline} (hp : p.Consistent) (hq : q.Consistent)
    (h : q.shape.Perm p.shape) : p.SameBlocks q := by
  have hfound : ∀ {r : Pipeline}, r.Consistent → ∀ {id : BlockId} {b : Block},
      r.shape.find? (·.id == id) = some b ↔ b ∈ r.shape ∧ b.id = id := by
    intro r hr id b
    constructor
    · exact fun hb => ⟨List.mem_of_find?_eq_some hb, by simpa using List.find?_some hb⟩
    · rintro ⟨hb, rfl⟩
      have hnodup := hr.nodup_ids
      rw [← map_id_shape] at hnodup
      cases hf : r.shape.find? (·.id == b.id) with
      | none =>
        rw [List.find?_eq_none] at hf
        simpa using hf b hb
      | some b' =>
        have hid : b'.id = b.id := by simpa using List.find?_some hf
        rw [List.inj_on_of_nodup_map hnodup (List.mem_of_find?_eq_some hf) hb hid]
  intro id
  rw [← find?_shape, ← find?_shape]
  refine Option.ext fun b => ?_
  rw [hfound hq, hfound hp, h.mem_iff]

/-- **A pipeline comes back from its document.** -/
theorem Consistent.ofDocument_ofPipeline (h : p.Consistent) (ht : p.toolbox.Built)
    (hdef : ∀ m ∈ p.toolbox.modules, m.IsDefined)
    (hlt : ∀ b ∈ p.blocks, b.id.number < Text.word64Limit) :
    ∃ q, Pipeline.ofDocument (ofPipeline p) p.toolbox = .ok q ∧ q.Consistent ∧
      q.unsaved = false ∧ q.name = p.name ∧ q.shape.Perm p.shape ∧ q.ends = p.ends := by
  obtain ⟨q, hq, hcons, hshape, hconn, hname⟩ := h.restore_stored ht
  have hqt : q.toolbox = p.toolbox := by
    rw [restoreAll_toolbox _ hq]
    rfl
  obtain ⟨r, hr, hrcons, hrshape, hrname, hends⟩ := replay h hdef hlt p.connections hcons
    (.of_perm h hcons hshape) hqt (fun c hc => hc)
    (by rw [ends, hconn]; rfl)
  refine ⟨r.markSaved, ?_, hrcons.markSaved, rfl, hrname.trans hname, ?_, hends⟩
  · rw [stored, restoreAll_append] at hq
    cases h₁ : (Pipeline.empty p.name p.toolbox).restoreAll
        ((sortedShape p).filter (·.isSource)) with
    | error e => simp [h₁, Except.bind] at hq
    | ok q₁ =>
      simp only [h₁, Except.bind] at hq
      rw [restoreAll_append] at hq
      cases h₂ : q₁.restoreAll ((sortedShape p).filter (·.isSink)) with
      | error e => simp [h₂, Except.bind] at hq
      | ok q₂ =>
        simp only [h₂, Except.bind] at hq
        have htool : q₂.toolbox = p.toolbox := by
          rw [restoreAll_toolbox _ h₂, restoreAll_toolbox _ h₁]
          rfl
        have h₃ := (h.restoreModules_ofPipeline htool).trans hq
        rw [Pipeline.ofDocument, h.restored_sources, h.restored_sinks]
        have hname : (ofPipeline p).name = p.name := rfl
        have hconnections : (ofPipeline p).connections =
            p.connections.filterMap (entryOfConnection? p) := rfl
        simp only [bind, Except.bind, hname, h₁, h₂, h₃, hconnections, hr]
  · exact hrshape ▸ hshape

/-! ## Through the text -/

theorem writable_ofPipeline
    (h : ∀ b ∈ p.blocks, b.id.number < Text.word64Limit ∧ b.position.ReadsBack) :
    (ofPipeline p).Writable := by
  have hstored : ∀ {α : Type} {item? : Block → Option α} {id : α → BlockId}
      {position : α → Position},
      (∀ b e, item? b = some e → id e = b.id ∧ position e = b.position) →
      ∀ e ∈ (sortedBlocks p).filterMap item?, Stored (id e) (position e) := by
    intro α item? id position hitem e he
    obtain ⟨b, hb, hbe⟩ := List.mem_filterMap.1 he
    obtain ⟨hid, hpos⟩ := hitem b e hbe
    obtain ⟨hlt, hread⟩ := h b (List.mem_mergeSort.1 hb)
    rw [hid, hpos]
    exact ⟨hlt, hread⟩
  refine ⟨hstored ?_, hstored ?_, hstored ?_⟩
  all_goals
    rintro ⟨id, position, kind⟩ e he
    cases kind <;> cases he
    exact ⟨rfl, rfl⟩

/-- **Saving and loading gives the pipeline back, and saving again gives the text back.** -/
theorem Reachable.saved_loads_back {t : Toolbox} (ht : t.Built) (hdef : ∀ m ∈ t.modules, m.IsDefined)
    {p : Pipeline} (hp : Reachable t p) (hlt : ∀ b ∈ p.blocks, b.id.number < Text.word64Limit)
    (hpos : ∀ b ∈ p.blocks, b.position.ReadsBack) :
    ∃ q, Pipeline.ofJson p.toJson t = .ok q ∧ q.unsaved = false ∧ q.name = p.name ∧
      (∀ id, (q.block? id).map Block.cleared = (p.block? id).map Block.cleared) ∧
      q.connections.map (fun c => (c.source, c.target)) =
        p.connections.map (fun c => (c.source, c.target)) ∧
      (∀ id, q.fedBy id = p.fedBy id) ∧ (∀ ref, q.feeder? ref = p.feeder? ref) ∧
      q.toJson = p.toJson := by
  obtain ⟨h, rfl⟩ := hp.consistent
  obtain ⟨q, hq, hcons, hunsaved, hname, hperm, hends⟩ := h.ofDocument_ofPipeline ht hdef hlt
  have hwritable : (ofPipeline p).Writable :=
    writable_ofPipeline fun b hb => ⟨hlt b hb, hpos b hb⟩
  have hsame := SameBlocks.of_perm h hcons hperm
  have hnodup := h.nodup_ids
  rw [← map_id_shape] at hnodup
  refine ⟨q, ?_, hunsaved, hname, hsame, hends, fedBy_congr h hcons hsame hends,
    feeder?_congr h hcons hends, ?_⟩
  · rw [Pipeline.ofJson, Pipeline.toJson, PipelineDocument.ofJson_toJson hwritable]
    exact hq
  · rw [Pipeline.toJson, Pipeline.toJson, ofPipeline_congr hname hperm hnodup hsame hends]

end Pipeline

theorem Specimen.readsBack_place : place.ReadsBack :=
  ⟨by unfold Binary64.ReadsBack; decide +kernel, by unfold Binary64.ReadsBack; decide +kernel⟩

/-- The round trip of a pipeline from which a block has been deleted. -/
theorem Pipeline.saved_loads_back_tangled :
    Specimen.toolbox.Built ∧ (∀ m ∈ Specimen.toolbox.modules, m.IsDefined) ∧
      Reachable Specimen.toolbox Specimen.tangled ∧
      (∀ b ∈ Specimen.tangled.blocks, b.id.number < Text.word64Limit) ∧
      (∀ b ∈ Specimen.tangled.blocks, b.position.ReadsBack) ∧
      ∃ q, Pipeline.ofJson Specimen.tangled.toJson Specimen.toolbox = .ok q ∧
        q.unsaved = false ∧ q.name = "tangle" ∧
        q.connections.map (fun c => (c.source, c.target)) =
          [(.output ⟨1⟩ 0, .input ⟨1⟩ 0), (.output ⟨1⟩ 0, .input ⟨2⟩ 0)] ∧
        q.toJson = Specimen.tangled.toJson := by
  have hplace : ∀ b ∈ Specimen.tangled.blocks, b.position = Specimen.place := by decide
  have hlt : ∀ b ∈ Specimen.tangled.blocks, b.id.number < Text.word64Limit := by decide
  have hpos : ∀ b ∈ Specimen.tangled.blocks, b.position.ReadsBack := by
    intro b hb
    rw [hplace b hb]
    exact Specimen.readsBack_place
  obtain ⟨q, hq, hsaved, hname, -, hends, -, -, htext⟩ :=
    Reachable.saved_loads_back Specimen.toolbox_built Specimen.toolbox_defined
      Specimen.reachable_tangled hlt hpos
  refine ⟨Specimen.toolbox_built, Specimen.toolbox_defined, Specimen.reachable_tangled, hlt, hpos,
    q, hq, hsaved, hname, hends.trans ?_, htext⟩
  decide

end Flowscript
