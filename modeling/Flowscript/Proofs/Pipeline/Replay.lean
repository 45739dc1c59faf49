import Flowscript.Proofs.Pipeline.Endpoints
import Flowscript.Proofs.Pipeline.Restoring

/-!
# Making connections again

Connections are saved as pairs of ends, and made again in the order of the document.  What a reader
sees of the connections of a pipeline depends on these pairs and on the blocks alone.

* `Pipeline.ends` are the pairs, and `Pipeline.SameBlocks` compares the blocks of two pipelines.
* `Pipeline.Consistent.feeder?_eq_ends` and `Pipeline.Consistent.fedBy_eq_ends` read off the ends
  what feeds a port and what a block feeds.
* `Pipeline.replay` makes the connections of a pipeline again in another one with the same blocks.
-/

set_option autoImplicit false

namespace Flowscript

namespace Pipeline

/-! ## What is seen of connections -/

/-- The two ends of every connection, oldest first. -/
def ends (p : Pipeline) : List (PortRef × PortRef) :=
  p.connections.map fun c => (c.source, c.target)

/-- Under every number there is the same block, but for what is connected. -/
def SameBlocks (p q : Pipeline) : Prop :=
  ∀ id, (q.block? id).map Block.cleared = (p.block? id).map Block.cleared

theorem SameBlocks.port? {p q : Pipeline} (h : p.SameBlocks q) (ref : PortRef) :
    (q.port? ref).map Block.clearPort = (p.port? ref).map Block.clearPort := by
  have hport : ∀ r : Pipeline, (r.port? ref).map Block.clearPort =
      ((r.block? ref.block).map Block.cleared).bind (·.port? ref.side ref.index) := by
    intro r
    rw [port?_eq]
    cases r.block? ref.block with
    | none => rfl
    | some b => simp [Block.port?_cleared]
  rw [hport, hport, h]

theorem SameBlocks.format? {p q : Pipeline} (h : p.SameBlocks q) (ref : PortRef) :
    q.format? ref = p.format? ref := by
  have hport := congrArg (Option.map Port.format) (h.port? ref)
  rw [Option.map_map, Option.map_map] at hport
  exact hport

/-- The connections of a port, as they are found. -/
theorem Consistent.filterMap_attached {α : Type} {p : Pipeline} (h : p.Consistent) (ref : PortRef)
    (f : Connection → α) :
    (p.attached ref).filterMap (fun id => (p.connection? id).map f) =
      (p.connections.filter fun c => c.source == ref || c.target == ref).map f := by
  rw [attached, List.filterMap_map, ← List.filterMap_eq_map]
  refine List.filterMap_congr fun c hc => ?_
  rw [Function.comp_apply, h.connection?_of_mem (List.mem_of_mem_filter hc)]
  rfl

/-- **What feeds a port is seen from the ends of connections.** -/
theorem Consistent.feeder?_eq_ends {p : Pipeline} (h : p.Consistent) (ref : PortRef) :
    p.feeder? ref =
      ((p.ends.filter fun e => e.1 == ref || e.2 == ref).map Prod.fst).head? := by
  have hlist : (p.port? ref).bind (·.connections.head?) = (p.attached ref).head? := by
    cases hp : p.port? ref with
    | none => rw [h.attached_eq_nil hp]; rfl
    | some port => rw [← h.listed ref port hp]; rfl
  have hends : (p.ends.filter fun e => e.1 == ref || e.2 == ref).map Prod.fst =
      (p.connections.filter fun c => c.source == ref || c.target == ref).map (·.source) := by
    rw [ends, List.filter_map, List.map_map]
    rfl
  rw [feeder?_eq, hlist, hends, ← h.filterMap_attached]
  cases ha : p.attached ref with
  | nil => rfl
  | cons id rest =>
    obtain ⟨c, hc, rfl, -⟩ := mem_attached.1 (ha ▸ List.mem_cons_self)
    simp [h.connection?_of_mem hc]

theorem flatMap_eq_range {α β : Type} {l : List α} {f : α → List β} {g : Nat → List β}
    (h : ∀ i a, l[i]? = some a → f a = g i) : l.flatMap f = (List.range l.length).flatMap g := by
  have hmap : l.map f = (List.range l.length).map g := by
    refine List.ext_getElem (by simp) fun i hi hj => ?_
    rw [List.getElem_map, List.getElem_map, List.getElem_range]
    exact h i _ (List.getElem?_eq_getElem _)
  rw [List.flatMap_def, List.flatMap_def, hmap]

/-- **What a block feeds is seen from the ends of connections.** -/
theorem Consistent.fedBy_eq_ends {p : Pipeline} (h : p.Consistent) (id : BlockId) :
    p.fedBy id = (List.range (((p.block? id).map (·.outputs.length)).getD 0)).flatMap fun i =>
      (p.ends.filter fun e => e.1 == .output id i).map Prod.snd := by
  rw [fedBy]
  cases hb : p.block? id with
  | none => rfl
  | some b =>
    simp only [Option.map_some, Option.getD_some, List.filterMap_flatMap]
    refine flatMap_eq_range fun i port hport => ?_
    have hp : p.port? (.output id i) = some port := port?_eq_some_iff.2 ⟨b, hb, hport⟩
    rw [h.listed _ _ hp, h.filterMap_attached, ends, List.filter_map, List.map_map]
    -- an output is not the target of any connection
    have htarget : ∀ c ∈ p.connections, (c.target == .output id i) = false := by
      intro c hc
      rw [beq_eq_false_iff_ne]
      intro he
      have hside := (h.joined c hc).target_side
      rw [he] at hside
      cases hside
    refine congrArg _ (List.filter_congr fun c hc => ?_)
    rw [htarget c hc, Bool.or_false]
    rfl

/-! ## Equal ends -/

variable {p q : Pipeline}

theorem feeder?_congr (hp : p.Consistent) (hq : q.Consistent) (h : q.ends = p.ends)
    (ref : PortRef) : q.feeder? ref = p.feeder? ref := by
  rw [hp.feeder?_eq_ends, hq.feeder?_eq_ends, h]

theorem fedBy_congr (hp : p.Consistent) (hq : q.Consistent) (hb : p.SameBlocks q)
    (h : q.ends = p.ends) (id : BlockId) : q.fedBy id = p.fedBy id := by
  have hlength : ∀ r : Pipeline, (r.block? id).map (·.outputs.length) =
      ((r.block? id).map Block.cleared).map (·.outputs.length) := by
    intro r
    rw [Option.map_map]
    refine congrArg (Option.map · _) (funext fun b => ?_)
    have hports := congrArg List.length (b.ports_cleared .output)
    rw [List.length_map] at hports
    exact hports.symm
  rw [hp.fedBy_eq_ends, hq.fedBy_eq_ends, h, hlength, hlength, hb]

/-! ## Making connections again -/

theorem SameBlocks.of_shape {r : Pipeline} (h : p.SameBlocks q) (hr : r.shape = q.shape) :
    p.SameBlocks r := by
  intro id
  rw [← find?_shape, hr, find?_shape]
  exact h id

/-- A connection of one pipeline can be made in another one with the same blocks, as long as
nothing there ends where it ends. -/
theorem SameBlocks.joinable (hp : p.Consistent) (hq : q.Consistent) (hb : p.SameBlocks q)
    (ht : q.toolbox = p.toolbox) {c : Connection} (hc : c ∈ p.connections)
    (hfree : c.target ∉ q.ends.map Prod.snd) : q.Joinable c.source c.target := by
  obtain ⟨hs, htg, output, input, hout, hin, hacc⟩ := hp.joined c hc
  refine ⟨hs, htg, ⟨output, input, ?_, ?_, ?_⟩, fun port hport => ?_⟩
  · rw [hb.format?]; exact hout
  · rw [hb.format?]; exact hin
  · rw [ht]; exact hacc
  · rw [hq.listed _ _ hport, List.eq_nil_iff_forall_not_mem]
    intro id hid
    obtain ⟨d, hd, -, hend⟩ := mem_attached.1 hid
    rcases hend with he | he
    · have hside := (hq.joined d hd).source_side
      rw [he, htg] at hside
      cases hside
    · refine hfree ?_
      rw [← he, ends, List.map_map]
      exact List.mem_map_of_mem hd

/-- The texts of the ends of a connection lead to its ends, in any pipeline with the same
blocks. -/
theorem SameBlocks.resolve (hq : q.Consistent) (hb : p.SameBlocks q)
    (hdef : ∀ m ∈ q.toolbox.modules, m.IsDefined) {ref : PortRef} {port : Port}
    (hport : p.port? ref = some port) (hlt : ref.block.number < Text.word64Limit) :
    ∃ text, p.endpoint? ref = some text ∧ q.resolve text ref.side = .ok ref := by
  have hclear := hb.port? ref
  rw [hport, Option.map_some] at hclear
  obtain ⟨port', hport', -⟩ := Option.map_eq_some_iff.1 hclear
  obtain ⟨text, htext, hres⟩ := hq.resolve_endpoint? hdef hport'
  rw [endpoint?_congr (hb ref.block)] at htext
  exact ⟨text, htext, hres hlt⟩

/-- **The connections of a pipeline can be made again, in their order.** -/
theorem replay (hp : p.Consistent) (hdef : ∀ m ∈ p.toolbox.modules, m.IsDefined)
    (hlt : ∀ b ∈ p.blocks, b.id.number < Text.word64Limit) (cs : List Connection) :
    ∀ {q : Pipeline}, q.Consistent → p.SameBlocks q → q.toolbox = p.toolbox →
      (∀ c ∈ cs, c ∈ p.connections) →
      q.ends ++ cs.map (fun c => (c.source, c.target)) = p.ends →
      ∃ r, q.restoreConnections (cs.filterMap (PipelineDocument.entryOfConnection? p)) = .ok r ∧
        r.Consistent ∧ r.shape = q.shape ∧ r.name = q.name ∧ r.ends = p.ends := by
  induction cs with
  | nil =>
    intro q hq _ _ _ hends
    refine ⟨q, rfl, hq, rfl, rfl, ?_⟩
    rw [← hends]
    exact (List.append_nil _).symm
  | cons c rest ih =>
    intro q hq hb ht hmem hends
    have hc := hmem c List.mem_cons_self
    have hnumber : ∀ {ref : PortRef} {port : Port}, p.port? ref = some port →
        ref.block.number < Text.word64Limit := by
      intro ref port hport
      obtain ⟨b, hblock, -⟩ := port?_eq_some_iff.1 hport
      obtain ⟨hmem, hid⟩ := mem_blocks_of_block? hblock
      exact hid ▸ hlt b hmem
    obtain ⟨⟨output, hout⟩, input, hin⟩ := hp.port_exists hc
    have hjoined := hp.joined c hc
    obtain ⟨start, hstart, hsource⟩ := hb.resolve hq (ht ▸ hdef) hout (hnumber hout)
    obtain ⟨stop, hstop, htarget⟩ := hb.resolve hq (ht ▸ hdef) hin (hnumber hin)
    rw [hjoined.source_side] at hsource
    rw [hjoined.target_side] at htarget
    -- targets are distinct, and so nothing ends there yet
    have hfree : c.target ∉ q.ends.map Prod.snd := by
      have hnodup := hp.nodup_targets
      have htargets : p.connections.map (·.target) = p.ends.map Prod.snd := by
        rw [ends, List.map_map]
        rfl
      rw [htargets, ← hends, List.map_append, List.nodup_append] at hnodup
      intro hin
      exact hnodup.2.2 _ hin _ List.mem_cons_self rfl
    have hj := hb.joinable hp hq ht hc hfree
    have hentry : PipelineDocument.entryOfConnection? p c = some ⟨start, stop⟩ := by
      simp [PipelineDocument.entryOfConnection?, hstart, hstop]
    obtain ⟨r, hr, hcons, hshape, hname, hends'⟩ := ih (hq.linked hj)
      (hb.of_shape (shape_linked q c.source c.target)) ht
      (fun d hd => hmem d (List.mem_cons_of_mem _ hd)) (by
        rw [← hends, ends, Pipeline.linked, List.map_append]
        simp [ends])
    refine ⟨r, ?_, hcons, hshape.trans (shape_linked q _ _), hname, hends'⟩
    rw [List.filterMap_cons, hentry]
    simp only [restoreConnections, hsource, htarget, connect_of_joinable hj, bind, Except.bind]
    exact hr

end Pipeline

end Flowscript
