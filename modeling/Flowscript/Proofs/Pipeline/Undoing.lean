import Flowscript.Proofs.Ancestry
import Flowscript.Proofs.Pipeline.Upstream

/-!
# Connections made and undone

Whether two ports can be joined is a matter of the two ports, of their formats, and of what ends at
the input.  Joining them adds to three records, and taking the connection out again must leave no
trace in any of them.

* `Pipeline.Fits` says that two ports go together, `Pipeline.Free` that nothing ends at an input.
* `Pipeline.Consistent.connectError?_eq` is the error for two ports that are there.
* `Pipeline.Consistent.blocks_eq` says that blocks are known from their shape and the list of
  connections, so `Pipeline.Consistent.unlinked_linked` has only the list to look at.
* `Pipeline.Reachable.connect_undone` is the result.
-/

set_option autoImplicit false

namespace Flowscript

/-- A block is known from its shape and its ports. -/
theorem Block.eq_of_cleared {b b' : Block} (hcleared : b.cleared = b'.cleared)
    (hport : ∀ side i, b.port? side i = b'.port? side i) : b = b' := by
  have hports : ∀ side, b.ports side = b'.ports side := fun side => List.ext_getElem? (hport side)
  have hin := hports .input
  have hout := hports .output
  obtain ⟨id, position, kind⟩ := b
  obtain ⟨id', position', kind'⟩ := b'
  cases kind <;> cases kind' <;> simp_all [cleared, ports, inputs, outputs]

namespace Pipeline

/-! ## Blocks and their shape -/

/-- A port is known from its shape and what it lists. -/
theorem port?_eq_of_shape {p q : Pipeline} (hs : q.shape = p.shape) {ref : PortRef}
    (hlist : ∀ port port', p.port? ref = some port → q.port? ref = some port' →
      port'.connections = port.connections) : q.port? ref = p.port? ref := by
  have hsame : p.SameBlocks q := fun id => by rw [← find?_shape, hs, find?_shape]
  have hclear := hsame.port? ref
  cases hport : p.port? ref with
  | none =>
    rw [hport] at hclear
    exact Option.map_eq_none_iff.1 hclear
  | some port =>
    rw [hport, Option.map_some, Option.map_eq_some_iff] at hclear
    obtain ⟨port', hport', heq⟩ := hclear
    have hlisted := hlist port port' hport hport'
    obtain ⟨parameter, index, connections⟩ := port
    obtain ⟨parameter', index', connections'⟩ := port'
    injection heq with hparameter hindex
    subst hparameter hindex hlisted
    exact hport'

/-- Blocks are known from their shape and their ports. -/
theorem blocks_eq_of_port? {p q : Pipeline} (hn : (p.blocks.map (·.id)).Nodup)
    (hs : q.shape = p.shape) (hport : ∀ ref, q.port? ref = p.port? ref) : q.blocks = p.blocks := by
  have hn' : (q.blocks.map (·.id)).Nodup := by
    rw [← map_id_shape, hs, map_id_shape]
    exact hn
  refine eq_of_map_eq hs fun b hb b' hb' hcleared => Block.eq_of_cleared hcleared fun side i => ?_
  have hid : b'.id = b.id := by rw [← b'.cleared_id, hcleared, b.cleared_id]
  have heq := hport ⟨b.id, side, i⟩
  rw [port?_eq, port?_eq, block?_of_mem hn hb, ← hid, block?_of_mem hn' hb'] at heq
  exact heq

/-! ## Ports that go together -/

/-- The reference points at an output. -/
def IsOutput (p : Pipeline) (ref : PortRef) (port : Port) : Prop :=
  ref.side = .output ∧ p.port? ref = some port

/-- The reference points at an input. -/
def IsInput (p : Pipeline) (ref : PortRef) (port : Port) : Prop :=
  ref.side = .input ∧ p.port? ref = some port

/-- The format of the output is that of the input or descends from it. -/
def Fits (p : Pipeline) (output input : Port) : Prop :=
  output.format = input.format ∨ p.toolbox.formats.Ancestor output.format input.format

/-- No connection ends at the port. -/
def Free (p : Pipeline) (ref : PortRef) : Prop := ∀ c ∈ p.connections, c.target ≠ ref

variable {p q : Pipeline} {source target : PortRef} {output input : Port}

namespace Consistent

/-- Nothing ends at an input exactly if it lists nothing. -/
theorem free_iff (h : p.Consistent) (hin : p.IsInput target input) :
    p.Free target ↔ input.connections = [] := by
  rw [h.listed target input hin.2, List.eq_nil_iff_forall_not_mem]
  constructor
  · intro hfree id hid
    obtain ⟨c, hc, -, hend⟩ := mem_attached.1 hid
    rcases hend with hsource | htarget
    · exact ne_of_sides (h.joined c hc).source_side hin.1 hsource
    · exact hfree c hc htarget
  · intro hnone c hc htarget
    exact hnone c.id (mem_attached.2 ⟨c, hc, rfl, .inr htarget⟩)

/-- What there is to say against joining two ports that are there: formats are looked at before
connections. -/
theorem connectError?_of_ports (h : p.Consistent) (hout : p.IsOutput source output)
    (hin : p.IsInput target input) :
    (¬p.Fits output input →
        p.connectError? source target = some (.incompatibleFormat output.format input.format)) ∧
      (p.Fits output input → ¬p.Free target →
        p.connectError? source target = some (.portOccupied target)) ∧
      (p.Fits output input → p.Free target → p.connectError? source target = none) := by
  have haccepts : p.toolbox.formats.accepts output.format input.format = true ↔
      p.Fits output input := FormatCatalog.accepts_iff
  have hconnected : input.isConnected = true ↔ ¬p.Free target := by
    rw [h.free_iff hin, Port.isConnected, Bool.not_eq_true', List.isEmpty_eq_false_iff]
  rw [connectError?, hout.1, hin.1, port_eq_ok hout.2, port_eq_ok hin.2]
  refine ⟨fun hfits => ?_, fun hfits htaken => ?_, fun hfits hfree => ?_⟩
  · have hrefused := mt haccepts.1 hfits
    simp [hrefused]
  · simp [haccepts.2 hfits, hconnected.2 htaken]
  · have hopen := mt hconnected.1 (not_not.2 hfree)
    simp [haccepts.2 hfits, hopen]

/-- Only ports that are there can be joined. -/
theorem joinable_iff (h : p.Consistent) :
    p.Joinable source target ↔ ∃ output input, p.IsOutput source output ∧
      p.IsInput target input ∧ p.Fits output input ∧ p.Free target := by
  constructor
  · rintro ⟨hs, ht, ⟨f, g, hf, hg, haccepts⟩, hfree⟩
    obtain ⟨output, hout, rfl⟩ := Option.map_eq_some_iff.1 hf
    obtain ⟨input, hin, rfl⟩ := Option.map_eq_some_iff.1 hg
    exact ⟨output, input, ⟨hs, hout⟩, ⟨ht, hin⟩, FormatCatalog.accepts_iff.1 haccepts,
      (h.free_iff ⟨ht, hin⟩).2 (hfree input hin)⟩
  · rintro ⟨output, input, hout, hin, hfits, hfree⟩
    exact connectError?_eq_none_iff.1 ((h.connectError?_of_ports hout hin).2.2 hfits hfree)

/-! ## Undoing -/

/-- **Blocks are known from their shape and the list of connections.** -/
theorem blocks_eq (hp : p.Consistent) (hq : q.Consistent) (hs : q.shape = p.shape)
    (hc : q.connections = p.connections) : q.blocks = p.blocks := by
  refine blocks_eq_of_port? hp.nodup_ids hs fun ref => port?_eq_of_shape hs ?_
  intro port port' hport hport'
  rw [hq.listed ref port' hport', attached_congr hc, hp.listed ref port hport]

/-- The connection that is made last feeds its input, and is the last one in the list and at its
output. -/
theorem linked_last (h : p.Consistent) (hj : p.Joinable source target) :
    (p.linked source target).feeder? target = some source ∧
      (∃ port, (p.linked source target).port? source = some port ∧
        port.connections.getLast? = some ⟨p.ids.nextConnection⟩) ∧
      (p.linked source target).connections.getLast? =
        some ⟨⟨p.ids.nextConnection⟩, source, target⟩ := by
  refine ⟨?_, ?_, List.getLast?_concat⟩
  · have htarget : target = .input target.block target.index := by
      rw [PortRef.input, ← hj.target_side]
    have hmem : (source, target) ∈ (p.linked source target).ends :=
      mem_ends.2 ⟨_, List.mem_append_right _ List.mem_cons_self, rfl, rfl⟩
    have hlinked := h.linked hj
    generalize p.linked source target = q at hmem hlinked ⊢
    rw [htarget] at hmem ⊢
    exact hlinked.feeder?_eq_some_iff.2 hmem
  · obtain ⟨f, g, hf, -, -⟩ := hj.accepts
    obtain ⟨port, hport, -⟩ := Option.map_eq_some_iff.1 hf
    refine ⟨port.attach ⟨p.ids.nextConnection⟩, ?_, List.getLast?_concat⟩
    rw [port?_linked p (ne_of_sides hj.source_side hj.target_side), if_pos (.inl rfl), hport,
      Option.map_some]

/-- **Taking out the connection that was made last leaves the pipeline as it was**, but for the
number that comes next. -/
theorem disconnect_linked (h : p.Consistent) (hj : p.Joinable source target) :
    (p.linked source target).disconnect ⟨p.ids.nextConnection⟩ =
      (.ok ⟨⟨p.ids.nextConnection⟩, source, target⟩,
        { p with ids := p.ids.takeConnection.2, unsaved := true }) := by
  have hlinked := h.linked hj
  have hmem : ⟨⟨p.ids.nextConnection⟩, source, target⟩ ∈ (p.linked source target).connections :=
    List.mem_append_right _ List.mem_cons_self
  have hconnections : ((p.linked source target).unlinked
      ⟨⟨p.ids.nextConnection⟩, source, target⟩).connections = p.connections := by
    change (p.connections ++ [_]).filter _ = _
    have hold : ∀ c ∈ p.connections, (c.id != ⟨p.ids.nextConnection⟩) = true := by
      intro c hc
      rw [bne_iff_ne]
      intro hid
      have hlt := h.connection_lt c hc
      rw [hid] at hlt
      exact Nat.lt_irrefl _ hlt
    rw [List.filter_append, List.filter_eq_self.2 hold]
    simp
  have hblocks := h.blocks_eq (hlinked.unlinked hmem)
    ((shape_unlinked _ _).trans (shape_linked p source target)) hconnections
  have hdisconnect := disconnect_of_mem hlinked hmem
  rw [hdisconnect]
  refine congrArg (Prod.mk _) ?_
  change (⟨_, _, _, _, _, _⟩ : Pipeline) = _
  rw [Pipeline.mk.injEq]
  exact ⟨rfl, rfl, rfl, hblocks, hconnections, rfl⟩

end Consistent

/-- **Two ports can be joined exactly if they go together and nothing ends at the input, and then
it can be undone.**  What is refused is refused for the first thing that is wrong.  What is joined
comes last in all records, and taking it out again restores them. -/
theorem Reachable.connect_undone {t : Toolbox} (hp : Reachable t p) (source target : PortRef) :
    ((∃ id, (p.connect source target).1 = .ok id) ↔ ∃ output input, p.IsOutput source output ∧
        p.IsInput target input ∧ p.Fits output input ∧ p.Free target) ∧
      (∀ output input, p.IsOutput source output → p.IsInput target input →
        (¬p.Fits output input → (p.connect source target).1 =
          .error (.incompatibleFormat output.format input.format)) ∧
        (p.Fits output input → ¬p.Free target →
          (p.connect source target).1 = .error (.portOccupied target))) ∧
      ∀ id q, p.connect source target = (.ok id, q) →
        q.feeder? target = some source ∧
          (∃ port, q.port? source = some port ∧ port.connections.getLast? = some id) ∧
          q.connections.getLast? = some ⟨id, source, target⟩ ∧
          q.disconnect id =
            (.ok ⟨id, source, target⟩, { p with ids := q.ids, unsaved := true }) := by
  have h := hp.consistent.1
  refine ⟨?_, fun output input hout hin => ?_, fun id q hq => ?_⟩
  · rw [← h.joinable_iff]
    constructor
    · rintro ⟨id, hid⟩
      exact (connect_eq_ok_iff.1 (Prod.ext hid rfl)).1
    · intro hj
      exact ⟨_, congrArg Prod.fst (connect_of_joinable hj)⟩
  · obtain ⟨hunfit, htaken, -⟩ := h.connectError?_of_ports hout hin
    constructor
    · intro hfits
      rw [connect, hunfit hfits]
    · intro hfits hfree
      rw [connect, htaken hfits hfree]
  · obtain ⟨hj, rfl, rfl⟩ := connect_eq_ok_iff.1 hq
    obtain ⟨hfeeder, hport, hlast⟩ := h.linked_last hj
    exact ⟨hfeeder, hport, hlast, h.disconnect_linked hj⟩

end Pipeline

/-! ## A specimen -/

namespace Specimen

/-- A history that goes on with a module that has an input for text in place of a file. -/
def tangling : List Edit :=
  tangle ++ [.addModule "join" place, .connect (.output ⟨2⟩ 0) (.input ⟨4⟩ 0)]

/-- The pipeline of that history. -/
def knotted : Pipeline := tangling.foldl Pipeline.edit (.empty "knot" toolbox)

theorem reachable_knotted : Pipeline.Reachable toolbox knotted :=
  (Pipeline.Reachable.empty "knot").edits tangling

end Specimen

/-- A module is joined to itself and taken off again.  Its other inputs are refused to a source, one
for its format and one for what is connected. -/
theorem Pipeline.connect_undone_knotted :
    Reachable Specimen.toolbox Specimen.knotted ∧
      (∃ q, Specimen.knotted.connect (.output ⟨4⟩ 1) (.input ⟨4⟩ 1) = (.ok ⟨4⟩, q) ∧
        q.feeder? (.input ⟨4⟩ 1) = some (.output ⟨4⟩ 1) ∧
        q.disconnect ⟨4⟩ = (.ok ⟨⟨4⟩, .output ⟨4⟩ 1, .input ⟨4⟩ 1⟩,
          { Specimen.knotted with ids := q.ids, unsaved := true })) ∧
      (Specimen.knotted.connect (.output ⟨0⟩ 0) (.input ⟨4⟩ 2)).1 =
        .error (.incompatibleFormat "text" "arg") ∧
      (Specimen.knotted.connect (.output ⟨0⟩ 0) (.input ⟨4⟩ 0)).1 =
        .error (.portOccupied (.input ⟨4⟩ 0)) := by
  have hp := Specimen.reachable_knotted
  have hsource : Specimen.knotted.IsOutput (.output ⟨0⟩ 0) ⟨Specimen.text "in" true, 0, []⟩ :=
    ⟨rfl, by decide⟩
  have hnote : Specimen.knotted.IsInput (.input ⟨4⟩ 2) ⟨⟨"note", argFormat, false⟩, 2, []⟩ :=
    ⟨rfl, by decide⟩
  have hleft : Specimen.knotted.IsInput (.input ⟨4⟩ 0) ⟨Specimen.text "left" true, 0, [⟨3⟩]⟩ :=
    ⟨rfl, by decide⟩
  have hunfit : ¬Specimen.knotted.Fits ⟨Specimen.text "in" true, 0, []⟩
      ⟨⟨"note", argFormat, false⟩, 2, []⟩ :=
    mt FormatCatalog.accepts_iff.2 (by decide)
  have htaken : ¬Specimen.knotted.Free (.input ⟨4⟩ 0) := by
    rw [Pipeline.Free]
    decide
  have hnumber : (Specimen.knotted.connect (.output ⟨4⟩ 1) (.input ⟨4⟩ 1)).1 = .ok ⟨4⟩ := by
    decide
  obtain ⟨hfeeder, -, -, hundone⟩ :=
    (Reachable.connect_undone hp (.output ⟨4⟩ 1) (.input ⟨4⟩ 1)).2.2 ⟨4⟩ _ (Prod.ext hnumber rfl)
  exact ⟨hp, ⟨_, Prod.ext hnumber rfl, hfeeder, hundone⟩,
    ((Reachable.connect_undone hp _ _).2.1 _ _ hsource hnote).1 hunfit,
    ((Reachable.connect_undone hp _ _).2.1 _ _ hsource hleft).2 (.inl rfl) htaken⟩

end Flowscript
