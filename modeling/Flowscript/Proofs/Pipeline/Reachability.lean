import Flowscript.Proofs.Pipeline.Restoring

/-!
# Pipelines that edits lead to

A pipeline starts out empty or is loaded from a text, and then it is edited.  Whatever the edits
are, and whether they succeed or fail, its records of connections stay in step.

* `Edit` is one edit, and `Pipeline.edit` the pipeline after it.
* `Pipeline.Reachable` are the pipelines that can come about with a toolbox.
* `Pipeline.Reachable.consistent` carries the invariant through a whole history.
* `Pipeline.WellFormed` says what holds of blocks, ports, connections and numbers, and
  `Pipeline.Reachable.always_wellFormed` that it always holds.
-/

set_option autoImplicit false

namespace Flowscript

/-! ## Histories -/

/-- An edit of a pipeline. -/
inductive Edit where
  | addSource (column : String) (parameter : Parameter) (position : Position)
  | addSink (column : String) (parameter : Parameter) (position : Position)
  | addModule (name : String) (position : Position)
  | connect (source target : PortRef)
  | disconnect (id : ConnectionId)
  | delete (id : BlockId)
  | move (id : BlockId) (position : Position)
  | rename (name : String)
  | markSaved
  deriving DecidableEq, Repr

namespace Pipeline

/-- The pipeline after an edit, also when the edit fails. -/
def edit (p : Pipeline) : Edit → Pipeline
  | .addSource column parameter position => (p.addSource column parameter position).2
  | .addSink column parameter position => (p.addSink column parameter position).2
  | .addModule name position => (p.addModule name position).2
  | .connect source target => (p.connect source target).2
  | .disconnect id => (p.disconnect id).2
  | .delete id => (p.delete id).2
  | .move id position => (p.move id position).2
  | .rename name => p.rename name
  | .markSaved => p.markSaved

/-- The pipelines that come about with a toolbox. -/
inductive Reachable (t : Toolbox) : Pipeline → Prop
  | empty (name : String) : Reachable t (.empty name t)
  | loaded {text : String} {p : Pipeline} (h : ofJson text t = .ok p) : Reachable t p
  | edited {p : Pipeline} (h : Reachable t p) (e : Edit) : Reachable t (p.edit e)

theorem Reachable.edits {t : Toolbox} {p : Pipeline} (h : Reachable t p) (es : List Edit) :
    Reachable t (es.foldl edit p) := by
  induction es generalizing p with
  | nil => exact h
  | cons e rest ih => exact ih (h.edited e)

/-! ## The invariant along a history -/

theorem insertNew_toolbox (p : Pipeline) (make : BlockId → Block) :
    (p.insertNew make).2.toolbox = p.toolbox := by
  rw [insertNew_snd, insert]
  split <;> rfl

theorem disconnect_toolbox (p : Pipeline) (id : ConnectionId) :
    (p.disconnect id).2.toolbox = p.toolbox := by
  rw [disconnect]
  split <;> rfl

theorem disconnectAll_toolbox (ids : List ConnectionId) :
    ∀ p : Pipeline, (p.disconnectAll ids).2.toolbox = p.toolbox := by
  induction ids with
  | nil => exact fun _ => rfl
  | cons id rest ih =>
    intro p
    have htool := disconnect_toolbox p id
    rw [disconnectAll]
    split
    · rename_i hr
      rw [hr] at htool
      exact htool
    · rename_i q hr
      rw [hr] at htool
      exact (ih q).trans htool

/-- No edit exchanges the toolbox. -/
theorem edit_toolbox (p : Pipeline) (e : Edit) : (p.edit e).toolbox = p.toolbox := by
  cases e with
  | addSource column parameter position =>
    rw [edit, addSource]
    split
    · rfl
    · exact insertNew_toolbox _ _
  | addSink column parameter position =>
    rw [edit, addSink]
    split
    · rfl
    · exact insertNew_toolbox _ _
  | addModule name position =>
    rw [edit, addModule]
    split
    · rfl
    · exact insertNew_toolbox _ _
  | connect source target => exact connect_toolbox p source target
  | disconnect id => exact disconnect_toolbox p id
  | delete id =>
    rw [edit, delete]
    split
    · rfl
    · rename_i b _
      have htool := disconnectAll_toolbox b.touching p
      split
      · rename_i h
        rw [h] at htool
        exact htool
      · rename_i q h
        rw [h] at htool
        split <;> exact htool
  | move id position =>
    rw [edit, move]
    split <;> rfl
  | rename name => rfl
  | markSaved => rfl

/-- **One edit leaves a consistent pipeline consistent.** -/
theorem Consistent.edit {p : Pipeline} (h : p.Consistent) (e : Edit) : (p.edit e).Consistent := by
  cases e with
  | addSource column parameter position => exact h.addSource column parameter position
  | addSink column parameter position => exact h.addSink column parameter position
  | addModule name position => exact h.addModule name position
  | connect source target => exact h.connect source target
  | disconnect id => exact h.disconnect id
  | delete id => exact h.delete id
  | move id position => exact h.move id position
  | rename name => exact h.rename name
  | markSaved => exact h.markSaved

theorem Consistent.ofJson {text : String} {t : Toolbox} {p : Pipeline}
    (h : Pipeline.ofJson text t = .ok p) : p.Consistent ∧ p.toolbox = t := by
  rw [Pipeline.ofJson] at h
  cases hd : PipelineDocument.ofJson text with
  | error e => simp [hd, bind, Except.bind] at h
  | ok d =>
    simp only [hd, bind, Except.bind] at h
    exact Consistent.ofDocument h

/-- **Whatever its history, a pipeline is consistent.** -/
theorem Reachable.consistent {t : Toolbox} {p : Pipeline} (h : Reachable t p) :
    p.Consistent ∧ p.toolbox = t := by
  induction h with
  | empty name => exact ⟨Consistent.empty name t, rfl⟩
  | loaded h => exact Consistent.ofJson h
  | edited _ e ih => exact ⟨ih.1.edit e, (edit_toolbox _ e).trans ih.2⟩

/-! ## What consistency comes to -/

/-- What a reader of a pipeline can rely on. -/
structure WellFormed (p : Pipeline) : Prop where
  /-- A block is stored under its own number, and so is a connection. -/
  stored : (∀ b ∈ p.blocks, p.block? b.id = some b) ∧
    ∀ c ∈ p.connections, p.connection? c.id = some c
  /-- A port has the number of its place, and its format is known. -/
  numbered : ∀ ref port, p.port? ref = some port →
    port.index = ref.index ∧ p.toolbox.formats.contains port.format = true
  /-- A connection goes from an output to an input that accepts it. -/
  joins : ∀ c ∈ p.connections, c.source.side = .output ∧ c.target.side = .input ∧
    ∃ output input, p.port? c.source = some output ∧ p.port? c.target = some input ∧
      p.toolbox.formats.accepts output.format input.format = true
  /-- The two ends of a connection list it once, and no other port does. -/
  listed : ∀ ref port, p.port? ref = some port → ∀ c ∈ p.connections,
    port.connections.count c.id = if ref = c.source ∨ ref = c.target then 1 else 0
  /-- What a port lists is there. -/
  dangling : ∀ ref port, p.port? ref = some port →
    ∀ id ∈ port.connections, ∃ c ∈ p.connections, c.id = id
  /-- An input has one connection at most. -/
  single : ∀ ref port, p.port? ref = some port → ref.side = .input → port.connections.length ≤ 1
  /-- Connections are in the order in which they were made, here and at every port. -/
  sorted : p.connections.Pairwise (fun c d => c.id.number < d.id.number) ∧
    ∀ ref port, p.port? ref = some port →
      port.connections.Pairwise fun i j => i.number < j.number
  /-- The numbers that come next are above all that are in use. -/
  counted : (∀ b ∈ p.blocks, b.id.number < p.ids.nextBlock) ∧
    ∀ c ∈ p.connections, c.id.number < p.ids.nextConnection

theorem Consistent.attached_sorted {p : Pipeline} (h : p.Consistent) (ref : PortRef) :
    (p.attached ref).Pairwise fun i j => i.number < j.number := by
  rw [attached, List.pairwise_map]
  exact h.sorted.filter _

theorem Consistent.count_attached {p : Pipeline} (h : p.Consistent) (ref : PortRef)
    {c : Connection} (hc : c ∈ p.connections) :
    (p.attached ref).count c.id = if ref = c.source ∨ ref = c.target then 1 else 0 := by
  have hnodup : (p.attached ref).Nodup :=
    h.nodup_connectionIds.sublist (List.filter_sublist.map _)
  split
  · rename_i hend
    rw [List.count_eq_one_of_mem hnodup]
    exact mem_attached.2 ⟨c, hc, rfl, hend.imp Eq.symm Eq.symm⟩
  · rename_i hend
    rw [List.count_eq_zero]
    intro hid
    obtain ⟨d, hd, hdid, he⟩ := mem_attached.1 hid
    rw [List.inj_on_of_nodup_map h.nodup_connectionIds hd hc hdid] at he
    exact hend (he.imp Eq.symm Eq.symm)

/-- Targets are distinct, and so not more than one connection ends at an input. -/
theorem Consistent.length_attached {p : Pipeline} (h : p.Consistent) {ref : PortRef}
    (hside : ref.side = .input) : (p.attached ref).length ≤ 1 := by
  rw [attached, List.length_map]
  have htarget : ∀ c ∈ p.connections.filter (fun c => c.source == ref || c.target == ref),
      c.target = ref := by
    intro c hc
    obtain ⟨hmem, hend⟩ := List.mem_filter.1 hc
    rw [Bool.or_eq_true, beq_iff_eq, beq_iff_eq] at hend
    rcases hend with he | he
    · have hout := (h.joined c hmem).source_side
      rw [he, hside] at hout
      cases hout
    · exact he
  have hsub : (p.connections.filter fun c => c.source == ref || c.target == ref).Sublist
      p.connections := List.filter_sublist
  have hnodup := h.nodup_targets.sublist (hsub.map (·.target))
  rw [List.map_congr_left (g := fun _ => ref) htarget, List.map_const', List.nodup_replicate]
    at hnodup
  exact hnodup

theorem Consistent.wellFormed {p : Pipeline} (h : p.Consistent) (ht : p.toolbox.Built) :
    p.WellFormed where
  stored := ⟨fun b hb => block?_of_mem h.nodup_ids hb, fun c hc => h.connection?_of_mem hc⟩
  numbered := by
    intro ref port hp
    obtain ⟨b, hb, hport⟩ := port?_eq_some_iff.1 hp
    have hclear : b.cleared.port? ref.side ref.index = some (Block.clearPort port) := by
      rw [Block.port?_cleared, hport]
      rfl
    have hf := (h.fresh_of_mem (mem_blocks_of_block? hb).1).port? ht hclear
    exact hf
  joins := by
    intro c hc
    obtain ⟨hs, htg, output, input, hout, hin, hacc⟩ := h.joined c hc
    obtain ⟨o, ho, rfl⟩ := Option.map_eq_some_iff.1 hout
    obtain ⟨i, hi, rfl⟩ := Option.map_eq_some_iff.1 hin
    exact ⟨hs, htg, o, i, ho, hi, hacc⟩
  listed := by
    intro ref port hp c hc
    rw [h.listed ref port hp]
    exact h.count_attached ref hc
  dangling := by
    intro ref port hp id hid
    rw [h.listed ref port hp] at hid
    obtain ⟨c, hc, he, -⟩ := mem_attached.1 hid
    exact ⟨c, hc, he⟩
  single := by
    intro ref port hp hside
    rw [h.listed ref port hp]
    exact h.length_attached hside
  sorted := by
    refine ⟨h.sorted, fun ref port hp => ?_⟩
    rw [h.listed ref port hp]
    exact h.attached_sorted ref
  counted := ⟨h.block_lt, h.connection_lt⟩

/-- **Whatever its history, a pipeline keeps its three records of each connection in step.** -/
theorem Reachable.always_wellFormed {t : Toolbox} (ht : t.Built) {p : Pipeline} (h : Reachable t p) :
    p.WellFormed := by
  obtain ⟨hcons, rfl⟩ := h.consistent
  exact hcons.wellFormed ht

end Pipeline

/-! ## A specimen -/

namespace Specimen

/-- Two formats: plain text, and text in place of a file. -/
def catalog : FormatCatalog := ⟨[.define "text" "txt" none .grey, .arg]⟩

/-- A port for plain text. -/
def text (name : String) (required : Bool) : Parameter := ⟨name, "text", required⟩

/-- A module with one input and one output. -/
def sort : ModuleDef :=
  ⟨"sort", [text "in" true], [text "out" true],
    .parse "sort \x7bin\x7d > \x7bout\x7d" ["in", "out"]⟩

/-- A module with two outputs and with inputs that may stay unconnected. -/
def join : ModuleDef :=
  ⟨"join", [text "left" true, text "right" false, ⟨"note", argFormat, false⟩],
    [text "joined" true, text "log" true],
    .parse "join \x7bleft\x7d \x7bright\x7d \x7bnote\x7d > \x7bjoined\x7d 2> \x7blog\x7d"
      ["left", "right", "note", "joined", "log"]⟩

/-- A toolbox with these two modules. -/
def toolbox : Toolbox := ⟨"Specimen", none, catalog, [sort, join], none⟩

theorem toolbox_built : toolbox.Built :=
  .register (.register (.bare _ none catalog none) (m := sort) rfl) (m := join) rfl

theorem toolbox_defined : ∀ m ∈ toolbox.modules, m.IsDefined := by
  intro m hm
  rcases List.mem_cons.1 hm with rfl | hm
  · exact ModuleDef.isDefined_of rfl rfl (by decide +kernel)
  · rw [List.mem_singleton.1 hm]
    exact ModuleDef.isDefined_of rfl rfl (by decide +kernel)

theorem catalog_isDefined : catalog.IsDefined := by
  intro f hf
  rcases List.mem_cons.1 hf with rfl | hf
  · exact ⟨"text", "txt", none, .grey, rfl⟩
  · rw [List.mem_singleton.1 hf]
    exact ⟨argFormat, "", none, .grey, rfl⟩

/-- The place at 12.5 from the left and at the top of the canvas. -/
def place : Position := ⟨⟨false, 7036874417766400, -49⟩, .zero false⟩

/-- A history with a module that feeds itself as well as two other blocks.  The last connection is
refused, since there is another one at its input, and one block is deleted in the end. -/
def tangle : List Edit :=
  [.addSource "in" (text "in" true) place, .addModule "sort" place, .addModule "sort" place,
    .addSink "out" (text "out" true) place, .connect (.output ⟨1⟩ 0) (.input ⟨1⟩ 0),
    .connect (.output ⟨1⟩ 0) (.input ⟨2⟩ 0), .connect (.output ⟨1⟩ 0) (.input ⟨3⟩ 0),
    .connect (.output ⟨0⟩ 0) (.input ⟨2⟩ 0), .delete ⟨3⟩]

/-- The pipeline of that history. -/
def tangled : Pipeline := tangle.foldl Pipeline.edit (.empty "tangle" toolbox)

theorem reachable_tangled : Pipeline.Reachable toolbox tangled :=
  (Pipeline.Reachable.empty "tangle").edits tangle

end Specimen

/-- The history leaves two of three connections, and all its records agree. -/
theorem Pipeline.wellFormed_tangled :
    Specimen.toolbox.Built ∧ Pipeline.Reachable Specimen.toolbox Specimen.tangled ∧
      Specimen.tangled.connections.length = 2 ∧ Specimen.tangled.WellFormed :=
  ⟨Specimen.toolbox_built, Specimen.reachable_tangled, by decide,
    Reachable.always_wellFormed Specimen.toolbox_built Specimen.reachable_tangled⟩

end Flowscript
