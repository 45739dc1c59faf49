import Flowscript.Proofs.Pipeline.Saving

/-!
# Reading what was saved

The text of a document tells all of it, and where it is read at all it is read as the document it
was, with every block where the text of its place is read to be.  Nothing is asked here of the
numbers that place the blocks.

* `Position.reread` is what a place is read to be.
* `PipelineDocument.eq_placed_of_ofJson` is about documents, and `PipelineDocument.ids_of_ofJson`
  about the numbers in them.
* `Pipeline.Consistent.loads_alike` carries this over to pipelines.
-/

set_option autoImplicit false

namespace Flowscript

open Json

/-! ## Entries -/

/-- The place that the text of a place is read to be. -/
def Position.reread (x : Position) : Position := (ofValue? x.value).getD x

theorem Position.eq_reread {x y : Position} (h : ofValue? x.value = some y) : y = x.reread := by
  rw [reread, h]
  rfl

theorem BlockId.eq_of_ofValue? {id id' : BlockId} (h : ofValue? (.ofNat id.number) = some id') :
    id' = id ∧ id.number < Text.word64Limit := by
  obtain ⟨n, hn, rfl⟩ := Option.map_eq_some_iff.1 h
  obtain ⟨rfl, hlt⟩ := Numeral.eq_of_natural?_ofNat hn
  exact ⟨rfl, hlt⟩

/-- The entry with its block put elsewhere on the canvas. -/
def TerminalEntry.placed (f : Position → Position) (e : TerminalEntry) : TerminalEntry :=
  { e with position := f e.position }

/-- The entry with its block put elsewhere on the canvas. -/
def ModuleEntry.placed (f : Position → Position) (e : ModuleEntry) : ModuleEntry :=
  { e with position := f e.position }

theorem TerminalEntry.eq_of_ofValue? {port : String} (hport : port = "output" ∨ port = "input")
    {e e' : TerminalEntry} (h : ofValue? port (e.value port) = some e') :
    e' = e.placed Position.reread ∧ e.id.number < Text.word64Limit := by
  have hparameter := e.parameter.ofValue?_value
  rcases hport with rfl | rfl
  all_goals
    rw [ofValue?, value, record?_ofMembers (by rfl) (by decide)] at h
    simp only [Option.bind_eq_bind, Option.bind_some, Option.bind_eq_some_iff] at h
    obtain ⟨column, hcolumn, id, hid, position, hposition, parameter, hread, h⟩ := h
    cases h
    cases hcolumn
    obtain ⟨rfl, hlt⟩ := BlockId.eq_of_ofValue? hid
    obtain rfl := Position.eq_reread hposition
    obtain rfl : e.parameter = parameter := Option.some.inj (hparameter.symm.trans hread)
    exact ⟨rfl, hlt⟩

theorem ModuleEntry.eq_of_ofValue? {e e' : ModuleEntry} (h : ofValue? e.value = some e') :
    e' = e.placed Position.reread ∧ e.id.number < Text.word64Limit := by
  rw [ofValue?, value, record?_ofMembers (by rfl) (by decide)] at h
  simp only [Option.bind_eq_bind, Option.bind_some, Option.bind_eq_some_iff] at h
  obtain ⟨name, hname, id, hid, position, hposition, h⟩ := h
  cases h
  cases hname
  obtain ⟨rfl, hlt⟩ := BlockId.eq_of_ofValue? hid
  obtain rfl := Position.eq_reread hposition
  exact ⟨rfl, hlt⟩

theorem ConnectionEntry.eq_of_ofValue? {e e' : ConnectionEntry} (h : ofValue? e.value = some e') :
    e' = e :=
  Option.some.inj (h.symm.trans e.ofValue?_value)

/-- What is read of each item is read of the list. -/
theorem eq_map_of_list? {α : Type} {items items' : List α} {value : α → Value}
    {item? : Value → Option α} {f : α → α} {P : α → Prop}
    (hitem : ∀ a a', item? (value a) = some a' → a' = f a ∧ P a)
    (h : Value.list? item? (.array (items.map value)) = some items') :
    items' = items.map f ∧ ∀ a ∈ items, P a := by
  rw [Value.list?, List.mapM_map] at h
  induction items generalizing items' with
  | nil =>
    cases h
    exact ⟨rfl, by simp⟩
  | cons a rest ih =>
    rw [List.mapM_cons] at h
    simp only [Option.bind_eq_bind, Option.bind_eq_some_iff] at h
    obtain ⟨a', ha, rest', hrest, h⟩ := h
    cases h
    obtain ⟨rfl, hfirst⟩ := hitem a a' ha
    obtain ⟨rfl, hall⟩ := ih hrest
    exact ⟨rfl, List.forall_mem_cons.2 ⟨hfirst, hall⟩⟩

/-! ## Documents -/

namespace PipelineDocument

/-- The numbers of the blocks. -/
def ids (d : PipelineDocument) : List BlockId :=
  d.sources.map (·.id) ++ (d.sinks.map (·.id) ++ d.modules.map (·.id))

/-- The document with its blocks put elsewhere on the canvas. -/
def placed (d : PipelineDocument) (f : Position → Position) : PipelineDocument :=
  { d with
    sources := d.sources.map (·.placed f)
    sinks := d.sinks.map (·.placed f)
    modules := d.modules.map (·.placed f) }

theorem ids_placed (d : PipelineDocument) (f : Position → Position) : (d.placed f).ids = d.ids := by
  simp only [ids, placed, List.map_map]
  rfl

theorem eq_placed_of_ofValue? {d d' : PipelineDocument} (h : ofValue? d.value = some d') :
    d' = d.placed Position.reread ∧ ∀ id ∈ d.ids, id.number < Text.word64Limit := by
  rw [ofValue?, value, record?_ofMembers (by rfl) (by decide)] at h
  simp only [Option.bind_eq_bind, Option.bind_some, Option.bind_eq_some_iff] at h
  obtain ⟨name, hname, sources, hsources, sinks, hsinks, modules, hmodules, connections,
    hconnections, h⟩ := h
  cases h
  cases hname
  obtain ⟨rfl, hs⟩ := eq_map_of_list?
    (fun e e' => TerminalEntry.eq_of_ofValue? (.inl rfl)) hsources
  obtain ⟨rfl, ht⟩ := eq_map_of_list?
    (fun e e' => TerminalEntry.eq_of_ofValue? (.inr rfl)) hsinks
  obtain ⟨rfl, hm⟩ := eq_map_of_list? (fun e e' => ModuleEntry.eq_of_ofValue?) hmodules
  obtain ⟨rfl, -⟩ := eq_map_of_list? (f := id) (P := fun _ => True)
    (fun e e' he => ⟨ConnectionEntry.eq_of_ofValue? he, trivial⟩) hconnections
  refine ⟨by rw [List.map_id]; rfl, ?_⟩
  simp only [ids, List.mem_append, List.mem_map]
  rintro id (⟨e, he, rfl⟩ | ⟨e, he, rfl⟩ | ⟨e, he, rfl⟩)
  · exact hs e he
  · exact ht e he
  · exact hm e he

/-- **A document that is read is the one that was saved, with its places as they are read.** -/
theorem eq_placed_of_ofJson {d d' : PipelineDocument} (h : ofJson d.toJson = .ok d') :
    d' = d.placed Position.reread ∧ ∀ id ∈ d.ids, id.number < Text.word64Limit := by
  rw [ofJson, read?_toJson, Option.bind_some] at h
  split at h
  · rename_i hd
    cases h
    exact eq_placed_of_ofValue? hd
  · cases h

/-- **A document that was saved and is read has the same numbers.** -/
theorem ids_of_ofJson {d d' : PipelineDocument} (h : ofJson d.toJson = .ok d') : d'.ids = d.ids := by
  rw [(eq_placed_of_ofJson h).1, ids_placed]

theorem ids_ofPipeline {p : Pipeline} (h : p.Consistent) :
    (ofPipeline p).ids.Perm (p.blocks.map (·.id)) := by
  have hsources := congrArg (List.map Block.id) h.restored_sources
  have hsinks := congrArg (List.map Block.id) h.restored_sinks
  rw [List.map_map] at hsources hsinks
  have hids : (ofPipeline p).ids = p.stored.map (·.id) := by
    rw [ids, Pipeline.stored, List.map_append, List.map_append, ← hsources, ← hsinks,
      Pipeline.modules_ofPipeline, List.map_map]
    rfl
  rw [hids, ← Pipeline.map_id_shape]
  exact (Pipeline.stored_perm p).map _

/-- The document of a pipeline whose blocks are put elsewhere. -/
theorem ofPipeline_placed (p : Pipeline) (f : Position → Position) :
    ofPipeline (p.placed fun b => f b.position) = (ofPipeline p).placed f := by
  have hsorted : sortedBlocks (p.placed fun b => f b.position) =
      (sortedBlocks p).map fun b => { b with position := f b.position } := by
    symm
    exact List.map_mergeSort fun a _ b _ => rfl
  have hentries : ∀ {α : Type} (item? : Block → Option α) (move : α → α),
      (∀ b : Block, item? { b with position := f b.position } = (item? b).map move) →
      (sortedBlocks (p.placed fun b => f b.position)).filterMap item? =
        ((sortedBlocks p).filterMap item?).map move := by
    intro α item? move hitem
    rw [hsorted, List.filterMap_map, List.map_filterMap]
    exact List.filterMap_congr fun b _ => hitem b
  have hendpoint : ∀ ref, (p.placed fun b => f b.position).endpoint? ref = p.endpoint? ref := by
    intro ref
    rw [Pipeline.endpoint?, Pipeline.endpoint?, Pipeline.block?_placed]
    cases p.block? ref.block <;> rfl
  have hconnections : entryOfConnection? (p.placed fun b => f b.position) = entryOfConnection? p :=
    funext fun c => by simp only [entryOfConnection?, hendpoint]
  have hsources := hentries entryOfSource? (TerminalEntry.placed f) ?_
  have hsinks := hentries entryOfSink? (TerminalEntry.placed f) ?_
  have hmodules := hentries entryOfModule? (ModuleEntry.placed f) ?_
  · rw [ofPipeline, ofPipeline]
    simp only [hsources, hsinks, hmodules, hconnections]
    rfl
  all_goals
    rintro ⟨id, position, kind⟩
    cases kind <;> rfl

end PipelineDocument

/-! ## Pipelines -/

namespace Pipeline

open PipelineDocument

variable {p q : Pipeline}

/-- **A pipeline that is loaded from the text of another one has its name, its blocks, wherever they
stand, and the ends of its connections.** -/
theorem Consistent.loads_alike (h : p.Consistent) (ht : p.toolbox.Built)
    (hdef : ∀ m ∈ p.toolbox.modules, m.IsDefined)
    (hq : Pipeline.ofJson p.toJson p.toolbox = .ok q) :
    q.Consistent ∧ q.name = p.name ∧
      q.shape.Perm (p.placed fun b => b.position.reread).shape ∧ q.ends = p.ends := by
  rw [Pipeline.ofJson] at hq
  cases hd : PipelineDocument.ofJson p.toJson with
  | error e => simp [hd, bind, Except.bind] at hq
  | ok d =>
    simp only [hd, bind, Except.bind] at hq
    obtain ⟨rfl, hlt⟩ := eq_placed_of_ofJson hd
    rw [← ofPipeline_placed] at hq
    have hlt' : ∀ b ∈ (p.placed fun b => b.position.reread).blocks,
        b.id.number < Text.word64Limit := by
      intro b hb
      obtain ⟨b, hmem, rfl⟩ := List.mem_map.1 hb
      exact hlt b.id ((ids_ofPipeline h).symm.subset (List.mem_map_of_mem hmem))
    obtain ⟨q', hq', hcons, -, hname, hshape, hends⟩ :=
      (h.placed fun b => b.position.reread).ofDocument_ofPipeline ht hdef hlt'
    obtain rfl : q' = q := Except.ok.inj (hq'.symm.trans hq)
    exact ⟨hcons, hname, hshape, hends⟩

end Pipeline

end Flowscript
