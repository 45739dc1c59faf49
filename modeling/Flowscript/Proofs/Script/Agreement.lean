import Flowscript.Proofs.Pipeline.Saving
import Flowscript.Proofs.Pipeline.Upstream
import Flowscript.Script.Compile

/-!
# Pipelines that compile alike

A script is made of the sinks of a pipeline and of what is upstream of them.  Compiling sees what
these blocks are and what feeds them, but neither where they stand nor how their connections are
numbered.

* `Block.bare` is what compiling sees of a block, and `BlockKind.Alike` compares two blocks that look
  the same.
* `Pipeline.AgreeOn` says that two pipelines look the same on some blocks and on all that feeds them.
* `Pipeline.AgreeOn.walk_eq` is about the walk, and the lemmas after it about each step of compiling.
* `Pipeline.AgreeOn.compile_eq` is the result for whole scripts.
-/

set_option autoImplicit false

namespace Flowscript

/-! ## What is seen of a block -/

/-- The corner of the canvas. -/
def Position.corner : Position := ⟨.zero false, .zero false⟩

/-- Kinds that differ in what is connected at most. -/
inductive BlockKind.Alike : BlockKind → BlockKind → Prop
  | source (column : String) {o o' : Port} (h : Block.clearPort o = Block.clearPort o') :
      Alike (.source column o) (.source column o')
  | module (definition : ModuleDef) {i i' o o' : List Port}
      (hi : i.map Block.clearPort = i'.map Block.clearPort)
      (ho : o.map Block.clearPort = o'.map Block.clearPort) :
      Alike (.module definition i o) (.module definition i' o')
  | sink (column : String) {i i' : Port} (h : Block.clearPort i = Block.clearPort i') :
      Alike (.sink column i) (.sink column i')

namespace Block

/-- The block with nothing connected, in the corner of the canvas. -/
def bare (b : Block) : Block := { b.cleared with position := .corner }

@[simp] theorem bare_id (b : Block) : b.bare.id = b.id := b.cleared_id

theorem bare_isSink (b : Block) : b.bare.isSink = b.isSink := by
  obtain ⟨id, position, kind⟩ := b
  cases kind <;> rfl

theorem bare_isModule (b : Block) : b.bare.isModule = b.isModule := by
  obtain ⟨id, position, kind⟩ := b
  cases kind <;> rfl

theorem inputs_bare (b : Block) : b.bare.inputs = b.inputs.map clearPort := b.ports_cleared .input

variable {b b' : Block}

theorem id_eq_of_bare (h : b.bare = b'.bare) : b.id = b'.id := by
  rw [← b.bare_id, h, bare_id]

/-- **Blocks that look the same are of one kind.** -/
theorem alike_of_bare (h : b.bare = b'.bare) : b.kind.Alike b'.kind := by
  obtain ⟨id, position, kind⟩ := b
  obtain ⟨id', position', kind'⟩ := b'
  have hkind := congrArg Block.kind h
  cases kind <;> cases kind' <;> try cases hkind
  case source.source column o column' o' =>
    injection hkind with hcolumn ho
    subst hcolumn
    exact .source column ho
  case module.module definition i o definition' i' o' =>
    injection hkind with hdefinition hi ho
    subst hdefinition
    exact .module definition hi ho
  case sink.sink column i column' i' =>
    injection hkind with hcolumn hi
    subst hcolumn
    exact .sink column hi

end Block

namespace Pipeline

/-! ## Agreement -/

/-- Two pipelines look the same on some blocks, and what feeds one of these is one of these. -/
structure AgreeOn (p q : Pipeline) (N : BlockId → Prop) : Prop where
  toolbox : q.toolbox = p.toolbox
  block : ∀ id, N id → (q.block? id).map Block.bare = (p.block? id).map Block.bare
  feeder : ∀ id i, N id → q.feeder? (.input id i) = p.feeder? (.input id i)
  closed : ∀ id i source, N id → p.feeder? (.input id i) = some source → N source.block

theorem feeders_bare (p : Pipeline) (b : Block) : p.feeders b.bare = p.feeders b := by
  rw [feeders, feeders, b.inputs_bare, List.filterMap_map, b.bare_id]
  rfl

namespace AgreeOn

variable {p q : Pipeline} {N : BlockId → Prop} {id : BlockId}

/-- What is found in the one pipeline is found in the other. -/
theorem exists_block (h : p.AgreeOn q N) (hid : N id) {b : Block} (hb : p.block? id = some b) :
    ∃ b', q.block? id = some b' ∧ b'.bare = b.bare := by
  have hbare := h.block id hid
  rw [hb, Option.map_some] at hbare
  exact Option.map_eq_some_iff.1 hbare

theorem block?_eq_none (h : p.AgreeOn q N) (hid : N id) (hb : p.block? id = none) :
    q.block? id = none := by
  have hbare := h.block id hid
  rw [hb, Option.map_none] at hbare
  exact Option.map_eq_none_iff.1 hbare

theorem isModule_iff (h : p.AgreeOn q N) (hid : N id) : q.IsModule id ↔ p.IsModule id := by
  have hseen : ∀ r : Pipeline, r.IsModule id ↔
      ∃ b, (r.block? id).map Block.bare = some b ∧ b.isModule = true := by
    intro r
    simp only [IsModule, Option.map_eq_some_iff]
    constructor
    · rintro ⟨b, hb, hm⟩
      exact ⟨b.bare, ⟨b, hb, rfl⟩, b.bare_isModule.trans hm⟩
    · rintro ⟨_, ⟨b, hb, rfl⟩, hm⟩
      exact ⟨b, hb, b.bare_isModule.symm.trans hm⟩
  rw [hseen, hseen, h.block id hid]

theorem feeders_eq (h : p.AgreeOn q N) (hid : N id) {b b' : Block} (hb : p.block? id = some b)
    (hbare : b'.bare = b.bare) : q.feeders b' = p.feeders b := by
  rw [← feeders_bare q, hbare, feeders_bare, feeders, feeders]
  refine List.filterMap_congr fun port _ => ?_
  rw [block?_id hb, h.feeder id port.index hid]

theorem of_mem_feeders (h : p.AgreeOn q N) (hid : N id) {b : Block} (hb : p.block? id = some b)
    {a : BlockId} (ha : a ∈ p.feeders b) : N a := by
  rw [feeders, List.mem_filterMap] at ha
  obtain ⟨port, -, hport⟩ := ha
  obtain ⟨source, hsource, rfl⟩ := Option.map_eq_some_iff.1 hport
  rw [block?_id hb] at hsource
  exact h.closed id port.index source hid hsource

/-! ## The walk -/

/-- Walks from several blocks, if it is known that walks from one agree. -/
theorem walkAll_eq {path : List BlockId}
    (hwalk : ∀ seen id, N id → q.walk path seen id = p.walk path seen id ∧
      ∀ a, .enter a ∈ (p.walk path seen id).1 → N a)
    {ids : List BlockId} (hids : ∀ id ∈ ids, N id) :
    ∀ seen, q.walkAll path seen ids = p.walkAll path seen ids ∧
      ∀ a, .enter a ∈ (p.walkAll path seen ids).1 → N a := by
  induction ids with
  | nil => exact fun seen => ⟨rfl, fun a ha => absurd ha List.not_mem_nil⟩
  | cons id rest ih =>
    intro seen
    obtain ⟨heq, henters⟩ := hwalk seen id (hids id List.mem_cons_self)
    obtain ⟨hrest, hmore⟩ := ih (fun id hid => hids id (List.mem_cons_of_mem _ hid))
      (p.walk path seen id).2
    refine ⟨by simp only [walkAll, heq, hrest], fun a ha => ?_⟩
    rw [walkAll, List.mem_append] at ha
    exact ha.elim (henters a) (hmore a)

/-- **A walk from a block on which two pipelines agree is the same walk in both, and it does not
leave these blocks.** -/
theorem walk_eq (h : p.AgreeOn q N) (path : List BlockId) : ∀ seen id, N id →
    q.walk path seen id = p.walk path seen id ∧
      ∀ a, .enter a ∈ (p.walk path seen id).1 → N a := by
  -- The way grows with every step down, so fewer blocks are off it.
  induction hn : (p.offPath path).length using Nat.strongRecOn generalizing path with
  | _ n ih =>
    intro seen id hid
    by_cases hm : p.IsModule id
    · have hm' := (h.isModule_iff hid).2 hm
      by_cases hpath : id ∈ path
      · rw [walk_of_mem_path hm hpath, walk_of_mem_path hm' hpath]
        exact ⟨rfl, by simp⟩
      · by_cases hseen : id ∈ seen
        · rw [walk_of_mem_seen hpath hseen, walk_of_mem_seen hpath hseen]
          exact ⟨rfl, by simp⟩
        · obtain ⟨b, hb, hbm⟩ := hm
          obtain ⟨b', hb', hbare⟩ := h.exists_block hid hb
          have hbm' : b'.isModule = true := by
            rw [← b'.bare_isModule, hbare, b.bare_isModule, hbm]
          have hlt : (p.offPath (id :: path)).length < n :=
            hn ▸ length_offPath_cons_lt hb hpath
          obtain ⟨heq, henters⟩ := walkAll_eq (ih _ hlt (id :: path) rfl)
            (fun a ha => h.of_mem_feeders hid hb ha) (id :: seen)
          rw [walk_of_new hb hbm hpath hseen, walk_of_new hb' hbm' hpath hseen,
            h.feeders_eq hid hb hbare, heq]
          refine ⟨rfl, fun a ha => ?_⟩
          rcases List.mem_cons.1 ha with heq | ha
          · cases heq
            exact hid
          · exact henters a ha
    · rw [walk_of_not_isModule hm, walk_of_not_isModule fun hm' => hm ((h.isModule_iff hid).1 hm')]
      exact ⟨rfl, by simp⟩

end AgreeOn

end Pipeline

/-! ## Rules of modules -/

/-- Steps that agree make runs that agree, over items that look the same. -/
theorem foldlM_eq_of_map_eq {α κ σ ε : Type} {k : α → κ} {f g : σ → α → Except ε σ} {as : List α}
    (h : ∀ s, ∀ a ∈ as, ∀ b, k b = k a → g s b = f s a) :
    ∀ {bs : List α}, bs.map k = as.map k → ∀ s, bs.foldlM g s = as.foldlM f s := by
  induction as with
  | nil =>
    intro bs hbs s
    rw [List.map_eq_nil_iff.1 hbs]
    rfl
  | cons a as ih =>
    intro bs hbs s
    obtain ⟨b, bs, rfl, hb, hrest⟩ := List.map_eq_cons_iff.1 hbs
    rw [List.foldlM_cons, List.foldlM_cons, h s a List.mem_cons_self b hb]
    exact congrArg _ (funext fun s => ih (fun s a ha => h s a (List.mem_cons_of_mem _ ha)) hrest s)

namespace Compilation

theorem addModule_clearPort (c : Compilation) (row : Row) (d : ScriptDraft) (id : BlockId)
    (definition : ModuleDef) (inputs outputs : List Port) :
    c.addModule row d id definition (inputs.map Block.clearPort) (outputs.map Block.clearPort) =
      c.addModule row d id definition inputs outputs := by
  rw [addModule, addModule, List.mapM_map, List.map_map]
  rfl

theorem map_bare_sortedSinks (c : Compilation) : c.sortedSinks.map Block.bare =
    (c.pipeline.sinks.map Block.bare).mergeSort fun a b => a.id.number ≤ b.id.number := by
  rw [sortedSinks]
  refine List.map_mergeSort fun a _ b _ => ?_
  rw [Block.bare_id, Block.bare_id]

end Compilation

namespace Pipeline

namespace AgreeOn

open Compilation

variable {p q : Pipeline} {N : BlockId → Prop} {id : BlockId} {table : Table} {row : Row}
  {d : ScriptDraft}

theorem artifact_eq (h : p.AgreeOn q N) (row : Row) (id : BlockId) (i : Nat) (format : String) :
    (Compilation.mk q table).artifact row id i format =
      (Compilation.mk p table).artifact row id i format := by
  rw [artifact, artifact, h.toolbox]

theorem originOf_eq (h : p.AgreeOn q N) {ref : PortRef} (hid : N ref.block) :
    (Compilation.mk q table).originOf row ref = (Compilation.mk p table).originOf row ref := by
  rw [originOf, originOf]
  cases hb : p.block? ref.block with
  | none => simp only [h.block?_eq_none hid hb]
  | some b =>
    obtain ⟨b', hb', hbare⟩ := h.exists_block hid hb
    have hkind := Block.alike_of_bare hbare
    simp only [hb', Block.id_eq_of_bare hbare, h.artifact_eq]
    generalize b.kind = kind at hkind
    generalize b'.kind = kind' at hkind
    cases hkind with
    | source column ho =>
      injection ho with hparameter
      simp only [Port.format, hparameter]
      rfl
    | module definition hi ho =>
      rename_i outputs' outputs
      have hport : outputs'[ref.index]?.map Block.clearPort =
          outputs[ref.index]?.map Block.clearPort := by
        rw [← List.getElem?_map, ho, List.getElem?_map]
      cases ho : outputs[ref.index]? with
      | none =>
        rw [ho, Option.map_none, Option.map_eq_none_iff] at hport
        simp only [hport, ho]
      | some output =>
        rw [ho, Option.map_some, Option.map_eq_some_iff] at hport
        obtain ⟨output', ho', hclear⟩ := hport
        injection hclear with hparameter hindex
        simp only [ho', ho, Port.format, hparameter, hindex]
    | sink column hi => rfl

theorem inputValue_eq (h : p.AgreeOn q N) (hid : N id) (definition : ModuleDef) :
    (Compilation.mk q table).inputValue row id definition =
      (Compilation.mk p table).inputValue row id definition := by
  funext port
  rw [inputValue, inputValue]
  simp only [h.feeder id port.index hid]
  cases hsource : p.feeder? (.input id port.index) with
  | none => rfl
  | some source => simp only [h.originOf_eq (h.closed id port.index source hid hsource)]

theorem addModule_eq (h : p.AgreeOn q N) (hid : N id) (definition : ModuleDef)
    {inputs inputs' outputs outputs' : List Port}
    (hi : inputs'.map Block.clearPort = inputs.map Block.clearPort)
    (ho : outputs'.map Block.clearPort = outputs.map Block.clearPort) :
    (Compilation.mk q table).addModule row d id definition inputs' outputs' =
      (Compilation.mk p table).addModule row d id definition inputs outputs := by
  have houtput : (Compilation.mk q table).outputValue row id =
      (Compilation.mk p table).outputValue row id :=
    funext fun port => by rw [outputValue, outputValue, h.artifact_eq]
  rw [← addModule_clearPort, hi, ho, addModule_clearPort, Compilation.addModule,
    Compilation.addModule, h.inputValue_eq hid, houtput]

/-- **A step of a walk is followed alike.** -/
theorem follow_eq (h : p.AgreeOn q N) {visit : Visit} (hvisit : ∀ id, visit = .enter id → N id) :
    (Compilation.mk q table).follow row d visit = (Compilation.mk p table).follow row d visit := by
  cases visit with
  | loop id => rfl
  | enter id =>
    have hid := hvisit id rfl
    rw [follow, follow]
    cases hb : p.block? id with
    | none => simp only [h.block?_eq_none hid hb]
    | some b =>
      obtain ⟨b', hb', hbare⟩ := h.exists_block hid hb
      have hkind := Block.alike_of_bare hbare
      obtain ⟨_, _, kind⟩ := b
      obtain ⟨_, _, kind'⟩ := b'
      simp only [hb']
      cases hkind with
      | source column ho => rfl
      | module definition hi ho => exact h.addModule_eq hid definition hi ho
      | sink column hi => rfl

/-! ## Rules of sinks and rows -/

/-- **Sinks that look the same have the same turn.** -/
theorem addSink_eq (h : p.AgreeOn q N) {b b' : Block} (hid : N b.id) (hbare : b'.bare = b.bare)
    (state : ScriptDraft × List BlockId) :
    (Compilation.mk q table).addSink row state b' =
      (Compilation.mk p table).addSink row state b := by
  have hkind := Block.alike_of_bare hbare
  rw [Compilation.addSink, Compilation.addSink]
  simp only [Block.id_eq_of_bare hbare, h.feeder b.id 0 hid]
  generalize b.kind = kind at hkind
  generalize b'.kind = kind' at hkind
  cases hkind with
  | source column ho => rfl
  | module definition hi ho => rfl
  | sink column hi =>
    injection hi with hparameter
    cases hsource : p.feeder? (.input b.id 0) with
    | none => simp only [hparameter]
    | some source =>
      have hfeeds := h.closed b.id 0 source hid hsource
      obtain ⟨hwalk, henters⟩ := h.walk_eq [] state.2 source.block hfeeds
      have hfollow : ∀ d : ScriptDraft, (p.walk [] state.2 source.block).1.foldlM
          ((Compilation.mk q table).follow row) d =
          (p.walk [] state.2 source.block).1.foldlM ((Compilation.mk p table).follow row) d := by
        refine fun d => foldlM_eq_of_map_eq (k := id) ?_ rfl d
        rintro d visit hvisit _ rfl
        exact h.follow_eq fun a ha => henters a (ha ▸ hvisit)
      have hcell : (Compilation.mk q table).fileCell row column =
          (Compilation.mk p table).fileCell row column := rfl
      simp only [h.originOf_eq hfeeds, hwalk, hfollow, hcell]

/-- **A row has the same rules.** -/
theorem addRow_eq (h : p.AgreeOn q N) (hsinks : ∀ b ∈ p.sinks, N b.id)
    (hperm : (q.sinks.map Block.bare).Perm (p.sinks.map Block.bare))
    (hnodup : (p.sinks.map (·.id)).Nodup) :
    (Compilation.mk q table).addRow = (Compilation.mk p table).addRow := by
  funext d row
  have hids : ((p.sinks.map Block.bare).map (·.id)).Nodup := by
    rw [List.map_map]
    simpa only [Function.comp_def, Block.bare_id] using hnodup
  have hsorted : (Compilation.mk q table).sortedSinks.map Block.bare =
      (Compilation.mk p table).sortedSinks.map Block.bare := by
    rw [map_bare_sortedSinks, map_bare_sortedSinks]
    exact PipelineDocument.mergeSort_number_congr hperm hids
  have hturns : ∀ state, (Compilation.mk q table).sortedSinks.foldlM
      ((Compilation.mk q table).addSink row) state =
      (Compilation.mk p table).sortedSinks.foldlM ((Compilation.mk p table).addSink row) state := by
    refine foldlM_eq_of_map_eq (k := Block.bare) ?_ hsorted
    intro state b hb b' hbare
    rw [sortedSinks, List.mem_mergeSort] at hb
    exact h.addSink_eq (hsinks b hb) hbare state
  rw [addRow, addRow, hturns]

/-- **Pipelines of one name with the same sinks that agree on all that feeds these compile alike.** -/
theorem compile_eq (h : p.AgreeOn q N) (hname : q.name = p.name) (hsinks : ∀ b ∈ p.sinks, N b.id)
    (hperm : (q.sinks.map Block.bare).Perm (p.sinks.map Block.bare))
    (hnodup : (p.sinks.map (·.id)).Nodup) (options : ScriptOptions) (table : Table)
    (workingDirectory outputRoot : String) :
    compile options q table workingDirectory outputRoot =
      compile options p table workingDirectory outputRoot := by
  have hdraft : (Compilation.mk q table).draft = (Compilation.mk p table).draft := by
    rw [draft, draft, h.addRow_eq hsinks hperm hnodup]
  rw [compile, compile, hdraft, hname]

end AgreeOn

end Pipeline

end Flowscript
