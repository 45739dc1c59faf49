import Flowscript.Proofs.Pipeline.Upstream
import Flowscript.Proofs.Pipeline.Rereading
import Flowscript.Proofs.Script.Agreement
import Flowscript.Proofs.Script.Cycles

/-!
# Scripts without a history

What a pipeline compiles to depends on its name, on its sinks, and on the blocks upstream of them
with the connections between these.  It does not depend on how the pipeline came about: neither on
the order of edits, nor on the numbers of connections, nor on the places of blocks, nor on any other
block.

* `BlockRole` is what a block is there for, which with its number makes up all that compiling sees
  of it: `Block.Fresh.bare_eq`.
* `Pipeline.Used` says which blocks a script is made of, and `Pipeline.SameUpstream` that two
  pipelines have the same ones.
* `Pipeline.SameUpstream.agreeOn` leads from there to what compiling sees, and
  `Pipeline.SameUpstream.of_perm` from what loading keeps to there.
* `Pipeline.Reachable.compile_forgets` is the result.
-/

set_option autoImplicit false

namespace Flowscript

/-! ## Roles -/

/-- The column and the parameter of a source or sink, or the definition of a module. -/
inductive BlockRole where
  | source (column : String) (parameter : Parameter)
  | module (definition : ModuleDef)
  | sink (column : String) (parameter : Parameter)
  deriving DecidableEq, Repr

namespace BlockRole

/-- The block of a role, in the corner of the canvas. -/
def block (id : BlockId) : BlockRole → Block
  | .source column parameter => .source id column parameter .corner
  | .module definition => .ofModule id definition .corner
  | .sink column parameter => .sink id column parameter .corner

/-- Whether the role is that of a sink. -/
def isSink (r : BlockRole) : Bool := r matches .sink ..

end BlockRole

namespace Block

/-- What the block is there for. -/
def role (b : Block) : BlockRole :=
  match b.kind with
  | .source column output => .source column output.parameter
  | .module definition _ _ => .module definition
  | .sink column input => .sink column input.parameter

theorem role_cleared (b : Block) : b.cleared.role = b.role := by
  obtain ⟨id, position, kind⟩ := b
  cases kind <;> rfl

theorem isSink_role (b : Block) : b.role.isSink = b.isSink := by
  obtain ⟨id, position, kind⟩ := b
  cases kind <;> rfl

/-- **A block looks the way its number and its role say.** -/
theorem Fresh.bare_eq {t : Toolbox} {b : Block} (h : b.cleared.Fresh t) :
    b.bare = b.role.block b.id := by
  rw [bare, ← b.role_cleared, ← b.cleared_id]
  generalize b.cleared = c at h
  cases h <;> rfl

end Block

namespace Pipeline

/-! ## What a script is made of -/

/-- The number and the role of every block. -/
def roles (p : Pipeline) : List (BlockId × BlockRole) := p.blocks.map fun b => (b.id, b.role)

/-- The block is a sink or upstream of one. -/
def Used (p : Pipeline) (id : BlockId) : Prop :=
  ∃ sink ∈ p.sinks, Relation.ReflTransGen p.Feeds id sink.id

/-- The sinks and the blocks upstream of them. -/
def usedBlocks (p : Pipeline) : Set (BlockId × BlockRole) := {x | x ∈ p.roles ∧ p.Used x.1}

/-- The ends of the connections that lead to them. -/
def usedEnds (p : Pipeline) : Set (PortRef × PortRef) := {e | e ∈ p.ends ∧ p.Used e.2.block}

/-- Two pipelines have one name, the same sinks, the same blocks upstream of these, and the same
connections between them. -/
structure SameUpstream (p q : Pipeline) : Prop where
  name : q.name = p.name
  blocks : q.usedBlocks = p.usedBlocks
  ends : q.usedEnds = p.usedEnds

variable {p q : Pipeline} {id : BlockId}

theorem used_of_mem_sinks {b : Block} (hb : b ∈ p.sinks) : p.Used b.id := ⟨b, hb, .refl⟩

theorem Used.of_feeds (h : p.Used id) {a : BlockId} (ha : p.Feeds a id) : p.Used a := by
  obtain ⟨sink, hsink, hup⟩ := h
  exact ⟨sink, hsink, .head ha hup⟩

/-- Only blocks are used. -/
theorem Consistent.exists_of_used (hp : p.Consistent) (h : p.Used id) :
    ∃ b, p.block? id = some b := by
  obtain ⟨sink, hsink, hup⟩ := h
  rcases hup.cases_head with rfl | ⟨next, ⟨i, source, hsource, rfl⟩, -⟩
  · exact ⟨sink, block?_of_mem hp.nodup_ids (List.mem_of_mem_filter hsink)⟩
  · obtain ⟨⟨b, -, hb, -⟩, -⟩ := hp.feeder_ends hsource
    exact ⟨b, hb⟩

/-- Which blocks are used is seen from the sinks and from what feeds what. -/
theorem used_congr (hroles : ∀ x, x ∈ q.roles ↔ x ∈ p.roles) (hfeeds : q.Feeds = p.Feeds) :
    q.Used id ↔ p.Used id := by
  have hseen : ∀ r : Pipeline, r.Used id ↔
      ∃ x ∈ r.roles, x.2.isSink = true ∧ Relation.ReflTransGen r.Feeds id x.1 := by
    intro r
    simp only [Used, sinks, roles, List.mem_filter, List.mem_map]
    constructor
    · rintro ⟨b, ⟨hb, hsink⟩, hup⟩
      exact ⟨_, ⟨b, hb, rfl⟩, b.isSink_role.trans hsink, hup⟩
    · rintro ⟨_, ⟨b, hb, rfl⟩, hsink, hup⟩
      exact ⟨b, ⟨hb, b.isSink_role.symm.trans hsink⟩, hup⟩
  rw [hseen, hseen, hfeeds]
  exact exists_congr fun x => and_congr_left fun _ => hroles x

namespace SameUpstream

/-- **Blocks in another order and at other places, and connections with other numbers, are the same
upstream.** -/
theorem of_perm (hp : p.Consistent) (hq : q.Consistent) (hname : q.name = p.name)
    (hroles : q.roles.Perm p.roles) (hends : q.ends = p.ends) : p.SameUpstream q := by
  have hfeeds : q.Feeds = p.Feeds := by
    funext a b
    simp only [Feeds, feeder?_congr hp hq hends]
  have hused : ∀ id, q.Used id ↔ p.Used id :=
    fun id => used_congr (fun x => hroles.mem_iff) hfeeds
  refine ⟨hname, Set.ext fun x => ?_, Set.ext fun e => ?_⟩
  · exact and_congr hroles.mem_iff (hused x.1)
  · exact and_congr (by rw [hends]) (hused e.2.block)

theorem symm (h : p.SameUpstream q) : q.SameUpstream p :=
  ⟨h.name.symm, h.blocks.symm, h.ends.symm⟩

/-- A block that is used is found in both. -/
theorem exists_block (h : p.SameUpstream q) (hp : p.Consistent) (hq : q.Consistent) {b : Block}
    (hb : b ∈ p.blocks) (hused : p.Used b.id) :
    ∃ b', q.block? b.id = some b' ∧ b'.bare = b.bare ∧ q.Used b.id := by
  have hmem : (b.id, b.role) ∈ p.usedBlocks := ⟨List.mem_map_of_mem hb, hused⟩
  rw [← h.blocks] at hmem
  obtain ⟨hmem, hused'⟩ := hmem
  obtain ⟨b', hb', heq⟩ := List.mem_map.1 hmem
  obtain ⟨hid, hrole⟩ := Prod.mk.inj heq
  refine ⟨b', hid ▸ block?_of_mem hq.nodup_ids hb', ?_, hused'⟩
  rw [(hq.fresh_of_mem hb').bare_eq, (hp.fresh_of_mem hb).bare_eq, hid, hrole]

theorem used (h : p.SameUpstream q) (hp : p.Consistent) (hq : q.Consistent) (hused : p.Used id) :
    q.Used id := by
  obtain ⟨b, hb⟩ := hp.exists_of_used hused
  obtain ⟨hmem, rfl⟩ := mem_blocks_of_block? hb
  obtain ⟨-, -, -, hused'⟩ := h.exists_block hp hq hmem hused
  exact hused'

/-- **The pipelines look the same where they are used.** -/
theorem agreeOn (h : p.SameUpstream q) (hp : p.Consistent) (hq : q.Consistent)
    (ht : q.toolbox = p.toolbox) : p.AgreeOn q p.Used where
  toolbox := ht
  block := by
    intro id hused
    obtain ⟨b, hb⟩ := hp.exists_of_used hused
    obtain ⟨hmem, rfl⟩ := mem_blocks_of_block? hb
    obtain ⟨b', hb', hbare, -⟩ := h.exists_block hp hq hmem hused
    rw [hb, hb', Option.map_some, Option.map_some, hbare]
  feeder := by
    intro id i hused
    refine Option.ext fun source => ?_
    rw [hq.feeder?_eq_some_iff, hp.feeder?_eq_some_iff]
    have hends := Set.ext_iff.1 h.ends (source, .input id i)
    exact (and_iff_left (h.used hp hq hused)).symm.trans (hends.trans (and_iff_left hused))
  closed := fun id i source hused hsource => hused.of_feeds ⟨i, source, hsource, rfl⟩

theorem sinks_subset (h : p.SameUpstream q) (hp : p.Consistent) (hq : q.Consistent) {b : Block}
    (hb : b ∈ p.sinks.map Block.bare) : b ∈ q.sinks.map Block.bare := by
  obtain ⟨b, hsink, rfl⟩ := List.mem_map.1 hb
  obtain ⟨hmem, hisSink⟩ := List.mem_filter.1 hsink
  obtain ⟨b', hb', hbare, -⟩ := h.exists_block hp hq hmem (used_of_mem_sinks hsink)
  rw [← hbare]
  refine List.mem_map_of_mem (List.mem_filter.2 ⟨(mem_blocks_of_block? hb').1, ?_⟩)
  rw [← b'.bare_isSink, hbare, b.bare_isSink]
  exact hisSink

end SameUpstream

theorem Consistent.nodup_sinks (hp : p.Consistent) : (p.sinks.map (·.id)).Nodup :=
  hp.nodup_ids.sublist (List.filter_sublist.map _)

theorem SameUpstream.sinks_perm (h : p.SameUpstream q) (hp : p.Consistent) (hq : q.Consistent) :
    (q.sinks.map Block.bare).Perm (p.sinks.map Block.bare) := by
  have hnodup : ∀ {r : Pipeline}, r.Consistent → (r.sinks.map Block.bare).Nodup := by
    intro r hr
    refine .of_map Block.id ?_
    rw [List.map_map]
    simpa only [Function.comp_def, Block.bare_id] using hr.nodup_sinks
  rw [List.perm_ext_iff_of_nodup (hnodup hq) (hnodup hp)]
  exact fun b => ⟨h.symm.sinks_subset hq hp, h.sinks_subset hp hq⟩

/-! ## Loading -/

theorem map_role_shape (p : Pipeline) : (p.shape.map fun b => (b.id, b.role)) = p.roles := by
  rw [shape, List.map_map]
  refine List.map_congr_left fun b _ => ?_
  rw [Function.comp_apply, b.cleared_id, b.role_cleared]

theorem roles_placed (p : Pipeline) (place : Block → Position) : (p.placed place).roles = p.roles := by
  rw [roles, Pipeline.placed, List.map_map]
  rfl

/-- **A pipeline that was saved and is loaded is the same upstream.** -/
theorem Consistent.sameUpstream_of_ofJson (hp : p.Consistent) (ht : p.toolbox.Built)
    (hdef : ∀ m ∈ p.toolbox.modules, m.IsDefined)
    (hq : Pipeline.ofJson p.toJson p.toolbox = .ok q) : p.SameUpstream q := by
  obtain ⟨hcons, hname, hshape, hends⟩ := hp.loads_alike ht hdef hq
  have hroles := hshape.map fun b => (b.id, b.role)
  rw [map_role_shape, map_role_shape, roles_placed] at hroles
  exact .of_perm hp hcons hname hroles hends

theorem Consistent.exists_ofJson (hp : p.Consistent) (ht : p.toolbox.Built)
    (hdef : ∀ m ∈ p.toolbox.modules, m.IsDefined)
    (h : ∀ b ∈ p.blocks, b.id.number < Text.word64Limit ∧ b.position.ReadsBack) :
    ∃ q, Pipeline.ofJson p.toJson p.toolbox = .ok q := by
  obtain ⟨q, hq, -⟩ := hp.ofDocument_ofPipeline ht hdef fun b hb => (h b hb).1
  refine ⟨q, ?_⟩
  rw [Pipeline.ofJson, Pipeline.toJson, PipelineDocument.ofJson_toJson (writable_ofPipeline h)]
  exact hq

/-! ## The result -/

/-- **A script has no history.**  Pipelines that have one name, the same sinks and the same upstream
of them compile to the same script, or to the same error.  The pipeline that was saved and is loaded
is one of these, and it is loaded whenever the numbers in its text are read back. -/
theorem Reachable.compile_forgets {t : Toolbox} (hp : Reachable t p) :
    (∀ q, Reachable t q → p.SameUpstream q →
      ∀ options table workingDirectory outputRoot,
        compile options q table workingDirectory outputRoot =
          compile options p table workingDirectory outputRoot) ∧
      (t.Built → (∀ m ∈ t.modules, m.IsDefined) →
        (∀ q, Pipeline.ofJson p.toJson t = .ok q →
          ∀ options table workingDirectory outputRoot,
            compile options q table workingDirectory outputRoot =
              compile options p table workingDirectory outputRoot) ∧
        ((∀ b ∈ p.blocks, b.id.number < Text.word64Limit ∧ b.position.ReadsBack) →
          ∃ q, Pipeline.ofJson p.toJson t = .ok q)) := by
  obtain ⟨hcons, rfl⟩ := hp.consistent
  have halike : ∀ q, Reachable p.toolbox q → p.SameUpstream q →
      ∀ options table workingDirectory outputRoot,
        compile options q table workingDirectory outputRoot =
          compile options p table workingDirectory outputRoot := by
    intro q hq hsame
    obtain ⟨hcons', ht⟩ := hq.consistent
    exact (hsame.agreeOn hcons hcons' ht).compile_eq hsame.name (fun b => used_of_mem_sinks)
      (hsame.sinks_perm hcons hcons') hcons.nodup_sinks
  refine ⟨halike, fun ht hdef => ⟨fun q hq => ?_, hcons.exists_ofJson ht hdef⟩⟩
  exact halike q (.loaded hq) (hcons.sameUpstream_of_ofJson ht hdef hq)

/-! ## A specimen -/

/-- The used blocks are among some, which are used and have among them all that feeds one of them. -/
theorem Consistent.used_iff (hp : p.Consistent) {ids : List BlockId}
    (hsinks : ∀ b ∈ p.sinks, b.id ∈ ids)
    (hends : ∀ e ∈ p.ends, e.2.block ∈ ids → e.1.block ∈ ids) (hused : ∀ id ∈ ids, p.Used id) :
    p.Used id ↔ id ∈ ids := by
  refine ⟨?_, hused id⟩
  rintro ⟨sink, hsink, hup⟩
  induction hup using Relation.ReflTransGen.head_induction_on with
  | refl => exact hsinks sink hsink
  | head hfeeds _ ih =>
    obtain ⟨i, source, hsource, rfl⟩ := hfeeds
    exact hends _ (hp.feeder?_eq_some_iff.1 hsource) ih

/-- To compare the used blocks and their connections it is enough to list them. -/
theorem SameUpstream.of_filter {ids : List BlockId} (hp : ∀ id, p.Used id ↔ id ∈ ids)
    (hq : ∀ id, q.Used id ↔ id ∈ ids) (hname : q.name = p.name)
    (hroles : (q.roles.filter fun x => x.1 ∈ ids).Perm (p.roles.filter fun x => x.1 ∈ ids))
    (hends : (q.ends.filter fun e => e.2.block ∈ ids).Perm
      (p.ends.filter fun e => e.2.block ∈ ids)) : p.SameUpstream q := by
  refine ⟨hname, Set.ext fun x => ?_, Set.ext fun e => ?_⟩
  · have hmem := hroles.mem_iff (a := x)
    simp only [List.mem_filter, decide_eq_true_eq] at hmem
    simp only [usedBlocks, Set.mem_ofPred_eq, hp, hq]
    exact hmem
  · have hmem := hends.mem_iff (a := e)
    simp only [List.mem_filter, decide_eq_true_eq] at hmem
    simp only [usedEnds, Set.mem_ofPred_eq, hp, hq]
    exact hmem

end Pipeline

namespace Specimen

/-- Another history for the chain.  Its connections are made in another order and one of them is made
twice, its source is moved, and there is a module that no sink depends on. -/
def rechaining : List Edit :=
  [.addSource "in" (text "in" true) place, .addModule "sort" place,
    .addSink "out" (text "out" true) place, .connect (.output ⟨1⟩ 0) (.input ⟨2⟩ 0),
    .disconnect ⟨0⟩, .addModule "join" place, .connect (.output ⟨1⟩ 0) (.input ⟨3⟩ 0),
    .connect (.output ⟨1⟩ 0) (.input ⟨2⟩ 0), .connect (.output ⟨0⟩ 0) (.input ⟨1⟩ 0),
    .move ⟨0⟩ .corner]

/-- The pipeline of that history. -/
def rechained : Pipeline := rechaining.foldl Pipeline.edit (.empty "chain" toolbox)

theorem reachable_rechained : Pipeline.Reachable toolbox rechained :=
  (Pipeline.Reachable.empty "chain").edits rechaining

/-- The source, the module and the sink of the chain. -/
def chain : List BlockId := [⟨0⟩, ⟨1⟩, ⟨2⟩]

theorem used_chain {p : Pipeline} (hsink : ∃ b ∈ p.sinks, b.id = ⟨2⟩)
    (hlast : p.feeder? (.input ⟨2⟩ 0) = some (.output ⟨1⟩ 0))
    (hfirst : p.feeder? (.input ⟨1⟩ 0) = some (.output ⟨0⟩ 0)) : ∀ id ∈ chain, p.Used id := by
  obtain ⟨sink, hsink, hid⟩ := hsink
  have htwo : p.Used ⟨2⟩ := hid ▸ Pipeline.used_of_mem_sinks hsink
  have hone : p.Used ⟨1⟩ := htwo.of_feeds ⟨0, _, hlast, rfl⟩
  have hzero : p.Used ⟨0⟩ := hone.of_feeds ⟨0, _, hfirst, rfl⟩
  simpa only [chain, List.forall_mem_cons] using ⟨hzero, hone, htwo, by simp⟩

theorem sameUpstream_rechained : chained.SameUpstream rechained := by
  have hp : ∀ id, chained.Used id ↔ id ∈ chain := fun id =>
    reachable_chained.consistent.1.used_iff (by decide) (by decide)
      (used_chain (by decide) (by decide) (by decide))
  have hq : ∀ id, rechained.Used id ↔ id ∈ chain := fun id =>
    reachable_rechained.consistent.1.used_iff (by decide) (by decide)
      (used_chain (by decide) (by decide) (by decide))
  exact .of_filter hp hq (by decide) (by decide +kernel) (by decide)

theorem stored_chained :
    ∀ b ∈ chained.blocks, b.id.number < Text.word64Limit ∧ b.position.ReadsBack := by
  have hall : ∀ b ∈ chained.blocks, b.id.number < Text.word64Limit ∧ b.position = place := by
    decide
  intro b hb
  obtain ⟨hlt, hplace⟩ := hall b hb
  exact ⟨hlt, hplace ▸ readsBack_place⟩

end Specimen

/-- Two histories and a pipeline that is loaded, and one script. -/
theorem Pipeline.compile_forgets_chained :
    Reachable Specimen.toolbox Specimen.chained ∧ Reachable Specimen.toolbox Specimen.rechained ∧
      Specimen.chained.SameUpstream Specimen.rechained ∧
      Specimen.rechained.ends ≠ Specimen.chained.ends ∧ Specimen.toolbox.Built ∧
      (∀ m ∈ Specimen.toolbox.modules, m.IsDefined) ∧
      (∀ b ∈ Specimen.chained.blocks, b.id.number < Text.word64Limit ∧ b.position.ReadsBack) ∧
      ∃ q s, Pipeline.ofJson Specimen.chained.toJson Specimen.toolbox = .ok q ∧
        compile .standard Specimen.chained (Specimen.filing "y") "/w" "out" = .ok s ∧
        compile .standard Specimen.rechained (Specimen.filing "y") "/w" "out" = .ok s ∧
        compile .standard q (Specimen.filing "y") "/w" "out" = .ok s := by
  obtain ⟨halike, hloads⟩ := Reachable.compile_forgets Specimen.reachable_chained
  obtain ⟨hloaded, hexists⟩ := hloads Specimen.toolbox_built Specimen.toolbox_defined
  obtain ⟨q, hq⟩ := hexists Specimen.stored_chained
  have hok : (compile .standard Specimen.chained (Specimen.filing "y") "/w" "out").isOk = true := by
    decide +kernel
  cases hs : compile .standard Specimen.chained (Specimen.filing "y") "/w" "out" with
  | error e =>
    rw [hs] at hok
    cases hok
  | ok s =>
    refine ⟨Specimen.reachable_chained, Specimen.reachable_rechained,
      Specimen.sameUpstream_rechained, by decide, Specimen.toolbox_built,
      Specimen.toolbox_defined, Specimen.stored_chained, q, s, hq, rfl, ?_, ?_⟩
    · exact (halike _ Specimen.reachable_rechained Specimen.sameUpstream_rechained _ _ _ _).trans hs
    · exact (hloaded q hq _ _ _ _).trans hs

end Flowscript
