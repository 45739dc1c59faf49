import Mathlib.Data.List.Induction
import Flowscript.Proofs.Script.Cycles

/-!
# The order of rules

Within a row, the rules stand in the order of the first ways from a sink to their blocks: sinks by
number, and inputs by place.  So a rule comes before that of a module that feeds its block if the
first way to the module goes through the block, and after it if not.

* `Serves` says which block a rule is for, and `Pipeline.RowWay` are the ways of a row.
* `Compilation.Ranked` is the invariant over the turns of a row, and `Compilation.Ranked.addSink`
  the step.
* `Compilation.RowOrder` is what holds of the rules of a row, and
  `Pipeline.Reachable.rules_follow_ways` says so of every script.
-/

set_option autoImplicit false

namespace Flowscript

/-- The rule is that of a sink or of a module for a row. -/
inductive Serves (turns : List Turn) (row : Row) : BlockId → Rule → Prop
  | sink {sink : Block} {target path : String} (h : Emits turns ⟨row, sink⟩ target) :
      Serves turns row sink.id (.copy target path)
  | module {id : BlockId} {rule : Rule} (h : rule.task? = some (row.id, id)) :
      Serves turns row id rule

/-- A way of a row starts at a sink that is emitted for it, which is told by its number.  It ends
there or goes up to a module. -/
def Pipeline.RowWay (p : Pipeline) (turns : List Turn) (row : Row) (w : List Nat) (m : BlockId) :
    Prop :=
  ∃ sink target rest, Emits turns ⟨row, sink⟩ target ∧ w = sink.id.number :: rest ∧
    (rest = [] ∧ m = sink.id ∨ p.Way sink.id rest m)

/-- What is emitted for a row does not depend on the turns of other rows. -/
theorem emits_append_of_row {past more : List Turn} {row : Row} (h : ∀ turn ∈ more, turn.row ≠ row)
    (sink : Block) (target : String) :
    Emits (past ++ more) ⟨row, sink⟩ target ↔ Emits past ⟨row, sink⟩ target := by
  induction more using List.reverseRecOn with
  | nil => rw [List.append_nil]
  | append_singleton more last ih =>
    rw [← List.append_assoc, emits_append,
      ih fun turn hturn => h turn (List.mem_append_left _ hturn), or_iff_left]
    rintro ⟨rfl, -⟩
    exact h ⟨row, sink⟩ (List.mem_append_right _ List.mem_cons_self) rfl

theorem Serves.congr {turns turns' : List Turn} {row : Row} {id : BlockId} {rule : Rule}
    (h : Serves turns row id rule)
    (hemits : ∀ sink target, Emits turns ⟨row, sink⟩ target → Emits turns' ⟨row, sink⟩ target) :
    Serves turns' row id rule := by
  cases h with
  | sink h => exact .sink (hemits _ _ h)
  | module h => exact .module h

theorem Pipeline.rowWay_congr {p : Pipeline} {turns turns' : List Turn} {row : Row}
    (hemits : ∀ sink target, Emits turns' ⟨row, sink⟩ target ↔ Emits turns ⟨row, sink⟩ target)
    (w : List Nat) (m : BlockId) : p.RowWay turns' row w m ↔ p.RowWay turns row w m := by
  simp only [RowWay, hemits]

/-- A turn that emits its target adds the ways from its sink. -/
theorem Pipeline.rowWay_append {p : Pipeline} {past : List Turn} {row : Row} {b : Block}
    {target : String} (hemitted : Emits (past ++ [⟨row, b⟩]) ⟨row, b⟩ target) (w : List Nat)
    (m : BlockId) :
    p.RowWay (past ++ [⟨row, b⟩]) row w m ↔ p.RowWay past row w m ∨
      ∃ rest, w = b.id.number :: rest ∧ (rest = [] ∧ m = b.id ∨ p.Way b.id rest m) := by
  constructor
  · rintro ⟨sink, t, rest, hemits, rfl, hend⟩
    rcases emits_append.1 hemits with hold | ⟨heq, -, -⟩
    · exact .inl ⟨sink, t, rest, hold, rfl, hend⟩
    · obtain rfl : sink = b := (Turn.mk.inj heq).2
      exact .inr ⟨rest, rfl, hend⟩
  · rintro (⟨sink, t, rest, hold, rfl, hend⟩ | ⟨rest, rfl, hend⟩)
    · exact ⟨sink, t, rest, emits_append.2 (.inl hold), rfl, hend⟩
    · exact ⟨b, target, rest, hemitted, rfl, hend⟩

namespace Compilation

variable {c : Compilation} {row : Row} {begun : List Row} {past : List Turn} {old : List Rule}
  {d d' : ScriptDraft} {seen seen' order : List BlockId}

/-! ## A turn -/

/-- The blocks that have got a rule for the row stand in the order of their rules and of the first
ways to them.  The modules among them are those that were entered. -/
structure Ranked (c : Compilation) (old : List Rule) (row : Row) (past : List Turn)
    (d : ScriptDraft) (seen order : List BlockId) : Prop where
  rules : ∃ rules, d.rules = old ++ rules ∧ List.Forall₂ (Serves past row) order rules
  inOrder : InOrder (c.pipeline.RowWay past row) [] order
  mem_seen : ∀ id, id ∈ seen ↔ id ∈ order ∧ c.pipeline.IsModule id

theorem not_isModule_of_sink (h : c.pipeline.Consistent) {b : Block} (hb : b ∈ c.pipeline.blocks)
    {column : String} {input : Port} (hkind : b.kind = .sink column input) :
    ¬c.pipeline.IsModule b.id := by
  rw [Pipeline.isModule_iff_of_block? (Pipeline.block?_of_mem h.nodup_ids hb), Block.isModule, hkind]
  exact Bool.false_ne_true

/-- A way up from a sink goes through its one input. -/
theorem way_of_sink (h : c.pipeline.Consistent) {b : Block} (hb : b ∈ c.pipeline.blocks)
    {column : String} {input : Port} (hkind : b.kind = .sink column input) {source : PortRef}
    (hsource : c.pipeline.feeder? (.input b.id 0) = some source) (w : List Nat) (m : BlockId) :
    c.pipeline.Way b.id w m ↔ ∃ rest, w = 0 :: rest ∧ c.pipeline.Way source.block rest m := by
  constructor
  · rintro ⟨hway, hmodule⟩
    cases w with
    | nil =>
      obtain rfl := Option.some.inj hway
      exact absurd hmodule (not_isModule_of_sink h hb hkind)
    | cons i rest =>
      obtain ⟨other, hother, hrest⟩ := Option.bind_eq_some_iff.1 hway
      obtain ⟨-, b', port, hb', hport⟩ := h.feeder_ends hother
      obtain rfl := Option.some.inj ((Pipeline.block?_of_mem h.nodup_ids hb).symm.trans hb')
      rw [Block.inputs, hkind] at hport
      cases i with
      | zero =>
        obtain rfl := Option.some.inj (hsource.symm.trans hother)
        exact ⟨rest, rfl, hrest, hmodule⟩
      | succ i => cases hport
  · rintro ⟨rest, rfl, hway, hmodule⟩
    refine ⟨?_, hmodule⟩
    rw [Pipeline.ascend, hsource]
    exact hway

/-- The sink of a turn comes first, and then the new modules in the order of a walk. -/
theorem inOrder_of_sink (h : c.pipeline.Consistent) {b : Block} (hb : b ∈ c.pipeline.blocks)
    {column : String} {input : Port} (hkind : b.kind = .sink column input) {source : PortRef}
    (hsource : c.pipeline.feeder? (.input b.id 0) = some source) {new : List BlockId}
    (hnew : InOrder (c.pipeline.Way source.block) seen new)
    (hfresh : ∀ id ∈ new, id ∉ b.id :: order) (hseen : ∀ id ∈ seen, id ∈ order) :
    InOrder (fun w m => ∃ rest, w = b.id.number :: rest ∧
      (rest = [] ∧ m = b.id ∨ c.pipeline.Way b.id rest m)) order (b.id :: new) := by
  have hself : InOrder (fun w m => w = [] ∧ m = b.id) order [b.id] := .single fun _ _ => Iff.rfl
  have hup : InOrder (c.pipeline.Way b.id) (b.id :: order) new :=
    ((hnew.behind 0).congr (way_of_sink h hb hkind hsource)).mono fun id hid =>
      List.mem_cons_of_mem _ (hseen id hid)
  refine (hself.append hup (fun m => ?_) hfresh ?_).behind b.id.number
  · rw [List.mem_cons, List.mem_singleton, or_comm]
  · rintro w w' m m' ⟨rfl, -⟩ hway
    obtain ⟨rest, rfl, -⟩ := (way_of_sink h hb hkind hsource w' m').1 hway
    exact List.nil_lt_cons _ _

/-- The sink of a later turn has got no rule yet. -/
theorem Ranked.not_mem (hr : c.Ranked old row past d seen order) {b : Block}
    (hmodule : ¬c.pipeline.IsModule b.id)
    (hlater : ∀ turn ∈ past, turn.row = row → turn.sink.id.number < b.id.number) :
    b.id ∉ order := by
  intro hmem
  obtain ⟨w, ⟨sink, t, rest, hemits, -, hend⟩, -⟩ := hr.inOrder.first _ hmem
  rcases hend with ⟨-, hid⟩ | ⟨-, hm⟩
  · exact absurd (congrArg BlockId.number hid).symm (hlater _ hemits.mem rfl).ne
  · exact hmodule hm

/-- A turn whose target has been had adds no rule. -/
theorem Ranked.skip (hr : c.Ranked old row past d seen order) {b : Block} {target : String}
    (htarget : (Turn.mk row b).target? = some target)
    (hpast : ∃ earlier ∈ past, earlier.target? = some target) (hrules : d'.rules = d.rules) :
    c.Ranked old row (past ++ [⟨row, b⟩]) d' seen order := by
  have hemits : ∀ sink t, Emits (past ++ [⟨row, b⟩]) ⟨row, sink⟩ t ↔ Emits past ⟨row, sink⟩ t :=
    fun sink t => emits_append_of_mem htarget hpast
  obtain ⟨rules, hold, hserves⟩ := hr.rules
  refine ⟨⟨rules, hrules.trans hold, ?_⟩, ?_, hr.mem_seen⟩
  · exact hserves.imp fun id rule hrule => hrule.congr fun sink t => (hemits sink t).2
  · exact hr.inOrder.congr (Pipeline.rowWay_congr hemits)

/-- A turn that emits its target adds the rule of its sink and those of the new modules. -/
theorem Ranked.emit (hr : c.Ranked old row past d seen order) {b : Block} {target path : String}
    (hemitted : Emits (past ++ [⟨row, b⟩]) ⟨row, b⟩ target)
    (hlater : ∀ turn ∈ past, turn.row = row → turn.sink.id.number < b.id.number)
    (hmodule : ¬c.pipeline.IsModule b.id) {d₁ : ScriptDraft} {new : List BlockId}
    {more : List Rule} (hcopy : d₁.rules = d.rules ++ [.copy target path])
    (hgained : c.Gained row d₁ new more d') (hmodules : ∀ id ∈ new, c.pipeline.IsModule id)
    (hseen : ∀ id, id ∈ seen' ↔ id ∈ seen ∨ id ∈ new) (hfresh : ∀ id ∈ new, id ∉ order)
    (hturn : InOrder (fun w m => ∃ rest, w = b.id.number :: rest ∧
      (rest = [] ∧ m = b.id ∨ c.pipeline.Way b.id rest m)) order (b.id :: new)) :
    c.Ranked old row (past ++ [⟨row, b⟩]) d' seen' (order ++ b.id :: new) := by
  obtain ⟨rules, hrules, hserves⟩ := hr.rules
  refine ⟨⟨rules ++ .copy target path :: more, ?_, ?_⟩, ?_, fun id => ?_⟩
  · rw [hgained.rules_eq, hcopy, hrules]
    simp only [List.append_assoc, List.singleton_append]
  · refine List.rel_append (hserves.imp fun id rule hrule => hrule.congr fun sink t hold =>
      emits_append.2 (.inl hold)) (.cons (.sink hemitted) ?_)
    exact hgained.runs.imp fun id rule hrun => .module hrun.task?_eq
  · refine (hr.inOrder.append hturn (by simp) ?_ ?_).congr (Pipeline.rowWay_append hemitted)
    · exact List.forall_mem_cons.2 ⟨hr.not_mem hmodule hlater, hfresh⟩
    · rintro _ _ m m' ⟨sink, t, rest, hemits, rfl, -⟩ ⟨rest', rfl, -⟩
      exact List.cons_lt_cons_iff.2 (.inl (hlater _ hemits.mem rfl))
  · rw [hseen, hr.mem_seen, List.mem_append, List.mem_cons]
    constructor
    · rintro (⟨hmem, hm⟩ | hmem)
      · exact ⟨.inl hmem, hm⟩
      · exact ⟨.inr (.inr hmem), hmodules id hmem⟩
    · rintro ⟨hmem | rfl | hmem, hm⟩
      · exact .inl ⟨hmem, hm⟩
      · exact absurd hm hmodule
      · exact .inr hmem

/-- **A turn keeps the rules of its row in order.**  The ways from its sink come after those from
the sinks before it, as its number is greater. -/
theorem Ranked.addSink (hr : c.Ranked old row past d seen order) (h : c.Gathered begun past d)
    (hc : c.pipeline.Consistent) (ht : c.pipeline.toolbox.Built) (hmemo : Memo row d seen)
    {b : Block} (hb : b ∈ c.pipeline.blocks) (hsink : b.isSink = true)
    (hlater : ∀ turn ∈ past, turn.row = row → turn.sink.id.number < b.id.number)
    (hd : c.addSink row (d, seen) b = .ok (d', seen')) :
    ∃ order', c.Ranked old row (past ++ [⟨row, b⟩]) d' seen' order' := by
  obtain ⟨column, input, hkind⟩ := Block.exists_kind_of_isSink hsink
  obtain ⟨source, target, origin, hsource, htarget, horigin, hcase⟩ := addSink_eq_ok hkind hd
  have hn := (noted_addArguments d [origin]).1
  rcases hcase with ⟨hmem, rfl, rfl⟩ | ⟨hnew, rfl, hfollow⟩
  · exact ⟨order, hr.skip htarget ((h.mem_targets target).1 hmem) hn.rules⟩
  · have hfirst : ∀ earlier ∈ past, earlier.target? ≠ some target :=
      fun earlier hmem hearlier => hnew ((h.mem_targets target).2 ⟨earlier, hmem, hearlier⟩)
    have hemitted : Emits (past ++ [⟨row, b⟩]) ⟨row, b⟩ target :=
      emits_append.2 (.inr ⟨rfl, htarget, hfirst⟩)
    have hmodule := not_isModule_of_sink hc hb hkind
    obtain ⟨new, hex, horder⟩ := hc.walk_inOrder ht [] seen source.block (h.tracked hmemo)
      (fun a ha => absurd ha List.not_mem_nil) ⟨b.id, 0, source, hsource, rfl⟩
      (loop_not_mem_of_follow hfollow)
    rw [hex.visits] at hfollow
    obtain ⟨more, hgained⟩ := foldlM_follow hc ht hex.modules hfollow
    have hfresh : ∀ id ∈ new, id ∉ order :=
      fun id hid hmem => hex.fresh id hid ((hr.mem_seen id).2 ⟨hmem, hex.modules id hid⟩)
    have hapart : ∀ id ∈ new, id ∉ b.id :: order := by
      intro id hid
      rw [List.mem_cons, not_or]
      exact ⟨fun heq => hmodule (heq ▸ hex.modules id hid), hfresh id hid⟩
    have hturn := inOrder_of_sink hc hb hkind hsource horder hapart fun id hid =>
      ((hr.mem_seen id).1 hid).1
    have hcopy : (withCopy (addArguments d [origin]) target origin.path).rules =
        d.rules ++ [.copy target origin.path] := by
      rw [withCopy, ScriptDraft.addRule, hn.rules]
    exact ⟨order ++ b.id :: new,
      hr.emit hemitted hlater hmodule hcopy hgained hex.modules hex.mem_seen hfresh hturn⟩

/-! ## Rows -/

/-- The turns of a row keep its rules in order. -/
theorem Ranked.foldlM_addSink (hr : c.Ranked old row past d seen order)
    (h : c.Gathered begun past d) (hc : c.pipeline.Consistent) (ht : c.pipeline.toolbox.Built)
    (hrow : row ∈ begun) (hmemo : Memo row d seen) {sinks : List Block}
    (hsinks : ∀ b ∈ sinks, b ∈ c.pipeline.blocks ∧ b.isSink = true)
    (hsorted : sinks.Pairwise fun a b => a.id.number < b.id.number)
    (hlater : ∀ turn ∈ past, turn.row = row → ∀ b ∈ sinks, turn.sink.id.number < b.id.number)
    (hd : sinks.foldlM (c.addSink row) (d, seen) = .ok (d', seen')) :
    ∃ order', c.Ranked old row (past ++ sinks.map (Turn.mk row)) d' seen' order' := by
  induction sinks generalizing past d seen order with
  | nil =>
    cases hd
    rw [List.map_nil, List.append_nil]
    exact ⟨order, hr⟩
  | cons b rest ih =>
    rw [List.foldlM_cons, bind_eq_ok_iff] at hd
    obtain ⟨⟨d₁, seen₁⟩, hone, hrest⟩ := hd
    obtain ⟨hb, hsink⟩ := hsinks b List.mem_cons_self
    rw [List.pairwise_cons] at hsorted
    obtain ⟨order₁, hr₁⟩ := hr.addSink h hc ht hmemo hb hsink
      (fun turn hturn heq => hlater turn hturn heq b List.mem_cons_self) hone
    obtain ⟨hgathered, hmemo₁⟩ := h.addSink hc ht hrow hmemo hb hsink hone
    have hall := ih hr₁ hgathered hmemo₁ (fun b' hb' => hsinks b' (List.mem_cons_of_mem _ hb'))
      hsorted.2 ?_ hrest
    · rw [List.append_assoc] at hall
      exact hall
    · intro turn hturn heq b' hb'
      rcases List.mem_append.1 hturn with hturn | hturn
      · exact hlater turn hturn heq b' (List.mem_cons_of_mem _ hb')
      · obtain rfl := List.mem_singleton.1 hturn
        exact hsorted.1 b' hb'

theorem sortedSinks_pairwise (hc : c.pipeline.Consistent) :
    c.sortedSinks.Pairwise fun a b => a.id.number < b.id.number := by
  have hle : c.sortedSinks.Pairwise fun a b => a.id.number ≤ b.id.number := by
    refine (List.pairwise_mergeSort ?_ ?_ c.pipeline.sinks).imp fun hab => of_decide_eq_true hab
    · intro a b c hab hbc
      exact decide_eq_true ((of_decide_eq_true hab).trans (of_decide_eq_true hbc))
    · intro a b
      simpa using Nat.le_total a.id.number b.id.number
  have hne : c.sortedSinks.Pairwise fun a b => a.id ≠ b.id := by
    have hids : (c.pipeline.sinks.map (·.id)).Nodup :=
      hc.nodup_ids.sublist (List.filter_sublist.map _)
    have hperm := (List.mergeSort_perm c.pipeline.sinks fun a b =>
      decide (a.id.number ≤ b.id.number)).map (·.id)
    exact List.pairwise_map.1 (hperm.nodup_iff.2 hids)
  refine (hle.and hne).imp ?_
  rintro a b ⟨hab, hid⟩
  refine lt_of_le_of_ne hab fun heq => hid ?_
  exact congrArg BlockId.mk heq

/-- The rules of a row are those of some blocks, in the order of the first ways to them. -/
structure Placed (c : Compilation) (turns : List Turn) (row : Row) (order : List BlockId)
    (rules : List Rule) : Prop where
  serves : List.Forall₂ (Serves turns row) order rules
  inOrder : InOrder (c.pipeline.RowWay turns row) [] order

/-- Turns of other rows leave a row as it is. -/
theorem Placed.append (h : c.Placed past row order old) {more : List Turn}
    (hmore : ∀ turn ∈ more, turn.row ≠ row) : c.Placed (past ++ more) row order old := by
  have hemits : ∀ sink target, Emits (past ++ more) ⟨row, sink⟩ target ↔
      Emits past ⟨row, sink⟩ target := emits_append_of_row hmore
  refine ⟨h.serves.imp fun id rule hrule => hrule.congr fun sink t => (hemits sink t).2, ?_⟩
  exact h.inOrder.congr (Pipeline.rowWay_congr hemits)

/-- **The rules of a row are in order**, behind the rule for its directory. -/
theorem Gathered.placed_of_addRow (h : c.Gathered begun past d) (hc : c.pipeline.Consistent)
    (ht : c.pipeline.toolbox.Built) (hnew : row.id ∉ begun.map (·.id))
    (hd : c.addRow d row = .ok d') :
    c.Gathered (begun ++ [row]) (past ++ c.sortedSinks.map (Turn.mk row)) d' ∧
      ∃ order rules, d'.rules = d.rules ++ .directory row.id :: rules ∧
        c.Placed (past ++ c.sortedSinks.map (Turn.mk row)) row order rules := by
  rw [addRow, bind_eq_ok_iff] at hd
  obtain ⟨⟨d₁, seen⟩, hsinks, hd⟩ := hd
  cases hd
  have hpast : ∀ turn ∈ past, turn.row ≠ row :=
    fun turn hturn heq => hnew (heq ▸ List.mem_map_of_mem (h.row_mem turn hturn))
  obtain ⟨hbegun, hmemo⟩ := h.addDirectory hnew
  have hranked : c.Ranked (d.rules ++ [.directory row.id]) row past
      (d.addRule (.directory row.id)) [] [] := by
    refine ⟨⟨[], (List.append_nil _).symm, .nil⟩, .stay ?_, by simp⟩
    rintro w m ⟨sink, target, rest, hemits, -⟩
    exact absurd rfl (hpast _ hemits.mem)
  obtain ⟨order, ⟨rules, hrules, hserves⟩, hinOrder, -⟩ := hranked.foldlM_addSink hbegun hc ht
    (by simp) hmemo (fun b => mem_sortedSinks) (sortedSinks_pairwise hc)
    (fun turn hturn heq => absurd heq (hpast turn hturn)) hsinks
  refine ⟨hbegun.foldlM_addSink hc ht (by simp) hmemo (fun b => mem_sortedSinks) hsinks, order,
    rules, ?_, hserves, hinOrder⟩
  rw [hrules, List.append_assoc, List.singleton_append]

/-- The rules of all rows are in order. -/
theorem Gathered.exists_placed (h : c.Gathered begun past d) (hc : c.pipeline.Consistent)
    (ht : c.pipeline.toolbox.Built) {rows : List Row}
    (hnodup : ((begun ++ rows).map (·.id)).Nodup) (hd : rows.foldlM c.addRow d = .ok d') :
    ∃ (order : Row → List BlockId) (rules : Row → List Rule),
      d'.rules = d.rules ++ rows.flatMap (fun row => .directory row.id :: rules row) ∧
      ∀ row ∈ rows, c.Placed (past ++ rows.flatMap fun row => c.sortedSinks.map (Turn.mk row)) row
        (order row) (rules row) := by
  induction rows generalizing begun past d with
  | nil =>
    cases hd
    exact ⟨fun _ => [], fun _ => [], by simp, by simp⟩
  | cons row rest ih =>
    rw [List.foldlM_cons, bind_eq_ok_iff] at hd
    obtain ⟨d₁, hone, hrest⟩ := hd
    have hapart := List.nodup_append.1 (List.map_append ▸ hnodup)
    have hnew : row.id ∉ begun.map (·.id) :=
      fun hmem => hapart.2.2 _ hmem _ List.mem_cons_self rfl
    have hother : ∀ other ∈ rest, other ≠ row := by
      rintro other hmem rfl
      exact (List.nodup_cons.1 hapart.2.1).1 (List.mem_map_of_mem hmem)
    obtain ⟨hgathered, own, ownRules, hrules, hown⟩ := h.placed_of_addRow hc ht hnew hone
    rw [List.append_cons] at hnodup
    obtain ⟨order, rules, heq, hplaced⟩ := ih hgathered hnodup hrest
    refine ⟨Function.update order row own, Function.update rules row ownRules, ?_, ?_⟩
    · have hsame : rest.flatMap (fun r => .directory r.id :: Function.update rules row ownRules r) =
          rest.flatMap fun r => .directory r.id :: rules r := by
        refine List.flatMap_congr fun r hr => ?_
        rw [Function.update_of_ne (hother r hr)]
      rw [heq, hrules, List.flatMap_cons, Function.update_self, hsame]
      simp only [List.append_assoc, List.cons_append]
    · rw [List.flatMap_cons, ← List.append_assoc]
      intro r hr
      rcases List.mem_cons.1 hr with rfl | hr
      · rw [Function.update_self, Function.update_self]
        refine hown.append fun turn hturn => ?_
        obtain ⟨other, hmem, hturn⟩ := List.mem_flatMap.1 hturn
        obtain ⟨sink, -, rfl⟩ := List.mem_map.1 hturn
        exact hother other hmem
      · rw [Function.update_of_ne (hother r hr), Function.update_of_ne (hother r hr)]
        exact hplaced r hr

end Compilation

/-! ## Blocks and what feeds them -/

namespace Pipeline

variable {p : Pipeline} {turns : List Turn} {row : Row} {w : List Nat} {x u : BlockId}

/-- A way of a row goes along the inputs from its sink. -/
theorem RowWay.exists_ascend (h : p.RowWay turns row w x) : ∃ sink target rest,
    Emits turns ⟨row, sink⟩ target ∧ w = sink.id.number :: rest ∧
      p.ascend sink.id rest = some x := by
  obtain ⟨sink, target, rest, hemits, rfl, ⟨rfl, rfl⟩ | ⟨hway, -⟩⟩ := h
  · exact ⟨sink, target, [], hemits, rfl, rfl⟩
  · exact ⟨sink, target, rest, hemits, rfl, hway⟩

/-- A way leads to one block. -/
theorem RowWay.unique (h : p.RowWay turns row w x) (h' : p.RowWay turns row w u) : x = u := by
  obtain ⟨sink, -, rest, -, rfl, hx⟩ := h.exists_ascend
  obtain ⟨sink', -, rest', -, heq, hu⟩ := h'.exists_ascend
  obtain ⟨hnumber, rfl⟩ := List.cons.inj heq
  obtain hid : sink.id = sink'.id := congrArg BlockId.mk hnumber
  rw [hid] at hx
  exact Option.some.inj (hx.symm.trans hu)

/-- A way to a block goes on to a module that feeds it. -/
theorem RowWay.step (h : p.RowWay turns row w x) {i : Nat} {source : PortRef}
    (hsource : p.feeder? (.input x i) = some source) (hm : p.IsModule source.block) :
    p.RowWay turns row (w ++ [i]) source.block := by
  obtain ⟨sink, target, rest, hemits, rfl, hway⟩ := h.exists_ascend
  refine ⟨sink, target, rest ++ [i], hemits, rfl, .inr ⟨?_, hm⟩⟩
  rw [ascend_append, hway, Option.bind_some, ascend, hsource]
  rfl

/-- A way to a module comes from a block that the module feeds. -/
theorem RowWay.exists_last (h : p.RowWay turns row w u) (hc : p.Consistent)
    (hsinks : ∀ turn ∈ turns, ¬p.IsModule turn.sink.id) (hm : p.IsModule u) :
    ∃ v i y, w = v ++ [i] ∧ p.RowWay turns row v y ∧ p.Feeds u y := by
  obtain ⟨sink, target, rest, hemits, rfl, ⟨rfl, rfl⟩ | ⟨hway, -⟩⟩ := h
  · exact absurd hm (hsinks _ hemits.mem)
  · rcases List.eq_nil_or_concat rest with rfl | ⟨front, i, rfl⟩
    · obtain rfl := Option.some.inj hway
      exact absurd hm (hsinks _ hemits.mem)
    · rw [List.concat_eq_append, ascend_append, Option.bind_eq_some_iff] at hway
      obtain ⟨y, hy, hlast⟩ := hway
      obtain ⟨source, hsource, hend⟩ := Option.bind_eq_some_iff.1 hlast
      obtain rfl := Option.some.inj hend
      have hfeeds : p.Feeds source.block y := ⟨i, source, hsource, rfl⟩
      refine ⟨sink.id.number :: front, i, y, by simp, ⟨sink, target, front, hemits, rfl, ?_⟩,
        hfeeds⟩
      rcases List.eq_nil_or_concat front with rfl | ⟨front, k, rfl⟩
      · exact .inl ⟨rfl, (Option.some.inj hy).symm⟩
      · refine .inr ⟨hy, ?_⟩
        rw [List.concat_eq_append, ascend_append, Option.bind_eq_some_iff] at hy
        obtain ⟨z, -, hlast⟩ := hy
        obtain ⟨other, hother, hend⟩ := Option.bind_eq_some_iff.1 hlast
        obtain rfl := Option.some.inj hend
        exact hc.isModule_of_feeds hfeeds ⟨k, other, hother, rfl⟩

end Pipeline

namespace Compilation

variable {c : Compilation} {row : Row} {turns : List Turn} {order : List BlockId}
  {rules : List Rule} {x u : BlockId} {i j : Nat}

/-- Rules stand in the order of the first ways to their blocks. -/
theorem Placed.lt_iff (h : c.Placed turns row order rules) (hx : order[i]? = some x)
    (hu : order[j]? = some u) {w w' : List Nat} (hw : IsFirst (c.pipeline.RowWay turns row) x w)
    (hw' : IsFirst (c.pipeline.RowWay turns row) u w') : i < j ↔ w < w' := by
  have hsorted := List.pairwise_iff_getElem.1 h.inOrder.sorted
  obtain ⟨hi, rfl⟩ := List.getElem?_eq_some_iff.1 hx
  obtain ⟨hj, rfl⟩ := List.getElem?_eq_some_iff.1 hu
  constructor
  · exact fun hij => hsorted i j hi hj hij w w' hw hw'
  · intro hlt
    rcases Nat.lt_trichotomy i j with hij | rfl | hji
    · exact hij
    · exact absurd (hw.unique hw') hlt.ne
    · exact absurd (hsorted j i hj hi hji w' w hw' hw) hlt.not_gt

/-- **The rule of a block comes before that of a module that feeds it exactly if the first way to
the module goes through the block.** -/
theorem Placed.lt_iff_prefix (h : c.Placed turns row order rules) (hx : order[i]? = some x)
    (hu : order[j]? = some u) (hfeeds : c.pipeline.Feeds u x) (hm : c.pipeline.IsModule u)
    (hloop : x ≠ u) {w w' : List Nat} (hw : IsFirst (c.pipeline.RowWay turns row) x w)
    (hw' : IsFirst (c.pipeline.RowWay turns row) u w') : i < j ↔ w <+: w' := by
  rw [h.lt_iff hx hu hw hw']
  obtain ⟨k, source, hsource, rfl⟩ := hfeeds
  constructor
  · exact fun hlt => prefix_of_lt_of_le hlt (hw'.2 (Pipeline.RowWay.step hw.1 hsource hm))
  · intro hprefix
    refine lt_of_initial hprefix ?_
    rintro rfl
    exact hloop (Pipeline.RowWay.unique hw.1 hw'.1)

theorem not_isModule_of_turns (hc : c.pipeline.Consistent)
    (hsinks : ∀ turn ∈ turns, turn.sink ∈ c.pipeline.sinks) :
    ∀ turn ∈ turns, ¬c.pipeline.IsModule turn.sink.id := by
  intro turn hturn
  obtain ⟨hb, hsink⟩ := List.mem_filter.1 (hsinks turn hturn)
  obtain ⟨column, input, hkind⟩ := Block.exists_kind_of_isSink hsink
  exact not_isModule_of_sink hc hb hkind

/-- A block that has a rule and feeds another one runs a module, and does not feed itself. -/
theorem Gathered.of_feeds {begun : List Row} {d : ScriptDraft} (h : c.Gathered begun turns d)
    (hc : c.pipeline.Consistent) (hsinks : ∀ turn ∈ turns, turn.sink ∈ c.pipeline.sinks)
    {w : List Nat} (hway : c.pipeline.RowWay turns row w u) (hfeeds : c.pipeline.Feeds u x) :
    c.pipeline.IsModule u ∧ x ≠ u := by
  obtain ⟨sink, target, rest, hemits, -, ⟨rfl, rfl⟩ | ⟨hway, hm⟩⟩ := hway
  · obtain ⟨hb, hsink⟩ := List.mem_filter.1 (hsinks _ hemits.mem)
    obtain ⟨column, input, hkind⟩ := Block.exists_kind_of_isSink hsink
    obtain ⟨i, source, hsource, heq⟩ := hfeeds
    obtain ⟨⟨b, port, hb', hport⟩, -⟩ := hc.feeder_ends hsource
    rw [heq] at hb'
    obtain rfl := Option.some.inj ((Pipeline.block?_of_mem hc.nodup_ids hb).symm.trans hb')
    rw [Block.outputs, hkind] at hport
    cases hport
  · refine ⟨hm, ?_⟩
    rintro rfl
    have hup : c.pipeline.Upstream x sink.id := by
      rcases Relation.reflTransGen_iff_eq_or_transGen.1 (Pipeline.reflTransGen_of_ascend hway) with
        heq | hup
      · exact absurd (heq ▸ hm) (not_isModule_of_turns hc hsinks _ hemits.mem)
      · exact hup
    have htask := (h.mem_tasks row.id x).2 ⟨⟨row, sink⟩, target, hemits, rfl, hm, hup⟩
    exact Pipeline.not_upstream_self (h.grounded _ htask) (.single hfeeds)

/-- A rule comes before that of a module that feeds nothing but its block. -/
theorem Placed.lt_of_sole (h : c.Placed turns row order rules) (hc : c.pipeline.Consistent)
    (hsinks : ∀ turn ∈ turns, ¬c.pipeline.IsModule turn.sink.id) (hx : order[i]? = some x)
    (hu : order[j]? = some u) (hm : c.pipeline.IsModule u)
    (hsole : ∀ y ∈ order, c.pipeline.Feeds u y → y = x) : i < j := by
  obtain ⟨w, hw⟩ := h.inOrder.first x (List.mem_of_getElem? hx)
  obtain ⟨w', hw'⟩ := h.inOrder.first u (List.mem_of_getElem? hu)
  rw [h.lt_iff hx hu hw hw']
  obtain ⟨v, k, y, rfl, hy, hfeeds⟩ := Pipeline.RowWay.exists_last hw'.1 hc hsinks hm
  obtain rfl := hsole y ((h.inOrder.complete v y hy).resolve_left List.not_mem_nil) hfeeds
  exact lt_of_le_of_lt (hw.2 hy) (lt_of_initial (List.prefix_append v [k]) (by simp))

end Compilation

/-! ## Scripts -/

/-- The rules of a row, which are those of some blocks in some order. -/
structure Compilation.RowOrder (c : Compilation) (row : Row) (order : List BlockId)
    (rules : List Rule) : Prop where
  serves : List.Forall₂ (Serves c.turns row) order rules
  /-- The blocks are those that a way leads to. -/
  mem_order : ∀ m, m ∈ order ↔ ∃ w, c.pipeline.RowWay c.turns row w m
  /-- A block comes before one that feeds it exactly if the first way to the latter goes through
  it. -/
  before_iff : ∀ (i j : Nat) (x u : BlockId), order[i]? = some x → order[j]? = some u →
    c.pipeline.Feeds u x → ∃ w w', IsFirst (c.pipeline.RowWay c.turns row) x w ∧
      IsFirst (c.pipeline.RowWay c.turns row) u w' ∧ (i < j ↔ w <+: w')
  /-- So it does if the latter feeds no other block that has a rule for the row. -/
  before_of_sole : ∀ (i j : Nat) (x u : BlockId), order[i]? = some x → order[j]? = some u →
    c.pipeline.Feeds u x → (∀ y ∈ order, c.pipeline.Feeds u y → y = x) → i < j

/-- The rules of a script, row by row. -/
def BuildScript.FollowsWays (s : BuildScript) (c : Compilation) : Prop :=
  ∃ (order : Row → List BlockId) (rules : Row → List Rule),
    s.rules = c.table.rows.flatMap (fun row => .directory row.id :: rules row) ∧
      ∀ row ∈ c.table.rows, c.RowOrder row (order row) (rules row)

/-- **The rules of each row stand in the order of the first ways to their blocks.**  The rule of a
block comes before that of a module that feeds it if and only if the first way to the module goes
through the block. -/
theorem Pipeline.Reachable.rules_follow_ways {t : Toolbox} (ht : t.Built) {p : Pipeline}
    (hp : Reachable t p) {delimiter : Char} {text : String} {table : Table}
    (htable : Table.parseWith delimiter text = .ok table) {options : ScriptOptions}
    {directory root : String} {s : BuildScript}
    (hs : compile options p table directory root = .ok s) : s.FollowsWays ⟨p, table⟩ := by
  obtain ⟨hc, rfl⟩ := hp.consistent
  obtain ⟨d, hd, hrules, -⟩ := Compilation.compile_eq_ok hs
  have hrows := Table.Sound.of_parseWith htable
  have hgathered := Compilation.gathered_draft (c := ⟨p, table⟩) hc ht hrows hd
  obtain ⟨order, rules, heq, hplaced⟩ :=
    (Compilation.Gathered.empty ⟨p, table⟩).exists_placed hc ht hrows.nodup_ids hd
  have hsinks : ∀ turn ∈ (Compilation.mk p table).turns, turn.sink ∈ p.sinks :=
    fun turn hturn => (Compilation.mem_turns.1 hturn).2
  refine ⟨order, rules, hrules.trans heq, fun row hrow => ?_⟩
  have hplace := hplaced row hrow
  refine ⟨hplace.serves, fun m => ⟨fun hm => ?_, fun ⟨w, hw⟩ => ?_⟩, ?_, ?_⟩
  · obtain ⟨w, hw⟩ := hplace.inOrder.first m hm
    exact ⟨w, hw.1⟩
  · exact (hplace.inOrder.complete w m hw).resolve_left List.not_mem_nil
  · intro i j x u hx hu hfeeds
    obtain ⟨w, hw⟩ := hplace.inOrder.first x (List.mem_of_getElem? hx)
    obtain ⟨w', hw'⟩ := hplace.inOrder.first u (List.mem_of_getElem? hu)
    obtain ⟨hm, hne⟩ := hgathered.of_feeds hc hsinks hw'.1 hfeeds
    exact ⟨w, w', hw, hw', hplace.lt_iff_prefix hx hu hfeeds hm hne hw hw'⟩
  · intro i j x u hx hu hfeeds hsole
    obtain ⟨w', hw'⟩ := hplace.inOrder.first u (List.mem_of_getElem? hu)
    obtain ⟨hm, -⟩ := hgathered.of_feeds hc hsinks hw'.1 hfeeds
    exact hplace.lt_of_sole hc (Compilation.not_isModule_of_turns (c := ⟨p, table⟩) hc hsinks)
      hx hu hm hsole

/-! ## A specimen -/

namespace Specimen

/-- A history with a module that is joined to its own result. -/
def crossing : List Edit :=
  [.addSource "in" (text "in" true) place, .addModule "sort" place, .addModule "sort" place,
    .addModule "join" place, .addSink "out" (text "out" true) place,
    .connect (.output ⟨0⟩ 0) (.input ⟨1⟩ 0), .connect (.output ⟨1⟩ 0) (.input ⟨2⟩ 0),
    .connect (.output ⟨1⟩ 0) (.input ⟨3⟩ 0), .connect (.output ⟨2⟩ 0) (.input ⟨3⟩ 1),
    .connect (.output ⟨3⟩ 0) (.input ⟨4⟩ 0)]

/-- The pipeline of that history. -/
def crossed : Pipeline := crossing.foldl Pipeline.edit (.empty "cross" toolbox)

theorem reachable_crossed : Pipeline.Reachable toolbox crossed :=
  (Pipeline.Reachable.empty "cross").edits crossing

/-- What a rule runs, what it needs and what it makes. -/
def step (rule : Rule) : Option (String × BlockId) × List String × List String :=
  (rule.task?, rule.prerequisites, rule.targets)

/-- The steps for a row: the module that is joined twice stands where the first input asks for
it. -/
def crossedSteps : List (Option (String × BlockId) × List String × List String) :=
  [(none, [], ["$(PROCESSING)a"]), (none, ["$(PROCESSING)a/3_0.txt"], ["/data/y"]),
    (some ("a", ⟨3⟩), ["$(PROCESSING)a/1_0.txt", "$(PROCESSING)a/2_0.txt"],
      ["$(PROCESSING)a/3_0.txt", "$(PROCESSING)a/3_1.txt"]),
    (some ("a", ⟨1⟩), ["/data/x"], ["$(PROCESSING)a/1_0.txt"]),
    (some ("a", ⟨2⟩), ["$(PROCESSING)a/1_0.txt"], ["$(PROCESSING)a/2_0.txt"])]

theorem exists_compile_crossed :
    ∃ s, compile .standard crossed (filing "/data/y") "/w" "out" = .ok s ∧
      s.rules.map step = crossedSteps :=
  exists_ok_of_map_toOption (f := fun s : BuildScript => s.rules.map step) (by decide +kernel)

end Specimen

/-- The module that is joined twice has one place in the order. -/
theorem Pipeline.rules_follow_ways_crossed :
    Specimen.toolbox.Built ∧ Reachable Specimen.toolbox Specimen.crossed ∧
      Table.parseWith '|' (Specimen.filingText "/data/y") = .ok (Specimen.filing "/data/y") ∧
      ∃ s, compile .standard Specimen.crossed (Specimen.filing "/data/y") "/w" "out" = .ok s ∧
        Rule.tasks s.rules = [("a", ⟨3⟩), ("a", ⟨1⟩), ("a", ⟨2⟩)] ∧
        s.FollowsWays ⟨Specimen.crossed, Specimen.filing "/data/y"⟩ := by
  have htable := Specimen.parseWith_filingText
  obtain ⟨s, hs, hsteps⟩ := Specimen.exists_compile_crossed
  refine ⟨Specimen.toolbox_built, Specimen.reachable_crossed, htable, s, hs, ?_, ?_⟩
  · have htasks : Rule.tasks s.rules = (s.rules.map Specimen.step).filterMap (·.1) := by
      rw [Rule.tasks, List.filterMap_map]
      rfl
    rw [htasks, hsteps]
    rfl
  · exact Reachable.rules_follow_ways Specimen.toolbox_built Specimen.reachable_crossed htable hs

/-- The last rule needs what the rule before it makes. -/
theorem Pipeline.late_rule_crossed :
    Specimen.toolbox.Built ∧ Reachable Specimen.toolbox Specimen.crossed ∧
      Table.parseWith '|' (Specimen.filingText "/data/y") = .ok (Specimen.filing "/data/y") ∧
      ∃ s early late, compile .standard Specimen.crossed (Specimen.filing "/data/y") "/w" "out" =
          .ok s ∧
        s.rules[3]? = some early ∧ s.rules[4]? = some late ∧
        early.task? = some ("a", ⟨1⟩) ∧ late.task? = some ("a", ⟨2⟩) ∧
        ∃ path ∈ late.prerequisites, path ∈ early.targets := by
  obtain ⟨s, hs, hsteps⟩ := Specimen.exists_compile_crossed
  have hearly := congrArg (·[3]?) hsteps
  have hlate := congrArg (·[4]?) hsteps
  simp only [List.getElem?_map] at hearly hlate
  obtain ⟨early, hearly, hmakes⟩ := Option.map_eq_some_iff.1 hearly
  obtain ⟨late, hlate, hneeds⟩ := Option.map_eq_some_iff.1 hlate
  simp only [Specimen.step, Prod.mk.injEq] at hmakes hneeds
  obtain ⟨hfirst, -, htargets⟩ := hmakes
  obtain ⟨hsecond, hprerequisites, -⟩ := hneeds
  refine ⟨Specimen.toolbox_built, Specimen.reachable_crossed, Specimen.parseWith_filingText, s,
    early, late, hs, hearly, hlate, hfirst, hsecond, "$(PROCESSING)a/1_0.txt", ?_, ?_⟩
  · rw [hprerequisites]
    exact List.mem_cons_self
  · rw [htargets]
    exact List.mem_cons_self

end Flowscript
