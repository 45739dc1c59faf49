import Flowscript.Proofs.Analysis.AtRisk
import Flowscript.Proofs.Pipeline.Departures

/-!
# The ways below a module

The tree of a failure has a line for each way that goes down from the module that failed and through
no block twice.  A block that several ways lead to has a line for each of them, and a way ends where
it would come back to itself.

* `Pipeline.SimpleWay` are these ways, as lists of connections, and `Pipeline.waysBelow` lists them.
* `Pipeline.Consistent.mem_waysBelow_iff` says that none is left out, and
  `Pipeline.Consistent.pairwise_waysBelow` in which order they come.
* `Pipeline.Consistent.atRisk_of_waysBelow` compares them with the blocks of a report.
* `Pipeline.Reachable.report_follows_ways` is the result for reports.
-/

set_option autoImplicit false

namespace Flowscript

theorem Connection.not_lex_self (w : List Connection) : ¬List.Lex Connection.Before w w := by
  induction w with
  | nil => rintro ⟨⟩
  | cons c w ih =>
    intro h
    cases h with
    | rel h => exact c.not_before_self h
    | cons h => exact ih h

namespace Pipeline

/-! ## Ways -/

/-- The first connection leaves the block, and each other one the block that the one before it
enters. -/
def Descends (id : BlockId) : List Connection → Prop
  | [] => True
  | c :: rest => c.source.block = id ∧ Descends c.target.block rest

/-- The block at the end of a way. -/
def wayEnd (id : BlockId) : List Connection → BlockId
  | [] => id
  | c :: rest => wayEnd c.target.block rest

/-- The blocks that a way enters. -/
def entered (w : List Connection) : List BlockId := w.map (·.target.block)

/-- A way down from a block that goes through no block twice. -/
structure SimpleWay (p : Pipeline) (id : BlockId) (w : List Connection) : Prop where
  made : ∀ c ∈ w, c ∈ p.connections
  descends : Descends id w
  nodup : (id :: entered w).Nodup

/-- The ways down from a block that go through no block twice and keep off a path. -/
def waysBelow (p : Pipeline) (path : List BlockId) (id : BlockId) : List (List Connection) :=
  match h : p.block? id with
  | none => []
  | some _ =>
    if hpath : id ∈ path then []
    else
      have := length_offPath_cons_lt h hpath
      [] :: (p.departures id).flatMap fun c =>
        (p.waysBelow (id :: path) c.target.block).map (c :: ·)
termination_by (p.offPath path).length

variable {p : Pipeline} {path : List BlockId} {id : BlockId}

theorem waysBelow_of_mem (hpath : id ∈ path) : p.waysBelow path id = [] := by
  rw [waysBelow]
  split
  · rfl
  · rw [dif_pos hpath]

theorem waysBelow_of_block {b : Block} (hb : p.block? id = some b) (hpath : id ∉ path) :
    p.waysBelow path id = [] :: (p.departures id).flatMap fun c =>
      (p.waysBelow (id :: path) c.target.block).map (c :: ·) := by
  rw [waysBelow]
  split
  · rename_i hnone
    rw [hb] at hnone
    cases hnone
  · rw [dif_neg hpath]

theorem simpleWay_cons_iff {c : Connection} {w : List Connection} :
    p.SimpleWay id (c :: w) ↔ c ∈ p.connections ∧ c.source.block = id ∧
      p.SimpleWay c.target.block w ∧ id ∉ c.target.block :: entered w := by
  constructor
  · rintro ⟨hmade, ⟨hsource, hdescends⟩, hnodup⟩
    rw [entered, List.map_cons, ← entered, List.nodup_cons] at hnodup
    exact ⟨hmade c List.mem_cons_self, hsource,
      ⟨fun d hd => hmade d (List.mem_cons_of_mem _ hd), hdescends, hnodup.2⟩, hnodup.1⟩
  · rintro ⟨hc, hsource, hway, hid⟩
    exact ⟨List.forall_mem_cons.2 ⟨hc, hway.made⟩, ⟨hsource, hway.descends⟩,
      List.nodup_cons.2 ⟨hid, hway.nodup⟩⟩

namespace Consistent

/-- What a connection enters is there, and is no source. -/
theorem exists_target (h : p.Consistent) {c : Connection} (hc : c ∈ p.connections) :
    ∃ b, p.block? c.target.block = some b ∧ b.isSource = false := by
  have hfeeds : p.Feeds c.source.block c.target.block := by
    rw [← h.exists_mem_fedBy, h.fedBy_eq_departures]
    exact ⟨c.target, List.mem_map_of_mem (h.mem_departures.2 ⟨hc, rfl⟩), rfl⟩
  exact h.exists_fed_block hfeeds

/-! ## The list of ways -/

/-- **Every way that goes through no block twice is listed.** -/
theorem mem_waysBelow_iff (h : p.Consistent) (path : List BlockId) :
    ∀ {id : BlockId} {b : Block} {w : List Connection}, p.block? id = some b →
      (w ∈ p.waysBelow path id ↔ p.SimpleWay id w ∧ ∀ a ∈ id :: entered w, a ∉ path) := by
  -- The path grows with every step down, so fewer blocks are off it.
  induction hn : (p.offPath path).length using Nat.strongRecOn generalizing path with
  | _ n ih =>
    intro id b w hb
    by_cases hpath : id ∈ path
    · rw [waysBelow_of_mem hpath]
      refine iff_of_false List.not_mem_nil ?_
      rintro ⟨-, hoff⟩
      exact hoff id List.mem_cons_self hpath
    · have hlt : (p.offPath (id :: path)).length < n := hn ▸ length_offPath_cons_lt hb hpath
      rw [waysBelow_of_block hb hpath, List.mem_cons, List.mem_flatMap]
      cases w with
      | nil =>
        refine iff_of_true (.inl rfl) ⟨⟨by simp, trivial, by simp [entered]⟩, ?_⟩
        simpa [entered] using hpath
      | cons c w =>
        have hstep : (∃ d ∈ p.departures id,
            c :: w ∈ (p.waysBelow (id :: path) d.target.block).map (d :: ·)) ↔
            c ∈ p.departures id ∧ w ∈ p.waysBelow (id :: path) c.target.block := by
          constructor
          · rintro ⟨d, hd, hw⟩
            obtain ⟨w', hw', heq⟩ := List.mem_map.1 hw
            obtain ⟨rfl, rfl⟩ := List.cons.inj heq
            exact ⟨hd, hw'⟩
          · rintro ⟨hc, hw⟩
            exact ⟨c, hc, List.mem_map_of_mem hw⟩
        rw [or_iff_right (by simp), hstep, h.mem_departures, simpleWay_cons_iff]
        constructor
        · rintro ⟨⟨hc, hsource⟩, hw⟩
          obtain ⟨b', hb', -⟩ := h.exists_target hc
          obtain ⟨hway, hoff⟩ := (ih _ hlt (id :: path) rfl hb').1 hw
          refine ⟨⟨hc, hsource, hway, fun hmem => hoff id hmem List.mem_cons_self⟩, ?_⟩
          refine List.forall_mem_cons.2 ⟨hpath, fun a ha hmem => ?_⟩
          exact hoff a ha (List.mem_cons_of_mem _ hmem)
        · rintro ⟨⟨hc, hsource, hway, hid⟩, hoff⟩
          obtain ⟨b', hb', -⟩ := h.exists_target hc
          refine ⟨⟨hc, hsource⟩, (ih _ hlt (id :: path) rfl hb').2 ⟨hway, fun a ha hmem => ?_⟩⟩
          rcases List.mem_cons.1 hmem with rfl | hmem
          · exact hid ha
          · exact hoff a (List.mem_cons_of_mem _ ha) hmem

/-- **Ways are listed in order**: a way stands before those that go on from it, and those that part
stand in the order of the connections by which they part. -/
theorem pairwise_waysBelow (h : p.Consistent) (path : List BlockId) (id : BlockId) :
    (p.waysBelow path id).Pairwise (List.Lex Connection.Before) := by
  fun_induction waysBelow p path id with
  | case1 => exact .nil
  | case2 => exact .nil
  | case3 path id b hb hpath hlt ih =>
    refine List.pairwise_cons.2 ⟨?_, List.pairwise_flatMap.2 ⟨fun c _ => ?_, ?_⟩⟩
    · intro w hw
      obtain ⟨c, -, hw⟩ := List.mem_flatMap.1 hw
      obtain ⟨rest, -, rfl⟩ := List.mem_map.1 hw
      exact .nil
    · exact List.pairwise_map.2 ((ih c).imp .cons)
    · refine (h.pairwise_departures id).imp ?_
      intro c d hcd w hw w' hw'
      obtain ⟨rest, -, rfl⟩ := List.mem_map.1 hw
      obtain ⟨rest', -, rfl⟩ := List.mem_map.1 hw'
      exact .rel hcd

/-! ## The blocks of a report -/

/-- **A report goes through the ends of the ways, one for each way**, as deep as the way is long. -/
theorem atRisk_of_waysBelow (h : p.Consistent) (path : List BlockId) (depth : Nat) (id : BlockId)
    (hid : ∀ b, p.block? id = some b → b.isSource = false) :
    List.Forall₂ (fun w visit => visit.1 = depth + w.length ∧
        p.block? (wayEnd id w) = some visit.2 ∧ visit.2.isSource = false)
      (p.waysBelow path id) (p.atRisk path depth id) := by
  fun_induction atRisk p path depth id with
  | case1 path depth id hnone =>
    rw [waysBelow]
    split
    · exact .nil
    · rename_i b hb
      rw [hnone] at hb
      cases hb
  | case2 path depth id b hb hpath =>
    rw [waysBelow_of_mem hpath]
    exact .nil
  | case3 path depth id b hb hpath hsource =>
    rw [hid b hb] at hsource
    cases hsource
  | case4 path depth id b hb hpath hsource hlt ih =>
    rw [waysBelow_of_block hb hpath, h.fedBy_eq_departures, List.flatMap_map]
    refine .cons ⟨rfl, hb, hid b hb⟩ ?_
    refine List.rel_flatMap (R := fun c d => c = d ∧ c ∈ p.departures id)
      (List.forall₂_same.2 fun c hc => ⟨rfl, hc⟩) ?_
    rintro c _ ⟨rfl, hc⟩
    obtain ⟨b', hb', hsource'⟩ := h.exists_target (h.mem_departures.1 hc).1
    have hbelow := ih c.target fun b hb => Option.some.inj (hb'.symm.trans hb) ▸ hsource'
    rw [List.forall₂_map_left_iff]
    refine hbelow.imp ?_
    rintro w visit ⟨hdepth, hblock, hvisit⟩
    exact ⟨by rw [hdepth, List.length_cons]; omega, hblock, hvisit⟩

end Consistent

end Pipeline

/-! ## Reports -/

/-- The node names the block: by its module, or by its column and what the row has there. -/
def FailureNode.Names (row : Row) (b : Block) : FailureNode → Prop
  | .module name => b.isModule = true ∧ name = b.label
  | .sink column file => b.isSink = true ∧ column = b.label ∧
      file = (row.resolved? column).getD "<missing>"

/-- The marker names a module of the pipeline, and a row of the table. -/
def FailureMarker.Names (marker : FailureMarker) (p : Pipeline) (table : Table) : Prop :=
  (∃ m ∈ p.blocks, m.id = marker.block ∧ m.isModule = true) ∧
    ∃ row ∈ table.rows, row.id = marker.row

instance (marker : FailureMarker) (p : Pipeline) (table : Table) :
    Decidable (marker.Names p table) :=
  inferInstanceAs (Decidable (_ ∧ _))

/-- The entry is the one for the marker: it has the names that the marker has, and the tree below
the module for the row. -/
structure FailureEntry.Answers (p : Pipeline) (table : Table) (marker : FailureMarker)
    (entry : FailureEntry) : Prop where
  row : entry.row = marker.row
  block : entry.block = marker.block
  tree : ∃ m row, m ∈ p.blocks ∧ m.id = marker.block ∧ m.isModule = true ∧
    table.row? marker.row = some row ∧ entry.module = m.label ∧
    entry.lines = p.failureLines row [] 0 m.id

namespace Pipeline

variable {p : Pipeline}

/-- A line for each way that goes down from a block and through no block twice: as deep as the way
is long, and naming the block at its end.  The lines come in the order of ways. -/
def ListsWays (p : Pipeline) (row : Row) (id : BlockId) (lines : List FailureLine) : Prop :=
  ∃ ways : List (List Connection), (∀ w, w ∈ ways ↔ p.SimpleWay id w) ∧ ways.Nodup ∧
    ways.Pairwise (List.Lex Connection.Before) ∧
    List.Forall₂ (fun w line => line.depth = w.length ∧
      ∃ b, p.block? (wayEnd id w) = some b ∧ line.node.Names row b) ways lines

theorem exists_failureNode? (row : Row) {b : Block} (hb : b.isSource = false) :
    ∃ node, failureNode? row b = some node ∧ node.Names row b := by
  obtain ⟨id, position, kind⟩ := b
  cases kind with
  | source => cases hb
  | module => exact ⟨_, rfl, rfl, rfl⟩
  | sink => exact ⟨_, rfl, rfl, rfl, rfl⟩

/-- **The tree below a module lists the ways.** -/
theorem Consistent.listsWays (h : p.Consistent) (row : Row) {m : Block} (hm : m ∈ p.blocks)
    (hmodule : m.isModule = true) : p.ListsWays row m.id (p.failureLines row [] 0 m.id) := by
  obtain ⟨definition, inputs, outputs, hkind⟩ := Block.exists_kind_of_isModule hmodule
  have hsource : m.isSource = false := by rw [Block.isSource, hkind]
  have hblock : p.block? m.id = some m := block?_of_mem h.nodup_ids hm
  have hlex := h.pairwise_waysBelow [] m.id
  refine ⟨p.waysBelow [] m.id, fun w => ?_, hlex.imp ?_, hlex, ?_⟩
  · rw [h.mem_waysBelow_iff [] hblock, and_iff_left fun a _ => List.not_mem_nil]
  · rintro w _ hlt rfl
    exact Connection.not_lex_self w hlt
  · have hvisits := h.atRisk_of_waysBelow [] 0 m.id fun b hb =>
      Option.some.inj (hblock.symm.trans hb) ▸ hsource
    rw [failureLines_eq, ← List.filterMap_some (l := p.waysBelow [] m.id)]
    refine List.rel_filterMap ?_ hvisits
    rintro w ⟨depth, b⟩ ⟨hdepth, hend, hvisit⟩
    obtain ⟨node, hnode, hnames⟩ := exists_failureNode? row hvisit
    rw [lineOf?, hnode]
    exact .some ⟨hdepth.trans (Nat.zero_add _), b, hend, hnames⟩

end Pipeline

namespace FailureReport

variable {p : Pipeline} {table : Table} {marker : FailureMarker}

theorem entryOf?_of_names (h : p.Consistent) (hnames : marker.Names p table) :
    ∃ entry, entryOf? p table marker = some entry ∧ entry.Answers p table marker := by
  obtain ⟨⟨m, hm, hid, hmodule⟩, hrow⟩ := hnames
  obtain ⟨definition, inputs, outputs, hkind⟩ := Block.exists_kind_of_isModule hmodule
  have hblock : p.block? marker.block = some m := hid ▸ Pipeline.block?_of_mem h.nodup_ids hm
  have hdefinition : m.definition? = some definition := by rw [Block.definition?, hkind]
  have hlabel : definition.name = m.label := by rw [Block.label, hkind]
  obtain ⟨row, hfound⟩ : ∃ row, table.row? marker.row = some row := by
    refine Option.isSome_iff_exists.1 (List.find?_isSome.2 ?_)
    simpa only [beq_iff_eq] using hrow
  refine ⟨⟨marker.row, marker.block, definition.name, p.failureLines row [] 0 marker.block⟩, ?_,
    rfl, rfl, m, row, hm, hid, hmodule, hfound, hlabel, by rw [hid]⟩
  simp only [entryOf?, hblock, hdefinition, hfound, Option.bind_eq_bind, Option.bind_some]

theorem entryOf?_of_not_names (hnames : ¬marker.Names p table) :
    entryOf? p table marker = none := by
  refine Option.eq_none_iff_forall_ne_some.2 fun entry hentry => hnames ?_
  simp only [entryOf?, Option.bind_eq_bind, Option.bind_eq_some_iff] at hentry
  obtain ⟨m, hm, definition, hdefinition, row, hrow, -⟩ := hentry
  have hid := List.find?_some hrow
  refine ⟨⟨m, List.mem_of_find?_eq_some hm, Pipeline.block?_id hm, ?_⟩,
    row, List.mem_of_find?_eq_some hrow, eq_of_beq hid⟩
  obtain ⟨id, position, kind⟩ := m
  cases kind with
  | source => cases hdefinition
  | module => rfl
  | sink => cases hdefinition

/-- A report answers the markers that name something, in their order, and passes over the others. -/
theorem build_answers (h : p.Consistent) (markers : List FailureMarker) :
    List.Forall₂ (FailureEntry.Answers p table) (markers.filter (·.Names p table))
      (build p table markers).entries := by
  rw [← List.filterMap_eq_filter]
  refine List.rel_filterMap (R := Eq) ?_ (List.forall₂_same.2 fun marker _ => rfl)
  rintro marker _ rfl
  by_cases hnames : marker.Names p table
  · obtain ⟨entry, hentry, hanswers⟩ := entryOf?_of_names h hnames
    rw [hentry, Option.guard_pos (by simpa using hnames)]
    exact .some hanswers
  · rw [entryOf?_of_not_names hnames, Option.guard_eq_none_iff.2 (by simpa using hnames)]
    exact .none

end FailureReport

/-- **The tree of a failure lists the ways down from the module that go through no block twice**,
and there is one for each marker that names a module and a row. -/
theorem Pipeline.Reachable.report_follows_ways {t : Toolbox} {p : Pipeline} (hp : Reachable t p)
    (table : Table) :
    (∀ (row : Row), ∀ m ∈ p.blocks, m.isModule = true →
      p.ListsWays row m.id (p.failureLines row [] 0 m.id)) ∧
      ∀ markers : List FailureMarker,
        List.Forall₂ (FailureEntry.Answers p table) (markers.filter (·.Names p table))
          (FailureReport.build p table markers).entries :=
  ⟨fun row _ hm hmodule => hp.consistent.1.listsWays row hm hmodule,
    FailureReport.build_answers hp.consistent.1⟩

/-! ## A specimen -/

namespace Specimen

/-- A history with a module that feeds two inputs of another one, by which it is fed. -/
def circling : List Edit :=
  [.addModule "sort" place, .addModule "join" place, .addSink "out" (text "out" true) place,
    .connect (.output ⟨0⟩ 0) (.input ⟨1⟩ 0), .connect (.output ⟨0⟩ 0) (.input ⟨1⟩ 1),
    .connect (.output ⟨1⟩ 0) (.input ⟨0⟩ 0), .connect (.output ⟨1⟩ 1) (.input ⟨2⟩ 0)]

/-- The pipeline of that history. -/
def circled : Pipeline := circling.foldl Pipeline.edit (.empty "circle" toolbox)

theorem reachable_circled : Pipeline.Reachable toolbox circled :=
  (Pipeline.Reachable.empty "circle").edits circling

end Specimen

/-- What is fed twice has two lines, and so has what it feeds, but for the module that failed.  A
marker that names a sink and one that names no row have no tree. -/
theorem Pipeline.report_follows_ways_circled :
    Reachable Specimen.toolbox Specimen.circled ∧
      Specimen.circled.ListsWays ⟨[("id", "a"), ("in", "/data/x"), ("out", "y")]⟩ ⟨0⟩
        [⟨0, .module "sort"⟩, ⟨1, .module "join"⟩, ⟨2, .sink "out" "y"⟩, ⟨1, .module "join"⟩,
          ⟨2, .sink "out" "y"⟩] ∧
      ∃ entry, (FailureReport.build Specimen.circled (Specimen.filing "y")
          [⟨"a", ⟨2⟩⟩, ⟨"a", ⟨0⟩⟩, ⟨"b", ⟨0⟩⟩]).entries = [entry] ∧
        entry.Answers Specimen.circled (Specimen.filing "y") ⟨"a", ⟨0⟩⟩ := by
  obtain ⟨htrees, hentries⟩ :=
    Reachable.report_follows_ways Specimen.reachable_circled (Specimen.filing "y")
  refine ⟨Specimen.reachable_circled, ?_, ?_⟩
  · obtain ⟨m, hm, hid, hmodule⟩ : ∃ m ∈ Specimen.circled.blocks, m.id = ⟨0⟩ ∧
        m.isModule = true := by
      decide
    have htree := htrees ⟨[("id", "a"), ("in", "/data/x"), ("out", "y")]⟩ m hm hmodule
    have hlines : Specimen.circled.failureLines ⟨[("id", "a"), ("in", "/data/x"), ("out", "y")]⟩
        [] 0 ⟨0⟩ = [⟨0, .module "sort"⟩, ⟨1, .module "join"⟩, ⟨2, .sink "out" "y"⟩,
          ⟨1, .module "join"⟩, ⟨2, .sink "out" "y"⟩] := by
      decide +kernel
    rwa [hid, hlines] at htree
  · have hnamed : [⟨"a", ⟨2⟩⟩, ⟨"a", ⟨0⟩⟩, ⟨"b", ⟨0⟩⟩].filter
        (FailureMarker.Names · Specimen.circled (Specimen.filing "y")) = [⟨"a", ⟨0⟩⟩] := by
      decide
    obtain ⟨entry, _, hanswers, hrest, heq⟩ := List.forall₂_cons_left_iff.1 (hnamed ▸ hentries _)
    rw [List.forall₂_nil_left_iff.1 hrest] at heq
    exact ⟨entry, heq, hanswers⟩

end Flowscript
