import Flowscript.Analysis.Failure
import Flowscript.Proofs.Pipeline.Upstream
import Flowscript.Proofs.Script.Validation

/-!
# What a failure puts at risk

A failure report goes with the connections, from the module that failed to the sinks, and a script
is made against them, from the sinks to the modules.  The report must name the sinks that the script
would make from the module, and under the names that the script has for their files.

* `Pipeline.atRisk` are the blocks that the report goes through, and `Pipeline.failureLines_eq` says
  that its lines are theirs.
* `exists_last_departure` takes a way apart where it leaves its start for good.  So the walk, which
  turns back at its own way, still gets everywhere: `Pipeline.Consistent.mem_atRisk_iff`.
* `Pipeline.Reachable.report_agrees` compares report and script.
-/

set_option autoImplicit false

namespace Flowscript

namespace Pipeline

/-! ## The blocks of a report -/

/-- The blocks that the tree below a block goes through, root first, each with its depth. -/
def atRisk (p : Pipeline) (path : List BlockId) (depth : Nat) (id : BlockId) :
    List (Nat × Block) :=
  match h : p.block? id with
  | none => []
  | some b =>
    if hpath : id ∈ path then []
    else if b.isSource then []
    else
      have := length_offPath_cons_lt h hpath
      (depth, b) :: (p.fedBy id).flatMap fun port =>
        p.atRisk (id :: path) (depth + 1) port.block
termination_by (p.offPath path).length

/-- The line of a block at a depth. -/
def lineOf? (row : Row) (visit : Nat × Block) : Option FailureLine :=
  (failureNode? row visit.2).map (FailureLine.mk visit.1)

theorem failureNode?_eq_none_iff {row : Row} {b : Block} :
    failureNode? row b = none ↔ b.isSource = true := by
  obtain ⟨id, position, kind⟩ := b
  cases kind <;> simp [failureNode?, Block.isSource]

/-- **The lines of a report are those of the blocks that it goes through.** -/
theorem failureLines_eq (p : Pipeline) (row : Row) (path : List BlockId) (depth : Nat)
    (id : BlockId) :
    p.failureLines row path depth id = (p.atRisk path depth id).filterMap (lineOf? row) := by
  fun_induction atRisk p path depth id with
  | case1 path depth id hnone =>
    unfold failureLines
    split
    · rfl
    · rename_i b hb
      rw [hnone] at hb
      cases hb
  | case2 path depth id b hb hpath =>
    unfold failureLines
    split
    · rfl
    · simp [hpath]
  | case3 path depth id b hb hpath hsource =>
    unfold failureLines
    split
    · rfl
    · rename_i b' hb'
      obtain rfl : b = b' := Option.some.inj (hb.symm.trans hb')
      simp [hpath, failureNode?_eq_none_iff.2 hsource]
  | case4 path depth id b hb hpath hsource _ ih =>
    obtain ⟨node, hnode⟩ : ∃ node, failureNode? row b = some node :=
      Option.ne_none_iff_exists'.1 fun hnone => hsource (failureNode?_eq_none_iff.1 hnone)
    unfold failureLines
    split
    · rename_i hnone
      rw [hb] at hnone
      cases hnone
    · rename_i b' hb'
      obtain rfl : b = b' := Option.some.inj (hb.symm.trans hb')
      simp only [hpath, hnode, dif_neg, not_false_eq_true, List.filterMap_cons, lineOf?,
        Option.map_some, List.filterMap_flatMap]
      exact congrArg _ (congrArg (List.flatMap · _) (funext ih))

/-! ## Where the report gets -/

/-- A way from a point to another one leaves the first for good, and does not come back to it. -/
theorem exists_last_departure {α : Type} {r : α → α → Prop} {a c : α}
    (h : Relation.ReflTransGen r a c) :
    a = c ∨ ∃ b, r a b ∧ b ≠ a ∧ Relation.ReflTransGen (fun x y => r x y ∧ y ≠ a) b c := by
  induction h with
  | refl => exact .inl rfl
  | @tail b c _ hbc ih =>
    by_cases hca : c = a
    · exact .inl hca.symm
    rcases ih with rfl | ⟨first, hfirst, hne, hway⟩
    · exact .inr ⟨c, hbc, hca, .refl⟩
    · exact .inr ⟨first, hfirst, hne, hway.tail ⟨hbc, hca⟩⟩

namespace Consistent

variable {p : Pipeline}

/-- The report goes through blocks that depend on its root, and through no others. -/
theorem reaches_of_mem_atRisk (h : p.Consistent) {path : List BlockId} {depth n : Nat}
    {id : BlockId} {b : Block} (hb : (n, b) ∈ p.atRisk path depth id) :
    p.block? b.id = some b ∧ Relation.ReflTransGen p.Feeds id b.id := by
  fun_induction atRisk p path depth id with
  | case1 => cases hb
  | case2 => cases hb
  | case3 => cases hb
  | case4 path depth id root hroot hpath hsource _ ih =>
    rcases List.mem_cons.1 hb with heq | hb
    · obtain ⟨-, rfl⟩ := Prod.mk.inj heq
      obtain rfl := block?_id hroot
      exact ⟨hroot, .refl⟩
    · obtain ⟨ref, href, hb⟩ := List.mem_flatMap.1 hb
      obtain ⟨hblock, hway⟩ := ih ref hb
      exact ⟨hblock, .head (h.exists_mem_fedBy.1 ⟨ref, href, rfl⟩) hway⟩

/-- A block that something feeds is no source. -/
theorem exists_fed_block (h : p.Consistent) {a id : BlockId} (hfeeds : p.Feeds a id) :
    ∃ b, p.block? id = some b ∧ b.isSource = false := by
  obtain ⟨i, source, hsource, -⟩ := hfeeds
  obtain ⟨-, b, port, hb, hport⟩ := h.feeder_ends hsource
  refine ⟨b, hb, ?_⟩
  obtain ⟨id, position, kind⟩ := b
  cases kind with
  | source => cases hport
  | module => rfl
  | sink => rfl

/-- **The report gets to every block that a way off its own path leads to.** -/
theorem exists_mem_atRisk (h : p.Consistent) (path : List BlockId) :
    ∀ (depth : Nat) (id : BlockId) (b goal : Block), p.block? id = some b → b.isSource = false →
      id ∉ path → p.block? goal.id = some goal →
      Relation.ReflTransGen (fun x y => p.Feeds x y ∧ y ∉ path) id goal.id →
      ∃ n, (n, goal) ∈ p.atRisk path depth id := by
  -- The path grows with every step down, so fewer blocks are off it.
  induction hn : (p.offPath path).length using Nat.strongRecOn generalizing path with
  | _ n ih =>
    intro depth id b goal hb hsource hpath hgoal hway
    have hunfold : p.atRisk path depth id = (depth, b) :: (p.fedBy id).flatMap fun port =>
        p.atRisk (id :: path) (depth + 1) port.block := by
      rw [atRisk]
      split
      · rename_i hnone
        rw [hb] at hnone
        cases hnone
      · rename_i b' hb'
        obtain rfl : b = b' := Option.some.inj (hb.symm.trans hb')
        simp [hpath, hsource]
    rw [hunfold]
    rcases exists_last_departure hway with heq | ⟨next, ⟨hfeeds, hoff⟩, hne, hrest⟩
    · obtain rfl : b = goal := Option.some.inj (hb.symm.trans (heq ▸ hgoal))
      exact ⟨depth, List.mem_cons_self⟩
    · obtain ⟨ref, href, rfl⟩ := h.exists_mem_fedBy.2 hfeeds
      obtain ⟨b', hb', hsource'⟩ := h.exists_fed_block hfeeds
      have hlt : (p.offPath (id :: path)).length < n := hn ▸ length_offPath_cons_lt hb hpath
      have hrest' : Relation.ReflTransGen (fun x y => p.Feeds x y ∧ y ∉ id :: path) ref.block
          goal.id := by
        refine Relation.ReflTransGen.mono (fun x y hxy => ⟨hxy.1.1, ?_⟩) _ _ hrest
        rw [List.mem_cons, not_or]
        exact ⟨hxy.2, hxy.1.2⟩
      obtain ⟨m, hm⟩ := ih _ hlt (id :: path) rfl (depth + 1) ref.block b' goal hb' hsource'
        (by rw [List.mem_cons, not_or]; exact ⟨hne, hoff⟩) hgoal hrest'
      exact ⟨m, List.mem_cons_of_mem _ (List.mem_flatMap.2 ⟨ref, href, hm⟩)⟩

/-- **A report goes through the sinks that depend on the module that failed.** -/
theorem mem_atRisk_iff (h : p.Consistent) {m sink : Block} (hm : m ∈ p.blocks)
    (hmodule : m.isModule = true) (hmem : sink ∈ p.sinks) :
    (∃ depth, (depth, sink) ∈ p.atRisk [] 0 m.id) ↔ p.Upstream m.id sink.id := by
  obtain ⟨hsink, hisSink⟩ := List.mem_filter.1 hmem
  obtain ⟨definition, inputs, outputs, hkind⟩ := Block.exists_kind_of_isModule hmodule
  have hne : m.id ≠ sink.id := by
    intro heq
    obtain rfl := List.inj_on_of_nodup_map h.nodup_ids hm hsink heq
    rw [Block.isSink, hkind] at hisSink
    cases hisSink
  constructor
  · rintro ⟨depth, hvisit⟩
    exact (Relation.reflTransGen_iff_eq_or_transGen.1
      (h.reaches_of_mem_atRisk hvisit).2).resolve_left hne.symm
  · intro hup
    have hsource : m.isSource = false := by rw [Block.isSource, hkind]
    exact h.exists_mem_atRisk [] 0 m.id m sink (block?_of_mem h.nodup_ids hm) hsource
      List.not_mem_nil (block?_of_mem h.nodup_ids hsink)
      (Relation.ReflTransGen.mono (fun x y hxy => ⟨hxy, List.not_mem_nil⟩) _ _ hup.to_reflTransGen)

end Consistent

end Pipeline

/-! ## Report and script -/

namespace Compilation

variable {c : Compilation} {d : ScriptDraft}

/-- Every sink has the name of a file in every row, and the script has that file among its
targets. -/
theorem Gathered.exists_target (h : c.Gathered c.table.rows c.turns d) (hc : c.pipeline.Consistent)
    (hd : c.draft = .ok d) {row : Row} (hrow : row ∈ c.table.rows) {sink : Block}
    (hsink : sink ∈ c.pipeline.sinks) :
    ∃ column file, sink.column? = some column ∧ row.resolved? column = some file ∧
      Pipeline.failureNode? row sink = some (.sink column file) ∧ sinkTarget file ∈ d.targets := by
  obtain ⟨-, target, htarget⟩ := admitted_of_draft hc hd hrow hsink
  have hmem := (h.mem_targets target).2 ⟨_, mem_turns.2 ⟨hrow, hsink⟩, htarget⟩
  rw [Turn.target?] at htarget
  split at htarget
  · rename_i column input hkind
    obtain ⟨file, hfile, rfl⟩ := Option.map_eq_some_iff.1 htarget
    simp only at hkind hfile
    refine ⟨column, file, by rw [Block.column?, hkind], hfile, ?_, hmem⟩
    simp [Pipeline.failureNode?, hkind, hfile]
  · cases htarget

end Compilation

/-- **The report on a module names the sinks that depend on it, and the files that the script makes
for them.** -/
theorem Pipeline.Reachable.report_agrees {t : Toolbox} (ht : t.Built) {p : Pipeline}
    (hp : Reachable t p) {delimiter : Char} {text : String} {table : Table}
    (htable : Table.parseWith delimiter text = .ok table) {options : ScriptOptions}
    {directory root : String} {s : BuildScript}
    (hs : compile options p table directory root = .ok s) {row : Row} (hrow : row ∈ table.rows)
    {m : Block} (hm : m ∈ p.blocks) (hmodule : m.isModule = true) :
    (FailureReport.build p table [⟨row.id, m.id⟩]).entries =
        [⟨row.id, m.id, m.label, (p.atRisk [] 0 m.id).filterMap (lineOf? row)⟩] ∧
      ∀ sink ∈ p.sinks,
        ((∃ depth, (depth, sink) ∈ p.atRisk [] 0 m.id) ↔ p.Upstream m.id sink.id) ∧
        ∃ column file, sink.column? = some column ∧ row.resolved? column = some file ∧
          (∀ depth, lineOf? row (depth, sink) = some ⟨depth, .sink column file⟩) ∧
          (if Path.isAbsolute file then file else "$(OUTPUT)" ++ file) ∈ s.targets := by
  obtain ⟨hc, rfl⟩ := hp.consistent
  obtain ⟨d, hd, -, htargets, -, -⟩ := Compilation.compile_eq_ok hs
  have hrows := Table.Sound.of_parseWith htable
  have h := Compilation.gathered_draft (c := ⟨p, table⟩) hc ht hrows hd
  refine ⟨?_, fun sink hsink => ⟨hc.mem_atRisk_iff hm hmodule hsink, ?_⟩⟩
  · have hblock : p.block? m.id = some m := block?_of_mem hc.nodup_ids hm
    obtain ⟨definition, inputs, outputs, hkind⟩ := Block.exists_kind_of_isModule hmodule
    have hdefinition : m.definition? = some definition := by rw [Block.definition?, hkind]
    have hlabel : definition.name = m.label := by rw [Block.label, hkind]
    have hentry : FailureReport.entryOf? p table ⟨row.id, m.id⟩ =
        some ⟨row.id, m.id, m.label, (p.atRisk [] 0 m.id).filterMap (lineOf? row)⟩ := by
      simp [FailureReport.entryOf?, hblock, hdefinition, hrows.row?_id hrow, hlabel,
        failureLines_eq]
    rw [FailureReport.build, List.filterMap_cons, hentry]
    rfl
  · obtain ⟨column, file, hcolumn, hfile, hnode, hmem⟩ := h.exists_target hc hd hrow hsink
    refine ⟨column, file, hcolumn, hfile, fun depth => ?_, htargets ▸ hmem⟩
    rw [lineOf?, hnode, Option.map_some]

/-! ## A specimen -/

namespace Specimen

/-- A history with a module off the way to the sink that feeds itself. -/
def looping : List Edit :=
  chaining ++ [.addModule "join" place, .connect (.output ⟨1⟩ 0) (.input ⟨3⟩ 0),
    .connect (.output ⟨3⟩ 1) (.input ⟨3⟩ 1)]

/-- The pipeline of that history. -/
def looped : Pipeline := looping.foldl Pipeline.edit (.empty "loop" toolbox)

theorem reachable_looped : Pipeline.Reachable toolbox looped :=
  (Pipeline.Reachable.empty "loop").edits looping

/-- The module on the way to the sink. -/
def sorter : Block :=
  ⟨⟨1⟩, place, .module sort [⟨text "in" true, 0, [⟨0⟩]⟩] [⟨text "out" true, 0, [⟨1⟩, ⟨2⟩]⟩]⟩

/-- The sink that the module feeds. -/
def outlet : Block := ⟨⟨2⟩, place, .sink "out" ⟨text "out" true, 0, [⟨1⟩]⟩⟩

theorem targets_looped :
    (compile .standard looped (filing "y") "/w" "out").toOption.map (·.targets) =
      some ["$(OUTPUT)y"] := by
  decide +kernel

end Specimen

/-- A module off the way feeds itself, and still the report ends and gets to the sink. -/
theorem Pipeline.report_agrees_looped :
    Specimen.toolbox.Built ∧ Reachable Specimen.toolbox Specimen.looped ∧
      Table.parseWith '|' (Specimen.filingText "y") = .ok (Specimen.filing "y") ∧
      ∃ s row, compile .standard Specimen.looped (Specimen.filing "y") "/w" "out" = .ok s ∧
        row ∈ (Specimen.filing "y").rows ∧ Specimen.sorter ∈ Specimen.looped.blocks ∧
        Specimen.sorter.isModule = true ∧ Specimen.outlet ∈ Specimen.looped.sinks ∧
        Specimen.looped.Upstream ⟨3⟩ ⟨3⟩ ∧ s.targets = ["$(OUTPUT)y"] ∧
        (FailureReport.build Specimen.looped (Specimen.filing "y") [⟨row.id, ⟨1⟩⟩]).entries =
          [⟨row.id, ⟨1⟩, "sort", (Specimen.looped.atRisk [] 0 ⟨1⟩).filterMap (lineOf? row)⟩] ∧
        ∃ depth, (depth, Specimen.outlet) ∈ Specimen.looped.atRisk [] 0 ⟨1⟩ := by
  have htable : Table.parseWith '|' (Specimen.filingText "y") = .ok (Specimen.filing "y") := by
    decide
  have htargets := Specimen.targets_looped
  cases hs : compile .standard Specimen.looped (Specimen.filing "y") "/w" "out" with
  | error e =>
    rw [hs] at htargets
    cases htargets
  | ok s =>
    rw [hs] at htargets
    have hrow : ⟨[("id", "a"), ("in", "/data/x"), ("out", "y")]⟩ ∈ (Specimen.filing "y").rows :=
      List.mem_cons_self
    have hm : Specimen.sorter ∈ Specimen.looped.blocks := by decide +kernel
    have hsink : Specimen.outlet ∈ Specimen.looped.sinks := by decide
    obtain ⟨hentries, hsinks⟩ := Reachable.report_agrees Specimen.toolbox_built
      Specimen.reachable_looped htable hs hrow hm rfl
    refine ⟨Specimen.toolbox_built, Specimen.reachable_looped, htable, s, _, rfl, hrow, hm, rfl, hsink,
      ?_, Option.some.inj htargets, hentries, (hsinks _ hsink).1.2 ?_⟩
    · exact .single ⟨1, .output ⟨3⟩ 1, by decide, rfl⟩
    · exact .single ⟨0, .output ⟨1⟩ 0, by decide, rfl⟩

end Flowscript
