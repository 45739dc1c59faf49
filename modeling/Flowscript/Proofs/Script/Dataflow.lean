import Flowscript.Proofs.Pipeline.Endpoints
import Flowscript.Proofs.Script.Makers
import Flowscript.Proofs.Script.Provenance

/-!
# Scripts keep the flow of data

What goes into the file of a sink by the rules of a script is what goes into the sink by the
pipeline.  The two trees are the same, file by file and command by command, although the script has
one rule only for a module that feeds several others.

* `Compilation.Reads` are the cells that a sink's data comes from.
* `Compilation.Gathered.exists_tree` builds the tree of a port, from the sources down.
* `Pipeline.Reachable.unfolds_iff_traces` compares the trees of a sink.
-/

set_option autoImplicit false

namespace Flowscript

namespace Compilation

variable {c : Compilation} {d : ScriptDraft} {row : Row}

/-! ## The tree of a port -/

/-- The parts of a module's file, given a tree for each connected input. -/
theorem exists_parts (rules : List Rule) {b : Block} {files : List (Option String)}
    {written : List String} (hfed : c.Fed written row b files)
    (htrees : ∀ i source file, c.pipeline.feeder? (.input b.id i) = some source →
      c.Supplied written row source file →
      ∃ tree : Provenance, tree.path = file ∧ c.Traces row source tree ∧ Unfolds rules tree) :
    ∃ given : List (Option Provenance), given.map (·.map Provenance.path) = files ∧
      (∀ (i : Nat) source tree, c.pipeline.feeder? (.input b.id i) = some source →
        given[i]? = some (some tree) → c.Traces row source tree) ∧
      ∀ tree, some tree ∈ given → Unfolds rules tree := by
  have hone : ∀ i : Fin files.length, ∃ part : Option Provenance,
      part.map Provenance.path = files[i] ∧
        (∀ source, c.pipeline.feeder? (.input b.id i) = some source →
          ∀ tree, part = some tree → c.Traces row source tree) ∧
        ∀ tree, part = some tree → Unfolds rules tree := by
    rintro ⟨i, hi⟩
    cases hsource : c.pipeline.feeder? (.input b.id i) with
    | none =>
      have hport := List.getElem?_eq_getElem (hfed.length_eq ▸ hi)
      have hfile := (hfed.unconnected i _ hport hsource).1
      rw [List.getElem?_eq_getElem hi] at hfile
      exact ⟨none, (Option.some.inj hfile).symm, by rintro source ⟨⟩, by rintro tree ⟨⟩⟩
    | some source =>
      obtain ⟨file, hfile, hsupplied⟩ := hfed.connected i source hsource
      obtain ⟨tree, rfl, htraces, hunfolds⟩ := htrees i source file hsource hsupplied
      rw [List.getElem?_eq_getElem hi] at hfile
      refine ⟨some tree, (Option.some.inj hfile).symm, ?_, ?_⟩
      · rintro source' ⟨⟩ tree' ⟨⟩
        exact htraces
      · rintro tree' ⟨⟩
        exact hunfolds
  choose part hpath htraces hunfolds using hone
  have hget : ∀ i tree, (List.ofFn part)[i]? = some (some tree) →
      ∃ hi : i < files.length, part ⟨i, hi⟩ = some tree := by
    intro i tree htree
    obtain ⟨hi, heq⟩ := List.getElem?_eq_some_iff.1 htree
    rw [List.length_ofFn] at hi
    rw [List.getElem_ofFn] at heq
    exact ⟨hi, heq⟩
  refine ⟨List.ofFn part, ?_, ?_, ?_⟩
  · refine List.ext_getElem (by simp) fun i hi hi' => ?_
    rw [List.getElem_map, List.getElem_ofFn, hpath]
    rfl
  · intro i source tree hsource htree
    obtain ⟨hi, heq⟩ := hget i tree htree
    exact htraces ⟨i, hi⟩ source hsource tree heq
  · intro tree htree
    obtain ⟨i, hi⟩ := List.getElem?_of_mem htree
    obtain ⟨hlt, heq⟩ := hget i tree hi
    exact hunfolds ⟨i, hlt⟩ tree heq

/-- The parts of a module's file, taken together, are the tree of an output of the module. -/
theorem Fed.traces {written : List String} {b : Block} {ref : PortRef} {output : Port}
    {given : List (Option Provenance)} {rule : Rule}
    (hfed : c.Fed written row b (given.map (·.map Provenance.path)))
    (hb : c.pipeline.block? ref.block = some b) (houtput : b.outputs[ref.index]? = some output)
    (htraces : ∀ (i : Nat) source tree, c.pipeline.feeder? (.input b.id i) = some source →
      given[i]? = some (some tree) → c.Traces row source tree)
    (hperforms : c.Performs row b (given.map (·.map Provenance.path)) rule) :
    c.Traces row ref (.made (c.artifact row ref.block ref.index output.format) rule
      (Provenance.merge given.reduceOption)) := by
  refine .module hb houtput ?_ ?_ htraces ?_ hperforms
  · rw [← hfed.length_eq, List.length_map]
  · intro i source hsource
    obtain ⟨file, hfile, -⟩ := hfed.connected i source hsource
    rw [List.getElem?_map] at hfile
    obtain ⟨part, hpart, hsome⟩ := Option.map_eq_some_iff.1 hfile
    obtain ⟨tree, rfl, -⟩ := Option.map_eq_some_iff.1 hsome
    exact ⟨tree, hpart⟩
  · intro i port hinput hnone
    obtain ⟨hfile, hoptional⟩ := hfed.unconnected i port hinput hnone
    rw [List.getElem?_map] at hfile
    obtain ⟨part, hpart, hsome⟩ := Option.map_eq_some_iff.1 hfile
    exact ⟨Option.map_eq_none_iff.1 hsome ▸ hpart, hoptional⟩

/-- The rule of a module makes each of its files from the parts, taken together. -/
theorem Performs.unfolds {rules : List Rule} {b : Block} {given : List (Option Provenance)}
    {rule : Rule} (hperforms : c.Performs row b (given.map (·.map Provenance.path)) rule)
    (hrule : rule ∈ rules) {i : Nat} {output : Port} (houtput : b.outputs[i]? = some output)
    (hunfolds : ∀ tree, some tree ∈ given → Unfolds rules tree) :
    Unfolds rules (.made (c.artifact row b.id i output.format) rule
      (Provenance.merge given.reduceOption)) := by
  refine .made hrule ?_ ?_ fun part hpart => ?_
  · rw [hperforms.targets]
    refine List.mem_of_getElem? (i := i) ?_
    rw [List.getElem?_mapIdx, houtput]
    rfl
  · rw [Provenance.map_path_merge, hperforms.prerequisites, List.reduceOption_map]
  · exact hunfolds part (List.reduceOption_mem_iff.1 (Provenance.mem_of_mem_merge hpart))

/-- A cell of the row names a file for a source that a sink depends on. -/
def Reads (c : Compilation) (turn : Turn) (path : String) : Prop :=
  ∃ b ∈ c.pipeline.blocks, ∃ column output, b.kind = .source column output ∧
    output.parameter.isArg = false ∧ c.pipeline.Upstream b.id turn.sink.id ∧
    turn.row.resolved? column = some path

/-- **A port that something depends on has the same tree by the pipeline and by the rules.** -/
theorem Gathered.exists_tree (h : c.Gathered c.table.rows c.turns d) (hrows : c.table.Sound)
    (hc : c.pipeline.Consistent) (ht : c.pipeline.toolbox.Built)
    (hdef : ∀ m ∈ c.pipeline.toolbox.modules, m.IsDefined)
    (hformats : c.pipeline.toolbox.formats.IsDefined) (hrow : row ∈ c.table.rows) {sink : Block}
    (hcells : ∀ path, c.Reads ⟨row, sink⟩ path → ∀ rule ∈ d.rules, path ∉ rule.targets)
    {id : BlockId} (hid : Acc c.pipeline.Feeds id) :
    ∀ ref path, ref.block = id → c.Supplied d.written row ref path →
      (c.pipeline.IsModule id → (row.id, id) ∈ Rule.tasks d.rules) →
      c.pipeline.Upstream id sink.id →
      ∃ tree : Provenance, tree.path = path ∧ c.Traces row ref tree ∧ Unfolds d.rules tree := by
  induction hid with
  | intro id _ ih =>
    rintro ref path rfl ⟨origin, horigin, rfl, htext⟩ htask hup
    rcases originOf_cases horigin with ⟨b, column, output, hb, hkind, hfile, hcell, -⟩ |
      ⟨b, column, output, hb, hkind, harg, hpath, -⟩ |
      ⟨b, definition, inputs, outputs, output, hb, hkind, houtput, rfl⟩
    · refine ⟨.given origin.path, rfl, .cell hb hkind hfile hcell, .given (hcells _ ?_)⟩
      have hid := Pipeline.block?_id hb
      exact ⟨b, (Pipeline.mem_blocks_of_block? hb).1, column, output, hkind, hfile, hid ▸ hup, hcell⟩
    · refine ⟨.given origin.path, rfl, hpath ▸ .argument hb hkind harg, .given ?_⟩
      intro rule hrule
      rw [hpath]
      exact h.argument_not_target hrows hformats hrow (Pipeline.not_isModule_of_source hb hkind)
        hrule
    · have hid := Pipeline.block?_id hb
      have hbm : b.isModule = true := by rw [Block.isModule, hkind]
      have hmodule : c.pipeline.IsModule ref.block := ⟨b, hb, hbm⟩
      have hport : b.outputs[ref.index]? = some output := by rw [Block.outputs, hkind, houtput]
      have hindex : output.index = ref.index :=
        index_eq hc ht (hid.symm ▸ hb) .output ref.index output hport
      obtain ⟨rule, hrule, b', files, hb', hruleOf, hfed⟩ :=
        h.exists_run hrows hrow (htask hmodule)
      obtain rfl := Option.some.inj (hb.symm.trans hb')
      obtain ⟨given, hfiles, htraces, hunfolds⟩ := exists_parts d.rules hfed
        fun i source file hsource hsupplied => by
          have hfeeds : c.pipeline.Feeds source.block ref.block := ⟨i, source, hid ▸ hsource, rfl⟩
          exact ih source.block hfeeds source file rfl hsupplied
            (h.mem_tasks_of_feeds (htask hmodule) hfeeds) (.head hfeeds hup)
      have hnames := hc.nodup_names hdef (Pipeline.mem_blocks_of_block? hb).1 hbm
      have hperforms := hruleOf.performs hfed.length_eq hnames
      subst hfiles
      refine ⟨_, by rw [hindex]; rfl, hfed.traces hb hport htraces hperforms, ?_⟩
      rw [← hid]
      exact hperforms.unfolds hrule hport hunfolds

end Compilation

/-- **The file of a sink is made of what goes into the sink.**  Unless a rule of the script happens
to make a file that a cell names for one of the sources, the file has one tree by the rules, and
this is the one tree of the sink's input by the pipeline with the copy on top. -/
theorem Pipeline.Reachable.unfolds_iff_traces {t : Toolbox} (ht : t.Built)
    (hdef : ∀ m ∈ t.modules, m.IsDefined) (hformats : t.formats.IsDefined) {p : Pipeline}
    (hp : Reachable t p) {delimiter : Char} {text : String} {table : Table}
    (htable : Table.parseWith delimiter text = .ok table) {options : ScriptOptions}
    {directory root : String} {s : BuildScript}
    (hs : compile options p table directory root = .ok s) {row : Row} {sink : Block}
    {target : String} (hemits : Emits (Compilation.mk p table).turns ⟨row, sink⟩ target)
    (hcells : ∀ path, (Compilation.mk p table).Reads ⟨row, sink⟩ path →
      ∀ rule ∈ s.rules, path ∉ rule.targets) :
    Acc (Needs s.rules) target ∧ ∃ source tree, p.feeder? (.input sink.id 0) = some source ∧
      (∀ other, (Compilation.mk p table).Traces row source other ↔ other = tree) ∧
      ∀ other, Unfolds s.rules other ∧ other.path = target ↔
        other = .made target (.copy target tree.path) [tree] := by
  obtain ⟨hc, rfl⟩ := hp.consistent
  obtain ⟨d, hd, hrules, -, -, -⟩ := Compilation.compile_eq_ok hs
  have hrows := Table.Sound.of_parseWith htable
  have h := Compilation.gathered_draft (c := ⟨p, table⟩) hc ht hrows hd
  rw [hrules] at hcells ⊢
  obtain ⟨path, hcopy, source, hsource, hsupplied⟩ := h.emitted _ _ hemits
  have hrow : row ∈ table.rows := h.row_mem _ hemits.mem
  have hfeeds : p.Feeds source.block sink.id := ⟨0, source, hsource, rfl⟩
  have htask : p.IsModule source.block → (row.id, source.block) ∈ Rule.tasks d.rules :=
    fun hmodule => (h.mem_tasks _ _).2 ⟨_, target, hemits, rfl, hmodule, .single hfeeds⟩
  have hground : Acc p.Feeds source.block := by
    by_cases hmodule : p.IsModule source.block
    · exact h.grounded _ (htask hmodule)
    · exact .intro _ fun a ha => absurd (hc.isModule_of_feeds ha hfeeds) hmodule
  obtain ⟨tree, rfl, htraces, hunfolds⟩ := h.exists_tree hrows hc ht hdef hformats hrow hcells
    hground source path rfl hsupplied htask (.single hfeeds)
  have hdeterministic : Deterministic d.rules := fun rule hrule other hother file hfile hfile' =>
    h.eq_of_target hrows hformats hrule hother hfile hfile'
  have hwhole : Unfolds d.rules (.made target (.copy target tree.path) [tree]) := by
    refine .made hcopy List.mem_cons_self rfl fun part hpart => ?_
    rw [List.mem_singleton.1 hpart]
    exact hunfolds
  refine ⟨hwhole.acc hdeterministic, source, tree, hsource, fun other => ?_, fun other => ?_⟩
  · exact ⟨htraces.unique other, fun heq => heq ▸ htraces⟩
  · constructor
    · rintro ⟨hother, hpath⟩
      exact hwhole.unique hdeterministic other hother hpath
    · rintro rfl
      exact ⟨hwhole, rfl⟩

/-! ## A specimen -/

namespace Specimen

/-- The sink of the main result. -/
def sink : Block := ⟨⟨4⟩, place, .sink "out" ⟨text "out" true, 0, [⟨3⟩]⟩⟩

theorem emits_branched :
    Emits (Compilation.mk branched table).turns ⟨row, sink⟩ "$(OUTPUT)a.out" := by
  refine ⟨[], (Compilation.mk branched table).turns.tail, ?_, by decide +kernel, by simp⟩
  rw [Compilation.turns, sortedSinks_branched]
  decide

/-- The only cell that holds a file is that of the first source. -/
theorem reads_branched {path : String}
    (h : (Compilation.mk branched table).Reads ⟨row, sink⟩ path) : path = "a.txt" := by
  obtain ⟨b, hb, column, output, hkind, hfile, -, hcell⟩ := h
  have hall : ∀ b ∈ branched.blocks, ∀ column ∈ b.column?, b.isSource = true →
      (∀ output ∈ b.outputs, output.parameter.isArg = false) → row.resolved? column = some "a.txt" := by
    decide +kernel
  have hsource := hall b hb column (by rw [Block.column?, hkind]; rfl)
    (by rw [Block.isSource, hkind]) fun port hport => by
      rw [Block.outputs, hkind, List.mem_singleton] at hport
      rw [hport]
      exact hfile
  exact Option.some.inj (hcell.symm.trans hsource)

theorem not_target_branched :
    (compile .standard branched table "/w" "out").toOption.map
      (fun s => s.rules.all fun rule => !rule.targets.contains "a.txt") = some true := by
  rw [compile, Compilation.draft, addRow_branched]
  decide +kernel

end Specimen

/-- The main result of the first row has one tree, in which a module with two inputs is fed by
another module and by a text. -/
theorem Pipeline.unfolds_iff_traces_branched :
    Specimen.toolbox.Built ∧ (∀ m ∈ Specimen.toolbox.modules, m.IsDefined) ∧
      Specimen.toolbox.formats.IsDefined ∧ Reachable Specimen.toolbox Specimen.branched ∧
      Table.parseWith '|' Specimen.sheet = .ok Specimen.table ∧
      ∃ s, compile .standard Specimen.branched Specimen.table "/w" "out" = .ok s ∧
        Emits (Compilation.mk Specimen.branched Specimen.table).turns
          ⟨Specimen.row, Specimen.sink⟩ "$(OUTPUT)a.out" ∧
        (∀ path, (Compilation.mk Specimen.branched Specimen.table).Reads
          ⟨Specimen.row, Specimen.sink⟩ path → ∀ rule ∈ s.rules, path ∉ rule.targets) ∧
        Acc (Needs s.rules) "$(OUTPUT)a.out" ∧
        ∃ source tree, Specimen.branched.feeder? (.input ⟨4⟩ 0) = some source ∧
          (∀ other, (Compilation.mk Specimen.branched Specimen.table).Traces Specimen.row source
            other ↔ other = tree) ∧
          ∀ other, Unfolds s.rules other ∧ other.path = "$(OUTPUT)a.out" ↔
            other = .made "$(OUTPUT)a.out" (.copy "$(OUTPUT)a.out" tree.path) [tree] := by
  have htarget := Specimen.not_target_branched
  cases hs : compile .standard Specimen.branched Specimen.table "/w" "out" with
  | error e =>
    rw [hs] at htarget
    cases htarget
  | ok s =>
    rw [hs] at htarget
    have hcells : ∀ path, (Compilation.mk Specimen.branched Specimen.table).Reads
        ⟨Specimen.row, Specimen.sink⟩ path → ∀ rule ∈ s.rules, path ∉ rule.targets := by
      intro path hreads rule hrule
      rw [Specimen.reads_branched hreads]
      simpa using List.all_eq_true.1 (Option.some.inj htarget) rule hrule
    exact ⟨Specimen.toolbox_built, Specimen.toolbox_defined, Specimen.catalog_isDefined,
      Specimen.reachable_branched, Specimen.parseWith_sheet, s, rfl, Specimen.emits_branched, hcells,
      Reachable.unfolds_iff_traces Specimen.toolbox_built Specimen.toolbox_defined
        Specimen.catalog_isDefined Specimen.reachable_branched Specimen.parseWith_sheet hs
        Specimen.emits_branched hcells⟩

end Flowscript
