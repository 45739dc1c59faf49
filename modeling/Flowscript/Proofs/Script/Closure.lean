import Flowscript.Proofs.Script.Frame
import Flowscript.Proofs.Script.Gathering
import Flowscript.Proofs.Script.Provenance

/-!
# Scripts are complete

A script can be built from the table and the setup alone: whatever a rule needs is named by the
table, written by the setup, or made by another rule, and whatever a rule makes is listed.

* `Compilation.Accounted` says where a file that a rule needs comes from.
* `BuildScript.Closed` says which rules a script has, that the lists of files are complete, and how
  all of it is written.
* `Compilation.exists_of_compile` says what a script is made of.
* `Compilation.Gathered.exists_needs` leads from a module to a target that it is made for.
* `Pipeline.Reachable.compile_closed` says so of every script.
-/

set_option autoImplicit false

namespace Flowscript

/-- A file that a row needs comes from a cell of the row, from the setup, or from a module that
runs for the row. -/
inductive Compilation.Accounted (c : Compilation) (s : BuildScript) (row : Row) (path : String) :
    Prop
  | cell {b : Block} {column : String} {output : Port} (hb : b ∈ c.pipeline.blocks)
      (hkind : b.kind = .source column output) (hfile : output.parameter.isArg = false)
      (hcell : row.resolved? column = some path)
  | argument (h : path ∈ s.argumentPaths)
  | made {rule : Rule} {id : BlockId} (hrule : rule ∈ s.rules)
      (htask : rule.task? = some (row.id, id)) (htarget : path ∈ rule.targets)

/-- What a reader of a script can rely on. -/
structure BuildScript.Closed (s : BuildScript) (c : Compilation) : Prop where
  /-- A module runs for a row exactly if a sink that was emitted for the row depends on it. -/
  mem_tasks : ∀ row ∈ c.table.rows, ∀ id, (row.id, id) ∈ Rule.tasks s.rules ↔
    c.pipeline.IsModule id ∧
      ∃ sink target, Emits c.turns ⟨row, sink⟩ target ∧ c.pipeline.Upstream id sink.id
  /-- No module runs twice for a row. -/
  nodup_tasks : (Rule.tasks s.rules).Nodup
  /-- Modules run for rows of the table only. -/
  row_mem : ∀ task ∈ Rule.tasks s.rules, ∃ row ∈ c.table.rows, row.id = task.1
  /-- A target has a rule that copies exactly if it was emitted. -/
  copies : ∀ target, (∃ path, .copy target path ∈ s.rules) ↔ ∃ turn, Emits c.turns turn target
  /-- A module of which the script runs something does not depend on itself. -/
  acyclic : ∀ task ∈ Rule.tasks s.rules, ¬c.pipeline.Upstream task.2 task.2
  /-- All that rules need is accounted for. -/
  prerequisites : ∀ rule ∈ s.rules, ∀ path ∈ rule.prerequisites, ∃ row ∈ c.table.rows,
    c.Accounted s row path ∧ ∀ task, rule.task? = some task → task.1 = row.id
  /-- What has to exist before a rule runs is the directory of a row, and there is a rule for it. -/
  orderOnly : ∀ rule ∈ s.rules, ∀ path ∈ rule.orderOnly, ∃ row ∈ c.table.rows,
    path = Layout.rowDirectory row.id ∧ .directory row.id ∈ s.rules
  /-- The script is its lines.  In front of the rules they list the targets, the files between source
  and result and the files that the setup writes, they name these lists where all targets are made
  and where files are taken away and counted, and the recipe of the setup is among them. -/
  text : s.text = unlines s.allLines
  /-- They are for the rows of the table. -/
  rows : s.rows = c.table.rows.map (·.id)
  /-- The setup writes no file twice. -/
  nodup_arguments : s.argumentPaths.Nodup
  /-- The setup writes no other files than these. -/
  printed : ∀ line ∈ s.setupRecipe, ∀ path, BuildScript.Prints path line → path ∈ s.argumentPaths
  /-- Each of these is written by one line of the setup. -/
  printing : ∀ path ∈ s.argumentPaths, ∃ before line after,
    s.setupRecipe = before ++ line :: after ∧ BuildScript.Prints path line ∧
      ∀ other ∈ before ++ after, ¬BuildScript.Prints path other
  /-- The targets are those of the sinks, each once. -/
  targets : s.targets = s.rules.filterMap Rule.copied? ∧ s.targets.Nodup
  /-- The files between source and result are those that modules make, each once. -/
  intermediates : (∀ path, path ∈ s.intermediates ↔
    ∃ rule ∈ s.rules, rule.task?.isSome = true ∧ path ∈ rule.targets) ∧ s.intermediates.Nodup
  /-- So each rule makes the directory of a row or listed files. -/
  covered : ∀ rule ∈ s.rules, (∃ row, rule = .directory row) ∨
    ∀ path ∈ rule.targets, path ∈ s.targets ∨ path ∈ s.intermediates
  /-- And who makes the targets makes use of every rule for files. -/
  used : ∀ rule ∈ s.rules, (∃ row, rule = .directory row) ∨
    ∃ path ∈ rule.targets, ∃ target ∈ s.targets, Relation.ReflTransGen (Needs s.rules) path target

namespace Compilation

variable {c : Compilation} {d : ScriptDraft}

section Compiled

variable {options : ScriptOptions} {p : Pipeline} {table : Table} {directory root : String}
  {s : BuildScript}

/-- A script has a draft and an absolute output root. -/
theorem exists_of_compile (h : compile options p table directory root = .ok s) :
    ∃ d absolute, (Compilation.mk p table).draft = .ok d ∧
      Path.absolute? directory root = some absolute ∧
      s = ⟨p.name, absolute, options, table.rows.map (·.id), d.rules, d.targets, d.intermediates,
        d.arguments⟩ := by
  rw [compile] at h
  split at h
  · cases h
  · rename_i absolute habsolute
    obtain ⟨d, hd, h⟩ := bind_eq_ok_iff.1 h
    cases h
    exact ⟨d, absolute, hd, habsolute, rfl⟩

/-- The script of a draft. -/
theorem compile_eq_ok (h : compile options p table directory root = .ok s) :
    ∃ d, (Compilation.mk p table).draft = .ok d ∧ s.rules = d.rules ∧ s.targets = d.targets ∧
      s.intermediates = d.intermediates ∧ s.argumentPaths = d.written := by
  obtain ⟨d, absolute, hd, -, rfl⟩ := exists_of_compile h
  exact ⟨d, hd, rfl, rfl, rfl, rfl⟩

theorem rows_of_compile (h : compile options p table directory root = .ok s) :
    s.rows = table.rows.map (·.id) := by
  obtain ⟨d, absolute, -, -, rfl⟩ := exists_of_compile h
  rfl

theorem outputRoot_of_compile (h : compile options p table directory root = .ok s) :
    Path.absolute? directory root = some s.outputRoot := by
  obtain ⟨d, absolute, -, habsolute, rfl⟩ := exists_of_compile h
  exact habsolute

end Compiled

/-- The rule of a module that runs for a row. -/
theorem Gathered.exists_run (h : c.Gathered c.table.rows c.turns d) (hrows : c.table.Sound)
    {row : Row} (hrow : row ∈ c.table.rows) {id : BlockId}
    (htask : (row.id, id) ∈ Rule.tasks d.rules) :
    ∃ rule ∈ d.rules, c.Runs d.written row id rule := by
  obtain ⟨rule, hrule, heq⟩ := Rule.mem_tasks.1 htask
  obtain ⟨row', hrow', hname, hruns⟩ := h.runs rule hrule _ heq
  obtain rfl := hrows.eq_of_id hrow' hrow hname
  exact ⟨rule, hrule, hruns⟩

/-- A module that feeds something in a row has a rule that makes the file behind each output. -/
theorem Gathered.exists_maker (h : c.Gathered c.table.rows c.turns d) (hrows : c.table.Sound)
    (hc : c.pipeline.Consistent) (ht : c.pipeline.toolbox.Built) {row : Row}
    (hrow : row ∈ c.table.rows) {b : Block} {definition : ModuleDef} {inputs outputs : List Port}
    (hb : c.pipeline.block? b.id = some b) (hkind : b.kind = .module definition inputs outputs)
    {i : Nat} {output : Port} (houtput : outputs[i]? = some output)
    (htask : (row.id, b.id) ∈ Rule.tasks d.rules) :
    ∃ rule ∈ d.rules, rule.task? = some (row.id, b.id) ∧
      c.artifact row b.id output.index output.format ∈ rule.targets := by
  obtain ⟨rule, hrule, hruns⟩ := h.exists_run hrows hrow htask
  refine ⟨rule, hrule, hruns.task?_eq, ?_⟩
  obtain ⟨b', files, hb', hruleOf, -⟩ := hruns
  obtain rfl : b = b' := Option.some.inj (hb.symm.trans hb')
  have hindex : output.index = i := by
    refine index_eq hc ht hb .output i output ?_
    rw [Block.ports, Block.outputs, hkind]
    exact houtput
  have hport : b.outputs[i]? = some output := by rw [Block.outputs, hkind, houtput]
  cases hruleOf
  refine List.mem_of_getElem? (i := i) ?_
  rw [Rule.targets, artifacts, List.getElem?_mapIdx, hport, hindex]
  rfl

/-- The file behind a port of a module that runs for the row is made by the rule of the module. -/
theorem Gathered.exists_maker_of_supplied (h : c.Gathered c.table.rows c.turns d)
    (hrows : c.table.Sound) (hc : c.pipeline.Consistent) (ht : c.pipeline.toolbox.Built) {row : Row}
    (hrow : row ∈ c.table.rows) {source : PortRef} {path : String}
    (hsupplied : c.Supplied d.written row source path) (hmodule : c.pipeline.IsModule source.block)
    (htask : (row.id, source.block) ∈ Rule.tasks d.rules) :
    ∃ rule ∈ d.rules, rule.task? = some (row.id, source.block) ∧ path ∈ rule.targets := by
  obtain ⟨origin, horigin, rfl, -⟩ := hsupplied
  rcases originOf_cases horigin with ⟨b, column, output, hb, hkind, -⟩ |
    ⟨b, column, output, hb, hkind, -⟩ |
    ⟨b, definition, inputs, outputs, output, hb, hkind, houtput, rfl⟩
  · exact absurd hmodule (Pipeline.not_isModule_of_source hb hkind)
  · exact absurd hmodule (Pipeline.not_isModule_of_source hb hkind)
  · have hid := Pipeline.block?_id hb
    obtain ⟨rule, hrule, heq, hmem⟩ :=
      h.exists_maker hrows hc ht hrow (hid.symm ▸ hb) hkind houtput (hid.symm ▸ htask)
    exact ⟨rule, hrule, hid ▸ heq, hid ▸ hmem⟩

/-- The file behind a port is accounted for, if the module that the port belongs to runs. -/
theorem Gathered.accounted (h : c.Gathered c.table.rows c.turns d) (hrows : c.table.Sound)
    (hc : c.pipeline.Consistent) (ht : c.pipeline.toolbox.Built) {s : BuildScript}
    (hrules : s.rules = d.rules) (hwritten : s.argumentPaths = d.written) {row : Row}
    (hrow : row ∈ c.table.rows) {source : PortRef} {path : String}
    (hsupplied : c.Supplied d.written row source path)
    (htask : c.pipeline.IsModule source.block → (row.id, source.block) ∈ Rule.tasks d.rules) :
    c.Accounted s row path := by
  by_cases hmodule : c.pipeline.IsModule source.block
  · obtain ⟨rule, hrule, heq, hmem⟩ :=
      h.exists_maker_of_supplied hrows hc ht hrow hsupplied hmodule (htask hmodule)
    exact .made (hrules ▸ hrule) heq hmem
  · obtain ⟨origin, horigin, rfl, htext⟩ := hsupplied
    rcases originOf_cases horigin with ⟨b, column, output, hb, hkind, hfile, hcell, -⟩ |
      ⟨b, column, output, -, -, -, -, hsome⟩ | ⟨b, definition, inputs, outputs, output, hb, hkind, -⟩
    · exact .cell (Pipeline.mem_blocks_of_block? hb).1 hkind hfile hcell
    · exact .argument (hwritten ▸ htext hsome)
    · exact absurd ⟨b, hb, by rw [Block.isModule, hkind]⟩ hmodule

/-- What feeds a module that runs for a row runs for it too. -/
theorem Gathered.mem_tasks_of_feeds (h : c.Gathered c.table.rows c.turns d) {name : String}
    {a id : BlockId} (htask : (name, id) ∈ Rule.tasks d.rules) (hfeed : c.pipeline.Feeds a id)
    (hmodule : c.pipeline.IsModule a) : (name, a) ∈ Rule.tasks d.rules := by
  obtain ⟨turn, target, hemits, hname, -, hup⟩ := (h.mem_tasks _ _).1 htask
  exact (h.mem_tasks _ _).2 ⟨turn, target, hemits, hname, hmodule, .head hfeed hup⟩

/-- **From the rule of a module one comes to a target**, if a sink that was emitted for the row
depends on the module. -/
theorem Gathered.exists_needs (h : c.Gathered c.table.rows c.turns d) (hrows : c.table.Sound)
    (hc : c.pipeline.Consistent) (ht : c.pipeline.toolbox.Built) {row : Row} {sink : Block}
    {target : String} (hemits : Emits c.turns ⟨row, sink⟩ target) {id : BlockId}
    (hup : c.pipeline.Upstream id sink.id) (hmodule : c.pipeline.IsModule id) :
    ∃ rule ∈ d.rules, rule.task? = some (row.id, id) ∧
      ∃ path ∈ rule.targets, Relation.ReflTransGen (Needs d.rules) path target := by
  have hrow : row ∈ c.table.rows := h.row_mem _ hemits.mem
  have htask : ∀ {a}, c.pipeline.IsModule a → c.pipeline.Upstream a sink.id →
      (row.id, a) ∈ Rule.tasks d.rules :=
    fun hmodule hup => (h.mem_tasks _ _).2 ⟨_, target, hemits, rfl, hmodule, hup⟩
  induction hup using Relation.TransGen.head_induction_on with
  | @single a hfeeds =>
    obtain ⟨path, hcopy, source, hsource, hsupplied⟩ := h.emitted _ _ hemits
    obtain ⟨hblock, hsink⟩ := List.mem_filter.1 (mem_turns.1 hemits.mem).2
    obtain ⟨column, input, hkind⟩ := Block.exists_kind_of_isSink hsink
    obtain rfl := eq_of_feeds_sink hc hblock hkind hsource hfeeds
    obtain ⟨rule, hrule, heq, hmem⟩ := h.exists_maker_of_supplied hrows hc ht hrow hsupplied hmodule
      (htask hmodule (.single hfeeds))
    exact ⟨rule, hrule, heq, path, hmem,
      .single ⟨_, hcopy, List.mem_cons_self, List.mem_cons_self⟩⟩
  | @head a b hfeeds hup ih =>
    have hb : c.pipeline.IsModule b := by
      obtain ⟨next, hnext, -⟩ := Relation.TransGen.head'_iff.1 hup
      exact hc.isModule_of_feeds hfeeds hnext
    obtain ⟨maker, hmaker, htaskb, made, hmade, hway⟩ := ih hb
    obtain ⟨row', hrow', hname, block, files, hblock, hruleOf, hfed⟩ := h.runs maker hmaker _ htaskb
    obtain rfl := hrows.eq_of_id hrow' hrow hname
    have hid : block.id = b := Pipeline.block?_id hblock
    have htaska := htask hmodule (.head hfeeds hup)
    obtain ⟨i, source, hsource, rfl⟩ := hfeeds
    obtain ⟨file, hfile, hsupplied⟩ := hfed.connected i source (hid.symm ▸ hsource)
    obtain ⟨rule, hrule, heq, hmem⟩ :=
      h.exists_maker_of_supplied hrows hc ht hrow hsupplied hmodule htaska
    refine ⟨rule, hrule, heq, file, hmem, .head ⟨maker, hmaker, hmade, ?_⟩ hway⟩
    cases hruleOf
    exact List.mem_eraseDups.2 (List.reduceOption_mem_iff.2 (List.mem_of_getElem? hfile))

/-- What the rule of a sink needs is accounted for. -/
theorem Gathered.accounted_of_copy (h : c.Gathered c.table.rows c.turns d) (hrows : c.table.Sound)
    (hc : c.pipeline.Consistent) (ht : c.pipeline.toolbox.Built) {s : BuildScript}
    (hrules : s.rules = d.rules) (hwritten : s.argumentPaths = d.written) {target path : String}
    (hcopy : .copy target path ∈ d.rules) : ∃ row ∈ c.table.rows, c.Accounted s row path := by
  obtain ⟨turn, hemits, source, hsource, hsupplied⟩ := h.copies target path hcopy
  have hrow := h.row_mem _ hemits.mem
  refine ⟨turn.row, hrow, h.accounted hrows hc ht hrules hwritten hrow hsupplied fun hmodule => ?_⟩
  have hfeeds : c.pipeline.Feeds source.block turn.sink.id := ⟨0, source, hsource, rfl⟩
  exact (h.mem_tasks _ _).2 ⟨turn, target, hemits, rfl, hmodule, .single hfeeds⟩

/-- What the rule of a module needs is accounted for in the row of the rule. -/
theorem Gathered.accounted_of_run (h : c.Gathered c.table.rows c.turns d) (hrows : c.table.Sound)
    (hc : c.pipeline.Consistent) (ht : c.pipeline.toolbox.Built) {s : BuildScript}
    (hrules : s.rules = d.rules) (hwritten : s.argumentPaths = d.written) {rule : Rule}
    (hrule : rule ∈ d.rules) {task : String × BlockId} (htask : rule.task? = some task)
    {path : String} (hpath : path ∈ rule.prerequisites) :
    ∃ row ∈ c.table.rows, row.id = task.1 ∧ c.Accounted s row path := by
  obtain ⟨row, hrow, hname, b, files, hb, hruleOf, hfed⟩ := h.runs rule hrule task htask
  have hmem : path ∈ files.reduceOption := by
    cases hruleOf with
    | run => exact List.mem_eraseDups.1 hpath
  obtain ⟨i, source, hsource, hsupplied⟩ := hfed.exists_source hmem
  rw [Pipeline.block?_id hb] at hsource
  refine ⟨row, hrow, hname, h.accounted hrows hc ht hrules hwritten hrow hsupplied ?_⟩
  rw [hname]
  exact h.mem_tasks_of_feeds (Rule.mem_tasks.2 ⟨rule, hrule, htask⟩) ⟨i, source, hsource, rfl⟩

/-- Every row has the rule for its directory. -/
theorem Gathered.directory_mem (h : c.Gathered c.table.rows c.turns d) {row : Row}
    (hrow : row ∈ c.table.rows) : .directory row.id ∈ d.rules := by
  have hopened : row.id ∈ d.rules.filterMap Rule.opened? := by
    rw [h.opened]
    exact List.mem_map_of_mem hrow
  obtain ⟨opening, hmem, heq⟩ := List.mem_filterMap.1 hopened
  cases opening with
  | directory name => exact Option.some.inj heq ▸ hmem
  | copy => cases heq
  | run => cases heq

/-- A rule that copies makes a listed target. -/
theorem Gathered.mem_targets_of_copy (h : c.Gathered c.table.rows c.turns d)
    {target prerequisite : String} (hcopy : .copy target prerequisite ∈ d.rules) :
    target ∈ d.targets := by
  rw [h.tidy.targets]
  exact List.mem_filterMap.2 ⟨_, hcopy, rfl⟩

/-- Each rule makes the directory of a row or listed files. -/
theorem Gathered.covered (h : c.Gathered c.table.rows c.turns d) {rule : Rule}
    (hrule : rule ∈ d.rules) : (∃ row, rule = .directory row) ∨
      ∀ path ∈ rule.targets, path ∈ d.targets ∨ path ∈ d.intermediates := by
  cases rule with
  | directory name => exact .inl ⟨name, rfl⟩
  | copy target prerequisite =>
    refine .inr fun path hpath => .inl ?_
    rw [List.mem_singleton.1 hpath]
    exact h.mem_targets_of_copy hrule
  | run name id label targets prerequisites command =>
    exact .inr fun path hpath => .inr ((h.tidy.mem_intermediates path).2 ⟨_, hrule, rfl, hpath⟩)

/-- **Each rule for files is made use of** by who makes the listed targets. -/
theorem Gathered.used (h : c.Gathered c.table.rows c.turns d) (hrows : c.table.Sound)
    (hc : c.pipeline.Consistent) (ht : c.pipeline.toolbox.Built) {rule : Rule}
    (hrule : rule ∈ d.rules) : (∃ row, rule = .directory row) ∨
      ∃ path ∈ rule.targets, ∃ target ∈ d.targets,
        Relation.ReflTransGen (Needs d.rules) path target := by
  cases rule with
  | directory name => exact .inl ⟨name, rfl⟩
  | copy target prerequisite =>
    exact .inr ⟨target, List.mem_cons_self, target, h.mem_targets_of_copy hrule, .refl⟩
  | run name id label targets prerequisites command =>
    obtain ⟨turn, target, hemits, rfl, hmodule, hup⟩ :=
      (h.mem_tasks name id).1 (Rule.mem_tasks.2 ⟨_, hrule, rfl⟩)
    obtain ⟨rule, hmem, htask, path, hpath, hway⟩ :=
      h.exists_needs hrows hc ht hemits hup hmodule
    obtain rfl := eq_of_nodup_filterMap h.nodup_tasks hrule hmem rfl htask
    refine .inr ⟨path, hpath, target, ?_, hway⟩
    rw [h.mem_targets]
    exact ⟨turn, hemits.mem, hemits.target?_eq⟩

theorem Gathered.closed (h : c.Gathered c.table.rows c.turns d) (hrows : c.table.Sound)
    (hc : c.pipeline.Consistent) (ht : c.pipeline.toolbox.Built) {s : BuildScript}
    (hrules : s.rules = d.rules) (htargets : s.targets = d.targets)
    (hintermediates : s.intermediates = d.intermediates) (hwritten : s.argumentPaths = d.written)
    (hscript : s.rows = c.table.rows.map (·.id)) : s.Closed c where
  mem_tasks := by
    intro row hrow id
    rw [hrules, h.mem_tasks]
    constructor
    · rintro ⟨⟨row', sink⟩, target, hemits, hname, hmodule, hup⟩
      obtain rfl := hrows.eq_of_id (h.row_mem _ hemits.mem) hrow hname
      exact ⟨hmodule, sink, target, hemits, hup⟩
    · rintro ⟨hmodule, sink, target, hemits, hup⟩
      exact ⟨⟨row, sink⟩, target, hemits, rfl, hmodule, hup⟩
  nodup_tasks := hrules ▸ h.nodup_tasks
  row_mem := by
    intro task htask
    obtain ⟨rule, hrule, heq⟩ := Rule.mem_tasks.1 (hrules ▸ htask)
    obtain ⟨row, hrow, hname, -⟩ := h.runs rule hrule task heq
    exact ⟨row, hrow, hname⟩
  copies := by
    intro target
    rw [hrules]
    constructor
    · rintro ⟨path, hcopy⟩
      obtain ⟨turn, hemits, -⟩ := h.copies target path hcopy
      exact ⟨turn, hemits⟩
    · rintro ⟨turn, hemits⟩
      obtain ⟨path, hcopy, -⟩ := h.emitted turn target hemits
      exact ⟨path, hcopy⟩
  acyclic := by
    intro task htask
    exact Pipeline.not_upstream_self (h.grounded task (hrules ▸ htask))
  prerequisites := by
    intro rule hrule path hpath
    rw [hrules] at hrule
    cases rule with
    | directory name => cases hpath
    | copy target prerequisite =>
      obtain rfl := List.mem_singleton.1 hpath
      obtain ⟨row, hrow, haccounted⟩ := h.accounted_of_copy hrows hc ht hrules hwritten hrule
      exact ⟨row, hrow, haccounted, by rintro task ⟨⟩⟩
    | run name id label targets prerequisites command =>
      obtain ⟨row, hrow, hname, haccounted⟩ :=
        h.accounted_of_run hrows hc ht hrules hwritten hrule rfl hpath
      refine ⟨row, hrow, haccounted, ?_⟩
      rintro task ⟨⟩
      exact hname.symm
  orderOnly := by
    intro rule hrule path hpath
    rw [hrules] at hrule
    cases rule with
    | directory name => cases hpath
    | copy target prerequisite => cases hpath
    | run name id label targets prerequisites command =>
      obtain rfl := List.mem_singleton.1 hpath
      obtain ⟨row, hrow, rfl, -⟩ := h.runs _ hrule (name, id) rfl
      exact ⟨row, hrow, rfl, hrules ▸ h.directory_mem hrow⟩
  text := s.text_eq
  rows := hscript
  nodup_arguments := hwritten ▸ h.tidy.nodup_written
  printed := fun line hline path => BuildScript.mem_argumentPaths_of_prints hline
  printing := fun path =>
    BuildScript.exists_setupRecipe_eq (hwritten ▸ h.tidy.nodup_written)
  targets := by
    rw [htargets, hrules]
    exact ⟨h.tidy.targets, h.tidy.nodup_targets⟩
  intermediates := by
    rw [hintermediates, hrules]
    exact ⟨h.tidy.mem_intermediates, h.tidy.nodup_intermediates⟩
  covered := by
    rw [hrules, htargets, hintermediates]
    exact fun rule => h.covered
  used := by
    rw [hrules, htargets]
    exact fun rule => h.used hrows hc ht

end Compilation

/-- **Compiling ends, and a script that comes of it is complete.** -/
theorem Pipeline.Reachable.compile_closed {t : Toolbox} (ht : t.Built) {p : Pipeline}
    (hp : Reachable t p) {delimiter : Char} {text : String} {table : Table}
    (htable : Table.parseWith delimiter text = .ok table) (options : ScriptOptions)
    (directory root : String) :
    (∃ e, compile options p table directory root = .error e) ∨
      ∃ s, compile options p table directory root = .ok s ∧ s.Closed ⟨p, table⟩ := by
  obtain ⟨hc, rfl⟩ := hp.consistent
  cases hs : compile options p table directory root with
  | error e => exact .inl ⟨e, rfl⟩
  | ok s =>
    obtain ⟨d, hd, hrules, htargets, hintermediates, hwritten⟩ := Compilation.compile_eq_ok hs
    have hrows := Table.Sound.of_parseWith htable
    have hgathered := Compilation.gathered_draft (c := ⟨p, table⟩) hc ht hrows hd
    exact .inr ⟨s, rfl, hgathered.closed hrows hc ht hrules htargets hintermediates hwritten
      (Compilation.rows_of_compile hs)⟩

/-! ## A specimen -/

/-- The rules of a row, once the order of the sinks is known. -/
theorem Compilation.addRow_eq {c : Compilation} {sinks : List Block} (h : c.sortedSinks = sinks) :
    c.addRow = fun d row =>
      (sinks.foldlM (c.addSink row) (d.addRule (.directory row.id), [])).map Prod.fst := by
  subst h
  funext d row
  rw [Compilation.addRow]
  cases c.sortedSinks.foldlM (c.addSink row) (d.addRule (.directory row.id), []) <;> rfl

namespace Specimen

/-- A history with a module that gets a file and a text, and whose two outputs go into sinks. -/
def branching : List Edit :=
  [.addSource "in" (text "in" true) place, .addSource "note" ⟨"note", argFormat, true⟩ place,
    .addModule "sort" place, .addModule "join" place, .addSink "out" (text "out" true) place,
    .addSink "log" (text "log" true) place, .connect (.output ⟨0⟩ 0) (.input ⟨2⟩ 0),
    .connect (.output ⟨2⟩ 0) (.input ⟨3⟩ 0), .connect (.output ⟨1⟩ 0) (.input ⟨3⟩ 2),
    .connect (.output ⟨3⟩ 0) (.input ⟨4⟩ 0), .connect (.output ⟨3⟩ 1) (.input ⟨5⟩ 0)]

/-- The pipeline of that history. -/
def branched : Pipeline := branching.foldl Pipeline.edit (.empty "branch" toolbox)

theorem reachable_branched : Pipeline.Reachable toolbox branched :=
  (Pipeline.Reachable.empty "branch").edits branching

/-- Two rows that name the same file for the log. -/
def sheet : String :=
  "id|in|note|out|log\na|a.txt|3|a.out|all.log\nb|b.txt|4|b.out|all.log\n"

/-- The first row of that text. -/
def row : Row :=
  ⟨[("id", "a"), ("in", "a.txt"), ("note", "3"), ("out", "a.out"), ("log", "all.log")]⟩

/-- The table of that text. -/
def table : Table :=
  ⟨["id", "in", "note", "out", "log"],
    [row, ⟨[("id", "b"), ("in", "b.txt"), ("note", "4"), ("out", "b.out"), ("log", "all.log")]⟩]⟩

theorem parseWith_sheet : Table.parseWith '|' sheet = .ok table := by
  decide

theorem sortedSinks_branched : (Compilation.mk branched table).sortedSinks = branched.sinks :=
  List.mergeSort_of_pairwise (by decide)

theorem addRow_branched :
    (Compilation.mk branched table).addRow = fun d row =>
      (branched.sinks.foldlM ((Compilation.mk branched table).addSink row)
        (d.addRule (.directory row.id), [])).map Prod.fst :=
  Compilation.addRow_eq sortedSinks_branched

theorem compile_branched :
    (compile .standard branched table "/w" "out").toOption.map (·.rules.length) = some 9 := by
  rw [compile, Compilation.draft, addRow_branched]
  decide +kernel

end Specimen

/-- The first row has two sinks and two modules, and the second row lacks the rule for a log that
has one. -/
theorem Pipeline.compile_closed_branched :
    Specimen.toolbox.Built ∧ Reachable Specimen.toolbox Specimen.branched ∧
      Table.parseWith '|' Specimen.sheet = .ok Specimen.table ∧
      ∃ s, compile .standard Specimen.branched Specimen.table "/w" "out" = .ok s ∧
        s.rules.length = 9 ∧ s.Closed ⟨Specimen.branched, Specimen.table⟩ := by
  have hok := Specimen.compile_branched
  refine ⟨Specimen.toolbox_built, Specimen.reachable_branched, Specimen.parseWith_sheet, ?_⟩
  rcases Reachable.compile_closed Specimen.toolbox_built Specimen.reachable_branched
    Specimen.parseWith_sheet .standard "/w" "out" with ⟨e, he⟩ | ⟨s, hs, hclosed⟩
  · rw [he] at hok
    cases hok
  · rw [hs] at hok
    exact ⟨s, hs, Option.some.inj hok, hclosed⟩

end Flowscript
