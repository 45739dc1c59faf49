import Mathlib.Order.WellFounded
import Flowscript.Proofs.Script.Dataflow

/-!
# Cycles among files

A module that a script runs does not depend on itself, but a build tool goes by the names of files,
and a cell of the table may name anything, also a file that the script makes.  This is the only way
in which a file can come to need itself.

* `Compilation.Named` is said of a file that a cell names for a source, and `Compilation.Inner` is a
  step from file to file that does not go to such a file.
* `Compilation.Gathered.wellFounded_inner` says that these steps come to an end.
* `Pipeline.Reachable.cycles_named` draws the conclusion for scripts.
-/

set_option autoImplicit false

namespace Flowscript

/-- A cycle leads through a point of a kind if every way that keeps off the kind comes to an end. -/
theorem exists_on_cycle {α : Type} {r : α → α → Prop} {P : α → Prop}
    (hwf : WellFounded fun a b => r a b ∧ ¬P a) {a : α} (hloop : Relation.TransGen r a a) :
    ∃ b, P b ∧ Relation.TransGen r b b := by
  induction a using hwf.induction with
  | _ a ih =>
    obtain ⟨last, hway, hlast⟩ := Relation.TransGen.tail'_iff.1 hloop
    have hround : Relation.TransGen r last last := .head' hlast hway
    by_cases hp : P last
    · exact ⟨last, hp, hround⟩
    · exact ih last ⟨hlast, hp⟩ hround

namespace Compilation

/-- A cell names the file for a source that an emitted sink depends on. -/
def Named (c : Compilation) (path : String) : Prop :=
  ∃ turn target, Emits c.turns turn target ∧ c.Reads turn path

/-- A rule that makes the second file needs the first, and no cell names the first. -/
def Inner (c : Compilation) (rules : List Rule) (a b : String) : Prop :=
  Needs rules a b ∧ ¬c.Named a

variable {c : Compilation} {d : ScriptDraft} {row : Row}

/-- Ways end at a file without a rule. -/
theorem acc_inner_of_not_target {rules : List Rule} {path : String}
    (h : ∀ rule ∈ rules, path ∉ rule.targets) : Acc (c.Inner rules) path := by
  refine .intro _ ?_
  rintro a ⟨⟨rule, hrule, htarget, -⟩, -⟩
  exact absurd htarget (h rule hrule)

/-- Ways from a file are those from the files that its one rule needs. -/
theorem Gathered.acc_inner_of_rule (h : c.Gathered c.table.rows c.turns d) (hrows : c.table.Sound)
    (hformats : c.pipeline.toolbox.formats.IsDefined) {rule : Rule} (hrule : rule ∈ d.rules)
    {path : String} (hpath : path ∈ rule.targets)
    (hneeds : ∀ a ∈ rule.prerequisites, ¬c.Named a → Acc (c.Inner d.rules) a) :
    Acc (c.Inner d.rules) path := by
  refine .intro _ ?_
  rintro a ⟨⟨rule', hrule', hpath', ha⟩, hnamed⟩
  obtain rfl := h.eq_of_target hrows hformats hrule' hrule hpath' hpath
  exact hneeds a ha hnamed

/-- Ways end above the file behind a port, if they do so above the files of the module that the port
belongs to. -/
theorem Gathered.acc_inner_of_supplied (h : c.Gathered c.table.rows c.turns d)
    (hrows : c.table.Sound) (hc : c.pipeline.Consistent) (ht : c.pipeline.toolbox.Built)
    (hformats : c.pipeline.toolbox.formats.IsDefined) (hrow : row ∈ c.table.rows) {sink : Block}
    {target : String} (hemits : Emits c.turns ⟨row, sink⟩ target) {ref : PortRef} {path : String}
    (hsupplied : c.Supplied d.written row ref path) (hup : c.pipeline.Upstream ref.block sink.id)
    (hmade : c.pipeline.IsModule ref.block → ∀ rule ∈ d.rules,
      rule.task? = some (row.id, ref.block) → ∀ made ∈ rule.targets, Acc (c.Inner d.rules) made)
    (hnamed : ¬c.Named path) : Acc (c.Inner d.rules) path := by
  obtain ⟨origin, horigin, rfl, -⟩ := hsupplied
  rcases originOf_cases horigin with ⟨b, column, output, hb, hkind, hfile, hcell, -⟩ |
    ⟨b, column, output, hb, hkind, -, hpath, -⟩ |
    ⟨b, definition, inputs, outputs, output, hb, hkind, houtput, rfl⟩
  · refine absurd ⟨⟨row, sink⟩, target, hemits, b, ?_⟩ hnamed
    obtain ⟨hmem, hid⟩ := Pipeline.mem_blocks_of_block? hb
    exact ⟨hmem, column, output, hkind, hfile, hid.symm ▸ hup, hcell⟩
  · refine acc_inner_of_not_target fun rule hrule => ?_
    rw [hpath]
    exact h.argument_not_target hrows hformats hrow (Pipeline.not_isModule_of_source hb hkind) hrule
  · have hid := Pipeline.block?_id hb
    have hmodule : c.pipeline.IsModule ref.block := ⟨b, hb, by rw [Block.isModule, hkind]⟩
    have htask := (h.mem_tasks _ _).2 ⟨_, target, hemits, rfl, hmodule, hup⟩
    obtain ⟨rule, hrule, heq, hmem⟩ := h.exists_maker hrows hc ht hrow (hid.symm ▸ hb) hkind houtput
      (hid.symm ▸ htask)
    rw [hid] at heq hmem
    exact hmade hmodule rule hrule heq _ hmem

/-- **Ways end above the files of a module.**  The steps between modules follow the connections, and
nothing comes back to a module that runs. -/
theorem Gathered.acc_inner_of_run (h : c.Gathered c.table.rows c.turns d) (hrows : c.table.Sound)
    (hc : c.pipeline.Consistent) (ht : c.pipeline.toolbox.Built)
    (hformats : c.pipeline.toolbox.formats.IsDefined) {id : BlockId} (hid : Acc c.pipeline.Feeds id) :
    ∀ name, ∀ rule ∈ d.rules, rule.task? = some (name, id) → ∀ path ∈ rule.targets,
      Acc (c.Inner d.rules) path := by
  induction hid with
  | intro id _ ih =>
    intro name rule hrule htask path hpath
    refine h.acc_inner_of_rule hrows hformats hrule hpath fun a ha hnamed => ?_
    obtain ⟨row, hrow, hname, b, files, hb, hruleOf, hfed⟩ := h.runs rule hrule _ htask
    simp only at hname hb
    have hfile : a ∈ files.reduceOption := by
      cases hruleOf with
      | run => exact List.mem_eraseDups.1 ha
    obtain ⟨i, source, hsource, hsupplied⟩ := hfed.exists_source hfile
    have hfeeds : c.pipeline.Feeds source.block id :=
      ⟨i, source, Pipeline.block?_id hb ▸ hsource, rfl⟩
    obtain ⟨⟨row', sink⟩, target, hemits, hname', -, hup⟩ :=
      (h.mem_tasks _ _).1 (Rule.mem_tasks.2 ⟨rule, hrule, htask⟩)
    obtain rfl := hrows.eq_of_id (h.row_mem _ hemits.mem) hrow (hname'.trans hname.symm)
    exact h.acc_inner_of_supplied hrows hc ht hformats hrow hemits hsupplied (.head hfeeds hup)
      (fun _ => ih source.block hfeeds row'.id) hnamed

/-- **Going from file to file through the rules comes to an end, unless a cell leads back.** -/
theorem Gathered.wellFounded_inner (h : c.Gathered c.table.rows c.turns d) (hrows : c.table.Sound)
    (hc : c.pipeline.Consistent) (ht : c.pipeline.toolbox.Built)
    (hformats : c.pipeline.toolbox.formats.IsDefined) : WellFounded (c.Inner d.rules) := by
  refine ⟨fun path => ?_⟩
  by_cases hmade : ∀ rule ∈ d.rules, path ∉ rule.targets
  · exact acc_inner_of_not_target hmade
  push Not at hmade
  obtain ⟨rule, hrule, hpath⟩ := hmade
  have hrun : ∀ task, ∀ rule ∈ d.rules, rule.task? = some task → ∀ made ∈ rule.targets,
      Acc (c.Inner d.rules) made := fun task rule hrule htask =>
    h.acc_inner_of_run hrows hc ht hformats
      (h.grounded task (Rule.mem_tasks.2 ⟨rule, hrule, htask⟩)) task.1 rule hrule htask
  cases rule with
  | directory name =>
    refine h.acc_inner_of_rule hrows hformats hrule hpath ?_
    rintro a ⟨⟩
  | copy target prerequisite =>
    refine h.acc_inner_of_rule hrows hformats hrule hpath fun a ha hnamed => ?_
    obtain rfl := List.mem_singleton.1 ha
    obtain ⟨turn, hemits, source, hsource, hsupplied⟩ := h.copies target a hrule
    exact h.acc_inner_of_supplied hrows hc ht hformats (h.row_mem _ hemits.mem) hemits hsupplied
      (.single ⟨0, source, hsource, rfl⟩) (fun _ rule hrule htask => hrun _ rule hrule htask) hnamed
  | run name id label targets prerequisites command =>
    exact hrun (name, id) _ hrule rfl path hpath

end Compilation

/-- **A file that needs itself does so through a cell.**  Every cycle among the files of a script
goes through a file that a cell names for a source of an emitted sink.  So there is no cycle if no
rule makes such a file. -/
theorem Pipeline.Reachable.cycles_named {t : Toolbox} (ht : t.Built)
    (hformats : t.formats.IsDefined) {p : Pipeline} (hp : Reachable t p) {delimiter : Char}
    {text : String} {table : Table} (htable : Table.parseWith delimiter text = .ok table)
    {options : ScriptOptions} {directory root : String} {s : BuildScript}
    (hs : compile options p table directory root = .ok s) :
    (∀ path, ¬Relation.TransGen
      (fun a b => Needs s.rules a b ∧ ¬(Compilation.mk p table).Named a) path path) ∧
    ((∀ path, (Compilation.mk p table).Named path → ∀ rule ∈ s.rules, path ∉ rule.targets) →
      ∀ path, ¬Relation.TransGen (Needs s.rules) path path) := by
  obtain ⟨hc, rfl⟩ := hp.consistent
  obtain ⟨d, hd, hrules, -, -, -⟩ := Compilation.compile_eq_ok hs
  have hrows := Table.Sound.of_parseWith htable
  have h := Compilation.gathered_draft (c := ⟨p, table⟩) hc ht hrows hd
  have hwf := h.wellFounded_inner hrows hc ht hformats
  rw [hrules]
  refine ⟨fun path hloop => hwf.transGen.irrefl.irrefl path hloop, fun hcells path hloop => ?_⟩
  obtain ⟨cell, hnamed, hround⟩ := exists_on_cycle hwf hloop
  obtain ⟨-, -, rule, hrule, hmade, -⟩ := Relation.TransGen.tail'_iff.1 hround
  exact hcells cell hnamed rule hrule hmade

/-! ## A specimen -/

namespace Specimen

/-- A history with one module between a source and a sink. -/
def chaining : List Edit :=
  [.addSource "in" (text "in" true) place, .addModule "sort" place,
    .addSink "out" (text "out" true) place, .connect (.output ⟨0⟩ 0) (.input ⟨1⟩ 0),
    .connect (.output ⟨1⟩ 0) (.input ⟨2⟩ 0)]

/-- The pipeline of that history. -/
def chained : Pipeline := chaining.foldl Pipeline.edit (.empty "chain" toolbox)

theorem reachable_chained : Pipeline.Reachable toolbox chained :=
  (Pipeline.Reachable.empty "chain").edits chaining

/-- A table with one row, which reads a file and names the other one for the result. -/
def filing (output : String) : Table :=
  ⟨["id", "in", "out"], [⟨[("id", "a"), ("in", "/data/x"), ("out", output)]⟩]⟩

/-- The text of that table. -/
def filingText (output : String) : String := "id|in|out\na|/data/x|" ++ output ++ "\n"

/-- The rules for that table. -/
def filingRules (output : String) : List Rule :=
  [.directory "a", .copy output "$(PROCESSING)a/1_0.txt",
    .run "a" ⟨1⟩ "sort" ["$(PROCESSING)a/1_0.txt"] ["/data/x"]
      "sort /data/x > $(PROCESSING)a/1_0.txt"]

theorem exists_compile_chained (output : String)
    (h : (compile .standard chained (filing output) "/w" "out").toOption.map (·.rules) =
      some (filingRules output)) :
    ∃ s, compile .standard chained (filing output) "/w" "out" = .ok s ∧
      s.rules = filingRules output :=
  exists_ok_of_map_toOption h

theorem parseWith_filingText :
    Table.parseWith '|' (filingText "/data/y") = .ok (filing "/data/y") := by
  decide

theorem exists_compile_filing :
    ∃ s, compile .standard chained (filing "/data/y") "/w" "out" = .ok s ∧
      s.rules = filingRules "/data/y" :=
  exists_compile_chained "/data/y" (by decide +kernel)

/-- The one cell that holds a file is that of the source. -/
theorem named_chained {path : String}
    (h : (Compilation.mk chained (filing "/data/y")).Named path) : path = "/data/x" := by
  obtain ⟨⟨row, sink⟩, target, hemits, b, hb, column, output, hkind, -, -, hcell⟩ := h
  have hrow : row ∈ (filing "/data/y").rows := by
    obtain ⟨row', hrow', hturn⟩ := List.mem_flatMap.1 hemits.mem
    obtain ⟨_, -, heq⟩ := List.mem_map.1 hturn
    exact (Turn.mk.inj heq).1 ▸ hrow'
  have hall : ∀ row ∈ (filing "/data/y").rows, ∀ b ∈ chained.blocks, ∀ column ∈ b.column?,
      b.isSource = true → row.resolved? column = some "/data/x" := by
    decide +kernel
  have hsource := hall row hrow b hb column (by rw [Block.column?, hkind]; rfl)
    (by rw [Block.isSource, hkind])
  exact Option.some.inj (hcell.symm.trans hsource)

end Specimen

/-- No rule makes the file that the one source reads, and so no file needs itself. -/
theorem Pipeline.cycles_named_chained :
    Specimen.toolbox.Built ∧ Specimen.toolbox.formats.IsDefined ∧
      Reachable Specimen.toolbox Specimen.chained ∧
      Table.parseWith '|' (Specimen.filingText "/data/y") = .ok (Specimen.filing "/data/y") ∧
      ∃ s, compile .standard Specimen.chained (Specimen.filing "/data/y") "/w" "out" = .ok s ∧
        Needs s.rules "$(PROCESSING)a/1_0.txt" "/data/y" ∧
        ∀ path, ¬Relation.TransGen (Needs s.rules) path path := by
  have htable := Specimen.parseWith_filingText
  obtain ⟨s, hs, hrules⟩ := Specimen.exists_compile_filing
  have hcells : ∀ path, (Compilation.mk Specimen.chained (Specimen.filing "/data/y")).Named path →
      ∀ rule ∈ s.rules, path ∉ rule.targets := by
    intro path hnamed
    rw [Specimen.named_chained hnamed, hrules]
    decide
  refine ⟨Specimen.toolbox_built, Specimen.catalog_isDefined, Specimen.reachable_chained, htable, s,
    hs, ?_, ?_⟩
  · rw [hrules]
    exact ⟨.copy "/data/y" "$(PROCESSING)a/1_0.txt", by decide, by decide,
      by decide⟩
  · exact (Reachable.cycles_named Specimen.toolbox_built Specimen.catalog_isDefined
      Specimen.reachable_chained htable hs).2 hcells

/-- A row may name one file for what it reads and for its result.  The script that comes of it makes
the file from itself. -/
theorem Pipeline.cycle_chained :
    Specimen.toolbox.Built ∧ Specimen.toolbox.formats.IsDefined ∧
      Reachable Specimen.toolbox Specimen.chained ∧
      Table.parseWith '|' (Specimen.filingText "/data/x") = .ok (Specimen.filing "/data/x") ∧
      ∃ s, compile .standard Specimen.chained (Specimen.filing "/data/x") "/w" "out" = .ok s ∧
        Relation.TransGen (Needs s.rules) "/data/x" "/data/x" := by
  obtain ⟨s, hs, hrules⟩ := Specimen.exists_compile_chained "/data/x" (by decide +kernel)
  refine ⟨Specimen.toolbox_built, Specimen.catalog_isDefined, Specimen.reachable_chained,
    by decide, s, hs, ?_⟩
  rw [hrules]
  refine .tail (b := "$(PROCESSING)a/1_0.txt") (.single ?_) ?_
  · exact ⟨.run "a" ⟨1⟩ "sort" ["$(PROCESSING)a/1_0.txt"] ["/data/x"]
      "sort /data/x > $(PROCESSING)a/1_0.txt", by decide, by decide,
      by decide⟩
  · exact ⟨.copy "/data/x" "$(PROCESSING)a/1_0.txt", by decide, by decide,
      by decide⟩

end Flowscript
