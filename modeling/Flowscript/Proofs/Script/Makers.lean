import Flowscript.Proofs.Script.Layout
import Flowscript.Proofs.Script.RowsApart

/-!
# One rule for each file

Rules of different kinds make files in different places, and rules of one kind differ in their row,
their block or their target.  So a file tells the rule that makes it, and the path of a file tells
what it was made up from.

* `Compilation.Gathered.target_cases` says what the targets of rules look like.
* `Compilation.Gathered.eq_of_target` is the result, and `Compilation.Gathered.argument_not_target`
  adds that no rule makes a file that the setup writes.
* `Compilation.Generates` are the paths that are made up for a row, and `Compilation.paths_apart`
  reads off them what they are for.  So no two lists of a script have a path in common.
-/

set_option autoImplicit false

namespace Flowscript

namespace Layout

theorem exists_artifact_eq (row : String) (block : BlockId) (index : Nat) (suffix : String) :
    ∃ rest, artifact row block index suffix = "$(PROCESSING)" ++ rest := by
  refine ⟨row ++ "/" ++ block.text ++ "_" ++ toString index ++ suffix, ?_⟩
  rw [artifact, rowDirectory]
  simp only [String.append_assoc]

end Layout

namespace Compilation

variable {c : Compilation} {d : ScriptDraft} {rule rule' : Rule} {path : String}

/-- What makes a file: the rule of a row's directory, the rule of a sink, or the rule of a
module. -/
theorem Gathered.target_cases (h : c.Gathered c.table.rows c.turns d) (hrule : rule ∈ d.rules)
    (hpath : path ∈ rule.targets) :
    (∃ row ∈ c.table.rows, rule = .directory row.id ∧ path = Layout.rowDirectory row.id) ∨
    (∃ file, rule.copied? = some path ∧ path = sinkTarget file) ∨
    ∃ row ∈ c.table.rows, ∃ id i format, rule.task? = some (row.id, id) ∧
      c.pipeline.IsModule id ∧ path = c.artifact row id i format := by
  cases rule with
  | directory name =>
    have hmem : name ∈ c.table.rows.map (·.id) := by
      rw [← h.opened]
      exact List.mem_filterMap.2 ⟨_, hrule, rfl⟩
    obtain ⟨row, hrow, rfl⟩ := List.mem_map.1 hmem
    exact .inl ⟨row, hrow, rfl, List.mem_singleton.1 hpath⟩
  | copy target prerequisite =>
    obtain rfl := List.mem_singleton.1 hpath
    obtain ⟨turn, hemits, -⟩ := h.copies path prerequisite hrule
    have htarget := hemits.target?_eq
    rw [Turn.target?] at htarget
    split at htarget
    · obtain ⟨file, -, hfile⟩ := Option.map_eq_some_iff.1 htarget
      exact .inr (.inl ⟨file, rfl, hfile.symm⟩)
    · cases htarget
  | run name id label targets prerequisites command =>
    obtain ⟨row, hrow, rfl, b, files, hb, hruleOf, -⟩ := h.runs _ hrule (name, id) rfl
    have hmodule : c.pipeline.IsModule id := by
      have htask : (row.id, id) ∈ Rule.tasks d.rules := Rule.mem_tasks.2 ⟨_, hrule, rfl⟩
      obtain ⟨-, -, -, -, hmodule, -⟩ := (h.mem_tasks _ _).1 htask
      exact hmodule
    cases hruleOf
    obtain ⟨i, hi⟩ := List.getElem?_of_mem hpath
    rw [Rule.targets, artifacts, List.getElem?_mapIdx] at hi
    obtain ⟨port, -, hport⟩ := Option.map_eq_some_iff.1 hi
    exact .inr (.inr ⟨row, hrow, b.id, i, port.format, rfl, hmodule, hport.symm⟩)

theorem artifact_ne_sinkTarget (row : Row) (id : BlockId) (i : Nat) (format file : String) :
    sinkTarget file ≠ c.artifact row id i format := by
  obtain ⟨rest, hrest⟩ := Layout.exists_artifact_eq row.id id i
    (c.pipeline.toolbox.formats.suffix format)
  rw [artifact, hrest]
  exact sinkTarget_ne file rest

/-- The file of an output tells its row and its block. -/
theorem eq_of_artifact (hrows : c.table.Sound) (hformats : c.pipeline.toolbox.formats.IsDefined)
    {row row' : Row} (hrow : row ∈ c.table.rows) (hrow' : row' ∈ c.table.rows) {id id' : BlockId}
    {i j : Nat} {format format' : String}
    (h : c.artifact row id i format = c.artifact row' id' j format') : row.id = row'.id ∧ id = id' := by
  obtain ⟨hname, hid, -⟩ := Layout.artifact_inj (hrows.slash_not_mem hrow)
    (hrows.slash_not_mem hrow') (hformats.head?_suffix format) (hformats.head?_suffix format') h
  exact ⟨hname, hid⟩

/-- **No file is made by two rules.** -/
theorem Gathered.eq_of_target (h : c.Gathered c.table.rows c.turns d) (hrows : c.table.Sound)
    (hformats : c.pipeline.toolbox.formats.IsDefined) (hrule : rule ∈ d.rules)
    (hrule' : rule' ∈ d.rules) (hpath : path ∈ rule.targets) (hpath' : path ∈ rule'.targets) :
    rule = rule' := by
  rcases h.target_cases hrule hpath with ⟨row, hrow, rfl, rfl⟩ | ⟨file, hcopied, rfl⟩ |
    ⟨row, hrow, id, i, format, htask, -, rfl⟩
  · rcases h.target_cases hrule' hpath' with ⟨row', hrow', rfl, heq⟩ | ⟨file', -, heq⟩ |
      ⟨row', hrow', id', j, format', -, -, heq⟩
    · rw [Layout.rowDirectory_inj heq]
    · exact absurd heq.symm (sinkTarget_ne file' row.id)
    · exact absurd heq.symm (Layout.artifact_ne_rowDirectory (hrows.slash_not_mem hrow))
  · rcases h.target_cases hrule' hpath' with ⟨row', hrow', rfl, heq⟩ | ⟨file', hcopied', -⟩ |
      ⟨row', hrow', id', j, format', -, -, heq⟩
    · exact absurd heq (sinkTarget_ne file row'.id)
    · exact eq_of_nodup_filterMap (h.tidy.targets ▸ h.tidy.nodup_targets) hrule hrule' hcopied
        hcopied'
    · exact absurd heq (artifact_ne_sinkTarget row' id' j format' file)
  · rcases h.target_cases hrule' hpath' with ⟨row', hrow', rfl, heq⟩ | ⟨file', -, heq⟩ |
      ⟨row', hrow', id', j, format', htask', -, heq⟩
    · exact absurd heq (Layout.artifact_ne_rowDirectory (hrows.slash_not_mem hrow'))
    · exact absurd heq.symm (artifact_ne_sinkTarget row id i format file')
    · obtain ⟨hname, rfl⟩ := eq_of_artifact hrows hformats hrow hrow' heq
      rw [← hname] at htask'
      exact eq_of_nodup_filterMap h.nodup_tasks hrule hrule' htask htask'

/-- No rule makes a file that the setup writes. -/
theorem Gathered.argument_not_target (h : c.Gathered c.table.rows c.turns d)
    (hrows : c.table.Sound) (hformats : c.pipeline.toolbox.formats.IsDefined) {row : Row}
    (hrow : row ∈ c.table.rows) {id : BlockId} (hid : ¬c.pipeline.IsModule id) {format : String}
    (hrule : rule ∈ d.rules) : c.artifact row id 0 format ∉ rule.targets := by
  intro hpath
  rcases h.target_cases hrule hpath with ⟨row', hrow', -, heq⟩ | ⟨file, -, heq⟩ |
    ⟨row', hrow', id', j, format', -, hmodule, heq⟩
  · exact Layout.artifact_ne_rowDirectory (hrows.slash_not_mem hrow') heq
  · exact artifact_ne_sinkTarget row id 0 format file heq.symm
  · obtain ⟨-, rfl⟩ := eq_of_artifact hrows hformats hrow hrow' heq
    exact hid hmodule

/-! ## Paths that are made up -/

/-- A path that is made up for a row, with the block, the position and the format that it is made up
from: the path of an output, or that of the file for the text of a source, which has one output. -/
inductive Generates (c : Compilation) (row : Row) : BlockId → Nat → String → String → Prop
  | output (id : BlockId) (index : Nat) (format : String) :
      Generates c row id index format (c.artifact row id index format)
  | argument {ref : PortRef} {b : Block} {column : String} {output : Port} {path text : String}
      (hb : c.pipeline.block? ref.block = some b) (hkind : b.kind = .source column output)
      (horigin : c.originOf row ref = .ok ⟨path, some text⟩) :
      Generates c row ref.block 0 output.format path

variable {row row' : Row} {id id' : BlockId} {index index' : Nat} {format format' : String}

/-- Both kinds are written in the same way. -/
theorem Generates.path_eq (h : c.Generates row id index format path) :
    path = c.artifact row id index format := by
  cases h with
  | output => rfl
  | @argument ref b column output path text hb hkind horigin =>
    rcases originOf_cases horigin with ⟨-, -, -, -, -, -, -, hnone⟩ |
      ⟨b', column', output', hb', hkind', -, hpath, -⟩ | ⟨-, -, -, -, _, -, -, -, hmade⟩
    · cases hnone
    · obtain rfl := Option.some.inj (hb.symm.trans hb')
      cases hkind.symm.trans hkind'
      exact hpath
    · cases hmade

/-- A path that is made up is neither absolute nor in the output root. -/
theorem Generates.not_outside (h : c.Generates row id index format path) :
    ¬"/".toList <+: path.toList ∧ ¬"$(OUTPUT)".toList <+: path.toList := by
  obtain ⟨rest, hrest⟩ := Layout.exists_artifact_eq row.id id index
    (c.pipeline.toolbox.formats.suffix format)
  rw [h.path_eq, artifact, hrest, String.toList_append]
  constructor
  · rintro ⟨back, hback⟩
    cases congrArg (·[0]?) hback
  · rintro ⟨back, hback⟩
    cases congrArg (·[2]?) hback

/-- The path of a sink is absolute or in the output root. -/
theorem prefix_sinkTarget (file : String) : "/".toList <+: (sinkTarget file).toList ∨
    "$(OUTPUT)".toList <+: (sinkTarget file).toList := by
  rw [sinkTarget]
  split
  · rename_i habsolute
    rw [Path.isAbsolute, beq_iff_eq, List.head?_eq_some_iff] at habsolute
    obtain ⟨back, hback⟩ := habsolute
    exact .inl ⟨back, hback.symm⟩
  · rw [Layout.inOutput, String.toList_append]
    exact .inr (List.prefix_append _ _)

/-! ## Lists of paths -/

/-- What is listed between source and result are files of modules. -/
theorem Gathered.exists_artifact (h : c.Gathered c.table.rows c.turns d)
    (hpath : path ∈ d.intermediates) : ∃ row ∈ c.table.rows, ∃ id i format,
      c.pipeline.IsModule id ∧ path = c.artifact row id i format := by
  obtain ⟨rule, hrule, htask, hmem⟩ := (h.tidy.mem_intermediates path).1 hpath
  rcases h.target_cases hrule hmem with ⟨row, -, rfl, -⟩ | ⟨file, hcopied, -⟩ |
    ⟨row, hrow, id, i, format, -, hmodule, heq⟩
  · cases htask
  · cases rule with
    | copy => cases htask
    | directory => cases hcopied
    | run => cases hcopied
  · exact ⟨row, hrow, id, i, format, hmodule, heq⟩

/-- What is listed as a target is the file of a sink. -/
theorem Gathered.exists_sinkTarget (h : c.Gathered c.table.rows c.turns d)
    (hpath : path ∈ d.targets) : ∃ file, path = sinkTarget file := by
  obtain ⟨turn, -, htarget⟩ := (h.mem_targets path).1 hpath
  rw [Turn.target?] at htarget
  split at htarget
  · obtain ⟨file, -, hfile⟩ := Option.map_eq_some_iff.1 htarget
    exact ⟨file, hfile.symm⟩
  · cases htarget

/-- The file for a text is not that of a module. -/
theorem Offers.exists_artifact (hc : c.pipeline.Consistent) {argument : String × String}
    (h : c.Offers row argument) : ∃ id format, ¬c.pipeline.IsModule id ∧
      argument.1 = c.artifact row id 0 format := by
  obtain ⟨b, hb, column, output, hkind, -, hpath, -⟩ := h
  exact ⟨b.id, output.format,
    Pipeline.not_isModule_of_source (Pipeline.block?_of_mem hc.nodup_ids hb) hkind, hpath⟩

/-- **The lists of a draft have no path in common**, with each other and with the directories of
rows. -/
theorem Gathered.nodup_paths (h : c.Gathered c.table.rows c.turns d) (hrows : c.table.Sound)
    (hc : c.pipeline.Consistent) (hoffered : c.Offered c.table.rows d) :
    ((c.table.rows.map fun row => Layout.rowDirectory row.id) ++ d.intermediates ++ d.written
      ++ d.targets).Nodup := by
  have hdirectories : (c.table.rows.map fun row => Layout.rowDirectory row.id).Nodup := by
    have hids := hrows.nodup_ids.map fun _ _ => Layout.rowDirectory_inj
    rwa [List.map_map] at hids
  have hwritten : ∀ path ∈ d.written, ∃ row ∈ c.table.rows, ∃ id format,
      ¬c.pipeline.IsModule id ∧ path = c.artifact row id 0 format := by
    intro path hpath
    obtain ⟨argument, hargument, rfl⟩ := List.mem_map.1 hpath
    obtain ⟨row, hrow, hoffers⟩ := hoffered argument hargument
    exact ⟨row, hrow, hoffers.exists_artifact hc⟩
  refine ((hdirectories.append h.tidy.nodup_intermediates ?_).append h.tidy.nodup_written ?_).append
    h.tidy.nodup_targets ?_
  · intro path hdirectory hpath
    obtain ⟨row, hrow, rfl⟩ := List.mem_map.1 hdirectory
    obtain ⟨row', -, id, i, format, -, heq⟩ := h.exists_artifact hpath
    exact Layout.artifact_ne_rowDirectory (hrows.slash_not_mem hrow) heq.symm
  · intro path hlisted hpath
    obtain ⟨row', hrow', id', format', hsource, heq⟩ := hwritten path hpath
    rcases List.mem_append.1 hlisted with hdirectory | hmade
    · obtain ⟨row, hrow, rfl⟩ := List.mem_map.1 hdirectory
      exact Layout.artifact_ne_rowDirectory (hrows.slash_not_mem hrow) heq.symm
    · obtain ⟨row, hrow, id, i, format, hmodule, rfl⟩ := h.exists_artifact hmade
      obtain ⟨-, rfl, -⟩ := Layout.artifact_inj_block (hrows.slash_not_mem hrow)
        (hrows.slash_not_mem hrow') heq
      exact hsource hmodule
  · intro path hlisted hpath
    obtain ⟨file, rfl⟩ := h.exists_sinkTarget hpath
    rcases List.mem_append.1 hlisted with hlisted | hargument
    · rcases List.mem_append.1 hlisted with hdirectory | hmade
      · obtain ⟨row, hrow, heq⟩ := List.mem_map.1 hdirectory
        exact sinkTarget_ne file row.id heq.symm
      · obtain ⟨row, -, id, i, format, -, heq⟩ := h.exists_artifact hmade
        exact artifact_ne_sinkTarget row id i format file heq
    · obtain ⟨row, -, id, format, -, heq⟩ := hwritten _ hargument
      exact artifact_ne_sinkTarget row id 0 format file heq

/-- **Paths that are made up tell what they are for.**  The row, the block and the position can be
read off such a path, if the suffixes of formats start with a point if with anything.  It is not the
directory of a row, and unlike the path of a sink it is neither absolute nor in the output root.  So
no path of a script is listed twice: as a directory, between source and result, for the setup, or as
a target. -/
theorem paths_apart (c : Compilation) :
    (∀ row row' : Row, Table.rowIdFault? row.id = none → Table.rowIdFault? row'.id = none →
      ∀ id id' index index' format format' path,
        (∀ ch ∈ (c.pipeline.toolbox.formats.suffix format).toList.head?, ch = '.') →
        (∀ ch ∈ (c.pipeline.toolbox.formats.suffix format').toList.head?, ch = '.') →
        c.Generates row id index format path → c.Generates row' id' index' format' path →
        row.id = row'.id ∧ id = id' ∧ index = index') ∧
    (∀ row id index format path, c.Generates row id index format path →
      (∀ name, Table.rowIdFault? name = none → path ≠ Layout.rowDirectory name) ∧
        ¬"/".toList <+: path.toList ∧ ¬"$(OUTPUT)".toList <+: path.toList) ∧
    (∀ file, "/".toList <+: (sinkTarget file).toList ∨
      "$(OUTPUT)".toList <+: (sinkTarget file).toList) ∧
    ∀ t : Toolbox, t.Built → Pipeline.Reachable t c.pipeline →
      ∀ delimiter text, Table.parseWith delimiter text = .ok c.table →
      ∀ options directory root s, compile options c.pipeline c.table directory root = .ok s →
        ((c.table.rows.map fun row => Layout.rowDirectory row.id) ++ s.intermediates
          ++ s.argumentPaths ++ s.targets).Nodup := by
  have hdigit : ∀ suffix : String, (∀ ch ∈ suffix.toList.head?, ch = '.') →
      ∀ ch ∈ suffix.toList.head?, ch.isDigit = false := by
    intro suffix hpoint ch hch
    rw [hpoint ch hch]
    rfl
  refine ⟨?_, ?_, prefix_sinkTarget, ?_⟩
  · intro row row' hrow hrow' id id' index index' format format' path hpoint hpoint' h h'
    exact Layout.artifact_inj (Table.rowIdFault?_eq_none_iff.1 hrow).slash_not_mem
      (Table.rowIdFault?_eq_none_iff.1 hrow').slash_not_mem (hdigit _ hpoint) (hdigit _ hpoint')
      (h.path_eq.symm.trans h'.path_eq)
  · intro row id index format path h
    refine ⟨fun name hname => ?_, h.not_outside⟩
    rw [h.path_eq]
    exact Layout.artifact_ne_rowDirectory (Table.rowIdFault?_eq_none_iff.1 hname).slash_not_mem
  · intro t ht hp delimiter text htable options directory root s hs
    obtain ⟨hc, rfl⟩ := hp.consistent
    obtain ⟨d, hd, -, htargets, hintermediates, hwritten⟩ := compile_eq_ok hs
    have hrows := Table.Sound.of_parseWith htable
    rw [hintermediates, hwritten, htargets]
    exact (gathered_draft hc ht hrows hd).nodup_paths hrows hc (offered_draft hd)

/-- The file for a text of the first row, and the script of both rows. -/
theorem paths_apart_branched :
    (∃ text, (Compilation.mk Specimen.branched Specimen.table).originOf Specimen.row
        (.output ⟨1⟩ 0) = .ok ⟨"$(PROCESSING)a/1_0", some text⟩) ∧
      "$(PROCESSING)a/1_0" ≠
        (Compilation.mk Specimen.branched Specimen.table).artifact Specimen.row ⟨11⟩ 0 "text" ∧
      "$(PROCESSING)a/1_0" ≠ Layout.rowDirectory "b" ∧
      ¬"$(OUTPUT)".toList <+: "$(PROCESSING)a/1_0".toList ∧
      ∃ s, compile .standard Specimen.branched Specimen.table "/w" "out" = .ok s ∧
        s.rules.length = 9 ∧
        ((Specimen.table.rows.map fun row => Layout.rowDirectory row.id) ++ s.intermediates
          ++ s.argumentPaths ++ s.targets).Nodup := by
  obtain ⟨htold, hplace, -, hlists⟩ := paths_apart ⟨Specimen.branched, Specimen.table⟩
  obtain ⟨text, horigin⟩ : ∃ text,
      (Compilation.mk Specimen.branched Specimen.table).originOf Specimen.row (.output ⟨1⟩ 0) =
        .ok ⟨"$(PROCESSING)a/1_0", some text⟩ :=
    ⟨_, rfl⟩
  obtain ⟨b, hb, output, hkind⟩ : ∃ b, Specimen.branched.block? ⟨1⟩ = some b ∧
      ∃ output, b.kind = .source "note" output :=
    ⟨_, rfl, _, rfl⟩
  have hargument : (Compilation.mk Specimen.branched Specimen.table).Generates Specimen.row ⟨1⟩ 0
      output.format "$(PROCESSING)a/1_0" :=
    .argument hb hkind horigin
  have hrow : Table.rowIdFault? Specimen.row.id = none := by decide
  have hpoint : ∀ format, ∀ ch ∈ (Specimen.branched.toolbox.formats.suffix format).toList.head?,
      ch = '.' := by
    rw [Specimen.reachable_branched.consistent.2]
    exact Specimen.catalog_isDefined.head?_suffix_eq
  refine ⟨⟨text, horigin⟩, fun heq => ?_, (hplace _ _ _ _ _ hargument).1 "b" (by decide),
    (hplace _ _ _ _ _ hargument).2.2, ?_⟩
  · have houtput : (Compilation.mk Specimen.branched Specimen.table).Generates Specimen.row ⟨11⟩ 0
        "text" "$(PROCESSING)a/1_0" := by
      rw [heq]
      exact .output ⟨11⟩ 0 "text"
    have hblocks := htold _ _ hrow hrow _ _ _ _ _ _ _ (hpoint _) (hpoint _) hargument houtput
    exact absurd hblocks.2.1 (by decide)
  · obtain ⟨s, hs, hlength⟩ := exists_ok_of_map_toOption Specimen.compile_branched
    exact ⟨s, hs, hlength, hlists _ Specimen.toolbox_built Specimen.reachable_branched _ _
      Specimen.parseWith_sheet _ _ _ _ hs⟩

end Compilation

end Flowscript
