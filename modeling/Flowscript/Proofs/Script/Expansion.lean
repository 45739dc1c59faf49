import Mathlib.Data.List.Nodup
import Flowscript.Proofs.Script.Headers
import Flowscript.Proofs.Variables

/-!
# Paths of a script on disk

Make replaces the variables of a script by where the output root is.  Files that differ in the text
of the script may be the same after that, and whether they are depends on the cells of sinks alone.

* `Layout.expand` replaces the variables of the layout.
* `Layout.expand_artifact_inj` says that the layout makes up different files also on disk.
* `Layout.Apart` keeps the file of a sink out of the way of all others.
* `Pipeline.Reachable.one_rule_per_file` tells when no file on disk has two rules.
-/

set_option autoImplicit false

namespace Flowscript

/-! ## The layout on disk -/

theorem ne_of_isPlainName {name : String} (h : Text.isPlainName name = true) {other : Char}
    (hother : Text.isNameChar other = false) : ∀ c ∈ name.toList, c ≠ other := by
  rintro c hc rfl
  rw [Text.isPlainName_iff] at h
  rw [h.2 c hc] at hother
  cases hother

theorem isPrefix_append (s t : String) : s.toList <+: (s ++ t).toList := by
  rw [String.toList_append]
  exact List.prefix_append ..

namespace Layout

/-- The variables that targets of rules start with, as the preamble of a script gives them.  The
output root is taken without the slashes at its end. -/
def value? (root : String) : String → Option String
  | "$(OUTPUT)" => some (root ++ "/")
  | "$(PROCESSING)" => some (root ++ "/" ++ processingDirectory ++ "/")
  | _ => none

/-- A path of a script with the variables of the layout replaced. -/
def expand (root path : String) : String := Variable.substitute (value? root) path

variable (root : String)

theorem expand_inOutput (file : String) :
    expand root (inOutput file) = root ++ "/" ++ expand root file := by
  have hvalue : value? root ("$(" ++ "OUTPUT" ++ ")") = some (root ++ "/") := rfl
  exact Variable.substitute_variable_append (by decide) (by decide) hvalue file

theorem expand_processing (rest : String) :
    expand root ("$(PROCESSING)" ++ rest) =
      root ++ "/" ++ processingDirectory ++ "/" ++ expand root rest := by
  have hvalue : value? root ("$(" ++ "PROCESSING" ++ ")") =
    some (root ++ "/" ++ processingDirectory ++ "/") := rfl
  exact Variable.substitute_variable_append (by decide) (by decide) hvalue rest

theorem expand_append {plain : String} (h : ∀ c ∈ plain.toList, c ≠ '$') (rest : String) :
    expand root (plain ++ rest) = plain ++ expand root rest :=
  Variable.substitute_append h _ rest

theorem expand_of_forall {plain : String} (h : ∀ c ∈ plain.toList, c ≠ '$') :
    expand root plain = plain := by
  have happend := expand_append root h ""
  rw [expand, expand, Variable.substitute_empty, String.append_empty] at happend
  exact happend

theorem expand_rowDirectory {row : String} (h : ∀ c ∈ row.toList, c ≠ '$') :
    expand root (rowDirectory row) = root ++ "/" ++ processingDirectory ++ "/" ++ row := by
  rw [rowDirectory, expand_processing, expand_of_forall root h]

/-- A name of the layout after the variable that it starts with, up to the suffix. -/
def stem (row : String) (block : BlockId) (index : Nat) : String :=
  row ++ "/" ++ block.text ++ "_" ++ toString index

theorem artifact_eq_stem (row : String) (block : BlockId) (index : Nat) (suffix : String) :
    artifact row block index suffix = "$(PROCESSING)" ++ (stem row block index ++ suffix) := by
  rw [artifact, rowDirectory, stem]
  simp only [String.append_assoc]

theorem dollar_not_mem_stem {row : String} (h : ∀ c ∈ row.toList, c ≠ '$') (block : BlockId)
    (index : Nat) : ∀ c ∈ (stem row block index).toList, c ≠ '$' := by
  have hdigits : ∀ n : Nat, ∀ c ∈ (toString n).toList, c ≠ '$' := by
    rintro n c hc rfl
    rw [show (toString n).toList = Nat.toDigits 10 n from String.toList_ofList] at hc
    cases isDigit_toDigits _ hc
  intro c hc
  simp only [stem, BlockId.text, String.toList_append, List.mem_append] at hc
  rcases hc with (((hrow | hslash) | hblock) | hline) | hindex
  · exact h c hrow
  · revert c
    decide
  · exact hdigits _ c hblock
  · revert c
    decide
  · exact hdigits _ c hindex

/-- The file of an output, on disk. -/
theorem expand_artifact {row : String} (h : ∀ c ∈ row.toList, c ≠ '$') (block : BlockId)
    (index : Nat) (suffix : String) :
    expand root (artifact row block index suffix) =
      root ++ "/" ++ processingDirectory ++ "/" ++ (stem row block index ++ expand root suffix) := by
  rw [artifact_eq_stem, expand_processing, expand_append root (dollar_not_mem_stem h block index)]

/-- **The layout makes up different files, also on disk.** -/
theorem expand_artifact_inj {c : FormatCatalog} (hc : c.IsDefined) {row row' : String}
    {block block' : BlockId} {index index' : Nat} {format format' : String}
    (hrow : Text.isPlainName row = true) (hrow' : Text.isPlainName row' = true)
    (h : expand root (artifact row block index (c.suffix format)) =
      expand root (artifact row' block' index' (c.suffix format'))) :
    row = row' ∧ block = block' ∧ index = index' := by
  have hsuffix : ∀ format, ∀ ch ∈ (expand root (c.suffix format)).toList.head?,
      ch.isDigit = false := by
    intro format ch hch
    have hpoint : ∀ ch ∈ (c.suffix format).toList.head?, ch ≠ '$' := by
      intro ch hch
      rw [hc.head?_suffix_eq format ch hch]
      decide
    rw [expand, Variable.head?_substitute hpoint] at hch
    exact hc.head?_suffix format ch hch
  rw [expand_artifact root (ne_of_isPlainName hrow (by decide)),
    expand_artifact root (ne_of_isPlainName hrow' (by decide))] at h
  have hstems : artifact row block index (expand root (c.suffix format)) =
      artifact row' block' index' (expand root (c.suffix format')) := by
    rw [artifact_eq_stem, artifact_eq_stem, (String.append_right_inj _).1 h]
  exact artifact_inj (fun hslash => ne_of_isPlainName hrow (by decide) _ hslash rfl)
    (fun hslash => ne_of_isPlainName hrow' (by decide) _ hslash rfl) (hsuffix format)
    (hsuffix format') hstems

/-- A file of a sink that is kept out of the way: no variable of the layout is in its name, an
absolute one is not in the output root, and a relative one is not in the directory of the files
between source and result. -/
structure Apart (root file : String) : Prop where
  unchanged : expand root file = file
  absolute : Path.isAbsolute file = true → ¬(root ++ "/").toList <+: file.toList
  relative : Path.isAbsolute file = false → ¬(processingDirectory ++ "/").toList <+: file.toList

end Layout

namespace Compilation

open Layout

variable {root : String}

/-- The file of a sink that is kept out of the way, on disk. -/
theorem expand_sinkTarget {file : String} (h : Apart root file) :
    expand root (sinkTarget file) = if Path.isAbsolute file then file else root ++ "/" ++ file := by
  rw [sinkTarget]
  split
  · exact h.unchanged
  · rw [expand_inOutput, h.unchanged]

/-- **Files of sinks that are kept out of the way are different on disk.** -/
theorem expand_sinkTarget_inj {file file' : String} (h : Apart root file) (h' : Apart root file')
    (heq : expand root (sinkTarget file) = expand root (sinkTarget file')) : file = file' := by
  rw [expand_sinkTarget h, expand_sinkTarget h'] at heq
  split at heq <;> split at heq
  · exact heq
  · rename_i habsolute _
    exact absurd (heq ▸ isPrefix_append ..) (h.absolute habsolute)
  · rename_i habsolute
    exact absurd (heq ▸ isPrefix_append ..) (h'.absolute habsolute)
  · exact (String.append_right_inj _).1 heq

/-- **They are no files between source and result either.** -/
theorem expand_sinkTarget_ne {file : String} (h : Apart root file) (rest : String) :
    expand root (sinkTarget file) ≠ root ++ "/" ++ processingDirectory ++ "/" ++ rest := by
  intro heq
  rw [expand_sinkTarget h] at heq
  split at heq
  · rename_i habsolute
    refine h.absolute habsolute ?_
    rw [heq, String.append_assoc, String.append_assoc]
    exact isPrefix_append ..
  · rename_i hrelative
    refine h.relative (by simpa using hrelative) ?_
    have hfile : file = processingDirectory ++ "/" ++ rest :=
      (String.append_right_inj _).1 (heq.trans (by simp only [String.append_assoc]))
    rw [hfile]
    exact isPrefix_append ..

/-! ## Rules -/

variable {c : Compilation} {d : ScriptDraft} {rule rule' : Rule} {path path' : String}

/-- What the layout makes up lies in the directory of the files between source and result. -/
theorem Gathered.exists_expand_eq (h : c.Gathered c.table.rows c.turns d) (hrows : c.table.Sound)
    (root : String) (hrule : rule ∈ d.rules) (hcopied : rule.copied? = none)
    (hpath : path ∈ rule.targets) :
    ∃ rest, expand root path = root ++ "/" ++ processingDirectory ++ "/" ++ rest := by
  have hdollar : ∀ row ∈ c.table.rows, ∀ ch ∈ row.id.toList, ch ≠ '$' := fun row hrow =>
    ne_of_isPlainName (hrows.isPlainName hrow) (by decide)
  rcases h.target_cases hrule hpath with ⟨row, hrow, -, rfl⟩ | ⟨-, hsome, -⟩ |
    ⟨row, hrow, id, i, format, -, -, rfl⟩
  · exact ⟨row.id, expand_rowDirectory root (hdollar row hrow)⟩
  · rw [hcopied] at hsome
    cases hsome
  · exact ⟨_, expand_artifact root (hdollar row hrow) id i _⟩

/-- The directory of a row is no file of an output, also on disk. -/
theorem expand_artifact_ne_rowDirectory (hrows : c.table.Sound) {row row' : Row}
    (hrow : row ∈ c.table.rows) (hrow' : row' ∈ c.table.rows) (root : String) (id : BlockId)
    (i : Nat) (format : String) :
    expand root (c.artifact row id i format) ≠ expand root (rowDirectory row'.id) := by
  intro heq
  have hplain := hrows.isPlainName hrow'
  rw [artifact, expand_artifact root (ne_of_isPlainName (hrows.isPlainName hrow) (by decide)),
    expand_rowDirectory root (ne_of_isPlainName hplain (by decide))] at heq
  have hslash : '/' ∈ row'.id.toList := by
    rw [← (String.append_right_inj _).1 heq]
    simp [stem]
  exact ne_of_isPlainName hplain (by decide) _ hslash rfl

/-- **Two rules that make the same file on disk open the same row or run the same block for the same
row, if none of them is a copy.** -/
theorem Gathered.same_of_expand_eq (h : c.Gathered c.table.rows c.turns d) (hrows : c.table.Sound)
    (hformats : c.pipeline.toolbox.formats.IsDefined) (hrule : rule ∈ d.rules)
    (hrule' : rule' ∈ d.rules) (hcopied : rule.copied? = none) (hcopied' : rule'.copied? = none)
    (hpath : path ∈ rule.targets) (hpath' : path' ∈ rule'.targets)
    (heq : expand root path = expand root path') :
    (∃ row, rule.opened? = some row ∧ rule'.opened? = some row) ∨
      ∃ task, rule.task? = some task ∧ rule'.task? = some task := by
  rcases h.target_cases hrule hpath with ⟨row, hrow, rfl, rfl⟩ | ⟨-, hsome, -⟩ |
    ⟨row, hrow, id, i, format, htask, -, rfl⟩
  · rcases h.target_cases hrule' hpath' with ⟨row', hrow', rfl, rfl⟩ | ⟨-, hsome, -⟩ |
      ⟨row', hrow', id', j, format', -, -, rfl⟩
    · rw [expand_rowDirectory root (ne_of_isPlainName (hrows.isPlainName hrow) (by decide)),
        expand_rowDirectory root (ne_of_isPlainName (hrows.isPlainName hrow') (by decide))] at heq
      exact .inl ⟨row.id, rfl, congrArg some ((String.append_right_inj _).1 heq).symm⟩
    · rw [hcopied'] at hsome
      cases hsome
    · exact absurd heq.symm (expand_artifact_ne_rowDirectory hrows hrow' hrow root id' j format')
  · rw [hcopied] at hsome
    cases hsome
  · rcases h.target_cases hrule' hpath' with ⟨row', hrow', rfl, rfl⟩ | ⟨-, hsome, -⟩ |
      ⟨row', hrow', id', j, format', htask', -, rfl⟩
    · exact absurd heq (expand_artifact_ne_rowDirectory hrows hrow hrow' root id i format)
    · rw [hcopied'] at hsome
      cases hsome
    · obtain ⟨hname, rfl, -⟩ := expand_artifact_inj root hformats (hrows.isPlainName hrow)
        (hrows.isPlainName hrow') heq
      exact .inr ⟨_, htask, hname ▸ htask'⟩

/-- The files that one rule makes are different on disk. -/
theorem Gathered.nodup_expand_targets (h : c.Gathered c.table.rows c.turns d)
    (hrows : c.table.Sound) (hformats : c.pipeline.toolbox.formats.IsDefined) (root : String)
    (hrule : rule ∈ d.rules) : (rule.targets.map (expand root)).Nodup := by
  cases rule with
  | directory row => exact List.nodup_singleton _
  | copy target prerequisite => exact List.nodup_singleton _
  | run name id label targets prerequisites command =>
    obtain ⟨row, hrow, -, b, files, -, hruleOf, -⟩ := h.runs _ hrule (name, id) rfl
    cases hruleOf
    have hplain := hrows.isPlainName hrow
    rw [Rule.targets, artifacts, List.nodup_iff_getElem?_ne_getElem?]
    intro i j hlt hlength heq
    rw [List.length_map, List.length_mapIdx] at hlength
    simp only [List.getElem?_map, List.getElem?_mapIdx, List.getElem?_eq_getElem hlength,
      List.getElem?_eq_getElem (hlt.trans hlength), Option.map_some, Option.some.injEq] at heq
    exact absurd (expand_artifact_inj root hformats hplain hplain heq).2.2 hlt.ne

/-- **On disk no file is made twice by rules that are no copies.** -/
theorem Gathered.nodup_expand_inner (h : c.Gathered c.table.rows c.turns d) (hrows : c.table.Sound)
    (hformats : c.pipeline.toolbox.formats.IsDefined) (root : String) :
    (((d.rules.filter fun r => r.copied?.isNone).flatMap Rule.targets).map
      (expand root)).Nodup := by
  have hopened : (d.rules.filterMap Rule.opened?).Nodup := h.opened ▸ hrows.nodup_ids
  have hkeys := (List.pairwise_filterMap.1 hopened).and (List.pairwise_filterMap.1 h.nodup_tasks)
  rw [List.map_flatMap, List.nodup_flatMap]
  refine ⟨fun rule hrule => ?_, (hkeys.filter _).imp_of_mem fun {a b} ha hb hab => ?_⟩
  · exact h.nodup_expand_targets hrows hformats root (List.mem_filter.1 hrule).1
  · obtain ⟨hrule, hcopied⟩ := List.mem_filter.1 ha
    obtain ⟨hrule', hcopied'⟩ := List.mem_filter.1 hb
    intro path hpath hpath'
    obtain ⟨file, hfile, rfl⟩ := List.mem_map.1 hpath
    obtain ⟨file', hfile', heq⟩ := List.mem_map.1 hpath'
    rcases h.same_of_expand_eq hrows hformats hrule hrule' (Option.isNone_iff_eq_none.1 hcopied)
      (Option.isNone_iff_eq_none.1 hcopied') hfile hfile' heq.symm with
      ⟨row, hrow, hrow'⟩ | ⟨task, htask, htask'⟩
    · exact hab.1 row hrow row hrow' rfl
    · exact hab.2 task htask task htask' rfl

/-- The targets of rules are those of the copies and those of all others. -/
theorem perm_targets (rules : List Rule) :
    (rules.filterMap Rule.copied? ++
      (rules.filter fun r => r.copied?.isNone).flatMap Rule.targets).Perm
        (rules.flatMap Rule.targets) := by
  induction rules with
  | nil => exact .refl _
  | cons rule rest ih =>
    rw [List.flatMap_cons]
    cases rule with
    | copy target path => exact ih.cons target
    | directory row => exact List.perm_middle.trans (ih.cons _)
    | run name id label targets paths command =>
      rw [List.filterMap_cons, List.filter_cons]
      exact (List.perm_append_comm_assoc ..).trans (ih.append_left targets)

/-- **No file on disk is made twice exactly if no sink makes it so.** -/
theorem Gathered.nodup_expand_iff (h : c.Gathered c.table.rows c.turns d) (hrows : c.table.Sound)
    (hformats : c.pipeline.toolbox.formats.IsDefined) (root : String) :
    ((d.rules.flatMap Rule.targets).map (expand root)).Nodup ↔
      (d.targets.map (expand root)).Nodup ∧
        ∀ target ∈ d.targets, ∀ rule ∈ d.rules, rule.copied? = none → ∀ path ∈ rule.targets,
          expand root target ≠ expand root path := by
  rw [← ((perm_targets d.rules).map (expand root)).nodup_iff, List.map_append, List.nodup_append,
    ← h.tidy.targets]
  refine and_congr_right fun _ => ?_
  rw [and_iff_right (h.nodup_expand_inner hrows hformats root), List.forall_mem_map]
  refine forall₂_congr fun target _ => ?_
  simp only [List.forall_mem_map, List.mem_flatMap, List.mem_filter, Option.isNone_iff_eq_none]
  constructor
  · intro hne rule hrule hcopied path hpath
    exact hne path ⟨rule, ⟨hrule, hcopied⟩, hpath⟩
  · rintro hne path ⟨rule, ⟨hrule, hcopied⟩, hpath⟩
    exact hne rule hrule hcopied path hpath

end Compilation

namespace BuildScript

/-- The output root without the slashes at its end. -/
def root (s : BuildScript) : String := Path.trimSlashes s.outputRoot

/-- A path of the script with the variables of the layout replaced. -/
def onDisk (s : BuildScript) (path : String) : String := Layout.expand s.root path

end BuildScript

/-- **Which scripts have one rule for each file on disk.**  Two rules for one file have the copy of a
sink among them, and there are none if the files of all sinks are kept out of the way. -/
theorem Pipeline.Reachable.one_rule_per_file {t : Toolbox} (ht : t.Built)
    (hformats : t.formats.IsDefined) {p : Pipeline} (hp : Reachable t p) {delimiter : Char}
    {text : String} {table : Table} (htable : Table.parseWith delimiter text = .ok table)
    {options : ScriptOptions} {directory outputRoot : String} {s : BuildScript}
    (hs : compile options p table directory outputRoot = .ok s) :
    (((s.rules.filter fun r => r.copied?.isNone).flatMap Rule.targets).map s.onDisk).Nodup ∧
    (((s.rules.flatMap Rule.targets).map s.onDisk).Nodup ↔
      (s.targets.map s.onDisk).Nodup ∧
        ∀ target ∈ s.targets, ∀ rule ∈ s.rules, rule.copied? = none → ∀ path ∈ rule.targets,
          s.onDisk target ≠ s.onDisk path) ∧
    ((∀ row ∈ table.rows, ∀ sink ∈ p.sinks, ∀ column file, sink.column? = some column →
        row.resolved? column = some file → Layout.Apart s.root file) →
      ((s.rules.flatMap Rule.targets).map s.onDisk).Nodup) := by
  obtain ⟨hc, rfl⟩ := hp.consistent
  obtain ⟨d, hd, hrules, htargets, -⟩ := Compilation.compile_eq_ok hs
  have hrows := Table.Sound.of_parseWith htable
  have h := Compilation.gathered_draft (c := ⟨p, table⟩) hc ht hrows hd
  rw [hrules, htargets]
  have hiff := h.nodup_expand_iff hrows hformats s.root
  refine ⟨h.nodup_expand_inner hrows hformats s.root, hiff, fun hapart => hiff.2 ?_⟩
  have hfile : ∀ target ∈ d.targets, ∃ file, target = Compilation.sinkTarget file ∧
      Layout.Apart s.root file := by
    intro target htarget
    obtain ⟨turn, hturn, heq⟩ := (h.mem_targets target).1 htarget
    obtain ⟨hrow, hsink⟩ := Compilation.mem_turns.1 hturn
    rw [Turn.target?] at heq
    split at heq
    · rename_i column input hkind
      obtain ⟨file, hfile, rfl⟩ := Option.map_eq_some_iff.1 heq
      exact ⟨file, rfl, hapart _ hrow _ hsink column file (by rw [Block.column?, hkind]) hfile⟩
    · cases heq
  refine ⟨?_, ?_⟩
  · refine h.tidy.nodup_targets.map_on fun target htarget target' htarget' heq => ?_
    obtain ⟨file, rfl, hone⟩ := hfile target htarget
    obtain ⟨file', rfl, hother⟩ := hfile target' htarget'
    rw [Compilation.expand_sinkTarget_inj hone hother heq]
  · intro target htarget rule hrule hcopied path hpath
    obtain ⟨file, rfl, hone⟩ := hfile target htarget
    obtain ⟨rest, hrest⟩ := h.exists_expand_eq hrows s.root hrule hcopied hpath
    rw [hrest]
    exact Compilation.expand_sinkTarget_ne hone rest

/-! ## A specimen -/

namespace Specimen

/-- The sinks of the branched pipeline name files that are in nobody's way. -/
theorem apart_branched {row : Row} (hrow : row ∈ table.rows) {sink : Block}
    (hsink : sink ∈ branched.sinks) {column file : String} (hcolumn : sink.column? = some column)
    (hfile : row.resolved? column = some file) : Layout.Apart "/w/out" file := by
  have hall : ∀ row ∈ table.rows, ∀ sink ∈ branched.sinks, ∀ column ∈ sink.column?,
      ∀ file ∈ row.resolved? column, Path.isAbsolute file = false ∧ '$' ∉ file.toList ∧
        ¬"processing/".toList <+: file.toList := by
    decide +kernel
  obtain ⟨hrelative, hdollar, houtside⟩ := hall row hrow sink hsink column hcolumn file hfile
  refine ⟨Layout.expand_of_forall _ fun c hc heq => hdollar (heq ▸ hc), ?_, fun _ => houtside⟩
  intro habsolute
  rw [hrelative] at habsolute
  cases habsolute

/-- A history with two sinks for one result. -/
def doubling : List Edit :=
  chaining ++ [.addSink "copy" (text "copy" true) place,
    .connect (.output ⟨1⟩ 0) (.input ⟨3⟩ 0)]

/-- The pipeline of that history. -/
def doubled : Pipeline := doubling.foldl Pipeline.edit (.empty "double" toolbox)

theorem reachable_doubled : Pipeline.Reachable toolbox doubled :=
  (Pipeline.Reachable.empty "double").edits doubling

/-- A row that names one file in two ways. -/
def twins : Table :=
  ⟨["id", "in", "out", "copy"],
    [⟨[("id", "a"), ("in", "/data/x"), ("out", "y"), ("copy", "/w/out/y")]⟩]⟩

/-- The rules for that row. -/
def twinRules : List Rule :=
  [.directory "a", .copy "$(OUTPUT)y" "$(PROCESSING)a/1_0.txt",
    .run "a" ⟨1⟩ "sort" ["$(PROCESSING)a/1_0.txt"] ["/data/x"]
      "sort /data/x > $(PROCESSING)a/1_0.txt",
    .copy "/w/out/y" "$(PROCESSING)a/1_0.txt"]

theorem sortedSinks_doubled : (Compilation.mk doubled twins).sortedSinks = doubled.sinks :=
  List.mergeSort_of_pairwise (by decide)

end Specimen

/-- Nine rules make ten files, and on disk these are ten files too. -/
theorem Pipeline.one_rule_per_file_branched :
    Specimen.toolbox.Built ∧ Specimen.toolbox.formats.IsDefined ∧
      Reachable Specimen.toolbox Specimen.branched ∧
      Table.parseWith '|' Specimen.sheet = .ok Specimen.table ∧
      ∃ s, compile .standard Specimen.branched Specimen.table "/w" "out" = .ok s ∧
        s.rules.length = 9 ∧ s.root = "/w/out" ∧
        ((s.rules.flatMap Rule.targets).map s.onDisk).Nodup := by
  have hok : (compile .standard Specimen.branched Specimen.table "/w" "out").toOption.map
      (fun s => (s.rules.length, s.root)) = some (9, "/w/out") := by
    rw [compile, Compilation.draft, Specimen.addRow_branched]
    decide +kernel
  cases hs : compile .standard Specimen.branched Specimen.table "/w" "out" with
  | error e =>
    rw [hs] at hok
    cases hok
  | ok s =>
    rw [hs] at hok
    obtain ⟨hlength, hroot⟩ := Prod.mk.inj (Option.some.inj hok)
    refine ⟨Specimen.toolbox_built, Specimen.catalog_isDefined, Specimen.reachable_branched,
      Specimen.parseWith_sheet, s, rfl, hlength, hroot, ?_⟩
    refine (Reachable.one_rule_per_file Specimen.toolbox_built Specimen.catalog_isDefined
      Specimen.reachable_branched Specimen.parseWith_sheet hs).2.2 ?_
    intro row hrow sink hsink column file hcolumn hfile
    rw [hroot]
    exact Specimen.apart_branched hrow hsink hcolumn hfile

/-- A relative name and an absolute one stand for the same file, and both are given a rule. -/
theorem Pipeline.two_rules_doubled :
    Specimen.toolbox.Built ∧ Specimen.toolbox.formats.IsDefined ∧
      Reachable Specimen.toolbox Specimen.doubled ∧
      Table.parseWith '|' "id|in|out|copy\na|/data/x|y|/w/out/y\n" = .ok Specimen.twins ∧
      ∃ s, compile .standard Specimen.doubled Specimen.twins "/w" "out" = .ok s ∧
        .copy "$(OUTPUT)y" "$(PROCESSING)a/1_0.txt" ∈ s.rules ∧
        .copy "/w/out/y" "$(PROCESSING)a/1_0.txt" ∈ s.rules ∧
        s.onDisk "$(OUTPUT)y" = "/w/out/y" ∧ s.onDisk "/w/out/y" = "/w/out/y" ∧
        ¬((s.rules.flatMap Rule.targets).map s.onDisk).Nodup := by
  have hok : (compile .standard Specimen.doubled Specimen.twins "/w" "out").toOption.map
      (fun s => (s.rules, s.root)) = some (Specimen.twinRules, "/w/out") := by
    rw [compile, Compilation.draft, Compilation.addRow_eq Specimen.sortedSinks_doubled]
    decide +kernel
  cases hs : compile .standard Specimen.doubled Specimen.twins "/w" "out" with
  | error e =>
    rw [hs] at hok
    cases hok
  | ok s =>
    rw [hs] at hok
    obtain ⟨hrules, hroot⟩ := Prod.mk.inj (Option.some.inj hok)
    have hrelative : s.onDisk "$(OUTPUT)y" = "/w/out/y" := by
      rw [BuildScript.onDisk, hroot]
      refine (Layout.expand_inOutput _ "y").trans ?_
      rw [Layout.expand_of_forall _ (by decide)]
      decide
    have habsolute : s.onDisk "/w/out/y" = "/w/out/y" := Layout.expand_of_forall _ (by decide)
    refine ⟨Specimen.toolbox_built, Specimen.catalog_isDefined, Specimen.reachable_doubled,
      by decide, s, rfl, ?_⟩
    rw [hrules]
    refine ⟨by decide, by decide, hrelative, habsolute, fun hnodup => ?_⟩
    have heq := List.inj_on_of_nodup_map hnodup (x := "$(OUTPUT)y") (by decide)
      (y := "/w/out/y") (by decide) (hrelative.trans habsolute.symm)
    exact absurd heq (by decide)

end Flowscript
