import Flowscript.Proofs.Script.Cycles

/-!
# What compiling checks

A script is refused if an input that has to be connected is not, if a cell cannot stand for a file,
or if a module depends on itself.  These checks are made on the way, so what is not walked through
is not checked: a sink whose target has been had does not get to the modules upstream of it.

* `Compilation.Admitted` are the checks on a sink itself, and `Compilation.Validated` adds those on
  the modules upstream.
* `Pipeline.Reachable.compile_validates` says when each of them has been made.
-/

set_option autoImplicit false

namespace Flowscript

/-- Every step of a fold that ends well has ended well. -/
theorem exists_step_of_foldlM {ε α β : Type} {f : β → α → Except ε β} {l : List α} {a b : β}
    (h : l.foldlM f a = .ok b) {x : α} (hx : x ∈ l) : ∃ a' b', f a' x = .ok b' := by
  induction l generalizing a with
  | nil => cases hx
  | cons y rest ih =>
    rw [List.foldlM_cons, bind_eq_ok_iff] at h
    obtain ⟨a', hone, hrest⟩ := h
    rcases List.mem_cons.1 hx with rfl | hx
    · exact ⟨a, a', hone⟩
    · exact ih hrest hx

namespace Compilation

/-- The row has a cell under the column that can stand for a file in a rule. -/
def NamesFile (c : Compilation) (row : Row) (column : String) : Prop :=
  c.table.hasColumn column = true ∧ ∃ path, row.resolved? column = some path ∧ path ≠ "" ∧
    ∀ ch ∈ path.toList, Text.isBlank ch = false ∧ ch ≠ ':' ∧ ch ≠ '#' ∧ ch ≠ '%'

/-- Every source of a file that feeds the block has a file in the row. -/
def SourcesNamed (c : Compilation) (row : Row) (id : BlockId) : Prop :=
  ∀ b ∈ c.pipeline.blocks, ∀ column output, b.kind = .source column output →
    output.parameter.isArg = false → c.pipeline.Feeds b.id id → c.NamesFile row column

/-- A sink can be given a rule for a row. -/
structure Admitted (c : Compilation) (row : Row) (sink : Block) : Prop where
  connected : ∃ source, c.pipeline.feeder? (.input sink.id 0) = some source
  target : ∀ column input, sink.kind = .sink column input → c.NamesFile row column
  sources : c.SourcesNamed row sink.id

/-- A sink and all modules upstream of it can be given rules for a row. -/
structure Validated (c : Compilation) (row : Row) (sink : Block) : Prop extends
    c.Admitted row sink where
  /-- The inputs of a module are connected unless they may be left out. -/
  required : ∀ b ∈ c.pipeline.blocks, b.isModule = true → c.pipeline.Upstream b.id sink.id →
    ∀ (i : Nat) port, b.inputs[i]? = some port → port.parameter.required = true →
      ∃ source, c.pipeline.feeder? (.input b.id i) = some source
  /-- A module does not depend on itself. -/
  acyclic : ∀ b ∈ c.pipeline.blocks, b.isModule = true → c.pipeline.Upstream b.id sink.id →
    ¬c.pipeline.Upstream b.id b.id
  /-- The sources of a module have their files. -/
  cells : ∀ b ∈ c.pipeline.blocks, b.isModule = true → c.pipeline.Upstream b.id sink.id →
    c.SourcesNamed row b.id

variable {c : Compilation} {d : ScriptDraft} {row : Row}

/-! ## Cells -/

theorem isUnsafe_eq_false_iff {ch : Char} : isUnsafe ch = false ↔
    Text.isBlank ch = false ∧ ch ≠ ':' ∧ ch ≠ '#' ∧ ch ≠ '%' := by
  simp [isUnsafe, and_assoc]

theorem namesFile_of_fileCell {column path : String} (h : c.fileCell row column = .ok path) :
    c.NamesFile row column := by
  obtain ⟨hcolumn, hcell, hne, hsafe⟩ := fileCell_spec h
  exact ⟨hcolumn, path, hcell, hne, fun ch hch => isUnsafe_eq_false_iff.1 (hsafe ch hch)⟩

/-- Asking for the file behind a port of a source checks the cell of the source. -/
theorem namesFile_of_originOf {ref : PortRef} {origin : Origin}
    (h : c.originOf row ref = .ok origin) {b : Block} {column : String} {output : Port}
    (hb : c.pipeline.block? ref.block = some b) (hkind : b.kind = .source column output)
    (hfile : output.parameter.isArg = false) : c.NamesFile row column := by
  rw [originOf] at h
  simp only [hb, hkind, hfile, Bool.false_eq_true, if_false] at h
  cases hcell : c.fileCell row column with
  | error e =>
    rw [hcell] at h
    cases h
  | ok path => exact namesFile_of_fileCell hcell

theorem sourcesNamed_of_originOf (hc : c.pipeline.Consistent) {id : BlockId}
    (h : ∀ i source, c.pipeline.feeder? (.input id i) = some source →
      ∃ origin, c.originOf row source = .ok origin) : c.SourcesNamed row id := by
  rintro b hb column output hkind hfile ⟨i, source, hsource, hid⟩
  obtain ⟨origin, horigin⟩ := h i source hsource
  exact namesFile_of_originOf horigin (hid ▸ Pipeline.block?_of_mem hc.nodup_ids hb) hkind hfile

/-! ## Sinks -/

/-- A turn checks the sink, also when the target has been had. -/
theorem admitted_of_addSink (hc : c.pipeline.Consistent) {sink : Block}
    (hmem : sink ∈ c.pipeline.blocks) (hsink : sink.isSink = true)
    {state state' : ScriptDraft × List BlockId} (h : c.addSink row state sink = .ok state') :
    c.Admitted row sink ∧ ∃ target, (Turn.mk row sink).target? = some target := by
  obtain ⟨column, input, hkind⟩ := Block.exists_kind_of_isSink hsink
  obtain ⟨source, target, origin, hsource, htarget, horigin, -⟩ := addSink_eq_ok hkind h
  refine ⟨⟨⟨source, hsource⟩, ?_, ?_⟩, target, htarget⟩
  · intro column' input' hkind'
    obtain ⟨rfl, -⟩ := BlockKind.sink.inj (hkind.symm.trans hkind')
    rw [addSink] at h
    simp only [hkind, hsource] at h
    obtain ⟨file, hfile, -⟩ := bind_eq_ok_iff.1 h
    exact namesFile_of_fileCell hfile
  · intro b hb column' output hkind' hfile hfeeds
    have hid : b.id = source.block := eq_of_feeds_sink hc hmem hkind hsource hfeeds
    exact namesFile_of_originOf horigin (hid ▸ Pipeline.block?_of_mem hc.nodup_ids hb) hkind' hfile

/-- All turns of a script have been taken. -/
theorem exists_addSink_of_draft (hd : c.draft = .ok d) (hrow : row ∈ c.table.rows) {sink : Block}
    (hsink : sink ∈ c.pipeline.sinks) : ∃ state state', c.addSink row state sink = .ok state' := by
  obtain ⟨d₁, d₂, hone⟩ := exists_step_of_foldlM hd hrow
  rw [addRow, bind_eq_ok_iff] at hone
  obtain ⟨state, hsinks, -⟩ := hone
  exact exists_step_of_foldlM hsinks (List.mem_mergeSort.2 hsink)

theorem admitted_of_draft (hc : c.pipeline.Consistent) (hd : c.draft = .ok d)
    (hrow : row ∈ c.table.rows) {sink : Block} (hsink : sink ∈ c.pipeline.sinks) :
    c.Admitted row sink ∧ ∃ target, (Turn.mk row sink).target? = some target := by
  obtain ⟨state, state', hone⟩ := exists_addSink_of_draft hd hrow hsink
  obtain ⟨hmem, hkind⟩ := List.mem_filter.1 hsink
  exact admitted_of_addSink hc hmem hkind hone

/-! ## Modules -/

/-- Every module upstream of an emitted sink is run. -/
theorem Gathered.mem_tasks_of_upstream (h : c.Gathered c.table.rows c.turns d)
    (hc : c.pipeline.Consistent) {sink : Block} {target : String}
    (hemits : Emits c.turns ⟨row, sink⟩ target) {b : Block} (hb : b ∈ c.pipeline.blocks)
    (hmodule : b.isModule = true) (hup : c.pipeline.Upstream b.id sink.id) :
    (row.id, b.id) ∈ Rule.tasks d.rules :=
  (h.mem_tasks _ _).2
    ⟨_, target, hemits, rfl, ⟨b, Pipeline.block?_of_mem hc.nodup_ids hb, hmodule⟩, hup⟩

/-- The files of a module that is run have been looked for, port by port. -/
theorem Gathered.exists_fed (h : c.Gathered c.table.rows c.turns d) (hrows : c.table.Sound)
    (hc : c.pipeline.Consistent) (hrow : row ∈ c.table.rows) {b : Block}
    (hb : b ∈ c.pipeline.blocks) (htask : (row.id, b.id) ∈ Rule.tasks d.rules) :
    ∃ files, c.Fed d.written row b files := by
  obtain ⟨rule, -, b', files, hb', -, hfed⟩ := h.exists_run hrows hrow htask
  obtain rfl := Option.some.inj ((Pipeline.block?_of_mem hc.nodup_ids hb).symm.trans hb')
  exact ⟨files, hfed⟩

/-- **An emitted sink is validated.** -/
theorem Gathered.validated (h : c.Gathered c.table.rows c.turns d) (hrows : c.table.Sound)
    (hc : c.pipeline.Consistent) {sink : Block} (hadmitted : c.Admitted row sink) {target : String}
    (hemits : Emits c.turns ⟨row, sink⟩ target) : c.Validated row sink := by
  have hfed : ∀ b ∈ c.pipeline.blocks, b.isModule = true → c.pipeline.Upstream b.id sink.id →
      ∃ files, c.Fed d.written row b files := fun b hb hmodule hup =>
    h.exists_fed hrows hc (h.row_mem _ hemits.mem) hb
      (h.mem_tasks_of_upstream hc hemits hb hmodule hup)
  refine { hadmitted with required := ?_, acyclic := ?_, cells := ?_ }
  · intro b hb hmodule hup i port hport hrequired
    obtain ⟨files, hfed⟩ := hfed b hb hmodule hup
    cases hsource : c.pipeline.feeder? (.input b.id i) with
    | some source => exact ⟨source, rfl⟩
    | none =>
      rw [(hfed.unconnected i port hport hsource).2] at hrequired
      cases hrequired
  · intro b hb hmodule hup
    exact Pipeline.not_upstream_self
      (h.grounded _ (h.mem_tasks_of_upstream hc hemits hb hmodule hup))
  · intro b hb hmodule hup
    obtain ⟨files, hfed⟩ := hfed b hb hmodule hup
    refine sourcesNamed_of_originOf hc fun i source hsource => ?_
    obtain ⟨-, -, origin, horigin, -⟩ := hfed.connected i source hsource
    exact ⟨origin, horigin⟩

/-- A turn with a target of its own is emitted. -/
theorem exists_emits_of_distinct (hrow : row ∈ c.table.rows) {sink : Block}
    (hsink : sink ∈ c.pipeline.sinks)
    (hdistinct : c.turns.Pairwise fun turn other => turn.target? ≠ other.target?) {target : String}
    (htarget : (Turn.mk row sink).target? = some target) : Emits c.turns ⟨row, sink⟩ target := by
  have hmem : Turn.mk row sink ∈ c.turns := mem_turns.2 ⟨hrow, hsink⟩
  obtain ⟨before, after, hturns⟩ := List.append_of_mem hmem
  refine ⟨before, after, hturns, htarget, fun earlier hearlier => ?_⟩
  rw [hturns, List.pairwise_append] at hdistinct
  exact htarget ▸ hdistinct.2.2 earlier hearlier _ List.mem_cons_self

end Compilation

/-- **What compiling has checked when there is a script.**  Every sink has been checked for every
row.  The modules upstream of it have been checked for the rows for which the sink was emitted, and
this is for all rows if no two turns have the same target. -/
theorem Pipeline.Reachable.compile_validates {t : Toolbox} (ht : t.Built) {p : Pipeline}
    (hp : Reachable t p) {delimiter : Char} {text : String} {table : Table}
    (htable : Table.parseWith delimiter text = .ok table) {options : ScriptOptions}
    {directory root : String} {s : BuildScript}
    (hs : compile options p table directory root = .ok s) :
    (∀ row ∈ table.rows, ∀ sink ∈ p.sinks, (Compilation.mk p table).Admitted row sink) ∧
    (∀ row sink target, Emits (Compilation.mk p table).turns ⟨row, sink⟩ target →
      (Compilation.mk p table).Validated row sink) ∧
    ((Compilation.mk p table).turns.Pairwise (fun turn other => turn.target? ≠ other.target?) →
      ∀ row ∈ table.rows, ∀ sink ∈ p.sinks, (Compilation.mk p table).Validated row sink) := by
  obtain ⟨hc, rfl⟩ := hp.consistent
  obtain ⟨d, hd, -⟩ := Compilation.compile_eq_ok hs
  have hrows := Table.Sound.of_parseWith htable
  have h := Compilation.gathered_draft (c := ⟨p, table⟩) hc ht hrows hd
  have hadmitted : ∀ row ∈ table.rows, ∀ sink ∈ p.sinks,
      (Compilation.mk p table).Admitted row sink ∧
        ∃ target, (Turn.mk row sink).target? = some target := fun row hrow sink hsink =>
    Compilation.admitted_of_draft (c := ⟨p, table⟩) hc hd hrow hsink
  have hvalidated : ∀ row sink target, Emits (Compilation.mk p table).turns ⟨row, sink⟩ target →
      (Compilation.mk p table).Validated row sink := by
    intro row sink target hemits
    obtain ⟨row', hrow, hturn⟩ := List.mem_flatMap.1 hemits.mem
    obtain ⟨sink', hsink, heq⟩ := List.mem_map.1 hturn
    obtain ⟨rfl, rfl⟩ := Turn.mk.inj heq
    exact h.validated hrows hc (hadmitted row' hrow sink' (List.mem_mergeSort.1 hsink)).1 hemits
  refine ⟨fun row hrow sink hsink => (hadmitted row hrow sink hsink).1, hvalidated, ?_⟩
  intro hdistinct row hrow sink hsink
  obtain ⟨target, htarget⟩ := (hadmitted row hrow sink hsink).2
  exact hvalidated row sink target
    (Compilation.exists_emits_of_distinct hrow hsink hdistinct htarget)

/-- The main result of the first row is emitted, and so all upstream of it is validated. -/
theorem Pipeline.compile_validates_branched :
    Specimen.toolbox.Built ∧ Reachable Specimen.toolbox Specimen.branched ∧
      Table.parseWith '|' Specimen.sheet = .ok Specimen.table ∧
      ∃ s, compile .standard Specimen.branched Specimen.table "/w" "out" = .ok s ∧
        (∀ row ∈ Specimen.table.rows, ∀ sink ∈ Specimen.branched.sinks,
          (Compilation.mk Specimen.branched Specimen.table).Admitted row sink) ∧
        (Compilation.mk Specimen.branched Specimen.table).Validated Specimen.row Specimen.sink := by
  have hok := Specimen.compile_branched
  cases hs : compile .standard Specimen.branched Specimen.table "/w" "out" with
  | error e =>
    rw [hs] at hok
    cases hok
  | ok s =>
    obtain ⟨hadmitted, hvalidated, -⟩ := Reachable.compile_validates Specimen.toolbox_built
      Specimen.reachable_branched Specimen.parseWith_sheet hs
    exact ⟨Specimen.toolbox_built, Specimen.reachable_branched, Specimen.parseWith_sheet, s, rfl,
      hadmitted, hvalidated _ _ _ Specimen.emits_branched⟩

/-! ## A specimen -/

namespace Specimen

/-- A history with two sinks for one column.  The module upstream of the second one lacks its
input. -/
def shadowing : List Edit :=
  chaining ++ [.addModule "sort" place, .addSink "out" (text "out" true) place,
    .connect (.output ⟨3⟩ 0) (.input ⟨4⟩ 0)]

/-- The pipeline of that history. -/
def shadowed : Pipeline := shadowing.foldl Pipeline.edit (.empty "shadow" toolbox)

theorem reachable_shadowed : Pipeline.Reachable toolbox shadowed :=
  (Pipeline.Reachable.empty "shadow").edits shadowing

theorem sortedSinks_shadowed :
    (Compilation.mk shadowed (filing "/data/y")).sortedSinks = shadowed.sinks :=
  List.mergeSort_of_pairwise (by decide)

end Specimen

/-- The target of the second sink has been had, and so nothing is said about the input that the
module upstream of it lacks. -/
theorem Pipeline.compile_shadowed :
    Specimen.toolbox.Built ∧ Reachable Specimen.toolbox Specimen.shadowed ∧
      Table.parseWith '|' (Specimen.filingText "/data/y") = .ok (Specimen.filing "/data/y") ∧
      (Specimen.filing "/data/y").rows.length = 1 ∧
      (compile .standard Specimen.shadowed (Specimen.filing "/data/y") "/w" "out").isOk = true ∧
      ∃ sink ∈ Specimen.shadowed.sinks, ∃ b ∈ Specimen.shadowed.blocks, b.isModule = true ∧
        Specimen.shadowed.Upstream b.id sink.id ∧ ∃ port, b.inputs[0]? = some port ∧
          port.parameter.required = true ∧ Specimen.shadowed.feeder? (.input b.id 0) = none := by
  refine ⟨Specimen.toolbox_built, Specimen.reachable_shadowed, by decide +kernel, rfl, ?_, ?_⟩
  · rw [compile, Compilation.draft, Compilation.addRow_eq Specimen.sortedSinks_shadowed]
    decide +kernel
  · refine ⟨⟨⟨4⟩, Specimen.place, .sink "out" ⟨Specimen.text "out" true, 0, [⟨2⟩]⟩⟩,
      by decide, ⟨⟨3⟩, Specimen.place, .module Specimen.sort
        [⟨Specimen.text "in" true, 0, []⟩] [⟨Specimen.text "out" true, 0, [⟨2⟩]⟩]⟩,
      by decide +kernel, rfl, .single ⟨0, .output ⟨3⟩ 0, by decide, rfl⟩, _, rfl, rfl,
      by decide⟩

end Flowscript
