import Flowscript.Analysis.Inputs
import Flowscript.Proofs.Script.Dataflow
import Flowscript.Proofs.Template

/-!
# Errors of compiling

An error of compiling says what is wrong with the pipeline or the table, and it is right.  Two of
the errors would say that compiling itself is wrong: a command with a slot that no port fills, and
a connection from a port that is not there.  Nothing can make these errors come up.

* `Pipeline.Consistent.upstream_of_loop` says that a walk reports a loop only where there is one.
* `Compilation.Warrants` is what each error says, and `Compilation.warrants_of_draft` that it is so.
* `Pipeline.Reachable.compile_error_warranted` is about the whole script, and
  `Pipeline.Reachable.no_internal_error` about the errors that are left out.
-/

set_option autoImplicit false

namespace Flowscript

/-! ## Loops -/

namespace Pipeline

variable {p : Pipeline}

theorem exists_walk_of_mem_walkAll {path : List BlockId} {visit : Visit} {ids : List BlockId} :
    ∀ {seen : List BlockId}, visit ∈ (p.walkAll path seen ids).1 →
      ∃ id ∈ ids, ∃ seen', visit ∈ (p.walk path seen' id).1 := by
  induction ids with
  | nil => exact fun h => absurd h List.not_mem_nil
  | cons id rest ih =>
    intro seen h
    simp only [walkAll, List.mem_append] at h
    rcases h with hone | hmore
    · exact ⟨id, List.mem_cons_self, seen, hone⟩
    · obtain ⟨id', hid', hvisit⟩ := ih hmore
      exact ⟨id', List.mem_cons_of_mem _ hid', hvisit⟩

/-- **A walk reports a loop only through a module that depends on itself.**  The start of a walk is
upstream of all that the way to it goes through. -/
theorem Consistent.upstream_of_loop (h : p.Consistent) (ht : p.toolbox.Built) {a : BlockId}
    (path : List BlockId) : ∀ seen id, (∀ b ∈ path, p.Upstream id b) →
      .loop a ∈ (p.walk path seen id).1 → p.IsModule a ∧ p.Upstream a a := by
  -- The way grows with every step down, so fewer blocks are off it.
  induction hn : (p.offPath path).length using Nat.strongRecOn generalizing path with
  | _ n ih =>
    intro seen id hpath hloop
    by_cases hm : p.IsModule id
    · by_cases hback : id ∈ path
      · rw [walk_of_mem_path hm hback, List.mem_singleton] at hloop
        obtain rfl := Visit.loop.inj hloop
        exact ⟨hm, hpath a hback⟩
      · by_cases hseen : id ∈ seen
        · rw [walk_of_mem_seen hback hseen] at hloop
          cases hloop
        · obtain ⟨b, hb, hbm⟩ := hm
          rw [walk_of_new hb hbm hback hseen, List.mem_cons] at hloop
          obtain ⟨feeder, hfeeder, seen', hvisit⟩ :=
            exists_walk_of_mem_walkAll (hloop.resolve_left (by simp))
          have hfeeds : p.Feeds feeder id := (h.mem_feeders ht hb).1 hfeeder
          refine ih _ (hn ▸ length_offPath_cons_lt hb hback) (id :: path) rfl seen' feeder ?_ hvisit
          intro c hc
          rcases List.mem_cons.1 hc with rfl | hc
          · exact .single hfeeds
          · exact .head hfeeds (hpath c hc)
    · rw [walk_of_not_isModule hm] at hloop
      cases hloop

theorem mem_boundColumns {b : Block} (hb : b ∈ p.blocks) {column : String}
    (hcolumn : b.column? = some column) : column ∈ p.boundColumns := by
  rw [boundColumns, List.mem_eraseDups]
  exact List.mem_filterMap.2 ⟨b, hb, hcolumn⟩

end Pipeline

/-! ## What errors say -/

namespace Compilation

/-- What an error of compiling says is so.  There is no case for an unknown port and none for a
command that cannot be filled. -/
inductive Warrants (c : Compilation) : CompileError → Prop
  /-- An input of a block is not connected, and a sink's input always has to be. -/
  | missingRequiredInput {b : Block} {i : Nat} {port : Port} (hb : b ∈ c.pipeline.blocks)
      (hport : b.inputs[i]? = some port)
      (hneeded : b.isSink = true ∨ port.parameter.required = true)
      (hopen : c.pipeline.feeder? (.input b.id i) = none) :
      Warrants c (.missingRequiredInput b.label b.id port.parameter.name)
  /-- The table does not have a column that a block names. -/
  | missingColumn {column : String} (hbound : column ∈ c.pipeline.boundColumns)
      (hmissing : c.table.hasColumn column = false) : Warrants c (.missingColumn column)
  /-- A row has nothing under a column that a block names. -/
  | missingCell {row : Row} {column : String} (hrow : row ∈ c.table.rows)
      (hbound : column ∈ c.pipeline.boundColumns)
      (hempty : (row.resolved? column).getD "" = "") : Warrants c (.missingCell row.id column)
  /-- A row has a text under a column that a block names, and make does not take it for one word. -/
  | unsafeFileName {row : Row} {column value : String} (hrow : row ∈ c.table.rows)
      (hbound : column ∈ c.pipeline.boundColumns) (hcell : row.resolved? column = some value)
      (hmark : ∃ ch ∈ value.toList, isUnsafe ch = true) :
      Warrants c (.unsafeFileName row.id column value)
  /-- A module depends on itself. -/
  | cyclicPipeline {id : BlockId} (hmodule : c.pipeline.IsModule id)
      (hloop : c.pipeline.Upstream id id) : Warrants c (.cyclicPipeline id)

variable {c : Compilation} {row : Row} {e : CompileError}

/-! ## Cells -/

theorem warrants_of_cell {column : String} (hbound : column ∈ c.pipeline.boundColumns)
    (he : c.cell row column = .error e) : c.Warrants e := by
  rw [cell] at he
  split at he
  · cases he
  · rename_i hmissing
    cases he
    exact .missingColumn hbound (by simpa using hmissing)

theorem warrants_of_fileCell (hrow : row ∈ c.table.rows) {column : String}
    (hbound : column ∈ c.pipeline.boundColumns) (he : c.fileCell row column = .error e) :
    c.Warrants e := by
  rw [fileCell] at he
  split at he
  · rename_i hcell
    cases he
    exact warrants_of_cell hbound hcell
  · rename_i value hcell
    obtain rfl : (row.resolved? column).getD "" = value := by
      rw [cell] at hcell
      split at hcell <;> cases hcell
      rfl
    split at he
    · rename_i hempty
      cases he
      exact .missingCell hrow hbound (by simpa using hempty)
    · rename_i hsome
      split at he
      · rename_i hmark
        cases he
        refine .unsafeFileName hrow hbound ?_ (List.any_eq_true.1 hmark)
        cases hvalue : row.resolved? column with
        | none => exact absurd (by simp [hvalue]) hsome
        | some value => rfl
      · cases he

/-! ## Ports -/

theorem isModule_of_definition? {b : Block} {definition : ModuleDef}
    (h : b.definition? = some definition) : b.isModule = true := by
  obtain ⟨id, position, kind⟩ := b
  cases kind <;> cases h
  rfl

theorem label_of_definition? {b : Block} {definition : ModuleDef}
    (h : b.definition? = some definition) : b.label = definition.name := by
  obtain ⟨id, position, kind⟩ := b
  cases kind <;> cases h
  rfl

/-- What feeds an input has a file unless something is wrong with a cell. -/
theorem warrants_of_originOf (h : c.pipeline.Consistent) (hrow : row ∈ c.table.rows) {id : BlockId}
    {i : Nat} {source : PortRef} (hsource : c.pipeline.feeder? (.input id i) = some source)
    (he : c.originOf row source = .error e) : c.Warrants e := by
  obtain ⟨⟨b, port, hb, hport⟩, -⟩ := h.feeder_ends hsource
  have hmem := (Pipeline.mem_blocks_of_block? hb).1
  rw [originOf, hb] at he
  simp only at he
  split at he
  · rename_i column output hkind
    have hbound : column ∈ c.pipeline.boundColumns :=
      Pipeline.mem_boundColumns hmem (by rw [Block.column?, hkind])
    split at he
    · split at he
      · rename_i hcell
        cases he
        exact warrants_of_cell hbound hcell
      · cases he
    · split at he
      · rename_i hcell
        cases he
        exact warrants_of_fileCell hrow hbound hcell
      · cases he
  · rename_i definition inputs outputs hkind
    rw [Block.outputs, hkind] at hport
    simp only [hport] at he
    cases he
  · rename_i hkind
    rw [Block.outputs, hkind] at hport
    cases hport

theorem warrants_of_inputValue (h : c.pipeline.Consistent) (ht : c.pipeline.toolbox.Built)
    (hrow : row ∈ c.table.rows) {b : Block} (hb : c.pipeline.block? b.id = some b)
    {definition : ModuleDef} (hdefinition : b.definition? = some definition) {port : Port}
    (hport : port ∈ b.inputs) (he : c.inputValue row b.id definition port = .error e) :
    c.Warrants e := by
  obtain ⟨i, hi⟩ := List.getElem?_of_mem hport
  rw [inputValue] at he
  split at he
  · rename_i source hsource
    split at he
    · rename_i horigin
      cases he
      exact warrants_of_originOf h hrow hsource horigin
    · cases he
  · rename_i hopen
    split at he
    · rename_i hrequired
      cases he
      rw [index_eq h ht hb .input i port hi] at hopen
      rw [← label_of_definition? hdefinition]
      exact .missingRequiredInput (Pipeline.mem_blocks_of_block? hb).1 hi (.inr hrequired) hopen
    · cases he

/-! ## Modules -/

/-- The values of the inputs of a module go by the names of its ports. -/
theorem map_name_given {id : BlockId} {definition : ModuleDef} {ports : List Port}
    {given : List SlotValue}
    (h : List.Forall₂ (fun port v => c.inputValue row id definition port = .ok v) ports given) :
    given.map (·.name) = ports.map (·.parameter.name) := by
  induction h with
  | nil => rfl
  | cons hv _ ih => rw [List.map_cons, List.map_cons, ih, (inputValue_eq_ok hv).1]

/-- **Every port of a module that is run gets a value**, and so its command can be filled. -/
theorem exists_command (h : c.pipeline.Consistent)
    (hdef : ∀ m ∈ c.pipeline.toolbox.modules, m.IsDefined) {b : Block} (hb : b ∈ c.pipeline.blocks)
    {definition : ModuleDef} (hdefinition : b.definition? = some definition)
    {given : List SlotValue}
    (hgiven : b.inputs.mapM (c.inputValue row b.id definition) = .ok given) :
    ∃ command, definition.template.fill (fun name =>
      ((given ++ b.outputs.map (c.outputValue row b.id)).map
        fun v => (v.name, v.text)).lookup name) = .ok command := by
  obtain ⟨d, hd, hd', hports⟩ := h.map_parameter hb (isModule_of_definition? hdefinition)
  obtain rfl : definition = d := Option.some.inj (hdefinition.symm.trans hd')
  have hparameters : (b.inputs ++ b.outputs).map (·.parameter) = definition.ports := by
    rw [List.map_append]
    exact congrArg₂ (· ++ ·) (hports .input) (hports .output)
  have hnames : (given ++ b.outputs.map (c.outputValue row b.id)).map (·.name) =
      definition.ports.map (·.name) := by
    rw [← hparameters, List.map_map, List.map_append, List.map_append,
      map_name_given (forall₂_of_mapM hgiven), List.map_map]
    rfl
  refine CommandTemplate.exists_fill fun name hname => ?_
  obtain ⟨port, hport, rfl⟩ :=
    (hdef definition (Toolbox.mem_of_get? hd).1).exists_port_of_mem_slots hname
  have hmem : port.name ∈ definition.ports.map (·.name) := List.mem_map_of_mem hport
  rw [← hnames] at hmem
  obtain ⟨v, hv, hvname⟩ := List.mem_map.1 hmem
  exact List.lookup_isSome_iff.2 ⟨(v.name, v.text), List.mem_map_of_mem hv, by simp [hvname]⟩

theorem warrants_of_addModule (h : c.pipeline.Consistent) (ht : c.pipeline.toolbox.Built)
    (hdef : ∀ m ∈ c.pipeline.toolbox.modules, m.IsDefined) (hrow : row ∈ c.table.rows) {b : Block}
    (hb : c.pipeline.block? b.id = some b) {definition : ModuleDef}
    (hdefinition : b.definition? = some definition) {d : ScriptDraft}
    (he : c.addModule row d b.id definition b.inputs b.outputs = .error e) : c.Warrants e := by
  rw [addModule] at he
  split at he
  · rename_i hgiven
    cases he
    obtain ⟨port, hport, hone⟩ := exists_of_mapM_error hgiven
    exact warrants_of_inputValue h ht hrow hb hdefinition hport hone
  · rename_i given hgiven
    obtain ⟨command, hcommand⟩ :=
      exists_command h hdef (Pipeline.mem_blocks_of_block? hb).1 hdefinition hgiven
    simp only [hcommand] at he
    cases he

/-! ## Sinks -/

theorem warrants_of_follow (h : c.pipeline.Consistent) (ht : c.pipeline.toolbox.Built)
    (hdef : ∀ m ∈ c.pipeline.toolbox.modules, m.IsDefined) (hrow : row ∈ c.table.rows)
    {seen : List BlockId} {start : BlockId} {visit : Visit}
    (hvisit : visit ∈ (c.pipeline.walk [] seen start).1) {d : ScriptDraft}
    (he : c.follow row d visit = .error e) : c.Warrants e := by
  cases visit with
  | loop id =>
    cases he
    obtain ⟨hmodule, hloop⟩ := h.upstream_of_loop ht [] seen start (by simp) hvisit
    exact .cyclicPipeline hmodule hloop
  | enter id =>
    rw [follow] at he
    split at he
    · rename_i id' position definition inputs outputs hb
      obtain rfl := Pipeline.block?_id hb
      exact warrants_of_addModule h ht hdef hrow hb rfl he
    · cases he

theorem warrants_of_addSink (h : c.pipeline.Consistent) (ht : c.pipeline.toolbox.Built)
    (hdef : ∀ m ∈ c.pipeline.toolbox.modules, m.IsDefined) (hrow : row ∈ c.table.rows)
    {sink : Block} (hsink : sink ∈ c.pipeline.blocks) {state : ScriptDraft × List BlockId}
    (he : c.addSink row state sink = .error e) : c.Warrants e := by
  rw [addSink] at he
  split at he
  · rename_i column input hkind
    have hbound : column ∈ c.pipeline.boundColumns :=
      Pipeline.mem_boundColumns hsink (by rw [Block.column?, hkind])
    split at he
    · rename_i hopen
      cases he
      have hport : sink.inputs[0]? = some input := by rw [Block.inputs, hkind]; rfl
      have hlabel : sink.label = column := by rw [Block.label, hkind]
      rw [← hlabel]
      exact .missingRequiredInput hsink hport (.inl (by rw [Block.isSink, hkind])) hopen
    · rename_i source hsource
      rcases bind_eq_error_iff.1 he with hfile | ⟨file, -, he⟩
      · exact warrants_of_fileCell hrow hbound hfile
      · rcases bind_eq_error_iff.1 he with horigin | ⟨origin, -, he⟩
        · exact warrants_of_originOf h hrow hsource horigin
        · simp only at he
          split at he
          · cases he
          · rcases bind_eq_error_iff.1 he with hwalk | ⟨d, -, hnone⟩
            · obtain ⟨visit, hvisit, d, hone⟩ := exists_of_foldlM_error hwalk
              exact warrants_of_follow h ht hdef hrow hvisit hone
            · cases hnone
  · cases he

/-! ## Scripts -/

theorem warrants_of_addRow (h : c.pipeline.Consistent) (ht : c.pipeline.toolbox.Built)
    (hdef : ∀ m ∈ c.pipeline.toolbox.modules, m.IsDefined) (hrow : row ∈ c.table.rows)
    {d : ScriptDraft} (he : c.addRow d row = .error e) : c.Warrants e := by
  rw [addRow] at he
  rcases bind_eq_error_iff.1 he with hsinks | ⟨state, -, hnone⟩
  · obtain ⟨sink, hsink, state, hone⟩ := exists_of_foldlM_error hsinks
    exact warrants_of_addSink h ht hdef hrow (mem_sortedSinks hsink).1 hone
  · cases hnone

/-- **What stands in the way of a script is there.** -/
theorem warrants_of_draft (h : c.pipeline.Consistent) (ht : c.pipeline.toolbox.Built)
    (hdef : ∀ m ∈ c.pipeline.toolbox.modules, m.IsDefined) (he : c.draft = .error e) :
    c.Warrants e := by
  obtain ⟨row, hrow, d, hone⟩ := exists_of_foldlM_error he
  exact warrants_of_addRow h ht hdef hrow hone

end Compilation

namespace Pipeline

variable {t : Toolbox} {p : Pipeline} {table : Table} {options : ScriptOptions}
  {directory root : String} {e : CompileError}

/-- An error of compiling is about the output root, which has no path, or it is warranted. -/
theorem Reachable.compile_error_warranted (ht : t.Built) (hdef : ∀ m ∈ t.modules, m.IsDefined)
    (hp : Reachable t p) (he : compile options p table directory root = .error e) :
    (root = "" ∧ e = .inaccessible root) ∨ (Compilation.mk p table).Warrants e := by
  obtain ⟨hc, rfl⟩ := hp.consistent
  rw [compile] at he
  split at he
  · rename_i hroot
    cases he
    refine .inl ⟨?_, rfl⟩
    by_contra hne
    simp [Path.absolute?, hne] at hroot
  · rcases bind_eq_error_iff.1 he with hdraft | ⟨d, -, hnone⟩
    · exact .inr (Compilation.warrants_of_draft (c := ⟨p, table⟩) hc ht hdef hdraft)
    · cases hnone

theorem not_missing_of_isOk (h : (BindingReport.check p table).isOk = true) {column : String}
    (hbound : column ∈ p.boundColumns) : table.hasColumn column = true := by
  rw [BindingReport.isOk, BindingReport.check, List.isEmpty_iff, List.filter_eq_nil_iff] at h
  simpa using h column hbound

/-- **Compiling never blames itself.**  The slots of a command are ports, each port gets a value,
and every connection starts at an output, so no error is about a command that cannot be filled or
about an unknown port.  If the columns have been checked, no error is about a column. -/
theorem Reachable.no_internal_error (ht : t.Built) (hdef : ∀ m ∈ t.modules, m.IsDefined)
    (hp : Reachable t p) (table : Table) (options : ScriptOptions) (directory root : String) :
    (∀ fault, compile options p table directory root ≠ .error (.template fault)) ∧
    (∀ port, compile options p table directory root ≠ .error (.unknownPort port)) ∧
    ((BindingReport.check p table).isOk = true →
      ∀ column, compile options p table directory root ≠ .error (.missingColumn column)) := by
  refine ⟨fun fault he => ?_, fun port he => ?_, fun hok column he => ?_⟩
  · rcases hp.compile_error_warranted ht hdef he with ⟨-, h⟩ | h <;> cases h
  · rcases hp.compile_error_warranted ht hdef he with ⟨-, h⟩ | h <;> cases h
  · rcases hp.compile_error_warranted ht hdef he with ⟨-, h⟩ | h
    · cases h
    · cases h with
      | missingColumn hbound hmissing =>
        rw [not_missing_of_isOk hok hbound] at hmissing
        cases hmissing

/-- A table with all columns of a pipeline with two modules and a text. -/
theorem no_internal_error_branched :
    Specimen.toolbox.Built ∧ (∀ m ∈ Specimen.toolbox.modules, m.IsDefined) ∧
      Reachable Specimen.toolbox Specimen.branched ∧
      (BindingReport.check Specimen.branched Specimen.table).isOk = true ∧
      ∀ column, compile .standard Specimen.branched Specimen.table "/w" "out" ≠
        .error (.missingColumn column) := by
  have hok : (BindingReport.check Specimen.branched Specimen.table).isOk = true := by
    decide
  exact ⟨Specimen.toolbox_built, Specimen.toolbox_defined, Specimen.reachable_branched, hok,
    (Reachable.no_internal_error Specimen.toolbox_built Specimen.toolbox_defined
      Specimen.reachable_branched Specimen.table .standard "/w" "out").2.2 hok⟩

end Pipeline

end Flowscript
