import Mathlib.Data.List.ReduceOption
import Flowscript.Proofs.Pipeline.Upstream
import Flowscript.Proofs.Script.Drafts

/-!
# Rules of modules

The rule of a module names the files behind its inputs and the files of its outputs, as
prerequisites and targets and once more in its command.

* `Compilation.originOf_cases` says which file is behind a port.
* `Compilation.RuleOf` is the rule of a module, given the files behind its inputs, and
  `Compilation.Fed` says which files these are.
* `Compilation.addModule_spec` is the step that adds such a rule, and `Compilation.Gained` what a
  walk adds.
-/

set_option autoImplicit false

namespace Flowscript

/-! ## Steps that may fail -/

theorem bind_eq_ok_iff {ε α β : Type} {x : Except ε α} {f : α → Except ε β} {b : β} :
    x >>= f = .ok b ↔ ∃ a, x = .ok a ∧ f a = .ok b := by
  cases x with
  | error e => simp [bind, Except.bind]
  | ok a => simp [bind, Except.bind]

theorem bind_eq_error_iff {ε α β : Type} {x : Except ε α} {f : α → Except ε β} {e : ε} :
    x >>= f = .error e ↔ x = .error e ∨ ∃ a, x = .ok a ∧ f a = .error e := by
  cases x with
  | error e' => simp [bind, Except.bind]
  | ok a => simp [bind, Except.bind]

/-- What is so of the result if there is one. -/
theorem exists_ok_of_map_toOption {ε α β : Type} {x : Except ε α} {f : α → β} {b : β}
    (h : x.toOption.map f = some b) : ∃ a, x = .ok a ∧ f a = b := by
  cases x with
  | error e => cases h
  | ok a => exact ⟨a, rfl, Option.some.inj h⟩

theorem forall₂_of_mapM {ε α β : Type} {f : α → Except ε β} {as : List α} {bs : List β}
    (h : as.mapM f = .ok bs) : List.Forall₂ (fun a b => f a = .ok b) as bs := by
  induction as generalizing bs with
  | nil =>
    rw [List.mapM_nil] at h
    cases h
    exact .nil
  | cons a rest ih =>
    rw [List.mapM_cons, bind_eq_ok_iff] at h
    obtain ⟨b, hb, h⟩ := h
    obtain ⟨bs', hbs, h⟩ := bind_eq_ok_iff.1 h
    cases h
    exact .cons hb (ih hbs)

theorem mapM_eq_ok_map {ε α β : Type} {f : α → Except ε β} {g : α → β} {as : List α}
    (h : ∀ a ∈ as, f a = .ok (g a)) : as.mapM f = .ok (as.map g) := by
  induction as with
  | nil => rfl
  | cons a rest ih =>
    rw [List.forall_mem_cons] at h
    rw [List.mapM_cons, h.1, ih h.2]
    rfl

/-- The error of a list of steps is that of one of the steps. -/
theorem exists_of_mapM_error {ε α β : Type} {f : α → Except ε β} {as : List α} {e : ε}
    (h : as.mapM f = .error e) : ∃ a ∈ as, f a = .error e := by
  induction as with
  | nil =>
    rw [List.mapM_nil] at h
    cases h
  | cons a rest ih =>
    rw [List.mapM_cons, bind_eq_error_iff] at h
    rcases h with hone | ⟨b, -, hmore⟩
    · exact ⟨a, List.mem_cons_self, hone⟩
    · rcases bind_eq_error_iff.1 hmore with hrest | ⟨bs, -, hnone⟩
      · obtain ⟨a', ha', hone⟩ := ih hrest
        exact ⟨a', List.mem_cons_of_mem _ ha', hone⟩
      · cases hnone

/-- The error of a fold is that of one of its steps. -/
theorem exists_of_foldlM_error {ε α σ : Type} {f : σ → α → Except ε σ} {as : List α} {s : σ} {e : ε}
    (h : as.foldlM f s = .error e) : ∃ a ∈ as, ∃ s', f s' a = .error e := by
  induction as generalizing s with
  | nil => cases h
  | cons a rest ih =>
    rw [List.foldlM_cons, bind_eq_error_iff] at h
    rcases h with hone | ⟨s', -, hrest⟩
    · exact ⟨a, List.mem_cons_self, s, hone⟩
    · obtain ⟨a', ha', hlater⟩ := ih hrest
      exact ⟨a', List.mem_cons_of_mem _ ha', hlater⟩

namespace Compilation

open ScriptDraft

/-- The setup gets to write what it has to, and nothing else changes. -/
theorem noted_addArguments (d : ScriptDraft) (origins : List Origin) :
    Noted d (addArguments d origins) ∧
      ∀ o ∈ origins, ∀ text, o.text = some text → o.path ∈ (addArguments d origins).written := by
  induction origins generalizing d with
  | nil => exact ⟨.refl d, by simp⟩
  | cons o rest ih =>
    rw [addArguments, List.foldl_cons]
    cases htext : o.text with
    | none =>
      obtain ⟨hnoted, hwritten⟩ := ih d
      refine ⟨hnoted, fun o' ho' text' ht => ?_⟩
      rcases List.mem_cons.1 ho' with rfl | ho'
      · rw [htext] at ht
        cases ht
      · exact hwritten o' ho' text' ht
    | some text =>
      obtain ⟨hone, hmem⟩ := noted_addArgument d (o.path, text)
      obtain ⟨hnoted, hwritten⟩ := ih (d.addArgument (o.path, text))
      refine ⟨hone.trans hnoted, fun o' ho' text' ht => ?_⟩
      rcases List.mem_cons.1 ho' with rfl | ho'
      · exact hnoted.written _ hmem
      · exact hwritten o' ho' text' ht

/-! ## Files behind ports -/

/-- A cell that names a file is bound, and it holds something that make takes for one word. -/
theorem fileCell_spec {c : Compilation} {row : Row} {column path : String}
    (h : c.fileCell row column = .ok path) :
    c.table.hasColumn column = true ∧ row.resolved? column = some path ∧ path ≠ "" ∧
      ∀ ch ∈ path.toList, isUnsafe ch = false := by
  rw [fileCell] at h
  split at h
  · cases h
  · rename_i value hcell
    rw [cell] at hcell
    split at hcell
    · rename_i hcolumn
      cases hcell
      split at h
      · cases h
      · rename_i hne
        split at h
        · cases h
        · rename_i hsafe
          cases h
          refine ⟨hcolumn, ?_, fun hempty => hne (String.isEmpty_iff.2 hempty), by simpa using hsafe⟩
          cases hr : row.resolved? column with
          | none =>
            rw [hr] at hne
            exact absurd rfl hne
          | some text => rfl
    · cases hcell

theorem fileCell_eq_ok {c : Compilation} {row : Row} {column path : String}
    (h : c.fileCell row column = .ok path) : row.resolved? column = some path :=
  (fileCell_spec h).2.1

/-- What is behind a port: a file that the table names, a file that the setup writes, or a file
that a module makes. -/
theorem originOf_cases {c : Compilation} {row : Row} {ref : PortRef} {origin : Origin}
    (h : c.originOf row ref = .ok origin) :
    (∃ b column output, c.pipeline.block? ref.block = some b ∧ b.kind = .source column output ∧
      output.parameter.isArg = false ∧ row.resolved? column = some origin.path ∧
      origin.text = none) ∨
    (∃ b column output, c.pipeline.block? ref.block = some b ∧ b.kind = .source column output ∧
      output.parameter.isArg = true ∧
      origin.path = c.artifact row ref.block 0 output.format ∧ origin.text.isSome = true) ∨
    ∃ b definition inputs outputs output, c.pipeline.block? ref.block = some b ∧
      b.kind = .module definition inputs outputs ∧ outputs[ref.index]? = some output ∧
      origin = ⟨c.artifact row ref.block output.index output.format, none⟩ := by
  rw [originOf] at h
  split at h
  · cases h
  · rename_i b hb
    have hid := Pipeline.block?_id hb
    split at h
    · rename_i column output hkind
      split at h
      · rename_i harg
        split at h
        · cases h
        · cases h
          exact .inr (.inl ⟨b, column, output, hb, hkind, harg, by rw [hid], rfl⟩)
      · rename_i harg
        split at h
        · cases h
        · rename_i path hcell
          cases h
          refine .inl ⟨b, column, output, hb, hkind, by simpa using harg, ?_, rfl⟩
          exact fileCell_eq_ok hcell
    · rename_i definition inputs outputs hkind
      split at h
      · cases h
      · rename_i output hport
        cases h
        exact .inr (.inr ⟨b, definition, inputs, outputs, output, hb, hkind, hport, by rw [hid]⟩)
    · cases h

/-- The file behind an output port, which the setup writes if it holds text of the table. -/
def Supplied (c : Compilation) (written : List String) (row : Row) (source : PortRef)
    (file : String) : Prop :=
  ∃ origin, c.originOf row source = .ok origin ∧ origin.path = file ∧
    (origin.text.isSome = true → file ∈ written)

theorem Supplied.mono {c : Compilation} {written written' : List String} {row : Row}
    {source : PortRef} {file : String} (h : c.Supplied written row source file)
    (hsub : ∀ path ∈ written, path ∈ written') : c.Supplied written' row source file := by
  obtain ⟨origin, horigin, hpath, hwritten⟩ := h
  exact ⟨origin, horigin, hpath, fun htext => hsub _ (hwritten htext)⟩

/-- The files behind the inputs of a block, in the order of the inputs.  An input without a file is
not connected and need not be. -/
structure Fed (c : Compilation) (written : List String) (row : Row) (b : Block)
    (files : List (Option String)) : Prop where
  length_eq : files.length = b.inputs.length
  connected : ∀ i source, c.pipeline.feeder? (.input b.id i) = some source →
    ∃ file, files[i]? = some (some file) ∧ c.Supplied written row source file
  unconnected : ∀ i port, b.inputs[i]? = some port →
    c.pipeline.feeder? (.input b.id i) = none →
    files[i]? = some none ∧ port.parameter.required = false

theorem Fed.mono {c : Compilation} {written written' : List String} {row : Row} {b : Block}
    {files : List (Option String)} (h : c.Fed written row b files)
    (hsub : ∀ path ∈ written, path ∈ written') : c.Fed written' row b files where
  length_eq := h.length_eq
  connected := by
    intro i source hsource
    obtain ⟨file, hfile, hsupplied⟩ := h.connected i source hsource
    exact ⟨file, hfile, hsupplied.mono hsub⟩
  unconnected := h.unconnected

/-- A file behind the inputs of a block is behind a port that feeds the block. -/
theorem Fed.exists_source {c : Compilation} {written : List String} {row : Row} {b : Block}
    {files : List (Option String)} (h : c.Fed written row b files) {path : String}
    (hpath : path ∈ files.reduceOption) :
    ∃ i source, c.pipeline.feeder? (.input b.id i) = some source ∧
      c.Supplied written row source path := by
  obtain ⟨i, hi⟩ := List.getElem?_of_mem (List.reduceOption_mem_iff.1 hpath)
  have hlt : i < b.inputs.length := by
    rw [← h.length_eq]
    exact (List.getElem?_eq_some_iff.1 hi).1
  cases hsource : c.pipeline.feeder? (.input b.id i) with
  | none =>
    have hopen := (h.unconnected i _ (List.getElem?_eq_getElem hlt) hsource).1
    rw [hi] at hopen
    cases hopen
  | some source =>
    obtain ⟨file, hfile, hsupplied⟩ := h.connected i source hsource
    obtain rfl : path = file := by simpa [hi] using hfile
    exact ⟨i, source, hsource, hsupplied⟩

/-! ## The rule of a module -/

/-- What the slots of an input get, given the file behind the input. -/
def slotText (port : Port) : Option String → String
  | none => ""
  | some path => if port.parameter.isArg then "`cat " ++ path ++ "`" else path

/-- The files that a block makes for a row, in the order of its outputs. -/
def artifacts (c : Compilation) (row : Row) (b : Block) : List String :=
  b.outputs.mapIdx fun i port => c.artifact row b.id i port.format

/-- The ports of a block by name, with what their slots get. -/
def slotTexts (c : Compilation) (row : Row) (b : Block) (files : List (Option String)) :
    List (String × String) :=
  b.inputs.zipWith (fun port file => (port.parameter.name, slotText port file)) files
    ++ b.outputs.mapIdx fun i port => (port.parameter.name, c.artifact row b.id i port.format)

/-- The rule of a module block for a row, given the files behind its inputs.  It makes the files of
the outputs, it needs the files behind the inputs, each once, and the slots of its command are
filled. -/
inductive RuleOf (c : Compilation) (row : Row) (b : Block) (files : List (Option String)) :
    Rule → Prop
  | run {definition : ModuleDef} {command : String} (hdefinition : b.definition? = some definition)
      (hcommand : definition.template.fill
        (fun name => (c.slotTexts row b files).lookup name) = .ok command) :
      RuleOf c row b files
        (.run row.id b.id definition.name (c.artifacts row b) files.reduceOption.eraseDups command)

theorem inputValue_eq_ok {c : Compilation} {row : Row} {id : BlockId} {definition : ModuleDef}
    {port : Port} {v : SlotValue} (h : c.inputValue row id definition port = .ok v) :
    v.name = port.parameter.name ∧ v.text = slotText port (v.origin.map Origin.path) ∧
      (∀ source, c.pipeline.feeder? (.input id port.index) = some source →
        ∃ origin, v.origin = some origin ∧ c.originOf row source = .ok origin) ∧
      (c.pipeline.feeder? (.input id port.index) = none →
        v.origin = none ∧ port.parameter.required = false) := by
  rw [inputValue] at h
  split at h
  · rename_i source hsource
    split at h
    · cases h
    · rename_i origin horigin
      cases h
      refine ⟨rfl, rfl, fun source' hs => ?_, fun hnone => ?_⟩
      · obtain rfl := Option.some.inj (hsource.symm.trans hs)
        exact ⟨origin, rfl, horigin⟩
      · rw [hsource] at hnone
        cases hnone
  · rename_i hnone
    split at h
    · cases h
    · rename_i hoptional
      cases h
      refine ⟨rfl, rfl, fun source' hs => ?_, fun _ => ⟨rfl, by simpa using hoptional⟩⟩
      rw [hnone] at hs
      cases hs

theorem forall₂_getElem? {α β : Type} {R : α → β → Prop} {as : List α} {bs : List β}
    (h : List.Forall₂ R as bs) (i : Nat) (a : α) (ha : as[i]? = some a) :
    ∃ b, bs[i]? = some b ∧ R a b := by
  induction h generalizing i with
  | nil => cases ha
  | @cons a' b' as' bs' hr _ ih =>
    cases i with
    | zero =>
      obtain rfl : a' = a := by simpa using ha
      exact ⟨b', by simp, hr⟩
    | succ i => simpa using ih i (by simpa using ha)

theorem map_eq_mapIdx {β : Type} {ports : List Port} (f : Nat → Port → β)
    (h : ∀ i (port : Port), ports[i]? = some port → port.index = i) :
    ports.map (fun port : Port => f port.index port) = ports.mapIdx f := by
  refine List.ext_getElem? fun i => ?_
  rw [List.getElem?_map, List.getElem?_mapIdx]
  cases hi : ports[i]? with
  | none => rfl
  | some port => simp [h i port hi]

theorem map_slotValue_eq_zipWith {inputs : List Port} {given : List SlotValue}
    (h : List.Forall₂ (fun port v => v.name = port.parameter.name ∧
      v.text = slotText port (v.origin.map Origin.path)) inputs given) :
    given.map (fun v => (v.name, v.text)) =
      inputs.zipWith (fun port file => (port.parameter.name, slotText port file))
        (given.map fun v => v.origin.map Origin.path) := by
  induction h with
  | nil => rfl
  | cons hv _ ih => rw [List.map_cons, List.map_cons, List.zipWith_cons_cons, ih, hv.1, hv.2]

/-- A port has the number of its place. -/
theorem index_eq {p : Pipeline} (h : p.Consistent) (ht : p.toolbox.Built) {b : Block}
    (hb : p.block? b.id = some b) (side : Side) (i : Nat) (port : Port)
    (hport : (b.ports side)[i]? = some port) : port.index = i :=
  ((h.wellFormed ht).numbered ⟨b.id, side, i⟩ port (Pipeline.port?_eq_some_iff.2 ⟨b, hb, hport⟩)).1

variable {c : Compilation} {row : Row} {d d' : ScriptDraft}

/-- The slots of the values that a module is given are those of its ports. -/
theorem map_values_eq_slotTexts (h : c.pipeline.Consistent) (ht : c.pipeline.toolbox.Built)
    {b : Block} (hb : c.pipeline.block? b.id = some b) {definition : ModuleDef}
    {given : List SlotValue}
    (hvalues : List.Forall₂ (fun port v => c.inputValue row b.id definition port = .ok v)
      b.inputs given) :
    (given ++ b.outputs.map (c.outputValue row b.id)).map (fun v => (v.name, v.text)) =
      c.slotTexts row b (given.map fun v => v.origin.map Origin.path) := by
  have hgiven := map_slotValue_eq_zipWith <| hvalues.imp fun port v hv =>
    ⟨(inputValue_eq_ok hv).1, (inputValue_eq_ok hv).2.1⟩
  have hmade : (b.outputs.map (c.outputValue row b.id)).map (fun v => (v.name, v.text)) =
      b.outputs.mapIdx fun i port => (port.parameter.name, c.artifact row b.id i port.format) := by
    rw [List.map_map]
    exact map_eq_mapIdx (fun i port => (port.parameter.name, c.artifact row b.id i port.format))
      (index_eq h ht hb .output)
  rw [List.map_append, hgiven, hmade, slotTexts]

theorem map_values_eq_artifacts (h : c.pipeline.Consistent) (ht : c.pipeline.toolbox.Built)
    {b : Block} (hb : c.pipeline.block? b.id = some b) :
    (b.outputs.map (c.outputValue row b.id)).map (·.text) = c.artifacts row b := by
  rw [List.map_map, artifacts]
  exact map_eq_mapIdx (fun i port => c.artifact row b.id i port.format) (index_eq h ht hb .output)

/-- The values that a module is given hold the files behind its inputs. -/
theorem Fed.of_values (h : c.pipeline.Consistent) (ht : c.pipeline.toolbox.Built) {b : Block}
    (hb : c.pipeline.block? b.id = some b) {definition : ModuleDef} {given : List SlotValue}
    (hvalues : List.Forall₂ (fun port v => c.inputValue row b.id definition port = .ok v)
      b.inputs given) {written : List String}
    (hwritten : ∀ o ∈ given.filterMap (·.origin), ∀ text, o.text = some text → o.path ∈ written) :
    c.Fed written row b (given.map fun v => v.origin.map Origin.path) := by
  have hplace := index_eq h ht hb .input
  refine ⟨?_, ?_, ?_⟩
  · rw [List.length_map]
    exact hvalues.length_eq.symm
  · intro i source hsource
    obtain ⟨-, b', port, hb', hport⟩ := h.feeder_ends hsource
    obtain rfl : b = b' := Option.some.inj (hb.symm.trans hb')
    obtain ⟨v, hv, hvalue⟩ := forall₂_getElem? hvalues i port hport
    rw [← hplace i port hport] at hsource
    obtain ⟨origin, horigin, hfile⟩ := (inputValue_eq_ok hvalue).2.2.1 source hsource
    refine ⟨origin.path, ?_, origin, hfile, rfl, fun htext => ?_⟩
    · rw [List.getElem?_map, hv, Option.map_some, horigin, Option.map_some]
    · obtain ⟨text, ht⟩ := Option.isSome_iff_exists.1 htext
      exact hwritten origin (List.mem_filterMap.2 ⟨v, List.mem_of_getElem? hv, horigin⟩) text ht
  · intro i port hport hnone
    obtain ⟨v, hv, hvalue⟩ := forall₂_getElem? hvalues i port hport
    rw [← hplace i port hport] at hnone
    obtain ⟨horigin, hoptional⟩ := (inputValue_eq_ok hvalue).2.2.2 hnone
    refine ⟨?_, hoptional⟩
    rw [List.getElem?_map, hv, Option.map_some, horigin, Option.map_none]

/-- **Adding a module adds its rule, and has the setup write what goes into it.** -/
theorem addModule_spec (h : c.pipeline.Consistent) (ht : c.pipeline.toolbox.Built) {b : Block}
    {definition : ModuleDef} {inputs outputs : List Port} (hb : c.pipeline.block? b.id = some b)
    (hkind : b.kind = .module definition inputs outputs)
    (hd : c.addModule row d b.id definition inputs outputs = .ok d') :
    ∃ files rule noted, c.RuleOf row b files rule ∧ c.Fed d'.written row b files ∧
      Noted d noted ∧ d' = (noted.addRule rule).addIntermediates rule.targets := by
  have hinputs : b.inputs = inputs := by rw [Block.inputs, hkind]
  have houtputs : b.outputs = outputs := by rw [Block.outputs, hkind]
  have hdefinition : b.definition? = some definition := by rw [Block.definition?, hkind]
  rw [addModule] at hd
  split at hd
  · cases hd
  · rename_i given hgiven
    have hvalues := hinputs ▸ forall₂_of_mapM hgiven
    simp only at hd
    split at hd
    · cases hd
    · rename_i command hcommand
      cases hd
      obtain ⟨hnoted, hwritten⟩ := noted_addArguments d (given.filterMap (·.origin))
      have hfiles : (given.filterMap (·.origin)).map Origin.path =
          (given.map fun v => v.origin.map Origin.path).reduceOption := by
        rw [List.map_filterMap, List.reduceOption, List.filterMap_map]
        rfl
      rw [← houtputs, map_values_eq_slotTexts h ht hb hvalues] at hcommand
      refine ⟨_, _, _, RuleOf.run hdefinition hcommand, Fed.of_values h ht hb hvalues hwritten,
        hnoted, ?_⟩
      rw [← houtputs, map_values_eq_artifacts h ht hb, hfiles]
      rfl

theorem RuleOf.task?_eq {b : Block} {files : List (Option String)} {rule : Rule}
    (h : c.RuleOf row b files rule) : rule.task? = some (row.id, b.id) := by
  cases h
  rfl

/-- A rule runs the module of a block for a row, on the files behind the inputs of the block. -/
def Runs (c : Compilation) (written : List String) (row : Row) (id : BlockId) (rule : Rule) :
    Prop :=
  ∃ b files, c.pipeline.block? id = some b ∧ c.RuleOf row b files rule ∧
    c.Fed written row b files

theorem Runs.task?_eq {written : List String} {id : BlockId} {rule : Rule}
    (h : c.Runs written row id rule) : rule.task? = some (row.id, id) := by
  obtain ⟨b, files, hb, hrule, -⟩ := h
  rw [hrule.task?_eq, Pipeline.block?_id hb]

theorem Runs.mono {written written' : List String} {id : BlockId} {rule : Rule}
    (h : c.Runs written row id rule) (hsub : ∀ path ∈ written, path ∈ written') :
    c.Runs written' row id rule := by
  obtain ⟨b, files, hb, hrule, hfed⟩ := h
  exact ⟨b, files, hb, hrule, hfed.mono hsub⟩

/-- A draft with the rules of some modules for a row in addition. -/
structure Gained (c : Compilation) (row : Row) (d : ScriptDraft) (ids : List BlockId)
    (rules : List Rule) (d' : ScriptDraft) : Prop where
  rules_eq : d'.rules = d.rules ++ rules
  runs : List.Forall₂ (c.Runs d'.written row) ids rules
  targets : d'.targets = d.targets
  written : ∀ path ∈ d.written, path ∈ d'.written
  tidy : d.Tidy → d'.Tidy

theorem Gained.nil (c : Compilation) (row : Row) (d : ScriptDraft) : c.Gained row d [] [] d :=
  ⟨(List.append_nil _).symm, .nil, rfl, fun _ => id, id⟩

theorem Gained.cons {d₁ d₂ d₃ : ScriptDraft} {id : BlockId} {ids : List BlockId} {rule : Rule}
    {rules : List Rule} (h₁ : c.Gained row d₁ [id] [rule] d₂) (h₂ : c.Gained row d₂ ids rules d₃) :
    c.Gained row d₁ (id :: ids) (rule :: rules) d₃ where
  rules_eq := by rw [h₂.rules_eq, h₁.rules_eq, List.append_assoc, List.singleton_append]
  runs := by
    cases h₁.runs with
    | cons hrun _ => exact .cons (hrun.mono h₂.written) h₂.runs
  targets := h₂.targets.trans h₁.targets
  written := fun path hpath => h₂.written path (h₁.written path hpath)
  tidy := fun h => h₂.tidy (h₁.tidy h)

theorem Gained.exists_of_mem {ids : List BlockId} {rules : List Rule}
    (h : c.Gained row d ids rules d') {rule : Rule} (hrule : rule ∈ rules) :
    ∃ id ∈ ids, c.Runs d'.written row id rule := by
  obtain ⟨i, hi⟩ := List.getElem?_of_mem hrule
  have hflip : List.Forall₂ (fun rule id => c.Runs d'.written row id rule) rules ids := h.runs.flip
  obtain ⟨id, hid, hrun⟩ := forall₂_getElem? hflip i rule hi
  exact ⟨id, List.mem_of_getElem? hid, hrun⟩

theorem follow_enter (h : c.pipeline.Consistent) (ht : c.pipeline.toolbox.Built) {id : BlockId}
    (hid : c.pipeline.IsModule id) (hd : c.follow row d (.enter id) = .ok d') :
    ∃ rule, c.Gained row d [id] [rule] d' := by
  obtain ⟨b, hb, hm⟩ := hid
  obtain rfl := Pipeline.block?_id hb
  obtain ⟨id, position, kind⟩ := b
  cases kind with
  | source => cases hm
  | sink => cases hm
  | module definition inputs outputs =>
    rw [follow] at hd
    simp only at hb
    simp only [hb] at hd
    obtain ⟨files, rule, noted, hrule, hfed, hnoted, rfl⟩ :=
      addModule_spec (b := ⟨id, position, .module definition inputs outputs⟩) h ht hb rfl hd
    have hrun : rule.task?.isSome = true := by rw [hrule.task?_eq]; rfl
    refine ⟨rule, ?_, .cons ⟨_, files, hb, hrule, hfed⟩ .nil, ?_, ?_, ?_⟩
    · exact congrArg (· ++ [rule]) hnoted.rules
    · exact hnoted.targets
    · exact hnoted.written
    · exact fun htidy => (htidy.noted hnoted).addRun hrun

/-- **A walk without loops adds one rule for each module that it enters.** -/
theorem foldlM_follow (h : c.pipeline.Consistent) (ht : c.pipeline.toolbox.Built)
    {ids : List BlockId} (hids : ∀ id ∈ ids, c.pipeline.IsModule id)
    (hd : (ids.map Visit.enter).foldlM (c.follow row) d = .ok d') :
    ∃ rules, c.Gained row d ids rules d' := by
  induction ids generalizing d with
  | nil =>
    cases hd
    exact ⟨[], .nil c row _⟩
  | cons id rest ih =>
    rw [List.map_cons, List.foldlM_cons, bind_eq_ok_iff] at hd
    obtain ⟨d₁, hone, hrest⟩ := hd
    obtain ⟨rule, hgained⟩ := follow_enter h ht (hids id List.mem_cons_self) hone
    obtain ⟨rules, hmore⟩ := ih (fun a ha => hids a (List.mem_cons_of_mem _ ha)) hrest
    exact ⟨rule :: rules, hgained.cons hmore⟩

/-- A walk that is followed to its end has met no loop. -/
theorem loop_not_mem_of_follow {visits : List Visit}
    (hd : visits.foldlM (c.follow row) d = .ok d') (id : BlockId) : .loop id ∉ visits := by
  induction visits generalizing d with
  | nil => simp
  | cons visit rest ih =>
    rw [List.foldlM_cons, bind_eq_ok_iff] at hd
    obtain ⟨d₁, hone, hrest⟩ := hd
    rw [List.mem_cons, not_or]
    refine ⟨?_, ih hrest⟩
    rintro rfl
    cases hone

end Compilation

end Flowscript
