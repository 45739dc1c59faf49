import Flowscript.Proofs.Script.Closure
import Flowscript.Proofs.Script.Layout

/-!
# Rows that are compiled apart

The rows of a table are compiled one after the other into one draft, and the lists of files in the
draft are looked at when more is added to them.  What is found there can only be of the row itself:
a file between source and result lies in the directory of its row, and a target is that of another
row only if a cell of each names the same file.  So a table can be cut in two, and the two scripts
put together are the script of the whole.

* `Compilation.Owns` and `Compilation.Names` are the files that a row may add to a draft.
* `Compilation.Covers` lists the single things that a row does to a draft, and
  `Compilation.Covers.addRow` puts them together.
* `Compilation.Grown` says that a draft has grown by such files, and `Compilation.Foreign` that a
  draft has none of them.
* `Compilation.Offers` are the files that sources of text have, and `Compilation.offered_draft` says
  that the setup writes no others.
* `Compilation.addRow_append` is the step: in front of what a row adds there may be a foreign draft.
* `Pipeline.compile_append` compiles a table in two parts.
-/

set_option autoImplicit false

namespace Flowscript

/-! ## Putting together -/

/-- The rows of a table, followed by those of another one with the same columns. -/
def Table.append (first second : Table) : Table := ⟨first.headers, first.rows ++ second.rows⟩

/-- The parts of a draft, each followed by that of another draft. -/
def ScriptDraft.append (first second : ScriptDraft) : ScriptDraft :=
  ⟨first.rules ++ second.rules, first.targets ++ second.targets,
    first.intermediates ++ second.intermediates, first.arguments ++ second.arguments⟩

/-- The rows, rules and files of a script, each followed by those of another one for the same
output root. -/
def BuildScript.append (first second : BuildScript) : BuildScript :=
  { first with
    rows := first.rows ++ second.rows
    rules := first.rules ++ second.rules
    targets := first.targets ++ second.targets
    intermediates := first.intermediates ++ second.intermediates
    arguments := first.arguments ++ second.arguments }

/-- A fold commutes with a map of states that its steps commute with. -/
theorem foldlM_map_comm {ε α σ τ : Type} {f : σ → α → Except ε σ} {g : τ → α → Except ε τ}
    {k : σ → τ} {as : List α} (h : ∀ s, ∀ a ∈ as, g (k s) a = (f s a).map k) :
    ∀ s, as.foldlM g (k s) = (as.foldlM f s).map k := by
  induction as with
  | nil => exact fun _ => rfl
  | cons a rest ih =>
    intro s
    rw [List.foldlM_cons, List.foldlM_cons, h s a List.mem_cons_self]
    cases f s a with
    | error e => rfl
    | ok s' => exact ih (fun s a ha => h s a (List.mem_cons_of_mem _ ha)) s'

/-- What every step of a fold does to its state is done by the fold, if doing nothing and doing one
after the other are of the kind. -/
theorem rel_of_foldlM {ε α σ : Type} {R : σ → σ → Prop} (hrefl : ∀ s, R s s)
    (htrans : ∀ s s' s'', R s s' → R s' s'' → R s s'') {f : σ → α → Except ε σ} {as : List α}
    (h : ∀ s s', ∀ a ∈ as, f s a = .ok s' → R s s') :
    ∀ {s s'}, as.foldlM f s = .ok s' → R s s' := by
  induction as with
  | nil =>
    intro s s' hs
    cases hs
    exact hrefl s
  | cons a rest ih =>
    intro s s' hs
    rw [List.foldlM_cons, bind_eq_ok_iff] at hs
    obtain ⟨s₁, hone, hrest⟩ := hs
    exact htrans s s₁ s' (h s s₁ a List.mem_cons_self hone)
      (ih (fun s s' a ha => h s s' a (List.mem_cons_of_mem _ ha)) hrest)

/-- What every step of a fold keeps is kept by the fold. -/
theorem keeps_of_foldlM {ε α σ : Type} {P : σ → Prop} {f : σ → α → Except ε σ} {as : List α}
    (h : ∀ s s', ∀ a ∈ as, f s a = .ok s' → P s → P s') {s s' : σ}
    (hs : as.foldlM f s = .ok s') : P s → P s' :=
  rel_of_foldlM (R := fun s s' => P s → P s') (fun _ => id)
    (fun _ _ _ hfirst hsecond hp => hsecond (hfirst hp)) h hs

namespace ScriptDraft

theorem append_empty (d : ScriptDraft) : d.append .empty = d := by
  simp [append, empty]

theorem written_append (d d' : ScriptDraft) : (d.append d').written = d.written ++ d'.written :=
  List.map_append

theorem addRule_append (pre d : ScriptDraft) (r : Rule) :
    (pre.append d).addRule r = pre.append (d.addRule r) := by
  simp [append, addRule]

theorem foldl_insertName_append {names more paths : List String}
    (h : ∀ path ∈ paths, path ∉ names) :
    paths.foldl insertName (names ++ more) = names ++ paths.foldl insertName more := by
  induction paths generalizing more with
  | nil => rfl
  | cons path rest ih =>
    have hone : insertName (names ++ more) path = names ++ insertName more path := by
      have hnew := h path List.mem_cons_self
      by_cases hmem : path ∈ more
      · simp [insertName, hmem]
      · simp [insertName, hmem, hnew]
    rw [List.foldl_cons, List.foldl_cons, hone]
    exact ih fun other hother => h other (List.mem_cons_of_mem _ hother)

theorem addIntermediates_append {pre : ScriptDraft} {paths : List String}
    (h : ∀ path ∈ paths, path ∉ pre.intermediates) (d : ScriptDraft) :
    (pre.append d).addIntermediates paths = pre.append (d.addIntermediates paths) := by
  simp only [append, addIntermediates, foldl_insertName_append h]

theorem addArgument_append {pre : ScriptDraft} {argument : String × String}
    (h : argument.1 ∉ pre.written) (d : ScriptDraft) :
    (pre.append d).addArgument argument = pre.append (d.addArgument argument) := by
  have hcontains : (pre.append d).written.contains argument.1 = d.written.contains argument.1 := by
    rw [written_append, List.contains_append]
    simp [h]
  rw [written, written] at hcontains
  rw [addArgument, addArgument, hcontains]
  split
  · rfl
  · simp [append]

end ScriptDraft

namespace Compilation

/-! ## The files of a row -/

/-- A path in the directory of a row, in the form of an artifact. -/
def Owns (c : Compilation) (row : Row) (path : String) : Prop :=
  ∃ block index format, path = c.artifact row block index format

/-- A cell of the row names the file of a sink, and this is the target that the sink gets. -/
def Names (c : Compilation) (row : Row) (target : String) : Prop :=
  ∃ sink ∈ c.pipeline.sinks, ∃ column input file, sink.kind = .sink column input ∧
    c.fileCell row column = .ok file ∧ target = sinkTarget file

/-- Rows with different names have no file in common. -/
theorem Owns.id_eq {c : Compilation} {row other : Row} {path : String} (h : c.Owns row path)
    (h' : c.Owns other path) (hrow : '/' ∉ row.id.toList) (hother : '/' ∉ other.id.toList) :
    row.id = other.id := by
  obtain ⟨block, index, format, rfl⟩ := h
  obtain ⟨block', index', format', heq⟩ := h'
  exact (Layout.artifact_inj_block hrow hother heq).1

variable {c : Compilation} {row : Row} {d d' d'' pre : ScriptDraft}

theorem owns_artifact (c : Compilation) (row : Row) (block : BlockId) (index : Nat)
    (format : String) : c.Owns row (c.artifact row block index format) :=
  ⟨block, index, format, rfl⟩

/-- The setup writes files of the row only. -/
theorem owns_of_originOf {ref : PortRef} {origin : Origin} (h : c.originOf row ref = .ok origin)
    (htext : origin.text.isSome = true) : c.Owns row origin.path := by
  rcases originOf_cases h with ⟨-, -, -, -, -, -, -, hnone⟩ | ⟨-, -, output, -, -, -, hpath, -⟩ |
    ⟨-, -, -, -, _, -, -, -, hmade⟩
  · rw [hnone] at htext
    cases htext
  · rw [hpath]
    exact owns_artifact c row _ _ _
  · rw [hmade] at htext
    cases htext

/-- The files behind the slots of a module are those behind ports. -/
theorem exists_originOf_of_given {id : BlockId} {definition : ModuleDef} {inputs : List Port}
    {given : List SlotValue} (h : inputs.mapM (c.inputValue row id definition) = .ok given)
    {origin : Origin} (horigin : origin ∈ given.filterMap (·.origin)) :
    ∃ ref, c.originOf row ref = .ok origin := by
  obtain ⟨v, hv, hvorigin⟩ := List.mem_filterMap.1 horigin
  obtain ⟨i, hi⟩ := List.getElem?_of_mem hv
  have hflip : List.Forall₂ (fun v port => c.inputValue row id definition port = .ok v)
    given inputs := (forall₂_of_mapM h).flip
  obtain ⟨port, -, hvalue⟩ := forall₂_getElem? hflip i v hi
  obtain ⟨-, -, hconnected, hopen⟩ := inputValue_eq_ok hvalue
  cases hsource : c.pipeline.feeder? (.input id port.index) with
  | none =>
    rw [(hopen hsource).1] at hvorigin
    cases hvorigin
  | some source =>
    obtain ⟨origin', horigin', hfile⟩ := hconnected source hsource
    obtain rfl := Option.some.inj (hvorigin.symm.trans horigin')
    exact ⟨source, hfile⟩

theorem owns_of_given {id : BlockId} {definition : ModuleDef} {inputs : List Port}
    {given : List SlotValue} (h : inputs.mapM (c.inputValue row id definition) = .ok given)
    {origin : Origin} (horigin : origin ∈ given.filterMap (·.origin))
    (htext : origin.text.isSome = true) : c.Owns row origin.path := by
  obtain ⟨ref, hfile⟩ := exists_originOf_of_given h horigin
  exact owns_of_originOf hfile htext

theorem owns_of_made {id : BlockId} {outputs : List Port} {path : String}
    (h : path ∈ (outputs.map (c.outputValue row id)).map (·.text)) : c.Owns row path := by
  rw [List.map_map] at h
  obtain ⟨port, -, rfl⟩ := List.mem_map.1 h
  exact owns_artifact c row id port.index port.format

/-! ## What rows add -/

/-- A relation between drafts that holds of each single thing that a row does to a draft. -/
structure Covers (c : Compilation) (row : Row) (R : ScriptDraft → ScriptDraft → Prop) : Prop where
  refl : ∀ d, R d d
  trans : ∀ d d' d'', R d d' → R d' d'' → R d d''
  rule : ∀ d rule, R d (d.addRule rule)
  argument : ∀ d ref origin text, c.originOf row ref = .ok origin → origin.text = some text →
    R d (d.addArgument (origin.path, text))
  intermediates : ∀ d id (outputs : List Port),
    R d (d.addIntermediates ((outputs.map (c.outputValue row id)).map (·.text)))
  target : ∀ (d : ScriptDraft) target, c.Names row target →
    R d { d with targets := d.targets ++ [target] }

variable {R : ScriptDraft → ScriptDraft → Prop} {rows : List Row}

theorem Covers.addArguments (h : c.Covers row R) {origins : List Origin}
    (horigins : ∀ origin ∈ origins, ∃ ref, c.originOf row ref = .ok origin) (d : ScriptDraft) :
    R d (addArguments d origins) := by
  induction origins generalizing d with
  | nil => exact h.refl d
  | cons origin rest ih =>
    rw [Compilation.addArguments, List.foldl_cons]
    have hrest := ih fun other hother => horigins other (List.mem_cons_of_mem _ hother)
    cases htext : origin.text with
    | none => exact hrest d
    | some text =>
      obtain ⟨ref, horigin⟩ := horigins origin List.mem_cons_self
      exact h.trans _ _ _ (h.argument d ref origin text horigin htext) (hrest _)

theorem Covers.addModule (h : c.Covers row R) {id : BlockId} {definition : ModuleDef}
    {inputs outputs : List Port} (hd : c.addModule row d id definition inputs outputs = .ok d') :
    R d d' := by
  rw [Compilation.addModule] at hd
  split at hd
  · cases hd
  · rename_i given hgiven
    simp only at hd
    split at hd
    · cases hd
    · cases hd
      have hnoted := h.addArguments (fun origin => exists_originOf_of_given hgiven) d
      exact h.trans _ _ _ (h.trans _ _ _ hnoted (h.rule _ _)) (h.intermediates _ id outputs)

theorem Covers.follow (h : c.Covers row R) {visit : Visit} (hd : c.follow row d visit = .ok d') :
    R d d' := by
  cases visit with
  | loop id => cases hd
  | enter id =>
    rw [Compilation.follow] at hd
    split at hd
    · exact h.addModule hd
    · cases hd
      exact h.refl d

theorem Covers.addSink (h : c.Covers row R) {sink : Block} (hsink : sink ∈ c.pipeline.sinks)
    {state state' : ScriptDraft × List BlockId} (hd : c.addSink row state sink = .ok state') :
    R state.1 state'.1 := by
  rw [Compilation.addSink] at hd
  split at hd
  · rename_i column input hkind
    split at hd
    · cases hd
    · rename_i source _
      obtain ⟨file, hfile, hd⟩ := bind_eq_ok_iff.1 hd
      obtain ⟨origin, horigin, hd⟩ := bind_eq_ok_iff.1 hd
      have hnoted : R state.1 (Compilation.addArguments state.1 [origin]) := by
        refine h.addArguments (fun other hother => ⟨source, ?_⟩) state.1
        rw [List.mem_singleton.1 hother]
        exact horigin
      simp only at hd
      split at hd
      · cases hd
        exact hnoted
      · obtain ⟨d, hwalk, hd⟩ := bind_eq_ok_iff.1 hd
        cases hd
        have hcopy : R (Compilation.addArguments state.1 [origin])
            (withCopy (Compilation.addArguments state.1 [origin]) (sinkTarget file) origin.path) :=
          h.trans _ _ _ (h.rule _ _)
            (h.target _ _ ⟨sink, hsink, column, input, file, hkind, hfile, rfl⟩)
        have hwalked := rel_of_foldlM (R := R) h.refl h.trans (fun _ _ _ _ hone => h.follow hone)
          hwalk
        exact h.trans _ _ _ (h.trans _ _ _ hnoted hcopy) hwalked
  · cases hd
    exact h.refl state.1

/-- **What each single thing does, a row does.** -/
theorem Covers.addRow (h : c.Covers row R) (hd : c.addRow d row = .ok d') : R d d' := by
  rw [Compilation.addRow, bind_eq_ok_iff] at hd
  obtain ⟨⟨d₁, seen⟩, hsinks, hd⟩ := hd
  cases hd
  refine h.trans _ _ _ (h.rule d _) (rel_of_foldlM
    (R := fun state state' : ScriptDraft × List BlockId => R state.1 state'.1)
    (fun state => h.refl state.1) (fun _ _ _ => h.trans _ _ _)
    (fun _ _ sink hsink hone => ?_) hsinks)
  exact h.addSink (List.mem_mergeSort.1 hsink) hone

/-! ## Whose files are added -/

/-- What is new in a draft are files of some rows. -/
structure Grown (c : Compilation) (rows : List Row) (d d' : ScriptDraft) : Prop where
  targets : ∀ target ∈ d'.targets, target ∈ d.targets ∨ ∃ row ∈ rows, c.Names row target
  intermediates : ∀ path ∈ d'.intermediates, path ∈ d.intermediates ∨ ∃ row ∈ rows, c.Owns row path
  written : ∀ path ∈ d'.written, path ∈ d.written ∨ ∃ row ∈ rows, c.Owns row path

theorem Grown.refl (c : Compilation) (rows : List Row) (d : ScriptDraft) : c.Grown rows d d :=
  ⟨fun _ => .inl, fun _ => .inl, fun _ => .inl⟩

theorem Grown.trans (h : c.Grown rows d d') (h' : c.Grown rows d' d'') : c.Grown rows d d'' where
  targets := fun target htarget => (h'.targets target htarget).elim (h.targets target) .inr
  intermediates := fun path hpath => (h'.intermediates path hpath).elim (h.intermediates path) .inr
  written := fun path hpath => (h'.written path hpath).elim (h.written path) .inr

theorem grown_addArgument (hrow : row ∈ rows) {argument : String × String}
    (h : c.Owns row argument.1) (d : ScriptDraft) : c.Grown rows d (d.addArgument argument) := by
  rw [ScriptDraft.addArgument]
  split
  · exact .refl c rows d
  · refine ⟨fun _ => .inl, fun _ => .inl, fun path hpath => ?_⟩
    rw [ScriptDraft.written, List.map_append, List.mem_append] at hpath
    refine hpath.imp_right fun hnew => ⟨row, hrow, ?_⟩
    rw [List.map_singleton, List.mem_singleton] at hnew
    exact hnew ▸ h

/-- **A row adds files of its own.** -/
theorem covers_grown (hrow : row ∈ rows) : c.Covers row (c.Grown rows) where
  refl := .refl c rows
  trans := fun _ _ _ => .trans
  rule := fun _ _ => ⟨fun _ => .inl, fun _ => .inl, fun _ => .inl⟩
  argument := by
    intro d ref origin text horigin htext
    exact grown_addArgument hrow (owns_of_originOf horigin (by rw [htext]; rfl)) d
  intermediates := by
    intro d id outputs
    refine ⟨fun _ => .inl, fun path hpath => ?_, fun _ => .inl⟩
    refine (ScriptDraft.mem_foldl_insertName.1 hpath).imp_right fun hnew => ?_
    exact ⟨row, hrow, owns_of_made hnew⟩
  target := by
    intro d target hnames
    refine ⟨fun other hother => ?_, fun _ => .inl, fun _ => .inl⟩
    refine (List.mem_append.1 hother).imp_right fun hnew => ⟨row, hrow, ?_⟩
    rwa [List.mem_singleton.1 hnew]

/-- The files in a draft are those of the rows. -/
theorem grown_draft (hd : c.draft = .ok d) : c.Grown c.table.rows .empty d :=
  rel_of_foldlM (R := c.Grown c.table.rows) (.refl c c.table.rows) (fun _ _ _ => .trans)
    (fun _ _ _ hrow hone => (covers_grown hrow).addRow hone) hd

/-! ## What the setup writes -/

/-- A source of text has a file for a row, and the text of it is the cell of the row that the source
is bound to. -/
def Offers (c : Compilation) (row : Row) (argument : String × String) : Prop :=
  ∃ b ∈ c.pipeline.blocks, ∃ column output, b.kind = .source column output ∧
    output.parameter.isArg = true ∧ argument.1 = c.artifact row b.id 0 output.format ∧
    c.cell row column = .ok argument.2

/-- The setup of a draft writes such files only. -/
def Offered (c : Compilation) (rows : List Row) (d : ScriptDraft) : Prop :=
  ∀ argument ∈ d.arguments, ∃ row ∈ rows, c.Offers row argument

theorem offers_of_originOf {ref : PortRef} {origin : Origin} (h : c.originOf row ref = .ok origin)
    {text : String} (htext : origin.text = some text) : c.Offers row (origin.path, text) := by
  rw [originOf] at h
  split at h
  · cases h
  · rename_i b hb
    split at h
    · rename_i column output hkind
      split at h
      · rename_i harg
        split at h
        · cases h
        · rename_i hcell
          cases h
          cases htext
          exact ⟨b, List.mem_of_find?_eq_some hb, column, output, hkind, harg, rfl, hcell⟩
      · split at h <;> cases h
        cases htext
    · split at h <;> cases h
      cases htext
    · cases h

/-- A row has the setup write the texts of sources. -/
theorem covers_offered (hrow : row ∈ rows) :
    c.Covers row fun d d' => c.Offered rows d → c.Offered rows d' where
  refl := fun _ => id
  trans := fun _ _ _ hfirst hsecond h => hsecond (hfirst h)
  rule := fun _ _ => id
  argument := by
    intro d ref origin text horigin htext h argument hargument
    simp only [ScriptDraft.addArgument] at hargument
    split at hargument
    · exact h argument hargument
    · rcases List.mem_append.1 hargument with hold | hnew
      · exact h argument hold
      · rw [List.mem_singleton.1 hnew]
        exact ⟨row, hrow, offers_of_originOf horigin htext⟩
  intermediates := fun _ _ _ => id
  target := fun _ _ _ => id

/-- **The setup writes the texts of sources**, and no others. -/
theorem offered_draft (hd : c.draft = .ok d) : c.Offered c.table.rows d :=
  keeps_of_foldlM (P := c.Offered c.table.rows)
    (fun _ _ _ hrow hone => (covers_offered hrow).addRow hone) hd
    fun argument hargument => by cases hargument

/-- The arguments of a compiled script are those of its draft. -/
theorem offered_compile {options : ScriptOptions} {p : Pipeline} {table : Table}
    {directory outputRoot : String} {s : BuildScript}
    (hs : compile options p table directory outputRoot = .ok s) :
    ∀ argument ∈ s.arguments, ∃ row ∈ table.rows, (Compilation.mk p table).Offers row argument := by
  obtain ⟨d, root, hd, -, rfl⟩ := exists_of_compile hs
  exact offered_draft hd

/-! ## What stands before -/

/-- A draft holds no file of a row. -/
structure Foreign (c : Compilation) (row : Row) (pre : ScriptDraft) : Prop where
  targets : ∀ target, c.Names row target → target ∉ pre.targets
  intermediates : ∀ path, c.Owns row path → path ∉ pre.intermediates
  written : ∀ path, c.Owns row path → path ∉ pre.written

theorem addArguments_append (hpre : c.Foreign row pre) {origins : List Origin}
    (h : ∀ origin ∈ origins, origin.text.isSome = true → c.Owns row origin.path) (d : ScriptDraft) :
    addArguments (pre.append d) origins = pre.append (addArguments d origins) := by
  induction origins generalizing d with
  | nil => rfl
  | cons origin rest ih =>
    rw [addArguments, addArguments, List.foldl_cons, List.foldl_cons]
    have hrest := ih fun other hother => h other (List.mem_cons_of_mem _ hother)
    cases htext : origin.text with
    | none => exact hrest d
    | some text =>
      have howns : c.Owns row origin.path := h origin List.mem_cons_self (by rw [htext]; rfl)
      simp only
      rw [ScriptDraft.addArgument_append (hpre.written _ howns)]
      exact hrest _

theorem addModule_append (hpre : c.Foreign row pre) (d : ScriptDraft) (id : BlockId)
    (definition : ModuleDef) (inputs outputs : List Port) :
    c.addModule row (pre.append d) id definition inputs outputs =
      (c.addModule row d id definition inputs outputs).map pre.append := by
  rw [addModule, addModule]
  cases hgiven : inputs.mapM (c.inputValue row id definition) with
  | error e => rfl
  | ok given =>
    simp only
    split
    · rfl
    · rw [addArguments_append hpre (fun origin => owns_of_given hgiven), ScriptDraft.addRule_append,
        ScriptDraft.addIntermediates_append fun path hpath =>
          hpre.intermediates path (owns_of_made hpath)]
      rfl

theorem follow_append (hpre : c.Foreign row pre) (d : ScriptDraft) (visit : Visit) :
    c.follow row (pre.append d) visit = (c.follow row d visit).map pre.append := by
  cases visit with
  | loop id => rfl
  | enter id =>
    rw [follow, follow]
    split
    · exact addModule_append hpre d _ _ _ _
    · rfl

theorem withCopy_append (pre d : ScriptDraft) (target path : String) :
    withCopy (pre.append d) target path = pre.append (withCopy d target path) := by
  simp [withCopy, ScriptDraft.addRule, ScriptDraft.append]

/-- A turn whose cells are in order. -/
theorem addSink_of_ok {sink : Block} {column : String} {input : Port}
    (hkind : sink.kind = .sink column input) {source : PortRef}
    (hsource : c.pipeline.feeder? (.input sink.id 0) = some source) {file : String}
    (hfile : c.fileCell row column = .ok file) {origin : Origin}
    (horigin : c.originOf row source = .ok origin) (state : ScriptDraft × List BlockId) :
    c.addSink row state sink =
      if sinkTarget file ∈ (addArguments state.1 [origin]).targets then
        .ok (addArguments state.1 [origin], state.2)
      else
        ((c.pipeline.walk [] state.2 source.block).1.foldlM (c.follow row)
          (withCopy (addArguments state.1 [origin]) (sinkTarget file) origin.path)).map
            fun d => (d, (c.pipeline.walk [] state.2 source.block).2) := by
  rw [addSink]
  simp only [hkind, hsource, hfile, horigin, bind, Except.bind, List.contains_iff_mem]
  split
  · rfl
  · rw [withCopy]
    cases (c.pipeline.walk [] state.2 source.block).1.foldlM (c.follow row) _ <;> rfl

/-- A turn does the same after a foreign draft. -/
theorem addSink_append (hpre : c.Foreign row pre) {sink : Block} (hsink : sink ∈ c.pipeline.sinks)
    (state : ScriptDraft × List BlockId) :
    c.addSink row (pre.append state.1, state.2) sink =
      (c.addSink row state sink).map fun state => (pre.append state.1, state.2) := by
  obtain ⟨column, input, hkind⟩ := Block.exists_kind_of_isSink (List.mem_filter.1 hsink).2
  cases hsource : c.pipeline.feeder? (.input sink.id 0) with
  | none =>
    rw [addSink, addSink]
    simp only [hkind, hsource]
    rfl
  | some source =>
    cases hfile : c.fileCell row column with
    | error e =>
      rw [addSink, addSink]
      simp only [hkind, hsource, hfile]
      rfl
    | ok file =>
      cases horigin : c.originOf row source with
      | error e =>
        rw [addSink, addSink]
        simp only [hkind, hsource, hfile, horigin]
        rfl
      | ok origin =>
        have howns : ∀ other ∈ [origin], other.text.isSome = true → c.Owns row other.path := by
          intro other hother htext
          obtain rfl := List.mem_singleton.1 hother
          exact owns_of_originOf horigin htext
        have hnew : sinkTarget file ∉ pre.targets :=
          hpre.targets _ ⟨sink, hsink, column, input, file, hkind, hfile, rfl⟩
        have hmem : sinkTarget file ∈ (pre.append (addArguments state.1 [origin])).targets ↔
            sinkTarget file ∈ (addArguments state.1 [origin]).targets := by
          rw [ScriptDraft.append, List.mem_append, or_iff_right hnew]
        rw [addSink_of_ok hkind hsource hfile horigin, addSink_of_ok hkind hsource hfile horigin]
        simp only [addArguments_append hpre howns, hmem]
        split
        · rfl
        · rw [withCopy_append, foldlM_map_comm fun d visit _ => follow_append hpre d visit]
          cases (c.pipeline.walk [] state.2 source.block).1.foldlM (c.follow row) _ <;> rfl

/-- **A row adds the same to a draft after a foreign one.** -/
theorem addRow_append (hpre : c.Foreign row pre) (d : ScriptDraft) :
    c.addRow (pre.append d) row = (c.addRow d row).map pre.append := by
  have hstep : ∀ state, ∀ sink ∈ c.sortedSinks,
      c.addSink row (pre.append state.1, state.2) sink =
        (c.addSink row state sink).map fun state => (pre.append state.1, state.2) :=
    fun state sink hsink => addSink_append hpre (List.mem_mergeSort.1 hsink) state
  have hsinks := foldlM_map_comm hstep
  rw [addRow, addRow, ScriptDraft.addRule_append, hsinks (d.addRule (.directory row.id), [])]
  cases c.sortedSinks.foldlM (c.addSink row) (d.addRule (.directory row.id), []) <;> rfl

/-- Rows that have no file in common are foreign to each other. -/
theorem Grown.foreign (h : c.Grown rows .empty d) (hrows : ∀ other ∈ rows, '/' ∉ other.id.toList)
    (hrow : '/' ∉ row.id.toList) (hids : ∀ other ∈ rows, other.id ≠ row.id)
    (htargets : ∀ other ∈ rows, ∀ target, c.Names other target → ¬c.Names row target) :
    c.Foreign row d where
  targets := by
    intro target hnames hmem
    obtain ⟨other, hother, hnames'⟩ := (h.targets target hmem).resolve_left List.not_mem_nil
    exact htargets other hother target hnames' hnames
  intermediates := by
    intro path howns hmem
    obtain ⟨other, hother, howns'⟩ := (h.intermediates path hmem).resolve_left List.not_mem_nil
    exact hids other hother (howns'.id_eq howns (hrows other hother) hrow)
  written := by
    intro path howns hmem
    obtain ⟨other, hother, howns'⟩ := (h.written path hmem).resolve_left List.not_mem_nil
    exact hids other hother (howns'.id_eq howns (hrows other hother) hrow)

/-- **Rows after a draft that is foreign to them all.** -/
theorem foldlM_addRow_append (hpre : ∀ row ∈ rows, c.Foreign row pre) :
    rows.foldlM c.addRow pre = (rows.foldlM c.addRow .empty).map pre.append := by
  have hall := foldlM_map_comm (k := pre.append) (f := c.addRow) (g := c.addRow)
    (fun d row hrow => addRow_append (hpre row hrow) d) .empty
  rw [ScriptDraft.append_empty] at hall
  exact hall

/-- Of the table, only its columns bear on what a row adds. -/
theorem addRow_congr {p : Pipeline} {table table' : Table} (h : table.headers = table'.headers) :
    (Compilation.mk p table).addRow = (Compilation.mk p table').addRow := by
  obtain ⟨headers, rows⟩ := table
  obtain ⟨headers', rows'⟩ := table'
  cases h
  rfl

theorem names_congr {p : Pipeline} {table table' : Table} (h : table.headers = table'.headers)
    {target : String} :
    (Compilation.mk p table).Names row target ↔ (Compilation.mk p table').Names row target := by
  obtain ⟨headers, rows⟩ := table
  obtain ⟨headers', rows'⟩ := table'
  cases h
  rfl

/-- **The draft of two tables**, where the rows of the second are foreign to the first draft. -/
theorem draft_append {p : Pipeline} {first second : Table}
    (hheaders : first.headers = second.headers)
    (hforeign : ∀ d, (Compilation.mk p first).draft = .ok d →
      ∀ row ∈ second.rows, (Compilation.mk p first).Foreign row d) :
    (Compilation.mk p (first.append second)).draft =
      (Compilation.mk p first).draft >>= fun d =>
        (Compilation.mk p second).draft.map d.append := by
  have hwhole : (Compilation.mk p (first.append second)).addRow = (Compilation.mk p first).addRow :=
    addRow_congr rfl
  have hsecond : (Compilation.mk p second).addRow = (Compilation.mk p first).addRow :=
    addRow_congr hheaders.symm
  change (first.rows ++ second.rows).foldlM (Compilation.mk p (first.append second)).addRow .empty =
    _
  rw [hwhole, List.foldlM_append]
  change (Compilation.mk p first).draft >>= _ = _
  cases hd : (Compilation.mk p first).draft with
  | error e => rfl
  | ok d =>
    change second.rows.foldlM (Compilation.mk p first).addRow d =
      (second.rows.foldlM (Compilation.mk p second).addRow .empty).map d.append
    rw [foldlM_addRow_append (hforeign d hd), hsecond]

end Compilation

/-- **A table can be compiled in two parts.**  Where two tables have the same columns, and no row of
one has the name of a row of the other or gives a sink the same target, the script of the rows of
both is the script of the first followed by that of the second.  If there is no script, the error
is that of the first table that has one. -/
theorem Pipeline.compile_append (p : Pipeline) {delimiter delimiter' : Char} {text text' : String}
    {first second : Table} (hfirst : Table.parseWith delimiter text = .ok first)
    (hsecond : Table.parseWith delimiter' text' = .ok second)
    (hheaders : first.headers = second.headers)
    (hids : ∀ row ∈ first.rows, ∀ other ∈ second.rows, row.id ≠ other.id)
    (htargets : ∀ row ∈ first.rows, ∀ other ∈ second.rows, ∀ target,
      (Compilation.mk p first).Names row target → ¬(Compilation.mk p second).Names other target)
    (options : ScriptOptions) (directory root : String) :
    compile options p (first.append second) directory root =
      compile options p first directory root >>= fun s =>
        (compile options p second directory root).map s.append := by
  have hdrafts := Compilation.draft_append (p := p) hheaders fun d hd row hrow =>
    (Compilation.grown_draft hd).foreign
      (fun other hother => (Table.Sound.of_parseWith hfirst).slash_not_mem hother)
      ((Table.Sound.of_parseWith hsecond).slash_not_mem hrow)
      (fun other hother => hids other hother row hrow) fun other hother target hnames hnames' =>
        htargets other hother row hrow target hnames ((Compilation.names_congr hheaders).1 hnames')
  rw [compile, compile, compile, hdrafts]
  cases Path.absolute? directory root with
  | none => rfl
  | some path =>
    simp only
    cases (Compilation.mk p first).draft with
    | error e => rfl
    | ok d =>
      cases (Compilation.mk p second).draft with
      | error e => rfl
      | ok d' =>
        simp only [bind, Except.bind, Table.append, List.map_append]
        rfl

/-! ## A specimen -/

/-- A target that a cell names is that of a turn. -/
theorem Compilation.Names.exists_turn {c : Compilation} {row : Row} {target : String}
    (h : c.Names row target) :
    ∃ sink ∈ c.pipeline.sinks, (Turn.mk row sink).target? = some target := by
  obtain ⟨sink, hsink, column, input, file, hkind, hfile, rfl⟩ := h
  exact ⟨sink, hsink, by simp [Turn.target?, hkind, fileCell_eq_ok hfile]⟩

namespace Specimen

/-- One row more for the table with two rows. -/
def moreSheet : String := "id|in|note|out|log\nc|c.txt|5|c.out|c.log\n"

/-- The table of that text. -/
def moreTable : Table :=
  ⟨["id", "in", "note", "out", "log"],
    [⟨[("id", "c"), ("in", "c.txt"), ("note", "5"), ("out", "c.out"), ("log", "c.log")]⟩]⟩

theorem compile_more :
    (compile .standard branched moreTable "/w" "out").toOption.map (·.rules.length) = some 5 := by
  have hsinks : (Compilation.mk branched moreTable).sortedSinks = branched.sinks :=
    sortedSinks_branched
  rw [compile, Compilation.draft, Compilation.addRow_eq hsinks]
  decide +kernel

end Specimen

/-- The first table names one file in two rows, and the second table has a row with other files. -/
theorem Pipeline.compile_append_branched :
    Table.parseWith '|' Specimen.sheet = .ok Specimen.table ∧
      Table.parseWith '|' Specimen.moreSheet = .ok Specimen.moreTable ∧
      ∃ s s', compile .standard Specimen.branched Specimen.table "/w" "out" = .ok s ∧
        compile .standard Specimen.branched Specimen.moreTable "/w" "out" = .ok s' ∧
        s.rules.length = 9 ∧ s'.rules.length = 5 ∧
        compile .standard Specimen.branched (Specimen.table.append Specimen.moreTable) "/w" "out" =
          .ok (s.append s') := by
  have hmore : Table.parseWith '|' Specimen.moreSheet = .ok Specimen.moreTable := by decide
  have hids : ∀ row ∈ Specimen.table.rows, ∀ other ∈ Specimen.moreTable.rows,
      row.id ≠ other.id := by
    decide
  have hturns : ∀ row ∈ Specimen.table.rows, ∀ other ∈ Specimen.moreTable.rows,
      ∀ sink ∈ Specimen.branched.sinks, ∀ sink' ∈ Specimen.branched.sinks,
      (Turn.mk row sink).target? ≠ (Turn.mk other sink').target? := by
    decide +kernel
  have hwhole := compile_append Specimen.branched Specimen.parseWith_sheet hmore rfl hids
    (fun row hrow other hother target hnames hnames' => by
      obtain ⟨sink, hsink, htarget⟩ := hnames.exists_turn
      obtain ⟨sink', hsink', htarget'⟩ := hnames'.exists_turn
      exact hturns row hrow other hother sink hsink sink' hsink' (htarget.trans htarget'.symm))
    .standard "/w" "out"
  have hfirst := Specimen.compile_branched
  have hsecond := Specimen.compile_more
  refine ⟨Specimen.parseWith_sheet, hmore, ?_⟩
  cases hs : compile .standard Specimen.branched Specimen.table "/w" "out" with
  | error e =>
    rw [hs] at hfirst
    cases hfirst
  | ok s =>
    cases hs' : compile .standard Specimen.branched Specimen.moreTable "/w" "out" with
    | error e =>
      rw [hs'] at hsecond
      cases hsecond
    | ok s' =>
      rw [hs, hs'] at hwhole
      rw [hs] at hfirst
      rw [hs'] at hsecond
      exact ⟨s, s', rfl, rfl, Option.some.inj hfirst, Option.some.inj hsecond, hwhole⟩

end Flowscript
