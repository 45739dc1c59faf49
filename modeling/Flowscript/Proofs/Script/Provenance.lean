import Flowscript.Proofs.Script.Frame
import Flowscript.Proofs.Script.Rules

/-!
# Where a file comes from

A file that a rule makes comes from the files that the rule needs, and these come from others.  The
same can be asked of the pipeline, going from output port to output port.  Both questions have a
tree for an answer.

* `Provenance` is such a tree, and `Provenance.merge` takes equal files together.
* `Unfolds` reads the tree off the rules of a script, and `Unfolds.unique` says that there is one
  tree at most for each file.
* `Compilation.Traces` reads the tree off the pipeline and a row, and `Compilation.Traces.unique` is
  the same for it.
* `Needs` is one step through the rules, and `Unfolds.acc` says that a tree leaves no way that goes
  on for ever.
-/

set_option autoImplicit false

namespace Flowscript

/-- A file with all that goes into it: a file that is there, or one made by a rule from parts. -/
inductive Provenance where
  | given (path : String)
  | made (path : String) (rule : Rule) (parts : List Provenance)

namespace Provenance

/-- The file at the root. -/
def path : Provenance → String
  | given path => path
  | made path _ _ => path

/-- Takes parts with the same file together. -/
def merge (parts : List Provenance) : List Provenance :=
  parts.eraseDupsBy fun a b => a.path == b.path

theorem merge_cons (part : Provenance) (rest : List Provenance) :
    merge (part :: rest) = part :: merge (rest.filter fun other => !other.path == part.path) := by
  rw [merge, List.eraseDupsBy_cons, merge]
  congr 2
  refine List.filter_congr fun other _ => ?_
  by_cases h : other.path = part.path <;> simp [h]

/-- Every file is there once after merging, at the place of its first part. -/
theorem map_path_merge (parts : List Provenance) :
    (merge parts).map path = (parts.map path).eraseDups := by
  induction hn : parts.length using Nat.strongRecOn generalizing parts with
  | _ n ih =>
    cases parts with
    | nil => rfl
    | cons part rest =>
      have hlt : (rest.filter fun other => !other.path == part.path).length < n := by
        rw [← hn, List.length_cons]
        exact Nat.lt_succ_of_le (List.length_filter_le _ _)
      rw [merge_cons, List.map_cons, ih _ hlt _ rfl, List.map_cons, List.eraseDups_cons,
        List.filter_map]
      rfl

theorem mem_of_mem_merge {parts : List Provenance} {part : Provenance} (h : part ∈ merge parts) :
    part ∈ parts := by
  induction hn : parts.length using Nat.strongRecOn generalizing parts with
  | _ n ih =>
    cases parts with
    | nil => exact h
    | cons first rest =>
      rw [merge_cons, List.mem_cons] at h
      rcases h with rfl | h
      · exact List.mem_cons_self
      · have hlt : (rest.filter fun other => !other.path == first.path).length < n := by
          rw [← hn, List.length_cons]
          exact Nat.lt_succ_of_le (List.length_filter_le _ _)
        exact List.mem_cons_of_mem _ (List.mem_of_mem_filter (ih _ hlt h rfl))

end Provenance

open Provenance

/-! ## Through the rules -/

/-- The tree of a file by the rules of a script: a file without a rule is given, and any other is
made from all that its rule needs. -/
inductive Unfolds (rules : List Rule) : Provenance → Prop
  | given {path : String} (h : ∀ rule ∈ rules, path ∉ rule.targets) : Unfolds rules (.given path)
  | made {path : String} {rule : Rule} {parts : List Provenance} (hrule : rule ∈ rules)
      (htarget : path ∈ rule.targets) (hparts : parts.map Provenance.path = rule.prerequisites)
      (h : ∀ part ∈ parts, Unfolds rules part) : Unfolds rules (.made path rule parts)

/-- A rule that makes the second file needs the first. -/
def Needs (rules : List Rule) (a b : String) : Prop :=
  ∃ rule ∈ rules, b ∈ rule.targets ∧ a ∈ rule.prerequisites

/-- No file is made by two rules. -/
def Deterministic (rules : List Rule) : Prop :=
  ∀ rule ∈ rules, ∀ other ∈ rules, ∀ path, path ∈ rule.targets → path ∈ other.targets →
    rule = other

/-- **A file has one tree at most.** -/
theorem Unfolds.unique {rules : List Rule} (hrules : Deterministic rules) {tree : Provenance}
    (h : Unfolds rules tree) :
    ∀ other, Unfolds rules other → other.path = tree.path → other = tree := by
  induction h with
  | @given path hnone =>
    intro other hother hpath
    cases hother with
    | @given path' =>
      obtain rfl : path' = path := hpath
      rfl
    | @made path' rule' parts' hrule' htarget' =>
      obtain rfl : path' = path := hpath
      exact absurd htarget' (hnone _ hrule')
  | @made path rule parts hrule htarget hparts _ ih =>
    intro other hother hpath
    cases hother with
    | @given path' hnone =>
      obtain rfl : path' = path := hpath
      exact absurd htarget (hnone _ hrule)
    | @made path' rule' parts' hrule' htarget' hparts' hall' =>
      obtain rfl : path' = path := hpath
      obtain rfl := hrules rule' hrule' rule hrule path' htarget' htarget
      rw [eq_of_map_eq (hparts'.trans hparts.symm) fun part hpart part' hpart' =>
        ih part hpart part' (hall' part' hpart')]

/-- **Going from file to file through the rules comes to an end where there is a tree.** -/
theorem Unfolds.acc {rules : List Rule} (hrules : Deterministic rules) {tree : Provenance}
    (h : Unfolds rules tree) : Acc (Needs rules) tree.path := by
  induction h with
  | given hnone =>
    refine .intro _ fun a ha => ?_
    obtain ⟨rule, hrule, htarget, -⟩ := ha
    exact absurd htarget (hnone rule hrule)
  | @made path rule parts hrule htarget hparts _ ih =>
    refine .intro _ fun a ha => ?_
    obtain ⟨rule', hrule', htarget', hneeds⟩ := ha
    obtain rfl := hrules rule' hrule' rule hrule path htarget' htarget
    rw [← hparts] at hneeds
    obtain ⟨part, hpart, rfl⟩ := List.mem_map.1 hneeds
    exact ih part hpart

/-! ## Through the pipeline -/

namespace Compilation

/-- What the rule of a module block says, given the files behind its inputs. -/
structure Performs (c : Compilation) (row : Row) (b : Block) (files : List (Option String))
    (rule : Rule) : Prop where
  /-- It is the rule that the block has for the row. -/
  ruleOf : c.RuleOf row b files rule
  /-- Its targets are the files of the block for the row, in the order of the outputs. -/
  targets : rule.targets = b.outputs.mapIdx fun i port => c.artifact row b.id i port.format
  /-- Its prerequisites are the files of the connected inputs, each named once. -/
  prerequisites : rule.prerequisites = files.reduceOption.eraseDups
  /-- The directory of the row has to be there. -/
  orderOnly : rule.orderOnly = [Layout.rowDirectory row.id]
  /-- All of this is on one line, and two targets or more are made by one run of the recipe. -/
  header : rule.header = " ".intercalate rule.targets
    ++ (if 1 < rule.targets.length then " &: " else ": ") ++ " ".intercalate rule.prerequisites
    ++ " | $(PROCESSING)" ++ row.id
  /-- Its recipe is the command, and a clause behind it that makes a marker for the row and the
  block where the command fails.  The slot of an input gets the file behind it, in a form that
  depends on the format of the input, or nothing, and the slot of an output gets the file that it
  makes. -/
  recipe : ∃ definition value command, b.definition? = some definition ∧
    definition.template.fill value = .ok command ∧
    rule.recipe true =
      ["(" ++ command ++ ") || mkdir -p $(ERRORS)" ++ row.id ++ "/" ++ b.id.text] ∧
    rule.recipe false =
      ["(" ++ command ++ ") || \x7b mkdir -p $(ERRORS)" ++ row.id ++ "/" ++ b.id.text
        ++ "; exit 1; \x7d"] ∧
    (∀ (i : Nat) port file, b.inputs[i]? = some port → files[i]? = some file →
      value port.parameter.name = some (slotText port file)) ∧
    ∀ (i : Nat) port, b.outputs[i]? = some port →
      value port.parameter.name = some (c.artifact row b.id i port.format)

/-- The tree of an output port for a row, by the pipeline alone: a source stands for the file in its
cell or for the file that holds the text of its cell, and a module makes its file from what feeds
its inputs. -/
inductive Traces (c : Compilation) (row : Row) : PortRef → Provenance → Prop
  | cell {ref : PortRef} {b : Block} {column path : String} {output : Port}
      (hb : c.pipeline.block? ref.block = some b) (hkind : b.kind = .source column output)
      (hfile : output.parameter.isArg = false) (hcell : row.resolved? column = some path) :
      Traces c row ref (.given path)
  | argument {ref : PortRef} {b : Block} {column : String} {output : Port}
      (hb : c.pipeline.block? ref.block = some b) (hkind : b.kind = .source column output)
      (harg : output.parameter.isArg = true) :
      Traces c row ref (.given (c.artifact row ref.block 0 output.format))
  | module {ref : PortRef} {b : Block} {output : Port} {given : List (Option Provenance)}
      {rule : Rule} (hb : c.pipeline.block? ref.block = some b)
      (houtput : b.outputs[ref.index]? = some output) (hlength : given.length = b.inputs.length)
      (hconnected : ∀ (i : Nat) source, c.pipeline.feeder? (.input b.id i) = some source →
        ∃ tree, given[i]? = some (some tree))
      (htraces : ∀ (i : Nat) source tree, c.pipeline.feeder? (.input b.id i) = some source →
        given[i]? = some (some tree) → Traces c row source tree)
      (hunconnected : ∀ (i : Nat) port, b.inputs[i]? = some port →
        c.pipeline.feeder? (.input b.id i) = none →
        given[i]? = some none ∧ port.parameter.required = false)
      (hrule : c.Performs row b (given.map (·.map Provenance.path)) rule) :
      Traces c row ref
        (.made (c.artifact row ref.block ref.index output.format) rule (merge given.reduceOption))

variable {c : Compilation} {row : Row}

theorem lookup_of_mem {l : List (String × String)} (h : (l.map Prod.fst).Nodup) {name text : String}
    (hmem : (name, text) ∈ l) : l.lookup name = some text := by
  obtain ⟨before, after, rfl⟩ := List.append_of_mem hmem
  refine List.lookup_eq_some_iff.2 ⟨before, after, rfl, fun entry hentry => ?_⟩
  rw [List.map_append, List.nodup_append] at h
  rw [bne_iff_ne]
  exact (h.2.2 _ (List.mem_map_of_mem hentry) _ (by simp)).symm

/-- Ports with names of their own get what is meant for them. -/
theorem RuleOf.performs {b : Block} {files : List (Option String)} {rule : Rule}
    (h : c.RuleOf row b files rule) (hlength : files.length = b.inputs.length)
    (hnames : ((b.inputs ++ b.outputs).map (·.parameter.name)).Nodup) :
    c.Performs row b files rule := by
  have hfst : (c.slotTexts row b files).map Prod.fst =
      (b.inputs ++ b.outputs).map (·.parameter.name) := by
    rw [slotTexts, List.map_append, List.map_append]
    congr 1
    · refine List.ext_getElem? fun i => ?_
      rw [List.getElem?_map, List.getElem?_zipWith, List.getElem?_map]
      rcases Nat.lt_or_ge i b.inputs.length with hi | hi
      · rw [List.getElem?_eq_getElem hi, List.getElem?_eq_getElem (by rw [hlength]; exact hi)]
        rfl
      · rw [List.getElem?_eq_none hi]
        rfl
    · refine List.ext_getElem? fun i => ?_
      rw [List.getElem?_map, List.getElem?_mapIdx, List.getElem?_map, Option.map_map]
      rfl
  rw [← hfst] at hnames
  have hrule := h
  cases h with
  | @run definition command hdefinition hcommand =>
    refine ⟨hrule, rfl, rfl, rfl, Rule.header_run .., definition, _, command, hdefinition, hcommand,
      congrArg (· :: []) (Rule.catching_true ..), congrArg (· :: []) (Rule.catching_false ..),
      ?_, ?_⟩
    · intro i port file hport hfile
      refine lookup_of_mem hnames (List.mem_append_left _ (List.mem_of_getElem? (i := i) ?_))
      rw [List.getElem?_zipWith, hport, hfile]
    · intro i port hport
      refine lookup_of_mem hnames (List.mem_append_right _ (List.mem_of_getElem? (i := i) ?_))
      rw [List.getElem?_mapIdx, hport]
      rfl

theorem RuleOf.unique {b : Block} {files : List (Option String)} {rule rule' : Rule}
    (h : c.RuleOf row b files rule) (h' : c.RuleOf row b files rule') : rule = rule' := by
  cases h with
  | @run definition command hdefinition hcommand =>
    cases h' with
    | @run definition' command' hdefinition' hcommand' =>
      obtain rfl : definition = definition' :=
        Option.some.inj (hdefinition.symm.trans hdefinition')
      obtain rfl : command = command' := Except.ok.inj (hcommand.symm.trans hcommand')
      rfl

theorem RuleOf.kind_ne_source {b : Block} {files : List (Option String)} {rule : Rule}
    (h : c.RuleOf row b files rule) {column : String} {output : Port} :
    b.kind ≠ .source column output := by
  intro hkind
  cases h with
  | run hdefinition _ =>
    rw [Block.definition?, hkind] at hdefinition
    cases hdefinition

/-- The parts of a module's file are those behind its connected inputs. -/
theorem parts_unique {b : Block} {given given' : List (Option Provenance)}
    (hlength : given.length = b.inputs.length) (hlength' : given'.length = b.inputs.length)
    (hconnected : ∀ i source, c.pipeline.feeder? (.input b.id i) = some source →
      given'[i]? = given[i]?)
    (hunconnected : ∀ i, c.pipeline.feeder? (.input b.id i) = none → i < b.inputs.length →
      given'[i]? = some none ∧ given[i]? = some none) : given' = given := by
  refine List.ext_getElem? fun i => ?_
  rcases Nat.lt_or_ge i b.inputs.length with hi | hi
  · cases hsource : c.pipeline.feeder? (.input b.id i) with
    | some source => exact hconnected i source hsource
    | none =>
      obtain ⟨hnone', hnone⟩ := hunconnected i hsource hi
      rw [hnone', hnone]
  · rw [List.getElem?_eq_none (by rw [hlength']; exact hi),
      List.getElem?_eq_none (by rw [hlength]; exact hi)]

/-- **A port has one tree at most.** -/
theorem Traces.unique {ref : PortRef} {tree : Provenance} (h : c.Traces row ref tree) :
    ∀ other, c.Traces row ref other → other = tree := by
  induction h with
  | cell hb hkind hfile hcell =>
    intro other hother
    cases hother with
    | cell hb' hkind' _ hcell' =>
      obtain rfl := Option.some.inj (hb.symm.trans hb')
      cases hkind.symm.trans hkind'
      rw [Option.some.inj (hcell.symm.trans hcell')]
    | argument hb' hkind' harg =>
      obtain rfl := Option.some.inj (hb.symm.trans hb')
      cases hkind.symm.trans hkind'
      rw [hfile] at harg
      cases harg
    | module hb' _ _ _ _ _ hrule' =>
      obtain rfl := Option.some.inj (hb.symm.trans hb')
      exact absurd hkind hrule'.ruleOf.kind_ne_source
  | argument hb hkind harg =>
    intro other hother
    cases hother with
    | cell hb' hkind' hfile =>
      obtain rfl := Option.some.inj (hb.symm.trans hb')
      cases hkind.symm.trans hkind'
      rw [harg] at hfile
      cases hfile
    | argument hb' hkind' =>
      obtain rfl := Option.some.inj (hb.symm.trans hb')
      cases hkind.symm.trans hkind'
      rfl
    | module hb' _ _ _ _ _ hrule' =>
      obtain rfl := Option.some.inj (hb.symm.trans hb')
      exact absurd hkind hrule'.ruleOf.kind_ne_source
  | @module ref b output given rule hb houtput hlength hconnected _ hunconnected hrule ih =>
    intro other hother
    cases hother with
    | cell hb' hkind' =>
      obtain rfl := Option.some.inj (hb.symm.trans hb')
      exact absurd hkind' hrule.ruleOf.kind_ne_source
    | argument hb' hkind' =>
      obtain rfl := Option.some.inj (hb.symm.trans hb')
      exact absurd hkind' hrule.ruleOf.kind_ne_source
    | @module _ b' output' given' rule' hb' houtput' hlength' hconnected' htraces' hunconnected'
        hrule' =>
      obtain rfl := Option.some.inj (hb.symm.trans hb')
      obtain rfl := Option.some.inj (houtput.symm.trans houtput')
      -- The inputs are fed by the same ports, and what is behind each of these is known by then.
      have hgiven : given' = given := by
        refine parts_unique (c := c) hlength hlength' (fun i source hsource => ?_)
          fun i hsource hi => ?_
        · obtain ⟨tree, htree⟩ := hconnected i source hsource
          obtain ⟨tree', htree'⟩ := hconnected' i source hsource
          rw [htree, htree', ih i source tree hsource htree tree'
            (htraces' i source tree' hsource htree')]
        · have hport := List.getElem?_eq_getElem hi
          exact ⟨(hunconnected' i _ hport hsource).1, (hunconnected i _ hport hsource).1⟩
      subst hgiven
      rw [hrule'.ruleOf.unique hrule.ruleOf]

end Compilation

end Flowscript
