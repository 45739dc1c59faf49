import Mathlib.Data.List.Nodup
import Flowscript.Script.Compile

/-!
# Drafts of scripts

A script is gathered rule by rule.  Each step adds one rule at the end, and the lists of files grow
with it.

* `Rule.task?` and its like tell the kinds of rules apart.
* `ScriptDraft.Tidy` says that the lists of files are those of the rules, without repeats, and
  `ScriptDraft.Tidy.addCopy` and its like are the steps.
* `ScriptDraft.Noted` compares drafts that differ in what the setup writes.
-/

set_option autoImplicit false

namespace Flowscript

/-! ## Kinds of rules -/

namespace Rule

/-- The row and the block of a rule that runs a module. -/
def task? : Rule → Option (String × BlockId)
  | .run row block _ _ _ _ => some (row, block)
  | _ => none

/-- The target of a rule that copies a result. -/
def copied? : Rule → Option String
  | .copy target _ => some target
  | _ => none

/-- The row of a rule that makes a directory. -/
def opened? : Rule → Option String
  | .directory row => some row
  | _ => none

end Rule

/-! ## Lists of files -/

namespace ScriptDraft

theorem mem_insertName {names : List String} {name path : String} :
    path ∈ insertName names name ↔ path ∈ names ∨ path = name := by
  rw [insertName]
  split
  · rename_i h
    have hmem : name ∈ names := by simpa using h
    constructor
    · exact .inl
    · rintro (h | rfl)
      · exact h
      · exact hmem
  · simp

theorem nodup_insertName {names : List String} (h : names.Nodup) (name : String) :
    (insertName names name).Nodup := by
  rw [insertName]
  split
  · exact h
  · rename_i hnew
    refine List.nodup_append.2 ⟨h, by simp, ?_⟩
    rintro a ha b hb rfl
    rw [List.mem_singleton.1 hb] at ha
    exact hnew (by simpa using ha)

theorem mem_foldl_insertName {names paths : List String} {path : String} :
    path ∈ paths.foldl insertName names ↔ path ∈ names ∨ path ∈ paths := by
  induction paths generalizing names with
  | nil => simp
  | cons name rest ih => rw [List.foldl_cons, ih, mem_insertName, List.mem_cons, or_assoc]

theorem nodup_foldl_insertName {names : List String} (h : names.Nodup) (paths : List String) :
    (paths.foldl insertName names).Nodup := by
  induction paths generalizing names with
  | nil => exact h
  | cons name rest ih => exact ih (nodup_insertName h name)

/-- The files that the setup writes. -/
def written (d : ScriptDraft) : List String := d.arguments.map Prod.fst

/-- The lists of files are those of the rules, and name no file twice. -/
structure Tidy (d : ScriptDraft) : Prop where
  targets : d.targets = d.rules.filterMap Rule.copied?
  nodup_targets : d.targets.Nodup
  mem_intermediates : ∀ path, path ∈ d.intermediates ↔
    ∃ rule ∈ d.rules, rule.task?.isSome = true ∧ path ∈ rule.targets
  nodup_intermediates : d.intermediates.Nodup
  nodup_written : d.written.Nodup

theorem Tidy.empty : Tidy .empty where
  targets := rfl
  nodup_targets := List.nodup_nil
  mem_intermediates := by simp [ScriptDraft.empty]
  nodup_intermediates := List.nodup_nil
  nodup_written := List.nodup_nil

theorem Tidy.addDirectory {d : ScriptDraft} (h : d.Tidy) (row : String) :
    (d.addRule (.directory row)).Tidy where
  targets := by
    rw [addRule, List.filterMap_append, h.targets]
    simp [Rule.copied?]
  nodup_targets := h.nodup_targets
  mem_intermediates := by
    intro path
    simp only [addRule, List.mem_append, or_and_right, exists_or, List.mem_singleton]
    simp [h.mem_intermediates, Rule.task?]
  nodup_intermediates := h.nodup_intermediates
  nodup_written := h.nodup_written

theorem Tidy.addCopy {d : ScriptDraft} (h : d.Tidy) {target : String} (path : String)
    (hnew : target ∉ d.targets) :
    Tidy { d.addRule (.copy target path) with targets := d.targets ++ [target] } where
  targets := by
    simp only [addRule]
    rw [List.filterMap_append, ← h.targets]
    rfl
  nodup_targets := by
    refine List.nodup_append.2 ⟨h.nodup_targets, by simp, ?_⟩
    rintro a ha b hb rfl
    exact hnew (List.mem_singleton.1 hb ▸ ha)
  mem_intermediates := by
    intro path
    simp only [addRule, List.mem_append, or_and_right, exists_or, List.mem_singleton]
    simp [h.mem_intermediates, Rule.task?]
  nodup_intermediates := h.nodup_intermediates
  nodup_written := h.nodup_written

theorem Tidy.addRun {d : ScriptDraft} (h : d.Tidy) {rule : Rule} (hrule : rule.task?.isSome = true) :
    ((d.addRule rule).addIntermediates rule.targets).Tidy where
  targets := by
    simp only [addRule, addIntermediates]
    rw [List.filterMap_append, ← h.targets]
    cases rule with
    | run => simp [Rule.copied?]
    | directory => cases hrule
    | copy => cases hrule
  nodup_targets := h.nodup_targets
  mem_intermediates := by
    intro path
    simp only [addRule, addIntermediates, mem_foldl_insertName, h.mem_intermediates,
      List.mem_append, or_and_right, exists_or, List.mem_singleton]
    simp [hrule]
  nodup_intermediates := nodup_foldl_insertName h.nodup_intermediates _
  nodup_written := h.nodup_written

/-- A draft with more files for the setup to write, and nothing else. -/
structure Noted (d d' : ScriptDraft) : Prop where
  rules : d'.rules = d.rules
  targets : d'.targets = d.targets
  intermediates : d'.intermediates = d.intermediates
  written : ∀ path ∈ d.written, path ∈ d'.written
  nodup_written : d.written.Nodup → d'.written.Nodup

theorem Noted.refl (d : ScriptDraft) : Noted d d := ⟨rfl, rfl, rfl, fun _ => id, id⟩

theorem Noted.trans {d₁ d₂ d₃ : ScriptDraft} (h₁ : Noted d₁ d₂) (h₂ : Noted d₂ d₃) : Noted d₁ d₃ :=
  ⟨h₂.rules.trans h₁.rules, h₂.targets.trans h₁.targets, h₂.intermediates.trans h₁.intermediates,
    fun path hpath => h₂.written path (h₁.written path hpath),
    fun hnodup => h₂.nodup_written (h₁.nodup_written hnodup)⟩

theorem Tidy.noted {d d' : ScriptDraft} (h : d.Tidy) (hn : Noted d d') : d'.Tidy where
  targets := by rw [hn.targets, hn.rules, h.targets]
  nodup_targets := hn.targets ▸ h.nodup_targets
  mem_intermediates := by
    intro path
    rw [hn.intermediates, hn.rules, h.mem_intermediates]
  nodup_intermediates := hn.intermediates ▸ h.nodup_intermediates
  nodup_written := hn.nodup_written h.nodup_written

theorem noted_addArgument (d : ScriptDraft) (argument : String × String) :
    Noted d (d.addArgument argument) ∧ argument.1 ∈ (d.addArgument argument).written := by
  rw [addArgument]
  split
  · rename_i h
    exact ⟨.refl d, by simpa [written] using h⟩
  · rename_i hnew
    refine ⟨⟨rfl, rfl, rfl, ?_, ?_⟩, ?_⟩
    · intro path hpath
      rw [written, List.map_append]
      exact List.mem_append_left _ hpath
    · intro hnodup
      rw [written, List.map_append]
      refine List.nodup_append.2 ⟨hnodup, by simp, ?_⟩
      rintro a ha b hb rfl
      rw [List.map_singleton, List.mem_singleton] at hb
      exact hnew (by simpa [hb, written] using ha)
    · simp [written]

end ScriptDraft

end Flowscript
