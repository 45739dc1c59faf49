import Mathlib.Data.List.Nodup
import Mathlib.Data.List.Perm.Subperm
import Mathlib.Data.Nat.Find
import Mathlib.Logic.Relation
import Flowscript.Format.Catalog

/-!
# Ancestors of formats

A format extends one other at most, so there is one way up from each.  A catalog follows it for a
number of steps that it reads off its own length, and that has to be far enough for every ancestor.

* `FormatCatalog.Ancestor` is the relation that extending a format generates.
* `FormatCatalog.climb` is the format that a number of steps up lead to.  A format that can be
  climbed to at all is not further away than there are formats: `FormatCatalog.exists_climb_le`.
* `FormatCatalog.accepts_iff` says which formats may go where another is asked for.
-/

set_option autoImplicit false

namespace Flowscript

namespace FormatCatalog

variable {c : FormatCatalog} {name other : String}

/-- The first format extends the second. -/
def Extends (c : FormatCatalog) (name parent : String) : Prop := c.parent? name = some parent

/-- The second format is an ancestor of the first. -/
def Ancestor (c : FormatCatalog) : String → String → Prop := Relation.TransGen c.Extends

/-- The format that a number of steps up lead to. -/
def climb (c : FormatCatalog) : Nat → String → Option String
  | 0, name => some name
  | steps + 1, name => (c.parent? name).bind (c.climb steps)

theorem climb_add (c : FormatCatalog) (i j : Nat) (name : String) :
    c.climb (i + j) name = (c.climb i name).bind (c.climb j) := by
  induction i generalizing name with
  | zero => rw [Nat.zero_add, climb, Option.bind_some]
  | succ i ih =>
    rw [Nat.add_right_comm, climb, climb, Option.bind_assoc]
    exact congrArg _ (funext ih)

/-- The way up can be climbed from step to step. -/
theorem reflTransGen_iff_climb :
    Relation.ReflTransGen c.Extends name other ↔ ∃ steps, c.climb steps name = some other := by
  constructor
  · intro h
    induction h using Relation.ReflTransGen.head_induction_on with
    | refl => exact ⟨0, rfl⟩
    | head hparent _ ih =>
      obtain ⟨steps, hsteps⟩ := ih
      refine ⟨steps + 1, ?_⟩
      rw [climb, hparent, Option.bind_some, hsteps]
  · rintro ⟨steps, hsteps⟩
    induction steps generalizing name with
    | zero =>
      cases hsteps
      exact .refl
    | succ steps ih =>
      rw [climb, Option.bind_eq_some_iff] at hsteps
      obtain ⟨parent, hparent, hsteps⟩ := hsteps
      exact .head hparent (ih hsteps)

theorem mem_lineage {n : Nat} :
    other ∈ c.lineage n name ↔ ∃ steps < n, c.climb steps name = some other := by
  induction n generalizing name with
  | zero => simp [lineage]
  | succ n ih =>
    rw [lineage, List.mem_cons, Nat.exists_lt_succ_left, climb, Option.some.injEq, eq_comm]
    refine or_congr_right ?_
    simp only [climb]
    cases hparent : c.parent? name with
    | none => simp
    | some parent => exact ih

/-- Only a format that is known has a parent. -/
theorem mem_names_of_extends {parent : String} (h : c.Extends name parent) :
    name ∈ c.formats.map (·.name) := by
  rw [Extends, parent?, Option.bind_eq_some_iff] at h
  obtain ⟨f, hf, -⟩ := h
  rw [get?] at hf
  exact List.mem_map.2 ⟨f, List.mem_of_find?_eq_some hf, by simpa using List.find?_some hf⟩

/-- Every format on the way up but the last is known. -/
theorem exists_name_of_climb {steps i : Nat} (h : c.climb steps name = some other)
    (hi : i < steps) : ∃ via ∈ c.formats.map (·.name), c.climb i name = some via := by
  obtain ⟨more, rfl⟩ := Nat.exists_eq_add_of_lt hi
  rw [Nat.add_assoc, climb_add, Option.bind_eq_some_iff] at h
  obtain ⟨via, hvia, hup⟩ := h
  rw [climb, Option.bind_eq_some_iff] at hup
  obtain ⟨parent, hparent, -⟩ := hup
  exact ⟨via, mem_names_of_extends hparent, hvia⟩

/-- The shortest way up meets no format twice. -/
theorem nodup_climb {steps : Nat} (h : c.climb steps name = some other)
    (hleast : ∀ fewer < steps, c.climb fewer name ≠ some other) :
    ((List.range steps).map (c.climb · name)).Nodup := by
  -- coming back to where one was, one could have left out what lies between
  have hne : ∀ i j, i < j → j < steps → c.climb i name ≠ c.climb j name := by
    intro i j hij hj heq
    refine hleast (i + (steps - j)) (by omega) ?_
    rw [climb_add, heq, ← climb_add, Nat.add_sub_cancel' (Nat.le_of_lt hj), h]
  refine List.Nodup.map_on ?_ List.nodup_range
  intro i hi j hj heq
  rw [List.mem_range] at hi hj
  rcases Nat.lt_trichotomy i j with hlt | rfl | hlt
  · exact absurd heq (hne i j hlt hj)
  · rfl
  · exact absurd heq.symm (hne j i hlt hi)

/-- **No ancestor is further away than there are formats.** -/
theorem exists_climb_le (h : ∃ steps, c.climb steps name = some other) :
    ∃ steps ≤ c.formats.length, c.climb steps name = some other := by
  classical
  have hsteps := Nat.find_spec h
  refine ⟨Nat.find h, ?_, hsteps⟩
  have hsub : (List.range (Nat.find h)).map (c.climb · name) ⊆
      (c.formats.map (·.name)).map some := by
    intro reached hreached
    obtain ⟨i, hi, rfl⟩ := List.mem_map.1 hreached
    obtain ⟨via, hvia, heq⟩ := exists_name_of_climb hsteps (List.mem_range.1 hi)
    exact List.mem_map.2 ⟨via, hvia, heq.symm⟩
  have hnodup := nodup_climb hsteps fun _ => Nat.find_min h
  simpa using (hnodup.subperm hsub).length_le

/-- **A format may go where it is asked for itself, or where one of its ancestors is.** -/
theorem accepts_iff : c.accepts name other = true ↔ name = other ∨ c.Ancestor name other := by
  have hmem : c.accepts name other = true ↔ other ∈ c.lineage (c.formats.length + 1) name := by
    rw [accepts, ancestry, List.contains_iff_mem]
  rw [hmem, mem_lineage, Ancestor, @eq_comm _ name, ← Relation.reflTransGen_iff_eq_or_transGen,
    reflTransGen_iff_climb]
  constructor
  · rintro ⟨steps, -, hsteps⟩
    exact ⟨steps, hsteps⟩
  · intro h
    obtain ⟨steps, hle, hsteps⟩ := exists_climb_le h
    exact ⟨steps, Nat.lt_succ_of_le hle, hsteps⟩

end FormatCatalog

end Flowscript
