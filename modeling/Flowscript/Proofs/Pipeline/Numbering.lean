import Flowscript.Proofs.Pipeline.Rereading

/-!
# Numbers of new blocks

A new block gets a number above all that its pipeline has seen.  What a pipeline has seen is not
saved with it, though: a pipeline that was loaded knows the numbers of its own blocks and no others,
so a number may come back that was given up before saving.

* `Pipeline.ids_of_ofDocument` and `Pipeline.Consistent.ids_of_ofJson` say that loading what was saved
  keeps the numbers of blocks.
* `Action` is an edit, or saving and loading, and `Pipeline.after` is the pipeline after some actions.
* `Pipeline.Reachable.number_fresh` says when the number of a new block is new.
-/

set_option autoImplicit false

namespace Flowscript

namespace Pipeline

/-! ## Numbers of what is loaded -/

theorem blocks_of_restoreAll {bs : List Block} : ∀ {p q : Pipeline}, p.restoreAll bs = .ok q →
    q.blocks = p.blocks ++ bs := by
  induction bs with
  | nil =>
    intro p q h
    cases h
    exact (List.append_nil _).symm
  | cons b rest ih =>
    intro p q h
    rw [ih (restoreAll_cons.1 h).2]
    exact List.append_assoc _ _ _

theorem ids_of_restoreModules {entries : List ModuleEntry} : ∀ {p q : Pipeline},
    p.restoreModules entries = .ok q →
      q.blocks.map (·.id) = p.blocks.map (·.id) ++ entries.map (·.id) := by
  induction entries with
  | nil =>
    intro p q h
    cases h
    exact (List.append_nil _).symm
  | cons m rest ih =>
    intro p q h
    rw [restoreModules] at h
    cases hm : p.toolbox.module m.name with
    | error e => simp [hm] at h
    | ok definition =>
      simp only [hm] at h
      rcases hr : p.restore (.ofModule m.id definition m.position) with ⟨_ | ⟨⟩, p'⟩
      · simp [hr] at h
      · simp only [hr] at h
        obtain ⟨-, rfl⟩ := restore_eq_ok_iff.1 hr
        rw [ih h, inserted, List.map_append, List.append_assoc]
        rfl

theorem ids_connect (p : Pipeline) (source target : PortRef) :
    (p.connect source target).2.blocks.map (·.id) = p.blocks.map (·.id) := by
  by_cases hj : p.Joinable source target
  · rw [connect_of_joinable hj, ← map_id_shape, shape_linked, map_id_shape]
  · rw [connect_of_not_joinable hj]

theorem ids_of_restoreConnections {entries : List ConnectionEntry} : ∀ {p q : Pipeline},
    p.restoreConnections entries = .ok q → q.blocks.map (·.id) = p.blocks.map (·.id) := by
  induction entries with
  | nil =>
    intro p q h
    cases h
    rfl
  | cons c rest ih =>
    intro p q h
    rw [restoreConnections] at h
    cases hs : p.resolve c.start .output with
    | error e => simp [hs, bind, Except.bind] at h
    | ok source =>
      cases ht : p.resolve c.stop .input with
      | error e => simp [hs, ht, bind, Except.bind] at h
      | ok target =>
        simp only [hs, ht, bind, Except.bind] at h
        have hids := ids_connect p source target
        rcases hr : p.connect source target with ⟨_ | id, p'⟩
        · simp [hr] at h
        · simp only [hr] at h hids
          rw [ih h, hids]

/-- **The blocks of a loaded pipeline have the numbers of its document.** -/
theorem ids_of_ofDocument {d : PipelineDocument} {t : Toolbox} {q : Pipeline}
    (h : ofDocument d t = .ok q) : q.blocks.map (·.id) = d.ids := by
  rw [ofDocument] at h
  simp only [bind, Except.bind] at h
  split at h
  · cases h
  rename_i p₁ h₁
  split at h
  · cases h
  rename_i p₂ h₂
  split at h
  · cases h
  rename_i p₃ h₃
  split at h
  · cases h
  rename_i p₄ h₄
  cases h
  change p₄.blocks.map (·.id) = d.ids
  rw [ids_of_restoreConnections h₄, ids_of_restoreModules h₃, blocks_of_restoreAll h₂,
    blocks_of_restoreAll h₁, PipelineDocument.ids, List.map_append, List.map_append, List.map_map,
    List.map_map, List.append_assoc]
  rfl

/-- **A pipeline that was saved and is loaded has the same numbers of blocks.** -/
theorem Consistent.ids_of_ofJson {p q : Pipeline} (h : p.Consistent) {t : Toolbox}
    (hq : Pipeline.ofJson p.toJson t = .ok q) : (q.blocks.map (·.id)).Perm (p.blocks.map (·.id)) := by
  rw [Pipeline.ofJson] at hq
  cases hd : PipelineDocument.ofJson p.toJson with
  | error e => simp [hd, bind, Except.bind] at hq
  | ok d =>
    simp only [hd, bind, Except.bind] at hq
    rw [ids_of_ofDocument hq, PipelineDocument.ids_of_ofJson hd]
    exact PipelineDocument.ids_ofPipeline h

end Pipeline

/-! ## Actions -/

/-- An edit, or saving the pipeline and loading it in its place. -/
inductive Action where
  | edit (e : Edit)
  | reload
  deriving DecidableEq, Repr

namespace Pipeline

/-- The pipeline that is loaded from the text of this one, or this one if none is loaded. -/
def reloaded (p : Pipeline) : Pipeline := (Pipeline.ofJson p.toJson p.toolbox).toOption.getD p

/-- The pipeline after an action. -/
def act (p : Pipeline) : Action → Pipeline
  | .edit e => p.edit e
  | .reload => p.reloaded

/-- The pipeline after some actions. -/
def after (p : Pipeline) (actions : List Action) : Pipeline := actions.foldl act p

/-- The number that an edit gives to a new block, if it adds one. -/
def added? (p : Pipeline) : Edit → Option BlockId
  | .addSource column parameter position => (p.addSource column parameter position).1.toOption
  | .addSink column parameter position => (p.addSink column parameter position).1.toOption
  | .addModule name position => (p.addModule name position).1.toOption
  | _ => none

variable {p : Pipeline} {t : Toolbox}

theorem reloaded_of_ok {q : Pipeline} (h : Pipeline.ofJson p.toJson p.toolbox = .ok q) :
    p.reloaded = q := by
  rw [reloaded, h]
  rfl

theorem reloaded_of_error {e : DocumentError} (h : Pipeline.ofJson p.toJson p.toolbox = .error e) :
    p.reloaded = p := by
  rw [reloaded, h]
  rfl

theorem Reachable.act (h : Reachable t p) (a : Action) : Reachable t (p.act a) := by
  cases a with
  | edit e => exact h.edited e
  | reload =>
    obtain ⟨-, rfl⟩ := h.consistent
    rw [Pipeline.act]
    cases hq : Pipeline.ofJson p.toJson p.toolbox with
    | ok q =>
      rw [reloaded_of_ok hq]
      exact .loaded hq
    | error e =>
      rw [reloaded_of_error hq]
      exact h

/-! ## The number that comes next -/

theorem added?_insertNew {make : BlockId → Block} {id : BlockId}
    (h : (p.insertNew make).1.toOption = some id) : id.number = p.ids.nextBlock := by
  rw [insertNew] at h
  simp only at h
  split at h
  · cases h
  · cases h
    rfl

/-- A new block gets the number that comes next. -/
theorem number_of_added? {e : Edit} {id : BlockId} (h : p.added? e = some id) :
    id.number = p.ids.nextBlock := by
  cases e with
  | addSource column parameter position =>
    rw [added?, addSource] at h
    split at h
    · cases h
    · exact added?_insertNew h
  | addSink column parameter position =>
    rw [added?, addSink] at h
    split at h
    · cases h
    · exact added?_insertNew h
  | addModule name position =>
    rw [added?, addModule] at h
    split at h
    · cases h
    · exact added?_insertNew h
  | _ => cases h

theorem nextBlock_le_insertNew (make : BlockId → Block) :
    p.ids.nextBlock ≤ (p.insertNew make).2.ids.nextBlock := by
  rw [insertNew_snd, insert]
  split
  · exact Nat.le_succ _
  · exact Nat.le_trans (Nat.le_succ _) (Nat.le_max_left _ _)

/-- No edit takes the count back. -/
theorem Consistent.nextBlock_le_edit (h : p.Consistent) (e : Edit) :
    p.ids.nextBlock ≤ (p.edit e).ids.nextBlock := by
  cases e with
  | addSource column parameter position =>
    rw [Pipeline.edit, Pipeline.addSource]
    split
    · exact Nat.le_refl _
    · exact nextBlock_le_insertNew _
  | addSink column parameter position =>
    rw [Pipeline.edit, Pipeline.addSink]
    split
    · exact Nat.le_refl _
    · exact nextBlock_le_insertNew _
  | addModule name position =>
    rw [Pipeline.edit, Pipeline.addModule]
    split
    · exact Nat.le_refl _
    · exact nextBlock_le_insertNew _
  | connect source target =>
    rw [Pipeline.edit]
    by_cases hj : p.Joinable source target
    · rw [connect_of_joinable hj]
      exact Nat.le_refl _
    · exact Nat.le_of_eq (by rw [connect_of_not_joinable hj])
  | disconnect id =>
    rw [Pipeline.edit, Pipeline.disconnect]
    split <;> exact Nat.le_refl _
  | delete id =>
    rw [Pipeline.edit]
    cases hb : p.block? id with
    | none =>
      simp only [Pipeline.delete, hb]
      exact Nat.le_refl _
    | some b =>
      obtain ⟨hmem, rfl⟩ := mem_blocks_of_block? hb
      obtain ⟨q, hq, -, -, -, hids, -⟩ := delete_of_mem h hmem
      rw [hq, ← hids]
      exact Nat.le_refl _
  | move id position =>
    rw [Pipeline.edit, Pipeline.move]
    split <;> exact Nat.le_refl _
  | rename name => exact Nat.le_refl _
  | markSaved => exact Nat.le_refl _

/-- Loading takes the count back to a number only if no block has that number or a higher one. -/
def Forgets (p : Pipeline) (n : Nat) : Prop :=
  (∃ q, Pipeline.ofJson p.toJson p.toolbox = .ok q) ∧ ∀ b ∈ p.blocks, b.id.number < n

/-- **An action leaves the count above a number, unless it loads and the number is forgotten.** -/
theorem Consistent.lt_nextBlock_act (h : p.Consistent) {n : Nat} (hn : n < p.ids.nextBlock)
    (a : Action) : n < (p.act a).ids.nextBlock ∨ a = .reload ∧ p.Forgets n := by
  cases a with
  | edit e => exact .inl (Nat.lt_of_lt_of_le hn (h.nextBlock_le_edit e))
  | reload =>
    rw [Pipeline.act]
    cases hq : Pipeline.ofJson p.toJson p.toolbox with
    | error e =>
      rw [reloaded_of_error hq]
      exact .inl hn
    | ok q =>
      rw [reloaded_of_ok hq]
      by_cases hall : ∀ b ∈ p.blocks, b.id.number < n
      · exact .inr ⟨rfl, ⟨q, hq⟩, hall⟩
      · simp only [not_forall, exists_prop] at hall
        obtain ⟨b, hb, hle⟩ := hall
        have hmem : b.id ∈ q.blocks.map (·.id) :=
          (h.ids_of_ofJson hq).symm.subset (List.mem_map_of_mem hb)
        obtain ⟨b', hb', hid⟩ := List.mem_map.1 hmem
        have hlt := (Consistent.ofJson hq).1.block_lt b' hb'
        rw [hid] at hlt
        exact .inl (Nat.lt_of_le_of_lt (Nat.not_lt.1 hle) hlt)

/-- **Along a run, the count stays above a number until the number is forgotten.** -/
theorem Reachable.lt_nextBlock_after {n : Nat} (actions : List Action) : ∀ {p : Pipeline},
    Reachable t p → n < p.ids.nextBlock → n < (p.after actions).ids.nextBlock ∨
      ∃ before rest, actions = before ++ .reload :: rest ∧ (p.after before).Forgets n := by
  induction actions with
  | nil => exact fun _ hn => .inl hn
  | cons a rest ih =>
    intro p hp hn
    rcases hp.consistent.1.lt_nextBlock_act hn a with hnext | ⟨rfl, hforgets⟩
    · rcases ih (hp.act a) hnext with hlast | ⟨before, tail, rfl, hforgets⟩
      · exact .inl hlast
      · exact .inr ⟨a :: before, tail, rfl, hforgets⟩
    · exact .inr ⟨[], rest, rfl, hforgets⟩

/-- **A new block has a number above that of any block there was before**, unless the pipeline was
saved and loaded in between when all its blocks had lower numbers.  A number that was given up is
given out again after that. -/
theorem Reachable.number_fresh (hp : Reachable t p) {b : Block} (hb : b ∈ p.blocks)
    (actions : List Action) {e : Edit} {id : BlockId} (he : (p.after actions).added? e = some id) :
    b.id.number < id.number ∨ ∃ before rest, actions = before ++ .reload :: rest ∧
      (∃ q, Pipeline.ofJson (p.after before).toJson (p.after before).toolbox = .ok q) ∧
      ∀ b' ∈ (p.after before).blocks, b'.id.number < id.number := by
  rcases Nat.lt_or_ge b.id.number id.number with hlt | hle
  · exact .inl hlt
  · have hn := Nat.lt_of_le_of_lt hle (hp.consistent.1.block_lt b hb)
    rcases Reachable.lt_nextBlock_after actions hp hn with hlast | hforgets
    · exact absurd hlast (number_of_added? he ▸ Nat.lt_irrefl _)
    · exact .inr hforgets

end Pipeline

/-! ## A specimen -/

namespace Specimen

/-- Adds a source. -/
def source : Edit := .addSource "in" (text "in" true) place

/-- A pipeline with one source. -/
def started : Pipeline := (Pipeline.empty "start" toolbox).edit source

theorem reachable_started : Pipeline.Reachable toolbox started :=
  (Pipeline.Reachable.empty "start").edited source

/-- Deletes the source, and saves and loads what is left. -/
def clearing : List Action := [.edit (.delete ⟨0⟩), .reload]

theorem added?_cleared : (started.after clearing).added? source = some ⟨0⟩ := by
  decide +kernel

end Specimen

/-- The number of the next block is no new one, and all blocks were gone when the pipeline was saved
and loaded. -/
theorem Pipeline.number_fresh_started :
    Reachable Specimen.toolbox Specimen.started ∧ ∃ b ∈ Specimen.started.blocks,
      (Specimen.started.after Specimen.clearing).added? Specimen.source = some b.id ∧
        ∃ before rest, Specimen.clearing = before ++ .reload :: rest ∧
          (∃ q, Pipeline.ofJson (Specimen.started.after before).toJson
            (Specimen.started.after before).toolbox = .ok q) ∧
          ∀ b' ∈ (Specimen.started.after before).blocks, b'.id.number < b.id.number := by
  have hmem : Block.source ⟨0⟩ "in" (Specimen.text "in" true) Specimen.place ∈
      Specimen.started.blocks := by decide
  refine ⟨Specimen.reachable_started, _, hmem, Specimen.added?_cleared, ?_⟩
  exact (Reachable.number_fresh Specimen.reachable_started hmem Specimen.clearing
    Specimen.added?_cleared).resolve_left (Nat.lt_irrefl _)

/-- Saving and loading makes the difference: without it the next block gets a number of its own. -/
theorem Pipeline.number_given_again :
    Reachable Specimen.toolbox Specimen.started ∧
      (∃ b ∈ Specimen.started.blocks, b.id = ⟨0⟩) ∧
      (Specimen.started.after [.edit (.delete ⟨0⟩)]).added? Specimen.source = some ⟨1⟩ ∧
      (Specimen.started.after [.edit (.delete ⟨0⟩), .reload]).added? Specimen.source =
        some ⟨0⟩ :=
  ⟨Specimen.reachable_started, by decide, by decide, Specimen.added?_cleared⟩

end Flowscript
