import Flowscript.Pipeline.Document
import Flowscript.Proofs.Pipeline.Connecting

/-!
# Putting blocks back in

A document is loaded by putting its blocks back in, one after the other, and then making its
connections again.  This file says when a block can be put back and what the pipeline is then, and
that a pipeline that was loaded is consistent.

* `Pipeline.Restorable` is what a block has to satisfy, and `Pipeline.inserted` the result.
* `Pipeline.restoreAll_cons` takes one block off a list.
* `Pipeline.restoreAll_eq_ok` says when a whole list can be put back, and
  `Pipeline.restoreModules_eq` reduces the blocks of modules to blocks.
* `Pipeline.Consistent.ofDocument` is the invariant.
-/

set_option autoImplicit false

namespace Flowscript

namespace Pipeline

/-! ## One block -/

/-- The pipeline with one block more. -/
def inserted (p : Pipeline) (b : Block) : Pipeline :=
  { p with ids := p.ids.observe b.id, blocks := p.blocks ++ [b], unsaved := true }

/-- What a block has to satisfy to be put back in. -/
structure Restorable (p : Pipeline) (b : Block) : Prop where
  known : ∀ port ∈ b.inputs ++ b.outputs, p.toolbox.formats.contains port.format = true
  free : p.block? b.id = none

theorem checkFormats_eq_ok_iff {p : Pipeline} {formats : List String} :
    p.checkFormats formats = .ok () ↔ ∀ f ∈ formats, p.toolbox.formats.contains f = true := by
  induction formats with
  | nil => simp [checkFormats]
  | cons f rest ih =>
    rw [checkFormats, checkFormat]
    cases hf : p.toolbox.formats.contains f with
    | false => simp [hf]
    | true => simp [hf, ih]

/-- **A block can be put back exactly if it fits, and the result is known.** -/
theorem restore_eq_ok_iff {p q : Pipeline} {b : Block} :
    p.restore b = (.ok (), q) ↔ p.Restorable b ∧ q = p.inserted b := by
  rw [restore]
  cases hc : p.checkFormats ((b.inputs ++ b.outputs).map (·.format)) with
  | error e =>
    simp only [Prod.mk.injEq, reduceCtorEq, false_and, false_iff]
    rintro ⟨⟨hknown, -⟩, -⟩
    have hok : p.checkFormats ((b.inputs ++ b.outputs).map (·.format)) = .ok () := by
      rw [checkFormats_eq_ok_iff]
      intro f hf
      obtain ⟨port, hport, rfl⟩ := List.mem_map.1 hf
      exact hknown port hport
    rw [hok] at hc
    cases hc
  | ok u =>
    have hknown : ∀ port ∈ b.inputs ++ b.outputs,
        p.toolbox.formats.contains port.format = true :=
      fun port hport => checkFormats_eq_ok_iff.1 hc _ (List.mem_map_of_mem hport)
    rw [insert]
    cases hb : p.block? b.id with
    | some other =>
      simp only [Prod.mk.injEq, reduceCtorEq, false_and, false_iff]
      rintro ⟨⟨-, hfree⟩, -⟩
      rw [hb] at hfree
      cases hfree
    | none =>
      simp only [Prod.mk.injEq, true_and]
      exact ⟨fun h => ⟨⟨hknown, hb⟩, h.symm⟩, fun h => h.2.symm⟩

theorem Restorable.restore_eq {p : Pipeline} {b : Block} (h : p.Restorable b) :
    p.restore b = (.ok (), p.inserted b) :=
  restore_eq_ok_iff.2 ⟨h, rfl⟩

theorem Consistent.inserted {p : Pipeline} (h : p.Consistent) {b : Block}
    (hf : b.Fresh p.toolbox) (hb : p.block? b.id = none) : (p.inserted b).Consistent := by
  refine h.add hf hb rfl rfl rfl ?_ ?_ (Nat.le_refl _)
  · exact Nat.le_max_left _ _
  · exact Nat.lt_of_lt_of_le (Nat.lt_succ_self _) (Nat.le_max_right _ _)

/-! ## Several blocks -/

/-- Restoring a list of blocks starts with the first. -/
theorem restoreAll_cons {p q : Pipeline} {b : Block} {rest : List Block} :
    p.restoreAll (b :: rest) = .ok q ↔
      p.Restorable b ∧ (p.inserted b).restoreAll rest = .ok q := by
  rw [restoreAll]
  rcases hr : p.restore b with ⟨_ | ⟨⟩, p'⟩
  · simp only [reduceCtorEq, false_iff]
    rintro ⟨hb, -⟩
    rw [hb.restore_eq] at hr
    cases hr
  · obtain ⟨hb, rfl⟩ := restore_eq_ok_iff.1 hr
    exact ⟨fun h => ⟨hb, h⟩, fun h => h.2⟩

/-- Restoring modules is restoring their blocks, once their definitions are found. -/
theorem restoreModules_eq {α : Type} (entry : α → ModuleEntry) (block : α → Block)
    (items : List α) :
    ∀ {p : Pipeline}, (∀ a ∈ items, ∃ d, p.toolbox.get? (entry a).name = some d ∧
        block a = .ofModule (entry a).id d (entry a).position) →
      p.restoreModules (items.map entry) = p.restoreAll (items.map block) := by
  induction items with
  | nil => exact fun _ => rfl
  | cons a rest ih =>
    intro p h
    obtain ⟨d, hd, hblock⟩ := h a List.mem_cons_self
    rw [List.map_cons, List.map_cons, restoreModules, restoreAll]
    simp only [Toolbox.module_eq_ok_iff.2 hd, ← hblock]
    rcases hr : p.restore (block a) with ⟨_ | ⟨⟩, p'⟩
    · rfl
    · obtain ⟨-, rfl⟩ := restore_eq_ok_iff.1 hr
      exact ih fun b hb => h b (List.mem_cons_of_mem _ hb)

theorem restoreAll_append (as bs : List Block) :
    ∀ p : Pipeline, p.restoreAll (as ++ bs) = (p.restoreAll as).bind (·.restoreAll bs) := by
  induction as with
  | nil => exact fun _ => rfl
  | cons a as ih =>
    intro p
    rw [List.cons_append, restoreAll, restoreAll]
    rcases p.restore a with ⟨_ | ⟨⟩, p'⟩
    · rfl
    · exact ih p'

theorem restoreAll_toolbox (bs : List Block) :
    ∀ {p q : Pipeline}, p.restoreAll bs = .ok q → q.toolbox = p.toolbox := by
  induction bs with
  | nil =>
    intro p q h
    cases h
    rfl
  | cons b rest ih =>
    intro p q h
    exact ih (p := p.inserted b) (restoreAll_cons.1 h).2

/-- **Blocks with different numbers and known formats can be put back one after the other.** -/
theorem restoreAll_eq_ok (bs : List Block) :
    ∀ {p : Pipeline}, (∀ b ∈ bs, ∀ port ∈ b.inputs ++ b.outputs,
        p.toolbox.formats.contains port.format = true) →
      (bs.map (·.id)).Nodup → (∀ b ∈ bs, p.block? b.id = none) →
      ∃ q, p.restoreAll bs = .ok q ∧ q.blocks = p.blocks ++ bs ∧
        q.connections = p.connections ∧ q.name = p.name := by
  induction bs with
  | nil => exact fun {p} _ _ _ => ⟨p, rfl, (List.append_nil _).symm, rfl, rfl⟩
  | cons b rest ih =>
    intro p hknown hnodup hfree
    rw [List.map_cons, List.nodup_cons] at hnodup
    have hb : p.Restorable b := ⟨hknown b List.mem_cons_self, hfree b List.mem_cons_self⟩
    have hrest : ∀ b' ∈ rest, (p.inserted b).block? b'.id = none := by
      intro b' hb'
      have hne : b'.id ≠ b.id := fun he => hnodup.1 (he ▸ List.mem_map_of_mem hb')
      rw [block?_add (p := p) rfl hb.free, if_neg hne]
      exact hfree b' (List.mem_cons_of_mem _ hb')
    obtain ⟨q, hq, hblocks, hconn, hname⟩ := ih (p := p.inserted b)
      (fun b' hb' => hknown b' (List.mem_cons_of_mem _ hb')) hnodup.2 hrest
    refine ⟨q, restoreAll_cons.2 ⟨hb, hq⟩, ?_, hconn, hname⟩
    rw [hblocks]
    exact List.append_assoc _ _ _

/-- A block that is fresh once the formats of its ports are known. -/
def Restores (t : Toolbox) (b : Block) : Prop :=
  (∀ port ∈ b.inputs ++ b.outputs, t.formats.contains port.format = true) → b.Fresh t

theorem restores_source (t : Toolbox) (id : BlockId) (column : String) (parameter : Parameter)
    (position : Position) : Restores t (.source id column parameter position) :=
  fun h => .source id column position (h _ (List.mem_singleton_self _))

theorem restores_sink (t : Toolbox) (id : BlockId) (column : String) (parameter : Parameter)
    (position : Position) : Restores t (.sink id column parameter position) :=
  fun h => .sink id column position (h _ (List.mem_singleton_self _))

/-! ## The invariant -/

theorem Consistent.restoreAll {bs : List Block} :
    ∀ {p q : Pipeline}, p.Consistent → (∀ b ∈ bs, Restores p.toolbox b) →
      p.restoreAll bs = .ok q → q.Consistent := by
  induction bs with
  | nil =>
    intro p q hp _ hq
    cases hq
    exact hp
  | cons b rest ih =>
    intro p q hp hbs hq
    obtain ⟨hb, hq⟩ := restoreAll_cons.1 hq
    have hins := hp.inserted (hbs b List.mem_cons_self hb.known) hb.free
    exact ih (p := p.inserted b) hins (fun b' hb' => hbs b' (List.mem_cons_of_mem _ hb')) hq

theorem Consistent.restoreModules {entries : List ModuleEntry} :
    ∀ {p q : Pipeline}, p.Consistent → p.restoreModules entries = .ok q →
      q.Consistent ∧ q.toolbox = p.toolbox := by
  induction entries with
  | nil =>
    intro p q hp hq
    cases hq
    exact ⟨hp, rfl⟩
  | cons m rest ih =>
    intro p q hp hq
    rw [Pipeline.restoreModules] at hq
    cases hm : p.toolbox.module m.name with
    | error e => simp [hm] at hq
    | ok definition =>
      simp only [hm] at hq
      rcases hr : p.restore (.ofModule m.id definition m.position) with ⟨_ | ⟨⟩, p'⟩
      · simp [hr] at hq
      · simp only [hr] at hq
        obtain ⟨hb, rfl⟩ := restore_eq_ok_iff.1 hr
        have hget := Toolbox.module_eq_ok_iff.1 hm
        have hf : Block.Fresh p.toolbox (.ofModule m.id definition m.position) := by
          refine .ofModule m.id m.position ?_
          rw [(Toolbox.mem_of_get? hget).2]
          exact hget
        obtain ⟨hcons, hqt⟩ := ih (hp.inserted hf hb.free) hq
        exact ⟨hcons, hqt⟩

theorem connect_toolbox (p : Pipeline) (source target : PortRef) :
    (p.connect source target).2.toolbox = p.toolbox := by
  by_cases hj : p.Joinable source target
  · rw [connect_of_joinable hj]
    rfl
  · rw [connect_of_not_joinable hj]

theorem Consistent.restoreConnections {entries : List ConnectionEntry} :
    ∀ {p q : Pipeline}, p.Consistent → p.restoreConnections entries = .ok q →
      q.Consistent ∧ q.toolbox = p.toolbox := by
  induction entries with
  | nil =>
    intro p q hp hq
    cases hq
    exact ⟨hp, rfl⟩
  | cons c rest ih =>
    intro p q hp hq
    rw [Pipeline.restoreConnections] at hq
    cases hs : p.resolve c.start .output with
    | error e => simp [hs, bind, Except.bind] at hq
    | ok source =>
      cases ht : p.resolve c.stop .input with
      | error e => simp [hs, ht, bind, Except.bind] at hq
      | ok target =>
        simp only [hs, ht, bind, Except.bind] at hq
        have hc := hp.connect source target
        have htool := connect_toolbox p source target
        rcases hr : p.connect source target with ⟨_ | id, p'⟩
        · simp [hr] at hq
        · simp only [hr] at hq hc htool
          obtain ⟨hcons, hqt⟩ := ih hc hq
          exact ⟨hcons, hqt.trans htool⟩

/-- **What a document is loaded into is consistent.** -/
theorem Consistent.ofDocument {d : PipelineDocument} {t : Toolbox} {q : Pipeline}
    (h : Pipeline.ofDocument d t = .ok q) : q.Consistent ∧ q.toolbox = t := by
  rw [Pipeline.ofDocument] at h
  simp only [bind, Except.bind] at h
  split at h
  · cases h
  rename_i p₁ h₁
  split at h
  · cases h
  rename_i p₂ h₂
  split at h
  · cases h
  rename_i p₃ h₃
  split at h
  · cases h
  rename_i p₄ h₄
  cases h
  have hc₁ := (Consistent.empty d.name t).restoreAll (fun b hb => by
    obtain ⟨s, -, rfl⟩ := List.mem_map.1 hb
    exact restores_source _ _ _ _ _) h₁
  have hc₂ := hc₁.restoreAll (fun b hb => by
    obtain ⟨s, -, rfl⟩ := List.mem_map.1 hb
    exact restores_sink _ _ _ _ _) h₂
  obtain ⟨hc₃, ht₃⟩ := hc₂.restoreModules h₃
  obtain ⟨hc₄, ht₄⟩ := hc₃.restoreConnections h₄
  refine ⟨hc₄.markSaved, ?_⟩
  change p₄.toolbox = t
  rw [ht₄, ht₃, restoreAll_toolbox _ h₂, restoreAll_toolbox _ h₁]
  rfl

end Pipeline

end Flowscript
