import Flowscript.Host.Storage
import Flowscript.Proofs.Pipeline.Refusals

/-!
# Unsaved changes

Every kind of edit says for itself that there is something left to be saved.  Loading goes through
the same edits and takes the mark off in the end, and so do saving and an edit that does nothing
else.  An edit that forgets to say so would be lost without a question, and one that is refused must
not ask for anything to be saved.

* `Pipeline.Step` is what may happen to the pipeline at hand, and `Pipeline.run` the pipeline after
  some steps.
* `Pipeline.Changes` are the steps that leave something to be saved, and `Pipeline.Settles` those
  after which there is nothing.
* `Pipeline.Consistent.unsaved_step` is the step, and `Pipeline.Consistent.unsaved_run` the run.
* `Pipeline.Opened.unsaved_iff` is the result for pipelines that start out new or loaded.
-/

set_option autoImplicit false

namespace Flowscript

namespace Pipeline

/-! ## Steps -/

/-- What may happen to the pipeline at hand: it is edited or written to a file, or another one takes
its place, loaded from a text or new. -/
inductive Step where
  | edit (e : Edit)
  | save (h : Host) (path : String)
  | load (text : String) (t : Toolbox)
  | new (name : String) (t : Toolbox)

/-- The pipeline at hand after a step.  It stays as it is where it cannot be written, and where none
can be loaded. -/
def step (p : Pipeline) : Step → Pipeline
  | .edit e => p.edit e
  | .save h path =>
    match p.save h path with
    | .ok (q, _) => q
    | .error _ => p
  | .load text t =>
    match ofJson text t with
    | .ok q => q
    | .error _ => p
  | .new name t => .empty name t

/-- The pipeline at hand after some steps. -/
def run (p : Pipeline) (steps : List Step) : Pipeline := steps.foldl step p

/-- The step is an edit that is not refused, and not the one that marks the pipeline as saved. -/
def Changes (p : Pipeline) (s : Step) : Prop :=
  ∃ e, s = .edit e ∧ e ≠ .markSaved ∧ p.refusal? e = none

/-- The pipeline is marked as saved, or written, or another one has taken its place. -/
inductive Settles (p : Pipeline) : Step → Prop
  | marked : Settles p (.edit .markSaved)
  | written {h h' : Host} {path : String} {q : Pipeline} (hw : p.save h path = .ok (q, h')) :
      Settles p (.save h path)
  | loaded {text : String} {t : Toolbox} {q : Pipeline} (hl : ofJson text t = .ok q) :
      Settles p (.load text t)
  | new (name : String) (t : Toolbox) : Settles p (.new name t)

/-- None of the steps settles the pipeline when its turn comes. -/
def Unsettled : Pipeline → List Step → Prop
  | _, [] => True
  | p, s :: rest => ¬p.Settles s ∧ (p.step s).Unsettled rest

/-- A pipeline as it is at first: new, or loaded. -/
inductive Opened : Pipeline → Prop
  | new (name : String) (t : Toolbox) : Opened (.empty name t)
  | loaded {text : String} {t : Toolbox} {p : Pipeline} (h : ofJson text t = .ok p) : Opened p

variable {p q : Pipeline}

theorem run_cons (p : Pipeline) (s : Step) (rest : List Step) :
    p.run (s :: rest) = (p.step s).run rest := rfl

theorem run_append (p : Pipeline) (before after : List Step) :
    p.run (before ++ after) = (p.run before).run after :=
  List.foldl_append

/-! ## The mark -/

theorem failure?_eq_none_iff {ε α : Type} {r : Except ε α} :
    failure? r = none ↔ ∃ a, r = .ok a := by
  cases r with
  | error e => exact ⟨nofun, fun ⟨_, h⟩ => nomatch h⟩
  | ok a => exact ⟨fun _ => ⟨a, rfl⟩, fun _ => rfl⟩

theorem unsaved_of_insertNew {make : BlockId → Block} {id : BlockId}
    (h : (p.insertNew make).1 = .ok id) : (p.insertNew make).2.unsaved = true := by
  rw [insertNew] at h ⊢
  simp only [insert] at h ⊢
  cases hb : block? { p with ids := p.ids.takeBlock.2 } (make p.ids.takeBlock.1).id with
  | some b => simp [hb] at h
  | none => rfl

/-- **An edit that is not refused leaves something to be saved**, unless it says that there is
nothing. -/
theorem unsaved_of_granted {e : Edit} (he : e ≠ .markSaved) (h : p.refusal? e = none) :
    (p.edit e).unsaved = true := by
  cases e with
  | addSource column parameter position =>
    obtain ⟨id, hid⟩ := failure?_eq_none_iff.1 h
    rw [edit]
    rw [addSource] at hid ⊢
    cases hc : p.checkFormat parameter.format with
    | error e => simp [hc] at hid
    | ok _ =>
      simp only [hc] at hid
      exact unsaved_of_insertNew hid
  | addSink column parameter position =>
    obtain ⟨id, hid⟩ := failure?_eq_none_iff.1 h
    rw [edit]
    rw [addSink] at hid ⊢
    cases hc : p.checkFormat parameter.format with
    | error e => simp [hc] at hid
    | ok _ =>
      simp only [hc] at hid
      exact unsaved_of_insertNew hid
  | addModule name position =>
    obtain ⟨id, hid⟩ := failure?_eq_none_iff.1 h
    rw [edit]
    rw [addModule] at hid ⊢
    cases hm : p.toolbox.module name with
    | error e => simp [hm] at hid
    | ok definition =>
      simp only [hm] at hid
      exact unsaved_of_insertNew hid
  | connect source target =>
    obtain ⟨id, hid⟩ := failure?_eq_none_iff.1 h
    obtain ⟨hj, -, -⟩ := connect_eq_ok_iff.1 (Prod.ext hid rfl)
    rw [edit, connect_of_joinable hj]
    rfl
  | disconnect id =>
    obtain ⟨c, hc⟩ := failure?_eq_none_iff.1 h
    rw [edit]
    rw [disconnect] at hc ⊢
    cases hf : p.connection? id with
    | none => simp [hf] at hc
    | some c => rfl
  | delete id =>
    obtain ⟨b, hb⟩ := failure?_eq_none_iff.1 h
    rw [edit]
    rw [delete] at hb ⊢
    cases hfind : p.block? id with
    | none => simp [hfind] at hb
    | some found =>
      rcases hall : p.disconnectAll found.touching with ⟨_ | _, q⟩
      · simp [hfind, hall] at hb
      · simp only [hfind, hall] at hb ⊢
        cases hagain : q.block? id with
        | none => simp [hagain] at hb
        | some _ => rfl
  | move id position =>
    obtain ⟨_, hm⟩ := failure?_eq_none_iff.1 h
    rw [edit]
    rw [move] at hm ⊢
    cases hb : p.block? id with
    | none => simp [hb] at hm
    | some b => rfl
  | rename name => rfl
  | markSaved => exact absurd rfl he

theorem unsaved_of_ofJson {text : String} {t : Toolbox} (h : ofJson text t = .ok p) :
    p.unsaved = false := by
  rw [ofJson] at h
  cases hd : PipelineDocument.ofJson text with
  | error e => simp [hd, bind, Except.bind] at h
  | ok d =>
    simp only [hd, bind, Except.bind, ofDocument] at h
    repeat' split at h
    all_goals cases h
    rfl

/-- After a step that settles the pipeline there is nothing to be saved. -/
theorem Settles.unsaved_eq_false {s : Step} (h : p.Settles s) : (p.step s).unsaved = false := by
  cases h with
  | marked => rfl
  | @written h h' path q hw =>
    rw [step, hw]
    rw [save] at hw
    split at hw
    · cases hw
    · cases hw
      rfl
  | loaded hl =>
    rw [step, hl]
    exact unsaved_of_ofJson hl
  | new name t => rfl

theorem Changes.not_settles {s : Step} (h : p.Changes s) : ¬p.Settles s := by
  obtain ⟨e, rfl, he, -⟩ := h
  rintro ⟨⟩
  exact he rfl

namespace Consistent

/-- A step that neither changes nor settles the pipeline does nothing. -/
theorem step_eq_self (h : p.Consistent) {s : Step} (hc : ¬p.Changes s) (hs : ¬p.Settles s) :
    p.step s = p := by
  cases s with
  | edit e =>
    have he : e ≠ .markSaved := fun he => hs (he ▸ .marked)
    have hrefused : p.refusal? e ≠ none := fun hr => hc ⟨e, rfl, he, hr⟩
    exact edit_of_objection (h.refusal?_eq e ▸ hrefused)
  | save host path =>
    cases hw : p.save host path with
    | error e => rw [step, hw]
    | ok r =>
      have hsaved : p.save host path = .ok (r.1, r.2) := hw
      exact absurd (.written hsaved) hs
  | load text t =>
    cases hl : Pipeline.ofJson text t with
    | error e => rw [step, hl]
    | ok q => exact absurd (.loaded hl) hs
  | new name t => exact absurd (.new name t) hs

/-- **After a step there is something to be saved** if the step is a change, or if there was before
and the step does not settle the pipeline. -/
theorem unsaved_step (h : p.Consistent) (s : Step) :
    (p.step s).unsaved = true ↔ p.Changes s ∨ p.unsaved = true ∧ ¬p.Settles s := by
  by_cases hs : p.Settles s
  · rw [hs.unsaved_eq_false]
    exact ⟨nofun, fun hr => hr.elim (absurd hs ·.not_settles) (absurd hs ·.2)⟩
  · by_cases hc : p.Changes s
    · obtain ⟨e, rfl, he, hr⟩ := hc
      exact ⟨fun _ => .inl ⟨e, rfl, he, hr⟩, fun _ => unsaved_of_granted he hr⟩
    · rw [h.step_eq_self hc hs]
      exact ⟨fun hu => .inr ⟨hu, hs⟩, fun hr => hr.elim (absurd · hc) (·.1)⟩

theorem step (h : p.Consistent) (s : Step) : (p.step s).Consistent := by
  cases s with
  | edit e => exact h.edit e
  | save host path =>
    rw [Pipeline.step, save]
    cases host.write? path p.toJson with
    | none => exact h
    | some _ => exact h.markSaved
  | load text t =>
    rw [Pipeline.step]
    cases hl : Pipeline.ofJson text t with
    | error e => exact h
    | ok q => exact (Consistent.ofJson hl).1
  | new name t => exact .empty name t

/-! ## Runs -/

/-- **Along a run, something is to be saved exactly if there was a change**, or something to be
saved at first, and no step settled the pipeline since then. -/
theorem unsaved_run (steps : List Step) : ∀ {p : Pipeline}, p.Consistent →
    ((p.run steps).unsaved = true ↔
      (∃ before s after, steps = before ++ s :: after ∧ (p.run before).Changes s ∧
        (p.run (before ++ [s])).Unsettled after) ∨
      p.unsaved = true ∧ p.Unsettled steps) := by
  induction steps with
  | nil =>
    intro p _
    refine ⟨fun h => .inr ⟨h, trivial⟩, ?_⟩
    rintro (⟨before, s, after, heq, -⟩ | ⟨h, -⟩)
    · exact absurd heq.symm (by simp)
    · exact h
  | cons s rest ih =>
    intro p h
    rw [run_cons, ih (h.step s), h.unsaved_step s]
    constructor
    · rintro (⟨before, s', after, rfl, hc, hu⟩ | ⟨hc | ⟨hp, hs⟩, hu⟩)
      · exact .inl ⟨s :: before, s', after, rfl, hc, hu⟩
      · exact .inl ⟨[], s, rest, rfl, hc, hu⟩
      · exact .inr ⟨hp, hs, hu⟩
    · rintro (⟨before, s', after, heq, hc, hu⟩ | ⟨hp, hs, hu⟩)
      · cases before with
        | nil =>
          obtain ⟨rfl, rfl⟩ := List.cons.inj heq
          exact .inr ⟨.inl hc, hu⟩
        | cons s'' before =>
          obtain ⟨rfl, rfl⟩ := List.cons.inj heq
          exact .inl ⟨before, s', after, rfl, hc, hu⟩
      · exact .inr ⟨.inr ⟨hp, hs⟩, hu⟩

/-- Where nothing is to be saved, the steps since the pipeline was settled have done nothing. -/
theorem run_eq_self (steps : List Step) : ∀ {p : Pipeline}, p.Consistent → p.Unsettled steps →
    (p.run steps).unsaved = false → p.run steps = p := by
  induction steps with
  | nil => exact fun _ _ _ => rfl
  | cons s rest ih =>
    intro p h hu hsaved
    have hc : ¬p.Changes s := by
      intro hc
      have htrue := (h.unsaved_run (s :: rest)).2 (.inl ⟨[], s, rest, rfl, hc, hu.2⟩)
      rw [hsaved] at htrue
      cases htrue
    have hself := h.step_eq_self hc hu.1
    rw [run_cons] at hsaved ⊢
    rw [hself] at hsaved ⊢
    exact ih h (hself ▸ hu.2) hsaved

theorem run (h : p.Consistent) (steps : List Step) : (p.run steps).Consistent := by
  induction steps generalizing p with
  | nil => exact h
  | cons s rest ih => exact ih (h.step s)

end Consistent

/-! ## Pipelines that are new or loaded -/

theorem Opened.consistent (h : p.Opened) : p.Consistent := by
  cases h with
  | new name t => exact .empty name t
  | loaded h => exact (Consistent.ofJson h).1

theorem Opened.unsaved_eq_false (h : p.Opened) : p.unsaved = false := by
  cases h with
  | new name t => rfl
  | loaded h => exact unsaved_of_ofJson h

/-- **There is something to be saved exactly if an edit was granted since the pipeline was last new,
loaded or marked as saved.**  And where there is nothing to be saved, the document is the same as at
that time, and as at any time since. -/
theorem Opened.unsaved_iff (hp : p.Opened) (steps : List Step) :
    ((p.run steps).unsaved = true ↔
      ∃ before s after, steps = before ++ s :: after ∧ (p.run before).Changes s ∧
        (p.run (before ++ [s])).Unsettled after) ∧
      ((p.run steps).unsaved = false → ∀ before after, steps = before ++ after →
        (p.run before).Unsettled after → (p.run steps).toJson = (p.run before).toJson) := by
  refine ⟨?_, fun hsaved before after heq hu => ?_⟩
  · rw [hp.consistent.unsaved_run, hp.unsaved_eq_false]
    exact or_iff_left fun h => nomatch h.1
  · rw [heq, run_append] at hsaved ⊢
    rw [(hp.consistent.run before).run_eq_self after hu hsaved]

end Pipeline

/-! ## A specimen -/

namespace Specimen

/-- The history of edits, after which the pipeline is marked as saved. -/
def kept : List Pipeline.Step := (tangle ++ [Edit.markSaved]).map .edit

/-- Two edits that are refused: a block that is not there is deleted, and an input is connected for
a second time. -/
def refused : List Pipeline.Step :=
  [.edit (.delete ⟨9⟩), .edit (.connect (.output ⟨0⟩ 0) (.input ⟨2⟩ 0))]

theorem unsettled_refused (p : Pipeline) : p.Unsettled refused := ⟨nofun, nofun, trivial⟩

end Specimen

/-- Refused edits leave nothing to be saved and the document as it is, and a new name leaves
something. -/
theorem Pipeline.unsaved_iff_kept :
    (Pipeline.empty "tangle" Specimen.toolbox).Opened ∧
      ((Pipeline.empty "tangle" Specimen.toolbox).run
        (Specimen.kept ++ Specimen.refused)).unsaved = false ∧
      ((Pipeline.empty "tangle" Specimen.toolbox).run
          (Specimen.kept ++ Specimen.refused)).toJson =
        ((Pipeline.empty "tangle" Specimen.toolbox).run Specimen.kept).toJson ∧
      ((Pipeline.empty "tangle" Specimen.toolbox).run
        (Specimen.kept ++ .edit (.rename "knot") :: Specimen.refused)).unsaved = true := by
  have hopened : (Pipeline.empty "tangle" Specimen.toolbox).Opened := .new _ _
  have hsaved : ((Pipeline.empty "tangle" Specimen.toolbox).run
      (Specimen.kept ++ Specimen.refused)).unsaved = false := by decide
  refine ⟨hopened, hsaved, ?_, ?_⟩
  · exact (Opened.unsaved_iff hopened _).2 hsaved _ _ rfl (Specimen.unsettled_refused _)
  · exact (Opened.unsaved_iff hopened _).1.2 ⟨Specimen.kept, .edit (.rename "knot"),
      Specimen.refused, rfl, ⟨_, rfl, nofun, rfl⟩, Specimen.unsettled_refused _⟩

end Flowscript
