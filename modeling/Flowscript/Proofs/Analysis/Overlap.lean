import Mathlib.Data.List.Induction
import Mathlib.Logic.Function.Basic
import Flowscript.Analysis.Basic

/-!
# Runs that overlap

Several callers may run and clean one analysis.  What they share is its state, which each of them
looks at and sets in single steps, and between these steps the others get their turns.  A run takes
three steps: it begins unless another run is in flight, it sets the state it ends with, and then it
lets go, which marks a run that has set nothing as failed.

* `Move` is a step of a call, and `Shared.move?` what it does, by `RunState.enter?`,
  `RunState.leave` and `RunState.clean`.
* `Analysis.runBeside_moves` says that the steps of one call make up `Analysis.runBeside`.
* `Shared.Exclusive` says that one run is in flight at most and that the state shows it, and
  `Shared.Late` is said of a run that lets go when another one is in flight already.
* `Analysis.exclusive_iff_never_late` says that this is the only way in which runs come to overlap.
-/

set_option autoImplicit false

namespace Flowscript

/-- How far a call that runs an analysis has come. -/
inductive Stage where
  | waiting
  /-- The call has begun a run, which is in flight. -/
  | working
  /-- The run is over and its last state is set. -/
  | settled
  | gone
  deriving DecidableEq, Repr

/-- The state of an analysis, with all calls that share it. -/
structure Shared where
  state : RunState
  stage : Nat → Stage

/-- A step of a call.  Between two steps of a call there may be steps of others. -/
inductive Move where
  | enter (call : Nat)
  | settle (call : Nat) (last : RunState)
  /-- Lets go, at the end of a run or when it is given up. -/
  | release (call : Nat)
  | clean
  deriving DecidableEq, Repr

namespace Shared

/-- The same state with one call further on. -/
def advance (s : Shared) (state : RunState) (call : Nat) (stage : Stage) : Shared :=
  ⟨state, Function.update s.stage call stage⟩

/-- What a step does, if it is the call's turn for it. -/
def move? (s : Shared) : Move → Option Shared
  | .enter call =>
    if s.stage call = .waiting then
      match s.state.enter? with
      | some begun => some (s.advance begun call .working)
      | none => some (s.advance s.state call .gone)
    else none
  | .settle call last =>
    if s.stage call = .working then some (s.advance last call .settled) else none
  | .release call =>
    if s.stage call = .working ∨ s.stage call = .settled then
      some (s.advance s.state.leave call .gone)
    else none
  | .clean => some { s with state := s.state.clean }

/-- What some steps do, one after the other. -/
def moves? (s : Shared) (moves : List Move) : Option Shared := moves.foldlM move? s

/-- The ways in which a step can go. -/
inductive Moves (s : Shared) : Move → Shared → Prop
  | begin {call : Nat} (hcall : s.stage call = .waiting) (hstate : s.state ≠ .running) :
      Moves s (.enter call) (s.advance .running call .working)
  | refuse {call : Nat} (hcall : s.stage call = .waiting) (hstate : s.state = .running) :
      Moves s (.enter call) (s.advance .running call .gone)
  | settle {call : Nat} {last : RunState} (hcall : s.stage call = .working) :
      Moves s (.settle call last) (s.advance last call .settled)
  | giveUp {call : Nat} (hcall : s.stage call = .working) :
      Moves s (.release call) (s.advance s.state.leave call .gone)
  | letGo {call : Nat} (hcall : s.stage call = .settled) :
      Moves s (.release call) (s.advance s.state.leave call .gone)
  | clean : Moves s .clean { s with state := s.state.clean }

variable {s s' : Shared} {m : Move}

theorem moves_of_move? (h : s.move? m = some s') : Moves s m s' := by
  cases m with
  | enter call =>
    rw [move?] at h
    split at h
    · rename_i hcall
      by_cases hstate : s.state = .running
      · rw [RunState.enter?, if_pos hstate] at h
        cases h
        rw [hstate]
        exact .refuse hcall hstate
      · rw [RunState.enter?, if_neg hstate] at h
        cases h
        exact .begin hcall hstate
    · cases h
  | settle call last =>
    rw [move?] at h
    split at h
    · rename_i hcall
      cases h
      exact .settle hcall
    · cases h
  | release call =>
    rw [move?] at h
    split at h
    · rename_i hcall
      cases h
      exact hcall.elim .giveUp .letGo
    · cases h
  | clean =>
    cases h
    exact .clean

theorem moves?_append {before : List Move} :
    s.moves? (before ++ [m]) = (s.moves? before).bind fun t => t.move? m := by
  rw [moves?, List.foldlM_append]
  congr 1
  funext t
  simp

/-! ## One run at a time -/

/-- One run is in flight at most, and the state shows it. -/
structure Exclusive (s : Shared) : Prop where
  single : ∀ i j, s.stage i = .working → s.stage j = .working → i = j
  shown : ∀ i, s.stage i = .working → s.state = .running

/-- A run that is over lets go when another one is in flight. -/
def Late (s : Shared) : Move → Prop
  | .release call => s.stage call = .settled ∧ ∃ other, s.stage other = .working
  | _ => False

theorem stage_advance_of_ne {state : RunState} {call other : Nat} {stage : Stage}
    (h : other ≠ call) : (s.advance state call stage).stage other = s.stage other :=
  Function.update_of_ne h _ _

theorem stage_advance_self {state : RunState} {call : Nat} {stage : Stage} :
    (s.advance state call stage).stage call = stage :=
  Function.update_self _ _ _

/-- A call that is not at work afterwards leaves the others as they were. -/
theorem working_of_advance {state : RunState} {call i : Nat} {stage : Stage}
    (hstage : stage ≠ .working) (hi : (s.advance state call stage).stage i = .working) :
    i ≠ call ∧ s.stage i = .working := by
  by_cases heq : i = call
  · subst heq
    rw [stage_advance_self] at hi
    exact absurd hi hstage
  · rw [stage_advance_of_ne heq] at hi
    exact ⟨heq, hi⟩

theorem Exclusive.of_none (h : ∀ i, s.stage i ≠ .working) : s.Exclusive :=
  ⟨fun i _ hi _ => absurd hi (h i), fun i hi => absurd hi (h i)⟩

/-- When the one run in flight is over, none is. -/
theorem Exclusive.of_working (h : s.Exclusive) {state : RunState} {call : Nat} {stage : Stage}
    (hcall : s.stage call = .working) (hstage : stage ≠ .working) :
    (s.advance state call stage).Exclusive := by
  refine .of_none fun i hi => ?_
  obtain ⟨hne, hi⟩ := working_of_advance hstage hi
  exact hne (h.single i call hi hcall)

/-- **A step leaves one run in flight at most, and shown, exactly if it does not let go late.** -/
theorem Moves.exclusive_iff (hm : Moves s m s') (h : s.Exclusive) : s'.Exclusive ↔ ¬s.Late m := by
  cases hm with
  | @begin call hcall hstate =>
    have hnone : ∀ i, s.stage i ≠ .working := fun i hi => hstate (h.shown i hi)
    have hself : ∀ i, (s.advance .running call .working).stage i = .working → i = call := by
      intro i hi
      by_contra hne
      rw [stage_advance_of_ne hne] at hi
      exact hnone i hi
    exact iff_of_true ⟨fun i j hi hj => (hself i hi).trans (hself j hj).symm, fun _ _ => rfl⟩ id
  | @refuse call hcall hstate =>
    refine iff_of_true ⟨fun i j hi hj => ?_, fun _ _ => rfl⟩ id
    exact h.single i j (working_of_advance (by decide) hi).2 (working_of_advance (by decide) hj).2
  | settle hcall => exact iff_of_true (h.of_working hcall (by decide)) id
  | giveUp hcall =>
    refine iff_of_true (h.of_working hcall (by decide)) ?_
    rintro ⟨hsettled, -⟩
    rw [hcall] at hsettled
    cases hsettled
  | @letGo call hcall =>
    constructor
    · rintro h' ⟨-, other, hother⟩
      -- The other run is still in flight, but its state has been taken for that of a failed one.
      have hne : other ≠ call := by
        rintro rfl
        rw [hcall] at hother
        cases hother
      have hshown := h'.shown other ((stage_advance_of_ne hne).trans hother)
      rw [advance, h.shown other hother] at hshown
      cases hshown
    · intro hlate
      refine .of_none fun i hi => ?_
      exact hlate ⟨hcall, i, (working_of_advance (by decide) hi).2⟩
  | clean =>
    refine iff_of_true ⟨h.single, fun i hi => ?_⟩ id
    have hrunning := h.shown i hi
    simp only [RunState.clean, hrunning, if_true]

/-- **Along a whole schedule, one run is in flight at most, and shown, exactly if no run lets go
late.** -/
theorem Exclusive.throughout_iff (h : s.Exclusive) {moves : List Move}
    (hmoves : s.moves? moves = some s') :
    (∀ before, before <+: moves → ∀ t, s.moves? before = some t → t.Exclusive) ↔
      ∀ before m, before ++ [m] <+: moves → ∀ t, s.moves? before = some t → ¬t.Late m := by
  constructor
  · intro hall before m hbefore t ht
    obtain ⟨rest, hrest⟩ := hbefore
    obtain ⟨t', ht'⟩ : ∃ t', s.moves? (before ++ [m]) = some t' := by
      rw [← hrest, moves?, List.foldlM_append] at hmoves
      obtain ⟨t', ht', -⟩ := Option.bind_eq_some_iff.1 hmoves
      exact ⟨t', ht'⟩
    have hmove : t.move? m = some t' := by
      rw [moves?_append, ht] at ht'
      exact ht'
    refine ((moves_of_move? hmove).exclusive_iff ?_).1 (hall _ ⟨rest, hrest⟩ t' ht')
    exact hall before ((List.prefix_append _ _).trans ⟨rest, hrest⟩) t ht
  · intro hlate before
    -- The last step of the schedule so far is undone.
    induction before using List.reverseRecOn with
    | nil =>
      intro _ t ht
      cases ht
      exact h
    | append_singleton before m ih =>
      intro hbefore t ht
      rw [moves?_append] at ht
      obtain ⟨t', ht', hmove⟩ := Option.bind_eq_some_iff.1 ht
      have hexclusive := ih ((List.prefix_append _ _).trans hbefore) t' ht'
      exact ((moves_of_move? hmove).exclusive_iff hexclusive).2 (hlate before m hbefore t' ht')

end Shared

/-! ## The steps of one call -/

namespace Analysis

/-- An analysis before any of its calls has begun. -/
def shared (a : Analysis) : Shared := ⟨a.state, fun _ => .waiting⟩

/-- The steps of a call that ends with a result, if nobody else has a turn. -/
def movesOf : Except AnalysisError RunOutcome → List Move
  | .ok outcome => [.enter 0, .settle 0 outcome.state, .release 0]
  | .error .alreadyRunning => [.enter 0]
  | .error _ => [.enter 0, .release 0]

/-- What the phases of a run lead to: a last state, or an error on the way. -/
def IsEnding : Except AnalysisError (RunState × Option Int) → Prop
  | .ok (last, _) => last = .succeeded ∨ last = .failed ∨ last = .timedOut
  | .error e => e ≠ .alreadyRunning

theorem openLog_error {a : Analysis} {h h' : Host} {name : String} {e : AnalysisError}
    (ho : a.openLog h name = (.error e, h')) : e ≠ .alreadyRunning := by
  rw [openLog] at ho
  split at ho
  · cases ho
    simp
  · cases ho

theorem runMain_error {a : Analysis} {s s' : Session} {output errors : Nat}
    {cancelTime : Option Nat} {e : AnalysisError}
    (hm : a.runMain s output errors cancelTime = (.error e, s')) : e ≠ .alreadyRunning := by
  rw [runMain] at hm
  simp only at hm
  split at hm
  · cases hm
    simp
  · split at hm <;> cases hm

theorem isEnding_runPhases (a : Analysis) (s : Session) (cancelTime : Option Nat) :
    IsEnding (a.runPhases s cancelTime).1 := by
  rw [runPhases]
  split
  · simp [IsEnding]
  · split
    · simp [IsEnding]
    · split
      · simp [IsEnding]
      · split
        · rename_i hlog
          exact openLog_error hlog
        · split
          · rename_i hlog
            exact openLog_error hlog
          · split
            · rename_i hmain
              exact runMain_error hmain
            all_goals simp [IsEnding]

/-- Alone, a run leaves the state that it ends with. -/
theorem moves?_settled {a : Analysis} (hstate : a.state ≠ .running) {last : RunState}
    (hlast : last ≠ .running) :
    (a.shared.moves? [.enter 0, .settle 0 last, .release 0]).map (·.state) = some last := by
  simp [Shared.moves?, Shared.move?, shared, RunState.enter?, RunState.leave, hstate, hlast,
    Shared.advance]

/-- Alone, a run that is given up has failed. -/
theorem moves?_givenUp {a : Analysis} (hstate : a.state ≠ .running) :
    (a.shared.moves? [.enter 0, .release 0]).map (·.state) = some .failed := by
  simp [Shared.moves?, Shared.move?, shared, RunState.enter?, RunState.leave, hstate,
    Shared.advance]

/-- **A call that has all the turns runs the analysis.** -/
theorem runBeside_moves (a : Analysis) (s : Session) (cancelAfter : Option Nat) :
    (a.shared.moves? (movesOf (a.runBeside s cancelAfter).1)).map (·.state) =
      some (a.runBeside s cancelAfter).2.1.state := by
  rw [runBeside]
  by_cases hstate : a.state = .running
  · simp [RunState.enter?, hstate, movesOf, Shared.moves?, Shared.move?, shared, Shared.advance]
  · rw [RunState.enter?, if_neg hstate]
    simp only
    have hending := isEnding_runPhases a s (cancelAfter.map (s.host.now + ·))
    generalize a.runPhases s (cancelAfter.map (s.host.now + ·)) = phases at hending ⊢
    obtain ⟨e | ⟨last, code⟩, s'⟩ := phases
    · have hmoves : movesOf (.error e) = [.enter 0, .release 0] := by
        cases e with
        | alreadyRunning => exact absurd rfl hending
        | _ => rfl
      rw [hmoves, moves?_givenUp hstate]
      rfl
    · have hlast : last ≠ .running := by
        rintro rfl
        rcases hending with h | h | h <;> cases h
      exact moves?_settled hstate hlast

/-- A call that cleans takes one step. -/
theorem clean_moves {a a' : Analysis} {h h' : Host} {code : Int}
    (hclean : a.clean h = .ok (code, a', h')) :
    (a.shared.moves? [.clean]).map (·.state) = some a'.state := by
  rw [clean] at hclean
  split at hclean
  · cases hclean
  · cases hclean
    rfl

/-- **Runs of an analysis overlap only if one of them lets go late.**  Whatever the turns of the
calls and the ends of their runs, there is one run in flight at most and the state shows it, exactly
if no call that has set its last state lets go when another run is in flight. -/
theorem exclusive_iff_never_late (a : Analysis) {moves : List Move} {last : Shared}
    (hmoves : a.shared.moves? moves = some last) :
    (∀ before, before <+: moves → ∀ t, a.shared.moves? before = some t → t.Exclusive) ↔
      ∀ before call, before ++ [.release call] <+: moves →
        ∀ t, a.shared.moves? before = some t → t.stage call = .settled →
          ∀ other, t.stage other ≠ .working := by
  have hstart : a.shared.Exclusive := .of_none fun i hi => by cases hi
  rw [hstart.throughout_iff hmoves]
  constructor
  · intro hlate before call hbefore t ht hcall other hother
    exact hlate before (.release call) hbefore t ht ⟨hcall, other, hother⟩
  · intro hno before m hbefore t ht hm
    cases m with
    | release call =>
      obtain ⟨hcall, other, hother⟩ := hm
      exact hno before call hbefore t ht hcall other hother
    | enter => exact hm
    | settle => exact hm
    | clean => exact hm

end Analysis

/-! ## A specimen -/

namespace Specimen

/-- An analysis that has not been run. -/
def analysis : Analysis := ⟨"specimen", "out", .standard, .idle⟩

/-- The first run is over but lets go only when the second one is in flight, and a third one begins
beside the second. -/
def lateMoves : List Move :=
  [.enter 0, .settle 0 .succeeded, .enter 1, .release 0, .enter 2]

/-- A run that lets go before the next one begins. -/
def tidyMoves : List Move := [.enter 0, .settle 0 .succeeded, .release 0, .enter 1]

theorem not_late_tidyMoves {before : List Move} {call : Nat}
    (hbefore : before ++ [.release call] <+: tidyMoves) {t : Shared}
    (ht : analysis.shared.moves? before = some t) (other : Nat) : t.stage other ≠ .working := by
  have hcut : before = [.enter 0, .settle 0 .succeeded] := by
    rcases before with _ | ⟨m₁, _ | ⟨m₂, _ | ⟨m₃, _ | ⟨m₄, rest⟩⟩⟩⟩
    all_goals simp [tidyMoves] at hbefore ⊢
    exact ⟨hbefore.1, hbefore.2.1⟩
  subst hcut
  cases ht
  by_cases hother : other = 0
  · subst hother
    decide
  · rw [Shared.stage_advance_of_ne hother, Shared.stage_advance_of_ne hother]
    rintro ⟨⟩

end Specimen

/-- No run lets go late, and so one is in flight at most at all times. -/
theorem Analysis.exclusive_tidyMoves :
    ∃ last, Specimen.analysis.shared.moves? Specimen.tidyMoves = some last ∧
      last.stage 1 = .working ∧ ∀ before, before <+: Specimen.tidyMoves →
        ∀ t, Specimen.analysis.shared.moves? before = some t → t.Exclusive := by
  refine ⟨_, rfl, by decide, ?_⟩
  exact (exclusive_iff_never_late Specimen.analysis rfl).2 fun before call hbefore t ht _ =>
    Specimen.not_late_tidyMoves hbefore ht

/-- The first run is over when it lets go, and yet it has the second one, which is in flight, taken
for failed.  So nothing keeps a third one from beginning. -/
theorem Analysis.overlap_of_lateMoves :
    (∃ t, Specimen.analysis.shared.moves? (Specimen.lateMoves.take 4) = some t ∧
      t.stage 1 = .working ∧ t.state = .failed) ∧
    ∃ t, Specimen.analysis.shared.moves? Specimen.lateMoves = some t ∧
      t.stage 1 = .working ∧ t.stage 2 = .working ∧ ¬t.Exclusive := by
  refine ⟨⟨_, rfl, by decide, rfl⟩, _, rfl, by decide, by decide, fun h => ?_⟩
  exact absurd (h.single 1 2 (by decide) (by decide)) (by decide)

end Flowscript
