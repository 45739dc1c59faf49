import Flowscript.Proofs.Pipeline.Renaming
import Flowscript.Proofs.Script.Agreement
import Flowscript.Proofs.Script.Cycles
import Flowscript.Proofs.Words
import Mathlib.Data.List.TakeWhile

/-!
# The title of a script

The name of a pipeline stands on the first line of its scripts, in a comment, and nowhere else.  It
is written as it is, so a line feed in the name ends the comment, and what comes after it is read as
a part of the script.

* `Pipeline.SameButName.draft_eq` says that the parts of a script do not depend on the name.
* `BuildScript.exists_lines_eq` gives the lines of a script: a comment, what the name spills over
  it, and the body.
* `BuildScript.sameBelowTitle_iff` compares scripts under two names by what the names spill.
* `Pipeline.SameButName.compile_named` is the result.
-/

set_option autoImplicit false

namespace Flowscript

namespace Text

/-- The pieces of a text, put together again. -/
theorem intercalate_splitAt (mark : Char) (cs : List Char) :
    [mark].intercalate (splitAt (· == mark) cs) = cs := by
  induction cs with
  | nil => rfl
  | cons c cs ih =>
    rw [splitAt]
    cases h : splitAt (· == mark) cs with
    | nil => exact absurd h (splitAt_ne_nil _ cs)
    | cons piece pieces =>
      rw [h] at ih
      simp only
      split
      · rename_i hc
        rw [List.intercalate_cons_cons, ih, eq_of_beq hc]
        rfl
      · cases pieces with
        | nil => simpa using ih
        | cons next pieces =>
          rw [List.intercalate_cons_cons] at ih ⊢
          rw [List.cons_append, List.cons_append, ih]

theorem splitAt_inj {mark : Char} {as bs : List Char}
    (h : splitAt (· == mark) as = splitAt (· == mark) bs) : as = bs := by
  rw [← intercalate_splitAt mark as, h, intercalate_splitAt]

end Text

/-! ## Lines -/

namespace BuildScript

/-- The lines of a script. -/
def lines (s : BuildScript) : List (List Char) := Text.splitAt (· == '\n') s.text.toList

/-- Two scripts have the same lines but for the first one, which is a comment in both. -/
def SameBelowTitle (s s' : BuildScript) : Prop :=
  ∃ title title' rest, s.lines = ('#' :: title) :: rest ∧ s'.lines = ('#' :: title') :: rest

/-- A name from its first line feed on. -/
def spill (name : String) : List Char := name.toList.dropWhile (· != '\n')

/-- The lines on which the title goes on. -/
def spilledLines (name : String) : List (List Char) :=
  match spill name with
  | [] => []
  | _ :: rest => Text.splitAt (· == '\n') (rest ++ "', generated by pipeforge.".toList)

theorem spill_eq_nil_iff {name : String} : spill name = [] ↔ '\n' ∉ name.toList := by
  rw [spill, List.dropWhile_eq_nil_iff]
  constructor
  · intro h hmem
    exact absurd (h _ hmem) (by decide)
  · intro h c hc
    rw [bne_iff_ne]
    rintro rfl
    exact h hc

theorem head_of_spill {name : String} {c : Char} {rest : List Char} (h : spill name = c :: rest) :
    c = '\n' := by
  have hhead := List.head?_dropWhile_not (· != '\n') name.toList
  rw [← spill, h] at hhead
  simpa using hhead

/-- The lines on which the title goes on tell what the name spills. -/
theorem spilledLines_inj {name name' : String} :
    spilledLines name = spilledLines name' ↔ spill name = spill name' := by
  constructor
  · intro h
    rw [spilledLines, spilledLines] at h
    cases hn : spill name with
    | nil =>
      cases hn' : spill name' with
      | nil => rfl
      | cons c rest =>
        rw [hn, hn'] at h
        exact absurd h.symm (Text.splitAt_ne_nil _ _)
    | cons c rest =>
      cases hn' : spill name' with
      | nil =>
        rw [hn, hn'] at h
        exact absurd h (Text.splitAt_ne_nil _ _)
      | cons c' rest' =>
        rw [hn, hn'] at h
        rw [head_of_spill hn, head_of_spill hn', List.append_cancel_right (Text.splitAt_inj h)]
  · intro h
    rw [spilledLines, h, spilledLines]

/-- **The lines of a script**: a comment, the lines on which the name makes it go on, and the
body. -/
theorem exists_lines_eq (s : BuildScript) : ∃ title, s.lines =
    ('#' :: title) :: (spilledLines s.name ++ Text.splitAt (· == '\n') s.body.toList) := by
  have htext : s.text.toList = ("# Build script for pipeline '".toList ++ s.name.toList ++
      "', generated by pipeforge.".toList) ++ '\n' :: s.body.toList := by
    have hend : "', generated by pipeforge.\n".toList =
        "', generated by pipeforge.".toList ++ ['\n'] := by decide
    have htitle : s.title = "# Build script for pipeline '" ++ s.name ++
        "', generated by pipeforge.\n" := rfl
    rw [text, htitle, String.toList_append, String.toList_append, String.toList_append, hend]
    simp only [List.append_assoc, List.cons_append, List.nil_append]
  have hopening : '\n' ∉ "# Build script for pipeline '".toList := by decide
  have hclosing : '\n' ∉ "', generated by pipeforge.".toList := by decide
  have hfirst : ∀ line : List Char, '\n' ∉ line →
      ∀ c ∈ "# Build script for pipeline '".toList ++ line, (c == '\n') = false := by
    intro line hline c hc
    refine beq_false_of_ne ?_
    rintro rfl
    exact (List.mem_append.1 hc).elim hopening hline
  have hname := List.takeWhile_append_dropWhile (p := (· != '\n')) (l := s.name.toList)
  have hclear : '\n' ∉ s.name.toList.takeWhile (· != '\n') :=
    fun hmem => bne_iff_ne.1 (List.mem_takeWhile_imp (p := (· != '\n')) hmem) rfl
  rw [← spill] at hname
  rw [lines, htext, Text.splitAt_append_cons (by decide), spilledLines]
  cases hspill : spill s.name with
  | nil =>
    rw [hspill, List.append_nil] at hname
    have hline := fun hmem => (List.mem_append.1 hmem).elim hclear hclosing
    rw [← hname, List.append_assoc, Text.splitAt_of_forall (hfirst _ hline)]
    exact ⟨_, rfl⟩
  | cons c rest =>
    obtain rfl := head_of_spill hspill
    rw [hspill] at hname
    rw [← hname]
    simp only [List.append_assoc, List.cons_append]
    rw [← List.append_assoc, Text.splitAt_append_cons (by decide),
      Text.splitAt_of_forall (hfirst _ hclear)]
    exact ⟨_, rfl⟩

/-- **Scripts under two names have the same lines below the title exactly if the names are the same
from the first line feed on.** -/
theorem sameBelowTitle_iff (s : BuildScript) (name : String) :
    s.SameBelowTitle { s with name } ↔ spill s.name = spill name := by
  obtain ⟨title, hlines⟩ := s.exists_lines_eq
  obtain ⟨title', hlines'⟩ := exists_lines_eq { s with name }
  rw [← spilledLines_inj]
  constructor
  · rintro ⟨_, _, rest, h, h'⟩
    rw [hlines] at h
    rw [hlines'] at h'
    exact List.append_cancel_right ((List.cons.inj h).2.trans (List.cons.inj h').2.symm)
  · intro h
    refine ⟨title, title', _, hlines, ?_⟩
    rw [hlines', ← h]
    rfl

end BuildScript

/-! ## Compiling -/

namespace Pipeline

namespace SameButName

variable {p q : Pipeline}

theorem agreeOn (h : p.SameButName q) : p.AgreeOn q fun _ => True := by
  obtain ⟨name, unsaved, rfl⟩ := h
  exact ⟨rfl, fun _ _ => rfl, fun _ _ _ => rfl, fun _ _ _ _ _ => trivial⟩

/-- **The parts of a script do not depend on the name.** -/
theorem draft_eq (h : p.SameButName q) (table : Table) :
    (Compilation.mk q table).draft = (Compilation.mk p table).draft := by
  have hsinks : (Compilation.mk q table).sortedSinks = (Compilation.mk p table).sortedSinks := by
    obtain ⟨name, unsaved, rfl⟩ := h
    rfl
  have hturn : ∀ row, (Compilation.mk q table).addSink row = (Compilation.mk p table).addSink row :=
    fun row => funext fun state => funext fun b => h.agreeOn.addSink_eq trivial rfl state
  have hrow : (Compilation.mk q table).addRow = (Compilation.mk p table).addRow := by
    funext d row
    rw [Compilation.addRow, Compilation.addRow, hsinks, hturn]
  rw [Compilation.draft, Compilation.draft, hrow]

/-- **Pipelines that differ in their names compile alike**: what stands in the way is the same, and
scripts differ in their names at most. -/
theorem compile_eq (h : p.SameButName q) (options : ScriptOptions) (table : Table)
    (workingDirectory outputRoot : String) :
    compile options q table workingDirectory outputRoot =
      (compile options p table workingDirectory outputRoot).map ({ · with name := q.name }) := by
  rw [compile, compile, h.draft_eq]
  cases Path.absolute? workingDirectory outputRoot with
  | none => rfl
  | some root => cases (Compilation.mk p table).draft <;> rfl

end SameButName

theorem name_of_compile {p : Pipeline} {options : ScriptOptions} {table : Table}
    {workingDirectory outputRoot : String} {s : BuildScript}
    (h : compile options p table workingDirectory outputRoot = .ok s) : s.name = p.name := by
  obtain ⟨d, root, -, -, rfl⟩ := Compilation.exists_of_compile h
  rfl

/-- **Two pipelines that differ in their names compile alike.**  Either there is the same error, or
the scripts differ in their names at most.  As they are written, only the comment on the first line
differs if no name has a line feed, and in general if the names are the same from there on. -/
theorem SameButName.compile_named {p q : Pipeline} (h : p.SameButName q) (options : ScriptOptions)
    (table : Table) (workingDirectory outputRoot : String) :
    (∃ e, compile options p table workingDirectory outputRoot = .error e ∧
        compile options q table workingDirectory outputRoot = .error e) ∨
      ∃ s s', compile options p table workingDirectory outputRoot = .ok s ∧
        compile options q table workingDirectory outputRoot = .ok s' ∧
        s' = { s with name := q.name } ∧
        ('\n' ∉ p.name.toList → '\n' ∉ q.name.toList → s.SameBelowTitle s') ∧
        (s.SameBelowTitle s' ↔ BuildScript.spill p.name = BuildScript.spill q.name) := by
  have heq := h.compile_eq options table workingDirectory outputRoot
  cases hs : compile options p table workingDirectory outputRoot with
  | error e =>
    rw [hs] at heq
    exact .inl ⟨e, rfl, heq⟩
  | ok s =>
    rw [hs] at heq
    have hiff := s.sameBelowTitle_iff q.name
    rw [name_of_compile hs] at hiff
    refine .inr ⟨s, _, rfl, heq, rfl, fun hp hq => hiff.2 ?_, hiff⟩
    rw [BuildScript.spill_eq_nil_iff.2 hp, BuildScript.spill_eq_nil_iff.2 hq]

/-- A name that would mean something to make does nothing in a comment. -/
theorem compile_named_chained :
    ∃ s s', compile .standard Specimen.chained (Specimen.filing "/data/y") "/w" "out" = .ok s ∧
      compile .standard (Specimen.chained.rename "all: $(OUTPUT)x # \\") (Specimen.filing "/data/y")
        "/w" "out" = .ok s' ∧
      s.SameBelowTitle s' := by
  obtain ⟨s, hs, -⟩ := Specimen.exists_compile_filing
  rcases SameButName.compile_named (sameButName_rename Specimen.chained "all: $(OUTPUT)x # \\")
    .standard (Specimen.filing "/data/y") "/w" "out" with ⟨e, he, -⟩ | ⟨r, r', hr, hr', -, hsame, -⟩
  · cases hs.symm.trans he
  · exact ⟨r, r', hr, hr', hsame (by decide) (by decide)⟩

/-- A line feed in the name ends the comment: the second line of the script is what comes after
it, and make takes that for a rule. -/
theorem title_spills_chained :
    Reachable Specimen.toolbox Specimen.chained ∧
      Reachable Specimen.toolbox (Specimen.chained.rename "chain\nall: other\n#") ∧
      ∃ s s', compile .standard Specimen.chained (Specimen.filing "/data/y") "/w" "out" = .ok s ∧
        compile .standard (Specimen.chained.rename "chain\nall: other\n#")
          (Specimen.filing "/data/y") "/w" "out" = .ok s' ∧
        s'.lines[1]? = some "all: other".toList ∧ s'.lines.length = s.lines.length + 2 ∧
        ¬s.SameBelowTitle s' := by
  obtain ⟨s, hs, -⟩ := Specimen.exists_compile_filing
  have heq := (sameButName_rename Specimen.chained "chain\nall: other\n#").compile_eq .standard
    (Specimen.filing "/data/y") "/w" "out"
  rw [hs] at heq
  have hname : s.name = "chain" := name_of_compile hs
  obtain ⟨title, hlines⟩ := s.exists_lines_eq
  obtain ⟨title', hlines'⟩ :=
    BuildScript.exists_lines_eq { s with name := "chain\nall: other\n#" }
  have hspill : BuildScript.spilledLines "chain" = [] := by decide
  have hspill' : BuildScript.spilledLines "chain\nall: other\n#" =
      ["all: other".toList, "#', generated by pipeforge.".toList] := by decide
  refine ⟨Specimen.reachable_chained,
    Specimen.reachable_chained.edited (.rename "chain\nall: other\n#"), s, _, hs, heq, ?_, ?_, ?_⟩
  · change (BuildScript.lines { s with name := "chain\nall: other\n#" })[1]? = _
    rw [hlines', hspill']
    rfl
  · change (BuildScript.lines { s with name := "chain\nall: other\n#" }).length = _
    rw [hlines', hspill', hlines, hname, hspill]
    rfl
  · change ¬s.SameBelowTitle { s with name := "chain\nall: other\n#" }
    rw [s.sameBelowTitle_iff, hname]
    decide

end Pipeline

end Flowscript
