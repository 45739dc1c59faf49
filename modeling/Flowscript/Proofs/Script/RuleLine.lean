import Mathlib.Data.List.TakeWhile
import Flowscript.Proofs.Words

/-!
# The grammar of rule lines

A rule line is words with marks between them: the first colon ends the targets, and an ampersand
just before it says that one run of the recipe makes all of them; what needs to be there follows, a
bar starts the part of it whose age does not matter, and a semicolon ends it and starts a recipe.

* `RuleLine.read?` takes a line apart by this grammar.
* `Rule.line` is what a rule means to say, and `Rule.read?_header_iff` tells when its header says
  it.
-/

set_option autoImplicit false

namespace Flowscript

/-! ## The grammar -/

/-- What a rule line says. -/
structure RuleLine where
  isGrouped : Bool
  targets : List String
  prerequisites : List String
  orderOnly : List String
  recipe : Option String
  deriving DecidableEq, Repr

namespace RuleLine

/-- The part before the first mark, and the part after it if the mark is there. -/
def cutAt (mark : Char) (cs : List Char) : List Char × Option (List Char) :=
  (cs.takeWhile (· != mark), (cs.dropWhile (· != mark)).tail?)

/-- The words of a part of a line. -/
def words (cs : List Char) : List String := (Text.words cs).map String.ofList

/-- The rule line with the given parts before and after its colon. -/
def ofSides (left right : List Char) : RuleLine :=
  let isGrouped := left.getLast? == some '&'
  let (needs, recipe) := cutAt ';' right
  let (normal, orderOnly) := cutAt '|' needs
  ⟨isGrouped, words (if isGrouped then left.dropLast else left), words normal,
    words (orderOnly.getD []), recipe.map String.ofList⟩

/-- Reads a rule line. -/
def read? (line : String) : Option RuleLine :=
  match cutAt ':' line.toList with
  | (left, some right) => some (ofSides left right)
  | (_, none) => none

example : read? "a b &: c | d ; e" = some ⟨true, ["a", "b"], ["c"], ["d"], some " e"⟩ := by
  decide

/-! ## Marks -/

theorem cutAt_of_forall {mark : Char} {cs : List Char} (h : ∀ c ∈ cs, c ≠ mark) :
    cutAt mark cs = (cs, none) := by
  have hp : ∀ c ∈ cs, (c != mark) = true := fun c hc => bne_iff_ne.2 (h c hc)
  rw [cutAt, List.takeWhile_eq_self_iff.2 hp, List.dropWhile_eq_nil_iff.2 hp, List.tail?_nil]

theorem cutAt_append_cons {mark : Char} {cs : List Char} (h : ∀ c ∈ cs, c ≠ mark)
    (rest : List Char) : cutAt mark (cs ++ mark :: rest) = (cs, some rest) := by
  have hp : ∀ c ∈ cs, (c != mark) = true := fun c hc => bne_iff_ne.2 (h c hc)
  rw [cutAt, List.takeWhile_append_of_pos hp, List.dropWhile_append_of_pos hp]
  simp

/-- The part before a mark is free of the mark, and holds only what the text holds. -/
theorem of_mem_cutAt {mark c : Char} {cs : List Char} (h : c ∈ (cutAt mark cs).1) :
    c ∈ cs ∧ c ≠ mark :=
  ⟨(List.takeWhile_prefix _).subset h, bne_iff_ne.1 (List.mem_takeWhile_imp (p := (· != mark)) h)⟩

theorem words_of_eq {cs : List Char} {ws : List String} (h : Text.words cs = ws.map String.toList) :
    words cs = ws := by
  rw [words, h, List.map_map]
  exact (List.map_congr_left fun w _ => String.ofList_toList).trans (List.map_id ws)

/-- A word of a part holds only what the part holds. -/
theorem mem_of_mem_words {cs : List Char} {w : String} (h : w ∈ words cs) {c : Char}
    (hc : c ∈ w.toList) : c ∈ cs := by
  obtain ⟨word, hword, rfl⟩ := List.mem_map.1 h
  rw [String.toList_ofList] at hc
  exact Text.mem_of_mem_words hword hc

/-- Without marks all that follows the colon is prerequisites. -/
theorem ofSides_of_forall {right : List Char} (h : ∀ c ∈ right, c ≠ '|' ∧ c ≠ ';')
    (left : List Char) :
    ofSides left right = { ofSides left [] with prerequisites := words right } := by
  rw [ofSides, cutAt_of_forall fun c hc => (h c hc).2]
  simp only [cutAt_of_forall fun c hc => (h c hc).1]
  rfl

/-- A bar cuts what follows the colon in two. -/
theorem ofSides_append_bar {normal order : List Char} (hnormal : ∀ c ∈ normal, c ≠ '|' ∧ c ≠ ';')
    (horder : ∀ c ∈ order, c ≠ ';') (left : List Char) :
    ofSides left (normal ++ '|' :: order) =
      { ofSides left [] with prerequisites := words normal, orderOnly := words order } := by
  have hsemicolon : ∀ c ∈ normal ++ '|' :: order, c ≠ ';' := by
    intro c hc
    rcases List.mem_append.1 hc with hc | hc
    · exact (hnormal c hc).2
    · rcases List.mem_cons.1 hc with rfl | hc
      · decide
      · exact horder c hc
  rw [ofSides, cutAt_of_forall hsemicolon]
  simp only [cutAt_append_cons fun c hc => (hnormal c hc).1]
  rfl

/-- **A prerequisite that is read holds neither a bar nor a semicolon.** -/
theorem of_mem_prerequisites {left right : List Char} {path : String}
    (h : path ∈ (ofSides left right).prerequisites) {c : Char} (hc : c ∈ path.toList) :
    c ≠ '|' ∧ c ≠ ';' := by
  obtain ⟨hmem, hbar⟩ := of_mem_cutAt (mem_of_mem_words h hc)
  exact ⟨hbar, (of_mem_cutAt hmem).2⟩

end RuleLine

/-! ## Headers -/

/-- A text that the grammar takes for one word, also on the left of the colon. -/
structure IsRuleWord (w : String) : Prop where
  ne_empty : w ≠ ""
  clear : ∀ c ∈ w.toList, Text.isBlank c = false ∧ c ≠ ':'

namespace Rule

open RuleLine

/-- What the header of a rule means to say. -/
def line (r : Rule) : RuleLine := ⟨r.isGrouped, r.targets, r.prerequisites, r.orderOnly, none⟩

/-- The header up to its colon. -/
def left (r : Rule) : String := spaced r.targets ++ if r.isGrouped then " &" else ""

/-- The header after its colon. -/
def right : Rule → String
  | .directory _ => ""
  | .copy _ prerequisite => " " ++ prerequisite
  | .run row _ _ _ prerequisites _ =>
    " " ++ spaced prerequisites ++ " | " ++ Layout.rowDirectory row

theorem toList_header (r : Rule) : r.header.toList = r.left.toList ++ ':' :: r.right.toList := by
  cases r with
  | directory row => simp [header, left, right, targets, isGrouped, spaced]
  | copy target prerequisite => simp [header, left, right, targets, isGrouped, spaced]
  | run row block name targets prerequisites command =>
    rw [header, left, right, isGrouped, Rule.targets]
    by_cases h : 1 < targets.length <;> simp [h]

theorem words_of_isRuleWord {ws : List String} (h : ∀ w ∈ ws, IsRuleWord w) :
    Text.words (spaced ws).toList = ws.map String.toList :=
  Text.words_spaced fun w hw => ⟨(h w hw).ne_empty, fun c hc => ((h w hw).clear c hc).1⟩

/-- There is no other colon before the one that ends the targets. -/
theorem colon_not_mem_left {r : Rule} (h : ∀ w ∈ r.targets, IsRuleWord w) :
    ∀ c ∈ r.left.toList, c ≠ ':' := by
  rintro c hc rfl
  rw [left, String.toList_append, List.mem_append] at hc
  rcases hc with hc | hc
  · rcases Text.mem_spaced hc with hspace | ⟨w, hw, hc⟩
    · cases hspace
    · exact ((h w hw).clear _ hc).2 rfl
  · split at hc <;> revert hc <;> decide

theorem read?_header {r : Rule} (h : ∀ w ∈ r.targets, IsRuleWord w) :
    read? r.header = some (ofSides r.left.toList r.right.toList) := by
  rw [read?, toList_header, cutAt_append_cons (colon_not_mem_left h)]

/-- The mark of grouped targets is no word of its own. -/
theorem targets_ofSides {r : Rule} (h : ∀ w ∈ r.targets, IsRuleWord w)
    (hgrouped : (ofSides r.left.toList r.right.toList).isGrouped = r.isGrouped) :
    (ofSides r.left.toList r.right.toList).targets = r.targets := by
  have htargets : (ofSides r.left.toList r.right.toList).targets =
      RuleLine.words (if (ofSides r.left.toList r.right.toList).isGrouped then
        r.left.toList.dropLast else r.left.toList) := rfl
  rw [htargets, hgrouped, left]
  refine words_of_eq ?_
  cases r.isGrouped with
  | false => simpa using words_of_isRuleWord h
  | true =>
    have hdrop : ((spaced r.targets ++ " &").toList).dropLast = (spaced r.targets).toList ++ [' '] := by
      rw [String.toList_append, List.dropLast_append_of_ne_nil (by decide)]
      rfl
    rw [if_pos rfl, if_pos rfl, hdrop, Text.words_append_cons Text.isBlank_space,
      words_of_isRuleWord h]
    exact List.append_nil _

/-- A rule with one target is taken for a grouped one if the target ends in an ampersand. -/
theorem isGrouped_ofSides_iff (r : Rule) :
    (ofSides r.left.toList r.right.toList).isGrouped = r.isGrouped ↔
      ∀ target, r.targets = [target] → target.toList.getLast? ≠ some '&' := by
  have hgrouped : (ofSides r.left.toList r.right.toList).isGrouped =
      (r.left.toList.getLast? == some '&') := rfl
  rw [hgrouped, left, isGrouped]
  rcases htargets : r.targets with _ | ⟨target, _ | ⟨other, rest⟩⟩
  · simp [spaced]
  · simp [spaced]
  · simp

/-- Prerequisites without marks leave none between the words. -/
theorem mark_not_mem_spaced {paths : List String}
    (h : ∀ path ∈ paths, ∀ c ∈ path.toList, c ≠ '|' ∧ c ≠ ';') :
    ∀ c ∈ (spaced paths).toList, c ≠ '|' ∧ c ≠ ';' := by
  intro c hc
  rcases Text.mem_spaced hc with rfl | ⟨path, hpath, hc⟩
  · decide
  · exact h path hpath c hc

/-- What follows the colon is read as it is meant if no prerequisite holds a mark. -/
theorem ofSides_right {r : Rule} (hprerequisites : ∀ w ∈ r.prerequisites, IsRuleWord w)
    (horder : ∀ w ∈ r.orderOnly, IsRuleWord w ∧ ∀ c ∈ w.toList, c ≠ ';')
    (hmarks : ∀ path ∈ r.prerequisites, ∀ c ∈ path.toList, c ≠ '|' ∧ c ≠ ';') (left : List Char) :
    ofSides left r.right.toList =
      { ofSides left [] with prerequisites := r.prerequisites, orderOnly := r.orderOnly } := by
  cases r with
  | directory row => rfl
  | copy target prerequisite =>
    have hright : (right (.copy target prerequisite)).toList =
        ' ' :: (spaced [prerequisite]).toList := by
      simp [right, spaced]
    have hneeds : Text.words (' ' :: (spaced [prerequisite]).toList) =
        [prerequisite].map String.toList :=
      (Text.words_cons Text.isBlank_space _).trans (words_of_isRuleWord hprerequisites)
    rw [hright, ofSides_of_forall, words_of_eq hneeds]
    · rfl
    · exact List.forall_mem_cons.2 ⟨by decide, mark_not_mem_spaced hmarks⟩
  | run row block name targets paths command =>
    have hright : (right (.run row block name targets paths command)).toList =
        (' ' :: (spaced paths).toList ++ [' ']) ++ '|' :: ' ' :: (Layout.rowDirectory row).toList := by
      simp [right]
    obtain ⟨hdirectory, hsemicolon⟩ := horder _ List.mem_cons_self
    have hneeds : Text.words (' ' :: (spaced paths).toList ++ [' ']) = paths.map String.toList := by
      rw [Text.words_append_cons Text.isBlank_space, Text.words_cons Text.isBlank_space]
      exact (List.append_nil _).trans (words_of_isRuleWord hprerequisites)
    have hlast : Text.words (' ' :: (Layout.rowDirectory row).toList) =
        [Layout.rowDirectory row].map String.toList := by
      rw [Text.words_cons Text.isBlank_space]
      exact Text.words_of_forall (fun hnil => hdirectory.ne_empty (String.toList_eq_nil_iff.1 hnil))
        fun c hc => (hdirectory.clear c hc).1
    rw [hright, ofSides_append_bar, words_of_eq hneeds, words_of_eq hlast]
    · rfl
    · refine List.forall_mem_append.2 ⟨List.forall_mem_cons.2 ⟨by decide, ?_⟩, by decide⟩
      exact mark_not_mem_spaced hmarks
    · exact List.forall_mem_cons.2 ⟨by decide, hsemicolon⟩

/-- **The header of a rule says what it means to, exactly if no prerequisite holds a bar or a
semicolon and no target that stands alone ends in an ampersand.** -/
theorem read?_header_iff {r : Rule} (htargets : ∀ w ∈ r.targets, IsRuleWord w)
    (hprerequisites : ∀ w ∈ r.prerequisites, IsRuleWord w)
    (horder : ∀ w ∈ r.orderOnly, IsRuleWord w ∧ ∀ c ∈ w.toList, c ≠ ';') :
    read? r.header = some r.line ↔
      (∀ path ∈ r.prerequisites, ∀ c ∈ path.toList, c ≠ '|' ∧ c ≠ ';') ∧
        ∀ target, r.targets = [target] → target.toList.getLast? ≠ some '&' := by
  rw [read?_header htargets, Option.some.injEq, ← isGrouped_ofSides_iff]
  constructor
  · intro h
    refine ⟨fun path hpath c hc => ?_, congrArg RuleLine.isGrouped h⟩
    have hread : path ∈ (ofSides r.left.toList r.right.toList).prerequisites := h ▸ hpath
    exact of_mem_prerequisites hread hc
  · rintro ⟨hmarks, hgrouped⟩
    have htargets := targets_ofSides htargets hgrouped
    rw [ofSides_right hprerequisites horder hmarks] at hgrouped htargets ⊢
    rw [line, ← hgrouped, ← htargets]
    rfl

end Rule

end Flowscript
