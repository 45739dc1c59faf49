import Flowscript.Instances

/-!
# Replacing a pattern

* `replaceAll` replaces every occurrence of a pattern, from left to right; what it has written is
  not looked at again.
-/

set_option autoImplicit false

namespace Flowscript.Text

/-- What follows the pattern in a text that starts with it. -/
def dropPattern? : List Char → List Char → Option (List Char)
  | [], cs => some cs
  | _ :: _, [] => none
  | p :: ps, c :: cs => if p = c then dropPattern? ps cs else none

/-- A pattern is dropped where the text starts with it. -/
theorem dropPattern?_eq_some_iff {pattern cs rest : List Char} :
    dropPattern? pattern cs = some rest ↔ cs = pattern ++ rest := by
  induction pattern generalizing cs with
  | nil => simp [dropPattern?]
  | cons p ps ih =>
    cases cs with
    | nil => simp [dropPattern?]
    | cons c cs =>
      rw [dropPattern?, List.cons_append, List.cons.injEq, ← ih]
      by_cases hc : p = c
      · simp [hc]
      · simp [hc, Ne.symm hc]

theorem length_of_dropPattern? {ps cs rest : List Char} (h : dropPattern? ps cs = some rest) :
    rest.length + ps.length = cs.length := by
  rw [dropPattern?_eq_some_iff.1 h, List.length_append, Nat.add_comm]

/-- Replaces each occurrence of `first :: others`, taking the leftmost one first. -/
def replaceAll (first : Char) (others replacement : List Char) (text : List Char) : List Char :=
  match h : dropPattern? (first :: others) text with
  | some rest =>
    have := length_of_dropPattern? h
    replacement ++ replaceAll first others replacement rest
  | none =>
    match text with
    | [] => []
    | c :: cs => c :: replaceAll first others replacement cs
termination_by text.length
decreasing_by all_goals simp_all; try omega

end Flowscript.Text
