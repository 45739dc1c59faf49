import Mathlib.Data.List.Basic

/-!
# Marks in a text

Commands and cells hold marks that stand for something else, between characters that are kept as
they are.  When no two marks can overlap, it does not matter in which order they are looked for: a
text has one reading only, and all marks that occur in it are parts of this reading.

* `Marking` is a way to write marks that cannot overlap, and `Marking.Occurs` says that a mark
  stands at a place of a text.
* `Marking.Decomposes` is a reading of a text.  `Marking.decomposes_nil`,
  `Marking.Decomposes.mark` and `Marking.Decomposes.char` are the steps in which a scanner finds it,
  and `Marking.Decomposes.unique` says that there is no other one.
* `Part.fill` puts texts in place of all marks at once.
-/

set_option autoImplicit false

namespace Flowscript

/-- A part of a text: a character that is kept as it is, or a mark. -/
inductive Part (κ : Type) where
  | char (c : Char)
  | mark (k : κ)
  deriving DecidableEq, Repr

namespace Part

variable {κ : Type}

/-- The mark that a part is, if it is one. -/
def mark? : Part κ → Option κ
  | .char _ => none
  | .mark k => some k

/-- The text of parts with something else in place of each mark. -/
def fill (text : κ → List Char) (parts : List (Part κ)) : List Char :=
  parts.flatMap fun
    | .char c => [c]
    | .mark k => text k

variable {text : κ → List Char}

@[simp] theorem fill_nil : fill text [] = [] := rfl

@[simp] theorem fill_char (c : Char) (parts : List (Part κ)) :
    fill text (.char c :: parts) = c :: fill text parts := rfl

@[simp] theorem fill_mark (k : κ) (parts : List (Part κ)) :
    fill text (.mark k :: parts) = text k ++ fill text parts := rfl

theorem fill_append (front back : List (Part κ)) :
    fill text (front ++ back) = fill text front ++ fill text back :=
  List.flatMap_append

theorem fill_cons (part : Part κ) (parts : List (Part κ)) :
    fill text (part :: parts) = fill text [part] ++ fill text parts :=
  fill_append [part] parts

/-- What is put in place of marks matters only for those that are there. -/
theorem fill_congr {text' : κ → List Char} {parts : List (Part κ)}
    (h : ∀ k, .mark k ∈ parts → text k = text' k) : fill text parts = fill text' parts := by
  refine List.flatMap_congr fun part hpart => ?_
  cases part with
  | char c => rfl
  | mark k => exact h k hpart

end Part

/-- A way to write marks that can be told at the start of a text.  No mark starts inside another
one. -/
structure Marking (κ : Type) where
  /-- The text of a mark. -/
  write : κ → List Char
  /-- What counts as a mark. -/
  IsMark : κ → Prop
  /-- The mark at the start of a text, and what follows it. -/
  find : List Char → Option (κ × List Char)
  find_eq_some_iff : ∀ {cs k rest}, find cs = some (k, rest) ↔ IsMark k ∧ cs = write k ++ rest
  write_ne_nil : ∀ {k}, IsMark k → write k ≠ []
  inside_eq_nil : ∀ {k k' inside rest rest'}, IsMark k → IsMark k' →
    write k ++ rest = inside ++ (write k' ++ rest') → inside.length < (write k).length → inside = []

namespace Marking

variable {κ : Type} (M : Marking κ)

/-- A mark stands at a place of a text. -/
def Occurs (k : κ) (i : Nat) (cs : List Char) : Prop := M.IsMark k ∧ M.write k <+: cs.drop i

/-- A reading of a text: nothing is lost, and all marks that occur are parts at their places. -/
structure Decomposes (parts : List (Part κ)) (cs : List Char) : Prop where
  written : Part.fill M.write parts = cs
  isMark : ∀ k, .mark k ∈ parts → M.IsMark k
  complete : ∀ k i, M.Occurs k i cs →
    ∃ front back, parts = front ++ .mark k :: back ∧ (Part.fill M.write front).length = i

variable {M} {k k' : κ} {i j : Nat} {cs rest : List Char} {parts parts' : List (Part κ)}

/-- One place is the start of one mark at most. -/
theorem eq_of_append_eq {rest' : List Char} (hk : M.IsMark k) (hk' : M.IsMark k')
    (h : M.write k ++ rest = M.write k' ++ rest') : k = k' := by
  have hfound := M.find_eq_some_iff.2 ⟨hk, h.symm⟩
  rw [M.find_eq_some_iff.2 ⟨hk', rfl⟩] at hfound
  exact (Prod.mk.inj (Option.some.inj hfound)).1.symm

/-- **Two marks are the same one, or the first ends before the other starts.** -/
theorem Occurs.apart (h : M.Occurs k i cs) (h' : M.Occurs k' j cs) (hle : i ≤ j) :
    i = j ∧ k = k' ∨ i + (M.write k).length ≤ j := by
  obtain ⟨hk, rest, hrest⟩ := h
  obtain ⟨hk', rest', hrest'⟩ := h'
  rcases Nat.lt_or_ge (j - i) (M.write k).length with hlt | hge
  · left
    have hsplit : cs.drop i = (cs.drop i).take (j - i) ++ cs.drop j := by
      conv_lhs => rw [← List.take_append_drop (j - i) (cs.drop i), List.drop_drop]
      rw [Nat.add_sub_cancel' hle]
    have hne : cs.drop j ≠ [] := by
      rw [← hrest']
      exact fun hnil => M.write_ne_nil hk' (List.append_eq_nil_iff.1 hnil).1
    have hlength : ((cs.drop i).take (j - i)).length = j - i := by
      have hj := List.length_pos_iff.2 hne
      rw [List.length_drop] at hj
      rw [List.length_take, List.length_drop, Nat.min_eq_left]
      omega
    have heq : M.write k ++ rest = (cs.drop i).take (j - i) ++ (M.write k' ++ rest') := by
      rw [hrest, hrest', ← hsplit]
    have hnil := M.inside_eq_nil hk hk' heq (by rw [hlength]; exact hlt)
    rw [hnil, List.nil_append] at heq
    rw [hnil, List.length_nil] at hlength
    exact ⟨by omega, eq_of_append_eq hk hk' heq⟩
  · right
    omega

/-- Marks do not overlap. -/
theorem Occurs.end_le (h : M.Occurs k i cs) (h' : M.Occurs k' j cs) (hlt : i < j) :
    i + (M.write k).length ≤ j :=
  (h.apart h' (Nat.le_of_lt hlt)).resolve_left fun heq => Nat.ne_of_lt hlt heq.1

/-- A mark that is a part stands where the parts before it end. -/
theorem Decomposes.occurs {front back : List (Part κ)} {cs : List Char}
    (h : M.Decomposes (front ++ .mark k :: back) cs) :
    M.Occurs k (Part.fill M.write front).length cs := by
  refine ⟨h.isMark k (List.mem_append_right _ List.mem_cons_self), ?_⟩
  rw [← h.written, Part.fill_append, Part.fill_mark, List.drop_left]
  exact List.prefix_append _ _

/-- **The marks of a reading are those that occur in the text, each at its place.** -/
theorem Decomposes.occurs_iff (h : M.Decomposes parts cs) :
    M.Occurs k i cs ↔
      ∃ front back, parts = front ++ .mark k :: back ∧ (Part.fill M.write front).length = i := by
  refine ⟨h.complete k i, ?_⟩
  rintro ⟨front, back, rfl, rfl⟩
  exact h.occurs

theorem decomposes_nil : M.Decomposes [] [] where
  written := rfl
  isMark := nofun
  complete := by
    rintro k i ⟨hk, hprefix⟩
    rw [List.drop_nil, List.prefix_nil] at hprefix
    exact absurd hprefix (M.write_ne_nil hk)

/-- A mark that is found is read first. -/
theorem Decomposes.mark (hfound : M.find cs = some (k, rest)) (h : M.Decomposes parts rest) :
    M.Decomposes (.mark k :: parts) cs := by
  obtain ⟨hk, rfl⟩ := M.find_eq_some_iff.1 hfound
  refine ⟨by rw [Part.fill_mark, h.written], fun k' hk' => ?_, fun k' i hi => ?_⟩
  · rcases List.mem_cons.1 hk' with heq | hmem
    · exact Part.mark.inj heq ▸ hk
    · exact h.isMark k' hmem
  · have hfirst : M.Occurs k 0 (M.write k ++ rest) := ⟨hk, List.prefix_append _ _⟩
    rcases hfirst.apart hi (Nat.zero_le i) with ⟨rfl, rfl⟩ | hle
    · exact ⟨[], parts, rfl, rfl⟩
    · rw [Nat.zero_add] at hle
      obtain ⟨n, rfl⟩ := Nat.exists_eq_add_of_le hle
      have hlater : M.Occurs k' n rest := by
        refine ⟨hi.1, ?_⟩
        have hstart := hi.2
        rwa [← List.drop_drop, List.drop_left] at hstart
      obtain ⟨front, back, rfl, hlength⟩ := h.complete k' n hlater
      exact ⟨.mark k :: front, back, rfl, by rw [Part.fill_mark, List.length_append, hlength]⟩

/-- A character at which no mark is found is read as it is. -/
theorem Decomposes.char {c : Char} (hnone : M.find (c :: rest) = none)
    (h : M.Decomposes parts rest) : M.Decomposes (.char c :: parts) (c :: rest) := by
  refine ⟨by rw [Part.fill_char, h.written],
    fun k hk => h.isMark k ((List.mem_cons.1 hk).resolve_left nofun), fun k i hi => ?_⟩
  cases i with
  | zero =>
    obtain ⟨hk, rest', hrest'⟩ := hi
    rw [List.drop_zero] at hrest'
    rw [M.find_eq_some_iff.2 ⟨hk, hrest'.symm⟩] at hnone
    cases hnone
  | succ n =>
    obtain ⟨front, back, rfl, hlength⟩ := h.complete k n hi
    exact ⟨.char c :: front, back, rfl, by rw [Part.fill_char, List.length_cons, hlength]⟩

/-- The text of a part holds something. -/
theorem Decomposes.fill_cons_ne_nil {part : Part κ} (h : M.Decomposes (part :: parts) cs) :
    Part.fill M.write [part] ≠ [] := by
  cases part with
  | char c => exact List.cons_ne_nil _ _
  | mark k =>
    rw [Part.fill_mark, Part.fill_nil, List.append_nil]
    exact M.write_ne_nil (h.isMark k List.mem_cons_self)

/-- What follows the first part is read as it would be alone. -/
theorem Decomposes.tail {part : Part κ} (h : M.Decomposes (part :: parts) cs) :
    M.Decomposes parts (Part.fill M.write parts) where
  written := rfl
  isMark k hk := h.isMark k (List.mem_cons_of_mem _ hk)
  complete := by
    intro k i hi
    have hlater : M.Occurs k ((Part.fill M.write [part]).length + i) cs := by
      refine ⟨hi.1, ?_⟩
      rw [← h.written, Part.fill_cons part parts, ← List.drop_drop, List.drop_left]
      exact hi.2
    obtain ⟨front, back, hparts, hlength⟩ := h.complete k _ hlater
    cases front with
    | nil =>
      have hpos := List.length_pos_iff.2 h.fill_cons_ne_nil
      rw [Part.fill_nil, List.length_nil] at hlength
      omega
    | cons first front =>
      obtain ⟨rfl, rfl⟩ := List.cons.inj hparts
      rw [Part.fill_cons, List.length_append] at hlength
      exact ⟨front, back, rfl, Nat.add_left_cancel hlength⟩

/-- A mark in front of a text is the first part of every reading. -/
theorem Decomposes.head_eq {part : Part κ} (h : M.Decomposes (part :: parts) cs)
    (hk : M.Occurs k 0 cs) : part = .mark k := by
  obtain ⟨front, back, hparts, hlength⟩ := h.complete k 0 hk
  cases front with
  | nil => exact (List.cons.inj hparts).1
  | cons first front =>
    obtain ⟨rfl, -⟩ := List.cons.inj hparts
    have hpos := List.length_pos_iff.2 h.fill_cons_ne_nil
    rw [Part.fill_cons, List.length_append] at hlength
    omega

theorem Decomposes.occurs_head (h : M.Decomposes (.mark k :: parts) cs) : M.Occurs k 0 cs := by
  have hfirst : M.Occurs k (Part.fill M.write []).length cs := h.occurs
  exact hfirst

/-- The empty text has no parts. -/
theorem Decomposes.eq_nil (h : M.Decomposes parts []) : parts = [] := by
  cases parts with
  | nil => rfl
  | cons part parts =>
    have hnil := h.written
    rw [Part.fill_cons] at hnil
    exact absurd (List.append_eq_nil_iff.1 hnil).1 h.fill_cons_ne_nil

/-- **A text has one reading.** -/
theorem Decomposes.unique (h : M.Decomposes parts cs) (h' : M.Decomposes parts' cs) :
    parts' = parts := by
  induction parts generalizing parts' cs with
  | nil =>
    obtain rfl : [] = cs := h.written
    exact h'.eq_nil
  | cons part parts ih =>
    cases parts' with
    | nil =>
      obtain rfl : [] = cs := h'.written
      exact h.eq_nil.symm
    | cons part' parts' =>
      have hwritten := h'.written.trans h.written.symm
      have hpart : part' = part := by
        cases part with
        | mark k => exact h'.head_eq h.occurs_head
        | char c =>
          cases part' with
          | mark k' => exact (h.head_eq h'.occurs_head).symm
          | char c' => exact congrArg Part.char (List.cons.inj hwritten).1
      subst hpart
      rw [Part.fill_cons part' parts', Part.fill_cons part' parts] at hwritten
      have htail := h'.tail
      rw [List.append_cancel_left hwritten] at htail
      rw [ih h.tail htail]

end Marking

end Flowscript
