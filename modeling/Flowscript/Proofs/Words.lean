import Flowscript.Script.Rule
import Mathlib.Data.List.Basic
import Mathlib.Data.List.TakeWhile

/-!
# Words that are written and read

Words with a space between each two are read back as they are, provided that none is empty and none
holds a blank.

* `Text.span_append_cons` and `Text.span_eq_iff` tell a text apart at a character of another kind,
  and `Text.isPlainName_iff` says which texts are plain names.
* `Text.words_append_cons` is the equation that all else about words follows from: a text is cut at
  a blank.
* `Text.words_spaced` is the round trip, and `Text.mem_of_mem_words` says that words hold only what
  the text holds.
-/

set_option autoImplicit false

namespace Flowscript

namespace Text

/-! ## Pieces -/

theorem splitAt_ne_nil (cut : Char → Bool) (cs : List Char) : splitAt cut cs ≠ [] := by
  cases cs with
  | nil => simp [splitAt]
  | cons c cs =>
    rw [splitAt]
    split
    · simp
    · split <;> simp

/-- A text is cut at a character of the class. -/
theorem splitAt_append_cons {cut : Char → Bool} {c : Char} (hc : cut c = true) (as bs : List Char) :
    splitAt cut (as ++ c :: bs) = splitAt cut as ++ splitAt cut bs := by
  induction as with
  | nil =>
    cases h : splitAt cut bs with
    | nil => exact absurd h (splitAt_ne_nil cut bs)
    | cons piece pieces => simp [splitAt, h, hc]
  | cons a as ih =>
    rw [List.cons_append, splitAt, ih, splitAt]
    cases h : splitAt cut as with
    | nil => exact absurd h (splitAt_ne_nil cut as)
    | cons piece pieces =>
      simp only [List.cons_append]
      split <;> rfl

/-- A text without a character of the class is one piece. -/
theorem splitAt_of_forall {cut : Char → Bool} {cs : List Char} (h : ∀ c ∈ cs, cut c = false) :
    splitAt cut cs = [cs] := by
  induction cs with
  | nil => rfl
  | cons c cs ih =>
    rw [splitAt, ih fun d hd => h d (List.mem_cons_of_mem _ hd)]
    simp [h c List.mem_cons_self]

/-- The first piece starts with what comes before any character of the class. -/
theorem exists_splitAt_append {cut : Char → Bool} {as : List Char} (h : ∀ c ∈ as, cut c = false)
    (bs : List Char) : ∃ piece pieces, splitAt cut (as ++ bs) = (as ++ piece) :: pieces := by
  induction as with
  | nil =>
    cases hsplit : splitAt cut bs with
    | nil => exact absurd hsplit (splitAt_ne_nil cut bs)
    | cons piece pieces => exact ⟨piece, pieces, hsplit⟩
  | cons c as ih =>
    obtain ⟨piece, pieces, hsplit⟩ := ih fun d hd => h d (List.mem_cons_of_mem _ hd)
    refine ⟨piece, pieces, ?_⟩
    rw [List.cons_append, splitAt, hsplit]
    simp [h c List.mem_cons_self]

/-- What stands before a character of another kind is told apart as if it stood alone. -/
theorem span_append_cons {p : Char → Bool} {c : Char} (hc : p c = false) (as bs : List Char) :
    (as ++ c :: bs).takeWhile p = as.takeWhile p ∧
      (as ++ c :: bs).dropWhile p = as.dropWhile p ++ c :: bs := by
  induction as with
  | nil => simp [hc]
  | cons a as ih =>
    rw [List.cons_append, List.takeWhile_cons, List.dropWhile_cons, ih.1, ih.2,
      List.takeWhile_cons, List.dropWhile_cons]
    cases p a <;> simp

/-- A text is told apart at the first character of another kind. -/
theorem span_eq_iff {p : Char → Bool} {c : Char} (hc : p c = false) {cs as bs : List Char} :
    cs.takeWhile p = as ∧ cs.dropWhile p = c :: bs ↔
      (∀ a ∈ as, p a = true) ∧ cs = as ++ c :: bs := by
  constructor
  · rintro ⟨rfl, hdrop⟩
    refine ⟨fun a ha => List.mem_takeWhile_imp ha, ?_⟩
    rw [← hdrop, List.takeWhile_append_dropWhile]
  · rintro ⟨has, rfl⟩
    obtain ⟨htake, hdrop⟩ := span_append_cons hc as bs
    rw [htake, hdrop, List.takeWhile_eq_self_iff.2 has, List.dropWhile_eq_nil_iff.2 has]
    exact ⟨rfl, rfl⟩

theorem mem_of_mem_splitAt {cut : Char → Bool} {cs piece : List Char} (h : piece ∈ splitAt cut cs)
    {c : Char} (hc : c ∈ piece) : c ∈ cs := by
  induction cs generalizing piece with
  | nil =>
    obtain rfl := List.mem_singleton.1 h
    exact hc
  | cons d cs ih =>
    rw [splitAt] at h
    split at h
    · rw [List.mem_singleton.1 h, List.mem_singleton] at hc
      exact hc ▸ List.mem_cons_self
    · rename_i first pieces heq
      have hrest : ∀ {other : List Char}, other ∈ first :: pieces → c ∈ other → c ∈ d :: cs :=
        fun hother hmem => List.mem_cons_of_mem _ (ih (heq ▸ hother) hmem)
      split at h
      · rcases List.mem_cons.1 h with rfl | h
        · cases hc
        · exact hrest h hc
      · rcases List.mem_cons.1 h with rfl | h
        · rcases List.mem_cons.1 hc with rfl | hc
          · exact List.mem_cons_self
          · exact hrest List.mem_cons_self hc
        · exact hrest (List.mem_cons_of_mem _ h) hc

/-- Pieces hold no character of the class. -/
theorem cut_of_mem_splitAt {cut : Char → Bool} {cs piece : List Char} (h : piece ∈ splitAt cut cs)
    {c : Char} (hc : c ∈ piece) : cut c = false := by
  induction cs generalizing piece with
  | nil =>
    rw [List.mem_singleton.1 h] at hc
    cases hc
  | cons d cs ih =>
    rw [splitAt] at h
    split at h
    · rename_i hnil
      exact absurd hnil (splitAt_ne_nil cut cs)
    · rename_i first pieces heq
      split at h
      · rcases List.mem_cons.1 h with rfl | h
        · cases hc
        · exact ih (heq ▸ h) hc
      · rename_i hcut
        rcases List.mem_cons.1 h with rfl | h
        · rcases List.mem_cons.1 hc with rfl | hc
          · simpa using hcut
          · exact ih (heq ▸ List.mem_cons_self) hc
        · exact ih (heq ▸ List.mem_cons_of_mem _ h) hc

/-! ## Lines -/

theorem mem_of_mem_trimChars {cs : List Char} {c : Char} (h : c ∈ trimChars cs) : c ∈ cs := by
  rw [trimChars, List.mem_reverse] at h
  have hfront := (List.dropWhile_suffix _).subset h
  rw [List.mem_reverse] at hfront
  exact (List.dropWhile_suffix _).subset hfront

/-- Lines hold no line feed. -/
theorem newline_not_mem_of_mem_lines {cs line : List Char} (h : line ∈ lines cs) :
    '\n' ∉ line := by
  have hpiece : ∀ piece ∈ splitAt (· == '\n') cs, '\n' ∉ piece := fun piece hpiece hmem =>
    absurd (cut_of_mem_splitAt hpiece hmem) (by decide)
  rw [lines, List.mem_append] at h
  rcases h with h | h
  · obtain ⟨piece, hmem, rfl⟩ := List.mem_map.1 h
    intro hnewline
    refine hpiece piece (List.dropLast_subset _ hmem) ?_
    rw [dropReturn] at hnewline
    split at hnewline
    · exact List.dropLast_subset _ hnewline
    · exact hnewline
  · have hlast : (splitAt (· == '\n') cs).getLast? = some line := by
      simpa using List.mem_of_mem_filter h
    exact hpiece line (List.mem_of_getLast? hlast)

/-! ## Plain names -/

theorem isPlainName_iff {name : String} :
    isPlainName name = true ↔ name ≠ "" ∧ ∀ c ∈ name.toList, isNameChar c = true := by
  simp [isPlainName]

theorem isNameChar_iff {c : Char} :
    isNameChar c = true ↔ c.isAlphanum = true ∨ c = '_' ∨ c = '.' ∨ c = '-' := by
  simp only [isNameChar, Bool.or_eq_true, beq_iff_eq, or_assoc]

/-! ## Words -/

/-- **A text is cut at a blank.** -/
theorem words_append_cons {c : Char} (hc : isBlank c = true) (as bs : List Char) :
    words (as ++ c :: bs) = words as ++ words bs := by
  rw [words, splitAt_append_cons hc, List.filter_append, words, words]

/-- A blank in front belongs to no word. -/
theorem words_cons {c : Char} (hc : isBlank c = true) (cs : List Char) :
    words (c :: cs) = words cs :=
  words_append_cons hc [] cs

theorem words_of_forall {cs : List Char} (hne : cs ≠ []) (h : ∀ c ∈ cs, isBlank c = false) :
    words cs = [cs] := by
  rw [words, splitAt_of_forall h]
  simp [hne]

theorem mem_of_mem_words {cs word : List Char} (h : word ∈ words cs) {c : Char} (hc : c ∈ word) :
    c ∈ cs :=
  mem_of_mem_splitAt (List.mem_of_mem_filter h) hc

theorem isBlank_of_mem_words {cs word : List Char} (h : word ∈ words cs) {c : Char}
    (hc : c ∈ word) : isBlank c = false :=
  cut_of_mem_splitAt (List.mem_of_mem_filter h) hc

theorem isBlank_space : isBlank ' ' = true := by decide

/-- **Words that are written with spaces between them are read back.** -/
theorem words_spaced {ws : List String}
    (h : ∀ w ∈ ws, w ≠ "" ∧ ∀ c ∈ w.toList, isBlank c = false) :
    words (Rule.spaced ws).toList = ws.map String.toList := by
  rw [Rule.spaced, String.toList_intercalate]
  induction ws with
  | nil => rfl
  | cons w rest ih =>
    obtain ⟨hne, hclear⟩ := h w List.mem_cons_self
    have hword : words w.toList = [w.toList] :=
      words_of_forall (fun hnil => hne (String.toList_eq_nil_iff.1 hnil)) hclear
    cases rest with
    | nil => simpa using hword
    | cons w' rest =>
      have hrest := ih fun v hv => h v (List.mem_cons_of_mem _ hv)
      rw [List.map_cons, List.map_cons, List.intercalate_cons_cons]
      have hspace : " ".toList = [' '] := rfl
      rw [hspace, List.append_assoc, List.singleton_append, words_append_cons isBlank_space, hword,
        ← List.map_cons, ← hspace, hrest]
      rfl

/-- Between words stand spaces and nothing else. -/
theorem mem_spaced {ws : List String} {c : Char} (h : c ∈ (Rule.spaced ws).toList) :
    c = ' ' ∨ ∃ w ∈ ws, c ∈ w.toList := by
  rw [Rule.spaced, String.toList_intercalate] at h
  induction ws with
  | nil => cases h
  | cons w rest ih =>
    cases rest with
    | nil => exact .inr ⟨w, List.mem_cons_self, by simpa using h⟩
    | cons w' rest =>
      rw [List.map_cons, List.map_cons, List.intercalate_cons_cons, ← List.map_cons] at h
      simp only [List.mem_append] at h
      rcases h with (hword | hspace) | hrest
      · exact .inr ⟨w, List.mem_cons_self, hword⟩
      · exact .inl (by simpa using hspace)
      · exact (ih hrest).imp_right fun ⟨v, hv, hc⟩ => ⟨v, List.mem_cons_of_mem _ hv, hc⟩

end Text

end Flowscript
