import Flowscript.Analysis.Ratio
import Flowscript.Proofs.Json.Numerals
import Flowscript.Proofs.Words
import Mathlib.Data.List.TakeWhile

/-!
# Ratios among other output

The tools that a build script runs may print anything before a ratio, and blank lines after it.
What is read is the last line that is not blank, and only if it is a ratio.

* `Text.IsLastLine` says which part of a text is the last line that is not blank, without cutting
  the text into lines; `Text.exists_isLastLine` that there is one, and `RatioReading.words_lastLine`
  that it is the line that is looked at, but for a carriage return at its end.
* `Text.Denotes` says which texts are numerals of 64 bits (`Text.readWord64_eq_ok_iff`).
* `Ratio.Spells` says which lines are ratios (`Ratio.read?_eq_some_iff`).
* `RatioReading.ofOutput_exact`: a ratio that was printed is read back among whatever stands before
  it, and nothing but a ratio is read.
-/

set_option autoImplicit false

namespace Flowscript

namespace Text

/-! ## The last line -/

/-- Nothing but blanks follows a line, which holds something else and stands by itself. -/
def IsLastLine (output line : List Char) : Prop :=
  ∃ before after, output = before ++ line ++ after ∧
    (before = [] ∨ before.getLast? = some '\n') ∧ '\n' ∉ line ∧ isAllBlank line = false ∧
    (after = [] ∨ after.head? = some '\n') ∧ isAllBlank after = true

theorem isAllBlank_iff {cs : List Char} : isAllBlank cs = true ↔ ∀ c ∈ cs, isBlank c = true := by
  simp [isAllBlank]

theorem isBlank_newline : isBlank '\n' = true := by decide

/-- **Where anything but a blank stands, some line is the last that is not blank.** -/
theorem exists_isLastLine {output : List Char} (h : isAllBlank output = false) :
    ∃ line, IsLastLine output line := by
  induction output with
  | nil => cases h
  | cons c cs ih =>
    cases hcs : isAllBlank cs with
    | false =>
      obtain ⟨line, before, after, rfl, hbefore, hline, hheld, hafter, hblank⟩ := ih hcs
      cases before with
      | cons b before =>
        refine ⟨line, c :: b :: before, after, rfl, .inr ?_, hline, hheld, hafter, hblank⟩
        simpa using hbefore
      | nil =>
        rcases eq_or_ne c '\n' with rfl | hc
        · exact ⟨line, ['\n'], after, rfl, .inr rfl, hline, hheld, hafter, hblank⟩
        · refine ⟨c :: line, [], after, rfl, .inl rfl, ?_, ?_, hafter, hblank⟩
          · simpa using ⟨hc.symm, hline⟩
          · rw [isAllBlank] at hheld ⊢
            rw [List.all_cons, hheld, Bool.and_false]
    | true =>
      -- The first character is the last that is not blank, and its line goes up to a line feed.
      have hc : isBlank c = false := by
        rw [isAllBlank] at h hcs
        rwa [List.all_cons, hcs, Bool.and_true] at h
      have hnewline : c ≠ '\n' := by
        rintro rfl
        cases hc
      refine ⟨c :: cs.takeWhile (· != '\n'), [], cs.dropWhile (· != '\n'), ?_, .inl rfl, ?_, ?_,
        ?_, ?_⟩
      · simp
      · intro hmem
        rcases List.mem_cons.1 hmem with heq | hmem
        · exact hnewline heq.symm
        · cases List.mem_takeWhile_imp hmem
      · rw [isAllBlank, List.all_cons, hc, Bool.false_and]
      · cases hdrop : cs.dropWhile (· != '\n') with
        | nil => exact .inl rfl
        | cons d ds =>
          have hd := List.head_dropWhile_not (· != '\n') (l := cs) (by simp [hdrop])
          simp only [hdrop, List.head_cons, bne_eq_false_iff_eq] at hd
          exact .inr (congrArg some hd)
      · exact isAllBlank_iff.2 fun d hd =>
          isAllBlank_iff.1 hcs d ((List.dropWhile_suffix _).subset hd)

/-! ## Lines of two texts -/

theorem dropReturn_cases (line : List Char) :
    dropReturn line = line ∨ line = dropReturn line ++ ['\r'] := by
  rw [dropReturn]
  split
  · rename_i hlast
    exact .inr (List.dropLast_append_getLast? _ hlast).symm
  · exact .inl rfl

/-- A carriage return at the end of a line belongs to no word. -/
theorem words_dropReturn (line : List Char) : words (dropReturn line) = words line := by
  rcases dropReturn_cases line with h | h
  · rw [h]
  · conv_rhs => rw [h]
    rw [words_append_cons (by decide)]
    simp [words, splitAt]

/-- A line feed ends a line. -/
theorem lines_append_cons (as bs : List Char) :
    lines (as ++ '\n' :: bs) = (splitAt (· == '\n') as).map dropReturn ++ lines bs := by
  have hne := splitAt_ne_nil (· == '\n') bs
  simp only [lines]
  rw [splitAt_append_cons (by decide), List.dropLast_append_of_ne_nil hne,
    List.getLast?_append_of_ne_nil _ hne, List.map_append, List.append_assoc]

theorem mem_of_mem_lines {cs line : List Char} (h : line ∈ lines cs) {c : Char} (hc : c ∈ line) :
    c ∈ cs := by
  rw [lines, List.mem_append] at h
  rcases h with h | h
  · obtain ⟨piece, hpiece, rfl⟩ := List.mem_map.1 h
    refine mem_of_mem_splitAt (List.dropLast_subset _ hpiece) ?_
    rcases dropReturn_cases piece with heq | heq
    · exact heq ▸ hc
    · exact heq ▸ List.mem_append_left _ hc
  · have hlast : (splitAt (· == '\n') cs).getLast? = some line := by
      simpa using List.mem_of_mem_filter h
    exact mem_of_mem_splitAt (List.mem_of_getLast? hlast) hc

theorem splitAt_newline_of_not_mem {cs : List Char} (h : '\n' ∉ cs) :
    splitAt (· == '\n') cs = [cs] :=
  splitAt_of_forall fun c hc => by
    rw [beq_eq_false_iff_ne]
    exact ne_of_mem_of_not_mem hc h

/-- Text without a line feed is a line, and if it has an end a carriage return is taken off. -/
theorem exists_lines_cons {line after : List Char} (hne : line ≠ []) (hline : '\n' ∉ line)
    (hafter : after = [] ∨ after.head? = some '\n') : ∃ shown behind,
      lines (line ++ after) = shown :: behind ∧ words shown = words line ∧
        ∀ other ∈ behind, ∀ c ∈ other, c ∈ after := by
  rcases hafter with rfl | hafter
  · refine ⟨line, [], ?_, rfl, by simp⟩
    rw [List.append_nil, lines, splitAt_newline_of_not_mem hline]
    simp [hne]
  · obtain ⟨rest, rfl⟩ := List.head?_eq_some_iff.1 hafter
    refine ⟨dropReturn line, lines rest, ?_, words_dropReturn line, fun other hother c hc => ?_⟩
    · rw [lines_append_cons, splitAt_newline_of_not_mem hline]
      rfl
    · exact List.mem_cons_of_mem _ (mem_of_mem_lines hother hc)

/-- Lines that end leave the lines behind them as they are. -/
theorem exists_lines_append {before : List Char}
    (h : before = [] ∨ before.getLast? = some '\n') (rest : List Char) :
    ∃ front, lines (before ++ rest) = front ++ lines rest := by
  rcases h with rfl | h
  · exact ⟨[], rfl⟩
  · rw [← List.dropLast_append_getLast? _ h, List.append_assoc, List.singleton_append,
      lines_append_cons]
    exact ⟨_, rfl⟩

/-! ## Numerals of 64 bits -/

/-- A word is a numeral of 64 bits: ASCII digits, of which there is one at least, and which may have
one plus in front. -/
def Denotes (word : List Char) (n : Nat) : Prop :=
  ∃ digits, (word = digits ∨ word = '+' :: digits) ∧ digits ≠ [] ∧
    (∀ d ∈ digits, d.isDigit = true) ∧ Nat.ofDigitChars 10 digits 0 = n ∧ n < word64Limit

/-- **The words that are read as numbers are the numerals.** -/
theorem readWord64_eq_ok_iff {word : List Char} {n : Nat} :
    readWord64 (String.ofList word) = .ok n ↔ Denotes word n := by
  have hplus : Char.isDigit '+' = false := by decide
  rw [Denotes]
  rcases word with _ | ⟨c, cs⟩
  · simp [readWord64]
  by_cases hc : c = '+'
  · subst hc
    constructor
    · intro h
      cases cs with
      | nil => cases h
      | cons d ds =>
        have hread : readDigits 0 (d :: ds) = .ok n := by simpa [readWord64] using h
        exact ⟨d :: ds, .inr rfl, List.cons_ne_nil _ _, readDigits_eq_ok_iff.1 hread⟩
    · rintro ⟨digits, hword, hne, hdigits, hvalue⟩
      rcases hword with rfl | hword
      · cases hplus.symm.trans (hdigits '+' List.mem_cons_self)
      · obtain ⟨-, rfl⟩ := List.cons.inj hword
        obtain ⟨d, ds, rfl⟩ := List.exists_cons_of_ne_nil hne
        simpa [readWord64] using readDigits_eq_ok_iff.2 ⟨hdigits, hvalue⟩
  · have hread : readWord64 (String.ofList (c :: cs)) = readDigits 0 (c :: cs) := by
      rw [readWord64, String.toList_ofList]
      simp [hc]
    rw [hread, readDigits_eq_ok_iff]
    constructor
    · exact fun h => ⟨c :: cs, .inl rfl, List.cons_ne_nil _ _, h⟩
    · rintro ⟨digits, hword, -, h⟩
      rcases hword with rfl | hword
      · exact h
      · exact absurd (List.cons.inj hword).1 hc

/-- The digits that a number is written with. -/
theorem denotes_toDigits {n : Nat} (h : n < word64Limit) : Denotes (Nat.toDigits 10 n) n :=
  ⟨_, .inl rfl, Nat.toDigits_ne_nil, isDigit_toDigits, Nat.ofDigitChars_ten_toDigits, h⟩

theorem Denotes.ne_nil {word : List Char} {n : Nat} (h : Denotes word n) : word ≠ [] := by
  obtain ⟨digits, rfl | rfl, hne, -⟩ := h
  · exact hne
  · exact List.cons_ne_nil _ _

theorem isBlank_of_isDigit {c : Char} (h : c.isDigit = true) : isBlank c = false := by
  have hc := toNat_of_isDigit h
  simp only [isBlank, blankRanges, inRanges, List.any_cons, List.any_nil, Bool.or_eq_false_iff,
    Bool.and_eq_false_iff, decide_eq_false_iff_not, and_true]
  omega

theorem Denotes.isBlank_eq_false {word : List Char} {n : Nat} (h : Denotes word n) :
    ∀ c ∈ word, isBlank c = false := by
  obtain ⟨digits, rfl | rfl, -, hdigits, -⟩ := h
  · exact fun c hc => isBlank_of_isDigit (hdigits c hc)
  · exact List.forall_mem_cons.2 ⟨by decide, fun c hc => isBlank_of_isDigit (hdigits c hc)⟩

/-! ## Words one by one -/

theorem words_append_of_blank {blanks : List Char} (h : ∀ c ∈ blanks, isBlank c = true)
    (rest : List Char) : words (blanks ++ rest) = words rest := by
  induction blanks with
  | nil => rfl
  | cons c cs ih =>
    rw [List.cons_append, words_cons (h c List.mem_cons_self)]
    exact ih fun d hd => h d (List.mem_cons_of_mem _ hd)

theorem isBlank_of_mem_head?_append {blanks : List Char} (h : ∀ c ∈ blanks, isBlank c = true)
    (hne : blanks ≠ []) (rest : List Char) : ∀ c ∈ (blanks ++ rest).head?, isBlank c = true := by
  obtain ⟨c, cs, rfl⟩ := List.exists_cons_of_ne_nil hne
  rintro d ⟨⟩
  exact h c List.mem_cons_self

/-- A word goes up to a blank or up to the end. -/
theorem words_append {word rest : List Char} (hne : word ≠ [])
    (hword : ∀ c ∈ word, isBlank c = false) (hrest : ∀ c ∈ rest.head?, isBlank c = true) :
    words (word ++ rest) = word :: words rest := by
  cases rest with
  | nil =>
    rw [List.append_nil, words_of_forall hne hword]
    rfl
  | cons c cs =>
    have hc := hrest c rfl
    rw [words_append_cons hc, words_of_forall hne hword, words_cons hc]
    rfl

theorem words_of_isAllBlank {cs : List Char} (h : isAllBlank cs = true) : words cs = [] := by
  have hnil := words_append_of_blank (isAllBlank_iff.1 h) []
  rwa [List.append_nil] at hnil

/-- A text that is not all blank is blanks, a word, and what the word ends before. -/
theorem exists_word {cs : List Char} (h : isAllBlank cs = false) :
    ∃ blanks word rest, cs = blanks ++ word ++ rest ∧ (∀ c ∈ blanks, isBlank c = true) ∧
      word ≠ [] ∧ (∀ c ∈ word, isBlank c = false) ∧ ∀ c ∈ rest.head?, isBlank c = true := by
  induction cs with
  | nil => cases h
  | cons c cs ih =>
    cases hc : isBlank c with
    | true =>
      have hcs : isAllBlank cs = false := by
        rwa [isAllBlank, List.all_cons, hc, Bool.true_and] at h
      obtain ⟨blanks, word, rest, rfl, hblanks, hword⟩ := ih hcs
      exact ⟨c :: blanks, word, rest, rfl, List.forall_mem_cons.2 ⟨hc, hblanks⟩, hword⟩
    | false =>
      refine ⟨[], c :: cs.takeWhile (!isBlank ·), cs.dropWhile (!isBlank ·), by simp, by simp,
        List.cons_ne_nil _ _, List.forall_mem_cons.2 ⟨hc, fun d hd => ?_⟩, fun d hd => ?_⟩
      · simpa using List.mem_takeWhile_imp hd
      · have hhead := List.head?_dropWhile_not (!isBlank ·) cs
        rw [Option.mem_def.1 hd] at hhead
        simpa using hhead

/-- **The first word is what stands first but for blanks, and the others are behind it.** -/
theorem words_eq_cons_iff {cs word : List Char} {others : List (List Char)} :
    words cs = word :: others ↔ ∃ blanks rest, cs = blanks ++ word ++ rest ∧
      (∀ c ∈ blanks, isBlank c = true) ∧ word ≠ [] ∧ (∀ c ∈ word, isBlank c = false) ∧
      (∀ c ∈ rest.head?, isBlank c = true) ∧ words rest = others := by
  constructor
  · intro h
    cases hcs : isAllBlank cs with
    | true =>
      rw [words_of_isAllBlank hcs] at h
      cases h
    | false =>
      obtain ⟨blanks, first, rest, rfl, hblanks, hne, hfirst, hrest⟩ := exists_word hcs
      rw [List.append_assoc, words_append_of_blank hblanks, words_append hne hfirst hrest] at h
      obtain ⟨rfl, rfl⟩ := List.cons.inj h
      exact ⟨blanks, rest, rfl, hblanks, hne, hfirst, hrest, rfl⟩
  · rintro ⟨blanks, rest, rfl, hblanks, hne, hword, hrest, rfl⟩
    rw [List.append_assoc, words_append_of_blank hblanks, words_append hne hword hrest]

/-- No word is there only where all is blank. -/
theorem words_eq_nil_iff {cs : List Char} : words cs = [] ↔ isAllBlank cs = true := by
  constructor
  · intro h
    cases hcs : isAllBlank cs with
    | true => rfl
    | false =>
      obtain ⟨blanks, word, rest, hcut, hblanks, hne, hword, hrest⟩ := exists_word hcs
      have hwords := words_eq_cons_iff.2 ⟨blanks, rest, hcut, hblanks, hne, hword, hrest, rfl⟩
      rw [h] at hwords
      cases hwords
  · exact words_of_isAllBlank

end Text

/-! ## Lines that are ratios -/

namespace Ratio

/-- A line is two numerals and a slash, with blanks around the slash and perhaps at the ends. -/
def Spells (line : List Char) (r : Ratio) : Prop :=
  ∃ s₀ produced s₁ s₂ expected s₃,
    line = s₀ ++ produced ++ s₁ ++ ['/'] ++ s₂ ++ expected ++ s₃ ∧
    (∀ c ∈ s₀ ++ s₁ ++ s₂ ++ s₃, Text.isBlank c = true) ∧ s₁ ≠ [] ∧ s₂ ≠ [] ∧
    Text.Denotes produced r.produced ∧ Text.Denotes expected r.expected

theorem read?_eq_some_iff_words {line : List Char} {r : Ratio} :
    read? line = some r ↔ ∃ produced expected, Text.words line = [produced, ['/'], expected] ∧
      Text.Denotes produced r.produced ∧ Text.Denotes expected r.expected := by
  simp only [← Text.readWord64_eq_ok_iff]
  constructor
  · intro h
    rw [read?] at h
    split at h
    · rename_i produced expected hwords
      split at h
      · rename_i n m hproduced hexpected
        obtain rfl := Option.some.inj h
        exact ⟨produced, expected, hwords, hproduced, hexpected⟩
      · cases h
    · cases h
  · rintro ⟨produced, expected, hwords, hproduced, hexpected⟩
    rw [read?, hwords]
    simp only [hproduced, hexpected]

/-- **The lines that are read are two counts with a slash between them.** -/
theorem read?_eq_some_iff {line : List Char} {r : Ratio} : read? line = some r ↔ Spells line r := by
  rw [read?_eq_some_iff_words]
  constructor
  · rintro ⟨produced, expected, hwords, hproduced, hexpected⟩
    obtain ⟨s₀, rest₀, rfl, h₀, -, -, hrest₀, hwords⟩ := Text.words_eq_cons_iff.1 hwords
    obtain ⟨s₁, rest₁, rfl, h₁, -, -, hrest₁, hwords⟩ := Text.words_eq_cons_iff.1 hwords
    obtain ⟨s₂, s₃, rfl, h₂, hne, hword, -, hwords⟩ := Text.words_eq_cons_iff.1 hwords
    have h₃ := Text.isAllBlank_iff.1 (Text.words_eq_nil_iff.1 hwords)
    refine ⟨s₀, produced, s₁, s₂, expected, s₃, by simp, ?_, ?_, ?_, hproduced, hexpected⟩
    · simp only [List.mem_append]
      rintro c (((hc | hc) | hc) | hc)
      exacts [h₀ c hc, h₁ c hc, h₂ c hc, h₃ c hc]
    · rintro rfl
      cases hrest₀ '/' rfl
    · rintro rfl
      obtain ⟨c, cs, rfl⟩ := List.exists_cons_of_ne_nil hne
      cases (hword c List.mem_cons_self).symm.trans (hrest₁ c rfl)
  · rintro ⟨s₀, produced, s₁, s₂, expected, s₃, rfl, hblanks, h₁, h₂, hproduced, hexpected⟩
    simp only [List.forall_mem_append] at hblanks
    obtain ⟨⟨⟨hs₀, hs₁⟩, hs₂⟩, hs₃⟩ := hblanks
    refine ⟨produced, expected, ?_, hproduced, hexpected⟩
    simp only [List.append_assoc]
    rw [Text.words_append_of_blank hs₀,
      Text.words_append hproduced.ne_nil hproduced.isBlank_eq_false
        (Text.isBlank_of_mem_head?_append hs₁ h₁ _), Text.words_append_of_blank hs₁,
      Text.words_append (List.cons_ne_nil _ _) (by decide)
        (Text.isBlank_of_mem_head?_append hs₂ h₂ _), Text.words_append_of_blank hs₂,
      Text.words_append hexpected.ne_nil hexpected.isBlank_eq_false fun c hc =>
        hs₃ c (List.mem_of_mem_head? hc), Text.words_eq_nil_iff.2 (Text.isAllBlank_iff.2 hs₃)]

theorem read?_congr {a b : List Char} (h : Text.words a = Text.words b) : read? a = read? b := by
  rw [read?, read?, h]

/-- **A ratio as it is printed is one.** -/
theorem spells_text {r : Ratio} (hp : r.produced < Text.word64Limit)
    (he : r.expected < Text.word64Limit) : Spells r.text.toList r := by
  refine ⟨[], Nat.toDigits 10 r.produced, [' '], [' '], Nat.toDigits 10 r.expected, [], ?_,
    by decide, List.cons_ne_nil _ _, List.cons_ne_nil _ _, Text.denotes_toDigits hp,
    Text.denotes_toDigits he⟩
  simp [text]

theorem Spells.isAllBlank_eq_false {line : List Char} {r : Ratio} (h : Spells line r) :
    Text.isAllBlank line = false := by
  obtain ⟨produced, expected, hwords, -⟩ := read?_eq_some_iff_words.1 (read?_eq_some_iff.2 h)
  rw [← Bool.not_eq_true, ← Text.words_eq_nil_iff, hwords]
  exact List.cons_ne_nil _ _

theorem newline_not_mem_text (r : Ratio) : '\n' ∉ r.text.toList := by
  have hdigits : ∀ n, '\n' ∉ Nat.toDigits 10 n := by
    intro n hmem
    cases isDigit_toDigits '\n' hmem
  simp [text, hdigits]

end Ratio

/-! ## What is read of an output -/

namespace RatioReading

/-- **The line that is looked at has the words of the last line that is not blank.** -/
theorem words_lastLine {output line : List Char} (h : Text.IsLastLine output line) :
    Text.words (lastLine output) = Text.words line := by
  obtain ⟨before, after, rfl, hbefore, hline, hheld, hafter, hblank⟩ := h
  have hne : line ≠ [] := by
    rintro rfl
    cases hheld
  obtain ⟨front, hfront⟩ := Text.exists_lines_append hbefore (line ++ after)
  obtain ⟨shown, behind, hlines, hshown, hbehind⟩ := Text.exists_lines_cons hne hline hafter
  have hshownHeld : Text.isAllBlank shown = false := by
    rw [← Bool.not_eq_true, ← Text.words_eq_nil_iff, hshown, Text.words_eq_nil_iff, hheld]
    exact Bool.false_ne_true
  have hskipped : ∀ other ∈ behind, Text.isAllBlank other = true := fun other hother =>
    Text.isAllBlank_iff.2 fun c hc => Text.isAllBlank_iff.1 hblank c (hbehind other hother c hc)
  have hfind : lastLine (before ++ line ++ after) = shown := by
    rw [lastLine, List.append_assoc, hfront, hlines, List.reverse_append, List.reverse_cons,
      List.append_assoc, List.singleton_append, List.find?_append,
      List.find?_eq_none.2 fun other hother => by
        simp [hskipped other (List.mem_reverse.1 hother)]]
    simp [hshownHeld]
  rw [hfind, hshown]

/-- Where all is blank, no word is looked at. -/
theorem words_lastLine_of_isAllBlank {output : List Char} (h : Text.isAllBlank output = true) :
    Text.words (lastLine output) = [] := by
  rw [lastLine, List.find?_eq_none.2 fun line hline => ?_]
  · rfl
  · have hblank : Text.isAllBlank line = true := Text.isAllBlank_iff.2 fun c hc =>
      Text.isAllBlank_iff.1 h c (Text.mem_of_mem_lines (List.mem_reverse.1 hline) hc)
    simp [hblank]

theorem ofOutput_eq_known_iff {output : String} {r : Ratio} :
    ofOutput output = .known r ↔ Ratio.read? (lastLine output.toList) = some r := by
  cases h : Ratio.read? (lastLine output.toList) <;> simp [ofOutput, h]

/-- What is known of an output with a last line is the ratio that the line spells. -/
theorem ofOutput_of_isLastLine {output : String} {line : List Char}
    (h : Text.IsLastLine output.toList line) {r : Ratio} :
    ofOutput output = .known r ↔ Ratio.Spells line r := by
  rw [ofOutput_eq_known_iff, Ratio.read?_congr (words_lastLine h), Ratio.read?_eq_some_iff]

/-- **A ratio that was printed is read back, and nothing but a ratio is read.**  Whatever lines
stand before it and whatever blanks behind it, the counts come back as they were printed.  And
counts are only known where the last line that is not blank is two numerals of 64 bits with a slash
between them. -/
theorem ofOutput_exact :
    (∀ (r : Ratio) (before after : String),
      r.produced < Text.word64Limit → r.expected < Text.word64Limit →
      (before = "" ∨ before.toList.getLast? = some '\n') → Text.isAllBlank after.toList = true →
      ofOutput (before ++ r.text ++ "\n" ++ after) = .known r) ∧
    ∀ (output : String) (r : Ratio), ofOutput output = .known r ↔
      ∃ line, Text.IsLastLine output.toList line ∧ Ratio.Spells line r := by
  constructor
  · intro r before after hp he hbefore hafter
    have hspells := Ratio.spells_text hp he
    have hblank : Text.isAllBlank ('\n' :: after.toList) = true := Text.isAllBlank_iff.2
      (List.forall_mem_cons.2 ⟨Text.isBlank_newline, Text.isAllBlank_iff.1 hafter⟩)
    have hline : Text.IsLastLine (before ++ r.text ++ "\n" ++ after).toList r.text.toList :=
      ⟨before.toList, '\n' :: after.toList, by simp, hbefore.imp_left String.toList_eq_nil_iff.2,
        r.newline_not_mem_text, hspells.isAllBlank_eq_false, .inr rfl, hblank⟩
    exact (ofOutput_of_isLastLine hline).2 hspells
  · intro output r
    constructor
    · intro h
      cases hblank : Text.isAllBlank output.toList with
      | true =>
        have hnone : Ratio.read? (lastLine output.toList) = none := by
          rw [Ratio.read?, words_lastLine_of_isAllBlank hblank]
        rw [ofOutput_eq_known_iff, hnone] at h
        cases h
      | false =>
        obtain ⟨line, hline⟩ := Text.exists_isLastLine hblank
        exact ⟨line, hline, (ofOutput_of_isLastLine hline).1 h⟩
    · rintro ⟨line, hline, hspells⟩
      exact (ofOutput_of_isLastLine hline).2 hspells

/-- The largest count, after a line that is a ratio too and before blanks of other kinds. -/
theorem ofOutput_exact_chatter :
    ofOutput ("make: 1 job\n3 / 4\n" ++ (Ratio.mk 18446744073709551615 0).text ++ "\n" ++
        " \r\n\u00a0\t") = .known ⟨18446744073709551615, 0⟩ :=
  ofOutput_exact.1 ⟨18446744073709551615, 0⟩ _ _ (by decide) (by decide) (.inr (by decide))
    (by decide)

end RatioReading

end Flowscript
