import Mathlib.Logic.Function.Basic
import Flowscript.Proofs.Marks
import Flowscript.Proofs.Table
import Flowscript.Proofs.Words

/-!
# Values of variables

Replacing variables goes through a text from left to right.  A variable with a value is replaced,
and a text without a dollar is kept as it is.  Variables cannot overlap, so what is replaced does
not depend on this order: a text has one reading, with all variables that occur in it.

* `Variable.tokens_variable` and `Variable.tokens_cons` are the two steps.
* `Variable.substitute_variable_append` and `Variable.substitute_append` are what they come to.
* `Variable.marking` are variables as marks, `Variable.isVariable_iff` is the test for them, and
  `Variable.decomposes_tokens` says that tokens are the reading of a text.
* `Variable.tokens_append_cons` cuts a text at a blank.
* `Variable.mem_substitute` and `Variable.mem_substitute_of_mem` tell which characters the result
  has.
* `Table.substitutes_reading` is about the rows of a table: the cells are put in place of the
  variables that name a column, and a column is used exactly if its name is a variable.
-/

set_option autoImplicit false

namespace Flowscript

namespace Variable

/-- What is written as a variable: a dollar and, in brackets, a name without brackets and blanks. -/
def IsVariable (text : String) : Prop :=
  ∃ name : List Char, name ≠ [] ∧ (∀ c ∈ name, c ≠ '(' ∧ c ≠ ')' ∧ Text.isBlank c = false) ∧
    text.toList = '$' :: '(' :: (name ++ [')'])

theorem isNameChar_iff {c : Char} :
    isNameChar c = true ↔ c ≠ '(' ∧ c ≠ ')' ∧ Text.isBlank c = false := by
  simp [isNameChar, and_assoc]

/-- A name ends at the bracket that closes it. -/
theorem span_isNameChar_iff {cs name rest : List Char} :
    cs.takeWhile isNameChar = name ∧ cs.dropWhile isNameChar = ')' :: rest ↔
      (∀ c ∈ name, isNameChar c = true) ∧ cs = name ++ ')' :: rest :=
  Text.span_eq_iff (by decide)

theorem variableAt?_append {name : List Char} (hne : name ≠ [])
    (hname : ∀ c ∈ name, isNameChar c = true) (rest : List Char) :
    variableAt? ('$' :: '(' :: (name ++ ')' :: rest)) =
      some (String.ofList ('$' :: '(' :: name ++ [')']), rest) := by
  have hspan : (name ++ ')' :: rest).takeWhile isNameChar = name ∧
      (name ++ ')' :: rest).dropWhile isNameChar = ')' :: rest :=
    span_isNameChar_iff.2 ⟨hname, rfl⟩
  rw [variableAt?]
  simp only [hspan]

theorem tokens_variable {name : List Char} (hne : name ≠ [])
    (hname : ∀ c ∈ name, isNameChar c = true) (rest : List Char) :
    tokens ('$' :: '(' :: (name ++ ')' :: rest)) =
      .variable (String.ofList ('$' :: '(' :: name ++ [')'])) :: tokens rest := by
  rw [tokens]
  split
  · rename_i text rest' h
    rw [variableAt?_append hne hname] at h
    cases h
    rfl
  · rename_i h
    rw [variableAt?_append hne hname] at h
    cases h

theorem tokens_cons {c : Char} (hc : c ≠ '$') (cs : List Char) :
    tokens (c :: cs) = .char c :: tokens cs := by
  have hnone : variableAt? (c :: cs) = none := by
    rw [variableAt?]
    intro cs' h
    exact hc (List.cons.inj h).1
  rw [tokens]
  split
  · rename_i h
    rw [hnone] at h
    cases h
  · rfl

/-- A variable with a value is replaced by it. -/
theorem substitute_variable_append {value : String → Option String} {name text : String}
    (hne : name ≠ "") (hname : ∀ c ∈ name.toList, isNameChar c = true)
    (hvalue : value ("$(" ++ name ++ ")") = some text) (rest : String) :
    substitute value ("$(" ++ name ++ ")" ++ rest) = text ++ substitute value rest := by
  have hlist : ("$(" ++ name ++ ")" ++ rest).toList =
      '$' :: '(' :: (name.toList ++ ')' :: rest.toList) := by
    simp
  have htoken : String.ofList ('$' :: '(' :: name.toList ++ [')']) = "$(" ++ name ++ ")" := by
    rw [← String.toList_inj, String.toList_ofList]
    simp
  have hchars : name.toList ≠ [] := fun hnil => hne (String.toList_eq_nil_iff.1 hnil)
  rw [substitute, hlist, tokens_variable hchars hname, htoken, List.flatMap_cons, Token.expand,
    hvalue, ← String.toList_inj, String.toList_ofList, String.toList_append, substitute,
    String.toList_ofList]
  rfl

/-- A text without a dollar is kept. -/
theorem substitute_append {plain : String} (h : ∀ c ∈ plain.toList, c ≠ '$')
    (value : String → Option String) (rest : String) :
    substitute value (plain ++ rest) = plain ++ substitute value rest := by
  rw [← String.toList_inj, String.toList_append, substitute, substitute, String.toList_ofList,
    String.toList_ofList, String.toList_append]
  generalize plain.toList = cs at h
  induction cs with
  | nil => rfl
  | cons c cs ih =>
    rw [List.cons_append, tokens_cons (h c List.mem_cons_self), List.flatMap_cons, ih fun d hd =>
      h d (List.mem_cons_of_mem _ hd)]
    rfl

/-- A text that does not start with a variable starts as before. -/
theorem head?_substitute {text : String} (h : ∀ c ∈ text.toList.head?, c ≠ '$')
    (value : String → Option String) :
    (substitute value text).toList.head? = text.toList.head? := by
  rw [substitute, String.toList_ofList]
  cases htext : text.toList with
  | nil =>
    rw [tokens]
    rfl
  | cons c cs =>
    rw [htext] at h
    rw [tokens_cons (h c rfl)]
    rfl

theorem substitute_empty (value : String → Option String) : substitute value "" = "" := by
  rw [substitute, String.toList_empty, tokens]
  rfl

/-! ## Variables as marks -/

/-- **A variable is found exactly where one is written.** -/
theorem variableAt?_eq_some_iff {cs rest : List Char} {text : String} :
    variableAt? cs = some (text, rest) ↔ IsVariable text ∧ cs = text.toList ++ rest := by
  constructor
  · intro h
    unfold variableAt? at h
    split at h
    · rename_i cs
      split at h
      · cases h
      · rename_i hdrop hne
        cases h
        obtain ⟨hname, hsplit⟩ := span_isNameChar_iff.1 ⟨rfl, hdrop⟩
        refine ⟨⟨_, hne, fun c hc => isNameChar_iff.1 (hname c hc), ?_⟩, ?_⟩
        · rw [String.toList_ofList]
          rfl
        · rw [String.toList_ofList, List.append_assoc, List.singleton_append, List.cons_append,
            List.cons_append, ← hsplit]
      · cases h
    · cases h
  · rintro ⟨⟨name, hne, hname, htext⟩, rfl⟩
    have hfound := variableAt?_append hne (fun c hc => isNameChar_iff.2 (hname c hc)) rest
    have hlist : '$' :: '(' :: name ++ [')'] = text.toList := htext.symm
    rw [hlist, String.ofList_toList] at hfound
    rw [htext]
    simpa using hfound

/-- **A text is told to be a variable exactly if it is one.** -/
theorem isVariable_iff {text : String} : isVariable text = true ↔ IsVariable text := by
  rw [isVariable]
  constructor
  · intro h
    split at h
    · rename_i found rest hfound
      obtain ⟨hvariable, htext⟩ := variableAt?_eq_some_iff.1 hfound
      rw [List.isEmpty_iff.1 h, List.append_nil, String.toList_inj] at htext
      exact htext ▸ hvariable
    · cases h
  · intro h
    have hfound : variableAt? text.toList = some (text, []) :=
      variableAt?_eq_some_iff.2 ⟨h, (List.append_nil _).symm⟩
    rw [hfound]
    rfl

/-- Behind its first character a variable holds no other one, whatever follows it. -/
theorem inside_eq_nil {text text' : String} {inside rest rest' : List Char}
    (h : IsVariable text) (h' : IsVariable text')
    (heq : text.toList ++ rest = inside ++ (text'.toList ++ rest'))
    (hlt : inside.length < text.toList.length) : inside = [] := by
  obtain ⟨name, -, hname, htext⟩ := h
  obtain ⟨name', -, -, htext'⟩ := h'
  rw [htext, htext'] at heq
  rw [htext] at hlt
  match inside with
  | [] => rfl
  | [c] =>
    -- the first bracket would be the dollar
    simp at heq
  | c :: d :: inside =>
    simp only [List.cons_append, List.append_assoc, List.nil_append, List.cons.injEq] at heq
    simp only [List.length_cons, List.length_append, List.length_nil] at hlt
    have hdollar : (name ++ ')' :: rest)[inside.length]? = some '$' := by simp [heq.2.2]
    have hopen : (name ++ ')' :: rest)[inside.length + 1]? = some '(' := by simp [heq.2.2]
    -- the second bracket would be in the name, or a closing one, or behind a closing one
    rcases Nat.lt_trichotomy (inside.length + 1) name.length with hname' | hend | hbehind
    · rw [List.getElem?_append_left hname'] at hopen
      exact absurd rfl (hname _ (List.mem_of_getElem? hopen)).1
    · simp [hend] at hopen
    · have hend : inside.length = name.length := by omega
      simp [hend] at hdollar

/-- Variables do not overlap: there is no opening bracket behind the first one of a variable. -/
def marking : Marking String where
  write := String.toList
  IsMark := IsVariable
  find := variableAt?
  find_eq_some_iff := variableAt?_eq_some_iff
  write_ne_nil := by
    rintro text ⟨name, -, -, htext⟩
    rw [htext]
    exact List.cons_ne_nil _ _
  inside_eq_nil := inside_eq_nil

/-- The part of a reading that a token stands for. -/
def Token.part : Token → Part String
  | .char c => .char c
  | .variable text => .mark text

/-- **The tokens of a text are its reading.** -/
theorem decomposes_tokens (cs : List Char) :
    marking.Decomposes ((tokens cs).map Token.part) cs := by
  fun_induction tokens cs with
  | case1 cs text rest h hlt ih => exact .mark h ih
  | case2 h => exact Marking.decomposes_nil
  | case3 c cs h ih => exact .char h ih

/-- Replacing variables puts values into the reading of a text, at all places at once. -/
theorem toList_substitute (value : String → Option String) (text : String) :
    (substitute value text).toList =
      Part.fill (fun name => ((value name).getD name).toList)
        ((tokens text.toList).map Token.part) := by
  rw [substitute, String.toList_ofList, Part.fill, List.flatMap_map]
  refine List.flatMap_congr fun token _ => ?_
  cases token <;> rfl

/-- Only the values of variables matter. -/
theorem substitute_congr {value value' : String → Option String}
    (h : ∀ name, IsVariable name → value name = value' name) (text : String) :
    substitute value text = substitute value' text := by
  rw [← String.toList_inj, toList_substitute, toList_substitute]
  exact Part.fill_congr fun name hname => by
    rw [h name ((decomposes_tokens text.toList).isMark name hname)]

/-- A variable that stands alone is replaced by its value. -/
theorem substitute_variable {name : String} (h : IsVariable name)
    (value : String → Option String) : substitute value name = (value name).getD name := by
  have halone : marking.Decomposes [.mark name] name.toList :=
    .mark (variableAt?_eq_some_iff.2 ⟨h, (List.append_nil _).symm⟩) Marking.decomposes_nil
  rw [← String.toList_inj, toList_substitute, halone.unique (decomposes_tokens name.toList)]
  simp

/-! ## Blanks -/

/-- No variable goes over a blank. -/
theorem variableAt?_append_cons {c : Char} (hc : Text.isBlank c = true) (as bs : List Char) :
    variableAt? (as ++ c :: bs) =
      (variableAt? as).map fun found => (found.1, found.2 ++ c :: bs) := by
  have hne : ∀ d, Text.isBlank d = false → c ≠ d := by
    rintro d hd rfl
    rw [hc] at hd
    cases hd
  have hname : isNameChar c = false := by simp [isNameChar, hc]
  match as with
  | [] => simp [variableAt?, hne '$' (by decide)]
  | [a] => simp [variableAt?, hne '(' (by decide)]
  | a :: b :: cs =>
    by_cases hstart : a = '$' ∧ b = '('
    · obtain ⟨rfl, rfl⟩ := hstart
      obtain ⟨htake, hdrop⟩ := Text.span_append_cons hname cs bs
      rw [List.cons_append, List.cons_append, variableAt?, variableAt?, htake, hdrop]
      generalize cs.takeWhile isNameChar = name
      generalize cs.dropWhile isNameChar = rest
      cases name with
      | nil => rfl
      | cons d name =>
        cases rest with
        | nil => simp [hne ')' (by decide)]
        | cons e rest =>
          by_cases he : e = ')'
          · subst he
            rfl
          · simp [he]
    · have hnone : ∀ rest, variableAt? (a :: b :: rest) = none := by
        intro rest
        rw [variableAt?]
        intro cs heq
        obtain ⟨ha, heq⟩ := List.cons.inj heq
        exact hstart ⟨ha, (List.cons.inj heq).1⟩
      rw [List.cons_append, List.cons_append, hnone, hnone]
      rfl

/-- **Variables are looked for on both sides of a blank.** -/
theorem tokens_append_cons {c : Char} (hc : Text.isBlank c = true) (as bs : List Char) :
    tokens (as ++ c :: bs) = tokens as ++ .char c :: tokens bs := by
  have hdollar : c ≠ '$' := by
    rintro rfl
    cases hc
  have hcut := variableAt?_append_cons hc
  fun_induction tokens as with
  | case1 cs name rest h hlt ih =>
    rw [tokens]
    split
    · rename_i name' rest' h'
      rw [hcut, h] at h'
      cases h'
      rw [ih, List.cons_append]
    · rename_i h'
      rw [hcut, h] at h'
      cases h'
  | case2 h => exact tokens_cons hdollar bs
  | case3 a as h ih =>
    rw [List.cons_append, tokens]
    split
    · rename_i name' rest' h'
      rw [← List.cons_append, hcut, h] at h'
      cases h'
    · exact congrArg (Token.char a :: ·) ih

theorem substitute_append_cons {c : Char} (hc : Text.isBlank c = true)
    (value : String → Option String) (as bs : List Char) :
    (substitute value (String.ofList (as ++ c :: bs))).toList =
      (substitute value (String.ofList as)).toList ++
        c :: (substitute value (String.ofList bs)).toList := by
  simp only [substitute, String.toList_ofList, tokens_append_cons hc, List.flatMap_append,
    List.flatMap_cons, Token.expand, List.singleton_append]

/-! ## Characters of the result -/

/-- Without values a text is kept. -/
theorem substitute_none (text : String) : substitute (fun _ => none) text = text := by
  rw [← String.toList_inj, toList_substitute]
  exact (decomposes_tokens text.toList).written

/-- A character of the result stands in the text or in a value. -/
theorem mem_substitute {value : String → Option String} {text : String} {c : Char}
    (h : c ∈ (substitute value text).toList) :
    c ∈ text.toList ∨ ∃ name result, value name = some result ∧ c ∈ result.toList := by
  rw [substitute, String.toList_ofList, List.mem_flatMap] at h
  obtain ⟨token, htoken, hc⟩ := h
  have hkept : c ∈ token.expand (fun _ => none) → c ∈ text.toList := by
    intro hc
    rw [← substitute_none text, substitute, String.toList_ofList, List.mem_flatMap]
    exact ⟨token, htoken, hc⟩
  rcases token with d | name
  · exact .inl (hkept hc)
  · cases hvalue : value name with
    | none =>
      rw [Token.expand, hvalue] at hc
      exact .inl (hkept hc)
    | some result =>
      rw [Token.expand, hvalue] at hc
      exact .inr ⟨name, result, hvalue, hc⟩

/-- A character of the text is kept, unless it is in the name of a variable with a value. -/
theorem mem_substitute_of_mem {value : String → Option String} {text : String} {c : Char}
    (h : c ∈ text.toList) (hname : ∀ name, (value name).isSome = true → c ∉ name.toList) :
    c ∈ (substitute value text).toList := by
  rw [← substitute_none text, substitute, String.toList_ofList, List.mem_flatMap] at h
  obtain ⟨token, htoken, hc⟩ := h
  rw [substitute, String.toList_ofList, List.mem_flatMap]
  refine ⟨token, htoken, ?_⟩
  rcases token with d | name
  · exact hc
  · cases hvalue : value name with
    | none =>
      rw [Token.expand, hvalue]
      exact hc
    | some result => exact absurd hc (hname name (by rw [hvalue]; rfl))

end Variable

/-! ## Rows of tables -/

namespace Table

/-- What stands in the place of a variable: the cell of a row under the column of this name, as it
is written, or else the variable itself. -/
def inPlace (t : Table) (row : Row) (name : String) : String :=
  if name ∈ t.headers then (row.get? name).getD "" else name

variable {delimiter : Char} {source : String} {t : Table} {row : Row}

/-- Values are the cells of a row, so what is replaced are the columns of the table. -/
theorem getD_get?_eq_inPlace (ht : parseWith delimiter source = .ok t) (hrow : row ∈ t.rows)
    (name : String) : (row.get? name).getD name = t.inPlace row name := by
  rw [inPlace]
  have hcell := isSome_get?_of_parseWith ht hrow name
  cases hvalue : row.get? name with
  | none =>
    rw [hvalue] at hcell
    rw [if_neg fun hmem => absurd (hcell.2 hmem) (by decide)]
    rfl
  | some cell =>
    rw [hvalue] at hcell
    rw [if_pos (hcell.1 rfl)]
    rfl

/-- A column can be changed without any result changing exactly if its name is no variable. -/
theorem exists_substitute_ne_iff (value : String → Option String) (header : String) :
    (∃ text cell, Variable.substitute (Function.update value header (some cell)) text ≠
      Variable.substitute value text) ↔ Variable.isVariable header = true := by
  rw [Variable.isVariable_iff]
  constructor
  · rintro ⟨text, cell, hne⟩
    by_contra hplain
    refine hne (Variable.substitute_congr (fun name hname => ?_) text)
    refine Function.update_of_ne ?_ _ _
    rintro rfl
    exact hplain hname
  · intro hvariable
    obtain ⟨cell, hcell⟩ : ∃ cell, cell ≠ Variable.substitute value header :=
      ⟨Variable.substitute value header ++ "x", by simp⟩
    refine ⟨header, cell, ?_⟩
    rwa [Variable.substitute_variable hvariable, Function.update_self]

/-- A table without columns for variables keeps every text. -/
theorem substitute_eq_self (ht : parseWith delimiter source = .ok t) (hrow : row ∈ t.rows)
    (h : t.variableColumns = []) (text : String) : row.substitute text = text := by
  have hnone : ∀ name, Variable.IsVariable name → row.get? name = none := by
    intro name hname
    rw [← Option.not_isSome_iff_eq_none, isSome_get?_of_parseWith ht hrow]
    intro hmem
    have hcolumn : name ∈ t.variableColumns :=
      List.mem_filter.2 ⟨hmem, Variable.isVariable_iff.2 hname⟩
    rw [h] at hcolumn
    cases hcolumn
  rw [Row.substitute, Variable.substitute_congr hnone, Variable.substitute_none]

/-- **Cells are put in place of the variables that name a column, all at once.**  Every text has one
reading, with all variables that occur in it, and these do not overlap.  So a column is ever looked
up exactly if its name is a variable: otherwise its cells can be changed and no result differs. -/
theorem substitutes_reading (ht : parseWith delimiter source = .ok t) (hrow : row ∈ t.rows) :
    (∀ text : String, ∃ parts, Variable.marking.Decomposes parts text.toList ∧
        (∀ other, Variable.marking.Decomposes other text.toList → other = parts) ∧
        (row.substitute text).toList = Part.fill (fun name => (t.inPlace row name).toList) parts) ∧
      (∀ cs name name' i j, Variable.marking.Occurs name i cs → Variable.marking.Occurs name' j cs →
        i < j → i + name.toList.length ≤ j) ∧
      (∀ header ∈ t.headers,
        (∃ text cell, Variable.substitute (Function.update row.get? header (some cell)) text ≠
          row.substitute text) ↔ Variable.isVariable header = true) ∧
      (∀ header ∈ t.headers, Variable.isVariable header = true →
        row.get? header = some (row.substitute header)) ∧
      (t.variableColumns = [] → ∀ text, row.substitute text = text) := by
  have hplace : (fun name => ((row.get? name).getD name).toList) =
      fun name => (t.inPlace row name).toList :=
    funext fun name => by rw [getD_get?_eq_inPlace ht hrow]
  refine ⟨fun text => ?_, fun cs name name' i j h h' hlt => ?_, fun header _ => ?_,
    fun header hheader hvariable => ?_, substitute_eq_self ht hrow⟩
  · have hreading := Variable.decomposes_tokens text.toList
    refine ⟨_, hreading, fun other hother => hreading.unique hother, ?_⟩
    rw [Row.substitute, Variable.toList_substitute, hplace]
  · exact h.end_le h' hlt
  · exact exists_substitute_ne_iff row.get? header
  · obtain ⟨cell, hcell⟩ :=
      Option.isSome_iff_exists.1 ((isSome_get?_of_parseWith ht hrow header).2 hheader)
    rw [Row.substitute, Variable.substitute_variable (Variable.isVariable_iff.1 hvariable), hcell,
      Option.getD_some]

/-- No cell of a table goes over the end of a line. -/
theorem newline_not_mem_of_get? (ht : parseWith delimiter source = .ok t) (hrow : row ∈ t.rows)
    {column cell : String} (h : row.get? column = some cell) : '\n' ∉ cell.toList := by
  rcases parseWith_cases delimiter source with ⟨header, body, hlines, hwell, htable⟩ | ⟨e, -, he⟩
  · obtain rfl := Except.ok.inj (ht.symm.trans htable)
    obtain ⟨line, hline, rfl⟩ := List.mem_map.1 hrow
    rw [get?_rowOf (hwell.complete line hline)] at h
    obtain ⟨piece, hpiece, rfl⟩ := List.mem_map.1 (List.mem_of_getElem? h)
    have hmem : line ∈ Text.lines source.toList := by
      have hinked : line ∈ inked (Text.lines source.toList) := by
        rw [hlines]
        exact List.mem_cons_of_mem _ hline
      exact List.mem_of_mem_filter hinked
    rw [String.toList_ofList]
    intro hnewline
    exact Text.newline_not_mem_of_mem_lines hmem
      (Text.mem_of_mem_splitAt hpiece (Text.mem_of_mem_trimChars hnewline))
  · rw [he] at ht
    cases ht

theorem newline_not_mem_of_resolved? (ht : parseWith delimiter source = .ok t)
    (hrow : row ∈ t.rows) {column cell : String} (h : row.resolved? column = some cell) :
    '\n' ∉ cell.toList := by
  obtain ⟨written, hwritten, rfl⟩ := Option.map_eq_some_iff.1 h
  intro hnewline
  rcases Variable.mem_substitute hnewline with hmem | ⟨name, result, hvalue, hmem⟩
  · exact newline_not_mem_of_get? ht hrow hwritten hmem
  · exact newline_not_mem_of_get? ht hrow hvalue hmem

end Table

/-! ## A specimen -/

namespace Specimen

/-- A table with a variable whose cell holds the variable again, and a column that is almost one. -/
def echoing : Table :=
  ⟨["id", "$(a)", "$(a b)"], [⟨[("id", "r"), ("$(a)", "$(a).txt"), ("$(a b)", "y")]⟩]⟩

end Specimen

/-- A cell that holds a variable is put in as it is, and a name with a blank is not a variable. -/
theorem Table.substitutes_reading_echoing :
    Table.parseWith '|' "id|$(a)|$(a b)\nr|$(a).txt|y\n" = .ok Specimen.echoing ∧
      ∃ row ∈ Specimen.echoing.rows, row.substitute "$(a)" = "$(a).txt" ∧
        ∀ text cell, Variable.substitute (Function.update row.get? "$(a b)" (some cell)) text =
          row.substitute text := by
  have htable : Table.parseWith '|' "id|$(a)|$(a b)\nr|$(a).txt|y\n" = .ok Specimen.echoing := by
    decide
  obtain ⟨-, -, hused, hcell, -⟩ := Table.substitutes_reading htable List.mem_cons_self
  refine ⟨htable, _, List.mem_cons_self, ?_, fun text cell => ?_⟩
  · exact (Option.some.inj (hcell "$(a)" (by decide) (by decide))).symm
  · by_contra hne
    exact absurd ((hused "$(a b)" (by decide)).1 ⟨text, cell, hne⟩) (by decide)

end Flowscript
