import Flowscript.Proofs.Script.Expansion
import Flowscript.Proofs.Script.Frame
import Flowscript.Proofs.Script.RowsApart
import Flowscript.Proofs.Shell.Lines

/-!
# Texts that the setup writes

The setup of a script writes the text of each source of text into a file, with a line of a recipe.
Two programs read this line: make takes two dollars for one and replaces variables, and the shell
reads words.  Each has characters of its own, and a text is quoted for both of them.

* `Recipe.passed?` is what make passes on to the shell.  `Recipe.passed?_shellQuote` says that
  nothing but the dollars of a quoted text changes, and `Shell.exists_isWord` what it is in the end.
* `Shell.exists_stores` says that the lines of the setup store their texts.
* `Pipeline.compile_stores` is the result for compiled scripts.  The path of the file is not quoted,
  and `Pipeline.stored_elsewhere_branched` shows what comes of a space in it.
-/

set_option autoImplicit false

namespace Flowscript

/-! ## Bytes -/

namespace Octets

/-- The bytes of a character. -/
def ofChar (c : Char) : Octets := (String.utf8EncodeChar c).map fun b => Char.ofNat b.toNat

theorem ofText_eq (s : String) : ofText s = s.toList.flatMap ofChar := by
  rw [ofText, ofBytes, String.toUTF8_eq_toByteArray, ← String.utf8Encode_toList, List.utf8Encode,
    List.data_toByteArray, List.toList_toArray, List.map_flatMap]
  rfl

theorem ofText_ne_nil {s : String} (h : s ≠ "") : ofText s ≠ [] := by
  obtain ⟨c, cs, hs⟩ := List.exists_cons_of_ne_nil fun hnil => h (String.toList_eq_nil_iff.1 hnil)
  have hc : ofChar c ≠ [] := by
    rw [ofChar, ne_eq, List.map_eq_nil_iff]
    exact String.utf8EncodeChar_ne_nil
  rw [ofText_eq, hs, List.flatMap_cons]
  exact fun hnil => hc (List.append_eq_nil_iff.1 hnil).1

/-- A character of ASCII is its own byte. -/
theorem ofChar_of_lt {c : Char} (h : c.toNat < 128) : ofChar c = [c] := by
  have hle : c.val.toNat ≤ 0x7f := Nat.le_of_lt_succ h
  have hsize : UInt8.toNat (UInt8.ofNat c.val.toNat) = c.toNat := by
    rw [UInt8.toNat_ofNat']
    exact Nat.mod_eq_of_lt (Nat.lt_trans h (by decide))
  rw [ofChar, String.utf8EncodeChar]
  simp only [hle, if_true, List.map_cons, List.map_nil, hsize, Char.ofNat_toNat]

theorem flatMap_ofChar_of_lt {cs : List Char} (h : ∀ c ∈ cs, c.toNat < 128) :
    cs.flatMap ofChar = cs := by
  have hone : cs.flatMap ofChar = cs.flatMap ([·]) :=
    List.flatMap_congr fun c hc => ofChar_of_lt (h c hc)
  rw [hone, List.flatMap_singleton']

theorem toNat_ofNat_byte (b : UInt8) : (Char.ofNat b.toNat).toNat = b.toNat := by
  have hvalid : b.toNat.isValidChar := .inl (Nat.lt_trans b.toNat_lt (by decide))
  rw [Char.ofNat, dif_pos hvalid]
  rfl

/-- A byte of ASCII is in no other character. -/
theorem eq_of_mem_ofChar {c d : Char} (hd : d.toNat < 128) (h : d ∈ ofChar c) : d = c := by
  by_cases hc : c.toNat < 128
  · rw [ofChar_of_lt hc] at h
    exact List.mem_singleton.1 h
  · have hbytes : ∀ b ∈ String.utf8EncodeChar c, 128 ≤ b.toNat := by
      have hle : ¬c.val.toNat ≤ 0x7f := fun hle => hc (Nat.lt_succ_of_le hle)
      intro b hb
      rw [String.utf8EncodeChar] at hb
      simp only [hle, if_false] at hb
      split at hb
      · simp only [List.mem_cons, List.not_mem_nil, or_false] at hb
        rcases hb with rfl | rfl <;> rw [UInt8.toNat_ofNat'] <;> omega
      · split at hb
        · simp only [List.mem_cons, List.not_mem_nil, or_false] at hb
          rcases hb with rfl | rfl | rfl <;> rw [UInt8.toNat_ofNat'] <;> omega
        · simp only [List.mem_cons, List.not_mem_nil, or_false] at hb
          rcases hb with rfl | rfl | rfl | rfl <;> rw [UInt8.toNat_ofNat'] <;> omega
    obtain ⟨b, hb, rfl⟩ := List.mem_map.1 h
    rw [toNat_ofNat_byte] at hd
    exact absurd (hbytes b hb) (Nat.not_le_of_lt hd)

/-- What is so of bytes of ASCII only is so of the bytes of a text if it is so of its
characters. -/
theorem forall_mem_ofText {P : Char → Prop} {s : String} (hhigh : ∀ c, 128 ≤ c.toNat → P c)
    (h : ∀ c ∈ s.toList, P c) : ∀ c ∈ ofText s, P c := by
  intro d hd
  rw [ofText_eq, List.mem_flatMap] at hd
  obtain ⟨c, hc, hd⟩ := hd
  by_cases hlow : d.toNat < 128
  · exact eq_of_mem_ofChar hlow hd ▸ h c hc
  · exact hhigh d (Nat.le_of_not_lt hlow)

end Octets

/-! ## What make passes on -/

namespace Recipe

open Variable

/-- A line of a recipe as make passes it on to the shell: two dollars are one, and variables are
replaced by their values.  There is no result where anything else is asked for by a dollar. -/
def passed? (value : String → Option String) (cs : List Char) : Option (List Char) :=
  match cs with
  | [] => some []
  | '$' :: '$' :: rest => (passed? value rest).map ('$' :: ·)
  | '$' :: rest =>
    match h : variableAt? ('$' :: rest) with
    | some (name, rest') =>
      have := length_of_variableAt? h
      (value name).bind fun text => (passed? value rest').map (text.toList ++ ·)
    | none => none
  | c :: rest => (passed? value rest).map (c :: ·)
termination_by cs.length
decreasing_by all_goals simp_all; try omega

variable {value : String → Option String}

theorem passed?_cons {c : Char} (hc : c ≠ '$') (rest : List Char) :
    passed? value (c :: rest) = (passed? value rest).map (c :: ·) := by
  rw [passed?]
  · exact fun rest' heq _ => hc heq
  · exact fun heq => hc heq

theorem passed?_variable {cs rest : List Char} {name text : String}
    (h : variableAt? cs = some (name, rest)) (hvalue : value name = some text) :
    passed? value cs = (passed? value rest).map (text.toList ++ ·) := by
  obtain ⟨cs', rfl⟩ : ∃ cs', cs = '$' :: '(' :: cs' := by
    obtain ⟨⟨inside, -, -, hname⟩, rfl⟩ := variableAt?_eq_some_iff.1 h
    exact ⟨_, by rw [hname]; rfl⟩
  rw [passed?]
  · split
    · rename_i heq
      obtain ⟨rfl, rfl⟩ := Prod.mk.inj (Option.some.inj (h.symm.trans heq))
      rw [hvalue, Option.bind_some]
    · rename_i heq
      rw [h] at heq
      cases heq
  · exact fun rest' heq => absurd (List.cons.inj heq).1 (by decide)

/-- What holds no dollar is passed on as it is. -/
theorem passed?_append {plain : List Char} (h : ∀ c ∈ plain, c ≠ '$') (rest : List Char) :
    passed? value (plain ++ rest) = (passed? value rest).map (plain ++ ·) := by
  induction plain with
  | nil => simp
  | cons c cs ih =>
    rw [List.cons_append, passed?_cons (h c List.mem_cons_self),
      ih fun d hd => h d (List.mem_cons_of_mem _ hd), Option.map_map]
    rfl

/-- Where no dollar is left, everything is passed on. -/
theorem passed?_of_substitute (cs : List Char)
    (h : '$' ∉ (tokens cs).flatMap (Token.expand value)) :
    passed? value cs = some ((tokens cs).flatMap (Token.expand value)) := by
  induction cs using tokens.induct with
  | case1 cs name rest hvariable hlt ih =>
    have htokens : tokens cs = .variable name :: tokens rest := by
      rw [tokens]
      split
      · rename_i heq
        obtain ⟨rfl, rfl⟩ := Prod.mk.inj (Option.some.inj (hvariable.symm.trans heq))
        rfl
      · rename_i heq
        rw [hvariable] at heq
        cases heq
    rw [htokens, List.flatMap_cons] at h ⊢
    cases hvalue : value name with
    | none =>
      -- the name itself would be left
      obtain ⟨⟨name', -, -, hname⟩, -⟩ := variableAt?_eq_some_iff.1 hvariable
      rw [Token.expand, hvalue, Option.getD_none, hname] at h
      exact absurd (List.mem_append_left _ List.mem_cons_self) h
    | some text =>
      rw [passed?_variable hvariable hvalue, ih fun hrest => h (List.mem_append_right _ hrest),
        Token.expand, hvalue]
      rfl
  | case2 hnone =>
    rw [tokens, passed?]
    rfl
  | case3 c cs hnone ih =>
    have htokens : tokens (c :: cs) = .char c :: tokens cs := by
      rw [tokens]
      split
      · rename_i heq
        rw [hnone] at heq
        cases heq
      · rfl
    rw [htokens, List.flatMap_cons] at h ⊢
    have hc : c ≠ '$' := by
      rintro rfl
      exact h List.mem_cons_self
    rw [passed?_cons hc, ih fun hrest => h (List.mem_append_right _ hrest)]
    rfl

end Recipe

/-! ## The lines of the setup -/

namespace Shell

/-- The bytes of a text in quotes are those of the text, in quotes. -/
theorem Quoting.flatMap_ofChar_closed (cs : List Char) :
    (closed cs).flatMap Octets.ofChar = closed (cs.flatMap Octets.ofChar) := by
  have hone : ∀ c, (closedChar c).flatMap Octets.ofChar = (Octets.ofChar c).flatMap closedChar := by
    intro c
    by_cases hc : c = '\''
    · subst hc
      rw [Octets.ofChar_of_lt (by decide), Octets.flatMap_ofChar_of_lt (by decide)]
      rfl
    · have hbytes : ∀ d ∈ Octets.ofChar c, closedChar d = [d] := by
        intro d hd
        refine closedChar_of_ne ?_
        rintro rfl
        exact hc (Octets.eq_of_mem_ofChar (by decide) hd).symm
      rw [closedChar_of_ne hc, List.flatMap_singleton, List.flatMap_congr hbytes,
        List.flatMap_singleton']
  have hquote : Octets.ofChar '\'' = ['\''] := Octets.ofChar_of_lt (by decide)
  rw [closed, closed, List.flatMap_cons, List.flatMap_append, List.flatMap_singleton, hquote,
    List.flatMap_assoc, List.flatMap_assoc, List.flatMap_congr fun c _ => hone c]
  rfl

end Shell

namespace Recipe

open Shell

variable {value : String → Option String}

theorem passed?_quotedChar (c : Char) (rest : List Char) :
    passed? value (BuildScript.quotedChar c ++ rest) =
      (passed? value rest).map (Quoting.closedChar c ++ ·) := by
  unfold BuildScript.quotedChar
  split
  · exact passed?_append (by decide) rest
  · rw [List.cons_append, List.singleton_append, passed?]
    rfl
  · rename_i hquote hdollar
    rw [Quoting.closedChar_of_ne hquote, List.singleton_append, passed?_cons hdollar]
    rfl

/-- **Of a quoted text make changes the dollars only**, and it looks for no variable there. -/
theorem passed?_shellQuote (text : String) (rest : List Char) :
    passed? value ((BuildScript.shellQuote text).toList ++ rest) =
      (passed? value rest).map (Quoting.closed text.toList ++ ·) := by
  have hchars : ∀ (cs rest : List Char), passed? value (cs.flatMap BuildScript.quotedChar ++ rest) =
      (passed? value rest).map (cs.flatMap Quoting.closedChar ++ ·) := by
    intro cs rest
    induction cs with
    | nil => simp
    | cons c cs ih =>
      rw [List.flatMap_cons, List.append_assoc, passed?_quotedChar, ih, Option.map_map]
      simp [Function.comp_def]
  have hlist : (BuildScript.shellQuote text).toList ++ rest =
      '\'' :: (text.toList.flatMap BuildScript.quotedChar ++ '\'' :: rest) := by
    simp [BuildScript.shellQuote]
  rw [hlist, passed?_cons (by decide), hchars, passed?_cons (by decide), Option.map_map,
    Option.map_map]
  simp [Function.comp_def, Quoting.closed]

/-- What make passes on of the line of an argument. -/
theorem passed?_argumentLine {root path : String} (h : '$' ∉ (Layout.expand root path).toList)
    (text : String) :
    passed? (Layout.value? root) (BuildScript.argumentLine (path, text)).toList =
      some ("printf '%s' ".toList ++ Quoting.closed text.toList ++ " > ".toList ++
        (Layout.expand root path).toList) := by
  have hpath : passed? (Layout.value? root) path.toList =
      some (Layout.expand root path).toList := by
    rw [Layout.expand, Variable.substitute, String.toList_ofList] at h ⊢
    exact passed?_of_substitute _ h
  have hline : (BuildScript.argumentLine (path, text)).toList = "printf '%s' ".toList ++
      ((BuildScript.shellQuote text).toList ++ (" > ".toList ++ path.toList)) := by
    simp only [BuildScript.argumentLine, String.toList_append, List.append_assoc]
  rw [hline, passed?_append (by decide), passed?_shellQuote, passed?_append (by decide), hpath]
  simp

end Recipe

/-! ## Paths -/

namespace Layout

/-- What is so of plain names and slashes is so of the names that the layout makes up. -/
theorem forall_mem_stem {P : Char → Prop} (hname : ∀ c, Text.isNameChar c = true → P c)
    (hslash : P '/') {row : String} (hrow : Text.isPlainName row = true) (block : BlockId)
    (index : Nat) : ∀ c ∈ (stem row block index).toList, P c := by
  have hdigits : ∀ n : Nat, ∀ c ∈ (toString n).toList, P c := by
    intro n c hc
    rw [show (toString n).toList = Nat.toDigits 10 n from String.toList_ofList] at hc
    exact hname c (by simp [Text.isNameChar, Char.isAlphanum, isDigit_toDigits c hc])
  rw [Text.isPlainName_iff] at hrow
  have hsigns : P '_' := hname '_' (by decide)
  simp only [stem, BlockId.text, String.toList_append, List.forall_mem_append]
  refine ⟨⟨⟨⟨fun c hc => hname c (hrow.2 c hc), ?_⟩, hdigits _⟩, ?_⟩, hdigits _⟩
  · exact List.forall_mem_singleton.2 hslash
  · exact List.forall_mem_singleton.2 hsigns

end Layout

namespace Shell

theorem isBare_of_not_mem {c : Char} (h : c ∉ '~' :: '#' :: Quoting.specials) :
    isBare c = true := by
  simp only [List.mem_cons, not_or] at h
  exact isBare_iff.2 ⟨h.2.2, h.1, h.2.1⟩

theorem isBare_of_isNameChar {c : Char} (h : Text.isNameChar c = true) : isBare c = true := by
  have hothers : ∀ d ∈ '~' :: '#' :: Quoting.specials, Text.isNameChar d = false := by decide
  refine isBare_of_not_mem fun hmem => ?_
  rw [hothers c hmem] at h
  cases h

/-- All that is special is in ASCII. -/
theorem isBare_of_le {c : Char} (h : 128 ≤ c.toNat) : isBare c = true := by
  have hothers : ∀ d ∈ '~' :: '#' :: Quoting.specials, d.toNat < 128 := by decide
  exact isBare_of_not_mem fun hmem => absurd (hothers c hmem) (Nat.not_lt_of_le h)

end Shell

namespace Layout

open Shell

variable {root row suffix : String} (hrow : Text.isPlainName row = true)
  (hsuffix : ∀ c ∈ suffix.toList, isBare c = true) (block : BlockId) (index : Nat)

include hrow hsuffix

theorem expand_artifact_of_isBare : expand root (artifact row block index suffix) =
    root ++ "/processing/" ++ (stem row block index ++ suffix) := by
  have hexpand : expand root suffix = suffix :=
    expand_of_forall root fun c hc => ne_of_isBare (hsuffix c hc) (by decide)
  rw [expand_artifact root (ne_of_isPlainName hrow (by decide)), hexpand]
  simp only [String.append_assoc]
  rfl

/-- The file of an output stands for itself on disk, if the output root and the suffix do. -/
theorem isBare_expand_artifact (hroot : ∀ c ∈ root.toList, isBare c = true) :
    ∀ c ∈ (expand root (artifact row block index suffix)).toList, isBare c = true := by
  have hlayout : ∀ c ∈ "/processing/".toList, isBare c = true := by decide
  have hstem := forall_mem_stem (P := (isBare · = true)) (fun _ => isBare_of_isNameChar) (by decide)
    hrow block index
  rw [expand_artifact_of_isBare hrow hsuffix]
  simp only [String.toList_append, List.forall_mem_append]
  exact ⟨⟨hroot, hlayout⟩, hstem, hsuffix⟩

theorem newline_not_mem_artifact : '\n' ∉ (artifact row block index suffix).toList := by
  have hchars : ∀ c ∈ (artifact row block index suffix).toList, c ≠ '\n' := by
    rw [artifact_eq_stem]
    simp only [String.toList_append, List.forall_mem_append]
    refine ⟨by decide, ?_, fun c hc => ne_of_isBare (hsuffix c hc) (by decide)⟩
    exact forall_mem_stem (P := (· ≠ '\n'))
      (fun c hc => ne_of_isBare (isBare_of_isNameChar hc) (by decide)) (by decide) hrow block index
  exact fun hmem => hchars _ hmem rfl

end Layout

/-! ## Compiled scripts -/

namespace BuildScript

theorem newline_not_mem_argumentLine {path text : String} (hpath : '\n' ∉ path.toList)
    (htext : '\n' ∉ text.toList) : '\n' ∉ (argumentLine (path, text)).toList := by
  have hquoted : '\n' ∉ text.toList.flatMap quotedChar := by
    intro hmem
    obtain ⟨c, hc, hmem⟩ := List.mem_flatMap.1 hmem
    unfold quotedChar at hmem
    split at hmem
    · revert hmem
      decide
    · revert hmem
      decide
    · exact htext (List.mem_singleton.1 hmem ▸ hc)
  simp [argumentLine, shellQuote, hquoted, hpath]

end BuildScript

namespace Shell

theorem newline_not_mem_ofText {text : String} (h : '\n' ∉ text.toList) :
    '\n' ∉ Octets.ofText text := by
  have hbytes := Octets.forall_mem_ofText (P := (· ≠ '\n')) (s := text)
    (by rintro c hc rfl; exact absurd hc (by decide)) (by rintro c hc rfl; exact h hc)
  exact fun hmem => hbytes _ hmem rfl

/-- **The shell is given a line that stores the text**, if the path stands for itself on disk. -/
theorem exists_stores {root path text : String} (hne : Layout.expand root path ≠ "")
    (hpath : ∀ c ∈ (Layout.expand root path).toList, isBare c = true)
    (htext : '\n' ∉ text.toList) :
    ∃ given, Recipe.passed? (Layout.value? root) (BuildScript.argumentLine (path, text)).toList =
        some given ∧
      Stores (Octets.ofText (String.ofList given)) (Octets.ofText (Layout.expand root path))
        (Octets.ofText text) := by
  have hdollar : '$' ∉ (Layout.expand root path).toList := fun hmem =>
    ne_of_isBare (hpath _ hmem) (by decide) rfl
  refine ⟨_, Recipe.passed?_argumentLine hdollar text, ?_⟩
  have hbytes : Octets.ofText (String.ofList ("printf '%s' ".toList ++
      Quoting.closed text.toList ++ " > ".toList ++ (Layout.expand root path).toList)) =
      octets "printf '%s' " ++ Quoting.closed (Octets.ofText text) ++ octets " > " ++
        Octets.ofText (Layout.expand root path) := by
    simp only [octets, Octets.ofText_eq, String.toList_ofList, List.flatMap_append,
      Quoting.flatMap_ofChar_closed]
  rw [hbytes]
  exact stores_line (newline_not_mem_ofText htext) (Octets.ofText_ne_nil hne)
    (Octets.forall_mem_ofText (fun _ => isBare_of_le) hpath)

/-- **A text that is quoted for both is one word in the end.** -/
theorem exists_isWord {text : String} (htext : '\n' ∉ text.toList) :
    ∃ given, Recipe.passed? (fun _ => none) (BuildScript.shellQuote text).toList = some given ∧
      IsWord (Octets.ofText (String.ofList given)) (Octets.ofText text) := by
  refine ⟨Quoting.closed text.toList, ?_, ?_⟩
  · have hpassed := @Recipe.passed?_shellQuote (fun _ => none) text []
    rw [List.append_nil, Recipe.passed?] at hpassed
    simpa using hpassed
  · rw [Octets.ofText_eq, String.toList_ofList, Quoting.flatMap_ofChar_closed, ← Octets.ofText_eq]
    exact isWord_closed (newline_not_mem_ofText htext)

end Shell

/-- In a table that was read, a cell that is looked up is there. -/
theorem Compilation.resolved?_of_cell {c : Compilation} {delimiter : Char} {source : String}
    (htable : Table.parseWith delimiter source = .ok c.table) {row : Row}
    (hrow : row ∈ c.table.rows) {column text : String} (h : c.cell row column = .ok text) :
    row.resolved? column = some text := by
  rw [cell] at h
  split at h
  · rename_i hcolumn
    have hmem : column ∈ c.table.headers := List.contains_iff_mem.1 hcolumn
    obtain ⟨written, hwritten⟩ := Option.isSome_iff_exists.1
      ((Table.isSome_get?_of_parseWith htable hrow column).2 hmem)
    cases h
    rw [Row.resolved?, hwritten, Option.map_some, Option.getD_some]
  · cases h

/-- **Which texts the setup writes, and what comes of them.**  A text without a line feed, quoted
for a recipe, has no variable for make in it, and the shell reads what make passes on as one word
with the text as its value.  Every file that the setup writes is that of a source of text, and its
text is the cell of its row.  The line for it stores just this text, if the characters of the output
root and of the suffix stand for themselves; row ids and numbers always do. -/
theorem Pipeline.compile_stores {p : Pipeline} {delimiter : Char} {source : String} {table : Table}
    (htable : Table.parseWith delimiter source = .ok table) {options : ScriptOptions}
    {directory outputRoot : String} {s : BuildScript}
    (hs : compile options p table directory outputRoot = .ok s) :
    (∀ text : String, '\n' ∉ text.toList →
      ∃ given, Recipe.passed? (fun _ => none) (BuildScript.shellQuote text).toList = some given ∧
        Shell.IsWord (Octets.ofText (String.ofList given)) (Octets.ofText text)) ∧
    ∀ argument ∈ s.arguments,
      (∃ before after, s.setupTarget =
        before ++ "\n\t" ++ BuildScript.argumentLine argument ++ "\n" ++ after) ∧
      ∃ row ∈ table.rows, ∃ b ∈ p.blocks, ∃ column output, b.kind = .source column output ∧
        argument.1 = Layout.artifact row.id b.id 0 (p.toolbox.formats.suffix output.format) ∧
        row.resolved? column = some argument.2 ∧ '\n' ∉ argument.2.toList ∧
        ((∀ c ∈ s.root.toList, Shell.isBare c = true) →
          (∀ c ∈ (p.toolbox.formats.suffix output.format).toList, Shell.isBare c = true) →
          '\n' ∉ (BuildScript.argumentLine argument).toList ∧
          ∃ given, Recipe.passed? (Layout.value? s.root)
              (BuildScript.argumentLine argument).toList = some given ∧
            Shell.Stores (Octets.ofText (String.ofList given))
              (Octets.ofText (s.onDisk argument.1)) (Octets.ofText argument.2)) := by
  refine ⟨fun text htext => Shell.exists_isWord htext, fun argument hargument => ?_⟩
  refine ⟨BuildScript.exists_setupTarget_eq hargument, ?_⟩
  obtain ⟨path, text⟩ := argument
  obtain ⟨row, hrow, b, hb, column, output, hkind, -, hpath, hcell⟩ :=
    Compilation.offered_compile hs _ hargument
  have hplain := (Table.Sound.of_parseWith htable).isPlainName hrow
  have hresolved : row.resolved? column = some text :=
    Compilation.resolved?_of_cell (c := ⟨p, table⟩) htable hrow hcell
  have htext := Table.newline_not_mem_of_resolved? htable hrow hresolved
  refine ⟨row, hrow, b, hb, column, output, hkind, hpath, hresolved, htext, fun hroot hsuffix => ?_⟩
  obtain rfl : path = Layout.artifact row.id b.id 0 (p.toolbox.formats.suffix output.format) := hpath
  refine ⟨BuildScript.newline_not_mem_argumentLine
    (Layout.newline_not_mem_artifact hplain hsuffix b.id 0) htext, Shell.exists_stores ?_
      (Layout.isBare_expand_artifact hplain hsuffix b.id 0 hroot) htext⟩
  rw [Layout.expand_artifact_of_isBare hplain hsuffix]
  simp

/-! ## A specimen -/

namespace Specimen

theorem isBare_suffix_branched (format : String) :
    ∀ c ∈ (branched.toolbox.formats.suffix format).toList, Shell.isBare c = true :=
  branched.toolbox.formats.forall_suffix (P := fun suffix =>
    ∀ c ∈ suffix.toList, Shell.isBare c = true) (by decide) (by decide) format

theorem arguments_branched :
    (Compilation.mk branched table).draft.toOption.map (·.arguments) =
      some [("$(PROCESSING)a/1_0", "3"), ("$(PROCESSING)b/1_0", "4")] := by
  rw [Compilation.draft, addRow_branched]
  decide +kernel

/-- The arguments do not depend on where the script is for. -/
theorem exists_compile_branched {root absolute : String}
    (h : Path.absolute? "/w" root = some absolute) :
    ∃ s, compile .standard branched table "/w" root = .ok s ∧ s.outputRoot = absolute ∧
      ("$(PROCESSING)a/1_0", "3") ∈ s.arguments := by
  have harguments := arguments_branched
  cases hd : (Compilation.mk branched table).draft with
  | error e =>
    rw [hd] at harguments
    cases harguments
  | ok d =>
    rw [hd] at harguments
    rw [compile, h]
    refine ⟨_, by rw [hd]; rfl, rfl, ?_⟩
    have hlist : d.arguments = _ := Option.some.inj harguments
    rw [hlist]
    exact List.mem_cons_self

/-- Where the file of the first argument is. -/
theorem expand_argument (root : String) :
    Layout.expand root "$(PROCESSING)a/1_0" = root ++ "/processing/a/1_0" := by
  have hpath : "$(PROCESSING)a/1_0" = "$(PROCESSING)" ++ "a/1_0" := by decide
  rw [hpath, Layout.expand_processing, Layout.expand_of_forall root (by decide)]
  simp only [String.append_assoc]
  rfl

open Shell in
/-- What the shell makes of a space in the path: another word follows the file. -/
theorem stores_elsewhere :
    Stores (octets "printf '%s' '3' > /w/my out/processing/a/1_0") (octets "/w/my")
      (octets "3out/processing/a/1_0") := by
  obtain ⟨format, hformat, hformatWritten, hformatValue⟩ :=
    exists_pieces_closed (o := octets "%s") (by decide)
  obtain ⟨ps, hps, hpsWritten, hpsValue⟩ := exists_pieces_closed (o := octets "3") (by decide)
  obtain ⟨qs, hqsWritten, hqsValue, -⟩ := exists_pieces_bare (o := octets "/w/my") (by decide)
  obtain ⟨rs, hrsWritten, hrsValue, -⟩ :=
    exists_pieces_bare (o := octets "out/processing/a/1_0") (by decide)
  have hqs : qs ≠ [] := by
    rintro rfl
    cases hqsWritten
  have hrs : rs ≠ [] := by
    rintro rfl
    cases hrsWritten
  have hstores := stores_of_items (octets "3out/processing/a/1_0")
    [.word format hformat, .word ps hps, .output qs hqs, .word rs hrs]
    (show 4 + 2 < Source.readingSteps by decide) hqs rfl fun d times => by
      change printed? d times [octets "printf", Word.text (format.flatMap Piece.parts),
        Word.text (ps.flatMap Piece.parts), Word.text (rs.flatMap Piece.parts)] = _
      rw [Piece.text_parts, Piece.text_parts, Piece.text_parts, hformatValue, hpsValue, hrsValue]
      cases d <;> rfl
  have hwritten : octets "printf '%s' '3' > /w/my out/processing/a/1_0" = octets "printf" ++
      [Item.word format hformat, .word ps hps, .output qs hqs, .word rs hrs].flatMap
        Item.written := by
    have hline : octets "printf '%s' '3' > /w/my out/processing/a/1_0" = octets "printf" ++
        (' ' :: Quoting.closed (octets "%s") ++ ' ' :: Quoting.closed (octets "3") ++
          ' ' :: '>' :: ' ' :: octets "/w/my" ++ ' ' :: octets "out/processing/a/1_0") := by
      decide
    rw [hline]
    simp [Item.written, hformatWritten, hpsWritten, hqsWritten, hrsWritten]
  rwa [hwritten, ← hqsValue]

end Specimen

/-- The number in the first row goes into a file below the output root. -/
theorem Pipeline.compile_stores_branched :
    Table.parseWith '|' Specimen.sheet = .ok Specimen.table ∧
      ∃ s, compile .standard Specimen.branched Specimen.table "/w" "out" = .ok s ∧
        ("$(PROCESSING)a/1_0", "3") ∈ s.arguments ∧
        ∃ given, Recipe.passed? (Layout.value? s.root)
            (BuildScript.argumentLine ("$(PROCESSING)a/1_0", "3")).toList = some given ∧
          Shell.Stores (Octets.ofText (String.ofList given))
            (Octets.ofText "/w/out/processing/a/1_0") (Octets.ofText "3") := by
  obtain ⟨s, hs, hroot, hargument⟩ :=
    Specimen.exists_compile_branched (show Path.absolute? "/w" "out" = some "/w/out" by decide)
  have hrootDisk : s.root = "/w/out" := by
    rw [BuildScript.root, hroot]
    decide
  refine ⟨Specimen.parseWith_sheet, s, hs, hargument, ?_⟩
  obtain ⟨-, row, -, b, -, column, output, -, -, -, -, hstores⟩ :=
    (compile_stores Specimen.parseWith_sheet hs).2 _ hargument
  obtain ⟨-, given, hgiven, hstored⟩ := hstores (by rw [hrootDisk]; decide)
    (Specimen.isBare_suffix_branched output.format)
  rw [BuildScript.onDisk, hrootDisk, Specimen.expand_argument] at hstored
  exact ⟨given, hgiven, hstored⟩

/-- An output root with a space in it is let through, and then the number goes into another file,
with a part of the path after it. -/
theorem Pipeline.stored_elsewhere_branched :
    Table.parseWith '|' Specimen.sheet = .ok Specimen.table ∧
      ∃ s, compile .standard Specimen.branched Specimen.table "/w" "my out" = .ok s ∧
        ("$(PROCESSING)a/1_0", "3") ∈ s.arguments ∧
        s.onDisk "$(PROCESSING)a/1_0" = "/w/my out/processing/a/1_0" ∧
        ∃ given, Recipe.passed? (Layout.value? s.root)
            (BuildScript.argumentLine ("$(PROCESSING)a/1_0", "3")).toList = some given ∧
          Shell.Stores (Octets.ofText (String.ofList given)) (Octets.ofText "/w/my")
            (Octets.ofText "3out/processing/a/1_0") ∧
          ¬Shell.Stores (Octets.ofText (String.ofList given))
            (Octets.ofText "/w/my out/processing/a/1_0") (Octets.ofText "3") := by
  obtain ⟨s, hs, hroot, hargument⟩ :=
    Specimen.exists_compile_branched (show Path.absolute? "/w" "my out" = some "/w/my out" by decide)
  have hrootDisk : s.root = "/w/my out" := by
    rw [BuildScript.root, hroot]
    decide
  have hpath : Layout.expand s.root "$(PROCESSING)a/1_0" = "/w/my out/processing/a/1_0" := by
    rw [hrootDisk, Specimen.expand_argument]
    decide
  have hgiven := Recipe.passed?_argumentLine
    (show '$' ∉ (Layout.expand s.root "$(PROCESSING)a/1_0").toList by rw [hpath]; decide) "3"
  refine ⟨Specimen.parseWith_sheet, s, hs, hargument, hpath, _, hgiven, ?_⟩
  have hline : Octets.ofText (String.ofList ("printf '%s' ".toList ++
      Shell.Quoting.closed "3".toList ++ " > ".toList ++
        (Layout.expand s.root "$(PROCESSING)a/1_0").toList)) =
      Shell.octets "printf '%s' '3' > /w/my out/processing/a/1_0" := by
    rw [hpath]
    decide
  rw [hline]
  refine ⟨Specimen.stores_elsewhere, fun hstores => ?_⟩
  exact absurd (Specimen.stores_elsewhere.unique hstores).1 (by decide)

end Flowscript
