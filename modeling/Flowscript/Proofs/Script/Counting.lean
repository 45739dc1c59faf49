import Flowscript.Proofs.JoinedLines
import Flowscript.Proofs.Script.Expansion
import Flowscript.Proofs.Script.RowsApart

/-!
# Counting the files of a script

How far a build has come is told by two ratios, and the number that is expected in each is the
number of words in the lists of the script.  A path is one word if no part of it holds a blank.  The
cells that name files are checked for this; the output root and the suffixes of formats are not.

* `BuildScript.listed?` reads a list of the script and gives its words on disk.
* `BuildScript.Counted` says that the words of two lists are the files of the script, one by one.
* `BuildScript.counted_iff` tells when this is so, for any script whose paths hold a slash.
* `Pipeline.compile_counted` draws the conclusion for scripts that were compiled.
-/

set_option autoImplicit false

namespace Flowscript

/-! ## Words on disk -/

theorem isBlank_of_isNameChar {c : Char} (h : Text.isNameChar c = true) :
    Text.isBlank c = false := by
  have hmark := RuleLine.isMark_of_isNameChar h
  simp only [RuleLine.isMark, Bool.or_eq_false_iff] at hmark
  exact hmark.1.1.1.1

namespace Layout

variable {root : String}

/-- The words of a text after the variables of the layout are replaced. -/
def words (root : String) (cs : List Char) : List String :=
  RuleLine.words (expand root (String.ofList cs)).toList

/-- The variables of the layout have the output root in their values and little more. -/
theorem value?_eq_some {name value : String} (h : value? root name = some value) :
    name ∈ ["$(OUTPUT)", "$(PROCESSING)"] ∧
      ∀ c ∈ value.toList, c ∈ root.toList ∨ c ∈ "/processing/".toList := by
  unfold value? at h
  split at h
  · cases h
    refine ⟨by simp, fun c hc => ?_⟩
    rw [String.toList_append, List.mem_append] at hc
    exact hc.imp_right fun hc => by simp_all
  · cases h
    refine ⟨by simp, fun c hc => ?_⟩
    have htail : "/" ++ (processingDirectory ++ "/") = "/processing/" := by decide
    rw [String.append_assoc, String.append_assoc, htail, String.toList_append] at hc
    exact List.mem_append.1 hc
  · cases h

theorem mem_expand {path : String} {c : Char} (h : c ∈ (expand root path).toList) :
    c ∈ path.toList ∨ c ∈ root.toList ∨ c ∈ "/processing/".toList :=
  (Variable.mem_substitute h).imp_right fun ⟨_, _, hvalue, hc⟩ => (value?_eq_some hvalue).2 c hc

theorem mem_expand_of_mem {path : String} {c : Char} (h : c ∈ path.toList)
    (hc : ∀ name ∈ ["$(OUTPUT)", "$(PROCESSING)"], c ∉ name.toList) :
    c ∈ (expand root path).toList := by
  refine Variable.mem_substitute_of_mem h fun name hvalue => ?_
  obtain ⟨value, hvalue⟩ := Option.isSome_iff_exists.1 hvalue
  exact hc name (value?_eq_some hvalue).1

theorem words_append_cons {c : Char} (hc : Text.isBlank c = true) (as bs : List Char) :
    words root (as ++ c :: bs) = words root as ++ words root bs := by
  rw [words, expand, Variable.substitute_append_cons hc, RuleLine.words, Text.words_append_cons hc,
    List.map_append]
  rfl

theorem words_nil : words root [] = [] := by
  rw [words, expand, String.ofList_nil, Variable.substitute_empty]
  rfl

theorem words_cons {c : Char} (hc : Text.isBlank c = true) (cs : List Char) :
    words root (c :: cs) = words root cs := by
  have happend : words root ([] ++ c :: cs) = words root [] ++ words root cs :=
    words_append_cons hc [] cs
  rwa [words_nil] at happend

theorem words_of_clear {path : String} (hne : (expand root path).toList ≠ [])
    (hclear : ∀ c ∈ (expand root path).toList, Text.isBlank c = false) :
    words root path.toList = [expand root path] := by
  rw [words, String.ofList_toList, RuleLine.words, Text.words_of_forall hne hclear,
    List.map_singleton, String.ofList_toList]

/-- A plain name is a word. -/
theorem words_of_isPlainName {name : String} (h : Text.isPlainName name = true) :
    words root name.toList = [name] := by
  have hplain : expand root name = name := expand_of_forall root (ne_of_isPlainName h (by decide))
  rw [Text.isPlainName_iff] at h
  rw [words_of_clear, hplain]
  · rw [hplain]
    simpa using h.1
  · rw [hplain]
    exact fun c hc => isBlank_of_isNameChar (h.2 c hc)

theorem clear_of_mem_words {cs : List Char} {w : String} (h : w ∈ words root cs) :
    ∀ c ∈ w.toList, Text.isBlank c = false := by
  intro c hc
  obtain ⟨word, hword, rfl⟩ := List.mem_map.1 h
  rw [String.toList_ofList] at hc
  exact Text.isBlank_of_mem_words hword hc

/-- A path that can be an item of a list: on disk it is one word, and no comment starts in it. -/
structure IsItem (root path : String) : Prop where
  clear : ∀ c ∈ (expand root path).toList, Text.isBlank c = false
  sign : '#' ∉ path.toList

theorem IsItem.newline {path : String} (h : IsItem root path) : ∀ c ∈ path.toList, c ≠ '\n' := by
  rintro c hc rfl
  exact absurd (h.clear _ (mem_expand_of_mem hc (by decide))) (by decide)

/-- **The words of a list are those of its items.** -/
theorem words_flow (items : List String) :
    words root (Text.flow (items.map String.toList)) = items.flatMap (words root ·.toList) := by
  induction items with
  | nil => exact words_nil
  | cons item items ih =>
    have hitem : words root (item.toList ++ Text.flow (items.map String.toList)) =
        words root item.toList ++ words root (Text.flow (items.map String.toList)) := by
      cases items with
      | nil => simp [Text.flow, words_nil]
      | cons other items =>
        rw [List.map_cons, Text.flow, List.flatMap_cons, List.cons_append, List.cons_append,
          words_append_cons (by decide), words_cons (by decide)]
    rw [List.map_cons, List.flatMap_cons, ← ih, ← hitem, Text.flow, List.flatMap_cons,
      ← Text.flow]
    simp only [List.cons_append, List.nil_append]
    rw [words_cons (by decide), words_cons (by decide), words_cons (by decide)]

end Layout

/-! ## Lists -/

namespace BuildScript

open Layout

variable {root : String}

/-- The lines of a list. -/
def listLines (name : String) (items : List String) : List (List Char) :=
  Text.spread (name ++ " :=").toList (items.map String.toList)

theorem toList_listVariable (name : String) (items : List String) :
    (listVariable name items).toList = (name ++ " :=").toList ++
      ((items.map String.toList).flatMap ([' ', '\\', '\n', '\t'] ++ ·) ++ ['\n']) := by
  have hbreak : " \\\n\t".toList = [' ', '\\', '\n', '\t'] := by decide
  have hend : "\n".toList = ['\n'] := by decide
  simp only [listVariable, String.toList_append, String.toList_join, List.flatMap_map, hbreak, hend,
    List.append_assoc]

/-- A list without line ends in its items is cut into its lines. -/
theorem splitAt_listVariable {name : String} {items : List String}
    (hname : ∀ c ∈ name.toList, c ≠ '\n') (hitems : ∀ item ∈ items, ∀ c ∈ item.toList, c ≠ '\n')
    (rest : List Char) :
    Text.splitAt (· == '\n') ((listVariable name items).toList ++ rest) =
      listLines name items ++ Text.splitAt (· == '\n') rest := by
  have hhead : ∀ c ∈ (name ++ " :=").toList, c ≠ '\n' := by
    rw [String.toList_append]
    exact List.forall_mem_append.2 ⟨hname, by decide⟩
  rw [toList_listVariable, List.append_assoc, List.append_assoc, List.singleton_append, listLines,
    Text.splitAt_spread hhead (List.forall_mem_map.2 hitems)]

/-- The first line says what is listed. -/
theorem exists_joinLines_listLines (name : String) (items : List String) (rest : List (List Char)) :
    ∃ bs more, Text.joinLines (listLines name items ++ rest) =
      (name.toList ++ ' ' :: ':' :: '=' :: bs) :: more := by
  have hhead : (name ++ " :=").toList = (name.toList ++ [' ', ':']) ++ ['='] := by simp
  have hequal : ∀ bs : List Char, (name.toList ++ [' ', ':']) ++ '=' :: bs =
      name.toList ++ ' ' :: ':' :: '=' :: bs := by simp
  rw [listLines, hhead]
  cases items with
  | nil =>
    obtain ⟨bs, more, h⟩ := Text.exists_joinLines_cons (c := '=') (by decide)
      (name.toList ++ [' ', ':']) [] rest
    exact ⟨bs, more, hequal bs ▸ h⟩
  | cons item items =>
    obtain ⟨bs, more, h⟩ := Text.exists_joinLines_cons (c := '=') (by decide)
      (name.toList ++ [' ', ':']) [' ', '\\'] (Text.spread ('\t' :: item.toList)
        (items.map String.toList) ++ rest)
    refine ⟨bs, more, hequal bs ▸ ?_⟩
    rw [← h, List.map_cons, Text.spread, List.append_assoc _ ['=']]
    rfl

/-- A list stands on one line, if its last item does not go on. -/
theorem joinLines_listLines {items : List String}
    (hlast : ∀ last ∈ items.getLast?, Text.continues last.toList = false) (name : String)
    (rest : List (List Char)) :
    Text.joinLines (listLines name items ++ rest) =
      (name.toList ++ ' ' :: ':' :: '=' :: Text.flow (items.map String.toList)) ::
        Text.joinLines rest := by
  have hhead : Text.continues (name ++ " :=").toList = false := by
    have hsplit : (name ++ " :=").toList = (name.toList ++ [' ', ':']) ++ ['='] := by simp
    rw [hsplit, Text.continues_append_cons (by decide)]
    decide
  have hend : ∀ last ∈ (items.map String.toList).getLast?, Text.continues last = false := by
    rw [List.getLast?_map]
    intro last hmem
    obtain ⟨item, hitem, rfl⟩ := Option.mem_map.1 hmem
    exact hlast item hitem
  have hvalue : (name ++ " :=").toList ++ Text.flow (items.map String.toList) =
      name.toList ++ ' ' :: ':' :: '=' :: Text.flow (items.map String.toList) := by simp
  rw [listLines, Text.joinLines_spread (fun _ => hhead) hend, hvalue]

/-- Then its name stands for its items. -/
theorem definition?_listLines {items : List String} (hsign : ∀ item ∈ items, '#' ∉ item.toList)
    (hlast : ∀ last ∈ items.getLast?, Text.continues last.toList = false) (name : String)
    (rest : List (List Char)) :
    Text.definition? name.toList (Text.joinLines (listLines name items ++ rest)) =
      some (Text.flow (items.map String.toList)) := by
  have hflow : ∀ c ∈ Text.flow (items.map String.toList), (c != '#') = true := by
    simp only [Text.flow, List.mem_flatMap, List.mem_map]
    rintro c ⟨_, ⟨item, hitem, rfl⟩, hc⟩
    rw [bne_iff_ne]
    rintro rfl
    exact hsign item hitem (by simpa using hc)
  rw [joinLines_listLines hlast, Text.definition?_cons, List.takeWhile_eq_self_iff.2 hflow]

/-- If it does, the name of the next list is taken for an item. -/
theorem mem_words_of_continues {name next : String} (hnext : Text.isPlainName next = true)
    {items : List String} (hsign : ∀ item ∈ items, '#' ∉ item.toList) {last : String}
    (hlast : items.getLast? = some last) (hcontinues : Text.continues last.toList = true)
    {rest more : List (List Char)} {bs : List Char}
    (hrest : Text.joinLines rest = (next.toList ++ ' ' :: bs) :: more) {value : List Char}
    (hvalue : Text.definition? name.toList (Text.joinLines (listLines name items ++ rest)) =
      some value) : next ∈ words root value := by
  have hend : (items.map String.toList).getLast? = some last.toList := by
    rw [List.getLast?_map, hlast]
    rfl
  obtain ⟨front, hfront, hjoined⟩ := Text.joinLines_spread_of_continues
    (List.forall_mem_map.2 hsign) hend hcontinues hrest (name ++ " :=").toList
  have hline : (name ++ " :=").toList ++ (front ++ ' ' :: (next.toList ++ ' ' :: bs)) =
      name.toList ++ ' ' :: ':' :: '=' :: ((front ++ ' ' :: (next.toList ++ [' '])) ++ bs) := by
    simp
  have hkept : ∀ c ∈ front ++ ' ' :: (next.toList ++ [' ']), (c != '#') = true := by
    intro c hc
    rw [bne_iff_ne]
    rintro rfl
    simp only [List.mem_append, List.mem_cons, List.not_mem_nil, or_false] at hc
    rcases hc with hc | heq | hc | heq
    · exact hfront hc
    · cases heq
    · exact ne_of_isPlainName hnext (by decide) _ hc rfl
    · cases heq
  rw [listLines, hjoined, hline, Text.definition?_cons, List.takeWhile_append_of_pos hkept,
    List.append_assoc, List.cons_append, List.append_assoc, List.singleton_append] at hvalue
  rw [← Option.some.inj hvalue, words_append_cons Text.isBlank_space,
    words_append_cons Text.isBlank_space, words_of_isPlainName hnext]
  simp

/-- **The words of a list are its items on disk, exactly if the last one does not go on.** -/
theorem map_words_definition?_iff {name next : String} (hnext : Text.isPlainName next = true)
    {items : List String} (hitems : ∀ item ∈ items, IsItem root item)
    (hslash : ∀ item ∈ items, '/' ∈ (expand root item).toList) {rest more : List (List Char)}
    {bs : List Char} (hrest : Text.joinLines rest = (next.toList ++ ' ' :: bs) :: more) :
    (Text.definition? name.toList
        (Text.joinLines (listLines name items ++ rest))).map (words root) =
        some (items.map (expand root)) ↔
      ∀ last ∈ items.getLast?, Text.continues last.toList = false := by
  have hsign : ∀ item ∈ items, '#' ∉ item.toList := fun item hitem => (hitems item hitem).sign
  constructor
  · intro h last hlast
    by_contra hcontinues
    obtain ⟨value, hvalue, hwords⟩ := Option.map_eq_some_iff.1 h
    have hmem : next ∈ words root value :=
      mem_words_of_continues hnext hsign hlast (by simpa using hcontinues) hrest hvalue
    rw [hwords] at hmem
    obtain ⟨item, hitem, rfl⟩ := List.mem_map.1 hmem
    exact ne_of_isPlainName hnext (by decide) _ (hslash item hitem) rfl
  · intro hlast
    have hword : ∀ item ∈ items, words root item.toList = [expand root item] := fun item hitem =>
      words_of_clear (List.ne_nil_of_mem (hslash item hitem)) (hitems item hitem).clear
    rw [definition?_listLines hsign hlast, Option.map_some, words_flow,
      List.flatMap_congr hword, List.map_eq_flatMap]

/-- What is read as an item can be one. -/
theorem isItem_of_map_words {name : List Char} {lines : List (List Char)} {items : List String}
    (hroot : '#' ∉ root.toList)
    (h : (Text.definition? name lines).map (words root) = some (items.map (expand root))) :
    ∀ item ∈ items, IsItem root item := by
  obtain ⟨value, hvalue, hwords⟩ := Option.map_eq_some_iff.1 h
  intro item hitem
  have hmem : expand root item ∈ words root value := hwords ▸ List.mem_map_of_mem hitem
  refine ⟨clear_of_mem_words hmem, fun hsign => ?_⟩
  have hkept : '#' ∈ (expand root item).toList := mem_expand_of_mem hsign (by decide)
  rcases mem_expand (RuleLine.mem_of_mem_words hmem hkept) with hmem | hmem | hmem
  · rw [String.toList_ofList] at hmem
    exact Text.sign_not_mem_definition? hvalue hmem
  · exact hroot hmem
  · exact absurd hmem (by decide)

/-! ## Scripts -/

/-- The lists of files, as the preamble has them. -/
def lists (s : BuildScript) : String :=
  listVariable "TARGETS" s.targets ++ listVariable "INTERMEDIATES" s.intermediates
    ++ listVariable "ARGS" s.argumentPaths

/-- The words of a list, with the output root as it is in place of the variables of the layout. -/
def listed? (s : BuildScript) (name : String) : Option (List String) :=
  (Text.definition? name.toList
    (Text.joinLines (Text.splitAt (· == '\n') s.lists.toList))).map (words s.root)

/-- How many words some lists have together. -/
def expected? (s : BuildScript) (names : List String) : Option Nat :=
  (names.mapM s.listed?).map fun lists => lists.flatten.length

/-- The words of the lists are the files of the script, one by one. -/
structure Counted (s : BuildScript) : Prop where
  targets : s.listed? "TARGETS" = some (s.targets.map s.onDisk)
  intermediates : s.listed? "INTERMEDIATES" = some (s.intermediates.map s.onDisk)

/-- **Then as many files are expected as there are.** -/
theorem Counted.expected?_eq {s : BuildScript} (h : s.Counted) :
    s.expected? ["TARGETS"] = some s.targets.length ∧
      s.expected? ["TARGETS", "INTERMEDIATES"] =
        some (s.targets.length + s.intermediates.length) := by
  simp [expected?, h.targets, h.intermediates]

variable {s : BuildScript}

/-- The lists of a script are cut into their lines if no item has a line end in it. -/
theorem exists_splitAt_lists (htargets : ∀ path ∈ s.targets, ∀ c ∈ path.toList, c ≠ '\n')
    (hintermediates : ∀ path ∈ s.intermediates, ∀ c ∈ path.toList, c ≠ '\n') :
    ∃ rest bs more, Text.splitAt (· == '\n') s.lists.toList =
        listLines "TARGETS" s.targets ++ (listLines "INTERMEDIATES" s.intermediates ++ rest) ∧
      Text.joinLines rest = ("ARGS".toList ++ ' ' :: bs) :: more := by
  obtain ⟨text, htext⟩ : ∃ text, (listVariable "ARGS" s.argumentPaths).toList =
      "ARGS ".toList ++ text := by
    refine ⟨":=".toList ++ ((s.argumentPaths.map String.toList).flatMap
      ([' ', '\\', '\n', '\t'] ++ ·) ++ ['\n']), ?_⟩
    rw [toList_listVariable]
    simp
  obtain ⟨piece, pieces, hpieces⟩ : ∃ piece pieces, Text.splitAt (· == '\n')
      ("ARGS ".toList ++ text) = ("ARGS ".toList ++ piece) :: pieces :=
    Text.exists_splitAt_append (by decide) text
  have hline : "ARGS ".toList ++ piece = "ARGS".toList ++ ' ' :: piece := by simp
  obtain ⟨bs, more, hjoined⟩ := Text.exists_joinLines_cons (c := ' ') (by decide) "ARGS".toList
    piece pieces
  refine ⟨_, bs, more, ?_, hjoined⟩
  rw [lists, String.toList_append, String.toList_append, List.append_assoc,
    splitAt_listVariable (by decide) htargets, splitAt_listVariable (by decide) hintermediates,
    htext, hpieces, hline]

/-- Lists of items are read back exactly if neither goes on at its end. -/
theorem counted_iff_of_isItem (hitems : ∀ path ∈ s.targets ++ s.intermediates, IsItem s.root path)
    (hslash : ∀ path ∈ s.targets ++ s.intermediates, '/' ∈ (s.onDisk path).toList) :
    s.Counted ↔ (∀ last ∈ s.targets.getLast?, Text.continues last.toList = false) ∧
      ∀ last ∈ s.intermediates.getLast?, Text.continues last.toList = false := by
  rw [List.forall_mem_append] at hitems hslash
  obtain ⟨rest, bs, more, hsplit, hrest⟩ := exists_splitAt_lists
    (fun path hpath => (hitems.1 path hpath).newline)
    fun path hpath => (hitems.2 path hpath).newline
  obtain ⟨bs', more', hinner⟩ := exists_joinLines_listLines "INTERMEDIATES" s.intermediates rest
  have htargets : s.listed? "TARGETS" = some (s.targets.map s.onDisk) ↔
      ∀ last ∈ s.targets.getLast?, Text.continues last.toList = false := by
    rw [listed?, hsplit]
    exact map_words_definition?_iff (by decide) hitems.1 hslash.1 hinner
  have hintermediates (hlast : ∀ last ∈ s.targets.getLast?, Text.continues last.toList = false) :
      s.listed? "INTERMEDIATES" = some (s.intermediates.map s.onDisk) ↔
        ∀ last ∈ s.intermediates.getLast?, Text.continues last.toList = false := by
    rw [listed?, hsplit, joinLines_listLines hlast, Text.definition?_cons_of_none (by rfl)]
    exact map_words_definition?_iff (by decide) hitems.2 hslash.2 hrest
  constructor
  · intro h
    have hlast := htargets.1 h.targets
    exact ⟨hlast, (hintermediates hlast).1 h.intermediates⟩
  · rintro ⟨hlast, hend⟩
    exact ⟨htargets.2 hlast, (hintermediates hlast).2 hend⟩

/-- **Which scripts have their files counted**: those whose paths are words on disk and have no
number sign, if the last one of neither list goes on. -/
theorem counted_iff (hroot : '#' ∉ s.root.toList)
    (hslash : ∀ path ∈ s.targets ++ s.intermediates, '/' ∈ (s.onDisk path).toList) :
    s.Counted ↔ (∀ path ∈ s.targets ++ s.intermediates, IsItem s.root path) ∧
      (∀ last ∈ s.targets.getLast?, Text.continues last.toList = false) ∧
      ∀ last ∈ s.intermediates.getLast?, Text.continues last.toList = false := by
  constructor
  · intro h
    have hitems : ∀ path ∈ s.targets ++ s.intermediates, IsItem s.root path :=
      List.forall_mem_append.2 ⟨isItem_of_map_words hroot h.targets,
        isItem_of_map_words hroot h.intermediates⟩
    exact ⟨hitems, (counted_iff_of_isItem hitems hslash).1 h⟩
  · rintro ⟨hitems, hlast⟩
    exact (counted_iff_of_isItem hitems hslash).2 hlast

end BuildScript

/-! ## Compiled scripts -/

namespace Layout

variable {root : String}

theorem IsItem.of_clear (hroot : ∀ c ∈ root.toList, Text.isBlank c = false) {path : String}
    (hpath : ∀ c ∈ path.toList, Text.isBlank c = false ∧ c ≠ '#') : IsItem root path where
  clear := by
    have hlayout : ∀ c ∈ "/processing/".toList, Text.isBlank c = false := by decide
    intro c hc
    rcases mem_expand hc with hc | hc | hc
    · exact (hpath c hc).1
    · exact hroot c hc
    · exact hlayout c hc
  sign := fun hsign => (hpath _ hsign).2 rfl

theorem slash_mem_expand_artifact (row : String) (block : BlockId) (index : Nat) (suffix : String) :
    '/' ∈ (expand root (artifact row block index suffix)).toList := by
  rw [artifact_eq_stem, expand_processing]
  simp

/-- The file of an output holds a blank or a number sign only if its suffix does. -/
theorem clear_artifact {row suffix : String} (hrow : Text.isPlainName row = true)
    (hsuffix : ∀ c ∈ suffix.toList, Text.isBlank c = false ∧ c ≠ '#') (block : BlockId)
    (index : Nat) :
    ∀ c ∈ (artifact row block index suffix).toList, Text.isBlank c = false ∧ c ≠ '#' := by
  have hname : ∀ c, Text.isNameChar c = true → Text.isBlank c = false ∧ c ≠ '#' := by
    intro c hc
    refine ⟨isBlank_of_isNameChar hc, ?_⟩
    rintro rfl
    cases hc
  have hdigits : ∀ n : Nat, ∀ c ∈ Nat.toDigits 10 n, Text.isNameChar c = true := by
    intro n c hc
    simp [Text.isNameChar, Char.isAlphanum, isDigit_toDigits c hc]
  rw [Text.isPlainName_iff] at hrow
  intro c hc
  simp only [toList_artifact, List.mem_append, List.mem_cons] at hc
  rcases hc with hc | hc | rfl | hc | rfl | hc | hc
  · revert c
    decide
  · exact hname c (hrow.2 c hc)
  · decide
  · exact hname c (hdigits _ c hc)
  · decide
  · exact hname c (hdigits _ c hc)
  · exact hsuffix c hc

theorem continues_artifact (row : String) (block : BlockId) (index : Nat) (suffix : String) :
    Text.continues (artifact row block index suffix).toList = Text.continues suffix.toList := by
  have hdigits := List.getLast?_eq_some_getLast (Nat.toDigits_ne_nil (n := index) (b := 10))
  have hlast := isDigit_toDigits _ (List.getLast_mem (Nat.toDigits_ne_nil (n := index) (b := 10)))
  have hne : (Nat.toDigits 10 index).getLast Nat.toDigits_ne_nil ≠ '\\' := by
    intro heq
    rw [heq] at hlast
    cases hlast
  have hstem : artifact row block index suffix =
      "$(PROCESSING)" ++ row ++ "/" ++ block.text ++ "_" ++ toString index ++ suffix := by
    rw [artifact, rowDirectory]
  have hindex : (toString index).toList = Nat.toDigits 10 index := String.toList_ofList
  rw [hstem, String.toList_append, String.toList_append, hindex]
  refine Text.continues_append ?_ hne suffix.toList
  rw [List.getLast?_append_of_ne_nil _ Nat.toDigits_ne_nil, hdigits]

end Layout

namespace Compilation

open Layout

variable {root : String}

theorem fileCell_clear {c : Compilation} {row : Row} {column file : String}
    (h : c.fileCell row column = .ok file) :
    ∀ ch ∈ file.toList, Text.isBlank ch = false ∧ ch ≠ '#' := by
  intro ch hch
  have hsafe := isUnsafe_eq_false_iff.1 ((fileCell_spec h).2.2.2 ch hch)
  exact ⟨hsafe.1, hsafe.2.2.1⟩

theorem slash_mem_expand_sinkTarget (file : String) :
    '/' ∈ (expand root (sinkTarget file)).toList := by
  rw [sinkTarget]
  split
  · rename_i habsolute
    exact mem_expand_of_mem (List.mem_of_head? (beq_iff_eq.1 habsolute)) (by decide)
  · rw [expand_inOutput]
    simp

theorem clear_sinkTarget {file : String}
    (h : ∀ c ∈ file.toList, Text.isBlank c = false ∧ c ≠ '#') :
    ∀ c ∈ (sinkTarget file).toList, Text.isBlank c = false ∧ c ≠ '#' := by
  rw [sinkTarget]
  split
  · exact h
  · rw [inOutput, String.toList_append]
    exact List.forall_mem_append.2 ⟨by decide, h⟩

theorem continues_sinkTarget (file : String) :
    Text.continues (sinkTarget file).toList = Text.continues file.toList := by
  rw [sinkTarget]
  split
  · rfl
  · have hlast : "$(OUTPUT)".toList.getLast? = some ')' := by decide
    rw [inOutput, String.toList_append]
    exact Text.continues_append hlast (by decide) file.toList

/-- The paths that a script lists are those of sinks and of outputs. -/
theorem paths_of_compile {options : ScriptOptions} {p : Pipeline} {table : Table}
    {directory outputRoot : String} {s : BuildScript}
    (hs : compile options p table directory outputRoot = .ok s) :
    (∀ path ∈ s.targets, ∃ row ∈ table.rows, (Compilation.mk p table).Names row path) ∧
      ∀ path ∈ s.intermediates, ∃ row ∈ table.rows, (Compilation.mk p table).Owns row path := by
  obtain ⟨d, hd, -, htargets, hintermediates, -⟩ := compile_eq_ok hs
  have hgrown := grown_draft hd
  rw [htargets, hintermediates]
  exact ⟨fun path hpath => (hgrown.targets path hpath).resolve_left List.not_mem_nil,
    fun path hpath => (hgrown.intermediates path hpath).resolve_left List.not_mem_nil⟩

/-- Each of them holds a slash on disk. -/
theorem slash_mem_onDisk {options : ScriptOptions} {p : Pipeline} {table : Table}
    {directory outputRoot : String} {s : BuildScript}
    (hs : compile options p table directory outputRoot = .ok s) :
    ∀ path ∈ s.targets ++ s.intermediates, '/' ∈ (s.onDisk path).toList := by
  obtain ⟨htargets, hintermediates⟩ := paths_of_compile hs
  refine List.forall_mem_append.2 ⟨fun path hpath => ?_, fun path hpath => ?_⟩
  · obtain ⟨row, -, sink, -, column, input, file, -, -, rfl⟩ := htargets path hpath
    exact slash_mem_expand_sinkTarget file
  · obtain ⟨row, -, block, index, format, rfl⟩ := hintermediates path hpath
    exact slash_mem_expand_artifact row.id block index _

end Compilation

/-- **Which compiled scripts have their files counted.**  Where the output root holds no number
sign, the words of the lists are the files of the script exactly if every path is one word on disk,
has no number sign, and neither list ends in a backslash that goes on.  This is so if the output
root holds no blank, no suffix holds a blank or a number sign, and neither a suffix nor the cell of
a sink ends in such a backslash.  The expected number of files is then the number of files. -/
theorem Pipeline.compile_counted {p : Pipeline} {delimiter : Char} {text : String} {table : Table}
    (htable : Table.parseWith delimiter text = .ok table) {options : ScriptOptions}
    {directory outputRoot : String} {s : BuildScript}
    (hs : compile options p table directory outputRoot = .ok s) :
    ('#' ∉ s.root.toList →
      (s.Counted ↔ (∀ path ∈ s.targets ++ s.intermediates, Layout.IsItem s.root path) ∧
        (∀ last ∈ s.targets.getLast?, Text.continues last.toList = false) ∧
        ∀ last ∈ s.intermediates.getLast?, Text.continues last.toList = false)) ∧
    ((∀ c ∈ s.root.toList, Text.isBlank c = false) →
      (∀ f ∈ p.toolbox.formats.formats, Text.continues f.suffix.toList = false ∧
        ∀ c ∈ f.suffix.toList, Text.isBlank c = false ∧ c ≠ '#') →
      (∀ row ∈ table.rows, ∀ sink ∈ p.sinks, ∀ column file, sink.column? = some column →
        row.resolved? column = some file → Text.continues file.toList = false) →
      s.Counted) ∧
    (s.Counted → s.expected? ["TARGETS"] = some s.targets.length ∧
      s.expected? ["TARGETS", "INTERMEDIATES"] =
        some (s.targets.length + s.intermediates.length)) := by
  have hslash := Compilation.slash_mem_onDisk hs
  obtain ⟨htargets, hintermediates⟩ := Compilation.paths_of_compile hs
  have hrows := Table.Sound.of_parseWith htable
  refine ⟨fun hroot => BuildScript.counted_iff hroot hslash, fun hroot hsuffix hcells => ?_,
    fun h => h.expected?_eq⟩
  have hformat := p.toolbox.formats.forall_suffix (P := fun suffix =>
    Text.continues suffix.toList = false ∧
      ∀ c ∈ suffix.toList, Text.isBlank c = false ∧ c ≠ '#') (by decide) hsuffix
  refine (BuildScript.counted_iff_of_isItem (List.forall_mem_append.2 ⟨?_, ?_⟩) hslash).2 ⟨?_, ?_⟩
  · intro path hpath
    obtain ⟨row, -, sink, -, column, input, file, -, hfile, rfl⟩ := htargets path hpath
    exact .of_clear hroot (Compilation.clear_sinkTarget (Compilation.fileCell_clear hfile))
  · intro path hpath
    obtain ⟨row, hrow, block, index, format, rfl⟩ := hintermediates path hpath
    exact .of_clear hroot
      (Layout.clear_artifact (hrows.isPlainName hrow) (hformat format).2 block index)
  · intro last hlast
    obtain ⟨row, hrow, sink, hsink, column, input, file, hkind, hfile, rfl⟩ :=
      htargets last (List.mem_of_getLast? hlast)
    rw [Compilation.continues_sinkTarget]
    exact hcells row hrow sink hsink column file (by rw [Block.column?, hkind])
      (Compilation.fileCell_eq_ok hfile)
  · intro last hlast
    obtain ⟨row, -, block, index, format, rfl⟩ :=
      hintermediates last (List.mem_of_getLast? hlast)
    rw [Compilation.artifact, Layout.continues_artifact]
    exact (hformat format).1

/-! ## A specimen -/

namespace Specimen

/-- No suffix and no cell of a sink is in the way. -/
theorem countable_branched :
    (∀ f ∈ branched.toolbox.formats.formats, Text.continues f.suffix.toList = false ∧
      ∀ c ∈ f.suffix.toList, Text.isBlank c = false ∧ c ≠ '#') ∧
    ∀ row ∈ table.rows, ∀ sink ∈ branched.sinks, ∀ column ∈ sink.column?,
      ∀ file ∈ row.resolved? column, Text.continues file.toList = false := by
  decide +kernel

end Specimen

/-- The branched pipeline has nine files for two rows, and nine are expected. -/
theorem Pipeline.compile_counted_branched :
    Table.parseWith '|' Specimen.sheet = .ok Specimen.table ∧
      ∃ s, compile .standard Specimen.branched Specimen.table "/w" "out" = .ok s ∧
        s.root = "/w/out" ∧ s.Counted ∧ s.expected? ["TARGETS"] = some 3 ∧
        s.expected? ["TARGETS", "INTERMEDIATES"] = some 9 := by
  have hok : (compile .standard Specimen.branched Specimen.table "/w" "out").toOption.map
      (fun s => (s.root, s.targets.length, s.intermediates.length)) = some ("/w/out", 3, 6) := by
    rw [compile, Compilation.draft, Specimen.addRow_branched]
    decide +kernel
  cases hs : compile .standard Specimen.branched Specimen.table "/w" "out" with
  | error e =>
    rw [hs] at hok
    cases hok
  | ok s =>
    rw [hs] at hok
    obtain ⟨hroot, hlengths⟩ := Prod.mk.inj (Option.some.inj hok)
    obtain ⟨htargets, hintermediates⟩ := Prod.mk.inj hlengths
    obtain ⟨-, hsufficient, hexpected⟩ := compile_counted Specimen.parseWith_sheet hs
    obtain ⟨hsuffix, hcells⟩ := Specimen.countable_branched
    have hcounted : s.Counted := by
      refine hsufficient (by rw [hroot]; decide) hsuffix ?_
      exact fun row hrow sink hsink column file hcolumn hfile =>
        hcells row hrow sink hsink column hcolumn file hfile
    refine ⟨Specimen.parseWith_sheet, s, rfl, hroot, hcounted, ?_⟩
    rw [htargets, hintermediates] at hexpected
    exact hexpected hcounted

/-- An output root with a space in it is let through, and then the one target is counted as two. -/
theorem Pipeline.counted_twice_chained :
    Specimen.toolbox.Built ∧ Reachable Specimen.toolbox Specimen.chained ∧
      Table.parseWith '|' (Specimen.filingText "y") = .ok (Specimen.filing "y") ∧
      ∃ s, compile .standard Specimen.chained (Specimen.filing "y") "/w" "/w/my out" = .ok s ∧
        s.targets = ["$(OUTPUT)y"] ∧ s.listed? "TARGETS" = some ["/w/my", "out/y"] ∧
        s.expected? ["TARGETS"] = some 2 ∧ ¬s.Counted := by
  have hok : (compile .standard Specimen.chained (Specimen.filing "y") "/w"
      "/w/my out").toOption.map (fun s => (s.targets, s.listed? "TARGETS")) =
        some (["$(OUTPUT)y"], some ["/w/my", "out/y"]) := by
    decide +kernel
  cases hs : compile .standard Specimen.chained (Specimen.filing "y") "/w" "/w/my out" with
  | error e =>
    rw [hs] at hok
    cases hok
  | ok s =>
    rw [hs] at hok
    obtain ⟨htargets, hlisted⟩ := Prod.mk.inj (Option.some.inj hok)
    have hexpected : s.expected? ["TARGETS"] = some 2 := by
      simp [BuildScript.expected?, hlisted]
    refine ⟨Specimen.toolbox_built, Specimen.reachable_chained, by decide, s, rfl, htargets,
      hlisted, hexpected, fun hcounted => ?_⟩
    rw [hcounted.expected?_eq.1, htargets] at hexpected
    cases hexpected

end Flowscript
