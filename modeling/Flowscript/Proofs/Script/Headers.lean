import Flowscript.Proofs.Script.Makers
import Flowscript.Proofs.Script.RuleLine
import Flowscript.Proofs.Script.Validation

/-!
# Headers of scripts

Paths are written into the headers of rules as they are.  Those that the layout makes up hold
nothing that the grammar of rule lines has a meaning for, and cells are refused for some of it.

* `RuleLine.isMark` is what the grammar has a meaning for.
* `Compilation.isRuleWord_of_originOf` says that what is behind a port is a word of the grammar.
* `Pipeline.Reachable.headers_read_back` tells which headers say what they mean to.
-/

set_option autoImplicit false

namespace Flowscript

/-! ## Paths of the layout -/

namespace RuleLine

/-- Whether the grammar of rule lines has a meaning for a character. -/
def isMark (c : Char) : Bool := Text.isBlank c || c == ':' || c == '&' || c == '|' || c == ';'

/-- Names are ASCII. -/
theorem toNat_lt_of_isNameChar {c : Char} (h : Text.isNameChar c = true) : c.toNat < 128 := by
  delta Text.isNameChar Char.isAlphanum Char.isAlpha Char.isUpper Char.isLower Char.isDigit at h
  simp only [Bool.or_eq_true, Bool.and_eq_true, decide_eq_true_eq, beq_iff_eq,
    UInt32.le_iff_toNat_le, ge_iff_le] at h
  change (((((65 ≤ c.toNat ∧ c.toNat ≤ 90) ∨ (97 ≤ c.toNat ∧ c.toNat ≤ 122)) ∨
    (48 ≤ c.toNat ∧ c.toNat ≤ 57)) ∨ c = '_') ∨ c = '.') ∨ c = '-' at h
  rcases h with (((hletter | hdigit) | rfl) | rfl) | rfl
  · omega
  · omega
  all_goals decide

theorem isMark_of_isNameChar {c : Char} (h : Text.isNameChar c = true) : isMark c = false := by
  have hall : ∀ n : Fin 128, Text.isNameChar (Char.ofNat n) = true →
      isMark (Char.ofNat n) = false := by
    decide +kernel
  have hc := hall ⟨c.toNat, toNat_lt_of_isNameChar h⟩
  rw [Char.ofNat_toNat] at hc
  exact hc h

/-- A text without marks. -/
def IsClear (text : String) : Prop := ∀ c ∈ text.toList, isMark c = false

theorem IsClear.append {s t : String} (hs : IsClear s) (ht : IsClear t) : IsClear (s ++ t) := by
  intro c hc
  rw [String.toList_append, List.mem_append] at hc
  exact hc.elim (hs c) (ht c)

theorem isClear_toString (n : Nat) : IsClear (toString n) := by
  intro c hc
  have hdigits : (toString n).toList = Nat.toDigits 10 n := String.toList_ofList
  refine isMark_of_isNameChar ?_
  rw [Text.isNameChar, Char.isAlphanum, isDigit_toDigits c (hdigits ▸ hc)]
  simp

theorem IsClear.isRuleWord {text : String} (h : IsClear text) (hne : text ≠ "") :
    IsRuleWord text := by
  refine ⟨hne, fun c hc => ?_⟩
  have hmark := h c hc
  simp only [isMark, Bool.or_eq_false_iff, beq_eq_false_iff_ne] at hmark
  exact ⟨hmark.1.1.1.1, hmark.1.1.1.2⟩

theorem IsClear.getLast?_ne {text : String} (h : IsClear text) :
    text.toList.getLast? ≠ some '&' := by
  intro hlast
  cases h _ (List.mem_of_getLast? hlast)

end RuleLine

open RuleLine

theorem Layout.isClear_rowDirectory {row : String} (h : IsClear row) :
    IsClear (rowDirectory row) :=
  have hvariable : IsClear "$(PROCESSING)" := by unfold IsClear; decide
  hvariable.append h

theorem Layout.isClear_artifact {row suffix : String} (hrow : IsClear row) (hsuffix : IsClear suffix)
    (block : BlockId) (index : Nat) : IsClear (artifact row block index suffix) := by
  have hslash : IsClear "/" := by unfold IsClear; decide
  have hline : IsClear "_" := by unfold IsClear; decide
  exact (((((Layout.isClear_rowDirectory hrow).append hslash).append
    (isClear_toString block.number)).append hline).append (isClear_toString index)).append hsuffix

theorem Table.Sound.isClear {t : Table} (h : t.Sound) {row : Row} (hrow : row ∈ t.rows) :
    IsClear row.id := by
  have hplain := Text.isPlainName_iff.1 (h.isPlainName hrow)
  exact fun c hc => isMark_of_isNameChar (hplain.2 c hc)

/-- What holds of the empty text and of the suffixes of all formats holds of every suffix. -/
theorem FormatCatalog.forall_suffix {c : FormatCatalog} {P : String → Prop} (hempty : P "")
    (h : ∀ f ∈ c.formats, P f.suffix) (format : String) : P (c.suffix format) := by
  rw [suffix]
  cases hf : c.get? format with
  | none => exact hempty
  | some f => exact h f (List.mem_of_find?_eq_some hf)

theorem FormatCatalog.isClear_suffix {c : FormatCatalog}
    (h : ∀ f ∈ c.formats, IsClear f.suffix) (format : String) : IsClear (c.suffix format) :=
  c.forall_suffix (P := IsClear) (by rintro ch ⟨⟩) h format

/-! ## Paths of rules -/

namespace Compilation

variable {c : Compilation} {d : ScriptDraft} {row : Row} {rule : Rule}

/-- A cell of the row that a sink or a source of files is bound to. -/
def Holds (c : Compilation) (row : Row) (path : String) : Prop :=
  ∃ b ∈ c.pipeline.blocks, ∃ column, b.column? = some column ∧
    (∀ port ∈ b.outputs, port.parameter.isArg = false) ∧ row.resolved? column = some path

theorem NamesFile.isRuleWord {column path : String} (h : c.NamesFile row column)
    (hpath : row.resolved? column = some path) : IsRuleWord path := by
  obtain ⟨-, other, hother, hne, hsafe⟩ := h
  obtain rfl := Option.some.inj (hother.symm.trans hpath)
  exact ⟨hne, fun ch hch => ⟨(hsafe ch hch).1, (hsafe ch hch).2.1⟩⟩

theorem isClear_artifact (hrows : c.table.Sound)
    (hsuffix : ∀ f ∈ c.pipeline.toolbox.formats.formats, IsClear f.suffix)
    (hrow : row ∈ c.table.rows) (id : BlockId) (i : Nat) (format : String) :
    IsClear (c.artifact row id i format) :=
  Layout.isClear_artifact (hrows.isClear hrow) (FormatCatalog.isClear_suffix hsuffix format) id i

theorem isRuleWord_artifact (hrows : c.table.Sound)
    (hsuffix : ∀ f ∈ c.pipeline.toolbox.formats.formats, IsClear f.suffix)
    (hrow : row ∈ c.table.rows) (id : BlockId) (i : Nat) (format : String) :
    IsRuleWord (c.artifact row id i format) := by
  refine (isClear_artifact hrows hsuffix hrow id i format).isRuleWord fun hempty => ?_
  obtain ⟨rest, hrest⟩ := Layout.exists_artifact_eq row.id id i
    (c.pipeline.toolbox.formats.suffix format)
  rw [artifact, hrest] at hempty
  exact absurd (String.append_eq_empty_iff.1 hempty).1 (by decide)

/-- **The file behind a port is a word of the grammar, and unless the layout made it up it is in a
cell of the row.** -/
theorem isRuleWord_of_originOf (hrows : c.table.Sound)
    (hsuffix : ∀ f ∈ c.pipeline.toolbox.formats.formats, IsClear f.suffix)
    (hrow : row ∈ c.table.rows) {ref : PortRef} {origin : Origin}
    (h : c.originOf row ref = .ok origin) :
    IsRuleWord origin.path ∧ (IsClear origin.path ∨ c.Holds row origin.path) := by
  rcases originOf_cases h with ⟨b, column, output, hb, hkind, hfile, hcell, -⟩ |
    ⟨-, -, output, -, -, -, hpath, -⟩ | ⟨-, -, -, -, output, -, -, -, rfl⟩
  · refine ⟨(namesFile_of_originOf h hb hkind hfile).isRuleWord hcell, .inr ⟨b, ?_⟩⟩
    refine ⟨(Pipeline.mem_blocks_of_block? hb).1, column, by rw [Block.column?, hkind], ?_, hcell⟩
    rw [Block.outputs, hkind]
    simpa using hfile
  · rw [hpath]
    exact ⟨isRuleWord_artifact hrows hsuffix hrow .., .inl (isClear_artifact hrows hsuffix hrow _ _ _)⟩
  · exact ⟨isRuleWord_artifact hrows hsuffix hrow .., .inl (isClear_artifact hrows hsuffix hrow _ _ _)⟩

/-- A prerequisite is the file behind a port, for some row. -/
theorem Gathered.exists_originOf (h : c.Gathered c.table.rows c.turns d) (hrule : rule ∈ d.rules)
    {path : String} (hpath : path ∈ rule.prerequisites) :
    ∃ row ∈ c.table.rows, ∃ ref origin, c.originOf row ref = .ok origin ∧ origin.path = path := by
  cases rule with
  | directory name => cases hpath
  | copy target prerequisite =>
    obtain rfl := List.mem_singleton.1 hpath
    obtain ⟨turn, hemits, source, -, origin, horigin, hfile, -⟩ := h.copies target path hrule
    exact ⟨turn.row, h.row_mem _ hemits.mem, source, origin, horigin, hfile⟩
  | run name id label targets prerequisites command =>
    obtain ⟨row, hrow, -, b, files, -, hruleOf, hfed⟩ := h.runs _ hrule (name, id) rfl
    cases hruleOf
    obtain ⟨i, source, -, origin, horigin, hfile, -⟩ :=
      hfed.exists_source (List.mem_eraseDups.1 hpath)
    exact ⟨row, hrow, source, origin, horigin, hfile⟩

/-- The target of a copy is what a checked cell stands for. -/
theorem Gathered.exists_namesFile (h : c.Gathered c.table.rows c.turns d)
    (hc : c.pipeline.Consistent) (hd : c.draft = .ok d) {target : String} (hrule : rule ∈ d.rules)
    (htarget : rule.copied? = some target) :
    ∃ row ∈ c.table.rows, ∃ file, IsRuleWord file ∧ c.Holds row file ∧ target = sinkTarget file := by
  cases rule with
  | directory => cases htarget
  | run => cases htarget
  | copy target path =>
    cases htarget
    obtain ⟨⟨row, sink⟩, hemits, -⟩ := h.copies target path hrule
    obtain ⟨hrow, hsink⟩ := mem_turns.1 hemits.mem
    have hturn := hemits.target?_eq
    rw [Turn.target?] at hturn
    split at hturn
    · rename_i column input hkind
      obtain ⟨file, hfile, rfl⟩ := Option.map_eq_some_iff.1 hturn
      have hnames := (admitted_of_draft hc hd hrow hsink).1.target column input hkind
      refine ⟨row, hrow, file, hnames.isRuleWord hfile, ⟨sink, (List.mem_filter.1 hsink).1, column,
        by rw [Block.column?, hkind], ?_, hfile⟩, rfl⟩
      rw [Block.outputs, hkind]
      exact List.forall_mem_nil _
    · cases hturn

/-- What a sink names is a word of the grammar if the cell is. -/
theorem isRuleWord_sinkTarget {file : String} (h : IsRuleWord file) :
    IsRuleWord (sinkTarget file) := by
  rw [sinkTarget]
  split
  · exact h
  · refine ⟨fun hempty => h.ne_empty (String.append_eq_empty_iff.1 hempty).2, fun c hc => ?_⟩
    rw [Layout.inOutput, String.toList_append, List.mem_append] at hc
    rcases hc with hc | hc
    · revert c
      decide
    · exact h.clear c hc

/-- What a sink names ends as the cell does. -/
theorem getLast?_sinkTarget {file : String} (h : file ≠ "") :
    (sinkTarget file).toList.getLast? = file.toList.getLast? := by
  rw [sinkTarget]
  split
  · rfl
  · rw [Layout.inOutput, String.toList_append, List.getLast?_append_of_ne_nil]
    exact fun hnil => h (String.toList_eq_nil_iff.1 hnil)

/-- **Targets are words of the grammar, and only those of sinks may hold marks.** -/
theorem Gathered.isRuleWord_target (h : c.Gathered c.table.rows c.turns d) (hrows : c.table.Sound)
    (hc : c.pipeline.Consistent) (hd : c.draft = .ok d)
    (hsuffix : ∀ f ∈ c.pipeline.toolbox.formats.formats, IsClear f.suffix) (hrule : rule ∈ d.rules)
    {path : String} (hpath : path ∈ rule.targets) :
    IsRuleWord path ∧ (IsClear path ∨ rule.copied? = some path) := by
  rcases h.target_cases hrule hpath with ⟨row, hrow, rfl, rfl⟩ | ⟨-, hcopied, -⟩ |
    ⟨row, hrow, id, i, format, -, -, rfl⟩
  · have hclear := Layout.isClear_rowDirectory (hrows.isClear hrow)
    refine ⟨hclear.isRuleWord fun hempty => ?_, .inl hclear⟩
    exact absurd (String.append_eq_empty_iff.1 hempty).1 (by decide)
  · obtain ⟨-, -, file, hword, -, rfl⟩ := h.exists_namesFile hc hd hrule hcopied
    exact ⟨isRuleWord_sinkTarget hword, .inr hcopied⟩
  · exact ⟨isRuleWord_artifact hrows hsuffix hrow .., .inl (isClear_artifact hrows hsuffix hrow _ _ _)⟩

/-- Before a rule there has to be the directory of a row, if anything. -/
theorem Gathered.isClear_orderOnly (h : c.Gathered c.table.rows c.turns d) (hrows : c.table.Sound)
    (hrule : rule ∈ d.rules) {path : String} (hpath : path ∈ rule.orderOnly) :
    IsRuleWord path ∧ IsClear path := by
  cases rule with
  | directory name => cases hpath
  | copy target prerequisite => cases hpath
  | run name id label targets prerequisites command =>
    obtain rfl := List.mem_singleton.1 hpath
    obtain ⟨row, hrow, rfl, -⟩ := h.runs _ hrule (name, id) rfl
    have hclear := Layout.isClear_rowDirectory (hrows.isClear hrow)
    refine ⟨hclear.isRuleWord fun hempty => ?_, hclear⟩
    exact absurd (String.append_eq_empty_iff.1 hempty).1 (by decide)

/-- **The header of a rule says what it means to, exactly if no prerequisite holds a bar or a
semicolon and what a sink names does not end in an ampersand.** -/
theorem Gathered.read?_header_iff (h : c.Gathered c.table.rows c.turns d) (hrows : c.table.Sound)
    (hc : c.pipeline.Consistent) (hd : c.draft = .ok d)
    (hsuffix : ∀ f ∈ c.pipeline.toolbox.formats.formats, IsClear f.suffix) (hrule : rule ∈ d.rules) :
    RuleLine.read? rule.header = some rule.line ↔
      (∀ path ∈ rule.prerequisites, ∀ ch ∈ path.toList, ch ≠ '|' ∧ ch ≠ ';') ∧
        ∀ target, rule.copied? = some target → target.toList.getLast? ≠ some '&' := by
  have htargets : ∀ path ∈ rule.targets, IsRuleWord path ∧ (IsClear path ∨ rule.copied? = some path) :=
    fun path hpath => h.isRuleWord_target hrows hc hd hsuffix hrule hpath
  rw [Rule.read?_header_iff (fun path hpath => (htargets path hpath).1)]
  · refine and_congr_right fun _ => ⟨fun hlast target htarget => ?_, fun hlast target htarget => ?_⟩
    · cases rule with
      | directory => cases htarget
      | run => cases htarget
      | copy target path =>
        cases htarget
        exact hlast _ rfl
    · rcases (htargets target (htarget ▸ List.mem_cons_self)).2 with hclear | hcopied
      · exact hclear.getLast?_ne
      · exact hlast target hcopied
  · intro path hpath
    obtain ⟨row, hrow, ref, origin, horigin, rfl⟩ := h.exists_originOf hrule hpath
    exact (isRuleWord_of_originOf hrows hsuffix hrow horigin).1
  · intro path hpath
    obtain ⟨hword, hclear⟩ := h.isClear_orderOnly hrows hrule hpath
    refine ⟨hword, ?_⟩
    rintro ch hch rfl
    cases hclear _ hch

end Compilation

/-- **Which headers say what they mean to.**  A header is taken for something else exactly if a
prerequisite holds a bar or a semicolon, or if what a sink names ends in an ampersand.  So every
header is faithful if no cell that names a file has any of these. -/
theorem Pipeline.Reachable.headers_read_back {t : Toolbox} (ht : t.Built)
    (hsuffix : ∀ f ∈ t.formats.formats, IsClear f.suffix) {p : Pipeline} (hp : Reachable t p)
    {delimiter : Char} {text : String} {table : Table}
    (htable : Table.parseWith delimiter text = .ok table) {options : ScriptOptions}
    {directory root : String} {s : BuildScript}
    (hs : compile options p table directory root = .ok s) :
    (∀ rule ∈ s.rules, RuleLine.read? rule.header = some rule.line ↔
      (∀ path ∈ rule.prerequisites, ∀ ch ∈ path.toList, ch ≠ '|' ∧ ch ≠ ';') ∧
        ∀ target, rule.copied? = some target → target.toList.getLast? ≠ some '&') ∧
    ((∀ row ∈ table.rows, ∀ path, (Compilation.mk p table).Holds row path →
        (∀ ch ∈ path.toList, ch ≠ '|' ∧ ch ≠ ';') ∧ path.toList.getLast? ≠ some '&') →
      ∀ rule ∈ s.rules, RuleLine.read? rule.header = some rule.line) := by
  obtain ⟨hc, rfl⟩ := hp.consistent
  obtain ⟨d, hd, hrules, -⟩ := Compilation.compile_eq_ok hs
  have hrows := Table.Sound.of_parseWith htable
  have h := Compilation.gathered_draft (c := ⟨p, table⟩) hc ht hrows hd
  rw [hrules]
  have hiff := fun rule (hrule : rule ∈ d.rules) =>
    h.read?_header_iff hrows hc hd hsuffix hrule
  refine ⟨hiff, fun hcells rule hrule => (hiff rule hrule).2 ⟨?_, ?_⟩⟩
  · intro path hpath ch hch
    obtain ⟨row, hrow, ref, origin, horigin, rfl⟩ := h.exists_originOf hrule hpath
    rcases (Compilation.isRuleWord_of_originOf hrows hsuffix hrow horigin).2 with hclear | hholds
    · constructor <;> rintro rfl <;> cases hclear _ hch
    · exact (hcells row hrow _ hholds).1 ch hch
  · intro target htarget
    obtain ⟨row, hrow, file, hword, hholds, rfl⟩ := h.exists_namesFile hc hd hrule htarget
    rw [Compilation.getLast?_sinkTarget hword.ne_empty]
    exact (hcells row hrow file hholds).2

/-! ## A specimen -/

namespace Specimen

theorem isClear_catalog : ∀ f ∈ toolbox.formats.formats, IsClear f.suffix := by
  unfold IsClear
  decide

/-- No cell that names a file holds a mark. -/
theorem clear_branched {row : Row} (hrow : row ∈ table.rows) {path : String}
    (h : (Compilation.mk branched table).Holds row path) :
    (∀ ch ∈ path.toList, ch ≠ '|' ∧ ch ≠ ';') ∧ path.toList.getLast? ≠ some '&' := by
  obtain ⟨b, hb, column, hcolumn, -, hcell⟩ := h
  have hall : ∀ row ∈ table.rows, ∀ b ∈ branched.blocks, ∀ column ∈ b.column?,
      ∀ path ∈ row.resolved? column,
        (∀ ch ∈ path.toList, ch ≠ '|' ∧ ch ≠ ';') ∧ path.toList.getLast? ≠ some '&' := by
    decide +kernel
  exact hall row hrow b hb column hcolumn path hcell

/-- A table with one row, which reads a file with a semicolon in its name. -/
def splitting : Table :=
  ⟨["id", "in", "out"], [⟨[("id", "a"), ("in", "/data/x;y"), ("out", "/data/y")]⟩]⟩

end Specimen

/-- All headers of the branched pipeline are faithful, the one of a rule with two targets among
them. -/
theorem Pipeline.headers_read_back_branched :
    Specimen.toolbox.Built ∧ (∀ f ∈ Specimen.toolbox.formats.formats, IsClear f.suffix) ∧
      Reachable Specimen.toolbox Specimen.branched ∧
      Table.parseWith '|' Specimen.sheet = .ok Specimen.table ∧
      ∃ s, compile .standard Specimen.branched Specimen.table "/w" "out" = .ok s ∧
        s.rules.length = 9 ∧ ∀ rule ∈ s.rules, RuleLine.read? rule.header = some rule.line := by
  have hok := Specimen.compile_branched
  cases hs : compile .standard Specimen.branched Specimen.table "/w" "out" with
  | error e =>
    rw [hs] at hok
    cases hok
  | ok s =>
    rw [hs] at hok
    refine ⟨Specimen.toolbox_built, Specimen.isClear_catalog, Specimen.reachable_branched,
      Specimen.parseWith_sheet, s, rfl, Option.some.inj hok, ?_⟩
    exact (Reachable.headers_read_back Specimen.toolbox_built Specimen.isClear_catalog
      Specimen.reachable_branched Specimen.parseWith_sheet hs).2 fun row hrow path =>
        Specimen.clear_branched hrow

/-- A cell with a semicolon is let through, and what stands after it in a header is taken for a
recipe. -/
theorem Pipeline.header_with_semicolon :
    Specimen.toolbox.Built ∧ (∀ f ∈ Specimen.toolbox.formats.formats, IsClear f.suffix) ∧
      Reachable Specimen.toolbox Specimen.chained ∧
      Table.parseWith '|' "id|in|out\na|/data/x;y|/data/y\n" = .ok Specimen.splitting ∧
      ∃ s rule, compile .standard Specimen.chained Specimen.splitting "/w" "out" = .ok s ∧
        rule ∈ s.rules ∧ rule.prerequisites = ["/data/x;y"] ∧
        RuleLine.read? rule.header = some ⟨false, ["$(PROCESSING)a/1_0.txt"], ["/data/x"], [],
          some "y | $(PROCESSING)a"⟩ ∧
        RuleLine.read? rule.header ≠ some rule.line := by
  have hrules : (compile .standard Specimen.chained Specimen.splitting "/w" "out").toOption.map
      (·.rules[2]?) = some (some (.run "a" ⟨1⟩ "sort" ["$(PROCESSING)a/1_0.txt"] ["/data/x;y"]
        "sort /data/x;y > $(PROCESSING)a/1_0.txt")) := by
    decide +kernel
  cases hs : compile .standard Specimen.chained Specimen.splitting "/w" "out" with
  | error e =>
    rw [hs] at hrules
    cases hrules
  | ok s =>
    rw [hs] at hrules
    refine ⟨Specimen.toolbox_built, Specimen.isClear_catalog, Specimen.reachable_chained,
      by decide, s, _, rfl, List.mem_of_getElem? (Option.some.inj hrules), rfl, ?_, ?_⟩
    all_goals decide

end Flowscript
