import Mathlib.Data.List.Nodup
import Mathlib.Data.String.Basic
import Flowscript.Analysis.Markers
import Flowscript.Proofs.Analysis.Ways
import Flowscript.Proofs.Pipeline.Endpoints
import Flowscript.Proofs.Script.Expansion

/-!
# Markers of failed modules

A script writes the marker of a module that failed as a path in a recipe, and the report reads it
off the names of directories.  The two agree because the id of a row is a single name of a path, and
the number of a block is read as it was written.

* `BuildScript.Marks` says what is written about markers in a script.
* `Layout.underErrors` is a path of a script on disk, and `Layout.underErrors_marker_inj` tells
  markers apart there.
* `Layout.errorPaths` are the directories of the rows with the markers of some modules, and
  `Host.HoldsBelow` says that a host has these and no others.  `Host.holdsBelow_errorPaths_iff` says
  what each directory holds then.
* `FailureMarker.scan_spec` is what the scan finds there, and `FailureMarker.scan_eq_error` says when
  it finds nothing out.  `Pipeline.Reachable.markers_read_back` goes from the script to the report.
-/

set_option autoImplicit false

namespace Flowscript

/-! ## Markers in the script -/

/-- What a failed command is followed by: it makes the directory, and where the build does not keep
going it ends the recipe. -/
def Rule.marking (keepGoing : Bool) (path : String) : String :=
  if keepGoing then "mkdir -p " ++ path else "\x7b mkdir -p " ++ path ++ "; exit 1; \x7d"

/-- What is written in a script about markers. -/
structure BuildScript.Marks (s : BuildScript) : Prop where
  /-- The script is its lines. -/
  text : s.text = unlines s.allLines
  /-- One of them says where markers are. -/
  errors : "ERRORS := $(OUTPUT)errors/" ∈ s.allLines
  /-- One makes the directories of all rows; it belongs to the setup. -/
  rows : s.rows ≠ [] →
    ∃ line ∈ s.allLines, line ∈ s.setupRecipe ∧
      line = "\tmkdir -p " ++ " ".intercalate (s.rows.map ("$(ERRORS)" ++ ·))
  /-- And the recipe of a module is a line with a command, which makes the marker of the row and the
  block where the command fails. -/
  recipe : ∀ rule ∈ s.rules, ∀ task, rule.task? = some task → ∃ command,
    ∃ line ∈ s.allLines, (rule.recipe s.options.keepGoing).map ("\t" ++ ·) = [line] ∧
      line = "\t(" ++ command ++ ") || "
        ++ Rule.marking s.options.keepGoing ("$(ERRORS)" ++ task.1 ++ "/" ++ task.2.text)

theorem Rule.caught_eq (keepGoing : Bool) (row : String) (block : BlockId) (command : String) :
    caught keepGoing row block command =
      "\t(" ++ command ++ ") || " ++ marking keepGoing ("$(ERRORS)" ++ row ++ "/" ++ block.text) := by
  cases keepGoing <;> simp [caught, marking, String.ext_iff]

namespace BuildScript

variable {s : BuildScript}

theorem mem_allLines_of_mem_setupRecipe {line : String} (h : line ∈ s.setupRecipe) :
    line ∈ s.allLines := by
  simp [allLines, frame, h]

/-- **The markers of a script are written in it.** -/
theorem marks (s : BuildScript) : s.Marks where
  text := s.text_eq
  errors := by simp [allLines, frame, opening]
  rows := by
    intro hrows
    have hne : s.rows.map ("$(ERRORS)" ++ ·) ≠ [] := mt List.map_eq_nil_iff.1 hrows
    have hline : "\tmkdir -p " ++ " ".intercalate (s.rows.map ("$(ERRORS)" ++ ·)) ∈
        s.setupRecipe := by
      simp [setupRecipe, clearing, making, hne]
    exact ⟨_, mem_allLines_of_mem_setupRecipe hline, hline, rfl⟩
  recipe := by
    intro rule hrule task htask
    cases rule with
    | directory => cases htask
    | copy => cases htask
    | run row block name targets prerequisites command =>
      cases htask
      refine ⟨command, Rule.caught s.options.keepGoing row block command, ?_, ?_, Rule.caught_eq ..⟩
      · refine List.mem_append_right _ (List.mem_flatMap.2 ⟨_, hrule, ?_⟩)
        simp [Rule.lines]
      · rw [← Rule.tab_catching]
        rfl

end BuildScript

/-! ## Markers on disk -/

namespace BlockId

theorem isDigit_of_mem_text {id : BlockId} {c : Char} (h : c ∈ id.text.toList) :
    c.isDigit = true :=
  isDigit_toDigits c (id.toList_text ▸ h)

theorem slash_not_mem_text (id : BlockId) : '/' ∉ id.text.toList :=
  fun h => absurd (isDigit_of_mem_text h) (by decide)

theorem text_inj {id id' : BlockId} (h : id.text = id'.text) : id = id' :=
  padded_inj (id.padded_zero.trans (h.trans id'.padded_zero.symm))

end BlockId

/-- A path is taken apart at a slash if there is none before it. -/
theorem slash_inj {a a' b b' : String} (ha : '/' ∉ a.toList) (ha' : '/' ∉ a'.toList)
    (h : a ++ "/" ++ b = a' ++ "/" ++ b') : a = a' ∧ b = b' := by
  have hlist := congrArg String.toList h
  rw [String.append_assoc, String.append_assoc, String.toList_append, String.toList_append,
    String.toList_append, String.toList_append] at hlist
  obtain ⟨hfront, hback⟩ := append_inj_of_not_mem ha ha' hlist
  exact ⟨String.toList_inj.1 hfront, String.toList_inj.1 hback⟩

theorem slash_not_mem_of_isPlainName {name : String} (h : Text.isPlainName name = true) :
    '/' ∉ name.toList :=
  fun hmem => ne_of_isPlainName h (by decide) _ hmem rfl

theorem slash_mem_append (a b : String) : '/' ∈ (a ++ "/" ++ b).toList := by
  simp

namespace Layout

/-- A path of a script in which `ERRORS` stands for a directory. -/
def underErrors (errors path : String) : String :=
  Variable.substitute (fun name => if name = "$(ERRORS)" then some (errors ++ "/") else none) path

variable {row row' : String} (errors : String)

theorem underErrors_append {rest : String} (h : ∀ c ∈ rest.toList, c ≠ '$') :
    underErrors errors ("$(ERRORS)" ++ rest) = errors ++ "/" ++ rest := by
  have hplain := Variable.substitute_append h
    (fun name => if name = "$(ERRORS)" then some (errors ++ "/") else none) ""
  rw [Variable.substitute_empty, String.append_empty] at hplain
  have hname : "$(ERRORS)" = "$(" ++ "ERRORS" ++ ")" := by decide
  rw [underErrors, hname, Variable.substitute_variable_append (by decide) (by decide)
    (if_pos rfl), ← hname, hplain]

theorem underErrors_row (hrow : ∀ c ∈ row.toList, c ≠ '$') :
    underErrors errors ("$(ERRORS)" ++ row) = errors ++ "/" ++ row :=
  underErrors_append errors hrow

theorem underErrors_marker (hrow : ∀ c ∈ row.toList, c ≠ '$') (block : BlockId) :
    underErrors errors ("$(ERRORS)" ++ row ++ "/" ++ block.text) =
      errors ++ "/" ++ (row ++ "/" ++ block.text) := by
  have hrest : ∀ c ∈ (row ++ "/" ++ block.text).toList, c ≠ '$' := by
    intro c hc
    rw [String.toList_append, String.toList_append, List.mem_append, List.mem_append] at hc
    rcases hc with (hc | hc) | hc
    · exact hrow c hc
    · revert c
      decide
    · rintro rfl
      exact absurd (BlockId.isDigit_of_mem_text hc) (by decide)
  have hpath : "$(ERRORS)" ++ row ++ "/" ++ block.text =
      "$(ERRORS)" ++ (row ++ "/" ++ block.text) := by
    simp only [String.append_assoc]
  rw [hpath, underErrors_append errors hrest]

/-- **Different markers are different directories.** -/
theorem underErrors_marker_inj (hrow : Text.isPlainName row = true)
    (hrow' : Text.isPlainName row' = true) {block block' : BlockId}
    (h : underErrors errors ("$(ERRORS)" ++ row ++ "/" ++ block.text) =
      underErrors errors ("$(ERRORS)" ++ row' ++ "/" ++ block'.text)) :
    row = row' ∧ block = block' := by
  rw [underErrors_marker errors (ne_of_isPlainName hrow (by decide)),
    underErrors_marker errors (ne_of_isPlainName hrow' (by decide))] at h
  exact (slash_inj (slash_not_mem_of_isPlainName hrow) (slash_not_mem_of_isPlainName hrow')
    ((String.append_right_inj _).1 h)).imp_right BlockId.text_inj

/-- A directory with these paths in it has the name. -/
def Holds (paths : Set String) (path name : String) : Prop :=
  '/' ∉ name.toList ∧ path ++ "/" ++ name ∈ paths

/-- The directories of rows, and the markers of failed modules. -/
def errorPaths (errors : String) (rows : List String) (failed : Set (String × BlockId)) :
    Set String :=
  {path | (∃ row ∈ rows, path = underErrors errors ("$(ERRORS)" ++ row)) ∨
    ∃ task ∈ failed, path = underErrors errors ("$(ERRORS)" ++ task.1 ++ "/" ++ task.2.text)}

section ErrorPaths

variable {rows : List String} {failed : Set (String × BlockId)} {name : String}

theorem mem_errorPaths_iff (hrows : ∀ row ∈ rows, Text.isPlainName row = true)
    (hfailed : ∀ task ∈ failed, task.1 ∈ rows) (rest : String) :
    errors ++ "/" ++ rest ∈ errorPaths errors rows failed ↔
      rest ∈ rows ∨ ∃ task ∈ failed, rest = task.1 ++ "/" ++ task.2.text := by
  refine or_congr ?_ (exists_congr fun task => and_congr_right fun htask => ?_)
  · rw [← @exists_eq_right' String (· ∈ rows) rest]
    refine exists_congr fun row => and_congr_right fun hrow => ?_
    rw [underErrors_row errors (ne_of_isPlainName (hrows row hrow) (by decide))]
    exact String.append_right_inj _
  · rw [underErrors_marker errors
      (ne_of_isPlainName (hrows _ (hfailed task htask)) (by decide))]
    exact String.append_right_inj _

theorem holds_errors_iff (hrows : ∀ row ∈ rows, Text.isPlainName row = true)
    (hfailed : ∀ task ∈ failed, task.1 ∈ rows) :
    Holds (errorPaths errors rows failed) errors name ↔ name ∈ rows := by
  rw [Holds, mem_errorPaths_iff errors hrows hfailed]
  constructor
  · rintro ⟨hslash, hname | ⟨task, -, rfl⟩⟩
    · exact hname
    · exact absurd (slash_mem_append _ _) hslash
  · exact fun hname => ⟨slash_not_mem_of_isPlainName (hrows name hname), .inl hname⟩

theorem holds_row_iff (hrows : ∀ row ∈ rows, Text.isPlainName row = true)
    (hfailed : ∀ task ∈ failed, task.1 ∈ rows) (hrow : row ∈ rows) :
    Holds (errorPaths errors rows failed) (errors ++ "/" ++ row) name ↔
      ∃ id, (row, id) ∈ failed ∧ name = id.text := by
  rw [Holds, show errors ++ "/" ++ row ++ "/" ++ name = errors ++ "/" ++ (row ++ "/" ++ name) by
    simp only [String.append_assoc], mem_errorPaths_iff errors hrows hfailed]
  constructor
  · rintro ⟨-, hmem | ⟨⟨row', id⟩, hid, heq⟩⟩
    · exact absurd (slash_mem_append _ _) (slash_not_mem_of_isPlainName (hrows _ hmem))
    · obtain ⟨rfl, rfl⟩ := slash_inj (slash_not_mem_of_isPlainName (hrows row hrow))
        (slash_not_mem_of_isPlainName (hrows row' (hfailed _ hid))) heq
      exact ⟨id, hid, rfl⟩
  · rintro ⟨id, hid, rfl⟩
    exact ⟨BlockId.slash_not_mem_text id, .inr ⟨(row, id), hid, rfl⟩⟩

/-- There is nothing in a marker. -/
theorem not_holds_marker (hrows : ∀ row ∈ rows, Text.isPlainName row = true)
    (hfailed : ∀ task ∈ failed, task.1 ∈ rows) (hrow : row ∈ rows) (block : BlockId) :
    ¬Holds (errorPaths errors rows failed) (errors ++ "/" ++ (row ++ "/" ++ block.text)) name := by
  rw [Holds, show errors ++ "/" ++ (row ++ "/" ++ block.text) ++ "/" ++ name =
    errors ++ "/" ++ (row ++ "/" ++ (block.text ++ "/" ++ name)) by
    simp only [String.append_assoc], mem_errorPaths_iff errors hrows hfailed]
  rintro ⟨-, hmem | ⟨task, htask, heq⟩⟩
  · exact slash_not_mem_of_isPlainName (hrows _ hmem) (slash_mem_append _ _)
  · have hid := (slash_inj (slash_not_mem_of_isPlainName (hrows row hrow))
      (slash_not_mem_of_isPlainName (hrows _ (hfailed task htask))) heq).2
    exact BlockId.slash_not_mem_text task.2 (hid ▸ slash_mem_append _ _)

end ErrorPaths

end Layout

/-! ## Scanning -/

namespace Host

/-- The names in a directory can be read, and they are these; it need not be there if there are
none. -/
def Lists (h : Host) (path : String) (P : String → Prop) : Prop :=
  ∃ names, h.namesIn path = .ok names ∧ names.Nodup ∧ ∀ name, name ∈ names ↔ P name

/-- Below a directory there are the directories of these paths, and nothing else. -/
def HoldsBelow (h : Host) (base : String) (paths : Set String) : Prop :=
  ∀ path, path = base ∨ path ∈ paths → h.Lists path (Layout.Holds paths path)

variable {h : Host} {path : String} {P Q : String → Prop}

theorem lists_congr (hpq : ∀ name, P name ↔ Q name) : h.Lists path P ↔ h.Lists path Q :=
  exists_congr fun _ => and_congr_right fun _ => and_congr_right fun _ =>
    forall_congr' fun name => iff_congr Iff.rfl (hpq name)

/-- The names in a directory that can be read are those of its entries. -/
theorem namesIn_of_entries {n : Nat} {entries : List (String × Nat)}
    (hfind : h.tree.find h.directory path true = .ok n)
    (hentries : h.tree.entries? n = some entries) (hread : n ∉ h.unreadable) :
    h.namesIn path = .ok (FileTree.sortNames (entries.map (·.1))) := by
  have hpath : h.isDirectory path = true := by
    unfold FileTree.entries? at hentries
    split at hentries
    · rename_i hkind
      simp only [isDirectory, FileTree.isDirectory, FileTree.find?, hfind, hkind]
    · cases hentries
  rw [namesIn, if_pos hpath, list, hfind]
  simp [bind, Except.bind, FileTree.isDirectoryAt, FileTree.namesAt, hentries, hread]

theorem lists_of_entries {n : Nat} {entries : List (String × Nat)}
    (hfind : h.tree.find h.directory path true = .ok n)
    (hentries : h.tree.entries? n = some entries) (hread : n ∉ h.unreadable)
    (hnodup : (entries.map (·.1)).Nodup) (hnames : ∀ name, name ∈ entries.map (·.1) ↔ P name) :
    h.Lists path P := by
  have hperm : (FileTree.sortNames (entries.map (·.1))).Perm (entries.map (·.1)) :=
    List.mergeSort_perm _ _
  exact ⟨_, namesIn_of_entries hfind hentries hread, hperm.nodup_iff.2 hnodup,
    fun name => hperm.mem_iff.trans (hnames name)⟩

/-- **What `errors` holds, directory by directory.** -/
theorem holdsBelow_errorPaths_iff {errors : String} {rows : List String}
    {failed : Set (String × BlockId)} (hrows : ∀ row ∈ rows, Text.isPlainName row = true)
    (hfailed : ∀ task ∈ failed, task.1 ∈ rows) :
    h.HoldsBelow errors (Layout.errorPaths errors rows failed) ↔
      h.Lists errors (· ∈ rows) ∧
        (∀ row ∈ rows, h.Lists (errors ++ "/" ++ row) fun name =>
          ∃ id, (row, id) ∈ failed ∧ name = id.text) ∧
        ∀ task ∈ failed, h.Lists (errors ++ "/" ++ (task.1 ++ "/" ++ task.2.text))
          fun _ => False := by
  have hplain : ∀ row ∈ rows, ∀ c ∈ row.toList, c ≠ '$' := fun row hrow =>
    ne_of_isPlainName (hrows row hrow) (by decide)
  constructor
  · refine fun hbelow => ⟨?_, fun row hrow => ?_, fun task htask => ?_⟩
    · exact (lists_congr fun _ => Layout.holds_errors_iff errors hrows hfailed).1
        (hbelow _ (.inl rfl))
    · have hpath := Layout.underErrors_row errors (hplain row hrow)
      exact (lists_congr fun _ => Layout.holds_row_iff errors hrows hfailed hrow).1
        (hbelow _ (.inr (.inl ⟨row, hrow, hpath.symm⟩)))
    · have hpath := Layout.underErrors_marker errors (hplain _ (hfailed task htask)) task.2
      exact (lists_congr fun _ => iff_false_intro
        (Layout.not_holds_marker errors hrows hfailed (hfailed task htask) task.2)).1
          (hbelow _ (.inr (.inr ⟨task, htask, hpath.symm⟩)))
  · rintro ⟨herrors, hlists, hempty⟩ path (rfl | ⟨row, hrow, rfl⟩ | ⟨task, htask, rfl⟩)
    · exact (lists_congr fun _ => Layout.holds_errors_iff path hrows hfailed).2 herrors
    · rw [Layout.underErrors_row errors (hplain row hrow)]
      exact (lists_congr fun _ => Layout.holds_row_iff errors hrows hfailed hrow).2
        (hlists row hrow)
    · rw [Layout.underErrors_marker errors (hplain _ (hfailed task htask))]
      exact (lists_congr fun _ => iff_false_intro
        (Layout.not_holds_marker errors hrows hfailed (hfailed task htask) task.2)).2
          (hempty task htask)

end Host

theorem Path.join_of_plain {base name : String} (hbase : base.isEmpty = false)
    (hslash : endsInSlash base = false) (hname : '/' ∉ name.toList) :
    join base name = base ++ "/" ++ name := by
  have habsolute : isAbsolute name = false := by
    rw [isAbsolute, beq_eq_false_iff_ne]
    exact fun hhead => hname (List.mem_of_head? hhead)
  rw [join, habsolute, hbase, hslash]
  rfl

/-- The directory of all markers has a name. -/
theorem Layout.join_errors (root : String) {name : String} (hname : '/' ∉ name.toList) :
    Path.join (Path.join root errorsDirectory) name =
      Path.join root errorsDirectory ++ "/" ++ name := by
  have hends : ∃ front, Path.join root errorsDirectory = front ++ errorsDirectory := by
    rw [Path.join, if_neg (by decide)]
    split
    · exact ⟨root, rfl⟩
    · exact ⟨root ++ "/", rfl⟩
  obtain ⟨front, hfront⟩ := hends
  rw [hfront]
  refine Path.join_of_plain ?_ ?_ hname
  · simp [errorsDirectory]
  · rw [Path.endsInSlash, String.toList_append, List.getLast?_append]
    rfl

namespace FailureMarker

/-- The first marker is of an earlier row, or of the same row and an earlier block. -/
def Before (a b : FailureMarker) : Prop :=
  a.row < b.row ∨ a.row = b.row ∧ a.block.number < b.block.number

theorem before_of_le {a b : FailureMarker} (h : le a b = true) (hne : a ≠ b) : a.Before b := by
  rw [le, Bool.or_eq_true, Bool.and_eq_true, decide_eq_true_eq, beq_iff_eq,
    decide_eq_true_eq] at h
  refine h.imp_right fun ⟨hrow, hle⟩ => ⟨hrow, lt_of_le_of_ne hle fun hnumber => hne ?_⟩
  obtain ⟨row, block⟩ := a
  obtain ⟨row', block'⟩ := b
  rw [mk.injEq]
  exact ⟨hrow, congrArg BlockId.mk hnumber⟩

/-- Markers that are all different are put in order. -/
theorem pairwise_sort {markers : List FailureMarker} (h : markers.Nodup) :
    (sort markers).Pairwise Before := by
  have hsorted : (sort markers).Pairwise fun a b => le a b = true := by
    refine List.pairwise_mergeSort (fun a b c hab hbc => ?_) (fun a b => ?_) markers
    · simp only [le, Bool.or_eq_true, Bool.and_eq_true, decide_eq_true_eq, beq_iff_eq] at *
      rcases hab with hab | ⟨hab, hle⟩ <;> rcases hbc with hbc | ⟨hbc, hle'⟩
      · exact .inl (lt_trans hab hbc)
      · exact .inl (hbc ▸ hab)
      · exact .inl (hab ▸ hbc)
      · exact .inr ⟨hab.trans hbc, hle.trans hle'⟩
    · simp only [le, Bool.or_eq_true, Bool.and_eq_true, decide_eq_true_eq, beq_iff_eq]
      rcases lt_trichotomy a.row b.row with hlt | heq | hlt
      · exact .inl (.inl hlt)
      · exact (le_total a.block.number b.block.number).imp (fun hle => .inr ⟨heq, hle⟩)
          fun hle => .inr ⟨heq.symm, hle⟩
      · exact .inr (.inl hlt)
  have hnodup : (sort markers).Nodup := (List.mergeSort_perm markers le).nodup_iff.2 h
  exact hsorted.imp₂ (fun a b => before_of_le) hnodup

theorem Before.asymm {a b : FailureMarker} (h : a.Before b) : ¬b.Before a := by
  rcases h with hrow | ⟨hrow, hnumber⟩ <;> rintro (hrow' | ⟨hrow', hnumber'⟩)
  · exact lt_asymm hrow hrow'
  · exact absurd hrow (hrow' ▸ lt_irrefl _)
  · exact absurd hrow' (hrow ▸ lt_irrefl _)
  · exact lt_asymm hnumber hnumber'

/-- There is one list of given markers in this order. -/
theorem eq_of_pairwise {l l' : List FailureMarker} (h : l.Pairwise Before)
    (h' : l'.Pairwise Before) (hmem : ∀ m, m ∈ l ↔ m ∈ l') : l = l' := by
  have hne : ∀ {a b : FailureMarker}, a.Before b → a ≠ b := by
    rintro a _ hab rfl
    exact hab.asymm hab
  have hperm := (List.perm_ext_iff_of_nodup (h.imp hne) (h'.imp hne)).2 hmem
  exact hperm.eq_of_pairwise (fun a b _ _ hab hba => absurd hba hab.asymm) h h'

variable {h : Host} {root row : String} {rows : List String} {failed : Set (String × BlockId)}

theorem ofName?_text {id : BlockId} (hid : id.number < Text.word64Limit) (row : String) :
    ofName? row id.text = some ⟨row, id⟩ := by
  have hread : BlockId.read id.text = .ok id := BlockId.read_text hid
  rw [ofName?, hread]

/-- The directory of a row that holds the markers of some blocks is read back. -/
theorem mem_filterMap_text {names : List String} {ids : Set BlockId}
    (hnames : ∀ name, name ∈ names ↔ ∃ id ∈ ids, name = id.text)
    (hids : ∀ id ∈ ids, id.number < Text.word64Limit) (m : FailureMarker) :
    m ∈ names.filterMap (ofName? row) ↔ m.row = row ∧ m.block ∈ ids := by
  rw [List.mem_filterMap]
  constructor
  · rintro ⟨name, hname, hread⟩
    obtain ⟨id, hid, rfl⟩ := (hnames name).1 hname
    rw [ofName?_text (hids id hid)] at hread
    cases hread
    exact ⟨rfl, hid⟩
  · rintro ⟨rfl, hid⟩
    exact ⟨_, (hnames _).2 ⟨_, hid, rfl⟩, ofName?_text (hids _ hid) _⟩

theorem nodup_filterMap_text {names : List String} {ids : Set BlockId} (hnodup : names.Nodup)
    (hnames : ∀ name, name ∈ names ↔ ∃ id ∈ ids, name = id.text)
    (hids : ∀ id ∈ ids, id.number < Text.word64Limit) :
    (names.filterMap (ofName? row)).Nodup := by
  rw [List.Nodup, List.pairwise_filterMap]
  refine hnodup.imp_of_mem fun {name name'} hname hname' hne m hm m' hm' heq => hne ?_
  obtain ⟨id, hid, rfl⟩ := (hnames name).1 hname
  obtain ⟨id', hid', rfl⟩ := (hnames name').1 hname'
  rw [ofName?_text (hids id hid), Option.some.injEq] at hm
  rw [ofName?_text (hids id' hid'), Option.some.injEq, ← heq, ← hm, mk.injEq] at hm'
  rw [hm'.2]

/-- **What is below `errors` is read back**: the markers of all modules that failed, each once and
in order. -/
theorem scan_spec (hrows : ∀ row ∈ rows, Text.isPlainName row = true)
    (hfailed : ∀ task ∈ failed, task.1 ∈ rows ∧ task.2.number < Text.word64Limit)
    (h : Host) (root : String)
    (hbelow : h.HoldsBelow (Path.join root Layout.errorsDirectory)
      (Layout.errorPaths (Path.join root Layout.errorsDirectory) rows failed)) :
    ∃ markers, scan h root = .ok markers ∧
      (∀ m : FailureMarker, m ∈ markers ↔ (m.row, m.block) ∈ failed) ∧
      markers.Pairwise Before := by
  have hknown : ∀ task ∈ failed, task.1 ∈ rows := fun task htask => (hfailed task htask).1
  obtain ⟨⟨names, hnames, hnodup, hmem⟩, hlists, -⟩ :=
    (Host.holdsBelow_errorPaths_iff hrows hknown).1 hbelow
  have hrow : ∀ row ∈ names, ∃ markers,
      scanRow h (Path.join root Layout.errorsDirectory) row = .ok markers ∧ markers.Nodup ∧
        ∀ m, m ∈ markers ↔ m.row = row ∧ (row, m.block) ∈ failed := by
    intro row hname
    have hrow := (hmem row).1 hname
    obtain ⟨texts, hread, hnodup, htexts⟩ := hlists row hrow
    have hids : ∀ id ∈ {id | (row, id) ∈ failed}, id.number < Text.word64Limit :=
      fun id hid => (hfailed _ hid).2
    refine ⟨texts.filterMap (ofName? row), ?_, nodup_filterMap_text hnodup htexts hids,
      mem_filterMap_text htexts hids⟩
    rw [scanRow, Layout.join_errors root (slash_not_mem_of_isPlainName (hrows row hrow)), namesIn,
      hread]
    rfl
  choose! found hscan hfound hmarkers using hrow
  refine ⟨sort (names.map found).flatten, ?_, fun m => ?_, pairwise_sort ?_⟩
  · simp only [scan, namesIn, hnames, mapM_eq_ok_map hscan, Except.mapError, bind, Except.bind]
  · rw [sort, List.mem_mergeSort, ← List.flatMap_def, List.mem_flatMap]
    constructor
    · rintro ⟨row, hname, hm⟩
      obtain ⟨rfl, hm⟩ := (hmarkers row hname m).1 hm
      exact hm
    · intro hm
      have hname := (hmem m.row).2 (hknown _ hm)
      exact ⟨m.row, hname, (hmarkers _ hname m).2 ⟨rfl, hm⟩⟩
  · rw [← List.flatMap_def]
    refine List.nodup_flatMap.2 ⟨hfound, ?_⟩
    refine hnodup.imp_of_mem fun {row row'} hname hname' hne m hm hm' => hne ?_
    rw [← ((hmarkers row hname m).1 hm).1, ((hmarkers row' hname' m).1 hm').1]

theorem namesIn_eq_error {directory : String} {e : AnalysisError}
    (he : namesIn h directory = .error e) :
    e = .inaccessible directory ∧ h.isDirectory directory = true ∧
      ∃ fault, h.list directory = .error fault := by
  rw [namesIn, Host.namesIn] at he
  split at he
  · rename_i hdirectory
    cases hlist : h.list directory with
    | ok names =>
      rw [hlist] at he
      cases he
    | error fault =>
      rw [hlist] at he
      cases he
      exact ⟨rfl, hdirectory, fault, rfl⟩
  · cases he

/-- **A scan fails only where a directory is there and cannot be read**, and it says which. -/
theorem scan_eq_error {e : AnalysisError} (he : scan h root = .error e) :
    ∃ directory, e = .inaccessible directory ∧ h.isDirectory directory = true ∧
      ∃ fault, h.list directory = .error fault := by
  rw [scan] at he
  rcases bind_eq_error_iff.1 he with hnames | ⟨names, -, he⟩
  · exact ⟨_, namesIn_eq_error hnames⟩
  · rcases bind_eq_error_iff.1 he with hmarkers | ⟨markers, -, ⟨⟩⟩
    obtain ⟨row, -, hrow⟩ := exists_of_mapM_error hmarkers
    rw [scanRow] at hrow
    cases hread : namesIn h (Path.join (Path.join root Layout.errorsDirectory) row) with
    | ok texts =>
      rw [hread] at hrow
      cases hrow
    | error e' =>
      rw [hread] at hrow
      cases hrow
      exact ⟨_, namesIn_eq_error hread⟩

end FailureMarker

/-! ## Reports -/

/-- A tree starts with the module. -/
theorem Pipeline.head?_failureLines {p : Pipeline} (row : Row) {m : Block}
    (hblock : p.block? m.id = some m) (hmodule : m.isModule = true) :
    (p.failureLines row [] 0 m.id).head? = some ⟨0, .module m.label⟩ := by
  obtain ⟨definition, inputs, outputs, hkind⟩ := Block.exists_kind_of_isModule hmodule
  have hnode : failureNode? row m = some (.module m.label) := by
    rw [failureNode?, hkind, Block.label, hkind]
  unfold failureLines
  split
  · rename_i hnone
    rw [hblock] at hnone
    cases hnone
  · rename_i b hb
    obtain rfl := Option.some.inj (hblock.symm.trans hb)
    rw [dif_neg List.not_mem_nil, hnode]
    rfl

theorem FailureEntry.Answers.head?_lines {p : Pipeline} (hp : p.Consistent) {table : Table}
    {marker : FailureMarker} {entry : FailureEntry} (h : entry.Answers p table marker) :
    entry.lines.head? = some ⟨0, .module entry.module⟩ := by
  obtain ⟨m, row, hm, -, hmodule, -, hname, hlines⟩ := h.tree
  rw [hlines, hname]
  exact Pipeline.head?_failureLines row (Pipeline.block?_of_mem hp.nodup_ids hm) hmodule

namespace Pipeline

/-- The rules of a script are for rows of the table and modules of the pipeline. -/
theorem Consistent.names_of_mem_tasks {p : Pipeline} (hp : p.Consistent) (ht : p.toolbox.Built)
    {table : Table} (htable : table.Sound) {options : ScriptOptions} {directory outputRoot : String}
    {s : BuildScript} (hs : compile options p table directory outputRoot = .ok s)
    {task : String × BlockId} (htask : task ∈ Rule.tasks s.rules) :
    FailureMarker.Names ⟨task.1, task.2⟩ p table := by
  obtain ⟨d, hd, hrules, -⟩ := Compilation.compile_eq_ok hs
  have h := Compilation.gathered_draft (c := ⟨p, table⟩) hp ht htable hd
  rw [hrules] at htask
  obtain ⟨rule, hrule, heq⟩ := Rule.mem_tasks.1 htask
  obtain ⟨row, hrow, hname, -⟩ := h.runs rule hrule task heq
  obtain ⟨turn, target, -, -, ⟨m, hm, hmodule⟩, -⟩ := (h.mem_tasks task.1 task.2).1 htask
  obtain ⟨hmem, hid⟩ := mem_blocks_of_block? hm
  exact ⟨⟨m, hmem, hid, hmodule⟩, row, hrow, hname⟩

/-- **Modules that run have markers that differ.** -/
theorem Consistent.nodup_markers {p : Pipeline} (hp : p.Consistent) (ht : p.toolbox.Built)
    {table : Table} (htable : table.Sound) {options : ScriptOptions} {directory outputRoot : String}
    {s : BuildScript} (hs : compile options p table directory outputRoot = .ok s)
    (errors : String) :
    ((Rule.tasks s.rules).map fun task =>
      Layout.underErrors errors ("$(ERRORS)" ++ task.1 ++ "/" ++ task.2.text)).Nodup := by
  obtain ⟨d, hd, hrules, -⟩ := Compilation.compile_eq_ok hs
  have h := Compilation.gathered_draft (c := ⟨p, table⟩) hp ht htable hd
  have hplain : ∀ task ∈ Rule.tasks s.rules, Text.isPlainName task.1 = true := by
    intro task htask
    obtain ⟨-, row, hrow, hname⟩ := hp.names_of_mem_tasks ht htable hs htask
    rw [← show row.id = task.1 from hname]
    exact htable.isPlainName hrow
  refine (hrules ▸ h.nodup_tasks).map_on fun task htask task' htask' heq => ?_
  obtain ⟨hrow, hblock⟩ :=
    Layout.underErrors_marker_inj errors (hplain task htask) (hplain task' htask') heq
  exact Prod.ext hrow hblock

/-- **The markers of failed modules are read back.**  Every rule that runs a module makes a marker
if the command fails, no two of them the same.  If `errors` holds the directories of the rows and
the markers of some of these rules and nothing else, the scan finds exactly these, each once, by row
and then by number, and the report has a tree for each of them, which starts with the module.  Only
numbers of one word can be read at all. -/
theorem Reachable.markers_read_back {t : Toolbox} (ht : t.Built) {p : Pipeline}
    (hp : Reachable t p) (hlt : ∀ b ∈ p.blocks, b.id.number < Text.word64Limit) {delimiter : Char}
    {text : String} {table : Table} (htable : Table.parseWith delimiter text = .ok table)
    {options : ScriptOptions} {directory outputRoot : String} {s : BuildScript}
    (hs : compile options p table directory outputRoot = .ok s) :
    s.Marks ∧
      ((Rule.tasks s.rules).map fun task =>
        "$(ERRORS)" ++ task.1 ++ "/" ++ task.2.text).Nodup ∧
      (∀ errors, ((Rule.tasks s.rules).map fun task =>
        Layout.underErrors errors ("$(ERRORS)" ++ task.1 ++ "/" ++ task.2.text)).Nodup) ∧
      ∀ failed : Set (String × BlockId), (∀ task ∈ failed, task ∈ Rule.tasks s.rules) →
        ∀ (h : Host) (root : String), h.HoldsBelow (Path.join root "errors")
          (Layout.errorPaths (Path.join root "errors") s.rows failed) →
        ∃ markers report, FailureMarker.scan h root = .ok markers ∧
          FailureReport.ofOutputRoot p table h root = .ok report ∧
          (∀ m : FailureMarker, m ∈ markers ↔ (m.row, m.block) ∈ failed) ∧
          markers.Pairwise FailureMarker.Before ∧
          List.Forall₂ (fun m entry => entry.Answers p table m ∧
              entry.lines.head? = some ⟨0, .module entry.module⟩) markers report.entries := by
  obtain ⟨hc, rfl⟩ := hp.consistent
  have hrows := Table.Sound.of_parseWith htable
  have hids := Compilation.rows_of_compile hs
  have hnames : ∀ task ∈ Rule.tasks s.rules, FailureMarker.Names ⟨task.1, task.2⟩ p table :=
    fun _ => hc.names_of_mem_tasks ht hrows hs
  have hplain : ∀ row ∈ s.rows, Text.isPlainName row = true := by
    rw [hids]
    exact List.forall_mem_map.2 fun row hrow => hrows.isPlainName hrow
  have hmem : ∀ task ∈ Rule.tasks s.rules, task.1 ∈ s.rows := by
    intro task htask
    obtain ⟨-, row, hrow, hname⟩ := hnames task htask
    rw [hids]
    exact List.mem_map.2 ⟨row, hrow, hname⟩
  have hapart := hc.nodup_markers ht hrows hs
  refine ⟨s.marks, ?_, hapart, fun failed hfailed h root hbelow => ?_⟩
  · refine List.Nodup.of_map (Layout.underErrors "") ?_
    rw [List.map_map]
    exact hapart ""
  · have hknown : ∀ task ∈ failed, task.1 ∈ s.rows ∧ task.2.number < Text.word64Limit := by
      intro task htask
      obtain ⟨⟨m, hm, hid, -⟩, -⟩ := hnames task (hfailed task htask)
      rw [show task.2 = m.id from hid.symm]
      exact ⟨hmem task (hfailed task htask), hlt m hm⟩
    obtain ⟨markers, hscan, hmarkers, hsorted⟩ :=
      FailureMarker.scan_spec hplain hknown h root hbelow
    refine ⟨markers, .build p table markers, hscan, ?_, hmarkers, hsorted, ?_⟩
    · rw [FailureReport.ofOutputRoot, hscan]
      rfl
    · have hanswers : List.Forall₂ (FailureEntry.Answers p table) _ _ :=
        FailureReport.build_answers hc markers
      rw [List.filter_eq_self.2 fun m hm => decide_eq_true
        (hnames _ (hfailed _ ((hmarkers m).1 hm)))] at hanswers
      exact hanswers.imp fun m entry hentry => ⟨hentry, hentry.head?_lines hc⟩

end Pipeline

/-! ## A specimen -/

namespace Specimen

/-- A directory of a tree, with the number of the one that it is in. -/
def folder (parent : Nat) (entries : List (String × Nat)) : FileNode :=
  ⟨.directory parent entries, FileTree.directoryMode, FileTree.startTime⟩

/-- A host where both modules failed for the first row. -/
def failing : Host :=
  ⟨⟨.ofTree ⟨#[folder 0 [("w", 1)], folder 0 [("out", 2)], folder 1 [("errors", 3)],
    folder 2 [("b", 4), ("a", 5)], folder 3 [], folder 3 [("3", 6), ("2", 7)], folder 5 [],
    folder 5 []], FileTree.startTime⟩, []⟩, 1, "/w", [], ⟨[], fun _ next => next 0⟩, []⟩

/-- The rows and the modules that failed there. -/
def failed : Set (String × BlockId) := {("a", ⟨3⟩), ("a", ⟨2⟩)}

/-- Where the directories below `errors` are found. -/
def failingNodes : List (String × Nat) :=
  [("out/errors", 3), ("out/errors/b", 4), ("out/errors/a", 5), ("out/errors/a/3", 6),
    ("out/errors/a/2", 7)]

theorem find_failing :
    ∀ found ∈ failingNodes, failing.tree.find failing.directory found.1 true = .ok found.2 := by
  have hsizes : ∀ name ∈ ["out", "errors", "a", "b", "2", "3"], ¬255 < name.utf8ByteSize := by
    decide
  have hpaths : ∀ found ∈ failingNodes, ¬4095 < found.1.utf8ByteSize := by decide
  have hparts : failingNodes.map (Path.parts ·.1) = [["out", "errors"], ["out", "errors", "b"],
      ["out", "errors", "a"], ["out", "errors", "a", "3"], ["out", "errors", "a", "2"]] := by
    decide
  simp only [failingNodes, List.map_cons, List.map_nil, List.cons.injEq, List.forall_mem_cons] at *
  simp [FileTree.find, FileTree.locate, FileTree.walk, FileTree.longestPath, FileTree.longestName,
    FileTree.entries?, FileTree.kind?, failing, folder, Host.tree, Kernel.ofTree, List.lookup_cons,
    Path.isAbsolute, Path.endsInSlash, hsizes, hpaths, hparts]
  decide

theorem holdsBelow_failing :
    failing.HoldsBelow "out/errors" (Layout.errorPaths "out/errors" ["a", "b"] failed) := by
  have hfailed : ∀ task ∈ failed, task.1 ∈ ["a", "b"] := by simp [failed]
  refine (Host.holdsBelow_errorPaths_iff (by decide) hfailed).2 ⟨?_, ?_, ?_⟩
  · refine Host.lists_of_entries (find_failing ("out/errors", 3) (by decide)) rfl
      List.not_mem_nil (by decide) ?_
    simp [or_comm]
  · rw [List.forall_mem_cons, List.forall_mem_singleton]
    refine ⟨Host.lists_of_entries (find_failing ("out/errors/a", 5) (by decide)) rfl
      List.not_mem_nil (by decide) ?_,
      Host.lists_of_entries (find_failing ("out/errors/b", 4) (by decide)) rfl
        List.not_mem_nil (by decide) ?_⟩
    · have htwo : BlockId.text ⟨2⟩ = "2" := by decide
      have hthree : BlockId.text ⟨3⟩ = "3" := by decide
      simp [failed, or_and_right, exists_or, htwo, hthree]
    · simp [failed]
  · rintro task (rfl | rfl)
    · exact Host.lists_of_entries (find_failing ("out/errors/a/3", 6) (by decide)) rfl
        List.not_mem_nil (by decide) (by simp)
    · exact Host.lists_of_entries (find_failing ("out/errors/a/2", 7) (by decide)) rfl
        List.not_mem_nil (by decide) (by simp)

theorem tasks_branched :
    (compile .standard branched table "/w" "out").toOption.map
        (fun s => (s.rows, Rule.tasks s.rules)) =
      some (["a", "b"], [("a", ⟨3⟩), ("a", ⟨2⟩), ("b", ⟨3⟩), ("b", ⟨2⟩)]) := by
  rw [compile, Compilation.draft, addRow_branched]
  decide +kernel

end Specimen

/-- Two modules failed for a row, and nothing did for the other one. -/
theorem Pipeline.markers_read_back_failing :
    Specimen.toolbox.Built ∧ Reachable Specimen.toolbox Specimen.branched ∧
      (∀ b ∈ Specimen.branched.blocks, b.id.number < Text.word64Limit) ∧
      Table.parseWith '|' Specimen.sheet = .ok Specimen.table ∧
      ∃ s, compile .standard Specimen.branched Specimen.table "/w" "out" = .ok s ∧
        (∀ task ∈ Specimen.failed, task ∈ Rule.tasks s.rules) ∧
        Specimen.failing.HoldsBelow (Path.join "out" "errors")
          (Layout.errorPaths (Path.join "out" "errors") s.rows Specimen.failed) ∧
        FailureMarker.scan Specimen.failing "out" = .ok [⟨"a", ⟨2⟩⟩, ⟨"a", ⟨3⟩⟩] := by
  have hlt : ∀ b ∈ Specimen.branched.blocks, b.id.number < Text.word64Limit := by decide
  have htasks := Specimen.tasks_branched
  cases hs : compile .standard Specimen.branched Specimen.table "/w" "out" with
  | error e =>
    rw [hs] at htasks
    cases htasks
  | ok s =>
    rw [hs] at htasks
    obtain ⟨hrows, hrules⟩ := Prod.mk.inj (Option.some.inj htasks)
    have hknown : ∀ task ∈ Specimen.failed, task ∈ Rule.tasks s.rules := by
      rw [hrules]
      simp [Specimen.failed]
    have hpath : Path.join "out" "errors" = "out/errors" := by decide
    have hbelow : Specimen.failing.HoldsBelow (Path.join "out" "errors")
        (Layout.errorPaths (Path.join "out" "errors") s.rows Specimen.failed) := by
      rw [hpath, show s.rows = ["a", "b"] from hrows]
      exact Specimen.holdsBelow_failing
    obtain ⟨-, -, -, hread⟩ := Reachable.markers_read_back Specimen.toolbox_built
      Specimen.reachable_branched hlt Specimen.parseWith_sheet hs
    obtain ⟨markers, report, hscan, -, hmem, hsorted, -⟩ :=
      hread Specimen.failed hknown Specimen.failing "out" hbelow
    refine ⟨Specimen.toolbox_built, Specimen.reachable_branched, hlt, Specimen.parseWith_sheet, s,
      rfl, hknown, hbelow, ?_⟩
    rw [hscan]
    refine congrArg _ (FailureMarker.eq_of_pairwise hsorted (by simp [FailureMarker.Before])
      fun m => ?_)
    obtain ⟨row, block⟩ := m
    rw [hmem]
    simp [Specimen.failed, or_comm]

end Flowscript
