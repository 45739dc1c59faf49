import Mathlib.Data.List.Forall2
import Mathlib.Data.List.Nodup
import Mathlib.Data.List.Duplicate
import Flowscript.Proofs.Words
import Flowscript.Table.Basic

/-!
# Tables that are read

A table only comes about by reading a text.  The lines that hold something count, and the first of
them names the columns.  Reading refuses a line that does not fit behind the lines above it, and of
a table without such a line nothing is lost.

* `Table.WellWritten` is what the lines of a table satisfy, and `Table.Holds` says that a table has
  what they say.
* `Table.Refused` tells which error a text deserves: `Table.Offence` is about a single line.
* `Table.parseRow_cases` is about one line, and `Table.parseRows_cases` about the loop over lines.
* `Table.parseWith_exact` puts this together.
* `Table.Sound` is what the rest of the library needs to know, and `Table.Sound.of_parseWith` that
  reading makes sure of it.
-/

set_option autoImplicit false

namespace Flowscript

namespace Table

/-! ## What a table is to be -/

/-- The lines of a text that are not blank. -/
def inked (lines : List (List Char)) : List (List Char) :=
  lines.filter fun line => !Text.isAllBlank line

/-- The cell of a line under the column of ids. -/
def idCell? (delimiter : Char) (headers : List String) (line : List Char) : Option String :=
  (cellsOf delimiter line)[headers.idxOf idColumn]?

/-- Row ids are written in ASCII letters, digits, `_`, `.` and `-`, and stand for a name below the
directory that they are put in. -/
structure IsRowId (id : String) : Prop where
  ne_empty : id ≠ ""
  chars : ∀ c ∈ id.toList, c.isAlphanum = true ∨ c = '_' ∨ c = '.' ∨ c = '-'
  ne_here : id ≠ "."
  ne_above : id ≠ ".."

/-- What the header of a table and the lines below it satisfy. -/
structure WellWritten (delimiter : Char) (header : List Char) (body : List (List Char)) : Prop where
  /-- Columns have names of their own. -/
  distinct : (cellsOf delimiter header).Nodup
  /-- One of them is for ids. -/
  keyed : idColumn ∈ cellsOf delimiter header
  /-- A line has a cell for each column. -/
  complete : ∀ line ∈ body, (cellsOf delimiter line).length = (cellsOf delimiter header).length
  /-- The cell for the id holds one. -/
  named : ∀ line ∈ body,
    ∃ id, idCell? delimiter (cellsOf delimiter header) line = some id ∧ IsRowId id
  /-- Lines have ids of their own. -/
  apart : (body.map (idCell? delimiter (cellsOf delimiter header))).Nodup

/-- A row has the cells of a line under the columns in order, and nothing else. -/
structure HoldsLine (delimiter : Char) (headers : List String) (line : List Char) (row : Row) :
    Prop where
  columns : row.cells.map (·.1) = headers
  cell : ∀ (i : Nat) column, headers[i]? = some column →
    ∃ cell, (cellsOf delimiter line)[i]? = some cell ∧ row.get? column = some cell

/-- A table has the columns of a header and one row for each line below it. -/
structure Holds (delimiter : Char) (header : List Char) (body : List (List Char)) (t : Table) :
    Prop where
  headers : t.headers = cellsOf delimiter header
  rows : List.Forall₂ (HoldsLine delimiter t.headers) body t.rows

/-! ## What is reported -/

/-- What there is to report of a line behind others with known ids. -/
inductive Offence (delimiter : Char) (headers ids : List String) (number : Nat) (line : List Char) :
    TableError → Prop
  | ragged (h : (cellsOf delimiter line).length ≠ headers.length) :
    Offence delimiter headers ids number line
      (.raggedRow number headers.length (cellsOf delimiter line).length)
  | unnamed {id : String} {fault : RowIdFault} (hid : idCell? delimiter headers line = some id)
      (h : ¬IsRowId id) (hfault : rowIdFault? id = some fault) :
    Offence delimiter headers ids number line (.invalidRowId number id fault)
  | repeated {id : String} (hid : idCell? delimiter headers line = some id) (h : id ∈ ids) :
    Offence delimiter headers ids number line (.duplicateRowId id)

/-- Why a text is no table: it is blank, its header is not one, or the lines above some line make up
a table and those up to this line do not. -/
inductive Refused (delimiter : Char) (lines : List (List Char)) : TableError → Prop
  | blank (h : inked lines = []) : Refused delimiter lines .empty
  | repeated {header : List Char} {body : List (List Char)} {before after : List String}
      {name : String} (h : inked lines = header :: body)
      (hcells : cellsOf delimiter header = before ++ name :: after) (hfirst : before.Nodup)
      (hagain : name ∈ before) : Refused delimiter lines (.duplicateHeader name)
  | keyless {header : List Char} {body : List (List Char)} (h : inked lines = header :: body)
      (hfirst : (cellsOf delimiter header).Nodup) (hkey : idColumn ∉ cellsOf delimiter header) :
    Refused delimiter lines .missingIdColumn
  | line {above below before : List (List Char)} {header line : List Char} {e : TableError}
      (h : lines = above ++ line :: below) (hinked : Text.isAllBlank line = false)
      (habove : inked above = header :: before)
      (hbefore : WellWritten delimiter header before)
      (hline : ¬WellWritten delimiter header (before ++ [line]))
      (hreport : Offence delimiter (cellsOf delimiter header)
        (before.filterMap (idCell? delimiter (cellsOf delimiter header))) (above.length + 1)
        line e) :
    Refused delimiter lines e

/-! ## Lines and their numbers -/

/-- The lines that are not blank, with numbers that count on. -/
def numberFrom (n : Nat) (lines : List (List Char)) : List (Nat × List Char) :=
  (lines.zipIdx n).filterMap fun (line, n) => if Text.isAllBlank line then none else some (n, line)

theorem numberedLines_eq (text : String) :
    numberedLines text = numberFrom 1 (Text.lines text.toList) :=
  rfl

theorem numberFrom_cons (n : Nat) (line : List Char) (rest : List (List Char)) :
    numberFrom n (line :: rest) =
      if Text.isAllBlank line then numberFrom (n + 1) rest
      else (n, line) :: numberFrom (n + 1) rest := by
  cases h : Text.isAllBlank line <;> simp [numberFrom, h]

theorem inked_cons (line : List Char) (rest : List (List Char)) :
    inked (line :: rest) = if Text.isAllBlank line then inked rest else line :: inked rest := by
  rw [inked, List.filter_cons]
  cases Text.isAllBlank line <;> rfl

theorem map_numberFrom (n : Nat) (lines : List (List Char)) :
    (numberFrom n lines).map (·.2) = inked lines := by
  induction lines generalizing n with
  | nil => rfl
  | cons line rest ih =>
    rw [numberFrom_cons, inked_cons]
    split
    · exact ih (n + 1)
    · rw [List.map_cons, ih]

/-- **A line is numbered by the lines above it**, blank ones included. -/
theorem numberFrom_eq_append_cons {n number : Nat} {lines : List (List Char)} {line : List Char}
    {before after : List (Nat × List Char)}
    (h : numberFrom n lines = before ++ (number, line) :: after) :
    ∃ above below, lines = above ++ line :: below ∧ Text.isAllBlank line = false ∧
      number = n + above.length ∧ inked above = before.map (·.2) := by
  induction lines generalizing n before with
  | nil => simp [numberFrom] at h
  | cons first rest ih =>
    rw [numberFrom_cons] at h
    split at h
    · rename_i hblank
      obtain ⟨above, below, rfl, hline, rfl, habove⟩ := ih h
      refine ⟨first :: above, below, rfl, hline, ?_, ?_⟩
      · rw [List.length_cons, Nat.add_right_comm, Nat.add_assoc]
      · rw [inked_cons, if_pos hblank, habove]
    · rename_i hinked
      cases before with
      | nil =>
        obtain ⟨hfirst, -⟩ := List.cons.inj h
        obtain ⟨rfl, rfl⟩ := Prod.mk.inj hfirst
        exact ⟨[], rest, rfl, by simpa using hinked, rfl, rfl⟩
      | cons other before =>
        obtain ⟨rfl, hrest⟩ := List.cons.inj h
        obtain ⟨above, below, rfl, hline, rfl, habove⟩ := ih hrest
        refine ⟨first :: above, below, rfl, hline, ?_, ?_⟩
        · rw [List.length_cons, Nat.add_right_comm, Nat.add_assoc]
        · rw [inked_cons, if_neg hinked, habove, List.map_cons]

/-! ## Cells -/

theorem IsRowId.isPlainName {id : String} (h : IsRowId id) : Text.isPlainName id = true :=
  Text.isPlainName_iff.2 ⟨h.ne_empty, fun c hc => Text.isNameChar_iff.2 (h.chars c hc)⟩

/-- A row id is a single name in a path. -/
theorem IsRowId.slash_not_mem {id : String} (h : IsRowId id) : '/' ∉ id.toList :=
  fun hslash => absurd (h.chars _ hslash) (by decide)

/-- Reading a row id finds no fault with it exactly if it is one. -/
theorem rowIdFault?_eq_none_iff {id : String} : rowIdFault? id = none ↔ IsRowId id := by
  rw [rowIdFault?]
  constructor
  · intro h
    split at h
    · cases h
    rename_i hne
    split at h
    · cases h
    rename_i hpath
    split at h
    · cases h
    split at h
    · cases h
    rename_i hname
    have hplain : Text.isPlainName id = true := by simpa using hname
    rw [String.isEmpty_iff] at hne
    simp only [Bool.or_eq_true, beq_iff_eq, not_or] at hpath
    exact ⟨hne, fun c hc => Text.isNameChar_iff.1 ((Text.isPlainName_iff.1 hplain).2 c hc),
      hpath.1, hpath.2⟩
  · intro h
    have hseparator : id.toList.any (fun c => c == '/' || c == '\\') = false := by
      rw [List.any_eq_false]
      intro c hc hslash
      simp only [Bool.or_eq_true, beq_iff_eq] at hslash
      rcases hslash with rfl | rfl
      · exact absurd (h.chars _ hc) (by decide)
      · exact absurd (h.chars _ hc) (by decide)
    rw [if_neg (by rw [String.isEmpty_iff]; exact h.ne_empty),
      if_neg (by simp [h.ne_here, h.ne_above]), hseparator, h.isPlainName]
    rfl

/-- The row that a line stands for. -/
def rowOf (delimiter : Char) (headers : List String) (line : List Char) : Row :=
  ⟨headers.zip (cellsOf delimiter line)⟩

theorem lookup_zip {headers cells : List String} (h : cells.length = headers.length)
    (column : String) : (headers.zip cells).lookup column = cells[headers.idxOf column]? := by
  induction headers generalizing cells with
  | nil =>
    rw [List.length_nil, List.length_eq_zero_iff] at h
    rw [h]
    rfl
  | cons header rest ih =>
    cases cells with
    | nil => cases h
    | cons cell cells =>
      rw [List.zip_cons_cons, List.lookup_cons, List.idxOf_cons]
      by_cases heq : column = header
      · simp [heq]
      · have hne : (header == column) = false := by simpa using Ne.symm heq
        have hne' : (column == header) = false := by simpa using heq
        rw [hne, hne', cond_false]
        exact ih (Nat.succ.inj h)

section Row

variable {delimiter : Char} {headers : List String} {line : List Char}

/-- A cell is looked up at the place of its column. -/
theorem get?_rowOf (h : (cellsOf delimiter line).length = headers.length) (column : String) :
    (rowOf delimiter headers line).get? column =
      (cellsOf delimiter line)[headers.idxOf column]? :=
  lookup_zip h column

/-- The id of a row is the cell under its column. -/
theorem idCell?_eq_some (h : (cellsOf delimiter line).length = headers.length)
    (hkey : idColumn ∈ headers) :
    idCell? delimiter headers line = some (rowOf delimiter headers line).id := by
  have hlt : headers.idxOf idColumn < (cellsOf delimiter line).length :=
    h ▸ List.idxOf_lt_length_of_mem hkey
  rw [Row.id, get?_rowOf h, idCell?, List.getElem?_eq_getElem hlt]
  rfl

theorem holdsLine_rowOf (h : (cellsOf delimiter line).length = headers.length)
    (hn : headers.Nodup) : HoldsLine delimiter headers line (rowOf delimiter headers line) where
  columns := by
    rw [rowOf, List.map_fst_zip]
    exact Nat.le_of_eq h.symm
  cell := by
    intro i column hi
    obtain ⟨hlt, rfl⟩ := List.getElem?_eq_some_iff.1 hi
    have hlt' : i < (cellsOf delimiter line).length := h ▸ hlt
    refine ⟨(cellsOf delimiter line)[i], List.getElem?_eq_getElem hlt', ?_⟩
    rw [get?_rowOf h, hn.idxOf_getElem, List.getElem?_eq_getElem]

theorem isSome_get?_rowOf (h : (cellsOf delimiter line).length = headers.length)
    (column : String) :
    ((rowOf delimiter headers line).get? column).isSome = true ↔ column ∈ headers := by
  rw [get?_rowOf h, isSome_getElem?, h, List.idxOf_lt_length_iff]

end Row

/-! ## The loop over lines -/

section Rows

variable {delimiter : Char} {headers ids : List String} {number : Nat} {line : List Char}

/-- What a line satisfies behind others with known ids. -/
structure Fits (delimiter : Char) (headers ids : List String) (line : List Char) : Prop where
  complete : (cellsOf delimiter line).length = headers.length
  named : IsRowId (rowOf delimiter headers line).id
  new : (rowOf delimiter headers line).id ∉ ids

/-- **A line is read or there is something to report of it.** -/
theorem parseRow_cases (hkey : idColumn ∈ headers) (ids : List String) (number : Nat)
    (line : List Char) :
    (Fits delimiter headers ids line ∧
        parseRow delimiter headers ids number line = .ok (rowOf delimiter headers line)) ∨
      ∃ e, Offence delimiter headers ids number line e ∧
        parseRow delimiter headers ids number line = .error e := by
  rw [parseRow, ← rowOf]
  by_cases hlength : (cellsOf delimiter line).length = headers.length
  · have hcell := idCell?_eq_some hlength hkey
    simp only [hlength, bne_self_eq_false, Bool.false_eq_true, if_false]
    cases hfault : rowIdFault? (rowOf delimiter headers line).id with
    | some fault =>
      have hid : ¬IsRowId (rowOf delimiter headers line).id := by
        rw [← rowIdFault?_eq_none_iff, hfault]
        exact nofun
      exact .inr ⟨_, .unnamed hcell hid hfault, rfl⟩
    | none =>
      by_cases hid : (rowOf delimiter headers line).id ∈ ids
      · exact .inr ⟨_, .repeated hcell hid, by simp [hid]⟩
      · exact .inl ⟨⟨hlength, rowIdFault?_eq_none_iff.1 hfault, hid⟩, by simp [hid]⟩
  · exact .inr ⟨_, .ragged hlength, by simp [hlength]⟩

theorem Offence.mono {ids' : List String} {e : TableError}
    (h : Offence delimiter headers ids number line e) (hids : ∀ id ∈ ids, id ∈ ids') :
    Offence delimiter headers ids' number line e := by
  cases h with
  | ragged h => exact .ragged h
  | unnamed hid h hfault => exact .unnamed hid h hfault
  | repeated hid h => exact .repeated hid (hids _ h)

/-- Lines that fit one behind the other. -/
def FitAll (delimiter : Char) (headers : List String) : List String → List (List Char) → Prop
  | _, [] => True
  | ids, line :: rest =>
    Fits delimiter headers ids line ∧
      FitAll delimiter headers ((rowOf delimiter headers line).id :: ids) rest

/-- **Lines are read up to the first of which there is something to report.** -/
theorem parseRows_cases (hkey : idColumn ∈ headers) (lines : List (Nat × List Char)) :
    ∀ ids, (FitAll delimiter headers ids (lines.map (·.2)) ∧
        parseRows delimiter headers ids lines =
          .ok (lines.map fun line => rowOf delimiter headers line.2)) ∨
      ∃ before number line after e, lines = before ++ (number, line) :: after ∧
        FitAll delimiter headers ids (before.map (·.2)) ∧
        Offence delimiter headers
          ((before.map (·.2)).filterMap (idCell? delimiter headers) ++ ids) number line e ∧
        parseRows delimiter headers ids lines = .error e := by
  induction lines with
  | nil => exact fun ids => .inl ⟨trivial, rfl⟩
  | cons first rest ih =>
    intro ids
    obtain ⟨number, line⟩ := first
    rw [parseRows]
    rcases parseRow_cases hkey ids number line with ⟨hfits, hrow⟩ | ⟨e, he, hrow⟩
    · rcases ih ((rowOf delimiter headers line).id :: ids) with
        ⟨hall, hrows⟩ | ⟨before, number', line', after, e, rfl, hall, he, hrows⟩
      · refine .inl ⟨⟨hfits, hall⟩, ?_⟩
        simp only [hrow, hrows, bind, Except.bind, List.map_cons]
      · refine .inr ⟨(number, line) :: before, number', line', after, e, rfl, ⟨hfits, hall⟩, ?_, ?_⟩
        · refine he.mono fun id hid => ?_
          have hcell := idCell?_eq_some hfits.complete hkey
          rw [List.map_cons, List.filterMap_cons_some hcell]
          simp only [List.mem_append, List.mem_cons] at hid ⊢
          tauto
        · simp only [hrow, hrows, bind, Except.bind]
    · refine .inr ⟨[], number, line, rest, e, rfl, trivial, he, ?_⟩
      rw [hrow]
      rfl

/-- Lines fit one behind the other if each fits and they have ids of their own. -/
theorem fitAll_iff {body : List (List Char)} :
    FitAll delimiter headers ids body ↔
      (∀ line ∈ body, Fits delimiter headers ids line) ∧
        (body.map fun line => (rowOf delimiter headers line).id).Nodup := by
  induction body generalizing ids with
  | nil => simp [FitAll]
  | cons first rest ih =>
    have hfits : ∀ line, Fits delimiter headers ((rowOf delimiter headers first).id :: ids) line ↔
        Fits delimiter headers ids line ∧
          (rowOf delimiter headers line).id ≠ (rowOf delimiter headers first).id := by
      intro line
      constructor
      · rintro ⟨hcomplete, hnamed, hnew⟩
        exact ⟨⟨hcomplete, hnamed, fun h => hnew (List.mem_cons_of_mem _ h)⟩,
          fun h => hnew (h ▸ List.mem_cons_self)⟩
      · rintro ⟨⟨hcomplete, hnamed, hnew⟩, hne⟩
        exact ⟨hcomplete, hnamed, fun h => (List.mem_cons.1 h).elim hne hnew⟩
    simp only [FitAll, ih, hfits, List.forall_mem_cons, List.map_cons, List.nodup_cons,
      List.mem_map, not_exists, not_and]
    exact ⟨fun ⟨h, hrest, hn⟩ => ⟨⟨h, fun l hl => (hrest l hl).1⟩, fun l hl => (hrest l hl).2, hn⟩,
      fun ⟨⟨h, hrest⟩, hne, hn⟩ => ⟨h, fun l hl => ⟨hrest l hl, hne l hl⟩, hn⟩⟩

end Rows

/-! ## Whole texts -/

section Text

variable {delimiter : Char} {header : List Char} {body : List (List Char)}

/-- Reading the lines below a header goes through exactly if they are in order. -/
theorem wellWritten_iff (hn : (cellsOf delimiter header).Nodup)
    (hkey : idColumn ∈ cellsOf delimiter header) :
    WellWritten delimiter header body ↔ FitAll delimiter (cellsOf delimiter header) [] body := by
  rw [fitAll_iff]
  have hcell : ∀ {line}, (cellsOf delimiter line).length = (cellsOf delimiter header).length →
      idCell? delimiter (cellsOf delimiter header) line =
        some (rowOf delimiter (cellsOf delimiter header) line).id :=
    fun h => idCell?_eq_some h hkey
  have hids : (∀ line ∈ body, (cellsOf delimiter line).length = (cellsOf delimiter header).length) →
      body.map (idCell? delimiter (cellsOf delimiter header)) =
        (body.map fun line => (rowOf delimiter (cellsOf delimiter header) line).id).map some := by
    intro hcomplete
    rw [List.map_map]
    exact List.map_congr_left fun line hline => hcell (hcomplete line hline)
  constructor
  · rintro ⟨-, -, hcomplete, hnamed, hapart⟩
    rw [hids hcomplete] at hapart
    refine ⟨fun line hline => ⟨hcomplete line hline, ?_, List.not_mem_nil⟩, hapart.of_map some⟩
    obtain ⟨id, hid, hok⟩ := hnamed line hline
    rw [hcell (hcomplete line hline)] at hid
    exact Option.some.inj hid ▸ hok
  · rintro ⟨hfits, hapart⟩
    have hcomplete := fun line hline => (hfits line hline).complete
    refine ⟨hn, hkey, hcomplete, fun line hline => ?_, ?_⟩
    · exact ⟨_, hcell (hcomplete line hline), (hfits line hline).named⟩
    · rw [hids hcomplete]
      exact hapart.map fun _ _ h => Option.some.inj h

theorem WellWritten.left {more : List (List Char)}
    (h : WellWritten delimiter header (body ++ more)) : WellWritten delimiter header body where
  distinct := h.distinct
  keyed := h.keyed
  complete line hline := h.complete line (List.mem_append_left _ hline)
  named line hline := h.named line (List.mem_append_left _ hline)
  apart := by
    have hapart := h.apart
    rw [List.map_append] at hapart
    exact hapart.of_append_left

/-- A line of which there is something to report does not go with those above it. -/
theorem Offence.not_wellWritten {number : Nat} {line : List Char} {e : TableError}
    (h : Offence delimiter (cellsOf delimiter header)
      (body.filterMap (idCell? delimiter (cellsOf delimiter header))) number line e) :
    ¬WellWritten delimiter header (body ++ [line]) := by
  intro hwell
  have hmem : line ∈ body ++ [line] := List.mem_append_right _ List.mem_cons_self
  cases h with
  | ragged hlength => exact hlength (hwell.complete line hmem)
  | unnamed hid hbad =>
    obtain ⟨id, hid', hok⟩ := hwell.named line hmem
    rw [hid] at hid'
    exact hbad (Option.some.inj hid' ▸ hok)
  | repeated hid hagain =>
    obtain ⟨earlier, hearlier, heq⟩ := List.mem_filterMap.1 hagain
    have hapart := hwell.apart
    rw [List.map_append, List.nodup_append] at hapart
    exact hapart.2.2 _ (List.mem_map_of_mem hearlier) _ List.mem_cons_self (heq.trans hid.symm)

/-- The first name that comes again is looked for from left to right. -/
theorem repeated?_cases (names : List String) : ∀ passed : List String,
    (repeated? passed names = none ∧ names.Nodup ∧ ∀ name ∈ names, name ∉ passed) ∨
      ∃ before name after, names = before ++ name :: after ∧ before.Nodup ∧
        (∀ other ∈ before, other ∉ passed) ∧ (name ∈ before ∨ name ∈ passed) ∧
        repeated? passed names = some name := by
  induction names with
  | nil => exact fun passed => .inl ⟨rfl, List.nodup_nil, by simp⟩
  | cons first rest ih =>
    intro passed
    by_cases hfirst : first ∈ passed
    · refine .inr ⟨[], first, rest, rfl, List.nodup_nil, by simp, .inr hfirst, ?_⟩
      simp [repeated?, hfirst]
    · have hstep : repeated? passed (first :: rest) = repeated? (first :: passed) rest := by
        simp [repeated?, hfirst]
      rw [hstep]
      rcases ih (first :: passed) with
        ⟨hnone, hn, hnew⟩ | ⟨before, name, after, rfl, hn, hnew, hagain, hsome⟩
      · refine .inl ⟨hnone, ?_, ?_⟩
        · exact List.nodup_cons.2 ⟨fun hmem => hnew first hmem List.mem_cons_self, hn⟩
        · exact List.forall_mem_cons.2
            ⟨hfirst, fun name hname hmem => hnew name hname (List.mem_cons_of_mem _ hmem)⟩
      · refine .inr ⟨first :: before, name, after, rfl, ?_, ?_, ?_, hsome⟩
        · exact List.nodup_cons.2 ⟨fun hmem => hnew first hmem List.mem_cons_self, hn⟩
        · exact List.forall_mem_cons.2
            ⟨hfirst, fun other hother hmem => hnew other hother (List.mem_cons_of_mem _ hmem)⟩
        · rcases hagain with hbefore | hpassed
          · exact .inl (List.mem_cons_of_mem _ hbefore)
          · refine (List.mem_cons.1 hpassed).imp_left ?_
            rintro rfl
            exact List.mem_cons_self

/-- **A text is a table or it is refused for a reason.** -/
theorem parseWith_cases (delimiter : Char) (text : String) :
    (∃ header body, inked (Text.lines text.toList) = header :: body ∧
        WellWritten delimiter header body ∧
        parseWith delimiter text = .ok ⟨cellsOf delimiter header,
          body.map (rowOf delimiter (cellsOf delimiter header))⟩) ∨
      ∃ e, Refused delimiter (Text.lines text.toList) e ∧ parseWith delimiter text = .error e := by
  have hinked := map_numberFrom 1 (Text.lines text.toList)
  rw [parseWith]
  cases hlines : numberedLines text with
  | nil =>
    rw [← numberedLines_eq, hlines] at hinked
    exact .inr ⟨_, .blank hinked.symm, rfl⟩
  | cons first rest =>
    obtain ⟨number, header⟩ := first
    rw [← numberedLines_eq, hlines, List.map_cons] at hinked
    simp only
    rcases repeated?_cases (cellsOf delimiter header) [] with
      ⟨hnone, hn, -⟩ | ⟨before, name, after, hcells, hn, -, hagain, hsome⟩
    · simp only [hnone]
      by_cases hkey : idColumn ∈ cellsOf delimiter header
      · simp only [List.contains_iff_mem.2 hkey, Bool.not_true, Bool.false_eq_true, if_false]
        rcases parseRows_cases hkey rest [] with
          ⟨hall, hrows⟩ | ⟨before, number', line, after, e, rfl, hall, he, hrows⟩
        · refine .inl ⟨header, _, hinked.symm, (wellWritten_iff hn hkey).2 hall, ?_⟩
          simp only [hrows, bind, Except.bind, List.map_map]
          rfl
        · refine .inr ⟨e, ?_, by simp only [hrows, bind, Except.bind]⟩
          rw [numberedLines_eq] at hlines
          obtain ⟨above, below, htext, hline, rfl, habove⟩ :=
            numberFrom_eq_append_cons (hlines.trans (List.cons_append ..).symm)
          rw [List.append_nil, Nat.add_comm] at he
          exact .line htext hline habove ((wellWritten_iff hn hkey).2 hall) he.not_wellWritten he
      · have hcontains : (cellsOf delimiter header).contains idColumn = false := by simpa using hkey
        simp only [hcontains, Bool.not_false, if_true]
        exact .inr ⟨_, .keyless hinked.symm hn hkey, rfl⟩
    · simp only [hsome]
      exact .inr ⟨_, .repeated hinked.symm hcells hn (hagain.resolve_right List.not_mem_nil), rfl⟩

end Text

/-! ## What the library relies on -/

/-- The rows have ids of their own, and nothing is wrong with any of these. -/
structure Sound (t : Table) : Prop where
  nodup_ids : (t.rows.map (·.id)).Nodup
  faultless : ∀ row ∈ t.rows, rowIdFault? row.id = none

/-- **A table that was read is sound.** -/
theorem Sound.of_parseWith {delimiter : Char} {text : String} {t : Table}
    (h : parseWith delimiter text = .ok t) : t.Sound := by
  rcases parseWith_cases delimiter text with ⟨header, body, -, hwell, ht⟩ | ⟨e, -, he⟩
  · obtain rfl := Except.ok.inj (h.symm.trans ht)
    obtain ⟨hfits, hapart⟩ := fitAll_iff.1 ((wellWritten_iff hwell.distinct hwell.keyed).1 hwell)
    refine ⟨by rwa [List.map_map], List.forall_mem_map.2 fun line hline => ?_⟩
    exact rowIdFault?_eq_none_iff.2 (hfits line hline).named
  · rw [he] at h
    cases h

/-- **The rows of a table that was read have a cell under each column**, and under no other. -/
theorem isSome_get?_of_parseWith {delimiter : Char} {text : String} {t : Table}
    (h : parseWith delimiter text = .ok t) {row : Row} (hrow : row ∈ t.rows) (column : String) :
    (row.get? column).isSome = true ↔ column ∈ t.headers := by
  rcases parseWith_cases delimiter text with ⟨header, body, -, hwell, ht⟩ | ⟨e, -, he⟩
  · obtain rfl := Except.ok.inj (h.symm.trans ht)
    obtain ⟨line, hline, rfl⟩ := List.mem_map.1 hrow
    exact isSome_get?_rowOf (hwell.complete line hline) column
  · rw [he] at h
    cases h

theorem Sound.eq_of_id {t : Table} (h : t.Sound) {row other : Row} (hrow : row ∈ t.rows)
    (hother : other ∈ t.rows) (hid : row.id = other.id) : row = other :=
  List.inj_on_of_nodup_map h.nodup_ids hrow hother hid

/-- A row is found under its id. -/
theorem Sound.row?_id {t : Table} (h : t.Sound) {row : Row} (hrow : row ∈ t.rows) :
    t.row? row.id = some row := by
  cases hf : t.row? row.id with
  | none =>
    rw [row?, List.find?_eq_none] at hf
    simpa using hf row hrow
  | some other =>
    have hid : other.id = row.id := by simpa using List.find?_some hf
    rw [h.eq_of_id (List.mem_of_find?_eq_some hf) hrow hid]

theorem Sound.isRowId {t : Table} (h : t.Sound) {row : Row} (hrow : row ∈ t.rows) :
    IsRowId row.id :=
  rowIdFault?_eq_none_iff.1 (h.faultless row hrow)

theorem Sound.slash_not_mem {t : Table} (h : t.Sound) {row : Row} (hrow : row ∈ t.rows) :
    '/' ∉ row.id.toList :=
  (h.isRowId hrow).slash_not_mem

/-- A row id is a plain name. -/
theorem Sound.isPlainName {t : Table} (h : t.Sound) {row : Row} (hrow : row ∈ t.rows) :
    Text.isPlainName row.id = true :=
  (h.isRowId hrow).isPlainName

/-! ## Reading and what it comes to -/

section Exact

variable {delimiter : Char} {header : List Char} {body : List (List Char)}

theorem WellWritten.holds (h : WellWritten delimiter header body) :
    Holds delimiter header body
      ⟨cellsOf delimiter header, body.map (rowOf delimiter (cellsOf delimiter header))⟩ where
  headers := rfl
  rows := List.forall₂_map_right_iff.2
    (List.forall₂_same.2 fun line hline => holdsLine_rowOf (h.complete line hline) h.distinct)

theorem Refused.not_wellWritten {lines : List (List Char)} {e : TableError}
    (h : Refused delimiter lines e) (hlines : inked lines = header :: body) :
    ¬WellWritten delimiter header body := by
  intro hwell
  cases h with
  | blank hblank =>
    rw [hblank] at hlines
    cases hlines
  | repeated h hcells _ hagain =>
    obtain ⟨rfl, rfl⟩ := List.cons.inj (h.symm.trans hlines)
    have hdistinct := hwell.distinct
    rw [hcells, List.nodup_append] at hdistinct
    exact hdistinct.2.2 _ hagain _ List.mem_cons_self rfl
  | keyless h _ hkey =>
    obtain ⟨rfl, rfl⟩ := List.cons.inj (h.symm.trans hlines)
    exact hkey hwell.keyed
  | @line above below before _ line _ h hinked habove _ hbad _ =>
    have hsplit : inked lines = inked above ++ line :: inked below := by
      rw [h, inked, List.filter_append, ← inked, ← inked, inked_cons, hinked]
      rfl
    rw [hsplit, habove, List.cons_append] at hlines
    obtain ⟨rfl, rfl⟩ := List.cons.inj hlines
    rw [List.append_cons] at hwell
    exact hbad hwell.left

end Exact

/-- Cells are trimmed, lines may end in a carriage return, and blank lines do not count. -/
example : parseWith ',' "id, x\r\n \r\n7 ,z\n" =
    .ok ⟨["id", "x"], [⟨[("id", "7"), ("x", "z")]⟩]⟩ := by decide

/-- The first line that does not fit is reported, here the fourth one of the text. -/
example : parseWith '|' "id|x\n\n1|a\n2\n1|b\n" = .error (.raggedRow 4 2 1) := by decide

end Table

end Flowscript
