import Flowscript.Module.Template
import Flowscript.Proofs.Marks
import Flowscript.Proofs.Words

/-!
# Commands that are filled

A slot is the name of a port in braces, and it is one wherever it stands: braces around it or next
to it are text.  Slots cannot overlap, and so a command has one reading, into which values are put
at all places at once.

* `CommandTemplate.marking` are slots as marks, and `CommandTemplate.slot?_eq_some_iff` says that a
  slot is found exactly where one is written.
* `CommandTemplate.decomposes_scan` says that the pieces of a command are its reading.
* `CommandTemplate.fill_cases` is about filling: all slots have values, or the first one that has
  none is the error.
* `CommandTemplate.parse_reading` puts this together.
-/

set_option autoImplicit false

namespace Flowscript

/-- The part of a reading that a piece stands for. -/
def Piece.part : Piece → Part String
  | .char c => .char c
  | .slot name => .mark name

namespace CommandTemplate

variable {ports : List String} {name : String} {cs rest : List Char}

/-! ## Slots as marks -/

/-- The text of a slot. -/
def slotText (name : String) : List Char := '\x7b' :: (name.toList ++ ['\x7d'])

/-- The ports that can have a slot: others cannot be told from text in braces. -/
def IsSlot (ports : List String) (name : String) : Prop :=
  name ∈ ports ∧ Text.isPlainName name = true

/-- A name ends at the brace that closes it. -/
theorem span_isNameChar_iff {as : List Char} :
    cs.takeWhile Text.isNameChar = as ∧ cs.dropWhile Text.isNameChar = '\x7d' :: rest ↔
      (∀ c ∈ as, Text.isNameChar c = true) ∧ cs = as ++ '\x7d' :: rest :=
  Text.span_eq_iff (by decide)

theorem placeholder?_eq_some_iff :
    placeholder? cs = some (name, rest) ↔
      Text.isPlainName name = true ∧ cs = name.toList ++ '\x7d' :: rest := by
  rw [Text.isPlainName_iff, Ne, ← String.toList_eq_nil_iff, and_assoc, ← span_isNameChar_iff]
  constructor
  · intro h
    rw [placeholder?] at h
    split at h
    · cases h
    · rename_i hdrop hne
      cases h
      rw [String.toList_ofList]
      exact ⟨hne, rfl, hdrop⟩
    · cases h
  · rintro ⟨hne, htake, hdrop⟩
    rw [placeholder?, htake, hdrop]
    simp only [String.ofList_toList]

/-- **A slot is found exactly where one is written.** -/
theorem slot?_eq_some_iff :
    slot? ports cs = some (name, rest) ↔ IsSlot ports name ∧ cs = slotText name ++ rest := by
  have hcontains : ports.contains name = true ↔ name ∈ ports := List.contains_iff_mem
  have htext : slotText name ++ rest = '\x7b' :: (name.toList ++ '\x7d' :: rest) := by
    simp [slotText]
  rw [htext]
  constructor
  · intro h
    rw [slot?.eq_def] at h
    split at h
    · split at h
      · rename_i hplaceholder
        split at h
        · rename_i hports
          cases h
          obtain ⟨hplain, rfl⟩ := placeholder?_eq_some_iff.1 hplaceholder
          exact ⟨⟨hcontains.1 hports, hplain⟩, rfl⟩
        · cases h
      · cases h
    · cases h
  · rintro ⟨⟨hports, hplain⟩, rfl⟩
    have hplaceholder : placeholder? (name.toList ++ '\x7d' :: rest) = some (name, rest) :=
      placeholder?_eq_some_iff.2 ⟨hplain, rfl⟩
    simp only [slot?, hplaceholder, hcontains.2 hports, if_true]

/-- Behind its first brace a slot holds no other opening one, whatever follows it. -/
theorem inside_eq_nil {name' : String} {inside rest' : List Char} (h : IsSlot ports name)
    (heq : slotText name ++ rest = inside ++ (slotText name' ++ rest'))
    (hlt : inside.length < (slotText name).length) : inside = [] := by
  cases inside with
  | nil => rfl
  | cons c inside =>
    have htail : name.toList ++ ['\x7d'] ++ rest = inside ++ (slotText name' ++ rest') :=
      (List.cons.inj heq).2
    have hlt' : inside.length < (name.toList ++ ['\x7d']).length := Nat.lt_of_succ_lt_succ hlt
    -- the other opening brace would be in the name, or a closing one
    have hopen : (name.toList ++ ['\x7d'])[inside.length]? = some '\x7b' := by
      rw [← List.getElem?_append_left hlt', htail, List.getElem?_append_right le_rfl, Nat.sub_self]
      rfl
    rcases List.mem_append.1 (List.mem_of_getElem? hopen) with hname | hclose
    · exact absurd ((Text.isPlainName_iff.1 h.2).2 _ hname) (by decide)
    · exact absurd (List.mem_singleton.1 hclose) (by decide)

/-- Slots do not overlap: there is no opening brace behind the first one of a slot. -/
def marking (ports : List String) : Marking String where
  write := slotText
  IsMark := IsSlot ports
  find := slot? ports
  find_eq_some_iff := slot?_eq_some_iff
  write_ne_nil _ := List.cons_ne_nil _ _
  inside_eq_nil h _ := inside_eq_nil h

/-! ## Pieces -/

/-- **The pieces of a command are its reading.** -/
theorem decomposes_scan (ports : List String) (cs : List Char) :
    (marking ports).Decomposes ((scan ports cs).map Piece.part) cs := by
  fun_induction scan ports cs with
  | case1 cs name rest h hlt ih => exact .mark h ih
  | case2 h => exact Marking.decomposes_nil
  | case3 c cs h ih => exact .char h ih

/-- The slots of a command are the marks of its reading, in order and with repeats. -/
theorem slots_eq (t : CommandTemplate) :
    t.slots = (t.pieces.map Piece.part).filterMap Part.mark? := by
  rw [slots, List.filterMap_map]
  refine List.filterMap_congr fun piece _ => ?_
  cases piece <;> rfl

theorem mem_slots {t : CommandTemplate} :
    name ∈ t.slots ↔ .mark name ∈ t.pieces.map Piece.part := by
  rw [slots_eq, List.mem_filterMap]
  constructor
  · rintro ⟨part, hpart, hname⟩
    cases part with
    | char c => cases hname
    | mark other =>
      obtain rfl := Option.some.inj hname
      exact hpart
  · exact fun h => ⟨_, h, rfl⟩

/-! ## Filling -/

variable {value : String → Option String}

/-- What is put in place of a slot. -/
def inPlace (value : String → Option String) (name : String) : List Char :=
  ((value name).getD "").toList

theorem fillPiece_cases (value : String → Option String) (piece : Piece) :
    (∀ name, piece.part = .mark name → (value name).isSome = true) ∧
        fillPiece value piece = .ok (Part.fill (inPlace value) [piece.part]) ∨
      ∃ name, piece.part = .mark name ∧ value name = none ∧
        fillPiece value piece = .error (.unresolved name) := by
  cases piece with
  | char c => exact .inl ⟨nofun, rfl⟩
  | slot name =>
    rw [fillPiece, Piece.part]
    cases hvalue : value name with
    | none => exact .inr ⟨name, rfl, hvalue, rfl⟩
    | some text =>
      refine .inl ⟨fun other hother => ?_, by simp [inPlace, hvalue]⟩
      rw [← Part.mark.inj hother, hvalue]
      rfl

/-- Pieces are filled if all slots have values, or else the first one that has none is the error. -/
theorem fillPieces_cases (value : String → Option String) (pieces : List Piece) :
    (∀ name, .mark name ∈ pieces.map Piece.part → (value name).isSome = true) ∧
        fillPieces value pieces = .ok (Part.fill (inPlace value) (pieces.map Piece.part)) ∨
      ∃ front name back, pieces.map Piece.part = front ++ .mark name :: back ∧
        (∀ other, .mark other ∈ front → (value other).isSome = true) ∧ value name = none ∧
        fillPieces value pieces = .error (.unresolved name) := by
  induction pieces with
  | nil => exact .inl ⟨nofun, rfl⟩
  | cons piece rest ih =>
    rw [fillPieces, List.map_cons]
    rcases fillPiece_cases value piece with ⟨hvalued, hpiece⟩ | ⟨name, hname, hnone, hpiece⟩
    · have hcons : ∀ {parts : List (Part String)},
          (∀ name, .mark name ∈ parts → (value name).isSome = true) →
          ∀ name, .mark name ∈ piece.part :: parts → (value name).isSome = true :=
        fun hparts name hmem => (List.mem_cons.1 hmem).elim (hvalued name ∘ Eq.symm) (hparts name)
      rcases ih with ⟨hall, hrest⟩ | ⟨front, name, back, hparts, hfront, hnone, hrest⟩
      · left
        rw [hpiece, hrest, Part.fill_cons piece.part (rest.map Piece.part)]
        exact ⟨hcons hall, rfl⟩
      · right
        rw [hpiece, hrest, hparts]
        exact ⟨piece.part :: front, name, back, rfl, hcons hfront, hnone, rfl⟩
    · right
      rw [hpiece, hname]
      exact ⟨[], name, _, rfl, nofun, hnone, rfl⟩

/-- **A command is filled, or the first slot without a value is the error.** -/
theorem fill_cases (t : CommandTemplate) (value : String → Option String) :
    (∀ name ∈ t.slots, (value name).isSome = true) ∧
        t.fill value = .ok (String.ofList (Part.fill (inPlace value) (t.pieces.map Piece.part))) ∨
      ∃ front name back, t.pieces.map Piece.part = front ++ .mark name :: back ∧
        (∀ other, .mark other ∈ front → (value other).isSome = true) ∧ value name = none ∧
        t.fill value = .error (.unresolved name) := by
  rw [fill]
  rcases fillPieces_cases value t.pieces with
    ⟨hall, hpieces⟩ | ⟨front, name, back, hparts, hfront, hnone, hpieces⟩
  · rw [hpieces]
    exact .inl ⟨fun name hname => hall name (mem_slots.1 hname), rfl⟩
  · rw [hpieces]
    exact .inr ⟨front, name, back, hparts, hfront, hnone, rfl⟩

/-- A command can be filled if there is a value for each of its slots. -/
theorem exists_fill {t : CommandTemplate} (h : ∀ name ∈ t.slots, (value name).isSome = true) :
    ∃ text, t.fill value = .ok text := by
  rcases t.fill_cases value with ⟨-, hfill⟩ | ⟨front, name, back, hparts, -, hnone, -⟩
  · exact ⟨_, hfill⟩
  · have hname := h name (mem_slots.2 (by simp [hparts]))
    rw [hnone] at hname
    cases hname

/-- A command can be filled only if there is a value for each of its slots. -/
theorem isSome_of_fill_eq_ok {t : CommandTemplate} {text : String}
    (h : t.fill value = .ok text) : ∀ name ∈ t.slots, (value name).isSome = true := by
  rcases t.fill_cases value with ⟨hall, -⟩ | ⟨front, name, back, -, -, -, hfill⟩
  · exact hall
  · rw [h] at hfill
    cases hfill

/-! ## Commands -/

/-- Only names of ports make slots. -/
theorem mem_ports_of_mem_slots {source : String} (h : name ∈ (parse source ports).slots) :
    name ∈ ports :=
  ((decomposes_scan ports source.toList).isMark name (mem_slots.1 h)).1

theorem mem_slots_iff_occurs {source : String} :
    name ∈ (parse source ports).slots ↔ ∃ i, (marking ports).Occurs name i source.toList := by
  simp only [(decomposes_scan ports source.toList).occurs_iff]
  rw [mem_slots, parse]
  constructor
  · intro h
    obtain ⟨front, back, hparts⟩ := List.append_of_mem h
    exact ⟨_, front, back, hparts, rfl⟩
  · rintro ⟨i, front, back, hparts, -⟩
    simp [hparts]

/-- A command whose slots are filled with themselves is given back. -/
theorem fill_eq_source {source : String}
    (h : ∀ name ∈ (parse source ports).slots, value name = some ("\x7b" ++ name ++ "\x7d")) :
    (parse source ports).fill value = .ok source := by
  rcases (parse source ports).fill_cases value with
    ⟨-, hfill⟩ | ⟨front, name, back, hparts, -, hnone, -⟩
  · have hself : ∀ name, .mark name ∈ (parse source ports).pieces.map Piece.part →
        inPlace value name = slotText name := by
      intro name hname
      rw [inPlace, h name (mem_slots.2 hname)]
      simp [slotText]
    have hsource :
        Part.fill slotText ((parse source ports).pieces.map Piece.part) = source.toList :=
      (decomposes_scan ports source.toList).written
    rw [hfill, Part.fill_congr hself, hsource, String.ofList_toList]
  · rw [h name (mem_slots.2 (by simp [hparts]))] at hnone
    cases hnone

/-- **Filling puts values in place of all slots at once.**  Every command has one reading, whose
marks are the slots that occur in it, and these do not overlap.  They are listed in their order.
Filling succeeds exactly if all have values, and fails at the first one that has none. -/
theorem parse_reading (source : String) (ports : List String) :
    ∃ parts, (marking ports).Decomposes parts source.toList ∧
      (∀ other, (marking ports).Decomposes other source.toList → other = parts) ∧
      (∀ name i, (marking ports).Occurs name i source.toList ↔
        ∃ front back, parts = front ++ .mark name :: back ∧
          (Part.fill slotText front).length = i) ∧
      (∀ name name' i j, (marking ports).Occurs name i source.toList →
        (marking ports).Occurs name' j source.toList → i < j →
          i + (slotText name).length ≤ j) ∧
      (parse source ports).slots = parts.filterMap Part.mark? ∧
      ∀ value : String → Option String,
        ((∃ text, (parse source ports).fill value = .ok text) ↔
          ∀ name i, (marking ports).Occurs name i source.toList → (value name).isSome = true) ∧
        (∀ text, (parse source ports).fill value = .ok text →
          text.toList = Part.fill (inPlace value) parts) ∧
        (∀ e, (parse source ports).fill value = .error e →
          ∃ front name back, parts = front ++ .mark name :: back ∧
            (∀ other, .mark other ∈ front → (value other).isSome = true) ∧ value name = none ∧
            e = .unresolved name) ∧
        ((∀ name ∈ (parse source ports).slots, value name = some ("\x7b" ++ name ++ "\x7d")) →
          (parse source ports).fill value = .ok source) := by
  have hreading := decomposes_scan ports source.toList
  refine ⟨_, hreading, fun other hother => hreading.unique hother,
    fun name i => hreading.occurs_iff, fun name name' i j h h' hlt => h.end_le h' hlt, slots_eq _,
    fun value => ⟨⟨?_, fun h => ?_⟩, fun text htext => ?_, fun e he => ?_, fill_eq_source⟩⟩
  · rintro ⟨text, htext⟩ name i hi
    exact isSome_of_fill_eq_ok htext name (mem_slots_iff_occurs.2 ⟨i, hi⟩)
  · refine exists_fill fun name hname => ?_
    obtain ⟨i, hi⟩ := mem_slots_iff_occurs.1 hname
    exact h name i hi
  · rcases (parse source ports).fill_cases value with ⟨-, hfill⟩ | ⟨_, _, _, -, -, -, hfill⟩
    · rw [htext] at hfill
      rw [Except.ok.inj hfill, String.toList_ofList]
      rfl
    · rw [htext] at hfill
      cases hfill
  · rcases (parse source ports).fill_cases value with
      ⟨-, hfill⟩ | ⟨front, name, back, hparts, hfront, hnone, hfill⟩
    · rw [he] at hfill
      cases hfill
    · rw [he] at hfill
      exact ⟨front, name, back, hparts, hfront, hnone, Except.error.inj hfill⟩

/-- Braces around a slot are text. -/
example : (parse "\x7b\x7bin\x7d\x7d" ["in"]).slots = ["in"] := by
  cbv

end CommandTemplate

end Flowscript
