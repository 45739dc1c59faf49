import Flowscript.Json.Reader
import Flowscript.Json.Writer
import Flowscript.Proofs.Json.Numerals

/-!
# Values that are written and read

A value that is written with one item or member per line is read back as it was, provided that its
numerals have the shape of numerals and its texts are well-formed.

* `WrittenAs` are the three ways to write a character of a text, `writtenAs_writtenChar` says that
  there are no others, and `readText?_written` is the round trip of a text.
* `Value.Sound` are those values.
* `Value.Sound.readValue?` is the step for a value within a text, by induction on the value.
* `read?_pretty` is the round trip of a whole text.
-/

set_option autoImplicit false

namespace Flowscript.Json

/-! ## Texts -/

/-- The ways to write a character: as itself, with a letter, and with its number. -/
inductive WrittenAs (c : Char) : List Char → Prop
  | plain (hquote : c ≠ '\x22') (hslash : c ≠ '\\') (h : 0x20 ≤ c.toNat) : WrittenAs c [c]
  | letter {x : Char} (h : escaped? x = some c) : WrittenAs c ['\\', x]
  | number {x y z w : Char} (h : hexUnit? x y z w = some c.toNat) (hlt : c.toNat < 0xd800) :
      WrittenAs c ['\\', 'u', x, y, z, w]

theorem hexUnit?_low : ∀ n < 0x10, hexUnit? '0' '0' '0' (Nat.digitChar n) = some n := by
  decide

theorem hexUnit?_high :
    ∀ n < 0x10, hexUnit? '0' '0' '1' (Nat.digitChar n) = some (0x10 + n) := by
  decide

theorem toList_hexadecimal_low {n : Nat} (h : n < 0x10) :
    (Text.hexadecimal n).toList = [Nat.digitChar n] := by
  rw [Text.hexadecimal, String.toList_ofList, Nat.toDigits_of_lt_base h]

theorem toList_hexadecimal_high {n : Nat} (h : n < 0x10) :
    (Text.hexadecimal (0x10 + n)).toList = ['1', Nat.digitChar n] := by
  rw [Text.hexadecimal, String.toList_ofList, Nat.toDigits_of_base_le (by decide) (by omega),
    Nat.toDigits_of_lt_base (by omega)]
  have hq : (0x10 + n) / 16 = 1 := by omega
  have hr : (0x10 + n) % 16 = n := by omega
  rw [hq, hr]
  rfl

theorem writtenAs_writtenChar (c : Char) : WrittenAs c (writtenChar c).toList := by
  unfold writtenChar
  split
  · exact .letter (x := '\x22') rfl
  · exact .letter (x := '\\') rfl
  · exact .letter (x := 'b') rfl
  · exact .letter (x := 'f') rfl
  · exact .letter (x := 'n') rfl
  · exact .letter (x := 'r') rfl
  · exact .letter (x := 't') rfl
  rename_i hquote hslash _ _ _ _ _
  split
  · rename_i hlow
    rw [String.toList_append, toList_hexadecimal_low hlow]
    exact .number (hexUnit?_low _ hlow) (by omega)
  split
  · rename_i hlow hhigh
    obtain ⟨n, hn⟩ : ∃ n, c.toNat = 0x10 + n := ⟨c.toNat - 0x10, by omega⟩
    rw [hn, String.toList_append, toList_hexadecimal_high (by omega)]
    exact .number (by rw [hn]; exact hexUnit?_high n (by omega)) (by omega)
  · rename_i hlow hhigh
    have hc : c.toString.toList = [c] := by simp
    rw [hc]
    exact .plain hquote hslash (by omega)

theorem Draft.pushUnit_char {d : Draft} {c : Char} (h : c.toNat < 0xd800) :
    d.pushUnit c.toNat = d.push c := by
  have h1 : ¬ 0xdc00 ≤ c.toNat := by omega
  have h2 : ¬ 0xd800 ≤ c.toNat := by omega
  simp [pushUnit, h1, h2]

/-- However a character is written, it is the one that is read. -/
theorem readText?_writtenAs {c : Char} {w : List Char} (h : WrittenAs c w) (d : Draft)
    (rest : List Char) : readText? d (w ++ rest) = readText? (d.push c) rest := by
  cases h with
  | plain hquote hslash h =>
    have hlt : ¬ c.toNat < 0x20 := by omega
    simp [readText?, hslash, hlt]
  | @letter x h =>
    have hu : x ≠ 'u' := by
      rintro rfl
      cases h
    simp [readText?, hu, h]
  | number h hlt => simp [readText?, h, Draft.pushUnit_char hlt]

/-- **A text is read back as it was written.** -/
theorem readText?_written (s : String) (rest : List Char) :
    readText? .empty (s.toList.flatMap (fun c => (writtenChar c).toList) ++ '\x22' :: rest) =
      some (some s, rest) := by
  have hread : ∀ (cs acc : List Char),
      readText? ⟨some acc, none⟩
          (cs.flatMap (fun c => (writtenChar c).toList) ++ '\x22' :: rest) =
        some (some (String.ofList (acc.reverse ++ cs)), rest) := by
    intro cs
    induction cs with
    | nil => intro acc; simp [readText?, Draft.finish, Draft.settle]
    | cons c cs ih =>
      intro acc
      rw [List.flatMap_cons, List.append_assoc, readText?_writtenAs (writtenAs_writtenChar c)]
      have hpush : Draft.push ⟨some acc, none⟩ c = ⟨some (c :: acc), none⟩ := rfl
      rw [hpush, ih]
      simp
  have hs := hread s.toList []
  rw [List.reverse_nil, List.nil_append, String.ofList_toList] at hs
  exact hs

theorem toList_writtenText (s : String) :
    (writtenText s).toList =
      '\x22' :: (s.toList.flatMap (fun c => (writtenChar c).toList) ++ ['\x22']) := by
  simp [writtenText, String.toList_join, List.flatMap_map]

/-! ## Values -/

/-- The values that a text can spell. -/
inductive Value.Sound : Value → Prop
  | null : Sound .null
  | bool (b : Bool) : Sound (.bool b)
  | number {n : Numeral} (h : n.Shaped) (hpad : n.padded = false) : Sound (.number n)
  | text (s : String) : Sound (.text (some s))
  | array {items : List Value} (h : ∀ v ∈ items, Sound v) : Sound (.array items)
  | object {members : List (Option String × Value)} (hnames : ∀ m ∈ members, m.1.isSome = true)
      (h : ∀ m ∈ members, Sound m.2) : Sound (.object members)

/-! ## Gaps -/

/-- The end of a line and the indentation of the next. -/
def lineBreak (depth : Nat) : List Char := '\n' :: List.replicate (2 * depth) ' '

theorem isGap_lineBreak (depth : Nat) : ∀ c ∈ lineBreak depth, isGap c = true := by
  intro c hc
  rcases List.mem_cons.1 hc with rfl | hc
  · rfl
  · rw [(List.mem_replicate.1 hc).2]
    rfl

theorem skipGap_cons {c : Char} (h : isGap c = false) (cs : List Char) :
    skipGap (c :: cs) = c :: cs := by
  simp [skipGap, h]

/-! ## What is written -/

theorem prettyItems_eq_map (depth : Nat) (items : List Value) :
    prettyItems depth items = items.map (·.prettyAt depth) := by
  induction items with
  | nil => rfl
  | cons v vs ih => rw [prettyItems, ih, List.map_cons]

/-- The line of a member. -/
def memberLine (depth : Nat) (m : Option String × Value) : String :=
  writtenContent m.1 ++ ": " ++ m.2.prettyAt depth

theorem prettyMembers_eq_map (depth : Nat) (members : List (Option String × Value)) :
    prettyMembers depth members = members.map (memberLine depth) := by
  induction members with
  | nil => rfl
  | cons m rest ih => rw [prettyMembers, ih, List.map_cons, memberLine]

/-- The lines after the first, each with the comma and the line break before it. -/
def furtherLines (depth : Nat) (lines : List String) : List Char :=
  lines.flatMap fun line => ',' :: (lineBreak depth ++ line.toList)

theorem toList_intercalate_cons (separator line : String) (lines : List String) :
    (String.intercalate separator (line :: lines)).toList =
      line.toList ++ lines.flatMap fun l => separator.toList ++ l.toList := by
  induction lines generalizing line with
  | nil => simp
  | cons l ls ih =>
    rw [String.intercalate_cons_cons, String.toList_append, String.toList_append, ih,
      List.flatMap_cons]
    simp

theorem toList_bracketed_cons (opening closing line : String) (depth : Nat)
    (lines : List String) :
    (bracketed opening closing depth (line :: lines)).toList =
      opening.toList ++ (lineBreak (depth + 1) ++ (line.toList ++
        (furtherLines (depth + 1) lines ++ (lineBreak depth ++ closing.toList)))) := by
  rw [bracketed, List.isEmpty_cons, if_neg Bool.false_ne_true]
  simp only [String.toList_append, toList_intercalate_cons]
  simp [furtherLines, indentation, lineBreak]

theorem toList_bracketed_nil (opening closing : String) (depth : Nat) :
    (bracketed opening closing depth []).toList = opening.toList ++ closing.toList :=
  String.toList_append

/-- What a written value starts with. -/
def Opens (cs : List Char) : Prop := ∃ c rest, cs = c :: rest ∧ isGap c = false ∧ c ≠ ']'

theorem opens_of_isDigit {c : Char} (h : c.isDigit = true ∨ c = '-') (cs : List Char) :
    Opens (c :: cs) := by
  refine ⟨c, cs, rfl, ?_, ?_⟩
  · rw [isGap, Bool.or_eq_false_iff, Bool.or_eq_false_iff, Bool.or_eq_false_iff]
    refine ⟨⟨⟨?_, ?_⟩, ?_⟩, ?_⟩ <;>
    · rw [beq_eq_false_iff_ne]
      rintro rfl
      rcases h with h | h <;> cases h
  · rintro rfl
    rcases h with h | h <;> cases h

/-- A numeral starts with a digit or its sign. -/
theorem head_spelling {n : Numeral} (h : n.Shaped) :
    ∃ c cs, n.spelling.toList = c :: cs ∧ (c.isDigit = true ∨ c = '-') := by
  rw [Numeral.toList_spelling, Numeral.sign]
  cases n.negative with
  | true => exact ⟨'-', _, rfl, Or.inr rfl⟩
  | false =>
    obtain ⟨c, cs, hw⟩ := List.exists_cons_of_ne_nil h.whole_ne_nil
    rw [hw]
    exact ⟨c, _, rfl, Or.inl (h.whole c (hw ▸ List.mem_cons_self))⟩

theorem Value.Sound.opens {v : Value} (h : v.Sound) (depth : Nat) :
    Opens (v.prettyAt depth).toList := by
  cases h with
  | null =>
    rw [prettyAt]
    exact ⟨'n', _, rfl, rfl, by decide⟩
  | bool b =>
    rw [prettyAt]
    cases b with
    | false => exact ⟨'f', _, rfl, rfl, by decide⟩
    | true => exact ⟨'t', _, rfl, rfl, by decide⟩
  | number h =>
    obtain ⟨c, cs, hs, hc⟩ := head_spelling h
    rw [prettyAt, hs]
    exact opens_of_isDigit hc cs
  | text s =>
    rw [prettyAt, writtenContent, toList_writtenText]
    exact ⟨'\x22', _, rfl, rfl, by decide⟩
  | @array items h =>
    rw [prettyAt, prettyItems_eq_map]
    cases items with
    | nil =>
      rw [List.map_nil, toList_bracketed_nil]
      exact ⟨'[', _, rfl, rfl, by decide⟩
    | cons w ws =>
      rw [List.map_cons, toList_bracketed_cons]
      exact ⟨'[', _, rfl, rfl, by decide⟩
  | @object members hn h =>
    rw [prettyAt, prettyMembers_eq_map]
    cases members with
    | nil =>
      rw [List.map_nil, toList_bracketed_nil]
      exact ⟨'\x7b', _, rfl, rfl, by decide⟩
    | cons m ms =>
      rw [List.map_cons, toList_bracketed_cons]
      exact ⟨'\x7b', _, rfl, rfl, by decide⟩

/-! ## Reading lines -/

/-- The value is read back wherever it stands, if there is fuel enough. -/
def Value.Reads (v : Value) (depth : Nat) : Prop :=
  ∀ (fuel : Nat) (rest : List Char), Numeral.Stops rest →
    2 * (v.prettyAt depth).toList.length ≤ fuel →
      readValue? fuel ((v.prettyAt depth).toList ++ rest) = some (v, rest)

theorem stops_lineBreak (depth : Nat) (rest : List Char) :
    Numeral.Stops (lineBreak depth ++ rest) := by
  rintro c ⟨⟩
  decide

theorem furtherLines_cons (depth : Nat) (line : String) (lines : List String) :
    furtherLines depth (line :: lines) =
      ',' :: (lineBreak depth ++ (line.toList ++ furtherLines depth lines)) := by
  simp [furtherLines]

/-- The items of an array are read one after the other. -/
theorem readItems?_lines {depth d : Nat} (rest : List Char) (vs : List Value) :
    ∀ (v : Value) (items : List Value) (gap : List Char) (fuel : Nat),
      (∀ w ∈ v :: vs, w.Reads depth) → (∀ c ∈ gap, isGap c = true) →
      2 * ((v.prettyAt depth).toList.length +
        (furtherLines depth (vs.map (·.prettyAt depth))).length) + 1 ≤ fuel →
      readItems? fuel items (gap ++ ((v.prettyAt depth).toList ++
          (furtherLines depth (vs.map (·.prettyAt depth)) ++ (lineBreak d ++ ']' :: rest)))) =
        some (.array (items.reverse ++ v :: vs), rest) := by
  induction vs with
  | nil =>
    intro v items gap fuel hread hgap hfuel
    obtain ⟨fuel, rfl⟩ : ∃ k, fuel = k + 1 := ⟨fuel - 1, by omega⟩
    have hv := hread v List.mem_cons_self fuel (lineBreak d ++ ']' :: rest)
      (stops_lineBreak d _) (by simp only [furtherLines] at hfuel; omega)
    rw [readItems?, readValue?_append hgap]
    simp only [List.map_nil, furtherLines, List.flatMap_nil, List.nil_append, hv,
      skipGap_append (isGap_lineBreak d)]
    rw [skipGap_cons (by decide)]
    simp
  | cons w ws ih =>
    intro v items gap fuel hread hgap hfuel
    obtain ⟨fuel, rfl⟩ : ∃ k, fuel = k + 1 := ⟨fuel - 1, by omega⟩
    rw [List.map_cons, furtherLines_cons] at hfuel ⊢
    simp only [List.length_cons, List.length_append] at hfuel
    have hv := hread v List.mem_cons_self fuel
      (',' :: (lineBreak depth ++ ((w.prettyAt depth).toList ++
        (furtherLines depth (ws.map (·.prettyAt depth)) ++ (lineBreak d ++ ']' :: rest)))))
      (by rintro c ⟨⟩; decide) (by omega)
    have hrest := ih w (v :: items) (lineBreak depth) fuel
      (fun x hx => hread x (List.mem_cons_of_mem _ hx)) (isGap_lineBreak depth) (by omega)
    rw [readItems?, readValue?_append hgap]
    simp only [List.cons_append, List.append_assoc, hv]
    rw [skipGap_cons (by decide)]
    simp only [hrest, List.reverse_cons, List.append_assoc, List.singleton_append]

theorem toList_memberLine (depth : Nat) (name : String) (v : Value) :
    (memberLine depth (some name, v)).toList =
      '\x22' :: (name.toList.flatMap (fun c => (writtenChar c).toList) ++
        '\x22' :: ':' :: ([' '] ++ (v.prettyAt depth).toList)) := by
  simp only [memberLine, writtenContent, Option.getD_some, String.toList_append,
    toList_writtenText]
  simp

/-- One member is read, and what follows it decides how to go on. -/
theorem readMembers?_line {depth fuel : Nat} {name : String} {v : Value} {gap follow : List Char}
    (members : List (Option String × Value)) (hgap : ∀ c ∈ gap, isGap c = true)
    (hv : readValue? fuel ((v.prettyAt depth).toList ++ follow) = some (v, follow)) :
    (∀ cs, skipGap follow = ',' :: cs →
      readMembers? (fuel + 1) members
          (gap ++ ((memberLine depth (some name, v)).toList ++ follow)) =
        readMembers? fuel ((some name, v) :: members) cs) ∧
    ∀ cs, skipGap follow = '\x7d' :: cs →
      readMembers? (fuel + 1) members
          (gap ++ ((memberLine depth (some name, v)).toList ++ follow)) =
        some (.object ((some name, v) :: members).reverse, cs) := by
  have hblank : ∀ c ∈ [' '], isGap c = true := by
    simp only [List.mem_singleton, forall_eq]
    rfl
  have hvalue := (readValue?_append hblank fuel).trans hv
  simp only [List.cons_append, List.nil_append] at hvalue
  have hskip : skipGap (gap ++ ((memberLine depth (some name, v)).toList ++ follow)) =
      skipGap ((memberLine depth (some name, v)).toList ++ follow) := skipGap_append hgap
  rw [readMembers?, hskip, toList_memberLine]
  simp only [List.cons_append, List.append_assoc]
  rw [skipGap_cons (by decide)]
  simp only [readText?_written]
  rw [skipGap_cons (by decide)]
  simp only [List.nil_append, hvalue]
  constructor
  · intro cs h
    simp only [h]
  · intro cs h
    simp only [h]

theorem length_memberLine (depth : Nat) (m : Option String × Value) :
    (m.2.prettyAt depth).toList.length < (memberLine depth m).toList.length := by
  simp only [memberLine, String.toList_append, List.length_append]
  have hcolon : (": ".toList).length = 2 := rfl
  omega

/-- The members of an object are read one after the other. -/
theorem readMembers?_lines {depth d : Nat} (rest : List Char)
    (ms : List (Option String × Value)) :
    ∀ (m : Option String × Value) (members : List (Option String × Value)) (gap : List Char)
      (fuel : Nat), (∀ x ∈ m :: ms, x.1.isSome = true) → (∀ x ∈ m :: ms, x.2.Reads depth) →
      (∀ c ∈ gap, isGap c = true) →
      2 * ((memberLine depth m).toList.length +
        (furtherLines depth (ms.map (memberLine depth))).length) + 1 ≤ fuel →
      readMembers? fuel members (gap ++ ((memberLine depth m).toList ++
          (furtherLines depth (ms.map (memberLine depth)) ++
            (lineBreak d ++ '\x7d' :: rest)))) =
        some (.object (members.reverse ++ m :: ms), rest) := by
  induction ms with
  | nil =>
    intro m members gap fuel hname hread hgap hfuel
    have hlt := length_memberLine depth m
    obtain ⟨fuel, rfl⟩ : ∃ k, fuel = k + 1 := ⟨fuel - 1, by omega⟩
    have hv := hread m List.mem_cons_self fuel (lineBreak d ++ '\x7d' :: rest)
      (stops_lineBreak d _) (by omega)
    obtain ⟨name, v⟩ := m
    obtain ⟨name, rfl⟩ := Option.isSome_iff_exists.1 (hname _ List.mem_cons_self)
    rw [List.map_nil, furtherLines, List.flatMap_nil, List.nil_append]
    rw [(readMembers?_line members hgap hv).2 rest (by
      rw [skipGap_append (isGap_lineBreak d), skipGap_cons (by decide)])]
    simp
  | cons w ws ih =>
    intro m members gap fuel hname hread hgap hfuel
    have hlt := length_memberLine depth m
    obtain ⟨fuel, rfl⟩ : ∃ k, fuel = k + 1 := ⟨fuel - 1, by omega⟩
    rw [List.map_cons, furtherLines_cons] at hfuel ⊢
    simp only [List.length_cons, List.length_append] at hfuel
    simp only [List.cons_append, List.append_assoc]
    have hv := hread m List.mem_cons_self fuel
      (',' :: (lineBreak depth ++ ((memberLine depth w).toList ++
        (furtherLines depth (ws.map (memberLine depth)) ++ (lineBreak d ++ '\x7d' :: rest)))))
      (by rintro c ⟨⟩; decide) (by omega)
    have hrest := ih w (m :: members) (lineBreak depth) fuel
      (fun x hx => hname x (List.mem_cons_of_mem _ hx))
      (fun x hx => hread x (List.mem_cons_of_mem _ hx)) (isGap_lineBreak depth) (by omega)
    obtain ⟨name, v⟩ := m
    obtain ⟨name, rfl⟩ := Option.isSome_iff_exists.1 (hname _ List.mem_cons_self)
    rw [(readMembers?_line members hgap hv).1 _ (skipGap_cons (by decide) _), hrest]
    simp

/-! ## Reading values -/

/-- Where nothing else can start, a numeral is read. -/
theorem readValue?_numeral {c : Char} (h : c.isDigit = true ∨ c = '-') (fuel : Nat)
    (cs : List Char) :
    readValue? (fuel + 1) (c :: cs) =
      (Numeral.read? (c :: cs)).map fun r => (.number r.1, r.2) := by
  obtain ⟨c', rest, heq, hgap, -⟩ := opens_of_isDigit h cs
  cases heq
  have hne : c ≠ 'n' ∧ c ≠ 't' ∧ c ≠ 'f' ∧ c ≠ '\x22' ∧ c ≠ '[' ∧ c ≠ '\x7b' := by
    refine ⟨?_, ?_, ?_, ?_, ?_, ?_⟩ <;>
    · rintro rfl
      rcases h with h | h <;> cases h
  unfold readValue?
  rw [skipGap_cons hgap]
  simp [hne]

theorem readValue?_word {word : String} {v : Value}
    (h : (word = "null" ∧ v = .null) ∨ (word = "true" ∧ v = .bool true) ∨
      (word = "false" ∧ v = .bool false)) (fuel : Nat) (rest : List Char) :
    readValue? (fuel + 1) (word.toList ++ rest) = some (v, rest) := by
  rcases h with ⟨rfl, rfl⟩ | ⟨rfl, rfl⟩ | ⟨rfl, rfl⟩ <;> unfold readValue? <;> rfl

theorem readValue?_items {cs : List Char} (h : Opens (skipGap cs)) (fuel : Nat) :
    readValue? (fuel + 1) ('[' :: cs) = readItems? fuel [] (skipGap cs) := by
  obtain ⟨c, rest, heq, -, hclose⟩ := h
  unfold readValue?
  rw [skipGap_cons (by decide)]
  simp [heq, hclose]

theorem readValue?_members {cs rest : List Char} (h : skipGap cs = '\x22' :: rest) (fuel : Nat) :
    readValue? (fuel + 1) ('\x7b' :: cs) = readMembers? fuel [] (skipGap cs) := by
  unfold readValue?
  rw [skipGap_cons (by decide)]
  simp [h]

/-- The brackets and the line breaks leave fuel enough for the lines. -/
theorem fuel_of_brackets {fuel : Nat} {opening closing line : String} {depth : Nat}
    {lines : List String} (ho : opening.toList.length = 1)
    (h : 2 * (bracketed opening closing depth (line :: lines)).toList.length ≤ fuel) :
    ∃ m, fuel = m + 1 ∧
      2 * (line.toList.length + (furtherLines (depth + 1) lines).length) + 1 ≤ m := by
  rw [toList_bracketed_cons] at h
  simp only [List.length_append, ho] at h
  exact ⟨fuel - 1, by omega, by omega⟩

namespace Value.Reads

theorem word {word : String} {v : Value}
    (h : (word = "null" ∧ v = .null) ∨ (word = "true" ∧ v = .bool true) ∨
      (word = "false" ∧ v = .bool false)) {depth : Nat} (hv : v.prettyAt depth = word) :
    v.Reads depth := by
  intro fuel rest _ hfuel
  rw [hv] at hfuel ⊢
  have hlength : 0 < word.toList.length := by
    rcases h with ⟨rfl, -⟩ | ⟨rfl, -⟩ | ⟨rfl, -⟩ <;> decide
  obtain ⟨fuel, rfl⟩ : ∃ k, fuel = k + 1 := ⟨fuel - 1, by omega⟩
  exact readValue?_word h fuel rest

theorem number {n : Numeral} (h : n.Shaped) (hpad : n.padded = false) (depth : Nat) :
    (Value.number n).Reads depth := by
  intro fuel rest hrest hfuel
  rw [prettyAt] at hfuel ⊢
  obtain ⟨c, cs, hs, hc⟩ := head_spelling h
  have hread := Numeral.read?_spelling h hrest
  rw [hpad, if_neg Bool.false_ne_true] at hread
  rw [hs] at hfuel hread ⊢
  obtain ⟨fuel, rfl⟩ : ∃ k, fuel = k + 1 := ⟨fuel - 1, by simp at hfuel; omega⟩
  rw [List.cons_append, readValue?_numeral hc, ← List.cons_append, hread]
  rfl

theorem text (s : String) (depth : Nat) : (Value.text (some s)).Reads depth := by
  intro fuel rest _ hfuel
  rw [prettyAt, writtenContent, Option.getD_some, toList_writtenText] at hfuel ⊢
  obtain ⟨fuel, rfl⟩ : ∃ k, fuel = k + 1 := ⟨fuel - 1, by simp at hfuel; omega⟩
  rw [List.cons_append, List.append_assoc, readValue?, skipGap_cons (by decide)]
  simp [readText?_written]

/-- A list is read back if its items are. -/
theorem array {items : List Value} (h : ∀ v ∈ items, v.Sound) {depth : Nat}
    (ih : ∀ v ∈ items, v.Reads (depth + 1)) : (Value.array items).Reads depth := by
  intro fuel rest _ hfuel
  rw [prettyAt, prettyItems_eq_map] at hfuel ⊢
  cases items with
  | nil =>
    rw [List.map_nil, toList_bracketed_nil] at hfuel ⊢
    obtain ⟨fuel, rfl⟩ : ∃ k, fuel = k + 1 := ⟨fuel - 1, by simp at hfuel; omega⟩
    unfold readValue?
    rfl
  | cons w ws =>
    obtain ⟨fuel, rfl, hm⟩ := fuel_of_brackets rfl hfuel
    have hlines := readItems?_lines (d := depth) rest ws w [] [] fuel ih (by simp) hm
    obtain ⟨c, cs, hw, hgap, hclose⟩ := (h w List.mem_cons_self).opens (depth + 1)
    have hskip : ∀ tail, skipGap (lineBreak (depth + 1) ++
        ((w.prettyAt (depth + 1)).toList ++ tail)) =
          (w.prettyAt (depth + 1)).toList ++ tail := by
      intro tail
      rw [skipGap_append (isGap_lineBreak _), hw, List.cons_append, skipGap_cons hgap]
    rw [List.map_cons, toList_bracketed_cons]
    simp only [List.append_assoc]
    change readValue? (fuel + 1) ('[' :: (lineBreak (depth + 1) ++ _)) = _
    rw [readValue?_items (by rw [hskip, hw]; exact ⟨c, _, rfl, hgap, hclose⟩), hskip]
    exact hlines

/-- A record is read back if its values are. -/
theorem object {members : List (Option String × Value)}
    (hnames : ∀ m ∈ members, m.1.isSome = true) {depth : Nat}
    (ih : ∀ m ∈ members, m.2.Reads (depth + 1)) : (Value.object members).Reads depth := by
  intro fuel rest _ hfuel
  rw [prettyAt, prettyMembers_eq_map] at hfuel ⊢
  cases members with
  | nil =>
    rw [List.map_nil, toList_bracketed_nil] at hfuel ⊢
    obtain ⟨fuel, rfl⟩ : ∃ k, fuel = k + 1 := ⟨fuel - 1, by simp at hfuel; omega⟩
    unfold readValue?
    rfl
  | cons m ms =>
    obtain ⟨fuel, rfl, hm⟩ := fuel_of_brackets rfl hfuel
    have hlines := readMembers?_lines (d := depth) rest ms m [] [] fuel hnames ih (by simp) hm
    obtain ⟨name, v⟩ := m
    obtain ⟨name, rfl⟩ := Option.isSome_iff_exists.1 (hnames _ List.mem_cons_self)
    have hskip : ∀ tail, skipGap (lineBreak (depth + 1) ++
        ((memberLine (depth + 1) (some name, v)).toList ++ tail)) =
          (memberLine (depth + 1) (some name, v)).toList ++ tail := by
      intro tail
      rw [skipGap_append (isGap_lineBreak _), toList_memberLine, List.cons_append,
        skipGap_cons (by decide)]
    rw [List.map_cons, toList_bracketed_cons]
    simp only [List.append_assoc]
    change readValue? (fuel + 1) ('\x7b' :: (lineBreak (depth + 1) ++ _)) = _
    rw [readValue?_members (by rw [hskip, toList_memberLine]; rfl), hskip]
    rw [List.nil_append] at hlines
    exact hlines

end Value.Reads

/-- **A value is read back wherever it stands**, by induction on the value. -/
theorem Value.Sound.reads {v : Value} (h : v.Sound) : ∀ depth, v.Reads depth := by
  induction h with
  | null => exact fun depth => .word (.inl ⟨rfl, rfl⟩) rfl
  | bool b =>
    intro depth
    cases b with
    | false => exact .word (.inr (.inr ⟨rfl, rfl⟩)) rfl
    | true => exact .word (.inr (.inl ⟨rfl, rfl⟩)) rfl
  | number h hpad => exact .number h hpad
  | text s => exact .text s
  | array h ih => exact fun depth => .array h fun v hv => ih v hv (depth + 1)
  | object hnames _ ih => exact fun depth => .object hnames fun m hm => ih m hm (depth + 1)

/-- **The text of a value is read back as the value.** -/
theorem read?_pretty {v : Value} (h : v.Sound) : read? v.pretty = some v := by
  have hread := h.reads 0 (2 * v.pretty.toList.length + 2) [] (by rintro c ⟨⟩) (by
    rw [Value.pretty]
    omega)
  rw [List.append_nil] at hread
  rw [read?]
  simp only [Value.pretty] at hread ⊢
  simp only [hread]
  rfl

end Flowscript.Json
