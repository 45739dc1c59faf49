import Flowscript.Proofs.Toolbox

/-!
# Summaries of modules

A summary shows the ports of a module one after the other, each by a replacement in the whole text.
Filling goes through the command once and puts values into all slots.  Both come to the same, since
what is written for a port can neither be taken for the slot of another one nor complete one with
the text around it.

* `Text.replaceAll_append_pattern`, `Text.replaceAll_cons` and `Text.replaceAll_append_of_not_mem`
  are the steps of a replacement.
* `CommandTemplate.IsFramed` says what may stand at a slot while ports are shown, and
  `CommandTemplate.replaceAll_fill` that showing one more changes the slots of this port only.
* `ModuleDef.showPorts_fill` is about all ports, and `ModuleDef.IsDefined.summary_fills` puts this
  together.
-/

set_option autoImplicit false

namespace Flowscript

/-! ## Replacing step by step -/

namespace Text

variable {first : Char} {others replacement : List Char}

theorem replaceAll_nil : replaceAll first others replacement [] = [] := by
  rw [replaceAll]
  rfl

/-- An occurrence is replaced where it is met. -/
theorem replaceAll_append_pattern (rest : List Char) :
    replaceAll first others replacement (first :: (others ++ rest)) =
      replacement ++ replaceAll first others replacement rest := by
  have hfound : dropPattern? (first :: others) (first :: (others ++ rest)) = some rest :=
    dropPattern?_eq_some_iff.2 rfl
  rw [replaceAll]
  split
  · rename_i rest' h
    obtain rfl := Option.some.inj (hfound.symm.trans h)
    rfl
  · rename_i h
    cases hfound.symm.trans h

/-- A character at which the pattern does not start is kept. -/
theorem replaceAll_cons {c : Char} {cs : List Char} (h : ¬first :: others <+: c :: cs) :
    replaceAll first others replacement (c :: cs) =
      c :: replaceAll first others replacement cs := by
  rw [replaceAll]
  split
  · rename_i rest hfound
    exact absurd ⟨rest, (dropPattern?_eq_some_iff.1 hfound).symm⟩ h
  · rfl

/-- A text without the first character of the pattern is kept, whatever follows it. -/
theorem replaceAll_append_of_not_mem {cs : List Char} (h : first ∉ cs) (rest : List Char) :
    replaceAll first others replacement (cs ++ rest) =
      cs ++ replaceAll first others replacement rest := by
  induction cs with
  | nil => rfl
  | cons c cs ih =>
    rw [List.mem_cons, not_or] at h
    rw [List.cons_append, replaceAll_cons fun hstart => h.1 (List.cons_prefix_cons.1 hstart).1,
      ih h.2, List.cons_append]

end Text

/-! ## Slots one after the other -/

namespace CommandTemplate

/-- What may stand at the slot of a name: the name between two characters, of which the first belongs
to no name and closes no slot.  If it opens a slot, then this is the slot of the name. -/
def IsFramed (name : String) (text : List Char) : Prop :=
  ∃ opening closing, text = opening :: (name.toList ++ [closing]) ∧
    Text.isNameChar opening = false ∧ opening ≠ '\x7d' ∧ closing ≠ '\x7b' ∧
    (opening = '\x7b' → closing = '\x7d')

theorem isFramed_slotText (name : String) : IsFramed name (slotText name) :=
  ⟨_, _, rfl, by decide, by decide, by decide, fun _ => rfl⟩

variable {ports : List String} {name : String} {text : String → List Char}
  {parts : List (Part String)} {cs : List Char}

/-- Name characters and closing braces stand between slots only.  So where a text starts with them,
it does not matter what stands at the slots. -/
theorem prefix_fill {text' : String → List Char} {inside : List Char}
    (hinside : ∀ c ∈ inside, Text.isNameChar c = true ∨ c = '\x7d')
    (hframed : ∀ name, .mark name ∈ parts → IsFramed name (text name))
    (h : inside <+: Part.fill text parts) : inside <+: Part.fill text' parts := by
  induction inside generalizing parts with
  | nil => exact List.nil_prefix
  | cons c inside ih =>
    rw [List.forall_mem_cons] at hinside
    cases parts with
    | nil => simp at h
    | cons part parts =>
      cases part with
      | char d =>
        rw [Part.fill_char, List.cons_prefix_cons] at h ⊢
        exact ⟨h.1, ih hinside.2 (fun name hname => hframed name (List.mem_cons_of_mem _ hname)) h.2⟩
      | mark name =>
        obtain ⟨opening, closing, htext, hname, hclose, -⟩ := hframed name List.mem_cons_self
        rw [Part.fill_mark, htext, List.cons_append, List.cons_prefix_cons] at h
        rcases hinside.1 with hc | hc
        · rw [h.1, hname] at hc
          cases hc
        · exact absurd (h.1.symm.trans hc) hclose

/-- No slot starts at a character of a command that is kept, whatever stands at other slots. -/
theorem not_prefix_fill_char {c : Char} (hname : IsSlot ports name)
    (h : (marking ports).Decomposes (.char c :: parts) cs)
    (hframed : ∀ name, .mark name ∈ parts → IsFramed name (text name)) :
    ¬slotText name <+: c :: Part.fill text parts := by
  intro hstart
  rw [slotText, List.cons_prefix_cons] at hstart
  have hinside : ∀ d ∈ name.toList ++ ['\x7d'], Text.isNameChar d = true ∨ d = '\x7d' := by
    intro d hd
    rw [List.mem_append, List.mem_singleton] at hd
    exact hd.imp_left ((Text.isPlainName_iff.1 hname.2).2 d)
  have hstarts : (marking ports).Occurs name 0 cs := by
    refine ⟨hname, ?_⟩
    rw [← h.written, List.drop_zero]
    exact List.cons_prefix_cons.2 ⟨hstart.1, prefix_fill hinside hframed hstart.2⟩
  cases h.head_eq hstarts

/-- **Showing one port changes its slots and nothing else**, when some ports have been shown
before. -/
theorem replaceAll_fill {replacement : List Char} (hname : IsSlot ports name)
    (h : (marking ports).Decomposes parts cs)
    (hframed : ∀ other, .mark other ∈ parts → IsFramed other (text other))
    (hleft : text name = slotText name) :
    Text.replaceAll '\x7b' (name.toList ++ ['\x7d']) replacement (Part.fill text parts) =
      Part.fill (Function.update text name replacement) parts := by
  induction parts generalizing cs with
  | nil => exact Text.replaceAll_nil
  | cons part parts ih =>
    have hrest := ih h.tail fun other hother => hframed other (List.mem_cons_of_mem _ hother)
    cases part with
    | char c =>
      have hkept := not_prefix_fill_char hname h
        fun other hother => hframed other (List.mem_cons_of_mem _ hother)
      rw [Part.fill_char, Text.replaceAll_cons hkept, hrest, Part.fill_char]
    | mark other =>
      rw [Part.fill_mark, Part.fill_mark, ← hrest]
      by_cases heq : other = name
      · subst heq
        rw [hleft, Function.update_self]
        exact Text.replaceAll_append_pattern _
      · rw [Function.update_of_ne heq]
        obtain ⟨opening, closing, htext, -, -, hclosing, hopening⟩ :=
          hframed other List.mem_cons_self
        have hother : IsSlot ports other := h.isMark other List.mem_cons_self
        -- an opening brace can only be the first character, and then the slot is another one's
        have hinside : '\x7b' ∉ other.toList ++ [closing] := by
          rw [List.mem_append, List.mem_singleton, not_or]
          exact ⟨fun hmem => absurd ((Text.isPlainName_iff.1 hother.2).2 _ hmem) (by decide),
            hclosing.symm⟩
        have hstart : ¬slotText name <+:
            opening :: (other.toList ++ [closing] ++ Part.fill text parts) := by
          rintro ⟨rest, hrest⟩
          obtain rfl : '\x7b' = opening := (List.cons.inj hrest).1
          rw [hopening rfl] at hrest
          exact heq (Marking.eq_of_append_eq (M := marking ports) hname hother hrest).symm
        rw [htext, List.cons_append, Text.replaceAll_cons hstart,
          Text.replaceAll_append_of_not_mem hinside, List.cons_append]

end CommandTemplate

/-! ## All ports -/

namespace ModuleDef

open CommandTemplate

/-- What stands at the slot of a name when some ports have been shown. -/
def shownAs (done : List Parameter) (name : String) : List Char :=
  match done.find? (·.name == name) with
  | some p => (mark p).toList
  | none => slotText name

theorem isFramed_mark (p : Parameter) : IsFramed p.name (mark p).toList := by
  rw [mark]
  split
  · exact ⟨'<', '>', by simp, by decide, by decide, by decide, by decide⟩
  · exact ⟨'[', ']', by simp, by decide, by decide, by decide, by decide⟩

theorem isFramed_shownAs (done : List Parameter) (name : String) :
    IsFramed name (shownAs done name) := by
  rw [shownAs]
  split
  · rename_i p hp
    obtain rfl : p.name = name := by simpa using List.find?_some hp
    exact isFramed_mark p
  · exact isFramed_slotText name

theorem find?_name_eq_none {done : List Parameter} {name : String}
    (h : name ∉ done.map (·.name)) : done.find? (·.name == name) = none := by
  rw [List.find?_eq_none]
  exact fun p hp hname => h (List.mem_map.2 ⟨p, hp, by simpa using hname⟩)

theorem shownAs_eq_slotText {done : List Parameter} {name : String}
    (h : name ∉ done.map (·.name)) : shownAs done name = slotText name := by
  rw [shownAs, find?_name_eq_none h]

/-- Where names are distinct, a port is shown as itself. -/
theorem shownAs_of_mem {done : List Parameter} (h : (done.map (·.name)).Nodup) {p : Parameter}
    (hp : p ∈ done) : shownAs done p.name = (mark p).toList := by
  rw [shownAs]
  split
  · rename_i other hother
    have hname : other.name = p.name := by simpa using List.find?_some hother
    rw [List.inj_on_of_nodup_map h (List.mem_of_find?_eq_some hother) hp hname]
  · rename_i hnone
    rw [List.find?_eq_none] at hnone
    simpa using hnone p hp

theorem shownAs_concat {done : List Parameter} {p : Parameter} (h : p.name ∉ done.map (·.name)) :
    shownAs (done ++ [p]) = Function.update (shownAs done) p.name (mark p).toList := by
  funext name
  by_cases hname : name = p.name
  · subst hname
    rw [Function.update_self, shownAs, List.find?_append, find?_name_eq_none h]
    simp
  · have hother : (p.name == name) = false := by simpa using Ne.symm hname
    rw [Function.update_of_ne hname, shownAs, shownAs, List.find?_append]
    simp [hother]

/-- **Showing ports one after the other shows them at all of their slots.** -/
theorem showPorts_fill {ports : List String} {parts : List (Part String)} {cs : List Char}
    (h : (marking ports).Decomposes parts cs) (rest : List Parameter) :
    ∀ done : List Parameter, ((done ++ rest).map (·.name)).Nodup →
      (∀ p ∈ rest, IsSlot ports p.name) →
      showPorts (Part.fill (shownAs done) parts) rest =
        Part.fill (shownAs (done ++ rest)) parts := by
  induction rest with
  | nil => simp [showPorts]
  | cons p rest ih =>
    intro done hnodup hslots
    rw [List.append_cons] at hnodup ⊢
    have hnew : p.name ∉ done.map (·.name) := by
      rw [List.map_append, List.map_append, List.nodup_append, List.nodup_append] at hnodup
      exact fun hmem => hnodup.1.2.2 _ hmem _ List.mem_cons_self rfl
    rw [showPorts, replaceAll_fill (hslots p List.mem_cons_self) h
      (fun name _ => isFramed_shownAs done name) (shownAs_eq_slotText hnew), ← shownAs_concat hnew]
    exact ih (done ++ [p]) hnodup fun q hq => hslots q (List.mem_cons_of_mem _ hq)

/-- The summary of a module shows its ports at all of their slots. -/
theorem IsDefined.showPorts_source {m : ModuleDef} (h : m.IsDefined) :
    showPorts m.template.source.toList m.ports =
      Part.fill (shownAs m.ports) (m.template.pieces.map Piece.part) := by
  obtain ⟨command, htemplate⟩ := h.exists_template
  have hreading := decomposes_scan (m.ports.map (·.name)) command.toList
  have hslots : ∀ p ∈ m.ports, IsSlot (m.ports.map (·.name)) p.name :=
    fun p hp => ⟨List.mem_map_of_mem hp, h.isPlainName p hp⟩
  rw [htemplate]
  calc showPorts command.toList m.ports
    _ = showPorts (Part.fill (shownAs []) ((scan (m.ports.map (·.name)) command.toList).map
          Piece.part)) m.ports := congrArg (showPorts · m.ports) hreading.written.symm
    _ = _ := showPorts_fill hreading m.ports [] h.nodup_names hslots

/-- Each required port has its name between angles for a value, and each other one its name between
brackets. -/
def Shows (m : ModuleDef) (value : String → Option String) : Prop :=
  ∀ p ∈ m.ports, value p.name =
    some (if p.required then "<" ++ p.name ++ ">" else "[" ++ p.name ++ "]")

/-- **The summary is the command, filled with the marks of its ports.** -/
theorem IsDefined.summary_fills {m : ModuleDef} (h : m.IsDefined) :
    (∃ value, m.Shows value) ∧ ∀ value, m.Shows value →
      ∃ text, m.template.fill value = .ok text ∧ m.summary = m.name ++ " '" ++ text ++ "'" := by
  refine ⟨⟨fun name => some (String.ofList (shownAs m.ports name)), fun p hp => ?_⟩,
    fun value hvalue => ?_⟩
  · simp only [shownAs_of_mem h.nodup_names hp, mark, String.ofList_toList]
  · have hplaces : ∀ name, .mark name ∈ m.template.pieces.map Piece.part →
        shownAs m.ports name = inPlace value name := by
      intro name hname
      obtain ⟨p, hp, rfl⟩ := h.exists_port_of_mem_slots (mem_slots.2 hname)
      rw [shownAs_of_mem h.nodup_names hp, inPlace, hvalue p hp, Option.getD_some, mark]
    rcases m.template.fill_cases value with ⟨-, hfill⟩ | ⟨front, name, back, hparts, -, hnone, -⟩
    · refine ⟨_, hfill, ?_⟩
      rw [summary, h.showPorts_source, Part.fill_congr hplaces]
    · have hname : name ∈ m.template.slots := mem_slots.2 (by simp [hparts])
      obtain ⟨p, hp, rfl⟩ := h.exists_port_of_mem_slots hname
      rw [hvalue p hp] at hnone
      cases hnone

end ModuleDef

/-! ## A specimen -/

/-- A module with braces around slots and next to them, and with a slot that is none of its ports. -/
def Specimen.count : ModuleDef :=
  ⟨"count", [⟨"in", "text", true⟩, ⟨"note", argFormat, false⟩], [⟨"out", "text", true⟩],
    .parse "awk '\x7b\x7bin\x7d\x7d' \x7bin\x7d\x7bnote\x7d \x7belse\x7d > \x7bout\x7d"
      ["in", "note", "out"]⟩

/-- The marks of its ports. -/
def Specimen.marks (name : String) : Option String :=
  [("in", "<in>"), ("note", "[note]"), ("out", "<out>")].lookup name

/-- The slots of its ports are there, and they are filled. -/
theorem Specimen.fill_count :
    (∀ port ∈ count.ports, count.template.slots.contains port.name = true) ∧
      count.template.fill marks = .ok "awk '\x7b<in>\x7d' <in>[note] \x7belse\x7d > <out>" := by
  decide +kernel

theorem Specimen.isDefined_count : count.IsDefined :=
  ModuleDef.isDefined_of rfl rfl fill_count.1

/-- The summary of that module: braces around a slot stay, and so does the slot of no port. -/
theorem ModuleDef.summary_fills_count :
    Specimen.count.IsDefined ∧ Specimen.count.Shows Specimen.marks ∧
      Specimen.count.template.fill Specimen.marks =
        .ok "awk '\x7b<in>\x7d' <in>[note] \x7belse\x7d > <out>" ∧
      Specimen.count.summary = "count 'awk '\x7b<in>\x7d' <in>[note] \x7belse\x7d > <out>'" := by
  have hshows : Specimen.count.Shows Specimen.marks := by
    unfold Shows
    decide
  obtain ⟨text, hfill, hsummary⟩ := Specimen.isDefined_count.summary_fills.2 _ hshows
  obtain rfl := Except.ok.inj (Specimen.fill_count.2.symm.trans hfill)
  exact ⟨Specimen.isDefined_count, hshows, hfill, hsummary⟩

end Flowscript
