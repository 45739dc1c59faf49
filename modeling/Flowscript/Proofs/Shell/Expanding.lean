import Flowscript.Proofs.Shell.Reading
import Flowscript.Programs.Shell.Redirecting

/-!
# Words that stand for themselves

A word of pieces asks nothing of the shell: whatever it knows, and whatever its means are, such a
word is one argument, or one path, that is put together of the values of the pieces.

* `Inert` are the parts of such words.
* `run_expandParts` goes through a word part by part, and `Spells` is what comes of it.
* `run_mapM_expandFields` and `run_expandRedirections` are the results for words and for files.
* `Piece.inert_of_mem_parts` and `Piece.text_parts` are about words of pieces.
-/

set_option autoImplicit false

namespace Flowscript.Shell

/-! ## Parts that stand for themselves -/

/-- A part of a word that stands for itself, whatever the shell knows. -/
inductive Inert : WordPart → Prop where
  | plain (c : Char) (h : isBare c = true) : Inert (.plain c)
  | literal (c : Char) : Inert (.literal c)
  | mark : Inert .mark

/-- What such a part becomes. -/
def WordPart.field : WordPart → Field
  | .plain c => [.plain c]
  | .literal c => [.literal c]
  | .mark => [.mark]
  | _ => []

theorem field_map_plain (o : Octets) :
    (o.map WordPart.plain).flatMap WordPart.field = valueParts false o := by
  rw [List.flatMap_map, valueParts, List.map_eq_flatMap]
  rfl

section Parts

variable {w : Word} (hw : ∀ part ∈ w, Inert part)

include hw

theorem text_field : Field.text (w.flatMap WordPart.field) = Word.text w := by
  induction w with
  | nil => rfl
  | cons part rest ih =>
    have hrest := ih fun other hother => hw other (List.mem_cons_of_mem _ hother)
    rw [List.flatMap_cons, Field.text, List.filterMap_append, Word.text, List.filterMap_cons]
    rw [Field.text, Word.text] at hrest
    cases hw part List.mem_cons_self <;>
      simp [WordPart.field, Word.charOf?, FieldPart.char?, hrest]

theorem field_ne_nil (hne : w ≠ []) : w.flatMap WordPart.field ≠ [] := by
  obtain ⟨part, rest, rfl⟩ := List.exists_cons_of_ne_nil hne
  rw [List.flatMap_cons]
  cases hw part List.mem_cons_self <;> exact List.cons_ne_nil _ _

/-- No names of files are looked for. -/
theorem hasOpenChar_field : Field.hasOpenChar (w.flatMap WordPart.field) = false := by
  rw [Field.hasOpenChar, List.any_flatMap, List.any_eq_false]
  intro part hpart
  cases hw part hpart with
  | plain c h =>
    have hne : ∀ d, isBare d = false → c ≠ d := fun d hd => ne_of_isBare h hd
    simp [WordPart.field, hne '*' (by decide), hne '?' (by decide), hne '[' (by decide),
      hne '(' (by decide)]
  | literal c => simp [WordPart.field]
  | mark => simp [WordPart.field]

/-- There are no braces with alternatives. -/
theorem unbraced_eq : w.unbraced = [w] := by
  rw [Word.unbraced]
  refine if_neg ?_
  rw [Bool.not_eq_true, List.any_eq_false]
  intro part hpart
  cases hw part hpart with
  | plain c h =>
    split
    · rename_i heq
      cases heq
      revert h
      decide
    · decide
  | literal c => exact Bool.false_ne_true
  | mark => exact Bool.false_ne_true

/-- No home is meant. -/
theorem home?_eq_none (s : Memory) (inAssignment : Bool) : home? s inAssignment w = none := by
  cases w with
  | nil => rfl
  | cons part rest =>
    cases hw part List.mem_cons_self with
    | plain c h =>
      rw [home?]
      rintro rest' heq
      cases heq
      exact ne_of_isBare h (by decide) rfl
    | literal c => rfl
    | mark => rfl

end Parts

/-- The plain characters at the start of a word, and the rest of it. -/
theorem plainRun_spec (stops : Char → Bool) (w : Word) :
    (plainRun stops w).1.map WordPart.plain ++ (plainRun stops w).2 = w := by
  induction w with
  | nil => rfl
  | cons part rest ih =>
    cases part with
    | plain c =>
      rw [plainRun]
      split
      · rfl
      · exact congrArg (WordPart.plain c :: ·) ih
    | _ => rfl

theorem plainRun_ne_nil (stops : Char → Bool) (c : Char) (rest : Word) :
    (plainRun stops (.plain c :: rest)).1 ≠ [] := by
  rw [plainRun]
  split <;> exact List.cons_ne_nil _ _

/-! ## Segments -/

/-- Segments that are not cut anywhere, the last one first, and what they come to. -/
structure Spells (segments : Segments) (f : Field) : Prop where
  cutting : ∀ g ∈ segments, g.cutting = .nowhere
  parts : segments.reverse.flatMap (·.parts) = f

theorem Spells.before {segments : Segments} {f : Field} (h : Spells segments f) (parts : Field) :
    Spells (segments ++ one parts .nowhere) (parts ++ f) where
  cutting := by
    intro g hg
    rcases List.mem_append.1 hg with hg | hg
    · exact h.cutting g hg
    · rw [List.mem_singleton.1 hg]
  parts := by
    rw [List.reverse_append, List.flatMap_append, h.parts]
    simp [one]

theorem foldl_over {separators : Octets} {segments : List Segment}
    (h : ∀ g ∈ segments, g.cutting = .nowhere) (cut : Segment.Cut) (isNulls : Bool) :
    segments.foldl (fun (cut, isNulls) g => (Segment.Cut.over separators isNulls cut g,
      if g.cutting == .nowhere then isNulls else g.cutting == .nulls)) (cut, isNulls) =
    ({ cut with present := (segments.flatMap (·.parts)).reverse ++ cut.present }, isNulls) := by
  induction segments generalizing cut with
  | nil => rfl
  | cons g rest ih =>
    have hg := h g List.mem_cons_self
    have hover : Segment.Cut.over separators isNulls cut g =
        { cut with present := g.parts.reverse ++ cut.present } := by
      rw [Segment.Cut.over, hg]
    have hnulls : (if g.cutting == .nowhere then isNulls else g.cutting == .nulls) = isNulls := by
      rw [hg]
      rfl
    rw [List.foldl_cons]
    change List.foldl _ (Segment.Cut.over separators isNulls cut g,
      if g.cutting == .nowhere then isNulls else g.cutting == .nulls) rest = _
    rw [hover, hnulls, ih fun g' hg' => h g' (List.mem_cons_of_mem _ hg')]
    simp

/-- A word that is cut nowhere is one field, if anything is in it. -/
theorem Spells.fields {segments : Segments} {f : Field} (h : Spells segments f) (hf : f ≠ [])
    (separators : Octets) : Segment.fields separators none segments.reverse = [f] := by
  have hcutting : ∀ g ∈ segments.reverse, g.cutting = .nowhere := fun g hg =>
    h.cutting g (List.mem_reverse.1 hg)
  rw [Segment.fields]
  simp only [foldl_over hcutting, h.parts]
  simp [hf]

theorem Spells.text {segments : Segments} {f : Field} (h : Spells segments f) :
    Segment.text segments.reverse = f.text := by
  rw [Segment.text, Segment.whole, h.parts]

/-! ## Going through a word -/

variable {α β : Type} {s s' : Memory} {m : Means} {again : Expanding → Word → Act Segments}

theorem run_get_bind (f : Memory → Act α) : (get >>= f).run.run s = (f s).run.run s := rfl

theorem run_bind_of_eq {x : Act β} {b : β} (h : x.run.run s = pure (.ok b, s')) (f : β → Act α) :
    (x >>= f).run.run s = (f b).run.run s' := by
  change (x.run.run s >>= fun r => _) = _
  rw [h]
  rfl

/-- **Each part becomes what it stands for**, by induction on the steps that are allowed. -/
theorem run_expandParts (fuel : Nat) {e : Expanding} (he : e.isOpen = false) {w : Word}
    (hw : ∀ part ∈ w, Inert part) (hfuel : w.length < fuel) (isInside isTilde afterEquals : Bool)
    (before : Segments) :
    ∃ segments, (expandParts m again fuel e isInside isTilde afterEquals w before).run.run s =
      pure (.ok (segments ++ before), s) ∧ Spells segments (w.flatMap WordPart.field) := by
  induction fuel generalizing w isInside isTilde afterEquals before with
  | zero => exact absurd hfuel (Nat.not_lt_zero _)
  | succ fuel ih =>
    rw [expandParts, run_get_bind, home?_eq_none hw, ite_self]
    cases w with
    | nil => exact ⟨[], rfl, fun _ => by simp, rfl⟩
    | cons part rest =>
      have hrest : ∀ part ∈ rest, Inert part := fun part hpart =>
        hw part (List.mem_cons_of_mem _ hpart)
      have hstep (parts : Field) (hparts : part.field = parts) (isInside : Bool) :
          ∃ segments, (expandParts m again fuel e isInside false afterEquals rest
            (one parts .nowhere ++ before)).run.run s = pure (.ok (segments ++ before), s) ∧
              Spells segments ((part :: rest).flatMap WordPart.field) := by
        obtain ⟨segments, hrun, hspells⟩ := ih hrest (Nat.lt_of_succ_lt_succ hfuel) isInside false
          afterEquals (one parts .nowhere ++ before)
        refine ⟨segments ++ one parts .nowhere, ?_, ?_⟩
        · rw [hrun, List.append_assoc]
        · rw [List.flatMap_cons, hparts]
          exact hspells.before parts
      cases hw part List.mem_cons_self with
      | plain c h =>
        -- all plain characters up to the next part of another kind are taken at once
        simp only [he, Bool.false_and, Bool.false_eq_true, if_false]
        generalize hfound : plainRun _ (.plain c :: rest) = found
        have hwhole : found.1.map .plain ++ found.2 = .plain c :: rest :=
          hfound ▸ plainRun_spec _ (.plain c :: rest)
        have hfirst : found.1 ≠ [] := hfound ▸ plainRun_ne_nil _ c rest
        have hsub : ∀ part ∈ found.2, Inert part := fun part hpart =>
          hw part (hwhole ▸ List.mem_append_right _ hpart)
        have hmore : List.length found.2 < fuel := by
          have hlengths := congrArg List.length hwhole
          have hpos := List.length_pos_iff.2 hfirst
          rw [List.length_append, List.length_map, List.length_cons] at hlengths
          rw [List.length_cons] at hfuel
          omega
        obtain ⟨segments, hrun, hspells⟩ := ih hsub hmore isInside _ _
          (one (valueParts false found.1) .nowhere ++ before)
        refine ⟨segments ++ one (valueParts false found.1) .nowhere, ?_, ?_⟩
        · rw [hrun, List.append_assoc]
        · rw [← hwhole, List.flatMap_append, field_map_plain]
          exact hspells.before _
      | literal c => exact hstep [.literal c] rfl isInside
      | mark =>
        -- only a parameter between two marks is another case
        cases rest with
        | nil => exact hstep [.mark] rfl (!isInside)
        | cons next more =>
          cases hrest next List.mem_cons_self <;> exact hstep [.mark] rfl (!isInside)

section Words

variable {w : Word} (hw : ∀ part ∈ w, Inert part)

include hw

theorem run_expandSegments {e : Expanding} (he : e.isOpen = false) :
    ∃ segments, (expandSegments m deepest e w).run.run s = pure (.ok segments, s) ∧
      Spells segments (w.flatMap WordPart.field) := by
  obtain ⟨depth, hdeepest⟩ : ∃ depth, deepest = depth + 1 := ⟨999999, rfl⟩
  rw [hdeepest, expandSegments]
  obtain ⟨segments, hrun, hspells⟩ := run_expandParts (s := s) (m := m) (w.length + 1) he hw
    (Nat.lt_succ_self _) false (e.tildes != .nowhere) false []
  exact ⟨segments, by rw [hrun, List.append_nil], hspells⟩

theorem run_expandText (tildes : Tildes) :
    (expandText m tildes w).run.run s = pure (.ok w.text, s) := by
  obtain ⟨segments, hrun, hspells⟩ := run_expandSegments (s := s) (m := m) hw
    (e := ⟨false, false, false, tildes⟩) rfl
  rw [expandText, run_bind_of_eq hrun, hspells.text, text_field hw]
  rfl

variable (hne : w ≠ [])

include hne

theorem run_expandBraceless : (expandBraceless m w).run.run s = pure (.ok [w.text], s) := by
  rw [expandBraceless, run_get_bind]
  obtain ⟨segments, hrun, hspells⟩ := run_expandSegments (s := s) (m := m) hw
    (e := ⟨true, false, false,
      if s.isWide && w.assignment?.isSome then .inAssignment else .atStart⟩) rfl
  rw [run_bind_of_eq hrun, run_get_bind, hspells.fields (field_ne_nil hw hne)]
  simp only [List.any_cons, hasOpenChar_field hw, List.any_nil, Bool.or_self, Bool.not_false,
    if_true, ite_self, List.map_cons, List.map_nil, text_field hw]
  rfl

/-- **Such a word is one argument.** -/
theorem run_expandFields : (expandFields m w).run.run s = pure (.ok [w.text], s) := by
  have hone := run_expandBraceless (s := s) (m := m) hw hne
  rw [expandFields, run_get_bind, unbraced_eq hw]
  split
  · have hmap : (List.mapM (expandBraceless m) [w]).run.run s = pure (.ok [[w.text]], s) :=
      run_bind_of_eq hone _
    exact run_bind_of_eq hmap _
  · exact hone

theorem run_expandRedirection (descriptor : Nat) (opening : Opening) :
    (expandRedirection m (.file descriptor opening w)).run.run s =
      pure (.ok [.file descriptor opening w.text], s) := by
  rw [expandRedirection, run_get_bind]
  split
  · have hpath : (widePath m w (.file descriptor opening)).run.run s =
        pure (.ok (.file descriptor opening w.text), s) :=
      run_bind_of_eq (run_expandFields hw hne) _
    exact run_bind_of_eq hpath _
  · exact run_bind_of_eq (run_expandText hw .atStart) _

/-- **Such a word names one file.** -/
theorem run_expandRedirections (descriptor : Nat) (opening : Opening) :
    (expandRedirections m [.file descriptor opening w]).run.run s =
      pure (.ok [.file descriptor opening w.text], s) := by
  have hmap : (List.mapM (expandRedirection m) [.file descriptor opening w]).run.run s =
      pure (.ok [[.file descriptor opening w.text]], s) :=
    run_bind_of_eq (run_expandRedirection hw hne descriptor opening) _
  exact run_bind_of_eq hmap _

end Words

/-- **Words that stand for themselves are as many arguments.** -/
theorem run_mapM_expandFields {words : List Word}
    (hwords : ∀ w ∈ words, w ≠ [] ∧ ∀ part ∈ w, Inert part) :
    (words.mapM (expandFields m)).run.run s = pure (.ok (words.map ([·.text])), s) := by
  have hloop : ∀ known, (List.mapM.loop (expandFields m) words known).run.run s =
      pure (.ok (known.reverse ++ words.map ([·.text])), s) := by
    induction words with
    | nil =>
      intro known
      rw [List.map_nil, List.append_nil]
      rfl
    | cons w rest ih =>
      intro known
      obtain ⟨hne, hw⟩ := hwords w List.mem_cons_self
      rw [List.mapM.loop, run_bind_of_eq (run_expandFields hw hne),
        ih fun other hother => hwords other (List.mem_cons_of_mem _ hother)]
      simp
  exact hloop []

/-! ## Pieces -/

namespace Piece

theorem inert_of_mem_parts {ps : List Piece} : ∀ part ∈ ps.flatMap parts, Inert part := by
  intro part hpart
  obtain ⟨p, -, hp⟩ := List.mem_flatMap.1 hpart
  cases p with
  | quoted inside hquote hline =>
    have hcases : part = .mark ∨ ∃ c ∈ inside, WordPart.literal c = part := by
      simpa [parts, or_comm] using hp
    rcases hcases with rfl | ⟨c, -, rfl⟩
    · exact .mark
    · exact .literal c
  | escaped c hline =>
    rw [List.mem_singleton.1 hp]
    exact .literal c
  | bare c hbare =>
    rw [List.mem_singleton.1 hp]
    exact .plain c hbare

theorem parts_ne_nil {ps : List Piece} (hps : ps ≠ []) : ps.flatMap parts ≠ [] := by
  obtain ⟨p, rest, rfl⟩ := List.exists_cons_of_ne_nil hps
  rw [List.flatMap_cons]
  cases p <;> exact List.cons_ne_nil _ _

/-- The text of a word is what its pieces stand for. -/
theorem text_parts (ps : List Piece) : Word.text (ps.flatMap parts) = ps.flatMap value := by
  induction ps with
  | nil => rfl
  | cons p rest ih =>
    rw [List.flatMap_cons, List.flatMap_cons, ← ih, Word.text, Word.text, List.filterMap_append]
    cases p with
    | quoted inside hquote hline =>
      have hinside : (inside.map WordPart.literal).filterMap Word.charOf? = inside := by
        rw [List.filterMap_map]
        exact List.filterMap_some
      have hmarks : (quoted inside hquote hline).parts.filterMap Word.charOf? = inside := by
        change (inside.map WordPart.literal ++ [WordPart.mark]).filterMap Word.charOf? = inside
        rw [List.filterMap_append, hinside]
        exact List.append_nil inside
      rw [hmarks, value]
    | escaped c hline => rfl
    | bare c hbare => rfl

end Piece

end Flowscript.Shell
