import Flowscript.Programs.Shell.Quoting
import Flowscript.Programs.Shell.StatementReading

/-!
# Words that are read as they are written

A word of a script may be put together of pieces: characters between single quotes, characters after
a backslash, and characters that stand for themselves.  Such a word is read piece by piece, and it
is a token that is kept.

* `Piece` is a piece of a word with what its kind asks of it.
* `Source.Yields` is what reading something comes to, with a lemma for each way to put readings
  together.
* `Source.yields_parts_piece` is the step, and `Source.yields_readWord` reads a whole word.
* `Source.Facing` and `Source.Holding` say where reading stands.
* `Source.yields_readToken_word` and its like read tokens: a word that is no keyword, the sign for an
  output, and the end of the script.
-/

set_option autoImplicit false

namespace Flowscript.Shell

/-! ## What is written -/

/-- Whether a character stands for itself, wherever it is in a word. -/
def isBare (c : Char) : Bool := !(Quoting.specials.contains c || c == '~' || c == '#')

theorem isBare_iff {c : Char} :
    isBare c = true ↔ c ∉ Quoting.specials ∧ c ≠ '~' ∧ c ≠ '#' := by
  simp [isBare, and_assoc]

theorem ne_of_isBare {c d : Char} (hc : isBare c = true) (hd : isBare d = false) : c ≠ d := by
  rintro rfl
  rw [hc] at hd
  cases hd

/-- A piece of a word. -/
inductive Piece where
  | quoted (inside : Octets) (hquote : '\'' ∉ inside) (hline : '\n' ∉ inside)
  | escaped (c : Char) (hline : c ≠ '\n')
  | bare (c : Char) (hbare : isBare c = true)

namespace Piece

/-- How a piece is written. -/
def written : Piece → Octets
  | quoted inside _ _ => '\'' :: (inside ++ ['\''])
  | escaped c _ => ['\\', c]
  | bare c _ => [c]

/-- The parts of a word that a piece is read as. -/
def parts : Piece → Word
  | quoted inside _ _ => .mark :: inside.map .literal ++ [.mark]
  | escaped c _ => [.literal c]
  | bare c _ => [.plain c]

/-- What a piece stands for. -/
def value : Piece → Octets
  | quoted inside _ _ => inside
  | escaped c _ => [c]
  | bare c _ => [c]

theorem length_le_written (ps : List Piece) : ps.length ≤ (ps.flatMap written).length := by
  induction ps with
  | nil => exact Nat.zero_le _
  | cons p ps ih =>
    have hp : 0 < p.written.length := by cases p <;> simp [written]
    rw [List.flatMap_cons, List.length_append, List.length_cons]
    omega

end Piece

namespace Source

/-! ## What reading comes to -/

/-- Reading something works, and a condition holds of what is read and of where reading stands
then. -/
def Yields {α : Type} (act : Reading α) (s : Source) (Q : α → Source → Prop) : Prop :=
  ∃ a s', act.run.run s = (.ok a, s') ∧ Q a s'

variable {α β : Type} {s : Source} {Q : α → Source → Prop}

theorem Yields.imp {act : Reading α} {Q' : α → Source → Prop} (h : Yields act s Q)
    (himp : ∀ a s', Q a s' → Q' a s') : Yields act s Q' := by
  obtain ⟨a, s', hrun, hq⟩ := h
  exact ⟨a, s', hrun, himp a s' hq⟩

theorem yields_pure {a : α} : Yields (pure a) s Q ↔ Q a s := by
  constructor
  · rintro ⟨a', s', h, hq⟩
    cases h
    exact hq
  · exact fun h => ⟨a, s, rfl, h⟩

theorem yields_bind {x : Reading β} {f : β → Reading α} :
    Yields (x >>= f) s Q ↔ Yields x s fun b s' => Yields (f b) s' Q := by
  have hrun : (x >>= f).run.run s = match x.run.run s with
      | (.ok b, s') => (f b).run.run s'
      | (.error e, s') => (.error e, s') := by
    rw [ExceptT.run_bind, StateT.run_bind]
    cases x.run.run s with
    | mk result s' => cases result <;> rfl
  rw [Yields, hrun]
  constructor
  · rintro ⟨a, s'', h, hq⟩
    split at h
    · rename_i b s' hx
      exact ⟨b, s', hx, a, s'', h, hq⟩
    · cases h
  · rintro ⟨b, s', hx, a, s'', h, hq⟩
    exact ⟨a, s'', by rw [hx]; exact h, hq⟩

theorem yields_get {Q : Source → Source → Prop} : Yields get s Q ↔ Q s s := by
  constructor
  · rintro ⟨a', s', h, hq⟩
    cases h
    exact hq
  · exact fun h => ⟨s, s, rfl, h⟩

theorem yields_modify {Q : Unit → Source → Prop} {f : Source → Source} :
    Yields (modify f) s Q ↔ Q () (f s) := by
  constructor
  · rintro ⟨a', s', h, hq⟩
    cases h
    exact hq
  · exact fun h => ⟨(), f s, rfl, h⟩

theorem yields_set {Q : Unit → Source → Prop} {s' : Source} :
    Yields (set s') s Q ↔ Q () s' := by
  constructor
  · rintro ⟨a', s'', h, hq⟩
    cases h
    exact hq
  · exact fun h => ⟨(), s', rfl, h⟩

/-! ## Characters -/

/-- The next character, where the line is not continued. -/
theorem yields_peekOn? {Q : Option Char → Source → Prop} (h : ∀ r, s.rest ≠ '\\' :: '\n' :: r) :
    Yields peekOn? s Q ↔ Q s.rest.head? s := by
  rw [peekOn?, yields_bind, yields_get]
  split
  · rename_i r hrest
    exact absurd hrest (h r)
  · rename_i c r hne hrest
    rw [yields_pure, hrest, List.head?_cons]
  · rename_i hrest
    rw [yields_pure, hrest, List.head?_nil]

theorem yields_advance {Q : Unit → Source → Prop} {c : Char} {rest : List Char}
    (h : s.rest = c :: rest) (hc : c ≠ '\n') :
    Yields advance s Q ↔ Q () { s with rest := rest } := by
  rw [advance, yields_modify, h]
  simp [hc]

/-- Another character is left where it is. -/
theorem yields_accept {Q : Bool → Source → Prop} {c : Char}
    (hon : ∀ r, s.rest ≠ '\\' :: '\n' :: r) (h : s.rest.head? ≠ some c) :
    Yields (accept c) s Q ↔ Q false s := by
  rw [accept, yields_bind, yields_peekOn? hon, if_neg (by simpa using h), yields_pure]

/-! ## Words -/

/-- Between the words of a script. -/
def inScript (line : Nat) : Context := ⟨.script, line, false, false, false⟩

/-- Where a word ends: with the script, at a space, and before a file for the output. -/
inductive Stop : List Char → Prop where
  | finish : Stop []
  | space (rest : List Char) : Stop (' ' :: rest)
  | sign (rest : List Char) : Stop ('>' :: ' ' :: rest)

variable {body : Bool → Reading (Option Statement)} {fuel line opened : Nat} {before : Word}
  {rest : List Char}

theorem yields_parts_quoted {Q : Word → Source → Prop} {inside : Octets} (hquote : '\'' ∉ inside)
    (hline : '\n' ∉ inside) (h : s.rest = '\'' :: (inside ++ '\'' :: rest)) :
    Yields (parts body (fuel + 1) (inScript line) false opened 0 before) s Q ↔
      Yields (parts body fuel (inScript line) false opened 0
        ((Piece.quoted inside hquote hline).parts.reverse ++ before))
        { s with rest := rest } Q := by
  have htake : (inside ++ '\'' :: rest).takeWhile (· != '\'') = inside := by
    rw [List.takeWhile_append_of_pos]
    · simp
    · intro c hc
      rw [bne_iff_ne]
      rintro rfl
      exact hquote hc
  have hcount : inside.count '\n' = 0 := List.count_eq_zero.2 hline
  rw [parts]
  simp only [inScript, yields_bind]
  rw [yields_peekOn? (by simp [h]), h]
  simp only [List.head?_cons, yields_bind, yields_get, Char.reduceBEq, Bool.false_eq_true,
    if_false, if_true]
  rw [yields_advance h (by decide), singleQuoted, yields_bind, yields_get]
  simp only [htake, hcount, List.drop_left, yields_bind, yields_set, yields_pure, Nat.add_zero]
  rfl

theorem yields_parts_escaped {Q : Word → Source → Prop} {c : Char} (hline : c ≠ '\n')
    (h : s.rest = '\\' :: c :: rest) :
    Yields (parts body (fuel + 1) (inScript line) false opened 0 before) s Q ↔
      Yields (parts body fuel (inScript line) false opened 0
        ((Piece.escaped c hline).parts.reverse ++ before)) { s with rest := rest } Q := by
  rw [parts]
  simp only [inScript, yields_bind]
  rw [yields_peekOn? (by simp [h, hline]), h]
  simp only [List.head?_cons, beq_self_eq_true, if_true, yields_bind, escaped]
  rw [yields_advance h (by decide)]
  simp only [peek?, yields_bind, yields_get, yields_pure, List.head?_cons]
  rw [yields_advance rfl hline]
  rfl

theorem yields_parts_bare {Q : Word → Source → Prop} {c : Char} (hbare : isBare c = true)
    (h : s.rest = c :: rest) (hgroups : s.takesGroups = false) :
    Yields (parts body (fuel + 1) (inScript line) false opened 0 before) s Q ↔
      Yields (parts body fuel (inScript line) false opened 0
        ((Piece.bare c hbare).parts.reverse ++ before)) { s with rest := rest } Q := by
  have hbeq : ∀ d, isBare d = false → (c == d) = false := fun d hd =>
    beq_eq_false_iff_ne.2 (ne_of_isBare hbare hd)
  have hend : endsWord c = false := by
    simp only [endsWord, Bool.or_eq_false_iff]
    refine ⟨⟨⟨⟨⟨⟨⟨⟨⟨?_, ?_⟩, ?_⟩, ?_⟩, ?_⟩, ?_⟩, ?_⟩, ?_⟩, ?_⟩, ?_⟩ <;> exact hbeq _ (by decide)
  rw [parts]
  simp only [inScript, yields_bind]
  rw [yields_peekOn? (by simp [h, ne_of_isBare hbare (d := '\\') (by decide)]), h]
  simp only [List.head?_cons, yields_bind, yields_get, hbeq '\\' (by decide), hbeq '$' (by decide),
    hbeq '\x60' (by decide), hbeq '"' (by decide), hbeq '\'' (by decide), hbeq '<' (by decide),
    hbeq '>' (by decide), hbeq '(' (by decide), hbeq '[' (by decide), hgroups, hend, Bool.or_self,
    Bool.and_false, Bool.false_and, Bool.false_eq_true, if_false, bne_self_eq_false,
    beq_self_eq_true]
  rw [yields_advance h (ne_of_isBare hbare (by decide)), ← hgroups]
  rfl

/-- **A piece is read as its parts.** -/
theorem yields_parts_piece {Q : Word → Source → Prop} (p : Piece)
    (h : s.rest = p.written ++ rest) (hgroups : s.takesGroups = false) :
    Yields (parts body (fuel + 1) (inScript line) false opened 0 before) s Q ↔
      Yields (parts body fuel (inScript line) false opened 0 (p.parts.reverse ++ before))
        { s with rest := rest } Q := by
  cases p with
  | quoted inside hquote hline =>
    exact yields_parts_quoted hquote hline (by simpa [Piece.written] using h)
  | escaped c hline => exact yields_parts_escaped hline h
  | bare c hbare => exact yields_parts_bare hbare h hgroups

theorem yields_parts_stop {Q : Word → Source → Prop} (h : Stop s.rest) :
    Yields (parts body (fuel + 1) (inScript line) false opened 0 before) s Q ↔
      Q before.reverse s := by
  rw [parts]
  simp only [inScript, yields_bind]
  generalize hrest : s.rest = rest at h
  cases h with
  | finish =>
    rw [yields_peekOn? (by simp [hrest]), hrest]
    exact yields_pure
  | space rest =>
    rw [yields_peekOn? (by simp [hrest]), hrest]
    simp only [List.head?_cons, yields_bind, yields_get, Char.reduceBEq, Bool.false_eq_true,
      if_false, Bool.and_false, Bool.or_self, Bool.false_and, opensGroup, bne_self_eq_false,
      beq_self_eq_true, endsWord, Bool.true_or, Bool.and_self, if_true, yields_pure]
  | sign rest =>
    rw [yields_peekOn? (by simp [hrest]), hrest]
    simp only [hrest, List.head?_cons, yields_bind, yields_get, Char.reduceBEq, Bool.false_eq_true,
      if_false, Bool.and_false, Bool.or_self, Bool.false_and, opensGroup, bne_self_eq_false,
      beq_self_eq_true, endsWord, Bool.and_self, if_true, yields_pure, List.drop_succ_cons,
      List.drop_zero, Option.some_beq_some, Bool.or_true, Bool.or_false]

/-- Pieces are read up to where the word ends, by induction on them. -/
theorem yields_parts {Q : Word → Source → Prop} (ps : List Piece)
    (h : s.rest = ps.flatMap Piece.written ++ rest) (hstop : Stop rest)
    (hgroups : s.takesGroups = false) (hfuel : ps.length < fuel) :
    Yields (parts body fuel (inScript line) false opened 0 before) s Q ↔
      Q (before.reverse ++ ps.flatMap Piece.parts) { s with rest := rest } := by
  induction ps generalizing s before fuel with
  | nil =>
    obtain ⟨fuel, rfl⟩ := Nat.exists_eq_add_of_lt hfuel
    have hrest : s.rest = rest := h
    rw [yields_parts_stop (hrest ▸ hstop), ← hrest]
    simp
  | cons p ps ih =>
    obtain ⟨fuel, rfl⟩ := Nat.exists_eq_add_one_of_ne_zero (Nat.ne_zero_of_lt hfuel)
    rw [List.flatMap_cons, List.append_assoc] at h
    rw [yields_parts_piece p h hgroups,
      ih (s := { s with rest := ps.flatMap Piece.written ++ rest }) rfl hgroups
        (Nat.lt_of_succ_lt_succ hfuel)]
    simp

/-- **A word is read as the parts of its pieces.** -/
theorem yields_readWord {Q : Word → Source → Prop} (ps : List Piece)
    (h : s.rest = ps.flatMap Piece.written ++ rest) (hstop : Stop rest)
    (hgroups : s.takesGroups = false) :
    Yields (readWord body false) s Q ↔ Q (ps.flatMap Piece.parts) { s with rest := rest } := by
  have hfuel : ps.length < 2 * (s.rest.length + 1) := by
    have hlength := Piece.length_le_written ps
    rw [h, List.length_append]
    omega
  rw [readWord]
  simp only [allRest, yields_bind, yields_get, yields_pure]
  exact yields_parts ps h hstop hgroups hfuel

/-! ## Tokens -/

theorem yields_scan_space {Q : Token → Source → Prop} (h : s.rest = ' ' :: rest) :
    Yields (scan body (fuel + 1)) s Q ↔ Yields (scan body fuel) { s with rest := rest } Q := by
  rw [scan, yields_bind, yields_peekOn? (by simp [h]), h]
  simp only [List.head?_cons, yields_bind]
  rw [yields_advance h (by decide)]

theorem yields_scan_finish {Q : Token → Source → Prop} (h : s.rest = []) :
    Yields (scan body (fuel + 1)) s Q ↔ Q .finish s := by
  rw [scan, yields_bind, yields_peekOn? (by simp [h]), h]
  exact yields_pure

/-- What a token that is a word or a redirection does not start with. -/
def startsOther (c : Char) : Bool := " \t#\n&|;()".toList.contains c

theorem yields_scan_start {Q : Token → Source → Prop} {c : Char} (hc : startsOther c = false)
    (h : s.rest = c :: rest) (hon : ∀ r, s.rest ≠ '\\' :: '\n' :: r) :
    Yields (scan body (fuel + 1)) s Q ↔
      Yields (wordToken body) { s with tokenRest := s.rest } Q := by
  have hne : ∀ d, startsOther d = true → c ≠ d := by
    rintro d hd rfl
    rw [hd] at hc
    cases hc
  rw [scan, yields_bind, yields_peekOn? hon, h, List.head?_cons]
  split
  · contradiction
  · rename_i heq
    exact absurd (Option.some.inj heq) (hne _ (by decide))
  · rename_i heq
    exact absurd (Option.some.inj heq) (hne _ (by decide))
  · rename_i heq
    exact absurd (Option.some.inj heq) (hne _ (by decide))
  · rename_i d _ _ _ heq
    obtain rfl := Option.some.inj heq
    rw [yields_bind, yields_modify, h]
    split
    all_goals first
      | exact absurd rfl (hne _ (by decide))
      | rfl

theorem yields_wordToken_sign {Q : Token → Source → Prop} (h : s.rest = '>' :: ' ' :: rest)
    (hgroups : s.takesGroups = false) (hmark : s.checks.endMark = false) :
    Yields (wordToken body) s Q ↔
      Q .redirection { s with
        rest := ' ' :: rest, redirection := .file 1 .output, redirectionName := none } := by
  -- no word stands before the sign
  have hword : s.rest = [].flatMap Piece.written ++ s.rest := rfl
  rw [wordToken, yields_bind, yields_get, yields_bind, hmark,
    yields_readWord [] hword (h ▸ .sign rest) hgroups, yields_bind, yields_peekOn? (by simp [h])]
  simp only [isWide, yields_bind, yields_get, yields_pure, h, List.head?_cons, List.flatMap_nil,
    Word.plainText?, List.mapM_nil, Option.pure_def, Option.some_beq_some, beq_self_eq_true,
    Bool.or_true, if_true, redirectionSign]
  rw [yields_peekOn? (by simp)]
  simp only [List.head?_cons]
  rw [yields_advance rfl (by decide)]
  simp only [beq_self_eq_true, if_true, yields_bind]
  rw [yields_accept (by simp) (by simp)]
  simp only [Bool.false_eq_true, if_false, yields_bind]
  rw [yields_accept (by simp) (by simp)]
  simp only [Bool.false_eq_true, if_false, yields_bind]
  rw [yields_accept (by simp) (by simp)]
  simp only [Bool.false_eq_true, if_false, yields_bind, yields_pure, yields_modify,
    Option.getD_none]

theorem yields_wordToken_word {Q : Token → Source → Prop} (ps : List Piece)
    (h : s.rest = ps.flatMap Piece.written ++ rest) (hend : ∀ c ∈ rest.head?, c = ' ')
    (hgroups : s.takesGroups = false) (hmark : s.checks.endMark = false) :
    Yields (wordToken body) s Q ↔
      Q .word { s with rest := rest, word := ps.flatMap Piece.parts } := by
  have hstop : Stop rest ∧ (rest.head? == some '<' || rest.head? == some '>') = false := by
    cases rest with
    | nil => exact ⟨.finish, rfl⟩
    | cons c r =>
      obtain rfl := hend c rfl
      exact ⟨.space r, rfl⟩
  have hon : ∀ r, rest ≠ '\\' :: '\n' :: r := by
    rintro r rfl
    exact absurd (hend _ rfl) (by decide)
  rw [wordToken, yields_bind, yields_get, yields_bind, hmark, yields_readWord ps h hstop.1 hgroups,
    yields_bind, yields_peekOn? hon]
  simp only [isWide, yields_bind, yields_get, yields_pure, hstop.2, Bool.false_eq_true, if_false,
    yields_modify]

/-- The first character of a word does not hide that it is one. -/
theorem exists_written_eq {ps : List Piece} (hps : ps ≠ []) :
    ∃ c r, ps.flatMap Piece.written = c :: r ∧ startsOther c = false ∧
      ∀ more r', c :: r ++ more ≠ '\\' :: '\n' :: r' := by
  obtain ⟨p, ps, rfl⟩ := List.exists_cons_of_ne_nil hps
  rw [List.flatMap_cons]
  cases p with
  | quoted inside hquote hline => exact ⟨'\'', _, rfl, by decide, by simp⟩
  | escaped c hline => exact ⟨'\\', _, rfl, by decide, by simp [hline]⟩
  | bare c hbare =>
    refine ⟨c, _, rfl, ?_, fun more r' heq => ?_⟩
    · have hother : ∀ d ∈ " \t#\n&|;()".toList, isBare d = false := by decide
      rw [startsOther, Bool.eq_false_iff, ne_eq, List.contains_iff_mem]
      exact fun hmem => ne_of_isBare hbare (hother c hmem) rfl
    · exact ne_of_isBare hbare (by decide) (List.cons.inj heq).1

theorem yields_scan_word {Q : Token → Source → Prop} {ps : List Piece} (hps : ps ≠ [])
    (h : s.rest = ps.flatMap Piece.written ++ rest) (hend : ∀ c ∈ rest.head?, c = ' ')
    (hgroups : s.takesGroups = false) (hmark : s.checks.endMark = false) :
    Yields (scan body (fuel + 1)) s Q ↔
      Q .word { s with tokenRest := s.rest, rest := rest, word := ps.flatMap Piece.parts } := by
  obtain ⟨c, r, hstart, hother, hon⟩ := exists_written_eq hps
  have hrest : s.rest = c :: (r ++ rest) := by
    rw [h, hstart]
    rfl
  rw [yields_scan_start hother hrest (by rw [hrest]; exact hon rest)]
  exact yields_wordToken_word ps h hend hgroups hmark

/-! ## Tokens that are kept

A word may still be a keyword or an alias, and then it is another token or is read once more. -/

/-- A word that is no keyword. -/
def NoKeyword (d : Dialect) (w : Word) : Prop :=
  ∀ o, w.plainText? = some o → (Keyword.spellingsIn d).lookup (String.ofList o) = none

/-- Nothing is to be looked up for a token. -/
structure Settled (checks : Checks) (t : Token) (s : Source) : Prop where
  aliases : s.aliases = []
  keyword : t = .word → (checks.or s.checks).keywords = true → NoKeyword s.dialect s.word

/-- After a token. -/
def kept (s : Source) (t : Token) : Source := { s with token := t, checks := .none }

/-- The next token, or the last one once more if it was put back. -/
def fresh (body : Bool → Reading (Option Statement)) : Reading Token := do
  let s ← get
  if s.isBack then
    set { s with isBack := false }
    pure s.token
  else scan body (← allRest)

theorem yields_settled {Q : Token → Source → Prop} {checks : Checks} {t : Token}
    {found : Keyword → Reading Token} {other : Octets → Octets → Reading Token}
    (hs : Settled checks t s) (hq : Q t (s.kept t)) :
    Yields (match if t == .word then s.word.plainText? else none with
      | none => do
        modify ({ · with token := t, checks := .none })
        return t
      | some text =>
        match if (checks.or s.checks).keywords then
            (Keyword.spellingsIn s.dialect).lookup (String.ofList text) else none with
        | some keyword => found keyword
        | none =>
          match if (checks.or s.checks).aliases && !s.aliases.isEmpty then
              aliasOf? s (String.ofList text) else none with
          | none => do
            modify ({ · with token := t, checks := .none })
            return t
          | some value => other text value) s Q := by
  have hkept : Yields (do
      modify ({ · with token := t, checks := .none })
      return t) s Q := by
    rw [yields_bind, yields_modify, yields_pure]
    exact hq
  split
  · exact hkept
  · rename_i text htext
    obtain ⟨htoken, hplain⟩ : t = .word ∧ s.word.plainText? = some text := by simpa using htext
    have hlookup : (if (checks.or s.checks).keywords then
        (Keyword.spellingsIn s.dialect).lookup (String.ofList text) else none) = none := by
      split
      · rename_i hkeywords
        exact hs.keyword htoken hkeywords text hplain
      · rfl
    rw [hlookup]
    simp only [hs.aliases, List.isEmpty_nil, Bool.not_true, Bool.and_false, Bool.false_eq_true,
      if_false]
    exact hkept

theorem yields_readTokenWith {Q : Token → Source → Prop} {checks : Checks}
    (hnewlines : checks.newlines = false)
    (h : Yields (fresh body) s fun t s' => Settled checks t s' ∧ Q t (s'.kept t)) :
    Yields (readTokenWith body (fuel + 1) checks) s Q := by
  rw [readTokenWith]
  simp only [fresh, yields_bind, yields_get, hnewlines, Bool.false_eq_true, if_false] at h ⊢
  split at h
  · rename_i hback
    rw [if_pos hback]
    simp only [yields_bind, yields_set, yields_pure, yields_get] at h ⊢
    exact yields_settled h.1 h.2
  · rename_i hback
    rw [if_neg hback]
    simp only [allRest, yields_bind, yields_pure, yields_get] at h ⊢
    exact h.imp fun t s' hs => yields_settled hs.1 hs.2

theorem yields_readToken {Q : Token → Source → Prop} (hnewlines : s.checks.newlines = false)
    (h : Yields (fresh body) s fun t s' => Settled s.checks t s' ∧ Q t (s'.kept t)) :
    Yields (readToken body) s Q := by
  obtain ⟨fuel, hfuel⟩ : ∃ fuel, 1000 = fuel + 1 := ⟨999, rfl⟩
  rw [readToken, yields_bind, yields_get, hfuel]
  exact yields_readTokenWith hnewlines h

/-! ## Where reading stands -/

/-- A script of which `rest` is left, whose last token may have been put back. -/
structure Facing (s : Source) (d : Dialect) (n : Nat) (rest : List Char) (isBack : Bool) :
    Prop where
  dialect : s.dialect = d
  line : s.line = n
  rest : s.rest = rest
  isBack : s.isBack = isBack
  aliases : s.aliases = []
  awaited : s.awaited = []
  takesGroups : s.takesGroups = false

/-- The last token and word are known as well. -/
structure Holding (s : Source) (d : Dialect) (n : Nat) (rest : List Char) (isBack : Bool)
    (t : Token) (w : Word) : Prop extends Facing s d n rest isBack where
  token : s.token = t
  word : s.word = w
  checks : s.checks = .none

variable {d : Dialect} {n : Nat} {t : Token} {w : Word} {isBack : Bool}

theorem Holding.pushed (h : s.Holding d n rest isBack t w) :
    Holding { s with isBack := true } d n rest true t w :=
  { h with isBack := rfl }

/-- A token that was put back is read once more. -/
theorem yields_reread {Q : Token → Source → Prop} (h : s.Facing d n rest true)
    (hnewlines : s.checks.newlines = false) (hkeywords : s.checks.keywords = false)
    (hQ : ∀ s', s'.Holding d n rest false s.token s.word → Q s.token s') :
    Yields (readToken body) s Q := by
  refine yields_readToken hnewlines ?_
  rw [fresh, yields_bind, yields_get, if_pos h.isBack, yields_bind, yields_set, yields_pure]
  refine ⟨⟨h.aliases, fun _ hor => ?_⟩, hQ _ ?_⟩
  · simp [Checks.or, hkeywords] at hor
  · exact ⟨{ h with isBack := rfl }, rfl, rfl, rfl⟩

theorem Holding.yields_reread {Q : Token → Source → Prop} (h : s.Holding d n rest true t w)
    (hQ : ∀ s', s'.Holding d n rest false t w → Q t s') : Yields (readToken body) s Q := by
  refine Source.yields_reread h.toFacing (by rw [h.checks]; rfl) (by rw [h.checks]; rfl) ?_
  rw [h.token, h.word]
  exact hQ

/-- Where no token was put back, the script is read. -/
theorem Facing.yields_fresh {Q : Token → Source → Prop} (h : s.Facing d n rest false) :
    Yields (fresh body) s Q ↔ Yields (scan body (rest.length + 1)) s Q := by
  rw [fresh, yields_bind, yields_get, if_neg (by rw [h.isBack]; decide), allRest, yields_bind,
    yields_bind, yields_get, yields_pure, h.rest]

/-- **A word is read as a word**, after a space or at once. -/
theorem yields_readToken_word {Q : Token → Source → Prop} {ps : List Piece} (hps : ps ≠ [])
    {blank : List Char} (hblank : blank = [] ∨ blank = [' '])
    (h : s.Facing d n (blank ++ ps.flatMap Piece.written ++ rest) false)
    (hend : ∀ c ∈ rest.head?, c = ' ')
    (hnewlines : s.checks.newlines = false) (hmark : s.checks.endMark = false)
    (hkeywords : s.checks.keywords = true → NoKeyword d (ps.flatMap Piece.parts))
    (hQ : ∀ s', s'.Holding d n rest false .word (ps.flatMap Piece.parts) → Q .word s') :
    Yields (readToken body) s Q := by
  have hpost (tokenRest : List Char) :
      let s' : Source := { s with tokenRest, rest, word := ps.flatMap Piece.parts }
      Settled s.checks .word s' ∧ Q .word (s'.kept .word) := by
    refine ⟨⟨h.aliases, fun _ hor => ?_⟩, hQ _ ⟨{ h with rest := rfl }, rfl, rfl, rfl⟩⟩
    have hkeyword := hkeywords (by simpa [Checks.or] using hor)
    exact h.dialect ▸ hkeyword
  refine yields_readToken hnewlines (h.yields_fresh.2 ?_)
  rcases hblank with rfl | rfl
  · refine (yields_scan_word hps h.rest hend h.takesGroups hmark).2 ?_
    exact hpost _
  · refine (yields_scan_space h.rest).2 ?_
    refine (yields_scan_word (s := { s with rest := ps.flatMap Piece.written ++ rest }) hps rfl hend
      h.takesGroups hmark).2 ?_
    exact hpost _

/-- **The sign of an output is read as a redirection.** -/
theorem yields_readToken_sign {Q : Token → Source → Prop}
    (h : s.Facing d n (' ' :: '>' :: ' ' :: rest) false)
    (hnewlines : s.checks.newlines = false) (hmark : s.checks.endMark = false)
    (hQ : ∀ s', s'.Holding d n (' ' :: rest) false .redirection s.word →
      s'.redirection = .file 1 .output → s'.redirectionName = none → Q .redirection s') :
    Yields (readToken body) s Q := by
  refine yields_readToken hnewlines (h.yields_fresh.2 ((yields_scan_space h.rest).2 ?_))
  have hother : startsOther '>' = false := by decide
  refine (yields_scan_start (s := { s with rest := '>' :: ' ' :: rest }) hother rfl (by simp)).2 ?_
  refine (yields_wordToken_sign (s := { s with
    tokenRest := '>' :: ' ' :: rest, rest := '>' :: ' ' :: rest }) rfl h.takesGroups hmark).2 ?_
  exact ⟨⟨h.aliases, fun heq => by cases heq⟩,
    hQ _ ⟨{ h with rest := rfl }, rfl, rfl, rfl⟩ rfl rfl⟩

/-- **The end of the script is a token.** -/
theorem yields_readToken_finish {Q : Token → Source → Prop}
    (h : s.Facing d n [] false) (hnewlines : s.checks.newlines = false)
    (hQ : ∀ s', s'.Holding d n [] false .finish s.word → Q .finish s') :
    Yields (readToken body) s Q := by
  refine yields_readToken hnewlines (h.yields_fresh.2 ((yields_scan_finish h.rest).2 ?_))
  exact ⟨⟨h.aliases, fun heq => by cases heq⟩, hQ _ ⟨{ h with }, rfl, rfl, rfl⟩⟩

end Source

end Flowscript.Shell
