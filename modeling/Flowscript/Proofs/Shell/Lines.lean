import Flowscript.Proofs.Shell.Expanding
import Flowscript.Programs.Shell.Printing
import Flowscript.Programs.Shell.Program

/-!
# Command lines that store a text

A line of words, some of them files for the output, is read as one command with these words.  Such a
line can print a text into a file: the text is put in quotes, and these make it one word.

* `Item` is what may follow the name of a command.
* `Source.yields_simpleRest` reads a command item by item, and `Source.yields_nextStatement` a whole
  line.
* `printed?` is what `printf` prints for the words of a command.
* `Quoting.closed` is a text in quotes, and `isWord_closed` says that it is one word with the text as
  its value.
* `Stores` says that a line prints a text into a file.  `stores_line` is about lines with a text in
  quotes, and `Stores.unique` says that a line stores one text in one file.
-/

set_option autoImplicit false

namespace Flowscript.Shell

/-! ## What follows the name of a command -/

/-- What follows the name of a command: a word, or a file for the output. -/
inductive Item where
  | word (ps : List Piece) (h : ps ≠ [])
  | output (ps : List Piece) (h : ps ≠ [])

namespace Item

/-- How an item is written. -/
def written : Item → Octets
  | word ps _ => ' ' :: ps.flatMap Piece.written
  | output ps _ => ' ' :: '>' :: ' ' :: ps.flatMap Piece.written

/-- The word of an item that is one. -/
def word? : Item → Option Word
  | word ps _ => some (ps.flatMap Piece.parts)
  | output _ _ => none

/-- The redirection of an item that is a file. -/
def redirection? : Item → Option Redirection
  | word _ _ => none
  | output ps _ => some (.file 1 .output (ps.flatMap Piece.parts))

theorem head?_written (items : List Item) : ∀ c ∈ (items.flatMap written).head?, c = ' ' := by
  intro c hc
  cases items with
  | nil => cases hc
  | cons item items => cases item <;> exact (Option.some.inj hc).symm

end Item

/-- The command of a name and what follows it. -/
def simpleStatement (line : Nat) (name : Word) (items : List Item) : Statement :=
  .simple line [] (name :: items.filterMap Item.word?) (items.filterMap Item.redirection?)

/-- The words among items ask nothing of the shell. -/
theorem Item.inert_of_mem {items : List Item} :
    ∀ w ∈ items.filterMap Item.word?, w ≠ [] ∧ ∀ part ∈ w, Inert part := by
  intro w hw
  obtain ⟨item, -, hitem⟩ := List.mem_filterMap.1 hw
  cases item with
  | word ps hps =>
    rw [← Option.some.inj hitem]
    exact ⟨Piece.parts_ne_nil hps, Piece.inert_of_mem_parts⟩
  | output ps hps => cases hitem

namespace Source

variable {s : Source} {body : Bool → Reading (Option Statement)} {fuel line n : Nat}
  {rest : List Char} {d : Dialect} {t : Token} {w : Word}

/-! ## Commands -/

/-- A command with one item more. -/
def PartialCommand.add (p : PartialCommand) (item : Item) : PartialCommand :=
  { p with
    words := item.word?.toList ++ p.words
    redirections := item.redirection?.toList ++ p.redirections }

/-- The statement of a command that got its items. -/
theorem statement_foldl_add (items : List Item) (p : PartialCommand) (line : Nat) :
    (items.foldl PartialCommand.add p).statement line = .simple line p.assignments.reverse
      (p.words.reverse ++ items.filterMap Item.word?)
      (p.redirections.reverse ++ items.filterMap Item.redirection?) := by
  induction items generalizing p with
  | nil => simp [PartialCommand.statement]
  | cons item items ih =>
    rw [List.foldl_cons, ih]
    cases item <;>
      simp [PartialCommand.add, List.filterMap_cons, Item.word?, Item.redirection?]

variable {command : Reading Statement} {p : PartialCommand} {items : List Item}

theorem yields_redirectionTarget {Q : Redirection → Source → Prop} {ps : List Piece} (hps : ps ≠ [])
    (h : s.Holding d n (' ' :: (ps.flatMap Piece.written ++ rest)) false t w)
    (hend : ∀ c ∈ rest.head?, c = ' ')
    (hsign : s.redirection = .file 1 .output) (hname : s.redirectionName = none)
    (hQ : ∀ s', s'.Facing d n rest false → Q (.file 1 .output (ps.flatMap Piece.parts)) s') :
    Yields (redirectionTarget body) s Q := by
  rw [redirectionTarget, yields_bind, yields_get]
  simp only [hsign, hname, yields_bind]
  refine yields_readToken_word hps (.inr rfl) h.toFacing hend (by rw [h.checks]; rfl)
    (by rw [h.checks]; rfl) (by rw [h.checks]; exact fun hfalse => by cases hfalse) fun s' hs' => ?_
  simp only [beq_self_eq_true, if_true, yields_pure, yields_bind, yields_get]
  rw [hs'.word]
  exact hQ s' hs'.toFacing

/-- **A command takes the next item.** -/
theorem yields_simpleRest_item {Q : Statement → Source → Prop} (item : Item)
    (hassign : p.mayAssign = false) (h : s.Facing d n (item.written ++ rest) false)
    (hend : ∀ c ∈ rest.head?, c = ' ')
    (hQ : ∀ s', s'.Facing d n rest false →
      Yields (simpleRest body command line fuel (p.add item)) s' Q) :
    Yields (simpleRest body command line (fuel + 1) p) s Q := by
  rw [simpleRest]
  simp only [hassign, Bool.false_eq_true, if_false, look, yields_bind, yields_modify]
  cases item with
  | word ps hps =>
    refine yields_readToken_word hps (.inr rfl) { h with } hend rfl rfl
      (fun hfalse => by cases hfalse) fun s' hs' => ?_
    simp only [Bool.false_and, Bool.false_eq_true, if_false, yields_bind, yields_get]
    have hadd : p.add (.word ps hps) =
        { p with words := ps.flatMap Piece.parts :: p.words, mayAssign := false } := by
      rw [← hassign]
      rfl
    rw [hs'.word, ← hadd]
    exact hQ _ { hs'.toFacing with }
  | output ps hps =>
    refine yields_readToken_sign { h with } rfl rfl fun s' hs' hsign hname => ?_
    simp only [yields_bind]
    refine yields_redirectionTarget hps { hs' with } hend hsign hname fun s'' hs'' => ?_
    have hadd : p.add (.output ps hps) =
        { p with
          redirections := .file 1 .output (ps.flatMap Piece.parts) :: p.redirections
          mayAssign := false } := by
      rw [← hassign]
      rfl
    rw [← hadd]
    exact hQ s'' hs''

/-- **A command takes all items up to the end of the script.** -/
theorem yields_simpleRest {Q : Statement → Source → Prop} (items : List Item)
    (hassign : p.mayAssign = false) (h : s.Facing d n (items.flatMap Item.written) false)
    (hfuel : items.length < fuel)
    (hQ : ∀ s' w, s'.Holding d n [] true .finish w →
      Q ((items.foldl PartialCommand.add p).statement line) s') :
    Yields (simpleRest body command line fuel p) s Q := by
  induction items generalizing s p fuel with
  | nil =>
    obtain ⟨fuel, rfl⟩ := Nat.exists_eq_add_one_of_ne_zero (Nat.ne_zero_of_lt hfuel)
    rw [simpleRest]
    simp only [hassign, Bool.false_eq_true, if_false, look, yields_bind, yields_modify]
    refine yields_readToken_finish { h with } rfl fun s' hs' => ?_
    simp only [yields_bind, pushBack, yields_modify, yields_pure]
    exact hQ _ _ { hs' with isBack := rfl }
  | cons item items ih =>
    obtain ⟨fuel, rfl⟩ := Nat.exists_eq_add_one_of_ne_zero (Nat.ne_zero_of_lt hfuel)
    rw [List.flatMap_cons] at h
    refine yields_simpleRest_item item hassign h (Item.head?_written items) fun s' hs' => ?_
    exact ih hassign hs' (Nat.lt_of_succ_lt_succ hfuel) hQ

/-- A word that is taken for the name of a command. -/
structure IsName (d : Dialect) (w : Word) : Prop where
  keyword : NoKeyword d w
  assignment : w.assignment? = none
  wideAssignment : w.wideAssignment? = none

theorem yields_commandStep {Q : Statement → Source → Prop}
    {again : Goal → Reading (Option Statement)}
    (h : s.Holding d n (items.flatMap Item.written) true .word w) (hname : IsName d w)
    (hfuel : items.length < fuel)
    (hQ : ∀ s' w', s'.Holding d n [] true .finish w' → Q (simpleStatement n w items) s') :
    Yields (commandStep body again (fuel + 1)) s Q := by
  rw [commandStep, yields_bind, yields_get, yields_bind]
  refine h.yields_reread fun s₁ h₁ => ?_
  have hline : (if s₁.dialect == .wide then s₁.line else s.line) = n := by
    rw [h₁.line, h.line, ite_self]
  simp only [yields_bind, yields_get, pushBack, yields_modify, hline]
  rw [simpleRest]
  simp only [if_true, look, yields_bind, yields_modify]
  refine yields_reread { h₁ with isBack := rfl } rfl rfl fun s₂ h₂ => ?_
  rw [h₁.token]
  simp only [yields_bind, yields_get, h₂.word, h₁.word]
  rw [if_neg (by rw [hname.assignment, hname.wideAssignment]; cases s₂.dialect <;> decide)]
  refine yields_simpleRest items rfl { h₂.toFacing with } hfuel fun s₃ w' h₃ => ?_
  rw [statement_foldl_add]
  exact hQ s₃ w' h₃

/-! ## Lines

Nothing but the end of the script follows the command, so nothing is before it in a pipeline and
nothing depends on it. -/

theorem yields_pipelineStart {Q : Bool × Option Bool → Source → Prop}
    (h : s.Holding d n rest true .word w)
    (hQ : ∀ s', s'.Holding d n rest true .word w → Q (false, none) s') :
    Yields (pipelineStart body (fuel + 1) false none) s Q := by
  rw [pipelineStart, yields_bind]
  refine h.yields_reread fun s' h' => ?_
  simp only [yields_bind, pushBack, yields_modify, yields_pure]
  exact hQ _ h'.pushed

theorem yields_pipelineRest {Q : List Statement → Source → Prop} {first : Statement}
    (h : s.Holding d n rest true .finish w)
    (hQ : ∀ s', s'.Holding d n rest true .finish w → Q [first] s') :
    Yields (pipelineRest body command (fuel + 1) first) s Q := by
  rw [pipelineRest, yields_bind]
  refine h.yields_reread fun s' h' => ?_
  simp only [yields_bind, pushBack, yields_modify, yields_pure]
  exact hQ _ h'.pushed

theorem yields_dependentRest {Q : Statement → Source → Prop} {first : Statement}
    (h : s.Holding d n rest true .finish w)
    (hQ : ∀ s', s'.Holding d n rest true .finish w → Q first s') :
    Yields (dependentRest body command (fuel + 1) first) s Q := by
  rw [dependentRest, yields_bind]
  refine h.yields_reread fun s' h' => ?_
  simp only [yields_bind, pushBack, yields_modify, yields_pure]
  exact hQ _ h'.pushed

/-- Reading a command from where it is known to start. -/
def ReadsTo (command : Reading Statement) (d : Dialect) (n : Nat) (rest : List Char) (w : Word)
    (statement : Statement) : Prop :=
  ∀ s : Source, s.Holding d n rest true .word w → Yields command s fun a s' =>
    a = statement ∧ ∃ w', s'.Holding d n [] true .finish w'

theorem yields_pipeline {Q : Statement → Source → Prop} {statement : Statement}
    (h : s.Holding d n rest true .word w) (hcommand : ReadsTo command d n rest w statement)
    (hQ : ∀ s' w', s'.Holding d n [] true .finish w' → Q statement s') :
    Yields (pipeline body command (fuel + 1)) s Q := by
  rw [pipeline, yields_bind]
  refine yields_pipelineStart h fun s₁ h₁ => ?_
  simp only [yields_bind, yields_get, Option.isSome_none, Bool.or_self, Bool.and_false,
    Bool.false_and, Bool.false_eq_true, if_false, yields_pure]
  refine (hcommand s₁ h₁).imp fun a s₂ hs₂ => ?_
  obtain ⟨rfl, w', h₂⟩ := hs₂
  exact yields_pipelineRest h₂ fun s₃ h₃ => hQ s₃ w' h₃

theorem yields_listRest {Q : Option Statement → Source → Prop} {statement : Statement}
    {name : List Piece} (hne : name ≠ [])
    (h : s.Facing d n (name.flatMap Piece.written ++ rest) false) (hend : ∀ c ∈ rest.head?, c = ' ')
    (hkeyword : NoKeyword d (name.flatMap Piece.parts))
    (hcommand : ReadsTo command d n rest (name.flatMap Piece.parts) statement)
    (hQ : ∀ s', s'.token = .finish → Q (some statement) s') :
    Yields (listRest body command .line (fuel + 2) false none) s Q := by
  rw [listRest]
  simp only [look, yields_bind, yields_modify]
  refine yields_readToken_word hne (.inl rfl) { h with } hend rfl rfl (fun _ => hkeyword)
    fun s₁ h₁ => ?_
  simp only [reduceCtorEq, beq_iff_eq, if_false, Bool.false_and, Bool.false_eq_true, yields_bind,
    pushBack, yields_modify]
  refine yields_pipeline h₁.pushed hcommand fun s₂ w₂ h₂ => ?_
  refine yields_dependentRest h₂ fun s₃ h₃ => ?_
  rw [yields_get]
  refine h₃.yields_reread fun s₄ h₄ => ?_
  simp only [reduceCtorEq, if_false, readDocuments, yields_bind, yields_get, yields_modify]
  rw [h₄.awaited]
  simp only [List.forIn_nil, yields_pure]
  exact hQ _ rfl

/-- **A line of a name and items is read as one command**, and it is all of the script. -/
theorem yields_nextStatement {Q : Option Statement → Source → Prop} {name : List Piece}
    (hne : name ≠ []) (h : s.rest = name.flatMap Piece.written ++ items.flatMap Item.written)
    (haliases : s.aliases = []) (hgroups : s.takesGroups = false)
    (hname : IsName s.dialect (name.flatMap Piece.parts))
    (hlength : items.length + 2 < readingSteps)
    (hQ : ∀ s', s'.token = .finish →
      Q (some (simpleStatement s.line (name.flatMap Piece.parts) items)) s') :
    Yields nextStatement s Q := by
  obtain ⟨fuel, hsteps⟩ : ∃ fuel, readingSteps = fuel + 2 + 1 := ⟨readingSteps - 3, rfl⟩
  have hfuel : items.length < fuel + 1 := by omega
  have hfacing : Facing { s with isBack := false, awaited := [], checks := .none } s.dialect s.line
      (name.flatMap Piece.written ++ items.flatMap Item.written) false :=
    ⟨rfl, rfl, h, rfl, haliases, rfl, hgroups⟩
  rw [nextStatement, yields_bind, yields_modify, hsteps, parse]
  · refine yields_listRest hne hfacing (Item.head?_written items) hname.keyword (fun s₁ h₁ => ?_) hQ
    exact yields_commandStep h₁ hname hfuel fun s₂ w' h₂ => ⟨rfl, w', h₂⟩
  · exact fun hgoal => by cases hgoal

end Source

/-! ## Printing a text -/

/-- What `printf` prints for the words of a command, if it has nothing to complain of. -/
def printed? (d : Dialect) (times : Printing.Times) : List Octets → Option Octets
  | name :: format :: arguments =>
    if name == octets "printf" && format.head? != some '-' then
      match d with
      | .common =>
        match Printing.formatted format arguments with
        | (text, [], .done) => some text
        | _ => none
      | .wide =>
        match Printing.wideFormatted times format arguments with
        | (⟨⟨_, _, printed, []⟩, false, _⟩, .done) => some printed.reverse.flatten
        | _ => none
    else none
  | _ => none

theorem text_ofFlags_nil (o : Octets) :
    ((Text.Directive.ofFlags []).withWidth 0).text o = o := by
  simp [Text.Directive.text, Text.Directive.fill, Text.Directive.ofFlags, Text.Directive.withWidth]

theorem formatted_text (o : Octets) : Printing.formatted (octets "%s") [o] = (o, [], .done) := by
  have hformat : octets "%s" = ['%', 's'] := by decide
  have hfollow : Printing.follow 3 ['%', 's'] ⟨[o], false, [], []⟩ =
      (⟨[], true, [((Text.Directive.ofFlags []).withWidth 0).text o], []⟩, .done) := rfl
  rw [text_ofFlags_nil] at hfollow
  rw [hformat, Printing.formatted]
  simp [Printing.followAll, hfollow]

theorem wideFormatted_text (times : Printing.Times) (o : Octets) :
    Printing.wideFormatted times (octets "%s") [o] =
      (⟨⟨[], true, [o], []⟩, false, []⟩, .done) := by
  have hformat : octets "%s" = ['%', 's'] := by decide
  have hfollow : Printing.followWide times 3 ['%', 's'] ⟨⟨[o], false, [], []⟩, false, []⟩ =
      (⟨⟨[], true, [((Text.Directive.ofFlags []).withWidth 0).text o], []⟩, false, []⟩,
        .done) := rfl
  rw [text_ofFlags_nil] at hfollow
  rw [hformat, Printing.wideFormatted]
  simp [Printing.followWideAll, hfollow]

/-- **A text is printed as it is.** -/
theorem printed?_text (d : Dialect) (times : Printing.Times) (o : Octets) :
    printed? d times [octets "printf", octets "%s", o] = some o := by
  have hformat : ((octets "%s").head? != some '-') = true := by decide
  unfold printed?
  simp only [beq_self_eq_true, hformat, Bool.and_self, if_true]
  cases d with
  | common => simp [formatted_text]
  | wide => simp [wideFormatted_text]

/-! ## Texts in quotes -/

namespace Quoting

/-- A character of a text in single quotes: a quote is put outside, after a backslash. -/
def closedChar : Char → Octets
  | '\'' => ['\'', '\\', '\'', '\'']
  | c => [c]

/-- A text in single quotes, with the quotes in it outside. -/
def closed (o : Octets) : Octets := '\'' :: (o.flatMap closedChar ++ ['\''])

theorem closedChar_of_ne {c : Char} (h : c ≠ '\'') : closedChar c = [c] := by
  rw [closedChar]
  exact h

end Quoting

/-- A text in quotes is written in pieces. -/
theorem exists_pieces_closed {o : Octets} (hline : '\n' ∉ o) :
    ∃ ps : List Piece, ps ≠ [] ∧ ps.flatMap Piece.written = Quoting.closed o ∧
      ps.flatMap Piece.value = o := by
  -- what stands before the first quote is the first piece
  have hfirst : ∃ inside hquote hinside, ∃ ps : List Piece,
      (Piece.quoted inside hquote hinside :: ps).flatMap Piece.written = Quoting.closed o ∧
        (Piece.quoted inside hquote hinside :: ps).flatMap Piece.value = o := by
    induction o with
    | nil => exact ⟨[], List.not_mem_nil, List.not_mem_nil, [], rfl, rfl⟩
    | cons c o ih =>
      rw [List.mem_cons, not_or] at hline
      obtain ⟨inside, hquote, hinside, ps, hwritten, hvalue⟩ := ih hline.2
      by_cases hc : c = '\''
      · subst hc
        refine ⟨[], List.not_mem_nil, List.not_mem_nil,
          .escaped '\'' (by decide) :: .quoted inside hquote hinside :: ps, ?_, ?_⟩
        · rw [List.flatMap_cons, List.flatMap_cons, hwritten]
          rfl
        · rw [List.flatMap_cons, List.flatMap_cons, hvalue]
          rfl
      · refine ⟨c :: inside, ?_, ?_, ps, ?_, ?_⟩
        · exact List.not_mem_cons_of_ne_of_not_mem (Ne.symm hc) hquote
        · exact List.not_mem_cons_of_ne_of_not_mem hline.1 hinside
        · rw [List.flatMap_cons] at hwritten ⊢
          rw [Quoting.closed, List.flatMap_cons, Quoting.closedChar_of_ne hc]
          exact congrArg ('\'' :: c :: ·) (List.cons.inj hwritten).2
        · rw [List.flatMap_cons] at hvalue ⊢
          exact congrArg (c :: ·) hvalue
  obtain ⟨inside, hquote, hinside, ps, hwritten, hvalue⟩ := hfirst
  exact ⟨_, List.cons_ne_nil _ _, hwritten, hvalue⟩

/-- Characters that stand for themselves are pieces. -/
theorem exists_pieces_bare {o : Octets} (h : ∀ c ∈ o, isBare c = true) :
    ∃ ps : List Piece, ps.flatMap Piece.written = o ∧ ps.flatMap Piece.value = o ∧
      ps.flatMap Piece.parts = o.map .plain := by
  induction o with
  | nil => exact ⟨[], rfl, rfl, rfl⟩
  | cons c o ih =>
    obtain ⟨ps, hwritten, hvalue, hparts⟩ := ih fun d hd => h d (List.mem_cons_of_mem _ hd)
    refine ⟨.bare c (h c List.mem_cons_self) :: ps, ?_, ?_, ?_⟩
    · rw [List.flatMap_cons, hwritten]
      rfl
    · rw [List.flatMap_cons, hvalue]
      rfl
    · rw [List.flatMap_cons, hparts]
      rfl

/-- Octets are one word with a value: where they stand in a script and a word may end after them,
they are read as a word, and whatever the shell knows, this is one argument, the value. -/
def IsWord (written value : Octets) : Prop :=
  ∀ rest, Source.Stop rest → ∀ (body : Bool → Reading (Option Statement)) (s : Source),
    s.rest = written ++ rest → s.takesGroups = false →
      Source.Yields (Source.readWord body false) s fun w s' => s' = { s with rest := rest } ∧
        ∀ (m : Means) (k : Memory), (expandFields m w).run.run k = pure (.ok [value], k)

theorem isWord_of_pieces {ps : List Piece} (hps : ps ≠ []) :
    IsWord (ps.flatMap Piece.written) (ps.flatMap Piece.value) := by
  intro rest hstop body s hrest hgroups
  refine (Source.yields_readWord ps hrest hstop hgroups).2 ⟨rfl, fun m k => ?_⟩
  rw [run_expandFields Piece.inert_of_mem_parts (Piece.parts_ne_nil hps), Piece.text_parts]

/-- **A text in quotes is read as one word with the text as its value.** -/
theorem isWord_closed {o : Octets} (hline : '\n' ∉ o) : IsWord (Quoting.closed o) o := by
  obtain ⟨ps, hps, hwritten, hvalue⟩ := exists_pieces_closed hline
  have hword := isWord_of_pieces hps
  rwa [hwritten, hvalue] at hword

/-- A line prints a text into a file: all of it is one command, whose words are `printf` with
arguments that print the text, and the output of this command goes into the file.  What the shell
knows does not matter, and it does not change. -/
def Stores (line path text : Octets) : Prop :=
  ∀ (d : Dialect) (n : Nat), ∃ (words : List Word) (target : Word),
    Source.Yields Source.nextStatement (.ofOctets d line n) (fun found s' =>
      found = some (.simple n [] words [.file 1 .output target]) ∧ s'.isFinished = true) ∧
    ∀ (m : Means) (k : Memory) (times : Printing.Times), ∃ fields : List (List Octets),
      (words.mapM (expandFields m)).run.run k = pure (.ok fields, k) ∧
        printed? d times fields.flatten = some text ∧
        (expandRedirections m [.file 1 .output target]).run.run k =
          pure (.ok [.file 1 .output path], k)

theorem isName_printf (d : Dialect) : Source.IsName d ((octets "printf").map .plain) where
  keyword := by
    intro o ho
    have hplain : Word.plainText? ((octets "printf").map .plain) = some (octets "printf") := by
      decide
    obtain rfl := Option.some.inj (hplain.symm.trans ho)
    cases d <;> decide
  assignment := by decide
  wideAssignment := by decide

/-- A line that starts with `printf` is a command of this name. -/
theorem yields_printf (d : Dialect) (n : Nat) {items : List Item}
    (hlength : items.length + 2 < Source.readingSteps) :
    Source.Yields Source.nextStatement
      (.ofOctets d (octets "printf" ++ items.flatMap Item.written) n) fun found s' =>
        found = some (simpleStatement n ((octets "printf").map .plain) items) ∧
          s'.isFinished = true := by
  obtain ⟨name, hwritten, -, hparts⟩ := exists_pieces_bare (o := octets "printf") (by decide)
  have hne : name ≠ [] := by
    rintro rfl
    cases hwritten
  refine Source.yields_nextStatement hne (by rw [hwritten]; rfl) rfl rfl
    (hparts ▸ isName_printf d) hlength fun s' htoken => ⟨by rw [hparts]; rfl, ?_⟩
  rw [Source.isFinished, htoken]
  rfl

/-- A command with one file for its output stores what it prints. -/
theorem stores_of_items (text : Octets) (items : List Item)
    (hlength : items.length + 2 < Source.readingSteps) {qs : List Piece} (hqs : qs ≠ [])
    (houtput : items.filterMap Item.redirection? = [.file 1 .output (qs.flatMap Piece.parts)])
    (hprinted : ∀ d times, printed? d times
      (octets "printf" :: (items.filterMap Item.word?).map Word.text) = some text) :
    Stores (octets "printf" ++ items.flatMap Item.written) (qs.flatMap Piece.value) text := by
  have hname : ∀ w ∈ (octets "printf").map .plain :: items.filterMap Item.word?,
      w ≠ [] ∧ ∀ part ∈ w, Inert part := by
    refine List.forall_mem_cons.2 ⟨⟨by decide, ?_⟩, Item.inert_of_mem⟩
    exact List.forall_mem_map.2 fun c hc => .plain c (by revert c; decide)
  have htext : Word.text ((octets "printf").map .plain) = octets "printf" := by decide
  intro d n
  refine ⟨(octets "printf").map .plain :: items.filterMap Item.word?, qs.flatMap Piece.parts, ?_,
    fun m k times => ⟨_, run_mapM_expandFields hname, ?_, ?_⟩⟩
  · rw [← houtput]
    exact yields_printf d n hlength
  · have hfields : ∀ words : List Word, (words.map ([·.text])).flatten = words.map Word.text := by
      intro words
      rw [← List.flatMap_def, List.map_eq_flatMap]
    rw [hfields, List.map_cons, htext, hprinted]
  · rw [run_expandRedirections Piece.inert_of_mem_parts (Piece.parts_ne_nil hqs), Piece.text_parts]

/-- **The lines of the setup print a text into a file**, if the path of the file stands for
itself. -/
theorem stores_line {path text : Octets} (hline : '\n' ∉ text) (hne : path ≠ [])
    (hpath : ∀ c ∈ path, isBare c = true) :
    Stores (octets "printf '%s' " ++ Quoting.closed text ++ octets " > " ++ path) path text := by
  obtain ⟨format, hformat, hformatWritten, hformatValue⟩ :=
    exists_pieces_closed (o := octets "%s") (by decide)
  obtain ⟨ps, hps, hpsWritten, hpsValue⟩ := exists_pieces_closed hline
  obtain ⟨qs, hqsWritten, hqsValue, -⟩ := exists_pieces_bare hpath
  have hqs : qs ≠ [] := by
    rintro rfl
    exact hne hqsWritten.symm
  have hstores := stores_of_items text [.word format hformat, .word ps hps, .output qs hqs]
    (show 3 + 2 < Source.readingSteps by decide) hqs rfl fun d times => by
      change printed? d times [octets "printf", Word.text (format.flatMap Piece.parts),
        Word.text (ps.flatMap Piece.parts)] = some text
      rw [Piece.text_parts, Piece.text_parts, hformatValue, hpsValue, printed?_text]
  have hstart : octets "printf '%s' " =
      octets "printf" ++ ' ' :: (Quoting.closed (octets "%s") ++ [' ']) := by
    decide
  have hsign : octets " > " = [' ', '>', ' '] := by decide
  have hwritten : octets "printf '%s' " ++ Quoting.closed text ++ octets " > " ++ path =
      octets "printf" ++ [Item.word format hformat, .word ps hps, .output qs hqs].flatMap
        Item.written := by
    simp [Item.written, hformatWritten, hpsWritten, hqsWritten, hstart, hsign]
  rwa [hwritten, ← hqsValue]

theorem run_pure_inj {α : Type} {a b : α} (h : (pure a : Run α) = pure b) : a = b := by
  classical
  -- what is done after it may depend on the value
  have hnext := congrFun h fun x => .finish (.exited (if x = a then 0 else 1))
  have hstatus : (if a = a then 0 else 1) = if b = a then 0 else 1 :=
    Ending.exited.inj (Task.finish.inj hnext)
  by_cases hb : b = a
  · exact hb.symm
  · rw [if_pos rfl, if_neg hb] at hstatus
    cases hstatus

/-- **A line stores one text in one file.** -/
theorem Stores.unique {line path path' text text' : Octets} (h : Stores line path text)
    (h' : Stores line path' text') : path = path' ∧ text = text' := by
  obtain ⟨words, target, ⟨found, s, hrun, hfound, -⟩, hexpand⟩ := h .common 1
  obtain ⟨words', target', ⟨found', s', hrun', hfound', -⟩, hexpand'⟩ := h' .common 1
  have hsame : found = found' := Except.ok.inj (Prod.mk.inj (hrun.symm.trans hrun')).1
  obtain ⟨rfl, rfl⟩ : words = words' ∧ target = target' := by
    rw [hfound, hfound'] at hsame
    simpa using hsame
  -- what a shell makes of the words does not depend on which shell it is, so one is as good as any
  let m : Means := ⟨fun _ => pure 0, fun _ => pure 0⟩
  let k : Memory := Memory.initial .common ⟨"", [], []⟩ Kernel.noProcess 0
  obtain ⟨fields, hfields, hprinted, hpath⟩ := hexpand m k ⟨.universal, 0, 0⟩
  obtain ⟨fields', hfields', hprinted', hpath'⟩ := hexpand' m k ⟨.universal, 0, 0⟩
  have hpaths := run_pure_inj (hpath.symm.trans hpath')
  obtain rfl : fields = fields' := by
    simpa using run_pure_inj (hfields.symm.trans hfields')
  exact ⟨by simpa using hpaths, Option.some.inj (hprinted.symm.trans hprinted')⟩

end Flowscript.Shell
