import Mathlib.Data.List.TakeWhile
import Flowscript.Proofs.Words
import Flowscript.Text.Replace

/-!
# Definitions on several lines

A definition goes on after a backslash at the end of a line.  Two backslashes there stand for one
and end it, so an odd number is needed.  After the lines are joined, a number sign starts a comment.

* `Text.continues` and `Text.joinLines` are about the ends of lines, and `Text.definition?` looks a
  definition up.
* `Text.spread` are the lines of a list with one item on each.  `Text.joinLines_spread` puts them
  together again, and `Text.joinLines_spread_of_continues` says what becomes of a list whose last
  item ends in a backslash.
-/

set_option autoImplicit false

namespace Flowscript

namespace Text

/-! ## The ends of lines -/

/-- The number of backslashes at the end of a line. -/
def slashCount (line : List Char) : Nat := (line.reverse.takeWhile (· == '\\')).length

/-- Whether a line goes on: of the backslashes at its end one is left when pairs are taken off. -/
def continues (line : List Char) : Bool := slashCount line % 2 == 1

/-- A line that goes on, without the backslash that says so and with half of the others. -/
def unbroken (line : List Char) : List Char :=
  (line.reverse.dropWhile (· == '\\')).reverse ++ List.replicate (slashCount line / 2) '\\'

/-- A text in front of the first line. -/
def prepend (front : List Char) : List (List Char) → List (List Char)
  | [] => [front]
  | line :: rest => (front ++ line) :: rest

/-- Each line with those that it goes on to.  Blanks around the break are kept, as they do not
matter to words. -/
def joinLines : List (List Char) → List (List Char)
  | [] => []
  | line :: rest =>
    if continues line then prepend (unbroken line ++ [' ']) (joinLines rest)
    else line :: joinLines rest

/-- What the first definition of a name gives it, up to a number sign.  One behind a backslash is not
told apart from the start of a comment: what it gives is not the text as written either. -/
def definition? (name : List Char) (lines : List (List Char)) : Option (List Char) :=
  (lines.findSome? (dropPattern? (name ++ [' ', ':', '=']))).map (·.takeWhile (· != '#'))

theorem continues_append_cons {c : Char} (hc : c ≠ '\\') (as bs : List Char) :
    continues (as ++ c :: bs) = continues bs := by
  have hspan := span_append_cons (p := (· == '\\')) (by simpa using hc) bs.reverse as.reverse
  have hreverse : (as ++ c :: bs).reverse = bs.reverse ++ c :: as.reverse := by simp
  rw [continues, continues, slashCount, slashCount, hreverse, hspan.1]

theorem continues_cons {c : Char} (hc : c ≠ '\\') (cs : List Char) :
    continues (c :: cs) = continues cs :=
  continues_append_cons hc [] cs

/-- The backslashes at the end of a line do not go back over another character. -/
theorem continues_append {as : List Char} {last : Char} (hlast : as.getLast? = some last)
    (hne : last ≠ '\\') (bs : List Char) : continues (as ++ bs) = continues bs := by
  obtain ⟨front, rfl⟩ := List.getLast?_eq_some_iff.1 hlast
  rw [List.append_assoc, List.singleton_append, continues_append_cons hne]

theorem continues_break (line : List Char) : continues (line ++ [' ', '\\']) = true :=
  continues_append_cons (by decide) line ['\\']

theorem unbroken_break (line : List Char) : unbroken (line ++ [' ', '\\']) = line ++ [' '] := by
  simp [unbroken, slashCount]

theorem unbroken_append_cons {c : Char} (hc : c ≠ '\\') (as bs : List Char) :
    unbroken (as ++ c :: bs) = as ++ c :: unbroken bs := by
  have hspan := span_append_cons (p := (· == '\\')) (by simpa using hc) bs.reverse as.reverse
  have hreverse : (as ++ c :: bs).reverse = bs.reverse ++ c :: as.reverse := by simp
  rw [unbroken, unbroken, slashCount, slashCount, hreverse, hspan.1, hspan.2]
  simp

/-- A line that starts with more than backslashes starts so when others are joined to it. -/
theorem exists_joinLines_cons {c : Char} (hc : c ≠ '\\') (as bs : List Char)
    (rest : List (List Char)) :
    ∃ bs' more, joinLines ((as ++ c :: bs) :: rest) = (as ++ c :: bs') :: more := by
  rw [joinLines]
  split
  · rw [unbroken_append_cons hc]
    cases joinLines rest with
    | nil => exact ⟨unbroken bs ++ [' '], [], by simp [prepend]⟩
    | cons line more => exact ⟨unbroken bs ++ ' ' :: line, more, by simp [prepend]⟩
  · exact ⟨bs, _, rfl⟩

theorem mem_of_mem_unbroken {line : List Char} {c : Char} (h : c ∈ unbroken line) :
    c ∈ line ∨ c = '\\' := by
  rcases List.mem_append.1 h with h | h
  · exact .inl (List.mem_reverse.1 ((List.dropWhile_suffix _).subset (List.mem_reverse.1 h)))
  · exact .inr (List.eq_of_mem_replicate h)

/-- A line that ends in a break is joined to the next one. -/
theorem joinLines_break (line : List Char) (rest : List (List Char)) :
    joinLines ((line ++ [' ', '\\']) :: rest) = prepend (line ++ [' ', ' ']) (joinLines rest) := by
  rw [joinLines, if_pos (continues_break line), unbroken_break, List.append_assoc]
  rfl

/-! ## Lists -/

/-- The lines of a list: each item stands behind a tab on a line of its own. -/
def spread (head : List Char) : List (List Char) → List (List Char)
  | [] => [head]
  | item :: rest => (head ++ [' ', '\\']) :: spread ('\t' :: item) rest

/-- A list is cut into its lines. -/
theorem splitAt_spread {head : List Char} {items : List (List Char)}
    (hhead : ∀ c ∈ head, c ≠ '\n') (hitems : ∀ item ∈ items, ∀ c ∈ item, c ≠ '\n')
    (rest : List Char) :
    splitAt (· == '\n') (head ++ (items.flatMap ([' ', '\\', '\n', '\t'] ++ ·) ++ '\n' :: rest)) =
      spread head items ++ splitAt (· == '\n') rest := by
  have hline : ∀ line : List Char, (∀ c ∈ line, c ≠ '\n') → ∀ more,
      splitAt (· == '\n') (line ++ '\n' :: more) = line :: splitAt (· == '\n') more := by
    intro line hline more
    rw [splitAt_append_cons (by decide), splitAt_of_forall fun c hc => beq_false_of_ne (hline c hc),
      List.singleton_append]
  induction items generalizing head with
  | nil => exact hline head hhead rest
  | cons item items ih =>
    have hitem := hitems item List.mem_cons_self
    have hbreak : ∀ c ∈ head ++ [' ', '\\'], c ≠ '\n' :=
      List.forall_mem_append.2 ⟨hhead, by decide⟩
    have hnext : ∀ c ∈ '\t' :: item, c ≠ '\n' := List.forall_mem_cons.2 ⟨by decide, hitem⟩
    have hrest := ih hnext fun other hother => hitems other (List.mem_cons_of_mem _ hother)
    rw [spread, List.cons_append, ← hrest, ← hline _ hbreak, List.flatMap_cons]
    simp only [List.append_assoc, List.cons_append, List.nil_append]

/-- The items of a list on one line. -/
def flow (items : List (List Char)) : List Char := items.flatMap ([' ', ' ', '\t'] ++ ·)

/-- **A list is put on one line.** -/
theorem joinLines_spread {head : List Char} {items : List (List Char)}
    (hhead : items = [] → continues head = false)
    (hlast : ∀ item ∈ items.getLast?, continues item = false) (rest : List (List Char)) :
    joinLines (spread head items ++ rest) = (head ++ flow items) :: joinLines rest := by
  induction items generalizing head with
  | nil =>
    rw [spread, List.singleton_append, joinLines, if_neg (by simpa using hhead rfl)]
    exact congrArg (· :: joinLines rest) (List.append_nil head).symm
  | cons item items ih =>
    have htail : joinLines (spread ('\t' :: item) items ++ rest) =
        ('\t' :: item ++ flow items) :: joinLines rest := by
      refine ih (fun hnil => ?_) fun last hmem => hlast last ?_
      · subst hnil
        rw [continues_cons (by decide)]
        exact hlast item rfl
      · rw [List.getLast?_cons, Option.mem_def.1 hmem]
        rfl
    have hflow : flow (item :: items) = [' ', ' ', '\t'] ++ item ++ flow items := List.flatMap_cons
    rw [spread, List.cons_append, joinLines_break, htail, prepend, hflow]
    simp only [List.append_assoc, List.cons_append, List.nil_append]

example : joinLines (spread ['A'] [['x'], ['y']] ++ [['B']]) =
    [['A', ' ', ' ', '\t', 'x', ' ', ' ', '\t', 'y'], ['B']] := by
  decide

/-- **A list whose last item ends in a backslash goes on with the next line.**  No number sign comes
in between. -/
theorem joinLines_spread_of_continues {items : List (List Char)}
    (hitems : ∀ item ∈ items, '#' ∉ item) {last : List Char} (hlast : items.getLast? = some last)
    (hcontinues : continues last = true) {next : List Char} {rest more : List (List Char)}
    (hrest : joinLines rest = next :: more) (head : List Char) :
    ∃ front, '#' ∉ front ∧
      joinLines (spread head items ++ rest) = (head ++ (front ++ ' ' :: next)) :: more := by
  induction items generalizing head with
  | nil => cases hlast
  | cons item items ih =>
    have hitem := hitems item List.mem_cons_self
    cases items with
    | nil =>
      obtain rfl : item = last := Option.some.inj hlast
      have hline : continues ('\t' :: item) = true := by
        rw [continues_cons (by decide), hcontinues]
      have hsign : '#' ∉ unbroken ('\t' :: item) := by
        intro hmem
        rcases mem_of_mem_unbroken hmem with hmem | heq
        · exact (List.mem_cons.1 hmem).elim (by decide) hitem
        · exact absurd heq (by decide)
      refine ⟨' ' :: ' ' :: unbroken ('\t' :: item), by simp [hsign], ?_⟩
      rw [spread, spread, List.cons_append, joinLines_break, List.singleton_append, joinLines,
        if_pos hline, hrest, prepend, prepend]
      simp only [List.append_assoc, List.cons_append, List.nil_append]
    | cons other items =>
      obtain ⟨front, hfront, hjoined⟩ := ih
        (fun item hmem => hitems item (List.mem_cons_of_mem _ hmem)) (by simpa using hlast)
        ('\t' :: item)
      refine ⟨' ' :: ' ' :: '\t' :: (item ++ front), by simp [hitem, hfront], ?_⟩
      rw [spread, List.cons_append, joinLines_break, hjoined, prepend]
      simp only [List.append_assoc, List.cons_append, List.nil_append]

/-! ## Definitions -/

theorem dropPattern?_append (pattern cs : List Char) :
    dropPattern? pattern (pattern ++ cs) = some cs := by
  induction pattern with
  | nil => rfl
  | cons c pattern ih =>
    rw [List.cons_append, dropPattern?, if_pos rfl, ih]

theorem definition?_cons (name bs : List Char) (more : List (List Char)) :
    definition? name ((name ++ ' ' :: ':' :: '=' :: bs) :: more) =
      some (bs.takeWhile (· != '#')) := by
  have hline : name ++ ' ' :: ':' :: '=' :: bs = (name ++ [' ', ':', '=']) ++ bs := by simp
  rw [definition?, hline, List.findSome?_cons, dropPattern?_append]
  rfl

theorem definition?_cons_of_none {name line : List Char}
    (h : dropPattern? (name ++ [' ', ':', '=']) line = none) (more : List (List Char)) :
    definition? name (line :: more) = definition? name more := by
  rw [definition?, definition?, List.findSome?_cons, h]

/-- There is no comment in what a definition gives. -/
theorem sign_not_mem_definition? {name value : List Char} {lines : List (List Char)}
    (h : definition? name lines = some value) : '#' ∉ value := by
  obtain ⟨rest, -, rfl⟩ := Option.map_eq_some_iff.1 h
  exact fun hmem => bne_iff_ne.1 (List.mem_takeWhile_imp (p := (· != '#')) hmem) rfl

end Text

end Flowscript
