import Mathlib.Data.List.Chain
import Flowscript.Proofs.Ancestry
import Flowscript.Proofs.Toolbox

/-!
# Catalogs as forests

A catalog is made of definitions in any order, and it is refused if following parents comes back to
where it was.  What goes up from a format afterwards does not look out for loops any more, so
everything it does rests on that check.

* `FormatCatalog.Named` and `FormatCatalog.Loopless` say when definitions form a forest, without a
  word about how it is found out.  `FormatCatalog.ofDefinitions_exact` says that exactly these are
  taken.
* `FormatCatalog.Climbs` is the loop of the check, which ends because there is one format less ahead
  with each step, and `FormatCatalog.IsCycle` is what it finds: the loop without the way into it.
* `FormatCatalog.Yields` goes up without looking out, and it ends in a catalog that is loaded.
* `FormatCatalog.IsLoaded.accepts_forest` is the order of the formats in such a catalog.
-/

set_option autoImplicit false

namespace Flowscript

namespace FormatCatalog

variable {c : FormatCatalog} {name other : String}

/-! ## Going up to the end -/

/-- Goes up from a name, or from none, to the parent each time.  It ends if it lists anything. -/
inductive Yields (c : FormatCatalog) : Option String → List String → Prop
  | over : Yields c none []
  | next {name : String} {rest : List String} (h : Yields c (c.parent? name) rest) :
      Yields c (some name) (name :: rest)

theorem lineage_of_none (h : c.parent? name = none) (n : Nat) :
    c.lineage (n + 1) name = [name] := by
  rw [lineage, h]

theorem lineage_of_extends (h : c.Extends name other) (n : Nat) :
    c.lineage (n + 1) name = name :: c.lineage n other := by
  rw [lineage, show c.parent? name = some other from h]

theorem head?_lineage (c : FormatCatalog) (n : Nat) (name : String) :
    (c.lineage (n + 1) name).head? = some name := rfl

theorem isChain_lineage (c : FormatCatalog) (n : Nat) (name : String) :
    (c.lineage n name).IsChain c.Extends := by
  induction n generalizing name with
  | zero => exact .nil
  | succ n ih =>
    cases hparent : c.parent? name with
    | none =>
      rw [lineage_of_none hparent]
      exact .singleton name
    | some parent =>
      rw [lineage_of_extends hparent, List.isChain_cons]
      refine ⟨fun next hnext => ?_, ih parent⟩
      cases n with
      | zero => cases hnext
      | succ n =>
        cases hnext
        exact hparent

/-- There is one way up only. -/
theorem lineage_of_isChain {way : List String} (h : (name :: way).IsChain c.Extends) :
    c.lineage (way.length + 1) name = name :: way := by
  induction way generalizing name with
  | nil =>
    rw [List.length_nil, lineage]
    cases c.parent? name <;> rfl
  | cons parent way ih =>
    obtain ⟨hparent, hway⟩ := List.isChain_cons_cons.1 h
    rw [List.length_cons, lineage_of_extends hparent, ih hway]

/-- Up to where it ends, the way up is the same however many steps are taken. -/
theorem prefix_lineage {m : Nat} (h : c.climb m name = none) (n : Nat) :
    c.lineage n name <+: c.lineage m name := by
  induction m generalizing n name with
  | zero => cases h
  | succ m ih =>
    cases n with
    | zero => exact List.nil_prefix
    | succ n =>
      cases hparent : c.parent? name with
      | none =>
        simp only [lineage_of_none hparent, List.prefix_refl]
      | some parent =>
        rw [climb, hparent, Option.bind_some] at h
        rw [lineage_of_extends hparent, lineage_of_extends hparent, List.cons_prefix_cons]
        exact ⟨rfl, ih h n⟩

theorem yields_lineage {n : Nat} (h : c.climb n name = none) :
    c.Yields (some name) (c.lineage n name) := by
  induction n generalizing name with
  | zero => cases h
  | succ n ih =>
    rw [climb] at h
    refine .next ?_
    cases hparent : c.parent? name with
    | none => exact .over
    | some parent =>
      rw [hparent, Option.bind_some] at h
      exact ih h

theorem length_lineage {n : Nat} (h : c.climb n name ≠ none) :
    (c.lineage (n + 1) name).length = n + 1 := by
  induction n generalizing name with
  | zero =>
    rw [lineage]
    cases c.parent? name <;> rfl
  | succ n ih =>
    rw [climb] at h
    cases hparent : c.parent? name with
    | none =>
      rw [hparent] at h
      exact absurd rfl h
    | some parent =>
      rw [hparent, Option.bind_some] at h
      rw [lineage_of_extends hparent, List.length_cons, ih h]

/-! ## Loops -/

/-- A list has a repeat exactly if its first loop is found. -/
theorem loopIn_cases {passed : List String} (names : List String) (h : passed.reverse.Nodup) :
    loopIn passed names = none ∧ (passed.reverse ++ names).Nodup ∨
      ∃ front name inner back, loopIn passed names = some (name :: (inner ++ [name])) ∧
        passed.reverse ++ names = front ++ name :: (inner ++ name :: back) ∧
        (front ++ name :: inner).Nodup := by
  induction names generalizing passed with
  | nil => exact .inl ⟨rfl, by rwa [List.append_nil]⟩
  | cons name rest ih =>
    rw [loopIn]
    by_cases hmem : name ∈ passed
    · rw [if_pos (List.contains_iff_mem.2 hmem)]
      obtain ⟨front, inner, hsplit, hfront⟩ :=
        List.eq_append_cons_of_mem (List.mem_reverse.2 hmem)
      refine .inr ⟨front, name, inner, rest, ?_, ?_, ?_⟩
      · rw [hsplit, List.dropWhile_append_of_pos, List.dropWhile_cons_of_neg]
        · rfl
        · simp
        · intro other hother
          rw [bne_iff_ne]
          rintro rfl
          exact hfront hother
      · rw [hsplit, List.append_assoc, List.cons_append]
      · rwa [← hsplit]
    · rw [if_neg (by simpa using hmem)]
      have hnodup : (name :: passed).reverse.Nodup := by
        rw [List.reverse_cons, List.nodup_append]
        refine ⟨h, List.nodup_singleton name, fun a ha b hb => ?_⟩
        rintro rfl
        rw [List.mem_singleton.1 hb] at ha
        exact hmem (List.mem_reverse.1 ha)
      have hih := ih hnodup
      rwa [List.reverse_cons, List.append_assoc, List.singleton_append] at hih

/-! ## Definitions that form a forest -/

/-- A definition of the first name extends the second. -/
def Declares (definitions : List Format) (name parent : String) : Prop :=
  ∃ f ∈ definitions, f.name = name ∧ f.parent = some parent

/-- Definitions that are told apart by their names and extend what is there. -/
structure Named (definitions : List Format) : Prop where
  unreserved : ∀ f ∈ definitions, f.name ≠ argFormat
  distinct : (definitions.map (·.name)).Nodup
  defined : ∀ f ∈ definitions, ∀ parent, f.parent = some parent →
    parent = argFormat ∨ parent ∈ definitions.map (·.name)

/-- No way up from a format comes to a format for the second time. -/
def Loopless (definitions : List Format) : Prop :=
  ∀ f ∈ definitions, ∀ way, (f.name :: way).IsChain (Declares definitions) → (f.name :: way).Nodup

/-- The definitions with `arg` after them, in order or not. -/
def gather (definitions : List Format) : FormatCatalog := ⟨definitions ++ [.arg]⟩

variable {definitions : List Format}

theorem names_gather (definitions : List Format) :
    (gather definitions).formats.map (·.name) = definitions.map (·.name) ++ [argFormat] := by
  rw [gather, List.map_append]
  rfl

namespace Named

theorem nodup_names (h : Named definitions) :
    ((gather definitions).formats.map (·.name)).Nodup := by
  rw [names_gather, List.nodup_append]
  refine ⟨h.distinct, List.nodup_singleton _, fun name hname other hother => ?_⟩
  obtain ⟨f, hf, rfl⟩ := List.mem_map.1 hname
  rw [List.mem_singleton.1 hother]
  exact h.unreserved f hf

theorem get?_eq (h : Named definitions) {f : Format} (hf : f ∈ (gather definitions).formats) :
    (gather definitions).get? f.name = some f := by
  cases hget : (gather definitions).get? f.name with
  | none =>
    rw [get?, List.find?_eq_none] at hget
    simpa using hget f hf
  | some g =>
    rw [get?] at hget
    rw [List.inj_on_of_nodup_map h.nodup_names (List.mem_of_find?_eq_some hget) hf
      (by simpa using List.find?_some hget)]

theorem extends_iff (h : Named definitions) {parent : String} :
    (gather definitions).Extends name parent ↔ Declares definitions name parent := by
  rw [Extends, parent?, Option.bind_eq_some_iff]
  constructor
  · rintro ⟨f, hf, hparent⟩
    rw [get?] at hf
    rcases List.mem_append.1 (List.mem_of_find?_eq_some hf) with hmem | hmem
    · exact ⟨f, hmem, by simpa using List.find?_some hf, hparent⟩
    · rw [List.mem_singleton.1 hmem] at hparent
      cases hparent
  · rintro ⟨f, hf, rfl, hparent⟩
    exact ⟨f, h.get?_eq (List.mem_append_left _ hf), hparent⟩

/-- What is extended is known. -/
theorem mem_names_of_extends (h : Named definitions) {parent : String}
    (hparent : (gather definitions).Extends name parent) :
    parent ∈ (gather definitions).formats.map (·.name) := by
  obtain ⟨f, hf, -, hparent⟩ := h.extends_iff.1 hparent
  rw [names_gather, List.mem_append, List.mem_singleton]
  exact (h.defined f hf parent hparent).symm

/-- Whoever starts from a format only meets formats. -/
theorem mem_names_of_mem_lineage (h : Named definitions) {n : Nat}
    (hname : name ∈ (gather definitions).formats.map (·.name)) :
    ∀ other ∈ (gather definitions).lineage n name,
      other ∈ (gather definitions).formats.map (·.name) := by
  induction n generalizing name with
  | zero => rintro other ⟨⟩
  | succ n ih =>
    intro other hother
    cases hparent : (gather definitions).parent? name with
    | none =>
      rw [lineage_of_none hparent, List.mem_singleton] at hother
      exact hother ▸ hname
    | some parent =>
      rw [lineage_of_extends hparent, List.mem_cons] at hother
      rcases hother with rfl | hother
      · exact hname
      · exact ih (h.mem_names_of_extends hparent) other hother

/-- **A way up without repeats ends after as many steps as there are formats.** -/
theorem climb_eq_none_of_nodup (h : Named definitions)
    (hnodup : ((gather definitions).ancestry name).Nodup) :
    (gather definitions).climb (gather definitions).formats.length name = none := by
  by_contra hclimb
  have hlength := length_lineage hclimb
  by_cases hname : name ∈ (gather definitions).formats.map (·.name)
  · have hle := (hnodup.subperm (h.mem_names_of_mem_lineage hname)).length_le
    rw [ancestry, hlength, List.length_map] at hle
    exact Nat.not_succ_le_self _ hle
  · cases hparent : (gather definitions).parent? name with
    | none =>
      rw [lineage_of_none hparent, List.length_singleton] at hlength
      rw [gather, List.length_append, List.length_singleton] at hlength
      omega
    | some parent => exact hname (FormatCatalog.mem_names_of_extends hparent)

/-- The ways up are those that the definitions declare. -/
theorem isChain_lineage (h : Named definitions) (n : Nat) (name : String) :
    ((gather definitions).lineage n name).IsChain (Declares definitions) :=
  (FormatCatalog.isChain_lineage _ n name).imp fun _ _ => h.extends_iff.1

/-- **There are no loops exactly if no format comes twice among its own ancestors.** -/
theorem loopless_iff (h : Named definitions) :
    Loopless definitions ↔
      ∀ f ∈ (gather definitions).formats, ((gather definitions).ancestry f.name).Nodup := by
  constructor
  · intro hloopless f hf
    have hchain := h.isChain_lineage ((gather definitions).formats.length + 1) f.name
    rcases List.mem_append.1 hf with hf | hf
    · exact hloopless f hf _ hchain
    · rw [List.mem_singleton.1 hf] at hchain ⊢
      have harg : (gather definitions).parent? Format.arg.name = none := by
        rw [parent?, h.get?_eq (List.mem_append_right _ (List.mem_singleton.2 rfl))]
        rfl
      rw [ancestry, lineage_of_none harg]
      exact List.nodup_singleton _
  · intro hall f hf way hway
    have hnodup := hall f (List.mem_append_left _ hf)
    have hextends : (f.name :: way).IsChain (gather definitions).Extends :=
      hway.imp fun _ _ => h.extends_iff.2
    rw [← lineage_of_isChain hextends]
    have hends : (gather definitions).climb ((gather definitions).formats.length + 1) f.name =
        none := by
      rw [climb_add, h.climb_eq_none_of_nodup hnodup, Option.bind_none]
    exact hnodup.sublist (prefix_lineage hends _).sublist

end Named

/-! ## Checking definitions -/

theorem checkNames_eq_ok_iff {passed : List String} :
    checkNames passed definitions = .ok () ↔ (∀ f ∈ definitions, f.name ≠ argFormat) ∧
      (∀ f ∈ definitions, f.name ∉ passed) ∧ (definitions.map (·.name)).Nodup := by
  induction definitions generalizing passed with
  | nil => simp [checkNames]
  | cons f rest ih =>
    rw [checkNames, List.map_cons, List.nodup_cons, List.forall_mem_cons, List.forall_mem_cons]
    by_cases harg : f.name = argFormat
    · simp [Format.isArg, harg]
    by_cases hpassed : f.name ∈ passed
    · simp [Format.isArg, harg, hpassed]
    · have hrest : (∀ g ∈ rest, g.name ∉ f.name :: passed) ↔
          (∀ g ∈ rest, g.name ∉ passed) ∧ f.name ∉ rest.map (·.name) := by
        simp only [List.mem_cons, not_or, List.mem_map, not_exists, not_and]
        exact ⟨fun h => ⟨fun g hg => (h g hg).2, fun g hg => (h g hg).1⟩,
          fun h g hg => ⟨h.2 g hg, h.1 g hg⟩⟩
      rw [if_neg (by simpa [Format.isArg] using harg), if_neg (by simpa using hpassed), ih, hrest]
      tauto

theorem contains_iff : c.contains name = true ↔ name ∈ c.formats.map (·.name) := by
  simp [contains]

/-- The parents of all formats are known. -/
def Closed (c : FormatCatalog) : Prop :=
  ∀ f ∈ c.formats, ∀ parent, f.parent = some parent → parent ∈ c.formats.map (·.name)

/-- Parents are looked at before cycles. -/
theorem parentError?_cases (c : FormatCatalog) :
    c.Closed ∧ c.parentError? = (c.formats.findSome? fun f => c.cycleFrom? f.name).map .cycle ∨
      ¬c.Closed ∧ c.parentError? ≠ none := by
  rw [parentError?]
  split
  · rename_i error herror
    obtain ⟨f, hf, hsome⟩ := List.exists_of_findSome?_eq_some herror
    refine .inr ⟨fun hclosed => ?_, by simp⟩
    split at hsome
    · rename_i parent hparent
      rw [if_pos (contains_iff.2 (hclosed f hf parent hparent))] at hsome
      cases hsome
    · cases hsome
  · rename_i hnone
    rw [List.findSome?_eq_none_iff] at hnone
    refine .inl ⟨fun f hf parent hparent => ?_, rfl⟩
    have hf := hnone f hf
    rw [hparent] at hf
    by_contra hmem
    simp only [contains_iff.not.2 hmem] at hf
    cases hf

theorem named_iff :
    Named definitions ↔ checkNames [] definitions = .ok () ∧ (gather definitions).Closed := by
  rw [checkNames_eq_ok_iff, Closed, names_gather, gather]
  simp only [List.mem_append, List.mem_singleton]
  constructor
  · intro h
    refine ⟨⟨h.unreserved, by simp, h.distinct⟩, ?_⟩
    rintro f (hf | rfl) parent hparent
    · exact (h.defined f hf parent hparent).symm
    · cases hparent
  · rintro ⟨⟨hunreserved, -, hdistinct⟩, hclosed⟩
    exact ⟨hunreserved, hdistinct, fun f hf parent hparent =>
      (hclosed f (.inl hf) parent hparent).symm⟩

/-- What comes of definitions is decided by their names, then their parents, and then the first
cycle that is found. -/
theorem ofDefinitions_cases (definitions : List Format) :
    Named definitions ∧ ofDefinitions definitions =
        (match (gather definitions).formats.findSome? fun f =>
          (gather definitions).cycleFrom? f.name with
        | some chain => .error (.cycle chain)
        | none => .ok (gather definitions)) ∨
      ¬Named definitions ∧ ∀ c, ofDefinitions definitions ≠ .ok c := by
  rcases hnames : checkNames [] definitions with e | u
  · refine .inr ⟨fun h => ?_, fun c h => ?_⟩
    · rw [(named_iff.1 h).1] at hnames
      cases hnames
    · rw [ofDefinitions, hnames] at h
      cases h
  · have hdefinitions : ofDefinitions definitions =
        (gather definitions).parentError?.elim (.ok (gather definitions)) .error := by
      rw [ofDefinitions, hnames, gather]
      simp only [bind, Except.bind]
      cases parentError? ⟨definitions ++ [Format.arg]⟩ <;> rfl
    rw [hdefinitions, named_iff, hnames]
    rcases parentError?_cases (gather definitions) with ⟨hclosed, herror⟩ | ⟨hclosed, herror⟩
    · refine .inl ⟨⟨rfl, hclosed⟩, ?_⟩
      rw [herror]
      cases (gather definitions).formats.findSome? fun f =>
        (gather definitions).cycleFrom? f.name <;> rfl
    · refine .inr ⟨fun h => hclosed h.2, fun c h => ?_⟩
      obtain ⟨error, hsome⟩ := Option.ne_none_iff_exists'.1 herror
      rw [hsome] at h
      cases h

/-! ## The loop of the check -/

/-- Goes up from a format past names, the last one first, until it is at the top or comes to a name
that it has passed.  It ends if there is a result at all. -/
inductive Climbs (c : FormatCatalog) : List String → Option Format → Option (List String) → Prop
  | top (passed : List String) : Climbs c passed none none
  | back {passed : List String} {f : Format} (h : f.name ∈ passed) :
      Climbs c passed (some f) (some (passed.reverse.dropWhile (· != f.name) ++ [f.name]))
  | up {passed : List String} {f : Format} {result : Option (List String)} (h : f.name ∉ passed)
      (next : Climbs c (f.name :: passed) (f.parent.bind c.get?) result) :
      Climbs c passed (some f) result

theorem Climbs.unique {passed : List String} {f : Option Format}
    {result result' : Option (List String)} (h : c.Climbs passed f result)
    (h' : c.Climbs passed f result') : result = result' := by
  induction h with
  | top => cases h'; rfl
  | back hback =>
    cases h' with
    | back => rfl
    | up hnew => exact absurd hback hnew
  | up hnew _ ih =>
    cases h' with
    | back hback => exact absurd hback hnew
    | up _ hnext => exact ih hnext

/-- The formats that have not been passed. -/
def ahead (c : FormatCatalog) (passed : List String) : List Format :=
  c.formats.filter (·.name ∉ passed)

theorem length_ahead_lt {f : Format} {passed : List String} (hf : f ∈ c.formats)
    (hpassed : f.name ∉ passed) :
    (c.ahead (f.name :: passed)).length < (c.ahead passed).length := by
  have hsub : c.ahead (f.name :: passed) = (c.ahead passed).filter (·.name ≠ f.name) := by
    rw [ahead, ahead, List.filter_filter]
    refine List.filter_congr fun g _ => ?_
    simp
  rw [hsub]
  refine List.length_filter_lt_length_iff_exists.2 ⟨f, ?_, by simp⟩
  exact List.mem_filter.2 ⟨hf, by simpa using hpassed⟩

/-- **The loop ends from wherever it starts**: with each step there is one format less ahead. -/
theorem exists_climbs (c : FormatCatalog) (passed : List String) (f : Option Format)
    (hf : ∀ g ∈ f, g ∈ c.formats) : ∃ result, c.Climbs passed f result := by
  induction hn : (c.ahead passed).length using Nat.strongRecOn generalizing passed f with
  | _ n ih =>
    cases f with
    | none => exact ⟨none, .top passed⟩
    | some g =>
      by_cases hpassed : g.name ∈ passed
      · exact ⟨_, .back hpassed⟩
      · obtain ⟨result, hresult⟩ := ih _ (hn ▸ length_ahead_lt (hf g rfl) hpassed)
          (g.name :: passed) (g.parent.bind c.get?) (fun next hnext => by
            obtain ⟨parent, -, hget⟩ := Option.bind_eq_some_iff.1 hnext
            exact List.mem_of_find?_eq_some hget) rfl
        exact ⟨result, .up hpassed hresult⟩

/-- The loop has the result that the ancestors give, taken far enough. -/
theorem Named.climbs_loopIn (h : Named definitions) {n : Nat} {passed : List String} {f : Format}
    (hf : f ∈ (gather definitions).formats)
    (hn : ((gather definitions).ahead passed).length < n) :
    (gather definitions).Climbs passed (some f)
      (loopIn passed ((gather definitions).lineage n f.name)) := by
  induction n generalizing passed f with
  | zero => cases hn
  | succ n ih =>
    have hparent : (gather definitions).parent? f.name = f.parent := by
      rw [parent?, h.get?_eq hf, Option.bind_some]
    obtain ⟨rest, hrest⟩ : ∃ rest, (gather definitions).lineage (n + 1) f.name = f.name :: rest :=
      ⟨_, rfl⟩
    by_cases hpassed : f.name ∈ passed
    · rw [hrest, loopIn, if_pos (List.contains_iff_mem.2 hpassed)]
      exact .back hpassed
    · rw [hrest, loopIn, if_neg (by simpa using hpassed)]
      refine .up hpassed ?_
      cases hnone : f.parent with
      | none =>
        rw [lineage_of_none (hparent.trans hnone), List.cons.injEq] at hrest
        rw [← hrest.2]
        exact .top _
      | some parent =>
        have hextends : (gather definitions).Extends f.name parent := hparent.trans hnone
        rw [lineage_of_extends hextends, List.cons.injEq] at hrest
        obtain ⟨g, hg, rfl⟩ := List.mem_map.1 (h.mem_names_of_extends hextends)
        rw [Option.bind_some, h.get?_eq hg, ← hrest.2]
        exact ih hg (by have := length_ahead_lt hf hpassed; omega)

theorem Named.climbs_cycleFrom? (h : Named definitions) {f : Format}
    (hf : f ∈ (gather definitions).formats) :
    (gather definitions).Climbs [] (some f) ((gather definitions).cycleFrom? f.name) :=
  h.climbs_loopIn hf (Nat.lt_succ_of_le (List.length_filter_le _ _))

/-- A chain of parents that goes once round: its first name comes again at the end, and no other one
comes twice. -/
structure IsCycle (definitions : List Format) (chain : List String) : Prop where
  long : 2 ≤ chain.length
  closed : chain.head? = chain.getLast?
  distinct : chain.dropLast.Nodup
  declared : chain.IsChain (Declares definitions)

theorem cycleFrom?_cases (c : FormatCatalog) (name : String) :
    c.cycleFrom? name = none ∧ (c.ancestry name).Nodup ∨
      ∃ front first inner back, c.cycleFrom? name = some (first :: (inner ++ [first])) ∧
        c.ancestry name = front ++ first :: (inner ++ first :: back) ∧
        (front ++ first :: inner).Nodup :=
  @loopIn_cases [] (c.ancestry name) List.nodup_nil

theorem Named.isCycle_of_cycleFrom? (h : Named definitions) {chain : List String}
    (hchain : (gather definitions).cycleFrom? name = some chain) : IsCycle definitions chain := by
  rcases cycleFrom?_cases (gather definitions) name with
    ⟨hnone, -⟩ | ⟨front, first, inner, back, hsome, hsplit, hnodup⟩
  · rw [hnone] at hchain
    cases hchain
  · obtain rfl := Option.some.inj (hsome.symm.trans hchain)
    refine ⟨?_, ?_, ?_, ?_⟩
    · simp
    · rw [← List.cons_append, List.getLast?_concat]
      rfl
    · rw [← List.cons_append, List.dropLast_concat]
      exact (List.nodup_append.1 hnodup).2.1
    · have hdeclared := h.isChain_lineage ((gather definitions).formats.length + 1) name
      rw [← ancestry, hsplit] at hdeclared
      have hround : first :: (inner ++ [first]) <:+: front ++ first :: (inner ++ first :: back) :=
        ⟨front, back, by simp⟩
      exact hdeclared.infix hround

theorem cycleFrom?_eq_none_iff : c.cycleFrom? name = none ↔ (c.ancestry name).Nodup := by
  rcases cycleFrom?_cases c name with
    ⟨hnone, hnodup⟩ | ⟨front, first, inner, back, hsome, hsplit, -⟩
  · exact iff_of_true hnone hnodup
  · refine iff_of_false (by rw [hsome]; simp) fun hnodup => ?_
    rw [hsplit, List.nodup_append, List.nodup_cons] at hnodup
    exact hnodup.2.1.1 (by simp)

/-- **There are no loops exactly if the check finds none.** -/
theorem Named.findSome?_eq_none_iff (h : Named definitions) :
    ((gather definitions).formats.findSome? fun f => (gather definitions).cycleFrom? f.name) =
      none ↔ Loopless definitions := by
  rw [List.findSome?_eq_none_iff, h.loopless_iff]
  exact forall₂_congr fun f _ => cycleFrom?_eq_none_iff

/-- **Definitions make a catalog exactly if they form a forest.** -/
theorem exists_ofDefinitions_iff (definitions : List Format) :
    (∃ c, ofDefinitions definitions = .ok c) ↔ Named definitions ∧ Loopless definitions := by
  rcases ofDefinitions_cases definitions with ⟨h, hresult⟩ | ⟨h, hresult⟩
  · rw [hresult, and_iff_right h, ← h.findSome?_eq_none_iff]
    split
    · rename_i chain hchain
      exact iff_of_false (by simp) (by simp [hchain])
    · rename_i hnone
      exact iff_of_true ⟨_, rfl⟩ hnone
  · exact iff_of_false (fun ⟨c, hc⟩ => hresult c hc) fun hforest => h hforest.1

/-- A loop is reported once round. -/
theorem Named.exists_cycle (h : Named definitions) (hloop : ¬Loopless definitions) :
    ∃ chain, ofDefinitions definitions = .error (.cycle chain) ∧ IsCycle definitions chain := by
  rcases ofDefinitions_cases definitions with ⟨-, hresult⟩ | ⟨hnot, -⟩
  · obtain ⟨chain, hchain⟩ := Option.ne_none_iff_exists'.1 (h.findSome?_eq_none_iff.not.2 hloop)
    obtain ⟨f, hf, hcycle⟩ := List.exists_of_findSome?_eq_some hchain
    refine ⟨chain, ?_, h.isCycle_of_cycleFrom? hcycle⟩
    rw [hresult, hchain]
  · exact absurd h hnot

/-- **Which definitions make a catalog.**  They do if they form a forest, whatever their order, and
all of them are kept, with `arg` after them.  A loop is reported once round.  The search for one
ends from wherever it starts. -/
theorem ofDefinitions_exact (definitions : List Format) :
    ((∃ c, ofDefinitions definitions = .ok c) ↔ Named definitions ∧ Loopless definitions) ∧
      (∀ c, ofDefinitions definitions = .ok c → c.formats = definitions ++ [.arg]) ∧
      (Named definitions → ¬Loopless definitions →
        ∃ chain, ofDefinitions definitions = .error (.cycle chain) ∧ IsCycle definitions chain) ∧
      (∀ f ∈ (gather definitions).formats,
        ∃! result, (gather definitions).Climbs [] (some f) result) ∧
      (Named definitions → ∀ f ∈ (gather definitions).formats,
        (gather definitions).Climbs [] (some f) ((gather definitions).cycleFrom? f.name)) := by
  refine ⟨exists_ofDefinitions_iff definitions, fun c => ofDefinitions_eq_ok, Named.exists_cycle,
    fun f hf => ?_, fun h f => h.climbs_cycleFrom?⟩
  obtain ⟨result, hresult⟩ := exists_climbs (gather definitions) [] (some f)
    fun g hg => Option.some.inj hg ▸ hf
  exact ⟨result, hresult, fun other hother => hother.unique hresult⟩

/-- The way into the loop is left out. -/
example : ofDefinitions [.define "log" "" (some "text") .grey,
    .define "text" "" (some "table") .grey, .define "table" "" (some "text") .grey] =
      .error (.cycle ["text", "table", "text"]) :=
  rfl

/-! ## The order of formats -/

/-- The catalog comes from definitions, or from a text. -/
def IsLoaded (c : FormatCatalog) : Prop :=
  (∃ definitions, ofDefinitions definitions = .ok c) ∨ ∃ text, read text = .ok c

theorem IsLoaded.exists_definitions (h : c.IsLoaded) :
    ∃ definitions, Named definitions ∧ Loopless definitions ∧ c = gather definitions := by
  have hdefinitions : ∃ definitions, ofDefinitions definitions = .ok c := by
    rcases h with h | ⟨text, h⟩
    · exact h
    · rw [read] at h
      split at h
      · cases h
      · rename_i entries _
        cases hformats : formatsOfEntries entries with
        | error e => simp [hformats, bind, Except.bind] at h
        | ok formats => exact ⟨formats, by simpa only [hformats, bind, Except.bind] using h⟩
  obtain ⟨definitions, hc⟩ := hdefinitions
  obtain ⟨hnamed, hloopless⟩ := (exists_ofDefinitions_iff definitions).1 ⟨c, hc⟩
  refine ⟨definitions, hnamed, hloopless, ?_⟩
  obtain ⟨formats⟩ := c
  exact congrArg FormatCatalog.mk (ofDefinitions_eq_ok hc)

namespace IsLoaded

theorem parent?_arg (h : c.IsLoaded) : c.parent? argFormat = none := by
  obtain ⟨definitions, hnamed, -, rfl⟩ := h.exists_definitions
  have hget := hnamed.get?_eq (List.mem_append_right _ (List.mem_singleton.2 rfl))
  rw [parent?, show argFormat = Format.arg.name from rfl, hget]
  rfl

/-- **No way up comes to a name for the second time.** -/
theorem nodup_ancestry (h : c.IsLoaded) (name : String) : (c.ancestry name).Nodup := by
  obtain ⟨definitions, hnamed, hloopless, rfl⟩ := h.exists_definitions
  by_cases hname : name ∈ (gather definitions).formats.map (·.name)
  · obtain ⟨f, hf, rfl⟩ := List.mem_map.1 hname
    exact hnamed.loopless_iff.1 hloopless f hf
  · cases hparent : (gather definitions).parent? name with
    | some parent => exact absurd (FormatCatalog.mem_names_of_extends hparent) hname
    | none =>
      rw [ancestry, lineage_of_none hparent]
      exact List.nodup_singleton name

/-- **The way up from a name ends after as many steps as there are formats.** -/
theorem climb_eq_none (h : c.IsLoaded) (name : String) :
    c.climb c.formats.length name = none := by
  have hnodup := h.nodup_ancestry name
  obtain ⟨definitions, hnamed, -, rfl⟩ := h.exists_definitions
  exact hnamed.climb_eq_none_of_nodup hnodup

theorem yields_ancestry (h : c.IsLoaded) (name : String) :
    c.Yields (some name) (c.ancestry name) := by
  refine yields_lineage ?_
  rw [climb_add, h.climb_eq_none, Option.bind_none]

/-- No format is its own ancestor. -/
theorem not_ancestor_self (h : c.IsLoaded) : ¬c.Ancestor name name := by
  intro hself
  -- the way back could be gone again and again, and would never end
  obtain ⟨parent, hparent, hway⟩ := Relation.TransGen.head'_iff.1 hself
  obtain ⟨more, hmore⟩ := reflTransGen_iff_climb.1 hway
  have hround : c.climb (more + 1) name = some name := by
    rw [climb, show c.parent? name = some parent from hparent, Option.bind_some, hmore]
  have hrounds : ∀ n, c.climb (n * (more + 1)) name = some name := by
    intro n
    induction n with
    | zero => rw [Nat.zero_mul, climb]
    | succ n ih => rw [Nat.succ_mul, climb_add, ih, Option.bind_some, hround]
  have hends := hrounds c.formats.length
  rw [Nat.mul_succ, Nat.add_comm, climb_add, h.climb_eq_none, Option.bind_none] at hends
  cases hends

end IsLoaded

/-- What a format may go as is what is reached from it. -/
theorem accepts_iff_reflTransGen :
    c.accepts name other = true ↔ Relation.ReflTransGen c.Extends name other := by
  rw [accepts_iff, Relation.reflTransGen_iff_eq_or_transGen, @eq_comm _ other, Ancestor]

theorem rightUnique_extends (c : FormatCatalog) : Relator.RightUnique c.Extends :=
  fun _ _ _ h h' => Option.some.inj (h.symm.trans h')

/-- What extends nothing goes as itself only. -/
theorem accepts_iff_of_none (h : c.parent? name = none) :
    c.accepts name other = true ↔ other = name := by
  rw [accepts_iff_reflTransGen, Relation.ReflTransGen.cases_head_iff]
  refine ⟨?_, fun heq => .inl heq.symm⟩
  rintro (rfl | ⟨parent, hparent, -⟩)
  · rfl
  · rw [Extends, h] at hparent
    cases hparent

namespace IsLoaded

theorem accepts_antisymm (h : c.IsLoaded) (hthere : c.accepts name other = true)
    (hback : c.accepts other name = true) : name = other := by
  rcases accepts_iff.1 hthere with rfl | hthere
  · rfl
  · rw [accepts_iff_reflTransGen] at hback
    exact absurd (Relation.TransGen.trans_left hthere hback) h.not_ancestor_self

/-- An unknown name, and `arg`, extend nothing. -/
theorem parent?_eq_none (h : c.IsLoaded) (hname : c.contains name = false ∨ name = argFormat) :
    c.parent? name = none := by
  rcases hname with hname | rfl
  · cases hparent : c.parent? name with
    | none => rfl
    | some parent =>
      rw [contains_iff.2 (mem_names_of_extends hparent)] at hname
      cases hname
  · exact h.parent?_arg

/-- **The formats of a catalog are ordered as a forest.**  The names above one another are
comparable, and the way up from every name ends. -/
theorem accepts_forest (h : c.IsLoaded) :
    (∀ name, c.Yields (some name) (c.ancestry name) ∧ (c.ancestry name).head? = some name ∧
        (c.ancestry name).Nodup) ∧
      (∀ name, c.accepts name name = true) ∧
      (∀ first second third, c.accepts first second = true → c.accepts second third = true →
        c.accepts first third = true) ∧
      (∀ first second, c.accepts first second = true → c.accepts second first = true →
        first = second) ∧
      (∀ source first second, c.accepts source first = true → c.accepts source second = true →
        c.accepts first second = true ∨ c.accepts second first = true) ∧
      ∀ name, c.contains name = false ∨ name = argFormat →
        ∀ target, c.accepts name target = true ↔ target = name := by
  refine ⟨fun name => ⟨h.yields_ancestry name, head?_lineage c _ name, h.nodup_ancestry name⟩,
    fun name => ?_, fun first second third => ?_, fun first second => h.accepts_antisymm,
    fun source first second => ?_,
    fun name hname target => accepts_iff_of_none (h.parent?_eq_none hname)⟩
  · exact accepts_iff_reflTransGen.2 .refl
  · simp only [accepts_iff_reflTransGen]
    exact Relation.ReflTransGen.trans
  · simp only [accepts_iff_reflTransGen]
    exact Relation.ReflTransGen.total_of_right_unique c.rightUnique_extends

end IsLoaded

/-- Two kinds of tables, which are text. -/
def tables : FormatCatalog :=
  ⟨[.define "csv" "csv" (some "table") .grey, .define "table" "" (some "text") .grey,
    .define "tsv" "tsv" (some "table") .grey, .define "text" "txt" none .grey, .arg]⟩

theorem accepts_forest_tables :
    tables.IsLoaded ∧ tables.accepts "csv" "text" = true ∧ ¬tables.accepts "text" "csv" = true ∧
      ∀ target, tables.accepts "xls" target = true ↔ target = "xls" := by
  have hloaded : tables.IsLoaded := .inl ⟨tables.formats.dropLast, rfl⟩
  obtain ⟨-, -, -, hantisymm, -, hunknown⟩ := hloaded.accepts_forest
  have htext : tables.accepts "csv" "text" = true := rfl
  refine ⟨hloaded, htext, fun hback => ?_, hunknown "xls" (.inl rfl)⟩
  exact absurd (hantisymm "csv" "text" htext hback) (by decide)

end FormatCatalog

end Flowscript
