import Mathlib.Data.List.Lex
import Mathlib.Order.Bounds.Basic
import Flowscript.Proofs.Pipeline.Upstream

/-!
# First ways

A way up from a block is told by the inputs that it goes through.  Ways are compared by the first
input where they part, and a way stands before those that go on from it.  A walk enters modules in
the order of the first ways to them, however many ways there are.

* `InOrder` says of a list of new blocks that they stand in the order of the first ways to them, and
  `InOrder.append` puts two such lists together.
* `Pipeline.ascend` goes along a way, and `Pipeline.Way` are the ways to modules.
* `Pipeline.Consistent.walk_inOrder` is the result for walks.
-/

set_option autoImplicit false

namespace Flowscript

/-! ## Ways in order -/

/-- What comes after a way, but not after all that goes on from it by one step, goes on from it. -/
theorem prefix_of_lt_of_le {w w' : List Nat} {i : Nat} (hlt : w < w') (hle : w' ≤ w ++ [i]) :
    w <+: w' := by
  rw [← not_lt] at hle
  induction w generalizing w' with
  | nil => exact List.nil_prefix
  | cons a rest ih =>
    cases w' with
    | nil => exact absurd hlt (by simp)
    | cons b rest' =>
      rw [List.cons_append, List.cons_lt_cons_iff, not_or, not_and] at hle
      rw [List.cons_lt_cons_iff] at hlt
      rcases hlt with hab | ⟨rfl, hlt⟩
      · exact absurd hab hle.1
      · exact (List.prefix_cons_inj a).2 (ih hlt (hle.2 rfl))

theorem lt_of_initial {w w' : List Nat} (h : w <+: w') (hne : w ≠ w') : w < w' := by
  obtain ⟨rest, rfl⟩ := h
  induction w with
  | nil =>
    cases rest with
    | nil => exact absurd rfl hne
    | cons a rest => exact List.nil_lt_cons a rest
  | cons a w ih =>
    rw [List.cons_append, List.cons_lt_cons_iff]
    exact .inr ⟨rfl, ih fun heq => hne (congrArg (a :: ·) heq)⟩

/-- The first of the ways to a block. -/
def IsFirst (reach : List Nat → BlockId → Prop) (m : BlockId) (w : List Nat) : Prop :=
  IsLeast { w | reach w m } w

/-- New blocks stand in the order of the first ways to them, and no block is left out. -/
structure InOrder (reach : List Nat → BlockId → Prop) (seen new : List BlockId) : Prop where
  complete : ∀ w m, reach w m → m ∈ seen ∨ m ∈ new
  first : ∀ m ∈ new, ∃ w, IsFirst reach m w
  sorted : new.Pairwise fun a b => ∀ w w', IsFirst reach a w → IsFirst reach b w' → w < w'

namespace InOrder

variable {reach reach' : List Nat → BlockId → Prop} {seen seen' new more : List BlockId}

theorem congr (h : InOrder reach seen new) (hreach : ∀ w m, reach' w m ↔ reach w m) :
    InOrder reach' seen new := by
  obtain rfl : reach' = reach := funext fun w => funext fun m => propext (hreach w m)
  exact h

theorem mono (h : InOrder reach seen new) (hseen : ∀ m ∈ seen, m ∈ seen') :
    InOrder reach seen' new :=
  ⟨fun w m hway => (h.complete w m hway).imp_left (hseen m), h.first, h.sorted⟩

/-- Ways that lead to nothing new. -/
theorem stay (h : ∀ w m, reach w m → m ∈ seen) : InOrder reach seen [] :=
  ⟨fun w m hway => .inl (h w m hway), by simp, .nil⟩

/-- The way of no steps comes first. -/
theorem single {id : BlockId} (h : ∀ w m, reach w m ↔ w = [] ∧ m = id) :
    InOrder reach seen [id] where
  complete := fun w m hway => .inr (List.mem_singleton.2 ((h w m).1 hway).2)
  first := by
    intro m hm
    refine ⟨[], (h _ _).2 ⟨rfl, List.mem_singleton.1 hm⟩, fun w _ => ?_⟩
    exact not_lt.1 (List.not_lt_nil w)
  sorted := List.pairwise_singleton _ _

/-- The order stays if all first ways change alike. -/
theorem pairwise_of_first (h : InOrder reach seen new) {f : List Nat → List Nat}
    (hf : ∀ w w', w < w' → f w < f w')
    (hfirst : ∀ m ∈ new, ∀ w, IsFirst reach m w → IsFirst reach' m (f w)) :
    new.Pairwise fun a b => ∀ w w', IsFirst reach' a w → IsFirst reach' b w' → w < w' := by
  refine h.sorted.imp_of_mem ?_
  intro a b ha hb hsorted w w' hw hw'
  obtain ⟨wa, hwa⟩ := h.first a ha
  obtain ⟨wb, hwb⟩ := h.first b hb
  rw [hw.unique (hfirst a ha wa hwa), hw'.unique (hfirst b hb wb hwb)]
  exact hf wa wb (hsorted wa wb hwa hwb)

/-- Ways behind one more step. -/
theorem behind (h : InOrder reach seen new) (i : Nat) :
    InOrder (fun w m => ∃ rest, w = i :: rest ∧ reach rest m) seen new := by
  have hcons : ∀ {w w' : List Nat}, i :: w < i :: w' ↔ w < w' := by
    intro w w'
    rw [List.cons_lt_cons_iff]
    simp
  have hfirst : ∀ {m w}, IsFirst reach m w →
      IsFirst (fun w m => ∃ rest, w = i :: rest ∧ reach rest m) m (i :: w) := by
    rintro m w ⟨hway, hleast⟩
    refine ⟨⟨w, rfl, hway⟩, ?_⟩
    rintro _ ⟨rest, rfl, hrest⟩
    rw [← not_lt, hcons, not_lt]
    exact hleast hrest
  refine ⟨?_, ?_, h.pairwise_of_first (fun w w' => hcons.2) fun m _ w hw => hfirst hw⟩
  · rintro _ m ⟨rest, rfl, hrest⟩
    exact h.complete rest m hrest
  · intro m hm
    obtain ⟨w, hw⟩ := h.first m hm
    exact ⟨i :: w, hfirst hw⟩

/-- **Ways that all stand before others come first, and of the others only what is new counts.** -/
theorem append (h : InOrder reach seen new) (h' : InOrder reach' seen' more)
    (hseen : ∀ m, m ∈ seen' ↔ m ∈ seen ∨ m ∈ new) (hfresh : ∀ m ∈ more, m ∉ seen')
    (hlt : ∀ w w' m m', reach w m → reach' w' m' → w < w') :
    InOrder (fun w m => reach w m ∨ reach' w m) seen (new ++ more) := by
  have hearly : ∀ {m w}, IsFirst reach m w → IsFirst (fun w m => reach w m ∨ reach' w m) m w := by
    rintro m w ⟨hway, hleast⟩
    refine ⟨.inl hway, ?_⟩
    rintro w' (hway' | hway')
    · exact hleast hway'
    · exact (hlt w w' m m hway hway').le
  have hlate : ∀ {m w}, m ∈ more → IsFirst reach' m w →
      IsFirst (fun w m => reach w m ∨ reach' w m) m w := by
    rintro m w hm ⟨hway, hleast⟩
    refine ⟨.inr hway, ?_⟩
    rintro w' (hway' | hway')
    · exact absurd ((hseen m).2 (h.complete w' m hway')) (hfresh m hm)
    · exact hleast hway'
  refine ⟨?_, ?_, List.pairwise_append.2 ⟨?_, ?_, ?_⟩⟩
  · rintro w m (hway | hway)
    · exact (h.complete w m hway).imp_right (List.mem_append_left _)
    · rcases h'.complete w m hway with hmem | hmem
      · exact ((hseen m).1 hmem).imp_right (List.mem_append_left _)
      · exact .inr (List.mem_append_right _ hmem)
  · intro m hm
    rcases List.mem_append.1 hm with hm | hm
    · obtain ⟨w, hw⟩ := h.first m hm
      exact ⟨w, hearly hw⟩
    · obtain ⟨w, hw⟩ := h'.first m hm
      exact ⟨w, hlate hm hw⟩
  · exact h.pairwise_of_first (f := id) (fun w w' hww => hww) fun m _ w hw => hearly hw
  · exact h'.pairwise_of_first (f := id) (fun w w' hww => hww) fun m hm w hw => hlate hm hw
  · intro a ha b hb w w' hw hw'
    obtain ⟨wa, hwa⟩ := h.first a ha
    obtain ⟨wb, hwb⟩ := h'.first b hb
    rw [hw.unique (hearly hwa), hw'.unique (hlate hb hwb)]
    exact hlt wa wb a b hwa.1 hwb.1

end InOrder

/-! ## Ways up -/

namespace Pipeline

/-- The block at the end of a way up, which is given by the inputs that it goes through. -/
def ascend (p : Pipeline) (id : BlockId) : List Nat → Option BlockId
  | [] => some id
  | i :: rest => (p.feeder? (.input id i)).bind fun source => p.ascend source.block rest

/-- The way leads to a module. -/
def Way (p : Pipeline) (id : BlockId) (w : List Nat) (m : BlockId) : Prop :=
  p.ascend id w = some m ∧ p.IsModule m

/-- The way starts at one of the ports and leads to a module. -/
def WayFrom (p : Pipeline) (id : BlockId) (ports : List Port) (w : List Nat) (m : BlockId) : Prop :=
  ∃ port ∈ ports, ∃ rest, w = port.index :: rest ∧ p.Way id w m

variable {p : Pipeline} {path seen : List BlockId} {id m : BlockId}

theorem ascend_append (w w' : List Nat) :
    p.ascend id (w ++ w') = (p.ascend id w).bind fun m => p.ascend m w' := by
  induction w generalizing id with
  | nil => rfl
  | cons i rest ih =>
    rw [List.cons_append, ascend, ascend, Option.bind_assoc]
    exact congrArg _ (funext fun source => ih)

/-- What is at the end of a way is upstream. -/
theorem reflTransGen_of_ascend {w : List Nat} (h : p.ascend id w = some m) :
    Relation.ReflTransGen p.Feeds m id := by
  induction w generalizing id with
  | nil => exact Option.some.inj h ▸ .refl
  | cons i rest ih =>
    obtain ⟨source, hsource, hrest⟩ := Option.bind_eq_some_iff.1 h
    exact (ih hrest).tail ⟨i, source, hsource, rfl⟩

/-- **What is upstream of a module that was entered has been entered as well**, if the walk is not
above it. -/
theorem Consistent.mem_seen_of_reflTransGen (h : p.Consistent) (htracked : p.Tracked path seen)
    (hpath : ∀ a ∈ path, p.Upstream id a) (hm : p.IsModule m) (hoff : id ∉ path)
    (hup : Relation.ReflTransGen p.Feeds m id) : id ∈ seen → m ∈ seen := by
  induction hup with
  | refl => exact fun hseen => hseen
  | @tail b c hmb hbc ih =>
    intro hseen
    have hsettled := (htracked _ hseen).resolve_left hoff
    have hb : p.IsModule b := by
      by_contra hb
      exact hb (h.eq_of_reflTransGen hmb hbc hb ▸ hm)
    refine ih (fun a ha => .head hbc (hpath a ha)) (fun hmem => ?_) (hsettled.closed _ hbc hb)
    -- a block on the way would be upstream of itself
    exact not_upstream_self hsettled.grounded ((hpath b hmem).tail hbc)

/-- A way of one step or more starts at a port of the block. -/
theorem Consistent.way_iff (h : p.Consistent) (ht : p.toolbox.Built) {b : Block}
    (hb : p.block? id = some b) (hm : b.isModule = true) (w : List Nat) (m : BlockId) :
    p.Way id w m ↔ (w = [] ∧ m = id) ∨ p.WayFrom id b.inputs w m := by
  constructor
  · rintro ⟨hway, hmodule⟩
    cases w with
    | nil => exact .inl ⟨rfl, (Option.some.inj hway).symm⟩
    | cons i rest =>
      obtain ⟨source, hsource, hrest⟩ := Option.bind_eq_some_iff.1 hway
      obtain ⟨-, b', port, hb', hport⟩ := h.feeder_ends hsource
      obtain rfl : b = b' := Option.some.inj (hb.symm.trans hb')
      have hindex : port.index = i :=
        ((h.wellFormed ht).numbered (.input id i) port (port?_eq_some_iff.2 ⟨b, hb, hport⟩)).1
      exact .inr ⟨port, List.mem_of_getElem? hport, rest, by rw [hindex], hway, hmodule⟩
  · rintro (⟨rfl, rfl⟩ | ⟨_, _, _, _, hway⟩)
    · exact ⟨rfl, b, hb, hm⟩
    · exact hway

/-- A way from some ports starts at the first one, or at one of the others. -/
theorem wayFrom_cons_iff {port : Port} {ports : List Port} {w : List Nat} :
    p.WayFrom id (port :: ports) w m ↔
      (∃ rest, w = port.index :: rest ∧ p.Way id w m) ∨ p.WayFrom id ports w m := by
  simp only [WayFrom, List.mem_cons, or_and_right, exists_or, exists_eq_left]

/-- A way that starts at a port goes on from what feeds it. -/
theorem way_cons_iff {i : Nat} {source : PortRef} (h : p.feeder? (.input id i) = some source)
    {rest : List Nat} : p.Way id (i :: rest) m ↔ p.Way source.block rest m := by
  rw [Way, Way, ascend, h, Option.bind_some]

/-- The inputs of a block are numbered. -/
theorem Consistent.pairwise_inputs (h : p.Consistent) (ht : p.toolbox.Built) {b : Block}
    (hb : p.block? id = some b) :
    b.inputs.Pairwise fun port port' => port.index < port'.index := by
  have hindex : ∀ i (hi : i < b.inputs.length), b.inputs[i].index = i := fun i hi =>
    ((h.wellFormed ht).numbered (.input id i) _
      (port?_eq_some_iff.2 ⟨b, hb, List.getElem?_eq_getElem hi⟩)).1
  rw [List.pairwise_iff_getElem]
  intro i j hi hj hij
  rwa [hindex i hi, hindex j hj]

/-- No way from what is no module leads to one, if it feeds something. -/
theorem Consistent.not_way (h : p.Consistent) (hm : ¬p.IsModule id) (hfeeds : ∃ a, p.Feeds id a)
    (w : List Nat) (m : BlockId) : ¬p.Way id w m := by
  rintro ⟨hway, hmodule⟩
  cases w with
  | nil => exact hm (Option.some.inj hway ▸ hmodule)
  | cons i rest =>
    obtain ⟨source, hsource, -⟩ := Option.bind_eq_some_iff.1 hway
    obtain ⟨a, ha⟩ := hfeeds
    exact hm (h.isModule_of_feeds ⟨i, source, hsource, rfl⟩ ha)

/-! ## Walks -/

/-- The blocks that feed some of the inputs of a block. -/
def feedersOf (p : Pipeline) (id : BlockId) (ports : List Port) : List BlockId :=
  ports.filterMap fun port => (p.feeder? (.input id port.index)).map (·.block)

/-- Walks from the feeders of one port after the other, if it is known what one walk does. -/
theorem walkAll_inOrder
    (hwalk : ∀ seen id, p.Tracked path seen → (∀ a ∈ path, p.Upstream id a) →
      (∃ a, p.Feeds id a) → (∀ a, .loop a ∉ (p.walk path seen id).1) →
      ∃ new, p.Explored path seen [id] (p.walk path seen id) new ∧ InOrder (p.Way id) seen new)
    (id : BlockId) (hup : ∀ a ∈ path, Relation.ReflTransGen p.Feeds id a) (ports : List Port)
    (hports : ports.Pairwise fun port port' => port.index < port'.index) :
    ∀ seen, p.Tracked path seen → (∀ a, .loop a ∉ (p.walkAll path seen (p.feedersOf id ports)).1) →
      ∃ new, p.Explored path seen (p.feedersOf id ports)
          (p.walkAll path seen (p.feedersOf id ports)) new ∧
        InOrder (p.WayFrom id ports) seen new := by
  induction ports with
  | nil =>
    intro seen htracked _
    refine ⟨[], ⟨rfl, ?_, List.nodup_nil, ?_, ?_, ?_, ?_, htracked⟩, .stay ?_⟩ <;>
      simp [walkAll, feedersOf, WayFrom]
  | cons port ports ih =>
    intro seen htracked hloop
    rw [List.pairwise_cons] at hports
    rw [feedersOf, List.filterMap_cons, ← feedersOf] at hloop ⊢
    cases hsource : p.feeder? (.input id port.index) with
    | none =>
      rw [hsource] at hloop
      obtain ⟨new, hnew, horder⟩ := ih hports.2 seen htracked hloop
      refine ⟨new, hnew, horder.congr fun w m => ?_⟩
      rw [wayFrom_cons_iff, or_iff_right]
      rintro ⟨rest, rfl, hway, -⟩
      rw [ascend, hsource] at hway
      cases hway
    | some source =>
      rw [hsource] at hloop
      simp only [Option.map_some, walkAll, List.mem_append, not_or] at hloop ⊢
      have hfeeds : p.Feeds source.block id := ⟨port.index, source, hsource, rfl⟩
      obtain ⟨new, hnew, horder⟩ := hwalk seen source.block htracked
        (fun a ha => .head' hfeeds (hup a ha)) ⟨id, hfeeds⟩ fun a => (hloop a).1
      obtain ⟨more, hmore, horder'⟩ := ih hports.2 _ hnew.tracked fun a => (hloop a).2
      refine ⟨new ++ more, hnew.append hmore, ?_⟩
      refine ((horder.behind port.index).append horder' hnew.mem_seen hmore.fresh ?_).congr ?_
      · rintro _ _ _ _ ⟨rest, rfl, -⟩ ⟨port', hport', rest', rfl, -⟩
        exact List.cons_lt_cons_iff.2 (.inl (hports.1 port' hport'))
      · intro w m
        rw [wayFrom_cons_iff]
        refine or_congr_left (exists_congr fun rest => and_congr_right ?_)
        rintro rfl
        exact way_cons_iff hsource

/-- **A walk enters the new modules in the order of the first ways to them.** -/
theorem Consistent.walk_inOrder (h : p.Consistent) (ht : p.toolbox.Built) (path : List BlockId) :
    ∀ seen id, p.Tracked path seen → (∀ a ∈ path, p.Upstream id a) → (∃ a, p.Feeds id a) →
      (∀ a, .loop a ∉ (p.walk path seen id).1) →
      ∃ new, p.Explored path seen [id] (p.walk path seen id) new ∧ InOrder (p.Way id) seen new := by
  -- The way grows with every step down, so fewer blocks are off it.
  induction hn : (p.offPath path).length using Nat.strongRecOn generalizing path with
  | _ n ih =>
    intro seen id htracked hup hfeeds hloop
    by_cases hm : p.IsModule id
    · by_cases hpath : id ∈ path
      · rw [walk_of_mem_path hm hpath] at hloop
        exact absurd List.mem_cons_self (hloop id)
      · by_cases hseen : id ∈ seen
        · rw [walk_of_mem_seen hpath hseen]
          refine ⟨[], .stay htracked fun _ => ⟨hseen, hpath⟩, .stay ?_⟩
          rintro w m ⟨hway, hmodule⟩
          exact h.mem_seen_of_reflTransGen htracked hup hmodule hpath
            (reflTransGen_of_ascend hway) hseen
        · obtain ⟨b, hb, hbm⟩ := hm
          rw [walk_of_new hb hbm hpath hseen] at hloop ⊢
          have hup' : ∀ a ∈ id :: path, Relation.ReflTransGen p.Feeds id a := by
            intro a ha
            rcases List.mem_cons.1 ha with rfl | ha
            · exact .refl
            · exact (hup a ha).to_reflTransGen
          have hlt : (p.offPath (id :: path)).length < n := hn ▸ length_offPath_cons_lt hb hpath
          have hall : p.feeders b = p.feedersOf id b.inputs := by
            rw [feeders, feedersOf, block?_id hb]
          rw [hall] at hloop ⊢
          obtain ⟨new, hnew, horder⟩ := walkAll_inOrder (ih _ hlt (id :: path) rfl) id hup'
            b.inputs (h.pairwise_inputs ht hb) (id :: seen) htracked.enter fun a ha =>
              hloop a (List.mem_cons_of_mem _ ha)
          refine ⟨id :: new, h.enter_explored ht hb hbm hseen (hall ▸ hnew) hpath, ?_⟩
          have hself : InOrder (fun w m => w = [] ∧ m = id) seen [id] := .single fun _ _ => Iff.rfl
          refine (hself.append horder ?_ hnew.fresh ?_).congr (h.way_iff ht hb hbm)
          · intro m
            rw [List.mem_cons, List.mem_singleton, or_comm]
          · rintro w w' m m' ⟨rfl, -⟩ ⟨port, -, rest, rfl, -⟩
            exact List.nil_lt_cons _ _
    · rw [walk_of_not_isModule hm]
      exact ⟨[], .stay htracked fun hmod => absurd hmod hm,
        .stay fun w m hway => absurd hway (h.not_way hm hfeeds w m)⟩

end Pipeline

end Flowscript
