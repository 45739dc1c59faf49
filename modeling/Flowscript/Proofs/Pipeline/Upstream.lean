import Mathlib.Logic.Relation
import Flowscript.Pipeline.Feeders
import Flowscript.Proofs.Pipeline.Reachability
import Flowscript.Proofs.Pipeline.Replay

/-!
# What is upstream of a block

A walk against the connections collects the modules that a block depends on.  The walk keeps the
modules entered so far, from this walk and from earlier ones, and turns back where it meets one of
them, so it has to be known that everything upstream of such a module has been entered as well.

* `Pipeline.Feeds` is one step against the connections, turned round, and `Pipeline.Upstream` any
  number of steps.
* `Pipeline.Consistent.feeder?_eq_some_iff` and `Pipeline.Consistent.exists_mem_fedBy` find the same
  connections from both of their ends.
* `Pipeline.Settled` is said of a module that the walk may turn back at, and `Pipeline.Tracked` is
  the invariant: a module that was entered is settled unless the walk is still above it.
* `Pipeline.Explored` says what a walk does that does not come back to its own way, and
  `Pipeline.Consistent.enter_explored` is the step.
-/

set_option autoImplicit false

namespace Flowscript

namespace Pipeline

/-! ## Steps -/

/-- The first block feeds an input of the second. -/
def Feeds (p : Pipeline) (a b : BlockId) : Prop :=
  ∃ i source, p.feeder? (.input b i) = some source ∧ source.block = a

/-- What the first block makes goes into the second, through other blocks or not. -/
def Upstream (p : Pipeline) : BlockId → BlockId → Prop := Relation.TransGen p.Feeds

/-- The number belongs to a module block. -/
def IsModule (p : Pipeline) (id : BlockId) : Prop :=
  ∃ b, p.block? id = some b ∧ b.isModule = true

theorem isModule_iff_of_block? {p : Pipeline} {id : BlockId} {b : Block}
    (hb : p.block? id = some b) : p.IsModule id ↔ b.isModule = true := by
  constructor
  · rintro ⟨b', hb', hmodule⟩
    rwa [Option.some.inj (hb.symm.trans hb')]
  · exact fun hmodule => ⟨b, hb, hmodule⟩

theorem not_isModule_of_source {p : Pipeline} {id : BlockId} {b : Block}
    (hb : p.block? id = some b) {column : String} {output : Port}
    (hkind : b.kind = .source column output) : ¬p.IsModule id := by
  rw [isModule_iff_of_block? hb, Block.isModule, hkind]
  exact Bool.false_ne_true

namespace Consistent

variable {p : Pipeline}

/-- What feeds an input is the source of a connection to it. -/
theorem exists_connection (h : p.Consistent) {id : BlockId} {i : Nat} {source : PortRef}
    (hf : p.feeder? (.input id i) = some source) :
    ∃ c ∈ p.connections, c.source = source ∧ c.target = .input id i := by
  rw [feeder?_eq, Option.bind_eq_some_iff] at hf
  obtain ⟨connection, hhead, hsource⟩ := hf
  obtain ⟨port, hport, hlist⟩ := Option.bind_eq_some_iff.1 hhead
  have hmem := List.mem_of_mem_head? hlist
  rw [h.listed _ _ hport] at hmem
  obtain ⟨c, hc, rfl, hend⟩ := mem_attached.1 hmem
  rw [h.connection?_of_mem hc] at hsource
  refine ⟨c, hc, Option.some.inj hsource, hend.resolve_left fun he => ?_⟩
  have hside := (h.joined c hc).source_side
  rw [he] at hside
  cases hside

/-- A block that feeds another one has outputs, and the other one has inputs. -/
theorem feeder_ends (h : p.Consistent) {id : BlockId} {i : Nat} {source : PortRef}
    (hf : p.feeder? (.input id i) = some source) :
    (∃ b port, p.block? source.block = some b ∧ b.outputs[source.index]? = some port) ∧
      ∃ b port, p.block? id = some b ∧ b.inputs[i]? = some port := by
  obtain ⟨c, hc, rfl, htarget⟩ := h.exists_connection hf
  obtain ⟨⟨output, hout⟩, input, hin⟩ := h.port_exists hc
  obtain ⟨b, hb, hport⟩ := port?_eq_some_iff.1 hout
  obtain ⟨b', hb', hport'⟩ := port?_eq_some_iff.1 hin
  rw [(h.joined c hc).source_side] at hport
  rw [htarget] at hb' hport'
  exact ⟨⟨b, output, hb, hport⟩, b', input, hb', hport'⟩

/-- A block in the middle of a way runs a module. -/
theorem isModule_of_feeds (h : p.Consistent) {a b c : BlockId} (hab : p.Feeds a b)
    (hbc : p.Feeds b c) : p.IsModule b := by
  obtain ⟨i, source, hf, -⟩ := hab
  obtain ⟨-, block, input, hblock, hinput⟩ := h.feeder_ends hf
  obtain ⟨j, source', hf', rfl⟩ := hbc
  obtain ⟨⟨block', output, hblock', houtput⟩, -⟩ := h.feeder_ends hf'
  obtain rfl : block = block' := Option.some.inj (hblock.symm.trans hblock')
  refine ⟨block, hblock, ?_⟩
  obtain ⟨id, position, kind⟩ := block
  cases kind with
  | source => cases hinput
  | module => rfl
  | sink => cases houtput

theorem mem_feeders (h : p.Consistent) (ht : p.toolbox.Built) {b : Block} {id a : BlockId}
    (hb : p.block? id = some b) : a ∈ p.feeders b ↔ p.Feeds a id := by
  have hid := block?_id hb
  rw [feeders, List.mem_filterMap]
  constructor
  · rintro ⟨port, -, hport⟩
    obtain ⟨source, hsource, rfl⟩ := Option.map_eq_some_iff.1 hport
    exact ⟨port.index, source, hid ▸ hsource, rfl⟩
  · rintro ⟨i, source, hsource, rfl⟩
    obtain ⟨-, b', port, hb', hport⟩ := h.feeder_ends hsource
    obtain rfl : b = b' := Option.some.inj (hb.symm.trans hb')
    have hindex : port.index = i :=
      ((h.wellFormed ht).numbered (.input id i) port (port?_eq_some_iff.2 ⟨b, hb, hport⟩)).1
    refine ⟨port, List.mem_of_getElem? hport, ?_⟩
    rw [hid, hindex, hsource]
    rfl

/-- Only modules stand between two blocks, and nothing is upstream of any other block. -/
theorem eq_of_reflTransGen (h : p.Consistent) {a b c : BlockId}
    (hab : Relation.ReflTransGen p.Feeds a b) (hbc : p.Feeds b c) (hb : ¬p.IsModule b) : a = b := by
  cases hab with
  | refl => rfl
  | tail _ hlast => exact absurd (h.isModule_of_feeds hlast hbc) hb

end Consistent

/-- A block whose ways up all end does not depend on itself. -/
theorem not_upstream_self {p : Pipeline} {id : BlockId} (h : Acc p.Feeds id) :
    ¬p.Upstream id id := by
  induction h with
  | intro id _ ih =>
    intro hloop
    obtain ⟨last, hway, hlast⟩ := Relation.TransGen.tail'_iff.1 hloop
    exact ih last hlast (.head' hlast hway)

/-! ## Taking a walk apart -/

/-- Walks from one block after the other. -/
def walkAll (p : Pipeline) (path : List BlockId) :
    List BlockId → List BlockId → List Visit × List BlockId
  | seen, [] => ([], seen)
  | seen, id :: rest =>
    let (visits, seen) := p.walk path seen id
    let (more, seen) := p.walkAll path seen rest
    (visits ++ more, seen)

variable {p : Pipeline} {path seen : List BlockId} {id : BlockId}

theorem foldl_walk (ids : List BlockId) (visits : List Visit) (seen : List BlockId) :
    ids.foldl (fun (acc : List Visit × List BlockId) feeder =>
        let (visits, seen) := p.walk path acc.2 feeder
        (acc.1 ++ visits, seen)) (visits, seen) =
      (visits ++ (p.walkAll path seen ids).1, (p.walkAll path seen ids).2) := by
  induction ids generalizing visits seen with
  | nil => simp [walkAll]
  | cons id rest ih =>
    rw [List.foldl_cons]
    simp only
    rw [ih, walkAll, List.append_assoc]

theorem walk_of_not_isModule (h : ¬p.IsModule id) : p.walk path seen id = ([], seen) := by
  unfold walk
  split
  · rfl
  · rename_i b hb
    have hm : b.isModule = false := by
      rw [Bool.eq_false_iff]
      exact fun hm => h ⟨b, hb, hm⟩
    simp [hm]

theorem walk_of_mem_path (h : p.IsModule id) (hpath : id ∈ path) :
    p.walk path seen id = ([.loop id], seen) := by
  obtain ⟨b, hb, hm⟩ := h
  unfold walk
  split
  · rename_i hnone
    rw [hb] at hnone
    cases hnone
  · rename_i b' hb'
    obtain rfl : b = b' := Option.some.inj (hb.symm.trans hb')
    simp [hm, hpath]

theorem walk_of_mem_seen (hpath : id ∉ path) (hseen : id ∈ seen) :
    p.walk path seen id = ([], seen) := by
  unfold walk
  split
  · rfl
  · simp [hpath, hseen]

theorem walk_of_new {b : Block} (hb : p.block? id = some b) (hm : b.isModule = true)
    (hpath : id ∉ path) (hseen : id ∉ seen) :
    p.walk path seen id =
      (.enter id :: (p.walkAll (id :: path) (id :: seen) (p.feeders b)).1,
        (p.walkAll (id :: path) (id :: seen) (p.feeders b)).2) := by
  unfold walk
  split
  · rename_i hnone
    rw [hb] at hnone
    cases hnone
  · rename_i b' hb'
    obtain rfl : b = b' := Option.some.inj (hb.symm.trans hb')
    simp only [hm, hpath, hseen, Bool.not_true, Bool.false_eq_true, if_false, dif_neg,
      not_false_eq_true]
    rw [foldl_walk, List.nil_append]

/-! ## What a walk does -/

/-- Nothing comes back to the block on the ways that lead to it, and the modules that feed it are
all in a list. -/
structure Settled (p : Pipeline) (seen : List BlockId) (id : BlockId) : Prop where
  grounded : Acc p.Feeds id
  closed : ∀ a, p.Feeds a id → p.IsModule a → a ∈ seen

theorem Settled.mono {seen' : List BlockId} (h : p.Settled seen id)
    (hsub : ∀ a ∈ seen, a ∈ seen') : p.Settled seen' id :=
  ⟨h.grounded, fun a hfeed hm => hsub a (h.closed a hfeed hm)⟩

/-- The modules entered so far are settled but for those that the walk has not left. -/
def Tracked (p : Pipeline) (path seen : List BlockId) : Prop :=
  ∀ id ∈ seen, id ∈ path ∨ p.Settled seen id

/-- Entering a module, the walk is above it. -/
theorem Tracked.enter (h : p.Tracked path seen) : p.Tracked (id :: path) (id :: seen) := by
  intro a ha
  rcases List.mem_cons.1 ha with rfl | ha
  · exact .inl List.mem_cons_self
  · rcases h a ha with hway | hsettled
    · exact .inl (List.mem_cons_of_mem _ hway)
    · exact .inr (hsettled.mono fun c hc => List.mem_cons_of_mem _ hc)

/-- What a walk from some blocks does when it enters the new modules and meets no loop. -/
structure Explored (p : Pipeline) (path seen roots : List BlockId)
    (result : List Visit × List BlockId) (new : List BlockId) : Prop where
  visits : result.1 = new.map .enter
  mem_seen : ∀ id, id ∈ result.2 ↔ id ∈ seen ∨ id ∈ new
  nodup : new.Nodup
  fresh : ∀ id ∈ new, id ∉ seen
  modules : ∀ id ∈ new, p.IsModule id
  above : ∀ id ∈ new, ∃ root ∈ roots, Relation.ReflTransGen p.Feeds id root
  reached : ∀ root ∈ roots, p.IsModule root → root ∈ result.2 ∧ root ∉ path
  tracked : p.Tracked path result.2

/-- A walk that turns back at once. -/
theorem Explored.stay (htracked : p.Tracked path seen)
    (hroot : p.IsModule id → id ∈ seen ∧ id ∉ path) :
    p.Explored path seen [id] ([], seen) [] where
  visits := rfl
  mem_seen := by simp
  nodup := List.nodup_nil
  fresh := by simp
  modules := by simp
  above := by simp
  reached := by
    intro root hmem
    rw [List.mem_singleton.1 hmem]
    exact hroot
  tracked := htracked

/-- Walks add up: one block's modules come first, and then what is new of the others. -/
theorem Explored.append {rest : List BlockId} {first second : List Visit × List BlockId}
    {new more : List BlockId} (h₁ : p.Explored path seen [id] first new)
    (h₂ : p.Explored path first.2 rest second more) :
    p.Explored path seen (id :: rest) (first.1 ++ second.1, second.2) (new ++ more) where
  visits := by rw [h₁.visits, h₂.visits, List.map_append]
  mem_seen := by
    intro a
    rw [h₂.mem_seen, h₁.mem_seen, List.mem_append, or_assoc]
  nodup := by
    rw [List.nodup_append]
    refine ⟨h₁.nodup, h₂.nodup, ?_⟩
    rintro a ha _ hb rfl
    exact h₂.fresh a hb ((h₁.mem_seen a).2 (.inr ha))
  fresh := by
    intro a ha hseen
    rcases List.mem_append.1 ha with ha | ha
    · exact h₁.fresh a ha hseen
    · exact h₂.fresh a ha ((h₁.mem_seen a).2 (.inl hseen))
  modules := by
    intro a ha
    rcases List.mem_append.1 ha with ha | ha
    · exact h₁.modules a ha
    · exact h₂.modules a ha
  above := by
    intro a ha
    rcases List.mem_append.1 ha with ha | ha
    · obtain ⟨root, hroot, hup⟩ := h₁.above a ha
      exact ⟨root, List.mem_cons.2 (.inl (List.mem_singleton.1 hroot)), hup⟩
    · obtain ⟨root, hroot, hup⟩ := h₂.above a ha
      exact ⟨root, List.mem_cons_of_mem _ hroot, hup⟩
  reached := by
    intro root hroot hm
    rcases List.mem_cons.1 hroot with rfl | hroot
    · obtain ⟨hmem, hpath⟩ := h₁.reached root List.mem_cons_self hm
      exact ⟨(h₂.mem_seen root).2 (.inl hmem), hpath⟩
    · exact h₂.reached root hroot hm
  tracked := h₂.tracked

/-- A module is settled when the walks from all that feeds it are over. -/
theorem Consistent.enter_explored (h : p.Consistent) (ht : p.toolbox.Built) {b : Block}
    (hb : p.block? id = some b) (hm : b.isModule = true) (hseen : id ∉ seen)
    {result : List Visit × List BlockId} {new : List BlockId}
    (he : p.Explored (id :: path) (id :: seen) (p.feeders b) result new) (hpath : id ∉ path) :
    p.Explored path seen [id] (.enter id :: result.1, result.2) (id :: new) where
  visits := by rw [he.visits, List.map_cons]
  mem_seen := by
    intro a
    rw [he.mem_seen, List.mem_cons, List.mem_cons]
    constructor
    · rintro ((rfl | hold) | hnew)
      · exact .inr (.inl rfl)
      · exact .inl hold
      · exact .inr (.inr hnew)
    · rintro (hold | rfl | hnew)
      · exact .inl (.inr hold)
      · exact .inl (.inl rfl)
      · exact .inr hnew
  nodup := by
    rw [List.nodup_cons]
    exact ⟨fun hmem => he.fresh id hmem List.mem_cons_self, he.nodup⟩
  fresh := by
    intro a ha hold
    rcases List.mem_cons.1 ha with rfl | ha
    · exact hseen hold
    · exact he.fresh a ha (List.mem_cons_of_mem _ hold)
  modules := by
    intro a ha
    rcases List.mem_cons.1 ha with rfl | ha
    · exact ⟨b, hb, hm⟩
    · exact he.modules a ha
  above := by
    intro a ha
    refine ⟨id, List.mem_cons_self, ?_⟩
    rcases List.mem_cons.1 ha with rfl | ha
    · exact .refl
    · obtain ⟨root, hroot, hup⟩ := he.above a ha
      exact hup.tail ((h.mem_feeders ht hb).1 hroot)
  reached := by
    intro root hroot _
    rw [List.mem_singleton.1 hroot]
    exact ⟨(he.mem_seen id).2 (.inl List.mem_cons_self), hpath⟩
  tracked := by
    intro a ha
    rcases he.tracked a ha with hmem | hsettled
    · rcases List.mem_cons.1 hmem with rfl | hmem
      · refine .inr ⟨.intro _ fun c hfeed => ?_, fun c hfeed hmod => ?_⟩
        · by_cases hmod : p.IsModule c
          · obtain ⟨hres, hway⟩ := he.reached c ((h.mem_feeders ht hb).2 hfeed) hmod
            exact ((he.tracked c hres).resolve_left hway).grounded
          · exact .intro _ fun d hd => absurd (h.isModule_of_feeds hd hfeed) hmod
        · exact (he.reached c ((h.mem_feeders ht hb).2 hfeed) hmod).1
      · exact .inl hmem
    · exact .inr hsettled

/-- No module upstream of the start has been left out. -/
theorem Explored.mem_of_upstream (h : p.Consistent) {start next : BlockId}
    {result : List Visit × List BlockId} {new : List BlockId}
    (he : p.Explored [] seen [start] result new) (hid : p.IsModule id)
    (hup : Relation.ReflTransGen p.Feeds id start) (hnext : p.Feeds start next) :
    id ∈ result.2 := by
  have hmodule : ∀ {b c}, Relation.ReflTransGen p.Feeds id b → p.Feeds b c → p.IsModule b := by
    intro b c hab hbc
    by_contra hb
    exact hb (h.eq_of_reflTransGen hab hbc hb ▸ hid)
  have hclosed : ∀ {b}, Relation.ReflTransGen p.Feeds id b → b ∈ result.2 → id ∈ result.2 := by
    intro b hab
    induction hab with
    | refl => exact fun hb => hb
    | tail hab hbc ih =>
      intro hc
      have hsettled := (he.tracked _ hc).resolve_left List.not_mem_nil
      exact ih (hsettled.closed _ hbc (hmodule hab hbc))
  exact hclosed hup (he.reached start List.mem_cons_self (hmodule hup hnext)).1

end Pipeline

/-! ## Both directions of a connection -/

namespace Pipeline

theorem mem_ends {p : Pipeline} {source target : PortRef} :
    (source, target) ∈ p.ends ↔ ∃ c ∈ p.connections, c.source = source ∧ c.target = target := by
  simp only [ends, List.mem_map, Prod.mk.injEq]

namespace Consistent

variable {p : Pipeline}

/-- **An input is fed by the source of the one connection that ends there.** -/
theorem feeder?_eq_some_iff (h : p.Consistent) {id : BlockId} {i : Nat} {source : PortRef} :
    p.feeder? (.input id i) = some source ↔ (source, .input id i) ∈ p.ends := by
  constructor
  · exact fun hf => mem_ends.2 (h.exists_connection hf)
  · intro hmem
    -- the lookup finds some connection, and targets are distinct
    have hfound : (p.feeder? (.input id i)).isSome = true := by
      rw [h.feeder?_eq_ends, List.isSome_head?]
      refine List.ne_nil_of_mem (List.mem_map_of_mem (List.mem_filter.2 ⟨hmem, ?_⟩))
      simp
    obtain ⟨other, hother⟩ := Option.isSome_iff_exists.1 hfound
    obtain ⟨c, hc, rfl, hend⟩ := mem_ends.1 hmem
    obtain ⟨d, hd, rfl, htarget⟩ := h.exists_connection hother
    rw [hother, List.inj_on_of_nodup_map h.nodup_targets hd hc (htarget.trans hend.symm)]

/-- **A block feeds another one exactly if one of its outputs leads there.** -/
theorem exists_mem_fedBy (h : p.Consistent) {a b : BlockId} :
    (∃ ref ∈ p.fedBy a, ref.block = b) ↔ p.Feeds a b := by
  rw [h.fedBy_eq_ends]
  simp only [List.mem_flatMap, List.mem_range, List.mem_map, List.mem_filter, beq_iff_eq]
  constructor
  · rintro ⟨ref, ⟨i, -, ⟨source, target⟩, ⟨hmem, rfl⟩, rfl⟩, rfl⟩
    obtain ⟨c, hc, -, rfl⟩ := mem_ends.1 hmem
    have hside : c.target = .input c.target.block c.target.index := by
      rw [PortRef.input, ← (h.joined c hc).target_side]
    rw [hside] at hmem
    exact ⟨c.target.index, .output a i, h.feeder?_eq_some_iff.2 hmem, rfl⟩
  · rintro ⟨i, source, hsource, rfl⟩
    have hmem := h.feeder?_eq_some_iff.1 hsource
    obtain ⟨⟨block, port, hblock, hport⟩, -⟩ := h.feeder_ends hsource
    obtain ⟨c, hc, rfl, -⟩ := mem_ends.1 hmem
    refine ⟨.input b i, ⟨c.source.index, ?_, _, ⟨hmem, ?_⟩, rfl⟩, rfl⟩
    · rw [hblock]
      exact (List.getElem?_eq_some_iff.1 hport).1
    · rw [PortRef.output, ← (h.joined c hc).source_side]

end Consistent

end Pipeline

end Flowscript
