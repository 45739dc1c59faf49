import Flowscript.Proofs.Pipeline.Undoing

/-!
# What leaves a block

A connection can be looked for at either end.  An input knows the one connection that enters it, and
a block knows all that leave its outputs.  Both look things up by number in the list of connections
and pass over what they do not find there, so it takes the three records of a connection in step for
the two to agree.

* `Pipeline.departures` are the connections that leave a block, by output and then by age.
* `Pipeline.Consistent.fedBy_eq_departures` says that these are what a block finds, and
  `Pipeline.Consistent.feeder?_eq_some_iff_of_input` what an input finds.
* `Pipeline.Consistent.departures_perm` says that every connection leaves one block.
* `Pipeline.Reachable.fedBy_inverse` is the result.
-/

set_option autoImplicit false

namespace Flowscript

/-- Among connections that leave one block, those of an earlier output come first, and then the
older ones. -/
def Connection.Before (c d : Connection) : Prop :=
  c.source.index < d.source.index ∨
    c.source.index = d.source.index ∧ c.id.number < d.id.number

theorem Connection.not_before_self (c : Connection) : ¬c.Before c := by
  rintro (h | ⟨-, h⟩) <;> exact Nat.lt_irrefl _ h

namespace Pipeline

/-- The connections that leave a block, by output and then by age. -/
def departures (p : Pipeline) (id : BlockId) : List Connection :=
  (List.range (((p.block? id).map (·.outputs.length)).getD 0)).flatMap fun i =>
    p.connections.filter fun c => c.source == .output id i

variable {t : Toolbox} {p : Pipeline} {id : BlockId}

namespace Consistent

theorem fedBy_eq_departures (h : p.Consistent) (id : BlockId) :
    p.fedBy id = (p.departures id).map (·.target) := by
  rw [h.fedBy_eq_ends, departures, List.map_flatMap]
  refine congrArg (List.flatMap · _) (funext fun i => ?_)
  rw [ends, List.filter_map, List.map_map]
  rfl

theorem mem_departures (h : p.Consistent) {c : Connection} :
    c ∈ p.departures id ↔ c ∈ p.connections ∧ c.source.block = id := by
  simp only [departures, List.mem_flatMap, List.mem_range, List.mem_filter, beq_iff_eq]
  constructor
  · rintro ⟨i, -, hc, hsource⟩
    exact ⟨hc, by rw [hsource]; rfl⟩
  · rintro ⟨hc, rfl⟩
    obtain ⟨⟨output, hout⟩, -⟩ := h.port_exists hc
    obtain ⟨b, hb, hport⟩ := port?_eq_some_iff.1 hout
    have hside := (h.joined c hc).source_side
    rw [hside] at hport
    refine ⟨c.source.index, ?_, hc, by rw [PortRef.output, ← hside]⟩
    rw [hb]
    exact (List.getElem?_eq_some_iff.1 hport).1

theorem pairwise_departures (h : p.Consistent) (id : BlockId) :
    (p.departures id).Pairwise Connection.Before := by
  have hindex : ∀ {c : Connection} {i : Nat},
      c ∈ p.connections.filter (fun c => c.source == .output id i) → c.source.index = i := by
    intro c i hc
    rw [eq_of_beq (List.mem_filter.1 hc).2]
    rfl
  rw [departures, List.pairwise_flatMap]
  refine ⟨fun i _ => ?_, List.pairwise_lt_range.imp ?_⟩
  · refine (h.sorted.filter _).imp_of_mem ?_
    intro c d hc hd hage
    exact .inr ⟨(hindex hc).trans (hindex hd).symm, hage⟩
  · intro i j hij c hc d hd
    rw [Connection.Before, hindex hc, hindex hd]
    exact .inl hij

theorem nodup_departures (h : p.Consistent) (id : BlockId) : (p.departures id).Nodup :=
  (h.pairwise_departures id).imp fun {c d} hbefore (heq : c = d) =>
    d.not_before_self (heq ▸ hbefore)

/-- **Every connection leaves one block.** -/
theorem departures_perm (h : p.Consistent) :
    (p.blocks.flatMap fun b => p.departures b.id).Perm p.connections := by
  refine (List.perm_ext_iff_of_nodup ?_ (h.nodup_connectionIds.of_map _)).2 fun c => ?_
  · rw [List.nodup_flatMap]
    refine ⟨fun b _ => h.nodup_departures b.id, ?_⟩
    refine (List.pairwise_map.1 h.nodup_ids).imp fun {a b} hne c ha hb => hne ?_
    rw [← (h.mem_departures.1 ha).2, (h.mem_departures.1 hb).2]
  · simp only [List.mem_flatMap, h.mem_departures]
    constructor
    · rintro ⟨b, -, hc, -⟩
      exact hc
    · intro hc
      obtain ⟨⟨output, hout⟩, -⟩ := h.port_exists hc
      obtain ⟨b, hb, -⟩ := port?_eq_some_iff.1 hout
      obtain ⟨hmem, hid⟩ := mem_blocks_of_block? hb
      exact ⟨b, hmem, hc, hid.symm⟩

/-- What blocks feed is as much as there are connections. -/
theorem sum_length_fedBy (h : p.Consistent) :
    (p.blocks.map fun b => (p.fedBy b.id).length).sum = p.connections.length := by
  rw [← h.departures_perm.length_eq, List.length_flatMap]
  refine congrArg List.sum (List.map_congr_left fun b _ => ?_)
  rw [h.fedBy_eq_departures, List.length_map]

/-- Only one connection enters a port, so no port is fed twice. -/
theorem nodup_fedBy (h : p.Consistent) (id : BlockId) : (p.fedBy id).Nodup := by
  rw [h.fedBy_eq_departures]
  refine (h.nodup_departures id).map_on fun c hc d hd heq => ?_
  exact List.inj_on_of_nodup_map h.nodup_targets (h.mem_departures.1 hc).1
    (h.mem_departures.1 hd).1 heq

theorem mem_fedBy_iff (h : p.Consistent) {ref : PortRef} :
    ref ∈ p.fedBy id ↔ ∃ c ∈ p.connections, c.source.block = id ∧ c.target = ref := by
  rw [h.fedBy_eq_departures, List.mem_map]
  simp only [h.mem_departures, and_assoc]

/-- An input finds the connection that enters it. -/
theorem feeder?_eq_some_iff_of_input (h : p.Consistent) {ref source : PortRef}
    (hside : ref.side = .input) :
    p.feeder? ref = some source ↔ ∃ c ∈ p.connections, c.source = source ∧ c.target = ref := by
  have href : ref = .input ref.block ref.index := by rw [PortRef.input, ← hside]
  rw [href, h.feeder?_eq_some_iff, mem_ends]

end Consistent

/-- **What a block feeds and what feeds an input are the same connections, seen from either end.**
A block lists no port twice.  It lists an input exactly if what feeds the input is an output of the
block, it lists them by output and then by the age of the connections, and all blocks together list
as many as there are connections. -/
theorem Reachable.fedBy_inverse (hp : Reachable t p) (id : BlockId) :
    (p.fedBy id).Nodup ∧
      (∀ ref, ref ∈ p.fedBy id ↔ (∃ input, p.IsInput ref input) ∧
        ∃ source output, p.IsOutput source output ∧ source.block = id ∧
          p.feeder? ref = some source) ∧
      (p.fedBy id).Pairwise (fun r s => ∃ c ∈ p.connections, ∃ d ∈ p.connections,
        c.target = r ∧ d.target = s ∧ c.Before d) ∧
      (p.blocks.map fun b => (p.fedBy b.id).length).sum = p.connections.length := by
  have h := hp.consistent.1
  refine ⟨h.nodup_fedBy id, fun ref => ?_, ?_, h.sum_length_fedBy⟩
  · rw [h.mem_fedBy_iff]
    constructor
    · rintro ⟨c, hc, rfl, rfl⟩
      obtain ⟨⟨output, hout⟩, input, hin⟩ := h.port_exists hc
      have hjoined := h.joined c hc
      exact ⟨⟨input, hjoined.target_side, hin⟩, c.source, output, ⟨hjoined.source_side, hout⟩, rfl,
        (h.feeder?_eq_some_iff_of_input hjoined.target_side).2 ⟨c, hc, rfl, rfl⟩⟩
    · rintro ⟨⟨input, hin⟩, source, output, -, rfl, hfeeder⟩
      obtain ⟨c, hc, rfl, htarget⟩ := (h.feeder?_eq_some_iff_of_input hin.1).1 hfeeder
      exact ⟨c, hc, rfl, htarget⟩
  · rw [h.fedBy_eq_departures, List.pairwise_map]
    refine (h.pairwise_departures id).imp_of_mem fun {c d} hc hd hbefore => ?_
    exact ⟨c, (h.mem_departures.1 hc).1, d, (h.mem_departures.1 hd).1, rfl, rfl, hbefore⟩

/-- A module feeds itself and another one, whose input finds it again.  The third connection of the
pipeline leaves another module. -/
theorem fedBy_inverse_knotted :
    Reachable Specimen.toolbox Specimen.knotted ∧
      Specimen.knotted.fedBy ⟨1⟩ = [.input ⟨1⟩ 0, .input ⟨2⟩ 0] ∧
      (∃ source, source.block = ⟨1⟩ ∧
        Specimen.knotted.feeder? (.input ⟨2⟩ 0) = some source) ∧
      (Specimen.knotted.blocks.map fun b => (Specimen.knotted.fedBy b.id).length).sum = 3 := by
  have hfedBy : Specimen.knotted.fedBy ⟨1⟩ = [.input ⟨1⟩ 0, .input ⟨2⟩ 0] := by decide
  obtain ⟨-, hmem, -, hsum⟩ := Reachable.fedBy_inverse Specimen.reachable_knotted ⟨1⟩
  obtain ⟨-, source, _, -, hblock, hfeeder⟩ := (hmem (.input ⟨2⟩ 0)).1 (by rw [hfedBy]; decide)
  exact ⟨Specimen.reachable_knotted, hfedBy, ⟨source, hblock, hfeeder⟩, hsum.trans (by decide)⟩

end Pipeline

end Flowscript
