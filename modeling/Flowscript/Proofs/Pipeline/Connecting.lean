import Flowscript.Proofs.Pipeline.Consistency

/-!
# Connecting, disconnecting and deleting

What the edits that touch connections do, and that each leaves a consistent pipeline behind.

* `Pipeline.connect_eq_ok_iff` says when two ports can be joined and what comes of it: the pipeline
  `Pipeline.linked`.
* `Pipeline.disconnect_of_mem` does the same for a connection that is taken out: the pipeline
  `Pipeline.unlinked`.
* `Pipeline.delete_of_mem` is about a block that is taken out: `Pipeline.without`.
* `Pipeline.placed` are the blocks put elsewhere on the canvas.
* `Block.mem_touching` says which connections a block lists, and `Block.cleared_eq_self` when there
  are none.
* `Pipeline.Consistent.connect`, `Pipeline.Consistent.disconnect`, `Pipeline.Consistent.delete` and
  `Pipeline.Consistent.move` are the steps of the invariant.
-/

set_option autoImplicit false

namespace Flowscript

/-! ## Lists and their items

Wherever something is named for the second time, the first mention is kept. -/

theorem nodup_eraseDups {α : Type} [BEq α] [LawfulBEq α] (l : List α) : l.eraseDups.Nodup := by
  induction h : l.length using Nat.strongRecOn generalizing l with
  | _ n ih =>
    cases l with
    | nil => simp
    | cons a as =>
      rw [List.eraseDups_cons, List.nodup_cons]
      constructor
      · simp
      · refine ih _ ?_ _ rfl
        rw [← h, List.length_cons]
        exact Nat.lt_succ_of_le (List.length_filter_le _ _)

theorem eq_of_map_eq {α β : Type} {f : α → β} {as bs : List α} (h : as.map f = bs.map f)
    (hinj : ∀ b ∈ bs, ∀ a ∈ as, f a = f b → a = b) : as = bs := by
  induction bs generalizing as with
  | nil => exact List.map_eq_nil_iff.1 h
  | cons b rest ih =>
    cases as with
    | nil => cases h
    | cons a as =>
      obtain ⟨hhead, htail⟩ := List.cons.inj h
      rw [hinj b List.mem_cons_self a List.mem_cons_self hhead,
        ih htail fun b' hb' a' ha' =>
          hinj b' (List.mem_cons_of_mem _ hb') a' (List.mem_cons_of_mem _ ha')]

/-! ## What a block lists -/

namespace Block

/-- A block whose ports list nothing has nothing to be cleared of. -/
theorem cleared_eq_self {b : Block}
    (h : ∀ side i port, b.port? side i = some port → port.connections = []) : b.cleared = b := by
  have hport : ∀ {port : Port}, port.connections = [] → clearPort port = port := by
    intro port hp
    rw [clearPort, ← hp]
  have hlist : ∀ side, (b.ports side).map clearPort = b.ports side := by
    intro side
    refine (List.map_congr_left fun port hp => ?_).trans (List.map_id' _)
    obtain ⟨i, hi⟩ := List.getElem?_of_mem hp
    exact hport (h side i port hi)
  have hin := hlist .input
  have hout := hlist .output
  obtain ⟨id, position, kind⟩ := b
  cases kind <;> simp_all [cleared, ports, inputs, outputs]

theorem mem_touching {b : Block} {id : ConnectionId} :
    id ∈ b.touching ↔
      ∃ side i port, b.port? side i = some port ∧ id ∈ port.connections := by
  simp only [touching, List.mem_eraseDups, List.mem_flatMap, List.mem_append]
  constructor
  · rintro ⟨port, hport | hport, hid⟩
    · obtain ⟨i, hi⟩ := List.getElem?_of_mem hport
      exact ⟨.input, i, port, hi, hid⟩
    · obtain ⟨i, hi⟩ := List.getElem?_of_mem hport
      exact ⟨.output, i, port, hi, hid⟩
  · rintro ⟨side, i, port, hport, hid⟩
    refine ⟨port, ?_, hid⟩
    cases side with
    | input => exact Or.inl (List.mem_of_getElem? hport)
    | output => exact Or.inr (List.mem_of_getElem? hport)

theorem cleared_withPosition (b : Block) (position : Position) :
    cleared { b with position } = { b.cleared with position } := by
  obtain ⟨id, old, kind⟩ := b
  cases kind <;> rfl

theorem Fresh.withPosition {t : Toolbox} {b : Block} (h : Fresh t b) (position : Position) :
    Fresh t { b with position } := by
  cases h with
  | source id column _ hf => exact .source id column position hf
  | sink id column _ hf => exact .sink id column position hf
  | ofModule id _ hm => exact .ofModule id position hm

end Block

namespace Pipeline

/-! ## Connecting -/

/-- The pipeline after two ports have been joined. -/
def linked (p : Pipeline) (source target : PortRef) : Pipeline :=
  let id : ConnectionId := ⟨p.ids.nextConnection⟩
  { (p.updatePort source (·.attach id)).updatePort target (·.attach id) with
    ids := p.ids.takeConnection.2
    connections := p.connections ++ [⟨id, source, target⟩]
    unsaved := true }

/-- What two ports have to satisfy to be joined. -/
structure Joinable (p : Pipeline) (source target : PortRef) : Prop where
  source_side : source.side = .output
  target_side : target.side = .input
  accepts : ∃ output input, p.format? source = some output ∧ p.format? target = some input ∧
    p.toolbox.formats.accepts output input = true
  free : ∀ input, p.port? target = some input → input.connections = []

theorem connectError?_eq_none_iff {p : Pipeline} {source target : PortRef} :
    p.connectError? source target = none ↔ p.Joinable source target := by
  constructor
  · intro h
    rw [connectError?] at h
    split at h
    · cases h
    rename_i hs
    split at h
    · cases h
    rename_i ht
    split at h
    · cases h
    · cases h
    rename_i output input hout hin
    rw [port_eq_ok_iff] at hout hin
    split at h
    · cases h
    rename_i hacc
    split at h
    · cases h
    rename_i hfree
    refine ⟨?_, ?_, ⟨output.format, input.format, ?_, ?_, by simpa using hacc⟩, ?_⟩
    · cases hside : source.side with
      | input => exact absurd hside hs
      | output => rfl
    · cases hside : target.side with
      | input => rfl
      | output => exact absurd hside ht
    · rw [format?, hout]; rfl
    · rw [format?, hin]; rfl
    · intro input' hin'
      rw [hin] at hin'
      cases hin'
      simpa [Port.isConnected] using hfree
  · rintro ⟨hs, ht, ⟨f, g, hf, hg, hacc⟩, hfree⟩
    obtain ⟨output, hout, rfl⟩ := Option.map_eq_some_iff.1 hf
    obtain ⟨input, hin, rfl⟩ := Option.map_eq_some_iff.1 hg
    simp [connectError?, hs, ht, port_eq_ok hout, port_eq_ok hin, hacc, Port.isConnected,
      hfree input hin]

/-- The records of two ports that exist can always be changed. -/
theorem join_eq {p : Pipeline} {source target : PortRef} {output input : Port}
    (hs : p.port? source = some output) (ht : p.port? target = some input) :
    p.join source target = (.ok ⟨p.ids.nextConnection⟩, p.linked source target) := by
  have hp : ∀ ref, port? { p with ids := p.ids.takeConnection.2 } ref = p.port? ref :=
    fun ref => port?_congr rfl ref
  have h1 : port { p with ids := p.ids.takeConnection.2 } source = .ok output :=
    port_eq_ok ((hp source).trans hs)
  have h2 : ∃ input', (updatePort { p with ids := p.ids.takeConnection.2 } source
      (·.attach ⟨p.ids.nextConnection⟩)).port target = .ok input' := by
    simp only [port_eq_ok_iff, port?_updatePort]
    rw [hp, ht]
    split <;> exact ⟨_, rfl⟩
  obtain ⟨input', h2⟩ := h2
  rw [join]
  simp only [Allocator.takeConnection, attach] at h1 h2 ⊢
  rw [h1]
  simp only
  rw [h2]
  rfl

/-- **Two ports can be joined exactly if they fit, and the result is known.** -/
theorem connect_eq_ok_iff {p : Pipeline} {source target : PortRef} {id : ConnectionId}
    {q : Pipeline} :
    p.connect source target = (.ok id, q) ↔
      p.Joinable source target ∧ id = ⟨p.ids.nextConnection⟩ ∧ q = p.linked source target := by
  rw [connect]
  cases he : p.connectError? source target with
  | some e =>
    simp only [Prod.mk.injEq, reduceCtorEq, false_and, false_iff]
    rintro ⟨hj, -⟩
    rw [connectError?_eq_none_iff.2 hj] at he
    cases he
  | none =>
    have hj := connectError?_eq_none_iff.1 he
    obtain ⟨f, g, hf, hg, -⟩ := hj.accepts
    obtain ⟨output, hout, -⟩ := Option.map_eq_some_iff.1 hf
    obtain ⟨input, hin, -⟩ := Option.map_eq_some_iff.1 hg
    simp only [join_eq hout hin, Prod.mk.injEq, Except.ok.injEq]
    exact ⟨fun h => ⟨hj, h.1.symm, h.2.symm⟩, fun h => ⟨h.2.1.symm, h.2.2.symm⟩⟩

theorem connect_of_joinable {p : Pipeline} {source target : PortRef}
    (h : p.Joinable source target) :
    p.connect source target = (.ok ⟨p.ids.nextConnection⟩, p.linked source target) :=
  connect_eq_ok_iff.2 ⟨h, rfl, rfl⟩

/-- A pipeline that refuses to join two ports stays as it is. -/
theorem connect_of_not_joinable {p : Pipeline} {source target : PortRef}
    (h : ¬ p.Joinable source target) : (p.connect source target).2 = p := by
  rw [connect]
  cases he : p.connectError? source target with
  | some e => rfl
  | none => exact absurd (connectError?_eq_none_iff.1 he) h

theorem shape_linked (p : Pipeline) (source target : PortRef) :
    (p.linked source target).shape = p.shape := by
  rw [← shape_updatePort p source (f := (·.attach ⟨p.ids.nextConnection⟩)) fun _ => rfl,
    ← shape_updatePort (p.updatePort source _) target
      (f := (·.attach ⟨p.ids.nextConnection⟩)) fun _ => rfl]
  rfl

theorem port?_linked (p : Pipeline) {source target : PortRef} (hne : source ≠ target)
    (ref : PortRef) :
    (p.linked source target).port? ref =
      if source = ref ∨ target = ref then (p.port? ref).map (·.attach ⟨p.ids.nextConnection⟩)
      else p.port? ref := by
  have hp : (p.linked source target).port? ref =
      ((p.updatePort source (·.attach ⟨p.ids.nextConnection⟩)).updatePort target
        (·.attach ⟨p.ids.nextConnection⟩)).port? ref := port?_congr rfl ref
  rw [hp, port?_updatePort, port?_updatePort]
  by_cases hs : ref = source
  · subst hs
    simp [hne]
  · by_cases ht : ref = target
    · subst ht
      simp [hs]
    · simp [hs, ht, Ne.symm hs, Ne.symm ht]

theorem ne_of_sides {source target : PortRef} (hs : source.side = .output)
    (ht : target.side = .input) : source ≠ target := by
  rintro rfl
  rw [hs] at ht
  cases ht

theorem Consistent.linked {p : Pipeline} (h : p.Consistent) {source target : PortRef}
    (hj : p.Joinable source target) : (p.linked source target).Consistent where
  nodup_ids := by
    rw [← map_id_shape, shape_linked, map_id_shape]
    exact h.nodup_ids
  fresh := by
    rw [shape_linked]
    exact h.fresh
  block_lt := by
    intro b hb
    have hmem : b.id ∈ p.blocks.map (·.id) := by
      rw [← map_id_shape, ← shape_linked p source target, map_id_shape]
      exact List.mem_map_of_mem hb
    obtain ⟨b', hb', hid⟩ := List.mem_map.1 hmem
    rw [← hid]
    exact h.block_lt b' hb'
  sorted := by
    refine List.pairwise_append.2 ⟨h.sorted, List.pairwise_singleton _ _, ?_⟩
    intro c hc d hd
    rw [List.mem_singleton.1 hd]
    exact h.connection_lt c hc
  connection_lt := by
    intro c hc
    rcases List.mem_append.1 hc with hc | hc
    · exact Nat.lt_succ_of_lt (h.connection_lt c hc)
    · rw [List.mem_singleton.1 hc]
      exact Nat.lt_succ_self _
  nodup_targets := by
    rw [Pipeline.linked, List.map_append, List.nodup_append]
    refine ⟨h.nodup_targets, by simp, ?_⟩
    simp only [List.mem_map, List.map_cons, List.map_nil, List.mem_singleton]
    rintro ref ⟨c, hc, rfl⟩ ref' rfl heq
    -- the target of an older connection lists it, and so it is not free
    obtain ⟨-, input, hin⟩ := h.port_exists hc
    have hlist := h.listed _ _ hin
    rw [hj.free input (by rw [← heq]; exact hin)] at hlist
    have hmem : c.id ∈ p.attached c.target := mem_attached.2 ⟨c, hc, rfl, Or.inr rfl⟩
    rw [← hlist] at hmem
    cases hmem
  joined := by
    intro c hc
    rcases List.mem_append.1 hc with hc | hc
    · exact (h.joined c hc).congr (shape_linked p source target) rfl
    · rw [List.mem_singleton.1 hc]
      exact Joined.congr (p := p) (shape_linked p source target) rfl
        ⟨hj.source_side, hj.target_side, hj.accepts⟩
  listed := by
    intro ref port hp
    rw [attached_add (p := p) (c := ⟨⟨p.ids.nextConnection⟩, source, target⟩) rfl]
    rw [port?_linked p (ne_of_sides hj.source_side hj.target_side)] at hp
    by_cases he : source = ref ∨ target = ref
    · rw [if_pos he] at hp ⊢
      obtain ⟨port', hport', rfl⟩ := Option.map_eq_some_iff.1 hp
      rw [← h.listed ref port' hport']
      rfl
    · rw [if_neg he] at hp ⊢
      rw [List.append_nil]
      exact h.listed ref port hp

theorem Consistent.connect {p : Pipeline} (h : p.Consistent) (source target : PortRef) :
    (p.connect source target).2.Consistent := by
  by_cases hj : p.Joinable source target
  · rw [connect_of_joinable hj]
    exact h.linked hj
  · rw [connect_of_not_joinable hj]
    exact h

/-! ## Disconnecting -/

/-- The pipeline without one of its connections. -/
def unlinked (p : Pipeline) (c : Connection) : Pipeline :=
  { (updatePort { p with connections := p.connections.filter (·.id != c.id) } c.source
      (·.detach c.id)).updatePort c.target (·.detach c.id) with unsaved := true }

theorem disconnect_of_mem {p : Pipeline} (h : p.Consistent) {c : Connection}
    (hc : c ∈ p.connections) : p.disconnect c.id = (.ok c, p.unlinked c) := by
  rw [disconnect, h.connection?_of_mem hc]
  rfl

theorem disconnect_of_none {p : Pipeline} {id : ConnectionId} (h : p.connection? id = none) :
    p.disconnect id = (.error (.unknownConnection id), p) := by
  rw [disconnect, h]

theorem shape_unlinked (p : Pipeline) (c : Connection) : (p.unlinked c).shape = p.shape := by
  have h1 := shape_updatePort { p with connections := p.connections.filter (·.id != c.id) }
    c.source (f := (·.detach c.id)) fun _ => rfl
  have h2 := shape_updatePort
    (updatePort { p with connections := p.connections.filter (·.id != c.id) } c.source
      (·.detach c.id)) c.target (f := (·.detach c.id)) fun _ => rfl
  exact h2.trans h1

theorem port?_unlinked (p : Pipeline) {c : Connection} (hne : c.source ≠ c.target)
    (ref : PortRef) :
    (p.unlinked c).port? ref =
      if c.source = ref ∨ c.target = ref then (p.port? ref).map (·.detach c.id)
      else p.port? ref := by
  have hp : (p.unlinked c).port? ref =
      ((updatePort { p with connections := p.connections.filter (·.id != c.id) } c.source
        (·.detach c.id)).updatePort c.target (·.detach c.id)).port? ref := port?_congr rfl ref
  have hq : port? { p with connections := p.connections.filter (·.id != c.id) } ref =
      p.port? ref := port?_congr rfl ref
  rw [hp, port?_updatePort, port?_updatePort, hq]
  by_cases hs : ref = c.source
  · subst hs
    simp [hne]
  · by_cases ht : ref = c.target
    · subst ht
      simp [hs]
    · simp [hs, ht, Ne.symm hs, Ne.symm ht]

theorem Consistent.unlinked {p : Pipeline} (h : p.Consistent) {c : Connection}
    (hc : c ∈ p.connections) : (p.unlinked c).Consistent where
  nodup_ids := by
    rw [← map_id_shape, shape_unlinked, map_id_shape]
    exact h.nodup_ids
  fresh := by
    rw [shape_unlinked]
    exact h.fresh
  block_lt := by
    intro b hb
    have hmem : b.id ∈ p.blocks.map (·.id) := by
      rw [← map_id_shape, ← shape_unlinked p c, map_id_shape]
      exact List.mem_map_of_mem hb
    obtain ⟨b', hb', hid⟩ := List.mem_map.1 hmem
    rw [← hid]
    exact h.block_lt b' hb'
  sorted := h.sorted.filter _
  connection_lt := fun d hd => h.connection_lt d (List.mem_of_mem_filter hd)
  nodup_targets := h.nodup_targets.sublist (List.filter_sublist.map _)
  joined := fun d hd =>
    (h.joined d (List.mem_of_mem_filter hd)).congr (shape_unlinked p c) rfl
  listed := by
    intro ref port hp
    have hside := h.joined c hc
    have hremoved : (p.unlinked c).attached ref = (p.attached ref).filter (· != c.id) :=
      attached_filter rfl ref
    rw [hremoved]
    rw [port?_unlinked p (ne_of_sides hside.source_side hside.target_side)] at hp
    by_cases he : c.source = ref ∨ c.target = ref
    · rw [if_pos he] at hp
      obtain ⟨port', hport', rfl⟩ := Option.map_eq_some_iff.1 hp
      rw [← h.listed ref port' hport']
      rfl
    · -- a port that the connection does not end at does not list it
      rw [if_neg he] at hp
      rw [h.listed ref port hp, eq_comm, List.filter_eq_self]
      intro id hid
      obtain ⟨d, hd, rfl, hend⟩ := mem_attached.1 hid
      rw [bne_iff_ne]
      intro heq
      rw [List.inj_on_of_nodup_map h.nodup_connectionIds hd hc heq] at hend
      exact he hend

theorem Consistent.disconnect {p : Pipeline} (h : p.Consistent) (id : ConnectionId) :
    (p.disconnect id).2.Consistent := by
  cases hc : p.connection? id with
  | none =>
    rw [disconnect_of_none hc]
    exact h
  | some c =>
    have hid : c.id = id := by simpa using List.find?_some hc
    rw [← hid, disconnect_of_mem h (List.mem_of_find?_eq_some hc)]
    exact h.unlinked (List.mem_of_find?_eq_some hc)

/-! ## Deleting a block -/

/-- Connections that are there can be taken out one after the other. -/
theorem disconnectAll_spec (ids : List ConnectionId) (hn : ids.Nodup) :
    ∀ {p : Pipeline}, p.Consistent → (∀ id ∈ ids, ∃ c ∈ p.connections, c.id = id) →
      ∃ q, p.disconnectAll ids = (.ok (), q) ∧ q.Consistent ∧ q.shape = p.shape ∧
        q.toolbox = p.toolbox ∧ q.ids = p.ids ∧ q.name = p.name ∧
        q.connections = p.connections.filter fun c => c.id ∉ ids := by
  induction ids with
  | nil =>
    intro p hp _
    refine ⟨p, rfl, hp, rfl, rfl, rfl, rfl, ?_⟩
    simp
  | cons id rest ih =>
    intro p hp hmem
    obtain ⟨c, hc, rfl⟩ := hmem id List.mem_cons_self
    rw [List.nodup_cons] at hn
    have hrest : ∀ id ∈ rest, ∃ d ∈ (p.unlinked c).connections, d.id = id := by
      intro id hid
      obtain ⟨d, hd, rfl⟩ := hmem id (List.mem_cons_of_mem _ hid)
      refine ⟨d, List.mem_filter.2 ⟨hd, ?_⟩, rfl⟩
      rw [bne_iff_ne]
      intro heq
      exact hn.1 (heq ▸ hid)
    obtain ⟨q, hq, hcons, hshape, htool, hids, hname, hconn⟩ := ih hn.2 (hp.unlinked hc) hrest
    refine ⟨q, ?_, hcons, hshape.trans (shape_unlinked p c), htool, hids, hname, ?_⟩
    · rw [disconnectAll, disconnect_of_mem hp hc]
      exact hq
    · rw [hconn]
      change (p.connections.filter (·.id != c.id)).filter _ = _
      rw [List.filter_filter]
      refine List.filter_congr fun d _ => ?_
      by_cases heq : d.id = c.id <;> simp [heq]

/-- What a block lists are the connections that have an end on it. -/
theorem Consistent.mem_touching {p : Pipeline} (h : p.Consistent) {b : Block}
    (hb : p.block? b.id = some b) {c : Connection} (hc : c ∈ p.connections) :
    c.id ∈ b.touching ↔ c.source.block = b.id ∨ c.target.block = b.id := by
  rw [Block.mem_touching]
  constructor
  · rintro ⟨side, i, port, hport, hid⟩
    have hp : p.port? ⟨b.id, side, i⟩ = some port := port?_eq_some_iff.2 ⟨b, hb, hport⟩
    rw [h.listed _ _ hp] at hid
    obtain ⟨d, hd, hdid, hend⟩ := mem_attached.1 hid
    rw [List.inj_on_of_nodup_map h.nodup_connectionIds hd hc hdid] at hend
    exact hend.imp (fun he => by rw [he]) fun he => by rw [he]
  · intro hend
    have found : ∀ {ref : PortRef} {port : Port}, p.port? ref = some port → ref.block = b.id →
        c.source = ref ∨ c.target = ref →
        ∃ side i port, b.port? side i = some port ∧ c.id ∈ port.connections := by
      intro ref port hp hid he
      obtain ⟨b', hb', hport⟩ := port?_eq_some_iff.1 hp
      rw [hid, hb] at hb'
      cases hb'
      refine ⟨ref.side, ref.index, port, hport, ?_⟩
      rw [h.listed _ _ hp]
      exact mem_attached.2 ⟨c, hc, rfl, he⟩
    obtain ⟨⟨output, hout⟩, input, hin⟩ := h.port_exists hc
    rcases hend with he | he
    · exact found hout he (Or.inl rfl)
    · exact found hin he (Or.inr rfl)

/-- The pipeline without one of its blocks. -/
def without (p : Pipeline) (id : BlockId) : Pipeline :=
  { p with blocks := p.blocks.filter (·.id != id), unsaved := true }

theorem format?_without {p : Pipeline} {id : BlockId} {ref : PortRef} (h : ref.block ≠ id) :
    (p.without id).format? ref = p.format? ref := by
  rw [format?, port?_eq, block?_remove (p := p) rfl, if_neg h, ← port?_eq, format?]

/-- **A block at which no connection ends can be taken out.** -/
theorem Consistent.without {p : Pipeline} (h : p.Consistent) {id : BlockId}
    (hno : ∀ c ∈ p.connections, c.source.block ≠ id ∧ c.target.block ≠ id) :
    (p.without id).Consistent where
  nodup_ids := h.nodup_ids.sublist (List.filter_sublist.map _)
  fresh := by
    intro b hb
    obtain ⟨b', hb', rfl⟩ := List.mem_map.1 hb
    exact h.fresh_of_mem (List.mem_of_mem_filter hb')
  block_lt := fun b hb => h.block_lt b (List.mem_of_mem_filter hb)
  sorted := h.sorted
  connection_lt := h.connection_lt
  nodup_targets := h.nodup_targets
  joined := by
    intro c hc
    obtain ⟨hs, ht, output, input, hout, hin, hacc⟩ := h.joined c hc
    refine ⟨hs, ht, output, input, ?_, ?_, hacc⟩
    · rw [format?_without (hno c hc).1]
      exact hout
    · rw [format?_without (hno c hc).2]
      exact hin
  listed := by
    intro ref port hp
    rw [port?_eq, block?_remove (p := p) rfl] at hp
    split at hp
    · cases hp
    · rw [← port?_eq] at hp
      exact h.listed ref port hp

/-- **Deleting a block that is there succeeds.**  Exactly the connections that end at it go with
it, and of the other blocks nothing changes but what their ports list. -/
theorem delete_of_mem {p : Pipeline} (h : p.Consistent) {b : Block} (hb : b ∈ p.blocks) :
    ∃ q : Pipeline, p.delete b.id = (.ok b.cleared, q.without b.id) ∧ q.Consistent ∧ q.shape = p.shape ∧
      q.toolbox = p.toolbox ∧ q.ids = p.ids ∧ q.name = p.name ∧
      q.connections = p.connections.filter fun c =>
        c.source.block != b.id && c.target.block != b.id := by
  have hfind := block?_of_mem h.nodup_ids hb
  have hstored : ∀ id ∈ b.touching, ∃ c ∈ p.connections, c.id = id := by
    intro id hid
    obtain ⟨side, i, port, hport, hlist⟩ := Block.mem_touching.1 hid
    have hp : p.port? ⟨b.id, side, i⟩ = some port := port?_eq_some_iff.2 ⟨b, hfind, hport⟩
    rw [h.listed _ _ hp] at hlist
    obtain ⟨c, hc, hcid, -⟩ := mem_attached.1 hlist
    exact ⟨c, hc, hcid⟩
  obtain ⟨q, hq, hcons, hshape, htool, hids, hname, hconn⟩ :=
    disconnectAll_spec b.touching (nodup_eraseDups _) h hstored
  have hconn' : q.connections = p.connections.filter fun c =>
      c.source.block != b.id && c.target.block != b.id := by
    rw [hconn]
    refine List.filter_congr fun c hc => ?_
    rw [Bool.eq_iff_iff]
    simp [h.mem_touching hfind hc]
  -- the block is still there, now with nothing connected
  have hcleared : (q.block? b.id).map Block.cleared = some b.cleared := by
    rw [← find?_shape, hshape, find?_shape, hfind]
    rfl
  obtain ⟨b', hb', hclear⟩ := Option.map_eq_some_iff.1 hcleared
  have hbare : b'.cleared = b' := by
    refine Block.cleared_eq_self fun side i port hport => ?_
    have hid := block?_id hb'
    have hp : q.port? ⟨b.id, side, i⟩ = some port := port?_eq_some_iff.2 ⟨b', hb', hport⟩
    rw [hcons.listed _ _ hp, List.eq_nil_iff_forall_not_mem]
    intro id hlist
    obtain ⟨c, hc, -, hend⟩ := mem_attached.1 hlist
    rw [hconn', List.mem_filter] at hc
    rcases hend with he | he <;> simp [he] at hc
  refine ⟨q, ?_, hcons, hshape, htool, hids, hname, hconn'⟩
  rw [delete, hfind]
  simp only [hq, hb']
  rw [← hbare, hclear]
  rfl

theorem Consistent.delete {p : Pipeline} (h : p.Consistent) (id : BlockId) :
    (p.delete id).2.Consistent := by
  cases hb : p.block? id with
  | none =>
    rw [Pipeline.delete, hb]
    exact h
  | some b =>
    obtain ⟨hmem, rfl⟩ := mem_blocks_of_block? hb
    obtain ⟨q, hq, hcons, -, -, -, -, hconn⟩ := delete_of_mem h hmem
    rw [hq]
    refine hcons.without fun c hc => ?_
    rw [hconn, List.mem_filter, Bool.and_eq_true, bne_iff_ne, bne_iff_ne] at hc
    exact hc.2

/-! ## Moving blocks -/

/-- The pipeline with its blocks put elsewhere on the canvas. -/
def placed (p : Pipeline) (place : Block → Position) : Pipeline :=
  { p with blocks := p.blocks.map fun b => { b with position := place b } }

theorem block?_placed (p : Pipeline) (place : Block → Position) (id : BlockId) :
    (p.placed place).block? id = (p.block? id).map fun b => { b with position := place b } := by
  rw [block?, block?, placed, List.find?_map]
  rfl

theorem port?_placed (p : Pipeline) (place : Block → Position) (ref : PortRef) :
    (p.placed place).port? ref = p.port? ref := by
  rw [port?_eq, port?_eq, block?_placed, Option.bind_map]
  rfl

/-- **Where blocks stand does not matter.** -/
theorem Consistent.placed {p : Pipeline} (h : p.Consistent) (place : Block → Position) :
    (p.placed place).Consistent where
  nodup_ids := by
    rw [Pipeline.placed, List.map_map]
    exact h.nodup_ids
  fresh := by
    intro b hb
    obtain ⟨b', hb', rfl⟩ := List.mem_map.1 hb
    obtain ⟨b, hmem, rfl⟩ := List.mem_map.1 hb'
    rw [Block.cleared_withPosition]
    exact (h.fresh_of_mem hmem).withPosition _
  block_lt := by
    intro b hb
    obtain ⟨b', hb', rfl⟩ := List.mem_map.1 hb
    exact h.block_lt b' hb'
  sorted := h.sorted
  connection_lt := h.connection_lt
  nodup_targets := h.nodup_targets
  joined := by
    intro c hc
    obtain ⟨hs, ht, output, input, hout, hin, hacc⟩ := h.joined c hc
    refine ⟨hs, ht, output, input, ?_, ?_, hacc⟩
    · rw [format?, port?_placed]
      exact hout
    · rw [format?, port?_placed]
      exact hin
  listed := by
    intro ref port hp
    rw [port?_placed] at hp
    exact h.listed ref port hp

/-- The pipeline with one of its blocks put elsewhere on the canvas. -/
def moved (p : Pipeline) (id : BlockId) (position : Position) : Pipeline :=
  { p.updateBlock id ({ · with position }) with unsaved := true }

theorem Consistent.moved {p : Pipeline} (h : p.Consistent) (id : BlockId) (position : Position) :
    (p.moved id position).Consistent := by
  have hplaced := h.placed fun b => if b.id == id then position else b.position
  refine hplaced.congr ?_ rfl rfl (Nat.le_refl _) (Nat.le_refl _)
  refine List.map_congr_left fun b _ => ?_
  cases hid : b.id == id <;> simp [hid]

theorem Consistent.move {p : Pipeline} (h : p.Consistent) (id : BlockId) (position : Position) :
    (p.move id position).2.Consistent := by
  rw [Pipeline.move]
  cases hb : p.block? id with
  | none => exact h
  | some b => exact h.moved id position

end Pipeline

end Flowscript
