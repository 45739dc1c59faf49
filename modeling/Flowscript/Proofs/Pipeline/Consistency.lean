import Flowscript.Proofs.Pipeline.Ports
import Flowscript.Proofs.Toolbox

/-!
# Pipelines that agree with themselves

A connection is written down three times: in the list of connections and at both of its ports.  The
three agree in a *consistent* pipeline, and every edit leaves a consistent pipeline behind, whether
it succeeds or fails.

* `Block.Fresh` are the blocks that can be put in.
* `Pipeline.attached` is what a port should list, computed from the list of connections.
* `Pipeline.Consistent` is the invariant.  What it says about blocks is said of `Pipeline.shape`,
  the blocks with nothing connected, so that connecting and disconnecting cannot touch it.
* `Pipeline.Consistent.connect`, `Pipeline.Consistent.disconnect`, `Pipeline.Consistent.delete` and
  their like are the steps.
-/

set_option autoImplicit false

namespace Flowscript

/-! ## Blocks as they are put in -/

/-- A block with nothing connected, made from what a toolbox has. -/
inductive Block.Fresh (t : Toolbox) : Block → Prop
  | source (id : BlockId) (column : String) {parameter : Parameter} (position : Position)
      (h : t.formats.contains parameter.format = true) :
      Fresh t (.source id column parameter position)
  | sink (id : BlockId) (column : String) {parameter : Parameter} (position : Position)
      (h : t.formats.contains parameter.format = true) : Fresh t (.sink id column parameter position)
  | ofModule (id : BlockId) {definition : ModuleDef} (position : Position)
      (h : t.get? definition.name = some definition) : Fresh t (.ofModule id definition position)

theorem Port.getElem?_declareAll (parameters : List Parameter) (i : Nat) :
    (Port.declareAll parameters)[i]? = parameters[i]?.map (Port.declare · i) := by
  rw [declareAll, List.getElem?_map, List.getElem?_zipIdx]
  cases parameters[i]? <;> simp

namespace Block

theorem map_clearPort_declareAll (parameters : List Parameter) :
    (Port.declareAll parameters).map clearPort = Port.declareAll parameters := by
  rw [Port.declareAll, List.map_map]
  rfl

theorem cleared_ofModule (id : BlockId) (definition : ModuleDef) (position : Position) :
    (ofModule id definition position).cleared = ofModule id definition position := by
  simp [cleared, ofModule, map_clearPort_declareAll]

namespace Fresh

variable {t : Toolbox} {b : Block}

theorem cleared_eq (h : Fresh t b) : b.cleared = b := by
  cases h with
  | source => rfl
  | sink => rfl
  | ofModule => exact cleared_ofModule _ _ _

/-- The ports of a fresh block are numbered in order and have formats that are known. -/
theorem port? (ht : t.Built) (h : Fresh t b) {side : Side} {i : Nat} {port : Port}
    (hp : b.port? side i = some port) :
    port.index = i ∧ t.formats.contains port.format = true := by
  have single : ∀ {parameter : Parameter}, t.formats.contains parameter.format = true →
      [Port.declare parameter 0][i]? = some port →
      port.index = i ∧ t.formats.contains port.format = true := by
    intro parameter hf hp
    obtain ⟨rfl, rfl⟩ : i = 0 ∧ Port.declare parameter 0 = port := by
      cases i <;> simp_all
    exact ⟨rfl, hf⟩
  have many : ∀ {parameters : List Parameter},
      (∀ parameter ∈ parameters, t.formats.contains parameter.format = true) →
      (Port.declareAll parameters)[i]? = some port →
      port.index = i ∧ t.formats.contains port.format = true := by
    intro parameters hf hp
    rw [Port.getElem?_declareAll] at hp
    obtain ⟨parameter, hpar, rfl⟩ := Option.map_eq_some_iff.1 hp
    exact ⟨rfl, hf parameter (List.mem_of_getElem? hpar)⟩
  cases h with
  | source id column position hf =>
    cases side with
    | input => simp [Block.port?, ports, inputs, Block.source] at hp
    | output => exact single hf hp
  | sink id column position hf =>
    cases side with
    | input => exact single hf hp
    | output => simp [Block.port?, ports, outputs, Block.sink] at hp
  | @ofModule id definition position hm =>
    have hf := ht.contains_format definition (Toolbox.mem_of_get? hm).1
    cases side with
    | input => exact many (fun q hq => hf q (List.mem_append_left _ hq)) hp
    | output => exact many (fun q hq => hf q (List.mem_append_right _ hq)) hp

theorem connections_eq_nil (h : Fresh t b) {side : Side} {i : Nat} {port : Port}
    (hp : b.port? side i = some port) : port.connections = [] := by
  rw [← h.cleared_eq, port?_cleared] at hp
  obtain ⟨port', -, rfl⟩ := Option.map_eq_some_iff.1 hp
  rfl

end Fresh

end Block

namespace Pipeline

/-! ## The invariant -/

/-- The blocks with nothing connected. -/
def shape (p : Pipeline) : List Block := p.blocks.map Block.cleared

/-- The connections that have a port as one of their ends, oldest first. -/
def attached (p : Pipeline) (ref : PortRef) : List ConnectionId :=
  (p.connections.filter fun c => c.source == ref || c.target == ref).map (·.id)

/-- The format of a port. -/
def format? (p : Pipeline) (ref : PortRef) : Option String := (p.port? ref).map (·.format)

/-- A connection goes from an output to an input that accepts it. -/
structure Joined (p : Pipeline) (c : Connection) : Prop where
  source_side : c.source.side = .output
  target_side : c.target.side = .input
  accepts : ∃ output input, p.format? c.source = some output ∧ p.format? c.target = some input ∧
    p.toolbox.formats.accepts output input = true

/-- The three records of connections agree, and numbers are given out in order. -/
structure Consistent (p : Pipeline) : Prop where
  nodup_ids : (p.blocks.map (·.id)).Nodup
  fresh : ∀ b ∈ p.shape, b.Fresh p.toolbox
  block_lt : ∀ b ∈ p.blocks, b.id.number < p.ids.nextBlock
  sorted : p.connections.Pairwise fun c d => c.id.number < d.id.number
  connection_lt : ∀ c ∈ p.connections, c.id.number < p.ids.nextConnection
  nodup_targets : (p.connections.map (·.target)).Nodup
  joined : ∀ c ∈ p.connections, p.Joined c
  listed : ∀ ref port, p.port? ref = some port → port.connections = p.attached ref

theorem map_id_shape (p : Pipeline) : p.shape.map (·.id) = p.blocks.map (·.id) := by
  rw [shape, List.map_map]
  exact List.map_congr_left fun b _ => Block.cleared_id b

theorem find?_shape (p : Pipeline) (id : BlockId) :
    p.shape.find? (·.id == id) = (p.block? id).map Block.cleared := by
  rw [shape, List.find?_map, block?]
  simp only [Function.comp_def, Block.cleared_id]

theorem format?_eq (p : Pipeline) (ref : PortRef) :
    p.format? ref = ((p.shape.find? (·.id == ref.block)).bind
      (·.port? ref.side ref.index)).map (·.format) := by
  rw [format?, port?_eq, find?_shape]
  cases p.block? ref.block with
  | none => rfl
  | some b =>
    simp only [Option.bind_some, Option.map_some, Block.port?_cleared, Option.map_map]
    rfl

/-- Formats are read off the shape. -/
theorem format?_congr {p q : Pipeline} (h : q.shape = p.shape) (ref : PortRef) :
    q.format? ref = p.format? ref := by
  rw [format?_eq, format?_eq, h]

theorem Joined.congr {p q : Pipeline} (hs : q.shape = p.shape) (ht : q.toolbox = p.toolbox)
    {c : Connection} (h : p.Joined c) : q.Joined c := by
  obtain ⟨output, input, hout, hin, hacc⟩ := h.accepts
  refine ⟨h.source_side, h.target_side, output, input, ?_, ?_, by rw [ht]; exact hacc⟩
  · rw [format?_congr hs]; exact hout
  · rw [format?_congr hs]; exact hin

theorem shape_updatePort (p : Pipeline) (ref : PortRef) {f : Port → Port}
    (hf : ∀ port, Block.clearPort (f port) = Block.clearPort port) :
    (p.updatePort ref f).shape = p.shape := by
  rw [shape, shape, updatePort, updateBlock, List.map_map]
  refine List.map_congr_left fun b _ => ?_
  simp only [Function.comp]
  split
  · exact Block.cleared_updatePort b _ _ hf
  · rfl

theorem mem_attached {p : Pipeline} {ref : PortRef} {id : ConnectionId} :
    id ∈ p.attached ref ↔ ∃ c ∈ p.connections, c.id = id ∧ (c.source = ref ∨ c.target = ref) := by
  simp only [attached, List.mem_map, List.mem_filter, Bool.or_eq_true, beq_iff_eq]
  constructor
  · rintro ⟨c, ⟨hc, he⟩, rfl⟩
    exact ⟨c, hc, rfl, he⟩
  · rintro ⟨c, hc, rfl, he⟩
    exact ⟨c, ⟨hc, he⟩, rfl⟩

/-- What is attached to a port after one connection more. -/
theorem attached_add {p q : Pipeline} {c : Connection} (h : q.connections = p.connections ++ [c])
    (ref : PortRef) :
    q.attached ref =
      p.attached ref ++ if c.source = ref ∨ c.target = ref then [c.id] else [] := by
  rw [attached, attached, h, List.filter_append, List.map_append]
  by_cases hc : c.source = ref ∨ c.target = ref
  · simp [hc]
  · simp [not_or.1 hc]

/-- What is attached to a port after connections have been taken out. -/
theorem attached_filter {p q : Pipeline} {keep : ConnectionId → Bool}
    (h : q.connections = p.connections.filter fun c => keep c.id) (ref : PortRef) :
    q.attached ref = (p.attached ref).filter keep := by
  rw [attached, attached, h, List.filter_map, List.filter_filter, List.filter_filter]
  simp only [Function.comp_def, Bool.and_comm]

namespace Consistent

variable {p q : Pipeline}

theorem fresh_of_mem (h : p.Consistent) {b : Block} (hb : b ∈ p.blocks) :
    b.cleared.Fresh p.toolbox :=
  h.fresh _ (List.mem_map_of_mem hb)

theorem nodup_connectionIds (h : p.Consistent) : (p.connections.map (·.id)).Nodup := by
  rw [List.Nodup, List.pairwise_map]
  refine h.sorted.imp fun {c d} hlt heq => ?_
  rw [heq] at hlt
  exact Nat.lt_irrefl _ hlt

theorem connection?_of_mem (h : p.Consistent) {c : Connection} (hc : c ∈ p.connections) :
    p.connection? c.id = some c := by
  cases hf : p.connection? c.id with
  | none =>
    rw [connection?, List.find?_eq_none] at hf
    simpa using hf c hc
  | some other =>
    have hid : other.id = c.id := by simpa using List.find?_some hf
    rw [List.inj_on_of_nodup_map h.nodup_connectionIds (List.mem_of_find?_eq_some hf) hc hid]

theorem port_exists (h : p.Consistent) {c : Connection} (hc : c ∈ p.connections) :
    (∃ output, p.port? c.source = some output) ∧ ∃ input, p.port? c.target = some input := by
  obtain ⟨f, g, hf, hg, -⟩ := (h.joined c hc).accepts
  obtain ⟨output, hout, -⟩ := Option.map_eq_some_iff.1 hf
  obtain ⟨input, hin, -⟩ := Option.map_eq_some_iff.1 hg
  exact ⟨⟨output, hout⟩, input, hin⟩

/-- Nothing is attached where there is no port. -/
theorem attached_eq_nil (h : p.Consistent) {ref : PortRef} (hp : p.port? ref = none) :
    p.attached ref = [] := by
  rw [List.eq_nil_iff_forall_not_mem]
  intro id hid
  obtain ⟨c, hc, -, he⟩ := mem_attached.1 hid
  obtain ⟨⟨output, hout⟩, input, hin⟩ := h.port_exists hc
  rcases he with rfl | rfl
  · rw [hout] at hp; cases hp
  · rw [hin] at hp; cases hp

end Consistent

/-! ## Changes that leave blocks and connections alone -/

theorem block?_congr {p q : Pipeline} (h : q.blocks = p.blocks) (id : BlockId) :
    q.block? id = p.block? id := by
  rw [block?, block?, h]

theorem port?_congr {p q : Pipeline} (h : q.blocks = p.blocks) (ref : PortRef) :
    q.port? ref = p.port? ref := by
  rw [port?_eq, port?_eq, block?_congr h]

theorem attached_congr {p q : Pipeline} (h : q.connections = p.connections) (ref : PortRef) :
    q.attached ref = p.attached ref := by
  rw [attached, attached, h]

theorem Consistent.empty (name : String) (t : Toolbox) : (empty name t).Consistent where
  nodup_ids := List.nodup_nil
  fresh := by rintro b ⟨⟩
  block_lt := by rintro b ⟨⟩
  sorted := List.Pairwise.nil
  connection_lt := by rintro c ⟨⟩
  nodup_targets := List.nodup_nil
  joined := by rintro c ⟨⟩
  listed := by
    intro ref port h
    rw [port?_eq] at h
    cases h

theorem Consistent.congr {p q : Pipeline} (h : p.Consistent) (hb : q.blocks = p.blocks)
    (hc : q.connections = p.connections) (ht : q.toolbox = p.toolbox)
    (hi : p.ids.nextBlock ≤ q.ids.nextBlock) (hj : p.ids.nextConnection ≤ q.ids.nextConnection) :
    q.Consistent where
  nodup_ids := by rw [hb]; exact h.nodup_ids
  fresh := by rw [shape, hb, ht]; exact h.fresh
  block_lt := by
    rw [hb]
    exact fun b hb => Nat.lt_of_lt_of_le (h.block_lt b hb) hi
  sorted := by rw [hc]; exact h.sorted
  connection_lt := by
    rw [hc]
    exact fun c hc => Nat.lt_of_lt_of_le (h.connection_lt c hc) hj
  nodup_targets := by rw [hc]; exact h.nodup_targets
  joined := by
    rw [hc]
    exact fun c hc => (h.joined c hc).congr (by rw [shape, hb, shape]) ht
  listed := by
    intro ref port hp
    rw [port?_congr hb] at hp
    rw [attached_congr hc]
    exact h.listed ref port hp

theorem Consistent.rename {p : Pipeline} (h : p.Consistent) (name : String) :
    (p.rename name).Consistent :=
  h.congr rfl rfl rfl (Nat.le_refl _) (Nat.le_refl _)

theorem Consistent.markSaved {p : Pipeline} (h : p.Consistent) : p.markSaved.Consistent :=
  h.congr rfl rfl rfl (Nat.le_refl _) (Nat.le_refl _)

/-! ## Adding a block -/

/-- A port keeps its format when a block is added. -/
theorem format?_add {p q : Pipeline} {b : Block} (hq : q.blocks = p.blocks ++ [b])
    (hb : p.block? b.id = none) {ref : PortRef} {format : String}
    (h : p.format? ref = some format) : q.format? ref = some format := by
  have hne : ref.block ≠ b.id := by
    intro he
    rw [format?, port?_eq, he, hb] at h
    cases h
  rw [format?, port?_eq, block?_add hq hb, if_neg hne, ← port?_eq]
  exact h

/-- **A fresh block with a number of its own can be added.** -/
theorem Consistent.add {p q : Pipeline} {b : Block} (h : p.Consistent) (hf : b.Fresh p.toolbox)
    (hb : p.block? b.id = none) (hq : q.blocks = p.blocks ++ [b])
    (hc : q.connections = p.connections) (ht : q.toolbox = p.toolbox)
    (hi : p.ids.nextBlock ≤ q.ids.nextBlock) (hlt : b.id.number < q.ids.nextBlock)
    (hj : p.ids.nextConnection ≤ q.ids.nextConnection) : q.Consistent where
  nodup_ids := by
    rw [hq, List.map_append, List.nodup_append]
    refine ⟨h.nodup_ids, by simp, ?_⟩
    simp only [List.mem_map, List.map_cons, List.map_nil, List.mem_singleton]
    rintro id ⟨b', hb', rfl⟩ id' rfl
    exact block?_eq_none_iff.1 hb b' hb'
  fresh := by
    rw [shape, hq, List.map_append, ht]
    intro b' hb'
    rcases List.mem_append.1 hb' with hb' | hb'
    · exact h.fresh b' hb'
    · rw [List.mem_singleton.1 hb', hf.cleared_eq]
      exact hf
  block_lt := by
    rw [hq]
    intro b' hb'
    rcases List.mem_append.1 hb' with hb' | hb'
    · exact Nat.lt_of_lt_of_le (h.block_lt b' hb') hi
    · rw [List.mem_singleton.1 hb']
      exact hlt
  sorted := by rw [hc]; exact h.sorted
  connection_lt := by
    rw [hc]
    exact fun c hc => Nat.lt_of_lt_of_le (h.connection_lt c hc) hj
  nodup_targets := by rw [hc]; exact h.nodup_targets
  joined := by
    rw [hc]
    intro c hc
    obtain ⟨hs, hd, output, input, hout, hin, hacc⟩ := h.joined c hc
    refine ⟨hs, hd, output, input, format?_add hq hb hout, format?_add hq hb hin, ?_⟩
    rw [ht]
    exact hacc
  listed := by
    intro ref port hp
    rw [attached_congr hc]
    rw [port?_eq, block?_add hq hb] at hp
    by_cases he : ref.block = b.id
    · rw [if_pos he] at hp
      have hno : p.port? ref = none := by
        rw [port?_eq, he, hb]
        rfl
      rw [h.attached_eq_nil hno]
      exact hf.connections_eq_nil hp
    · rw [if_neg he, ← port?_eq] at hp
      exact h.listed ref port hp

theorem Consistent.insert {p : Pipeline} (h : p.Consistent) {b : Block}
    (hf : b.Fresh p.toolbox) : (p.insert b).2.Consistent := by
  rw [Pipeline.insert]
  cases hb : p.block? b.id with
  | some other => exact h
  | none =>
    refine h.add hf hb rfl rfl rfl ?_ ?_ (Nat.le_refl _)
    · exact Nat.le_max_left _ _
    · exact Nat.lt_of_lt_of_le (Nat.lt_succ_self _) (Nat.le_max_right _ _)

theorem insertNew_snd (p : Pipeline) (make : BlockId → Block) :
    (p.insertNew make).2 =
      (Pipeline.insert { p with ids := p.ids.takeBlock.2 } (make p.ids.takeBlock.1)).2 := by
  rw [insertNew]
  simp only
  split
  · rename_i e p' h
    rw [h]
  · rename_i p' h
    rw [h]

theorem Consistent.insertNew {p : Pipeline} (h : p.Consistent) {make : BlockId → Block}
    (hf : ∀ id, (make id).Fresh p.toolbox) : (p.insertNew make).2.Consistent := by
  rw [insertNew_snd]
  have hids : Consistent { p with ids := p.ids.takeBlock.2 } :=
    h.congr rfl rfl rfl (Nat.le_succ _) (Nat.le_refl _)
  exact hids.insert (hf _)

theorem checkFormat_eq_ok {p : Pipeline} {format : String} (h : p.checkFormat format = .ok ()) :
    p.toolbox.formats.contains format = true := by
  rw [checkFormat] at h
  split at h
  · rename_i hc
    exact hc
  · cases h

theorem Consistent.addSource {p : Pipeline} (h : p.Consistent) (column : String)
    (parameter : Parameter) (position : Position) :
    (p.addSource column parameter position).2.Consistent := by
  rw [Pipeline.addSource]
  cases hc : p.checkFormat parameter.format with
  | error e => exact h
  | ok u => exact h.insertNew fun id => .source id column position (checkFormat_eq_ok hc)

theorem Consistent.addSink {p : Pipeline} (h : p.Consistent) (column : String)
    (parameter : Parameter) (position : Position) :
    (p.addSink column parameter position).2.Consistent := by
  rw [Pipeline.addSink]
  cases hc : p.checkFormat parameter.format with
  | error e => exact h
  | ok u => exact h.insertNew fun id => .sink id column position (checkFormat_eq_ok hc)

theorem Consistent.addModule {p : Pipeline} (h : p.Consistent) (name : String)
    (position : Position) : (p.addModule name position).2.Consistent := by
  rw [Pipeline.addModule]
  cases hm : p.toolbox.module name with
  | error e => exact h
  | ok definition =>
    have hget := Toolbox.module_eq_ok_iff.1 hm
    refine h.insertNew fun id => .ofModule id position ?_
    rw [(Toolbox.mem_of_get? hget).2]
    exact hget

end Pipeline

end Flowscript
