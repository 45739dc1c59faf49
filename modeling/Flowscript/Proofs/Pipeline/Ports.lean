import Mathlib.Data.List.Nodup
import Flowscript.Pipeline.Feeders

/-!
# Ports after a change

Every edit changes blocks and ports one at a time.  This file says, once for each kind of change,
which blocks and ports are found afterwards.

* `Block.ports_updatePort` is the ports of a block after one of them has changed.
* `Pipeline.block?_updateBlock` and `Pipeline.port?_updatePort` carry this over to pipelines.
* `Pipeline.block?_add` and `Pipeline.block?_remove` are about whole blocks coming and going.
* `Block.cleared` is a block with nothing connected: what stays of a block when its connections are
  left aside.
-/

set_option autoImplicit false

namespace Flowscript

/-! ## The ports of a block -/

namespace Block

theorem exists_kind_of_isModule {b : Block} (h : b.isModule = true) :
    ∃ definition inputs outputs, b.kind = .module definition inputs outputs := by
  obtain ⟨id, position, kind⟩ := b
  cases kind with
  | source => cases h
  | module definition inputs outputs => exact ⟨definition, inputs, outputs, rfl⟩
  | sink => cases h

theorem exists_kind_of_isSink {b : Block} (h : b.isSink = true) :
    ∃ column input, b.kind = .sink column input := by
  obtain ⟨id, position, kind⟩ := b
  cases kind with
  | source => cases h
  | module => cases h
  | sink column input => exact ⟨column, input, rfl⟩

@[simp] theorem updatePort_id (b : Block) (side : Side) (i : Nat) (f : Port → Port) :
    (b.updatePort side i f).id = b.id := by
  obtain ⟨id, position, kind⟩ := b
  cases kind <;> cases side <;> simp only [updatePort] <;> split <;> rfl

theorem ports_updatePort (b : Block) (side s : Side) (i : Nat) (f : Port → Port) :
    (b.updatePort side i f).ports s = if s = side then (b.ports s).modify i f else b.ports s := by
  obtain ⟨id, position, kind⟩ := b
  cases kind <;> cases side <;> cases s <;> simp only [updatePort, ports, inputs, outputs] <;>
    cases i <;> simp

theorem port?_updatePort (b : Block) (side s : Side) (i j : Nat) (f : Port → Port) :
    (b.updatePort side i f).port? s j =
      if s = side ∧ j = i then (b.port? s j).map f else b.port? s j := by
  rw [port?, port?, ports_updatePort]
  by_cases hs : s = side
  · rw [if_pos hs, List.getElem?_modify]
    by_cases hj : i = j
    · simp [hs, hj]
    · simp [hs, hj, Ne.symm hj]
  · rw [if_neg hs, if_neg (fun h => hs h.1)]

/-- A port with nothing connected. -/
def clearPort (p : Port) : Port := { p with connections := [] }

/-- The block with nothing connected. -/
def cleared (b : Block) : Block :=
  match b.kind with
  | .source column output => { b with kind := .source column (clearPort output) }
  | .module definition inputs outputs =>
    { b with kind := .module definition (inputs.map clearPort) (outputs.map clearPort) }
  | .sink column input => { b with kind := .sink column (clearPort input) }

@[simp] theorem cleared_id (b : Block) : b.cleared.id = b.id := by
  obtain ⟨id, position, kind⟩ := b
  cases kind <;> rfl

theorem ports_cleared (b : Block) (side : Side) :
    b.cleared.ports side = (b.ports side).map clearPort := by
  obtain ⟨id, position, kind⟩ := b
  cases kind <;> cases side <;> rfl

theorem port?_cleared (b : Block) (side : Side) (i : Nat) :
    b.cleared.port? side i = (b.port? side i).map clearPort := by
  rw [port?, ports_cleared, List.getElem?_map, port?]

/-- A change that keeps all of a port but its connections does not show in a cleared block. -/
theorem cleared_updatePort (b : Block) (side : Side) (i : Nat) {f : Port → Port}
    (hf : ∀ p, clearPort (f p) = clearPort p) : (b.updatePort side i f).cleared = b.cleared := by
  obtain ⟨id, position, kind⟩ := b
  have hmap : ∀ l : List Port, (l.modify i f).map clearPort = l.map clearPort := by
    intro l
    refine List.ext_getElem? fun j => ?_
    rw [List.getElem?_map, List.getElem?_map, List.getElem?_modify]
    cases l[j]? with
    | none => rfl
    | some p => by_cases h : i = j <;> simp [h, hf]
  cases kind <;> cases side <;> simp only [updatePort]
  case source.output => split <;> simp [cleared, hf]
  case sink.input => split <;> simp [cleared, hf]
  all_goals simp [cleared, hmap]

end Block

/-! ## The blocks and ports of a pipeline -/

namespace Pipeline

theorem block?_id {p : Pipeline} {id : BlockId} {b : Block} (h : p.block? id = some b) :
    b.id = id :=
  (mem_blocks_of_block? h).2

theorem block?_eq_none_iff {p : Pipeline} {id : BlockId} :
    p.block? id = none ↔ ∀ b ∈ p.blocks, b.id ≠ id := by
  simp [block?, List.find?_eq_none]

theorem block?_of_mem {p : Pipeline} (hp : (p.blocks.map (·.id)).Nodup) {b : Block}
    (hb : b ∈ p.blocks) : p.block? b.id = some b := by
  cases h : p.block? b.id with
  | none => exact absurd rfl (block?_eq_none_iff.1 h b hb)
  | some other =>
    obtain ⟨ho, hid⟩ := mem_blocks_of_block? h
    rw [List.inj_on_of_nodup_map hp ho hb hid]

theorem port?_eq (p : Pipeline) (ref : PortRef) :
    p.port? ref = (p.block? ref.block).bind (·.port? ref.side ref.index) := by
  rw [port?, port]
  cases p.block? ref.block with
  | none => rfl
  | some b =>
    simp only [Option.bind_some]
    cases b.port? ref.side ref.index <;> rfl

theorem port?_eq_some_iff {p : Pipeline} {ref : PortRef} {port : Port} :
    p.port? ref = some port ↔
      ∃ b, p.block? ref.block = some b ∧ b.port? ref.side ref.index = some port := by
  rw [port?_eq, Option.bind_eq_some_iff]

theorem port_eq_ok_iff {p : Pipeline} {ref : PortRef} {port : Port} :
    p.port ref = .ok port ↔ p.port? ref = some port := by
  rw [port?]
  cases p.port ref <;> simp [Except.toOption]

theorem port_eq_ok {p : Pipeline} {ref : PortRef} {port : Port} (h : p.port? ref = some port) :
    p.port ref = .ok port :=
  port_eq_ok_iff.2 h

theorem block?_updateBlock (p : Pipeline) (id i : BlockId) {f : Block → Block}
    (hf : ∀ b, (f b).id = b.id) :
    (p.updateBlock id f).block? i = if i = id then (p.block? i).map f else p.block? i := by
  rw [block?, block?, updateBlock, List.find?_map]
  have hpred : ((fun b : Block => b.id == i) ∘ fun b => if b.id == id then f b else b)
      = fun b => b.id == i := by
    funext b
    simp only [Function.comp]
    split <;> simp [hf]
  rw [hpred]
  cases hb : p.blocks.find? (·.id == i) with
  | none => simp
  | some b =>
    have hid : b.id = i := by simpa using List.find?_some hb
    by_cases h : i = id <;> simp [hid, h]

theorem block?_updatePort (p : Pipeline) (ref : PortRef) (f : Port → Port) (i : BlockId) :
    (p.updatePort ref f).block? i =
      if i = ref.block then (p.block? i).map (·.updatePort ref.side ref.index f)
      else p.block? i := by
  rw [updatePort, block?_updateBlock _ _ _ fun b => Block.updatePort_id b _ _ _]

/-- **A change of one port leaves all other ports as they are.** -/
theorem port?_updatePort (p : Pipeline) (ref r : PortRef) (f : Port → Port) :
    (p.updatePort ref f).port? r = if r = ref then (p.port? r).map f else p.port? r := by
  obtain ⟨id, side, index⟩ := ref
  obtain ⟨id', side', index'⟩ := r
  rw [port?_eq, port?_eq, block?_updatePort]
  by_cases h : id' = id
  · cases hb : p.block? id' with
    | none => simp
    | some b => simp [h, Block.port?_updatePort]
  · simp [h]

@[simp] theorem updatePort_toolbox (p : Pipeline) (ref : PortRef) (f : Port → Port) :
    (p.updatePort ref f).toolbox = p.toolbox := rfl

@[simp] theorem updatePort_connections (p : Pipeline) (ref : PortRef) (f : Port → Port) :
    (p.updatePort ref f).connections = p.connections := rfl

@[simp] theorem updatePort_ids (p : Pipeline) (ref : PortRef) (f : Port → Port) :
    (p.updatePort ref f).ids = p.ids := rfl

theorem map_id_updateBlock (p : Pipeline) (id : BlockId) {f : Block → Block}
    (hf : ∀ b, (f b).id = b.id) :
    (p.updateBlock id f).blocks.map (·.id) = p.blocks.map (·.id) := by
  rw [updateBlock, List.map_map]
  refine List.map_congr_left fun b _ => ?_
  simp only [Function.comp]
  split <;> simp [hf]

@[simp] theorem map_id_updatePort (p : Pipeline) (ref : PortRef) (f : Port → Port) :
    (p.updatePort ref f).blocks.map (·.id) = p.blocks.map (·.id) :=
  map_id_updateBlock p _ fun b => Block.updatePort_id b _ _ _

/-- The blocks found in a pipeline with one block more. -/
theorem block?_add {p q : Pipeline} {b : Block} (hq : q.blocks = p.blocks ++ [b])
    (hb : p.block? b.id = none) (id : BlockId) :
    q.block? id = if id = b.id then some b else p.block? id := by
  rw [block?, hq, List.find?_append]
  by_cases h : id = b.id
  · subst h
    rw [block?] at hb
    simp [hb]
  · have hne : (b.id == id) = false := by simpa using Ne.symm h
    simp [h, block?, hne]

/-- The blocks found in a pipeline with one block taken out. -/
theorem block?_remove {p q : Pipeline} {id : BlockId} (hq : q.blocks = p.blocks.filter (·.id != id))
    (i : BlockId) : q.block? i = if i = id then none else p.block? i := by
  rw [block?, hq, List.find?_filter]
  by_cases h : i = id
  · rw [if_pos h, List.find?_eq_none]
    rintro b -
    simp [h]
  · rw [if_neg h, block?]
    congr 1
    funext b
    by_cases hb : b.id = i
    · simp [hb, h]
    · simp [hb]

/-! ## Feeders -/

/-- The feeder of a port is read off the oldest connection listed at it. -/
theorem feeder?_eq (p : Pipeline) (ref : PortRef) :
    p.feeder? ref = ((p.port? ref).bind (·.connections.head?)).bind fun id =>
      (p.connection? id).map (·.source) := by
  rw [feeder?]
  cases p.port? ref with
  | none => rfl
  | some port =>
    simp only [Option.bind_some, Option.bind_eq_bind]
    cases port.connections.head? with
    | none => rfl
    | some id =>
      simp only [Option.bind_some]
      cases p.connection? id <;> rfl

end Pipeline

end Flowscript
