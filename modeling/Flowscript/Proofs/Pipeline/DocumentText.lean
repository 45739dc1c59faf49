import Flowscript.Pipeline.Document
import Flowscript.Proofs.Json.RoundTrip

/-!
# Documents as texts

The text of a document is read back as the document, provided that its numbers of blocks fit into
64 bits and that the numbers that place its blocks are read back.

* `Binary64.ReadsBack` is what is asked of a fractional number.
* `PipelineDocument.read?_toJson` is about the text of any document.
* `PipelineDocument.Writable` is what is asked of a document.
* `PipelineDocument.ofJson_toJson` is the round trip.
-/

set_option autoImplicit false

namespace Flowscript

open Json

/-! ## Numbers -/

/-- The text of a fractional number is read back as the number. -/
def Binary64.ReadsBack (x : Binary64) : Prop :=
  (Json.read? (Value.ofBinary64 x).pretty).bind Value.binary64? = some x

theorem sound_ofBinary64 (x : Binary64) : (Value.ofBinary64 x).Sound :=
  .number (Numeral.shaped_ofBinary64 x) (Numeral.padded_ofBinary64 x)

theorem Binary64.ReadsBack.binary64?_eq {x : Binary64} (h : x.ReadsBack) :
    (Value.ofBinary64 x).binary64? = some x := by
  have hread := h
  rw [Binary64.ReadsBack, read?_pretty (sound_ofBinary64 x)] at hread
  exact hread

/-- Both coordinates are read back. -/
structure Position.ReadsBack (p : Position) : Prop where
  x : p.x.ReadsBack
  y : p.y.ReadsBack

/-! ## Records -/

theorem sound_ofMembers {members : List (String × Value)} (h : ∀ m ∈ members, m.2.Sound) :
    (Value.ofMembers members).Sound := by
  refine .object ?_ ?_
  · intro m hm
    obtain ⟨m', -, rfl⟩ := List.mem_map.1 hm
    rfl
  · intro m hm
    obtain ⟨m', hm', rfl⟩ := List.mem_map.1 hm
    exact h m' hm'

theorem sound_ofNat (n : Nat) : (Value.ofNat n).Sound :=
  .number (Numeral.shaped_ofNat n) (Numeral.padded_ofNat n)

theorem mapM_eq_some {α β : Type} {f : α → Option β} {g : α → β} {l : List α}
    (h : ∀ a ∈ l, f a = some (g a)) : l.mapM f = some (l.map g) := by
  induction l with
  | nil => rfl
  | cons a l ih =>
    rw [List.mapM_cons, h a List.mem_cons_self, ih fun b hb => h b (List.mem_cons_of_mem _ hb)]
    rfl

theorem members?_ofMembers (members : List (String × Value)) :
    (Value.ofMembers members).members? = some members := by
  rw [Value.ofMembers, Value.members?, mapM_eq_some (g := fun m => (m.1.getD "", m.2))]
  · rw [List.map_map]
    exact congrArg some (List.map_id members)
  · intro m hm
    obtain ⟨m', -, rfl⟩ := List.mem_map.1 hm
    rfl

/-- The fields of a record are its members. -/
theorem record?_ofMembers {members : List (String × Value)} {names : List String}
    (hnames : members.map Prod.fst = names) (hnodup : names.Nodup) :
    (Value.ofMembers members).record? names = some members := by
  have hfilter : members.filter (fun m => names.contains m.1) = members := by
    rw [List.filter_eq_self]
    intro m hm
    rw [List.contains_iff_mem, ← hnames]
    exact List.mem_map_of_mem hm
  have hmembers := members?_ofMembers members
  rw [Value.ofMembers] at hmembers ⊢
  simp only [Value.record?, hmembers, Option.bind_eq_bind, Option.bind_some, hfilter]
  rw [if_pos (by rw [hnames]; exact hnodup)]

theorem list?_array {α : Type} {items : List α} {value : α → Value} {item? : Value → Option α}
    (h : ∀ a ∈ items, item? (value a) = some a) :
    Value.list? item? (.array (items.map value)) = some items := by
  rw [Value.list?, List.mapM_map]
  exact (mapM_eq_some (g := id) h).trans (congrArg some (List.map_id items))

namespace Parameter

theorem sound_value (p : Parameter) : p.value.Sound := by
  refine sound_ofMembers ?_
  simp only [List.forall_mem_cons]
  exact ⟨.text _, .text _, .bool _, by simp⟩

theorem ofValue?_value (p : Parameter) : ofValue? p.value = some p := by
  rw [ofValue?, value, record?_ofMembers]
  · rfl
  · rfl
  · decide

end Parameter

namespace Position

variable {p : Position}

theorem sound_value (p : Position) : p.value.Sound := by
  refine sound_ofMembers ?_
  simp only [List.forall_mem_cons]
  exact ⟨sound_ofBinary64 _, sound_ofBinary64 _, by simp⟩

theorem ReadsBack.ofValue?_value (h : p.ReadsBack) : ofValue? p.value = some p := by
  have hx : Fields.required? [("X", Value.ofBinary64 p.x), ("Y", Value.ofBinary64 p.y)] "X"
      Value.binary64? = some p.x := h.x.binary64?_eq
  have hy : Fields.required? [("X", Value.ofBinary64 p.x), ("Y", Value.ofBinary64 p.y)] "Y"
      Value.binary64? = some p.y := h.y.binary64?_eq
  rw [ofValue?, value, record?_ofMembers]
  · simp only [Option.bind_eq_bind, Option.bind_some, hx, hy]
  · rfl
  · decide

end Position

theorem BlockId.ofValue?_ofNat {id : BlockId} (h : id.number < Text.word64Limit) :
    ofValue? (.ofNat id.number) = some id := by
  rw [ofValue?, Value.ofNat, Value.natural?, Numeral.natural?_ofNat h]
  rfl

/-! ## Entries -/

/-- A place and a number that are read back. -/
structure Stored (id : BlockId) (position : Position) : Prop where
  number : id.number < Text.word64Limit
  position : position.ReadsBack

namespace TerminalEntry

variable {e : TerminalEntry}

theorem sound_value (port : String) (e : TerminalEntry) : (e.value port).Sound := by
  refine sound_ofMembers ?_
  simp only [List.forall_mem_cons]
  exact ⟨.text _, sound_ofNat _, e.position.sound_value, e.parameter.sound_value, by simp⟩

theorem ofValue?_value {port : String} (hport : port = "output" ∨ port = "input")
    (h : Stored e.id e.position) : ofValue? port (e.value port) = some e := by
  have hid := BlockId.ofValue?_ofNat h.number
  have hposition := h.position.ofValue?_value
  have hparameter := e.parameter.ofValue?_value
  rcases hport with rfl | rfl
  all_goals
    rw [ofValue?, value, record?_ofMembers]
    · simp [Fields.required?, List.lookup_cons, Value.string?, Value.ofString, hid, hposition,
        hparameter]
    · rfl
    · decide

end TerminalEntry

namespace ModuleEntry

variable {e : ModuleEntry}

theorem sound_value (e : ModuleEntry) : e.value.Sound := by
  refine sound_ofMembers ?_
  simp only [List.forall_mem_cons]
  exact ⟨.text _, sound_ofNat _, e.position.sound_value, by simp⟩

theorem ofValue?_value (h : Stored e.id e.position) : ofValue? e.value = some e := by
  have hid := BlockId.ofValue?_ofNat h.number
  have hposition := h.position.ofValue?_value
  rw [ofValue?, value, record?_ofMembers]
  · simp [Fields.required?, List.lookup_cons, Value.string?, Value.ofString, hid, hposition]
  · rfl
  · decide

end ModuleEntry

namespace ConnectionEntry

theorem sound_value (e : ConnectionEntry) : e.value.Sound := by
  refine sound_ofMembers ?_
  simp only [List.forall_mem_cons]
  exact ⟨.text _, .text _, by simp⟩

theorem ofValue?_value (e : ConnectionEntry) : ofValue? e.value = some e := by
  rw [ofValue?, value, record?_ofMembers]
  · rfl
  · rfl
  · decide

end ConnectionEntry

/-! ## Documents -/

namespace PipelineDocument

/-- What can be written down and read back. -/
structure Writable (d : PipelineDocument) : Prop where
  sources : ∀ e ∈ d.sources, Stored e.id e.position
  sinks : ∀ e ∈ d.sinks, Stored e.id e.position
  modules : ∀ e ∈ d.modules, Stored e.id e.position

theorem sound_array {α : Type} {items : List α} {value : α → Value}
    (h : ∀ a, (value a).Sound) : (Value.array (items.map value)).Sound := by
  refine .array fun v hv => ?_
  obtain ⟨a, -, rfl⟩ := List.mem_map.1 hv
  exact h a

/-- The text of a document is read as the value that was written. -/
theorem read?_toJson (d : PipelineDocument) : Json.read? d.toJson = some d.value := by
  refine read?_pretty (sound_ofMembers ?_)
  simp only [List.forall_mem_cons]
  exact ⟨.text _, sound_array (TerminalEntry.sound_value _), sound_array (TerminalEntry.sound_value _),
    sound_array ModuleEntry.sound_value, sound_array ConnectionEntry.sound_value, by simp⟩

theorem Writable.ofValue?_value {d : PipelineDocument} (h : d.Writable) :
    ofValue? d.value = some d := by
  have hsources := list?_array fun e he => TerminalEntry.ofValue?_value (Or.inl rfl) (h.sources e he)
  have hsinks := list?_array fun e he => TerminalEntry.ofValue?_value (Or.inr rfl) (h.sinks e he)
  have hmodules := list?_array fun e he => ModuleEntry.ofValue?_value (h.modules e he)
  have hconnections := list?_array fun e (_ : e ∈ d.connections) => e.ofValue?_value
  rw [ofValue?, value, record?_ofMembers]
  · simp [Fields.required?, Fields.withDefault?, List.lookup_cons, Value.string?, Value.ofString,
      hsources, hsinks, hmodules, hconnections]
  · rfl
  · decide

/-- **The text of a document is read back as the document.** -/
theorem ofJson_toJson {d : PipelineDocument} (h : d.Writable) : ofJson d.toJson = .ok d := by
  rw [ofJson, read?_toJson, Option.bind_some, h.ofValue?_value]

end PipelineDocument

end Flowscript
