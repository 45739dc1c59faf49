import Flowscript.Pipeline.Document
import Flowscript.Proofs.Json.Numerals
import Flowscript.Proofs.Pipeline.Reachability
import Flowscript.Proofs.Words

/-!
# Texts of endpoints

The text of a port names a port of its block, and it names no other one: the port is found again
under its text in every pipeline with the same blocks.  The text can be taken apart because a
number has digits only and what a list is called ends in a bracket.  Noughts in front of a number
make no difference.

* `Endpoint.parse?_eq_some_iff` says which texts are those of endpoints, and
  `BlockId.read_eq_ok_iff` which digits are those of a number.
* `Pipeline.endpoint?_congr` says that texts do not depend on what is connected.
* `Pipeline.Consistent.resolve_eq_ok_iff` says which texts lead to which ports, and
  `Pipeline.Consistent.eq_of_written` that a text leads to one port at most.
* `Pipeline.Reachable.resolve_exact` is both for pipelines that were edited or loaded.
-/

set_option autoImplicit false

namespace Flowscript

/-! ## Numbers of blocks -/

namespace Text

theorem isDecimalDigit_of_isDigit {c : Char} (h : c.isDigit = true) : isDecimalDigit c = true := by
  rw [isDecimalDigit, decimalDigitRanges, inRanges, List.any_cons, Bool.or_eq_true,
    Bool.and_eq_true, decide_eq_true_eq, decide_eq_true_eq]
  exact Or.inl (toNat_of_isDigit h)

end Text

namespace BlockId

theorem toList_text (id : BlockId) : id.text.toList = Nat.toDigits 10 id.number :=
  Nat.toList_repr

/-- The digits of a number with noughts in front. -/
def padded (id : BlockId) (noughts : Nat) : String :=
  String.ofList (List.replicate noughts '0') ++ id.text

theorem padded_zero (id : BlockId) : id.padded 0 = id.text := by
  rw [padded, List.replicate_zero]
  exact String.empty_append

theorem toList_padded (id : BlockId) (noughts : Nat) :
    (id.padded noughts).toList = List.replicate noughts '0' ++ Nat.toDigits 10 id.number := by
  rw [padded, String.toList_append, String.toList_ofList, toList_text]

/-- Noughts do not change a number. -/
theorem ofDigitChars_padded (id : BlockId) (noughts : Nat) :
    Nat.ofDigitChars 10 (id.padded noughts).toList 0 = id.number := by
  rw [toList_padded, Nat.ofDigitChars_append, Nat.ofDigitChars_replicate_zero, Nat.mul_zero,
    Nat.ofDigitChars_ten_toDigits]

theorem padded_inj {id id' : BlockId} {noughts noughts' : Nat}
    (h : id.padded noughts = id'.padded noughts') : id = id' := by
  have hvalue := id.ofDigitChars_padded noughts
  rw [h, ofDigitChars_padded] at hvalue
  exact congrArg mk hvalue.symm

theorem isDigit_padded (id : BlockId) (noughts : Nat) :
    ∀ c ∈ (id.padded noughts).toList, c.isDigit = true := by
  intro c hc
  rw [toList_padded, List.mem_append] at hc
  rcases hc with hc | hc
  · rw [(List.mem_replicate.1 hc).2]
    rfl
  · exact isDigit_toDigits c hc

/-- **Which runs of digits are the number of a block.**  Digits of other scripts are not, and noughts
in front do not count. -/
theorem read_eq_ok_iff {digits : String} {id : BlockId} (hne : digits ≠ "")
    (hdigits : ∀ c ∈ digits.toList, Text.isDecimalDigit c = true) :
    read digits = .ok id ↔
      id.number < Text.word64Limit ∧ ∃ noughts, digits = id.padded noughts := by
  obtain ⟨c, cs, hcons⟩ := List.exists_cons_of_ne_nil (mt String.toList_eq_nil_iff.1 hne)
  have hplus : c ≠ '+' := by
    rintro rfl
    exact absurd (hdigits '+' (hcons ▸ List.mem_cons_self)) (by decide)
  have hword : Text.readWord64 digits = Text.readDigits 0 digits.toList := by
    rw [Text.readWord64, hcons]
    simp [hplus]
  have hread : read digits = .ok id ↔ Text.readDigits 0 digits.toList = .ok id.number := by
    rw [read, hword]
    cases Text.readDigits 0 digits.toList with
    | error => simp
    | ok n =>
      obtain ⟨number⟩ := id
      simp
  rw [hread, Text.readDigits_eq_ok_iff]
  constructor
  · rintro ⟨hall, hvalue, hlt⟩
    obtain ⟨noughts, hsplit⟩ := exists_noughts (mt String.toList_eq_nil_iff.1 hne) hall
    refine ⟨hlt, noughts, String.toList_inj.1 ?_⟩
    rw [toList_padded, ← hvalue]
    exact hsplit
  · rintro ⟨hlt, noughts, rfl⟩
    exact ⟨id.isDigit_padded noughts, id.ofDigitChars_padded noughts, hlt⟩

theorem padded_ne_empty (id : BlockId) (noughts : Nat) : id.padded noughts ≠ "" := by
  rw [Ne, ← String.toList_eq_nil_iff, toList_padded, List.append_eq_nil_iff]
  exact fun h => Nat.toDigits_ne_nil h.2

theorem read_padded {id : BlockId} (h : id.number < Text.word64Limit) (noughts : Nat) :
    read (id.padded noughts) = .ok id := by
  refine (read_eq_ok_iff (id.padded_ne_empty noughts) fun c hc => ?_).2 ⟨h, noughts, rfl⟩
  exact Text.isDecimalDigit_of_isDigit (id.isDigit_padded noughts c hc)

theorem read_text {id : BlockId} (h : id.number < Text.word64Limit) : read id.text = .ok id :=
  id.padded_zero ▸ read_padded h 0

end BlockId

/-! ## Taking a text apart -/

namespace Endpoint

/-- The text of a list, what is between brackets, and what is behind them. -/
def bracketed (part : Section) (digits rest : String) : String :=
  part.text ++ "[" ++ digits ++ "]" ++ rest

/-- What is behind the brackets: nothing, or a point and the name of a port. -/
def ending : Option String → String
  | none => ""
  | some name => "." ++ name

/-- The text of an endpoint. -/
def written (e : Endpoint) : String := bracketed e.part e.digits (ending e.port)

theorem toList_bracketed (part : Section) (digits rest : String) :
    (bracketed part digits rest).toList =
      (part.text ++ "[").toList ++ (digits.toList ++ ']' :: rest.toList) := by
  simp [bracketed]

theorem toList_ending_some (name : String) : (ending (some name)).toList = '.' :: name.toList :=
  String.toList_append

theorem ending_inj {port port' : Option String} (h : ending port = ending port') :
    port = port' := by
  have hlist := congrArg String.toList h
  cases port <;> cases port' <;> simp_all [ending]

/-- The list of a text is what it starts with. -/
theorem section?_eq_some_iff {cs rest : List Char} {part : Section} :
    Endpoint.section? cs = some (part, rest) ↔ cs = (part.text ++ "[").toList ++ rest := by
  constructor
  · intro h
    obtain ⟨part', -, hpart⟩ := List.exists_of_findSome?_eq_some h
    obtain ⟨rest', hrest, heq⟩ := Option.map_eq_some_iff.1 hpart
    cases heq
    exact Text.dropPattern?_eq_some_iff.1 hrest
  · rintro rfl
    cases part <;> rfl

theorem port?_eq_some_iff {cs : List Char} {port : Option String} :
    port? cs = some port ↔
      cs = (ending port).toList ∧ ∀ name ∈ port, name ≠ "" ∧ '\n' ∉ name.toList := by
  constructor
  · intro h
    rw [port?.eq_def] at h
    split at h
    · cases h
      exact ⟨rfl, nofun⟩
    · rename_i c cs
      split at h
      · cases h
      · rename_i hline
        cases h
        refine ⟨by rw [toList_ending_some, String.toList_ofList], ?_⟩
        rintro name ⟨⟩
        rw [String.toList_ofList]
        exact ⟨by simp, by simpa using hline⟩
    · cases h
  · rintro ⟨rfl, hname⟩
    cases port with
    | none => rfl
    | some name =>
      obtain ⟨hne, hline⟩ := hname name rfl
      obtain ⟨c, cs, hcons⟩ := List.exists_cons_of_ne_nil (mt String.toList_eq_nil_iff.1 hne)
      have hcontains : (c :: cs).contains '\n' = false := by simpa [← hcons] using hline
      have hofList : String.ofList (c :: cs) = name := by rw [← hcons, String.ofList_toList]
      rw [toList_ending_some, hcons, port?, hcontains, hofList]
      rfl

/-- The list that a text starts with can be told. -/
theorem section_inj {part part' : Section} {rest rest' : List Char}
    (h : (part.text ++ "[").toList ++ rest = (part'.text ++ "[").toList ++ rest') :
    part = part' ∧ rest = rest' := by
  have hfound := section?_eq_some_iff.2 h
  rw [section?_eq_some_iff.2 rfl] at hfound
  exact Prod.mk.inj (Option.some.inj hfound)

/-- A text tells its list, its number and what is behind the brackets. -/
theorem bracketed_inj {part part' : Section} {id id' : BlockId} {noughts noughts' : Nat}
    {rest rest' : String}
    (h : bracketed part (id.padded noughts) rest = bracketed part' (id'.padded noughts') rest') :
    part = part' ∧ id = id' ∧ rest = rest' := by
  have hlist := congrArg String.toList h
  rw [toList_bracketed, toList_bracketed] at hlist
  obtain ⟨rfl, hrun⟩ := section_inj hlist
  have hbracket : Char.isDigit ']' = false := by decide
  obtain ⟨htake, hdrop⟩ := (Text.span_eq_iff hbracket).2 ⟨id.isDigit_padded noughts, rfl⟩
  obtain ⟨htake', hdrop'⟩ := (Text.span_eq_iff hbracket).2 ⟨id'.isDigit_padded noughts', hrun⟩
  have hdigits := String.toList_inj.1 (htake.symm.trans htake')
  exact ⟨rfl, BlockId.padded_inj hdigits,
    String.toList_inj.1 (List.cons.inj (hdrop.symm.trans hdrop')).2⟩

/-- **Which texts are those of endpoints.** -/
theorem parse?_eq_some_iff {text : String} {e : Endpoint} :
    parse? text = some e ↔
      text = e.written ∧ e.digits ≠ "" ∧ (∀ c ∈ e.digits.toList, Text.isDecimalDigit c = true) ∧
        ∀ name ∈ e.port, name ≠ "" ∧ '\n' ∉ name.toList := by
  have hbracket : Text.isDecimalDigit ']' = false := by decide
  rw [← String.toList_inj, written, toList_bracketed, parse?, Option.bind_eq_bind, Option.bind_eq_some_iff]
  constructor
  · rintro ⟨⟨part, cs⟩, hpart, h⟩
    simp only at h
    split at h
    · cases h
    · rename_i hne
      split at h
      · rename_i rest hrest
        obtain ⟨port, hport, h⟩ := Option.bind_eq_some_iff.1 h
        cases h
        obtain ⟨rfl, hname⟩ := port?_eq_some_iff.1 hport
        obtain ⟨hdigits, hcs⟩ := (Text.span_eq_iff hbracket).1 ⟨rfl, hrest⟩
        refine ⟨?_, ?_, ?_, hname⟩
        · rw [section?_eq_some_iff.1 hpart, String.toList_ofList, ← hcs]
        · rw [Ne, ← String.toList_eq_nil_iff, String.toList_ofList]
          simpa using hne
        · rwa [String.toList_ofList]
      · cases h
  · rintro ⟨htext, hne, hdigits, hname⟩
    obtain ⟨cs, hcs⟩ : ∃ cs, cs = e.digits.toList ++ ']' :: (ending e.port).toList := ⟨_, rfl⟩
    obtain ⟨htake, hdrop⟩ := (Text.span_eq_iff hbracket).2 ⟨hdigits, hcs⟩
    have hnil : e.digits.toList.isEmpty = false := by
      rwa [List.isEmpty_eq_false_iff, Ne, String.toList_eq_nil_iff]
    refine ⟨(e.part, cs), section?_eq_some_iff.2 (hcs ▸ htext), ?_⟩
    simp only [htake, hdrop, hnil, port?_eq_some_iff.2 ⟨rfl, hname⟩, String.ofList_toList]
    rfl

end Endpoint

/-! ## The ports of modules -/

theorem Block.isModule_cleared (b : Block) : b.cleared.isModule = b.isModule := by
  obtain ⟨id, position, kind⟩ := b
  cases kind <;> rfl

theorem Block.Fresh.exists_definition {t : Toolbox} {b : Block} (h : b.Fresh t)
    (hm : b.isModule = true) :
    ∃ d, t.get? d.name = some d ∧ b = .ofModule b.id d b.position := by
  cases h with
  | source => cases hm
  | sink => cases hm
  | @ofModule id d position hd => exact ⟨d, hd, rfl⟩

/-- The parameters of a side of a module. -/
def ModuleDef.parameters (m : ModuleDef) : Side → List Parameter
  | .input => m.inputs
  | .output => m.outputs

theorem Block.map_parameter_ofModule (id : BlockId) (d : ModuleDef) (position : Position)
    (side : Side) : ((ofModule id d position).ports side).map (·.parameter) = d.parameters side := by
  have hall : ∀ l : List Parameter, (Port.declareAll l).map (·.parameter) = l := by
    intro l
    rw [Port.declareAll, List.map_map]
    exact List.zipIdx_map_fst 0 l
  cases side <;> exact hall _

/-- What is connected to a block does not show in the texts of its ports. -/
theorem Block.endpoint?_cleared (b : Block) (side : Side) (index : Nat) :
    b.cleared.endpoint? side index = b.endpoint? side index := by
  obtain ⟨id, position, kind⟩ := b
  cases kind with
  | source column output => rfl
  | sink column input => rfl
  | module d ins outs =>
    change ((Block.cleared ⟨id, position, .module d ins outs⟩).port? side index).bind _ =
      (Block.port? ⟨id, position, .module d ins outs⟩ side index).bind _
    rw [Block.port?_cleared, Option.bind_map]
    rfl

namespace Pipeline

/-- The parameters of a module block are those of a module of the toolbox. -/
theorem Consistent.map_parameter {p : Pipeline} (h : p.Consistent) {b : Block} (hb : b ∈ p.blocks)
    (hm : b.isModule = true) :
    ∃ d, p.toolbox.get? d.name = some d ∧ b.definition? = some d ∧
      ∀ side, (b.ports side).map (·.parameter) = d.parameters side := by
  have hclear := b.isModule_cleared.trans hm
  obtain ⟨d, hd, heq⟩ := (h.fresh_of_mem hb).exists_definition hclear
  refine ⟨d, hd, ?_, fun side => ?_⟩
  · have hdef := congrArg Block.definition? heq
    obtain ⟨id, position, kind⟩ := b
    cases kind with
    | module d' ins outs => exact hdef
    | source => cases hm
    | sink => cases hm
  · have hports := Block.map_parameter_ofModule b.cleared.id d b.cleared.position side
    rw [← heq, Block.ports_cleared, List.map_map] at hports
    exact hports

/-- **The ports of a module block have distinct names**, also on different sides. -/
theorem Consistent.nodup_names {p : Pipeline} (h : p.Consistent)
    (ht : ∀ m ∈ p.toolbox.modules, m.IsDefined) {b : Block} (hb : b ∈ p.blocks)
    (hm : b.isModule = true) : ((b.inputs ++ b.outputs).map (·.parameter.name)).Nodup := by
  obtain ⟨d, hd, -, hports⟩ := h.map_parameter hb hm
  have hparameters : (b.inputs ++ b.outputs).map (·.parameter) = d.ports := by
    rw [List.map_append]
    exact congrArg₂ (· ++ ·) (hports .input) (hports .output)
  have hnames := (ht d (Toolbox.mem_of_get? hd).1).nodup_names
  rwa [← hparameters, List.map_map] at hnames

theorem Consistent.names {p : Pipeline} (h : p.Consistent)
    (ht : ∀ m ∈ p.toolbox.modules, m.IsDefined) {b : Block} (hb : b ∈ p.blocks)
    (hm : b.isModule = true) (side : Side) :
    ((b.ports side).map (·.parameter.name)).Nodup ∧
      ∀ port ∈ b.ports side, Text.isPlainName port.parameter.name = true := by
  have hsub : (b.ports side).Sublist (b.inputs ++ b.outputs) := by
    cases side with
    | input => exact List.sublist_append_left _ _
    | output => exact List.sublist_append_right _ _
  refine ⟨(h.nodup_names ht hb hm).sublist (hsub.map _), fun port hport => ?_⟩
  obtain ⟨d, hd, -, hports⟩ := h.map_parameter hb hm
  have hmem : port.parameter ∈ d.parameters side := by
    rw [← hports side]
    exact List.mem_map_of_mem hport
  refine (ht d (Toolbox.mem_of_get? hd).1).isPlainName _ ?_
  cases side with
  | input => exact List.mem_append_left _ hmem
  | output => exact List.mem_append_right _ hmem

/-- A port of a module block is told by its name. -/
theorem Consistent.eq_of_name {p : Pipeline} (h : p.Consistent)
    (ht : ∀ m ∈ p.toolbox.modules, m.IsDefined) {b : Block} (hb : b ∈ p.blocks)
    (hm : b.isModule = true) {side side' : Side} {i j : Nat} {port port' : Port}
    (hport : b.port? side i = some port) (hport' : b.port? side' j = some port')
    (hname : port.parameter.name = port'.parameter.name) : side = side' ∧ i = j := by
  have hall := h.nodup_names ht hb hm
  rw [List.map_append, List.nodup_append] at hall
  have hmem : ∀ {side i port}, b.port? side i = some port →
      port.parameter.name ∈ (b.ports side).map (·.parameter.name) :=
    fun hport => List.mem_map_of_mem (List.mem_of_getElem? hport)
  have hside : side = side' := by
    cases side <;> cases side'
    · rfl
    · exact absurd hname (hall.2.2 _ (hmem hport) _ (hmem hport'))
    · exact absurd hname.symm (hall.2.2 _ (hmem hport') _ (hmem hport))
    · rfl
  subst hside
  refine ⟨rfl, ?_⟩
  have hvalues : ((b.ports side).map (·.parameter.name))[i]? =
      ((b.ports side).map (·.parameter.name))[j]? := by
    rw [List.getElem?_map, List.getElem?_map, ← Block.port?, ← Block.port?, hport, hport']
    exact congrArg some hname
  have hlt : i < ((b.ports side).map (·.parameter.name)).length := by
    rw [List.length_map]
    exact (List.getElem?_eq_some_iff.1 hport).1
  exact (List.getElem?_inj hlt (h.names ht hb hm side).1).1 hvalues

/-! ## Texts of ports -/

end Pipeline

namespace Block

/-- The list of a document that a block is in. -/
def part (b : Block) : Section :=
  match b.kind with
  | .source _ _ => .sources
  | .sink _ _ => .sinks
  | .module _ _ _ => .modules

/-- A port of a block as an endpoint, with digits for the number of the block.  The ports of modules
have their names. -/
def endpointOf (b : Block) (port : Port) (digits : String) : Endpoint :=
  ⟨b.part, digits, if b.isModule then some port.parameter.name else none⟩

theorem endpoint?_eq_written {b : Block} {side : Side} {index : Nat} {port : Port}
    (h : b.port? side index = some port) :
    b.endpoint? side index = some (b.endpointOf port b.id.text).written := by
  obtain ⟨id, position, kind⟩ := b
  cases kind with
  | source column output =>
    refine congrArg some (String.toList_inj.1 ?_)
    rw [Endpoint.written, Endpoint.toList_bracketed]
    simp [endpointOf, part, isModule, Endpoint.ending, Section.text]
  | sink column input =>
    refine congrArg some (String.toList_inj.1 ?_)
    rw [Endpoint.written, Endpoint.toList_bracketed]
    simp [endpointOf, part, isModule, Endpoint.ending, Section.text]
  | module d ins outs =>
    rw [endpoint?]
    simp only [h, Option.bind_eq_bind, Option.bind_some]
    refine congrArg some (String.toList_inj.1 ?_)
    rw [Endpoint.written, Endpoint.toList_bracketed]
    simp [endpointOf, part, isModule, Endpoint.ending, Section.text]

/-- Only the texts of ports of modules have names behind them. -/
theorem part_eq_modules_of_point {b : Block} {port : Port} {id : BlockId} {noughts : Nat}
    {part : Section} {number name : String}
    (h : part.text ++ "[" ++ number ++ "]." ++ name =
      (b.endpointOf port (id.padded noughts)).written) : part = .modules := by
  have hlist := congrArg String.toList h
  rw [Endpoint.written, Endpoint.toList_bracketed, String.toList_append, String.toList_append,
    String.toList_append, List.append_assoc, List.append_assoc] at hlist
  obtain ⟨rfl, hrest⟩ := Endpoint.section_inj hlist
  cases hm : b.isModule with
  | true =>
    obtain ⟨id, position, kind⟩ := b
    cases kind with
    | module => rfl
    | source => cases hm
    | sink => cases hm
  | false =>
    -- Nothing but digits and a bracket would stand where the text has a point.
    have hpoint : '.' ∈ (id.padded noughts).toList ++ [']'] := by
      simp only [endpointOf, hm, Endpoint.ending] at hrest
      rw [if_neg Bool.false_ne_true, String.toList_empty] at hrest
      rw [← hrest]
      simp
    rcases List.mem_append.1 hpoint with hpoint | hpoint
    · exact absurd (id.isDigit_padded noughts '.' hpoint) (by decide)
    · exact absurd (List.mem_singleton.1 hpoint) (by decide)

/-- A block that runs no module has one port. -/
theorem eq_of_port? {b : Block} (hm : b.isModule = false) {side side' : Side} {i j : Nat}
    {port port' : Port} (h : b.port? side i = some port) (h' : b.port? side' j = some port') :
    side = side' ∧ i = j := by
  have hsingle : ∀ (port : Port) (i : Nat) (other : Port), [port][i]? = some other → i = 0 := by
    intro port i other hother
    exact Nat.lt_one_iff.1 (List.getElem?_eq_some_iff.1 hother).1
  obtain ⟨id, position, kind⟩ := b
  cases kind with
  | source column output =>
    cases side with
    | input => cases h
    | output =>
      cases side' with
      | input => cases h'
      | output => exact ⟨rfl, (hsingle _ _ _ h).trans (hsingle _ _ _ h').symm⟩
  | sink column input =>
    cases side with
    | output => cases h
    | input =>
      cases side' with
      | output => cases h'
      | input => exact ⟨rfl, (hsingle _ _ _ h).trans (hsingle _ _ _ h').symm⟩
  | module definition inputs outputs => cases hm

end Block

namespace Pipeline

theorem endpoint?_eq (p : Pipeline) (ref : PortRef) :
    p.endpoint? ref =
      ((p.block? ref.block).map Block.cleared).bind (·.endpoint? ref.side ref.index) := by
  rw [endpoint?]
  cases p.block? ref.block with
  | none => rfl
  | some b => exact (b.endpoint?_cleared ref.side ref.index).symm

/-- What is connected does not show in the text of a port. -/
theorem endpoint?_congr {p q : Pipeline} {ref : PortRef}
    (h : (q.block? ref.block).map Block.cleared = (p.block? ref.block).map Block.cleared) :
    q.endpoint? ref = p.endpoint? ref := by
  rw [endpoint?_eq, endpoint?_eq, h]

theorem findIdx?_of_nodup {α β : Type} [BEq β] [LawfulBEq β] {l : List α} {f : α → β}
    (h : (l.map f).Nodup) {i : Nat} {a : α} (ha : l[i]? = some a) :
    l.findIdx? (fun x => f x == f a) = some i := by
  obtain ⟨hlt, rfl⟩ := List.getElem?_eq_some_iff.1 ha
  rw [List.findIdx?_eq_some_iff_getElem]
  refine ⟨hlt, by simp, fun j hj heq => ?_⟩
  have hjl : j < (l.map f).length := by simp; omega
  have hil : i < (l.map f).length := by simpa using hlt
  have hvalues : (l.map f)[j] = (l.map f)[i] := by simpa using heq
  exact absurd ((List.Nodup.getElem_inj_iff h).1 hvalues) (by omega)

/-- What is known of a port that is there and of its text. -/
theorem exists_block_of_endpoint? {p : Pipeline} {ref : PortRef} {port : Port} {plain : String}
    (hp : p.port? ref = some port)
    (hplain : p.endpoint? ref = some plain) :
    ∃ b, p.block? ref.block = some b ∧ b.port? ref.side ref.index = some port ∧
      plain = (b.endpointOf port ref.block.text).written := by
  obtain ⟨b, hb, hport⟩ := port?_eq_some_iff.1 hp
  refine ⟨b, hb, hport, ?_⟩
  rw [endpoint?, hb] at hplain
  rw [← block?_id hb]
  exact Option.some.inj (hplain.symm.trans (Block.endpoint?_eq_written hport))

theorem exists_endpoint? {p : Pipeline} {ref : PortRef} {port : Port} (hp : p.port? ref = some port) :
    ∃ plain, p.endpoint? ref = some plain := by
  obtain ⟨b, hb, hport⟩ := port?_eq_some_iff.1 hp
  rw [endpoint?, hb]
  exact ⟨_, Block.endpoint?_eq_written hport⟩

/-- What is resolved is a port that is written in the text taken apart. -/
theorem written_of_resolve {p : Pipeline} {text : String} {side : Side} {ref : PortRef}
    (h : p.resolve text side = .ok ref) :
    ref.side = side ∧ ∃ b port digits, p.block? ref.block = some b ∧
      b.port? ref.side ref.index = some port ∧
      Endpoint.parse? text = some (b.endpointOf port digits) ∧
      BlockId.read digits = .ok ref.block := by
  rw [resolve] at h
  split at h
  · cases h
  rename_i e hparse
  split at h
  · cases h
  rename_i id hread
  split at h
  · cases h
  rename_i b hb
  obtain ⟨part, digits, name⟩ := e
  obtain ⟨id', position, kind⟩ := b
  split at h
  case h_1 column output hpart hname hkind =>
    cases h
    cases hpart
    cases hname
    cases hkind
    exact ⟨rfl, _, output, digits, hb, rfl, hparse, hread⟩
  case h_2 column input hpart hname hkind =>
    cases h
    cases hpart
    cases hname
    cases hkind
    exact ⟨rfl, _, input, digits, hb, rfl, hparse, hread⟩
  case h_3 name definition inputs outputs hpart hname hkind =>
    cases hpart
    cases hname
    cases hkind
    split at h
    · rename_i index hindex
      cases h
      obtain ⟨hlt, hport, -⟩ := List.findIdx?_eq_some_iff_getElem.1 hindex
      refine ⟨rfl, _, _, digits, hb, List.getElem?_eq_getElem hlt, ?_, hread⟩
      rw [beq_iff_eq] at hport
      rw [hparse, Block.endpointOf, ← hport]
      rfl
    · cases h
  case h_4 => cases h

/-- The text of a port is taken apart into what it was written from. -/
theorem Consistent.parse?_written {p : Pipeline} (h : p.Consistent)
    (ht : ∀ m ∈ p.toolbox.modules, m.IsDefined) {b : Block} (hb : b ∈ p.blocks) {side : Side}
    {index : Nat} {port : Port} (hport : b.port? side index = some port) (id : BlockId)
    (noughts : Nat) :
    Endpoint.parse? (b.endpointOf port (id.padded noughts)).written =
      some (b.endpointOf port (id.padded noughts)) := by
  refine Endpoint.parse?_eq_some_iff.2 ⟨rfl, id.padded_ne_empty noughts, fun c hc => ?_, ?_⟩
  · exact Text.isDecimalDigit_of_isDigit (id.isDigit_padded noughts c hc)
  · intro name hname
    rw [Block.endpointOf] at hname
    split at hname
    · rename_i hm
      cases hname
      obtain ⟨hne, hchars⟩ := Text.isPlainName_iff.1
        ((h.names ht hb hm side).2 port (List.mem_of_getElem? hport))
      exact ⟨hne, fun hline => absurd (hchars _ hline) (by decide)⟩
    · cases hname

/-- **A port is found under its text**, also when there are noughts in front of the number. -/
theorem Consistent.resolve_written {p : Pipeline} (h : p.Consistent)
    (ht : ∀ m ∈ p.toolbox.modules, m.IsDefined) {ref : PortRef} {b : Block} {port : Port}
    (hb : p.block? ref.block = some b) (hport : b.port? ref.side ref.index = some port)
    (hlt : ref.block.number < Text.word64Limit) (noughts : Nat) :
    p.resolve (b.endpointOf port (ref.block.padded noughts)).written ref.side = .ok ref := by
  have hmem := (mem_blocks_of_block? hb).1
  have hparse := h.parse?_written ht hmem hport ref.block noughts
  have hread := BlockId.read_padded hlt noughts
  rw [resolve, hparse]
  obtain ⟨id, side, index⟩ := ref
  obtain ⟨id', position, kind⟩ := b
  cases kind with
  | source column output =>
    have hfirst : Block.port? ⟨id', position, .source column output⟩ .output 0 = some output := rfl
    obtain ⟨rfl, rfl⟩ := Block.eq_of_port? rfl hport hfirst
    simp only [Block.endpointOf, hread, hb]
    rfl
  | sink column input =>
    have hfirst : Block.port? ⟨id', position, .sink column input⟩ .input 0 = some input := rfl
    obtain ⟨rfl, rfl⟩ := Block.eq_of_port? rfl hport hfirst
    simp only [Block.endpointOf, hread, hb]
    rfl
  | module definition inputs outputs =>
    have hfind := findIdx?_of_nodup (h.names ht hmem rfl side).1 hport
    simp only [Block.endpointOf, hread, hb, Block.part, Block.isModule, if_true, hfind]

/-- **Which texts are resolved to which ports.** -/
theorem Consistent.resolve_eq_ok_iff {p : Pipeline} (h : p.Consistent)
    (ht : ∀ m ∈ p.toolbox.modules, m.IsDefined) {text : String} {side : Side} {ref : PortRef} :
    p.resolve text side = .ok ref ↔
      ref.side = side ∧ ref.block.number < Text.word64Limit ∧
        ∃ b port noughts, p.block? ref.block = some b ∧ b.port? ref.side ref.index = some port ∧
          text = (b.endpointOf port (ref.block.padded noughts)).written := by
  constructor
  · intro hresolve
    obtain ⟨hside, b, port, digits, hb, hport, hparse, hread⟩ := written_of_resolve hresolve
    obtain ⟨rfl, hne, hdigits, -⟩ := Endpoint.parse?_eq_some_iff.1 hparse
    obtain ⟨hlt, noughts, rfl⟩ := (BlockId.read_eq_ok_iff hne hdigits).1 hread
    exact ⟨hside, hlt, b, port, noughts, hb, hport, rfl⟩
  · rintro ⟨rfl, hlt, b, port, noughts, hb, hport, rfl⟩
    exact h.resolve_written ht hb hport hlt noughts

/-- A port has a text, and is found again under it. -/
theorem Consistent.resolve_endpoint? {p : Pipeline} (h : p.Consistent)
    (ht : ∀ m ∈ p.toolbox.modules, m.IsDefined) {ref : PortRef} {port : Port}
    (hp : p.port? ref = some port) : ∃ text, p.endpoint? ref = some text ∧
      (ref.block.number < Text.word64Limit → p.resolve text ref.side = .ok ref) := by
  obtain ⟨text, htext⟩ := exists_endpoint? hp
  obtain ⟨b, hb, hport, rfl⟩ := exists_block_of_endpoint? hp htext
  refine ⟨_, htext, fun hlt => ?_⟩
  rw [← BlockId.padded_zero]
  exact h.resolve_written ht hb hport hlt 0

/-- **A text names one port at most**, whatever noughts stand in front of its number. -/
theorem Consistent.eq_of_written {p : Pipeline} (h : p.Consistent)
    (ht : ∀ m ∈ p.toolbox.modules, m.IsDefined) {ref ref' : PortRef} {b b' : Block}
    {port port' : Port} {noughts noughts' : Nat} (hb : p.block? ref.block = some b)
    (hport : b.port? ref.side ref.index = some port) (hb' : p.block? ref'.block = some b')
    (hport' : b'.port? ref'.side ref'.index = some port')
    (heq : (b.endpointOf port (ref.block.padded noughts)).written =
      (b'.endpointOf port' (ref'.block.padded noughts')).written) : ref = ref' := by
  obtain ⟨-, hid, hending⟩ := Endpoint.bracketed_inj heq
  obtain ⟨id, side, index⟩ := ref
  obtain ⟨id', side', index'⟩ := ref'
  obtain rfl : id = id' := hid
  obtain rfl : b = b' := Option.some.inj (hb.symm.trans hb')
  suffices hplace : side = side' ∧ index = index' by rw [hplace.1, hplace.2]
  cases hm : b.isModule with
  | true =>
    have hname := Endpoint.ending_inj hending
    simp only [Block.endpointOf, hm, if_true, Option.some.injEq] at hname
    exact h.eq_of_name ht (mem_blocks_of_block? hb).1 hm hport hport' hname
  | false => exact Block.eq_of_port? hm hport hport'

theorem Consistent.eq_of_endpoint? {p : Pipeline} (h : p.Consistent)
    (ht : ∀ m ∈ p.toolbox.modules, m.IsDefined) {ref ref' : PortRef} {port port' : Port}
    {text : String} (hp : p.port? ref = some port) (hp' : p.port? ref' = some port')
    (htext : p.endpoint? ref = some text) (htext' : p.endpoint? ref' = some text) : ref = ref' := by
  obtain ⟨b, hb, hport, hwritten⟩ := exists_block_of_endpoint? hp htext
  obtain ⟨b', hb', hport', hwritten'⟩ := exists_block_of_endpoint? hp' htext'
  rw [← BlockId.padded_zero] at hwritten hwritten'
  exact h.eq_of_written ht hb hport hb' hport' (hwritten.symm.trans hwritten')

end Pipeline

/-! ## Texts up to noughts -/

theorem exists_error_of_ne_ok {ε α : Type} {x : Except ε α} (h : ∀ a, x ≠ .ok a) :
    ∃ e, x = .error e := by
  cases x with
  | error e => exact ⟨e, rfl⟩
  | ok a => exact absurd rfl (h a)

/-- The text of an endpoint of a block with noughts in front of the number. -/
def Endpoint.Respells (id : BlockId) (text plain : String) : Prop :=
  ∃ (part : Section) (noughts : Nat) (rest : String),
    plain = part.text ++ "[" ++ id.text ++ "]" ++ rest ∧
      text = part.text ++ "[" ++ id.padded noughts ++ "]" ++ rest

theorem Endpoint.respells_written_iff {b : Block} {port : Port} {id : BlockId} {text : String} :
    Respells id text (b.endpointOf port id.text).written ↔
      ∃ noughts, text = (b.endpointOf port (id.padded noughts)).written := by
  constructor
  · rintro ⟨part, noughts, rest, hplain, rfl⟩
    have heq : bracketed b.part (id.padded 0) (ending (b.endpointOf port id.text).port) =
        bracketed part (id.padded 0) rest := by
      rw [id.padded_zero]
      exact hplain
    obtain ⟨rfl, -, rfl⟩ := bracketed_inj heq
    exact ⟨noughts, rfl⟩
  · rintro ⟨noughts, rfl⟩
    exact ⟨b.part, noughts, _, rfl, rfl⟩

namespace Pipeline

variable {p : Pipeline} {ref : PortRef} {text : String} {side : Side}

/-- **What is resolved is a port on the side asked for, and its text up to noughts.** -/
theorem Consistent.resolve_eq_ok_iff_respells (h : p.Consistent)
    (ht : ∀ m ∈ p.toolbox.modules, m.IsDefined) :
    p.resolve text side = .ok ref ↔
      ref.side = side ∧ ref.block.number < Text.word64Limit ∧
        (∃ port, p.port? ref = some port) ∧
        ∃ plain, p.endpoint? ref = some plain ∧ Endpoint.Respells ref.block text plain := by
  rw [h.resolve_eq_ok_iff ht]
  refine and_congr_right fun _ => and_congr_right fun _ => ⟨?_, ?_⟩
  · rintro ⟨b, port, noughts, hb, hport, htext⟩
    have hp : p.port? ref = some port := port?_eq_some_iff.2 ⟨b, hb, hport⟩
    obtain ⟨plain, hplain⟩ := exists_endpoint? hp
    obtain ⟨b', hb', -, rfl⟩ := exists_block_of_endpoint? hp hplain
    obtain rfl := Option.some.inj (hb.symm.trans hb')
    exact ⟨⟨port, hp⟩, _, hplain, Endpoint.respells_written_iff.2 ⟨noughts, htext⟩⟩
  · rintro ⟨⟨port, hp⟩, plain, hplain, hrespells⟩
    obtain ⟨b, hb, hport, rfl⟩ := exists_block_of_endpoint? hp hplain
    obtain ⟨noughts, htext⟩ := Endpoint.respells_written_iff.1 hrespells
    exact ⟨b, port, noughts, hb, hport, htext⟩

/-- A text does not name ports on two sides. -/
theorem Consistent.side_eq_of_respells (h : p.Consistent)
    (ht : ∀ m ∈ p.toolbox.modules, m.IsDefined) {other : PortRef} {port : Port} {plain : String}
    (hp : p.port? ref = some port) (hplain : p.endpoint? ref = some plain)
    (hrespells : Endpoint.Respells ref.block text plain)
    (hresolve : p.resolve text side = .ok other) : side = ref.side := by
  obtain ⟨b, hb, hport, rfl⟩ := exists_block_of_endpoint? hp hplain
  obtain ⟨noughts, rfl⟩ := Endpoint.respells_written_iff.1 hrespells
  obtain ⟨rfl, -, b', port', noughts', hb', hport', htext⟩ := (h.resolve_eq_ok_iff ht).1 hresolve
  rw [h.eq_of_written ht hb hport hb' hport' htext]

/-- **Texts of endpoints are a code for ports.**  Every port has a text, which no other port has, and
under which it is found on its side.  What is found is a port of the side that is asked for, under
its text with any noughts in front of the number.  So a text is refused when it has the number of a
block of another list, when it is the text of a port of the other side, and when it names a port in
the lists of sources and sinks.  (Numbers of 64 bits are all that can be read.) -/
theorem Reachable.resolve_exact {t : Toolbox} (hdef : ∀ m ∈ t.modules, m.IsDefined)
    {p : Pipeline} (hp : Reachable t p) :
    (∀ ref port, p.port? ref = some port → ∃ plain, p.endpoint? ref = some plain ∧
      (ref.block.number < Text.word64Limit → p.resolve plain ref.side = .ok ref) ∧
      ∀ other port', p.port? other = some port' → p.endpoint? other = some plain → other = ref) ∧
    (∀ text side ref, p.resolve text side = .ok ref ↔
      ref.side = side ∧ ref.block.number < Text.word64Limit ∧
        (∃ port, p.port? ref = some port) ∧
        ∃ plain, p.endpoint? ref = some plain ∧ Endpoint.Respells ref.block text plain) ∧
    (∀ b ∈ p.blocks, ∀ part ≠ b.part, ∀ noughts rest side, ∃ e,
      p.resolve (part.text ++ "[" ++ b.id.padded noughts ++ "]" ++ rest) side = .error e) ∧
    (∀ ref port plain text, p.port? ref = some port → p.endpoint? ref = some plain →
      Endpoint.Respells ref.block text plain → ∀ side ≠ ref.side, ∃ e,
        p.resolve text side = .error e) ∧
    ∀ part ≠ Section.modules, ∀ number name side, ∃ e,
      p.resolve (part.text ++ "[" ++ number ++ "]." ++ name) side = .error e := by
  obtain ⟨h, rfl⟩ := hp.consistent
  refine ⟨?_, ?_, ?_, ?_, ?_⟩
  · intro ref port hp
    obtain ⟨plain, hplain, hresolve⟩ := h.resolve_endpoint? hdef hp
    refine ⟨plain, hplain, hresolve, fun other port' hother hplain' => ?_⟩
    exact h.eq_of_endpoint? hdef hother hp hplain' hplain
  · exact fun text side ref => h.resolve_eq_ok_iff_respells hdef
  · intro b hb part hpart noughts rest side
    refine exists_error_of_ne_ok fun ref hresolve => ?_
    obtain ⟨-, -, b', port, noughts', hb', -, htext⟩ := (h.resolve_eq_ok_iff hdef).1 hresolve
    obtain ⟨rfl, hid, -⟩ := Endpoint.bracketed_inj htext
    rw [← hid, block?_of_mem h.nodup_ids hb] at hb'
    exact hpart (congrArg Block.part (Option.some.inj hb')).symm
  · intro ref port plain text hp hplain hrespells side hside
    exact exists_error_of_ne_ok fun other hresolve =>
      hside (h.side_eq_of_respells hdef hp hplain hrespells hresolve)
  · intro part hpart number name side
    refine exists_error_of_ne_ok fun ref hresolve => ?_
    obtain ⟨-, -, b, port, noughts, -, -, htext⟩ := (h.resolve_eq_ok_iff hdef).1 hresolve
    exact hpart (Block.part_eq_modules_of_point htext)

/-- The output of the second module, which is written in more than one way. -/
theorem resolve_exact_tangled :
    Specimen.tangled.endpoint? (.output ⟨2⟩ 0) = some "modules[2].out" ∧
      Specimen.tangled.resolve "modules[2].out" .output = .ok (.output ⟨2⟩ 0) ∧
      Specimen.tangled.resolve "modules[002].out" .output = .ok (.output ⟨2⟩ 0) ∧
      (∃ e, Specimen.tangled.resolve "modules[002].out" .input = .error e) ∧
      (∃ e, Specimen.tangled.resolve "sources[02]" .output = .error e) ∧
      ∃ e, Specimen.tangled.resolve "sources[0].in" .output = .error e := by
  obtain ⟨hcode, hiff, hlist, hside, hname⟩ :=
    Reachable.resolve_exact Specimen.toolbox_defined Specimen.reachable_tangled
  obtain ⟨port, hport⟩ : ∃ port, Specimen.tangled.port? (.output ⟨2⟩ 0) = some port :=
    Option.isSome_iff_exists.1 (by decide)
  have hplain : Specimen.tangled.endpoint? (.output ⟨2⟩ 0) = some "modules[2].out" := by decide
  have hrespells : Endpoint.Respells ⟨2⟩ "modules[002].out" "modules[2].out" :=
    ⟨.modules, 2, ".out", by decide, by decide⟩
  obtain ⟨plain, hplain', hresolve, -⟩ := hcode _ _ hport
  obtain rfl := Option.some.inj (hplain'.symm.trans hplain)
  refine ⟨hplain, hresolve (by decide), ?_, ?_, ?_, ?_⟩
  · exact (hiff _ _ _).2 ⟨rfl, by decide, ⟨_, hport⟩, _, hplain, hrespells⟩
  · exact hside _ _ _ _ hport hplain hrespells .input (by decide)
  · obtain ⟨b, hb, hid, hpart⟩ :
        ∃ b ∈ Specimen.tangled.blocks, b.id = ⟨2⟩ ∧ b.part = .modules := by decide
    have herror := hlist b hb .sources (by rw [hpart]; decide) 1 "" .output
    rwa [hid] at herror
  · exact hname .sources (by decide) "0" "in" .output

end Pipeline

end Flowscript
