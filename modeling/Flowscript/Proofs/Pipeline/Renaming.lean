import Flowscript.Proofs.Pipeline.Reachability

/-!
# Pipelines that differ in their names

The name of a pipeline is kept for those who read it.  No edit looks at it, and neither does what
loads a document.

* `Pipeline.SameButName` compares two pipelines.
* `Pipeline.SameButName.edit` says that edits keep it.
* `Pipeline.sameOutcome_ofDocument` says that documents under two names lead to it.
-/

set_option autoImplicit false

namespace Flowscript

namespace Pipeline

/-- The pipeline under another name, with something left to be saved or not. -/
def labelled (p : Pipeline) (name : String) (unsaved : Bool) : Pipeline := { p with name, unsaved }

/-- Two pipelines differ in their names at most, and in whether something is left to be saved. -/
def SameButName (p q : Pipeline) : Prop := ∃ name unsaved, q = p.labelled name unsaved

/-- Two results of an edit are the same, with pipelines that differ in their names at most. -/
def SameResult {ε α : Type} (r r' : Except ε α × Pipeline) : Prop :=
  ∃ result p q, r = (result, p) ∧ r' = (result, q) ∧ p.SameButName q

variable {p q : Pipeline}

theorem SameResult.snd {ε α : Type} {r r' : Except ε α × Pipeline} (h : SameResult r r') :
    r.2.SameButName r'.2 := by
  obtain ⟨_, _, _, rfl, rfl, hlabel⟩ := h
  exact hlabel

theorem sameButName_empty (name name' : String) (toolbox : Toolbox) :
    (Pipeline.empty name toolbox).SameButName (.empty name' toolbox) :=
  ⟨name', false, rfl⟩

theorem sameButName_rename (p : Pipeline) (name : String) : p.SameButName (p.rename name) :=
  ⟨name, true, rfl⟩

namespace SameButName

theorem toolbox_eq (h : p.SameButName q) : q.toolbox = p.toolbox := by
  obtain ⟨name, unsaved, rfl⟩ := h
  rfl

theorem block?_eq (h : p.SameButName q) (id : BlockId) : q.block? id = p.block? id := by
  obtain ⟨name, unsaved, rfl⟩ := h
  rfl

/-- A refused edit leaves both pipelines as they are. -/
theorem refused {ε α : Type} (h : p.SameButName q) (e : ε) :
    SameResult ((.error e, p) : Except ε α × Pipeline) (.error e, q) :=
  ⟨.error e, p, q, rfl, rfl, h⟩

/-! ## Edits -/

theorem insert (h : p.SameButName q) (b : Block) : SameResult (p.insert b) (q.insert b) := by
  obtain ⟨name, unsaved, rfl⟩ := h
  have hblock : (p.labelled name unsaved).block? b.id = p.block? b.id := rfl
  rw [Pipeline.insert, Pipeline.insert, hblock]
  cases p.block? b.id with
  | none => exact ⟨_, _, _, rfl, rfl, name, true, rfl⟩
  | some _ => exact refused ⟨name, unsaved, rfl⟩ _

theorem insertNew (h : p.SameButName q) (make : BlockId → Block) :
    SameResult (p.insertNew make) (q.insertNew make) := by
  obtain ⟨name, unsaved, rfl⟩ := h
  have hids : Pipeline.SameButName { p with ids := p.ids.takeBlock.2 }
      ({ p with ids := p.ids.takeBlock.2 }.labelled name unsaved) := ⟨name, unsaved, rfl⟩
  obtain ⟨result, p', q', hp, hq, h'⟩ := hids.insert (make p.ids.takeBlock.1)
  rw [labelled] at hq
  simp only [Pipeline.insertNew, labelled, hp, hq]
  cases result with
  | error e => exact h'.refused e
  | ok a => exact ⟨_, _, _, rfl, rfl, h'⟩

theorem attach (h : p.SameButName q) (ref : PortRef) (id : ConnectionId) :
    SameResult (p.attach ref id) (q.attach ref id) := by
  obtain ⟨name, unsaved, rfl⟩ := h
  have hport : (p.labelled name unsaved).port ref = p.port ref := rfl
  rw [Pipeline.attach, Pipeline.attach, hport]
  cases p.port ref with
  | error e => exact refused ⟨name, unsaved, rfl⟩ e
  | ok _ => exact ⟨_, _, _, rfl, rfl, name, unsaved, rfl⟩

theorem join (h : p.SameButName q) (source target : PortRef) :
    SameResult (p.join source target) (q.join source target) := by
  obtain ⟨name, unsaved, rfl⟩ := h
  have hids : Pipeline.SameButName { p with ids := p.ids.takeConnection.2 }
      ({ p with ids := p.ids.takeConnection.2 }.labelled name unsaved) := ⟨name, unsaved, rfl⟩
  obtain ⟨result, p', q', hp, hq, h'⟩ := hids.attach source p.ids.takeConnection.1
  rw [labelled] at hq
  simp only [Pipeline.join, labelled, hp, hq]
  cases result with
  | error e => exact h'.refused e
  | ok _ =>
    obtain ⟨result, p'', q'', hp, hq, h''⟩ := h'.attach target p.ids.takeConnection.1
    simp only [hp, hq]
    cases result with
    | error e => exact h''.refused e
    | ok _ =>
      obtain ⟨name, unsaved, rfl⟩ := h''
      exact ⟨_, _, _, rfl, rfl, name, true, rfl⟩

theorem connect (h : p.SameButName q) (source target : PortRef) :
    SameResult (p.connect source target) (q.connect source target) := by
  have herror : q.connectError? source target = p.connectError? source target := by
    obtain ⟨name, unsaved, rfl⟩ := h
    rfl
  rw [Pipeline.connect, Pipeline.connect, herror]
  cases p.connectError? source target with
  | some e => exact h.refused e
  | none => exact h.join source target

theorem disconnect (h : p.SameButName q) (id : ConnectionId) :
    SameResult (p.disconnect id) (q.disconnect id) := by
  obtain ⟨name, unsaved, rfl⟩ := h
  have hfind : (p.labelled name unsaved).connection? id = p.connection? id := rfl
  rw [Pipeline.disconnect, Pipeline.disconnect, hfind]
  cases p.connection? id with
  | none => exact refused ⟨name, unsaved, rfl⟩ _
  | some c => exact ⟨_, _, _, rfl, rfl, name, true, rfl⟩

theorem disconnectAll (ids : List ConnectionId) :
    ∀ {p q : Pipeline}, p.SameButName q →
      SameResult (p.disconnectAll ids) (q.disconnectAll ids) := by
  induction ids with
  | nil => exact fun h => ⟨_, _, _, rfl, rfl, h⟩
  | cons id rest ih =>
    intro p q h
    obtain ⟨result, p', q', hp, hq, h'⟩ := h.disconnect id
    simp only [Pipeline.disconnectAll, hp, hq]
    cases result with
    | error e => exact h'.refused e
    | ok _ => exact ih h'

theorem delete (h : p.SameButName q) (id : BlockId) :
    SameResult (p.delete id) (q.delete id) := by
  rw [Pipeline.delete, Pipeline.delete, h.block?_eq id]
  cases p.block? id with
  | none => exact h.refused _
  | some b =>
    obtain ⟨result, p', q', hp, hq, h'⟩ := disconnectAll b.touching h
    simp only [hp, hq]
    cases result with
    | error e => exact h'.refused e
    | ok _ =>
      simp only [h'.block?_eq id]
      cases p'.block? id with
      | none => exact h'.refused _
      | some b =>
        obtain ⟨name, unsaved, rfl⟩ := h'
        exact ⟨_, _, _, rfl, rfl, name, true, rfl⟩

theorem move (h : p.SameButName q) (id : BlockId) (position : Position) :
    SameResult (p.move id position) (q.move id position) := by
  obtain ⟨name, unsaved, rfl⟩ := h
  have hblock : (p.labelled name unsaved).block? id = p.block? id := rfl
  rw [Pipeline.move, Pipeline.move, hblock]
  cases p.block? id with
  | none => exact refused ⟨name, unsaved, rfl⟩ _
  | some _ => exact ⟨_, _, _, rfl, rfl, name, true, rfl⟩

/-- **An edit does not look at the name.** -/
theorem edit (h : p.SameButName q) (e : Edit) : (p.edit e).SameButName (q.edit e) := by
  have htool := h.toolbox_eq
  have hcheck : ∀ f, q.checkFormat f = p.checkFormat f := by
    intro f
    rw [checkFormat, checkFormat, htool]
  cases e with
  | addSource column parameter position =>
    rw [Pipeline.edit, Pipeline.edit, addSource, addSource, hcheck]
    cases p.checkFormat parameter.format with
    | error e => exact h
    | ok _ => exact (h.insertNew fun id => .source id column parameter position).snd
  | addSink column parameter position =>
    rw [Pipeline.edit, Pipeline.edit, addSink, addSink, hcheck]
    cases p.checkFormat parameter.format with
    | error e => exact h
    | ok _ => exact (h.insertNew fun id => .sink id column parameter position).snd
  | addModule name position =>
    rw [Pipeline.edit, Pipeline.edit, addModule, addModule, htool]
    cases p.toolbox.module name with
    | error e => exact h
    | ok definition => exact (h.insertNew fun id => .ofModule id definition position).snd
  | connect source target => exact (h.connect source target).snd
  | disconnect id => exact (h.disconnect id).snd
  | delete id => exact (h.delete id).snd
  | move id position => exact (h.move id position).snd
  | rename name =>
    obtain ⟨_, _, rfl⟩ := h
    exact ⟨name, true, rfl⟩
  | markSaved =>
    obtain ⟨name, _, rfl⟩ := h
    exact ⟨name, false, rfl⟩

end SameButName

/-! ## Documents -/

/-- Two documents fail alike, or lead to pipelines that differ in their names at most. -/
inductive SameOutcome : Except DocumentError Pipeline → Except DocumentError Pipeline → Prop
  | error (e : DocumentError) : SameOutcome (.error e) (.error e)
  | ok {p q : Pipeline} (h : p.SameButName q) : SameOutcome (.ok p) (.ok q)

theorem SameOutcome.bind {r r' : Except DocumentError Pipeline} (h : SameOutcome r r')
    {f g : Pipeline → Except DocumentError Pipeline}
    (hfg : ∀ p q, p.SameButName q → SameOutcome (f p) (g q)) :
    SameOutcome (r >>= f) (r' >>= g) := by
  cases h with
  | error e => exact .error e
  | ok h => exact hfg _ _ h

namespace SameButName

theorem restore (h : p.SameButName q) (b : Block) : SameResult (p.restore b) (q.restore b) := by
  have hcheck : ∀ formats, q.checkFormats formats = p.checkFormats formats := by
    intro formats
    induction formats with
    | nil => rfl
    | cons f rest ih => rw [checkFormats, checkFormats, checkFormat, h.toolbox_eq, ih, checkFormat]
  rw [Pipeline.restore, Pipeline.restore, hcheck]
  cases p.checkFormats ((b.inputs ++ b.outputs).map (·.format)) with
  | error e => exact h.refused e
  | ok _ => exact h.insert b

theorem restoreAll (bs : List Block) :
    ∀ {p q : Pipeline}, p.SameButName q → SameOutcome (p.restoreAll bs) (q.restoreAll bs) := by
  induction bs with
  | nil => exact fun h => .ok h
  | cons b rest ih =>
    intro p q h
    obtain ⟨result, p', q', hp, hq, h'⟩ := h.restore b
    simp only [Pipeline.restoreAll, hp, hq]
    cases result with
    | error e => exact .error _
    | ok _ => exact ih h'

theorem restoreModules (ms : List ModuleEntry) :
    ∀ {p q : Pipeline}, p.SameButName q →
      SameOutcome (p.restoreModules ms) (q.restoreModules ms) := by
  induction ms with
  | nil => exact fun h => .ok h
  | cons m rest ih =>
    intro p q h
    rw [Pipeline.restoreModules, Pipeline.restoreModules, h.toolbox_eq]
    cases p.toolbox.module m.name with
    | error e => exact .error _
    | ok definition =>
      obtain ⟨result, p', q', hp, hq, h'⟩ := h.restore (.ofModule m.id definition m.position)
      simp only [hp, hq]
      cases result with
      | error e => exact .error _
      | ok _ => exact ih h'

theorem restoreConnections (cs : List ConnectionEntry) :
    ∀ {p q : Pipeline}, p.SameButName q →
      SameOutcome (p.restoreConnections cs) (q.restoreConnections cs) := by
  induction cs with
  | nil => exact fun h => .ok h
  | cons c rest ih =>
    intro p q h
    have hresolve : ∀ text side, q.resolve text side = p.resolve text side := by
      intro text side
      simp only [resolve, h.block?_eq]
    rw [Pipeline.restoreConnections, Pipeline.restoreConnections, hresolve, hresolve]
    cases p.resolve c.start .output with
    | error e => exact .error e
    | ok source =>
      cases p.resolve c.stop .input with
      | error e => exact .error e
      | ok target =>
        obtain ⟨result, p', q', hp, hq, h'⟩ := h.connect source target
        simp only [bind, Except.bind, hp, hq]
        cases result with
        | error e => exact .error _
        | ok _ => exact ih h'

end SameButName

/-- **A document under another name loads as before.** -/
theorem sameOutcome_ofDocument (d : PipelineDocument) (name : String) (toolbox : Toolbox) :
    SameOutcome (ofDocument d toolbox) (ofDocument { d with name } toolbox) := by
  refine (SameButName.restoreAll _ (sameButName_empty d.name name toolbox)).bind fun _ _ h => ?_
  refine (h.restoreAll _).bind fun _ _ h => ?_
  refine (h.restoreModules _).bind fun _ _ h => ?_
  refine (h.restoreConnections _).bind fun _ _ h => ?_
  obtain ⟨name, unsaved, rfl⟩ := h
  exact .ok ⟨name, false, rfl⟩

end Pipeline

end Flowscript
