import Flowscript.Proofs.Template
import Flowscript.Toolbox
import Mathlib.Data.List.Nodup

/-!
# Toolboxes that are built up

A toolbox starts with a catalog of formats and no modules, and modules are registered one after the
other.  So the formats of all ports are known, and no two modules have the same name.

* `Toolbox.Built` says that a toolbox came about in this way.
* `Toolbox.Built.contains_format` and `Toolbox.Built.get?_of_mem` are the two consequences.
* `ModuleDef.IsDefined` says that a module was made by `ModuleDef.define`, which makes its ports
  distinct (`ModuleDef.IsDefined.nodup_names`) and their names plain, and `ModuleDef.isDefined_of`
  when there is nothing in the way of that.
* `ModuleDef.IsDefined.exists_port_of_mem_slots` says that the slots of a command are ports.
* `FormatCatalog.IsDefined` says the same of formats and `Format.define`.
* `ModuleDef.IsDefined.of_moduleOfText` and `FormatCatalog.IsDefined.of_read` are about what is read
  from files.
-/

set_option autoImplicit false

namespace Flowscript

namespace Toolbox

/-- The toolboxes that registering modules leads to. -/
inductive Built : Toolbox → Prop
  | bare (name : String) (directory : Option String) (formats : FormatCatalog)
      (about : Option String) : Built ⟨name, directory, formats, [], about⟩
  | register {t t' : Toolbox} {m : ModuleDef} (h : Built t) (hr : t.register m = .ok t') : Built t'

theorem register_eq_ok {t t' : Toolbox} {m : ModuleDef} (h : t.register m = .ok t') :
    t.get? m.name = none ∧ (∀ port ∈ m.ports, t.formats.contains port.format = true) ∧
      t' = { t with modules := t.modules ++ [m] } := by
  rw [register] at h
  split at h
  · cases h
  · rename_i hname
    split at h
    · cases h
    · rename_i hports
      rw [List.find?_eq_none] at hports
      refine ⟨by simpa using hname, fun port hp => ?_, (Except.ok.inj h).symm⟩
      simpa using hports port hp

theorem mem_of_get? {t : Toolbox} {name : String} {m : ModuleDef} (h : t.get? name = some m) :
    m ∈ t.modules ∧ m.name = name :=
  ⟨List.mem_of_find?_eq_some h, by simpa using List.find?_some h⟩

theorem module_eq_ok_iff {t : Toolbox} {name : String} {m : ModuleDef} :
    t.module name = .ok m ↔ t.get? name = some m := by
  rw [module]
  cases t.get? name <;> simp

namespace Built

/-- **The formats of all ports are known.** -/
theorem contains_format {t : Toolbox} (h : Built t) :
    ∀ m ∈ t.modules, ∀ port ∈ m.ports, t.formats.contains port.format = true := by
  induction h with
  | bare => simp
  | register _ hr ih =>
    obtain ⟨-, hports, rfl⟩ := register_eq_ok hr
    intro m hm
    rcases List.mem_append.1 hm with hm | hm
    · exact ih m hm
    · rw [List.mem_singleton.1 hm]
      exact hports

theorem nodup_names {t : Toolbox} (h : Built t) : (t.modules.map (·.name)).Nodup := by
  induction h with
  | bare => simp
  | register _ hr ih =>
    obtain ⟨hname, -, rfl⟩ := register_eq_ok hr
    rw [get?, List.find?_eq_none] at hname
    rw [List.map_append, List.nodup_append]
    refine ⟨ih, by simp, ?_⟩
    simp only [List.mem_map, List.map_cons, List.map_nil, List.mem_singleton]
    rintro name ⟨m, hm, rfl⟩ name' rfl
    simpa using hname m hm

/-- **A module is found under its name.** -/
theorem get?_of_mem {t : Toolbox} (h : Built t) {m : ModuleDef} (hm : m ∈ t.modules) :
    t.get? m.name = some m := by
  cases hg : t.get? m.name with
  | none =>
    rw [get?, List.find?_eq_none] at hg
    simpa using hg m hm
  | some other =>
    obtain ⟨ho, hname⟩ := mem_of_get? hg
    rw [List.inj_on_of_nodup_map h.nodup_names ho hm hname]

end Built

end Toolbox

/-! ## Modules that were defined -/

namespace ModuleDef

/-- The module was made by `define`. -/
def IsDefined (m : ModuleDef) : Prop :=
  ∃ command, define m.name m.inputs m.outputs command = .ok m

theorem checkPorts_eq_ok {module : String} {passed : List String} {ports : List Parameter}
    (h : checkPorts module passed ports = .ok ()) :
    (∀ port ∈ ports, Text.isPlainName port.name = true) ∧
      (∀ port ∈ ports, port.name ∉ passed) ∧ (ports.map (·.name)).Nodup := by
  induction ports generalizing passed with
  | nil => simp
  | cons p rest ih =>
    rw [checkPorts] at h
    split at h
    · cases h
    · rename_i hplain
      split at h
      · cases h
      · rename_i hpassed
        obtain ⟨h1, h2, h3⟩ := ih h
        have hnew : p.name ∉ passed := by simpa using hpassed
        simp only [List.mem_cons, not_or] at h2
        refine ⟨?_, ?_, ?_⟩
        · simpa using ⟨by simpa using hplain, h1⟩
        · simpa using ⟨hnew, fun port hp => (h2 port hp).2⟩
        · rw [List.map_cons, List.nodup_cons, List.mem_map]
          exact ⟨fun ⟨port, hp, hname⟩ => (h2 port hp).1 hname, h3⟩

theorem IsDefined.checkPorts {m : ModuleDef} (h : m.IsDefined) :
    ModuleDef.checkPorts m.name [] m.ports = .ok () := by
  obtain ⟨command, h⟩ := h
  rw [define] at h
  rw [ports]
  cases hc : ModuleDef.checkPorts m.name [] (m.inputs ++ m.outputs) with
  | error e => rw [hc] at h; cases h
  | ok u => rfl

theorem IsDefined.isPlainName {m : ModuleDef} (h : m.IsDefined) :
    ∀ port ∈ m.ports, Text.isPlainName port.name = true :=
  (checkPorts_eq_ok h.checkPorts).1

/-- **The ports of a module have distinct names.** -/
theorem IsDefined.nodup_names {m : ModuleDef} (h : m.IsDefined) :
    (m.ports.map (·.name)).Nodup :=
  (checkPorts_eq_ok h.checkPorts).2.2

/-- A module is defined if its ports are in order and all have slots in its command. -/
theorem define_eq_self {m : ModuleDef} {command : String}
    (hc : ModuleDef.checkPorts m.name [] m.ports = .ok ())
    (ht : m.template = .parse command (m.ports.map (·.name)))
    (hs : ∀ port ∈ m.ports, m.template.slots.contains port.name = true) :
    define m.name m.inputs m.outputs command = .ok m := by
  have hnone : (sortNames (m.ports.map (·.name))).find?
      (fun name => !m.template.slots.contains name) = none := by
    rw [List.find?_eq_none]
    intro name hname
    rw [sortNames, List.mem_mergeSort] at hname
    obtain ⟨port, hport, rfl⟩ := List.mem_map.1 hname
    simpa using hs port hport
  rw [define]
  rw [ports] at hc ht hnone
  simp only [hc, ← ht, hnone, bind, Except.bind]

theorem isDefined_of {m : ModuleDef} {command : String}
    (hc : ModuleDef.checkPorts m.name [] m.ports = .ok ())
    (ht : m.template = .parse command (m.ports.map (·.name)))
    (hs : ∀ port ∈ m.ports, m.template.slots.contains port.name = true) : m.IsDefined :=
  ⟨command, define_eq_self hc ht hs⟩

theorem define_eq_ok {name command : String} {inputs outputs : List Parameter} {m : ModuleDef}
    (h : define name inputs outputs command = .ok m) :
    m.name = name ∧ m.inputs = inputs ∧ m.outputs = outputs ∧
      m.template = .parse command ((inputs ++ outputs).map (·.name)) := by
  rw [define] at h
  cases hc : ModuleDef.checkPorts name [] (inputs ++ outputs) with
  | error e =>
    rw [hc] at h
    cases h
  | ok u =>
    simp only [hc, bind, Except.bind] at h
    split at h
    · cases h
    · cases h
      exact ⟨rfl, rfl, rfl, rfl⟩

/-- The slots of a module are found among its ports. -/
theorem IsDefined.exists_template {m : ModuleDef} (h : m.IsDefined) :
    ∃ command, m.template = .parse command (m.ports.map (·.name)) := by
  obtain ⟨command, hdefine⟩ := h
  obtain ⟨-, -, -, htemplate⟩ := define_eq_ok hdefine
  exact ⟨command, htemplate⟩

/-- **Every slot of a module's command belongs to a port of the module.** -/
theorem IsDefined.exists_port_of_mem_slots {m : ModuleDef} (h : m.IsDefined) {name : String}
    (hname : name ∈ m.template.slots) : ∃ port ∈ m.ports, port.name = name := by
  obtain ⟨command, htemplate⟩ := h.exists_template
  rw [htemplate] at hname
  exact List.mem_map.1 (CommandTemplate.mem_ports_of_mem_slots hname)

/-- **A module that was read is defined.** -/
theorem IsDefined.of_moduleOfText {text file : String} {m : ModuleDef}
    (h : Toolbox.moduleOfText text file = .ok m) : m.IsDefined := by
  rw [Toolbox.moduleOfText] at h
  split at h
  · cases h
  · rename_i f _
    split at h
    · cases h
    · cases hd : define f.name f.inputs f.outputs f.command with
      | error e =>
        rw [hd] at h
        cases h
      | ok m' =>
        rw [hd] at h
        cases h
        obtain ⟨hname, hinputs, houtputs, -⟩ := define_eq_ok hd
        exact ⟨f.command, by rw [hname, hinputs, houtputs, hd]⟩

end ModuleDef

/-! ## Formats that were defined -/

namespace FormatCatalog

/-- The formats were made by `Format.define`. -/
def IsDefined (c : FormatCatalog) : Prop :=
  ∀ f ∈ c.formats, ∃ name suffix parent colour, f = Format.define name suffix parent colour

theorem formatsOfEntries_eq_ok {entries : List (List (String × FormatBody))}
    {formats : List Format} (h : formatsOfEntries entries = .ok formats) :
    ∀ f ∈ formats, ∃ name suffix parent colour, f = Format.define name suffix parent colour := by
  induction entries generalizing formats with
  | nil =>
    cases h
    simp
  | cons entry rest ih =>
    match entry with
    | [] => cases h
    | _ :: _ :: _ => cases h
    | [(name, body)] =>
      rw [formatsOfEntries] at h
      cases hrest : formatsOfEntries rest with
      | error e => simp [hrest, bind, Except.bind] at h
      | ok others =>
        simp only [hrest, bind, Except.bind, Except.ok.injEq] at h
        subst h
        intro f hf
        rcases List.mem_cons.1 hf with rfl | hf
        · exact ⟨name, body.suffix, _, body.colour, rfl⟩
        · exact ih hrest f hf

theorem ofDefinitions_eq_ok {definitions : List Format} {c : FormatCatalog}
    (h : ofDefinitions definitions = .ok c) : c.formats = definitions ++ [.arg] := by
  rw [ofDefinitions] at h
  cases hn : checkNames [] definitions with
  | error e =>
    rw [hn] at h
    cases h
  | ok u =>
    simp only [hn, bind, Except.bind] at h
    split at h
    · cases h
    · cases h
      rfl

/-- **A catalog that was read is defined.** -/
theorem IsDefined.of_read {text : String} {c : FormatCatalog} (h : read text = .ok c) :
    c.IsDefined := by
  rw [read] at h
  split at h
  · cases h
  · rename_i entries _
    cases hf : formatsOfEntries entries with
    | error e => simp [hf, bind, Except.bind] at h
    | ok formats =>
      simp only [hf, bind, Except.bind] at h
      intro f hmem
      rw [ofDefinitions_eq_ok h] at hmem
      rcases List.mem_append.1 hmem with hmem | hmem
      · exact formatsOfEntries_eq_ok hf f hmem
      · exact ⟨argFormat, "", none, .grey, List.mem_singleton.1 hmem⟩

end FormatCatalog

end Flowscript
