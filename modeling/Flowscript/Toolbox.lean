import Flowscript.Format.Reading
import Flowscript.Module.Definition
import Flowscript.Path

/-!
# Toolboxes

A toolbox holds the formats and the modules that pipelines are made of.

* `Toolbox.register` adds a module whose formats are known.
* `Toolbox.moduleOfText` reads the definition of a module.
* `Toolbox.pipelinesPath?` and `Toolbox.analysisPath?` are the places of a toolbox on disk.
-/

set_option autoImplicit false

namespace Flowscript

open Json

/-- What can go wrong with a toolbox. -/
inductive ToolboxError where
  | catalog (error : FormatError)
  | definition (error : ModuleError)
  | unknownFormat (module parameter format : String)
  | duplicateModule (name : String)
  /-- A file does not have the shape of a module. -/
  | unreadableModule (file : String)
  /-- A file gives a module no name. -/
  | namelessModule (file : String)
  | unknownModule (name : String)
  /-- A file or directory cannot be read. -/
  | unreadable (path : String)
  deriving DecidableEq, Repr

/-- The wording of an error. -/
def ToolboxError.message : ToolboxError → String
  | .catalog error => error.message
  | .definition error => error.message
  | .unknownFormat module parameter format =>
    "Parameter '" ++ parameter ++ "' of module '" ++ module ++ "' uses unknown format '"
      ++ format ++ "'"
  | .duplicateModule name => "Duplicate module definition: " ++ name
  | .unreadableModule file => "Invalid module definition in " ++ file
  | .namelessModule file => "Invalid module definition in " ++ file ++ ": moduleName is empty"
  | .unknownModule name => "Module not found: " ++ name
  | .unreadable path => "I/O error on " ++ path

/-- Formats and modules, with a description and a directory if the toolbox was loaded from one. -/
structure Toolbox where
  name : String
  directory : Option String
  formats : FormatCatalog
  modules : List ModuleDef
  about : Option String
  deriving DecidableEq, Repr

/-- Takes the declaration of a port out of its value. -/
def Parameter.ofValue? (v : Value) : Option Parameter := do
  let fields ← v.record? ["name", "format", "required"]
  let name ← fields.required? "name" Value.string?
  let format ← fields.required? "format" Value.string?
  let required ← fields.required? "required" Value.bool?
  some ⟨name, format, required⟩

/-- The declaration of a port as a value. -/
def Parameter.value (p : Parameter) : Value :=
  .ofMembers [("name", .ofString p.name), ("format", .ofString p.format),
    ("required", .bool p.required)]

/-- A module as its file gives it. -/
structure ModuleFile where
  name : String
  command : String
  inputs : List Parameter
  outputs : List Parameter

/-- Takes a module out of the value of its file. -/
def ModuleFile.ofValue? (v : Value) : Option ModuleFile := do
  let fields ← v.record? ["moduleName", "enclosedCommand", "inputs", "outputs"]
  let name ← fields.required? "moduleName" Value.string?
  let command ← fields.required? "enclosedCommand" Value.string?
  let inputs ← fields.withDefault? "inputs" [] (Value.list? Parameter.ofValue?)
  let outputs ← fields.withDefault? "outputs" [] (Value.list? Parameter.ofValue?)
  some ⟨name, command, inputs, outputs⟩

namespace Toolbox

/-- A toolbox without modules, description and directory. -/
def ofFormats (name : String) (formats : FormatCatalog) : Toolbox := ⟨name, none, formats, [], none⟩

/-- Reads the definition of a module; `file` is named in errors. -/
def moduleOfText (text file : String) : Except ToolboxError ModuleDef :=
  match (Json.read? text).bind ModuleFile.ofValue? with
  | none => .error (.unreadableModule file)
  | some m =>
    if (Text.trim m.name).isEmpty then .error (.namelessModule file)
    else (ModuleDef.define m.name m.inputs m.outputs m.command).mapError .definition

/-- The module of a name. -/
def get? (t : Toolbox) (name : String) : Option ModuleDef := t.modules.find? (·.name == name)

/-- The module of a name, which has to be there. -/
def module (t : Toolbox) (name : String) : Except ToolboxError ModuleDef :=
  match t.get? name with
  | some m => .ok m
  | none => .error (.unknownModule name)

/-- Adds a module.  Its name must be new, and the formats of its ports known. -/
def register (t : Toolbox) (m : ModuleDef) : Except ToolboxError Toolbox :=
  if (t.get? m.name).isSome then .error (.duplicateModule m.name)
  else
    match m.ports.find? fun p => !t.formats.contains p.format with
    | some p => .error (.unknownFormat m.name p.name p.format)
    | none => .ok { t with modules := t.modules ++ [m] }

/-- The directory of saved pipelines. -/
def pipelinesPath? (t : Toolbox) : Option String := t.directory.map (Path.join · "pipelines")

/-- The directory in which an analysis of the given name leaves its files. -/
def analysisPath? (t : Toolbox) (analysis : String) : Option String :=
  t.directory.map fun d => Path.join (Path.join d "data") analysis

end Toolbox

end Flowscript
