import Flowscript.Format.Catalog
import Flowscript.Module.Template
import Flowscript.Text.Replace

/-!
# Modules

A module is a command with named input and output ports.  The command has at least one slot for
each port.

* `Parameter` declares a port.
* `ModuleDef.define` checks the ports against the command.
* `ModuleDef.summary` shows a module to a reader.
-/

set_option autoImplicit false

namespace Flowscript

/-- A declared port: its name, the name of its format, and whether it has to be connected. -/
structure Parameter where
  name : String
  format : String
  required : Bool
  deriving DecidableEq, Repr

/-- Whether the port carries text in place of a file. -/
def Parameter.isArg (p : Parameter) : Bool := p.format == argFormat

/-- A module: its name, its ports in order, and its command. -/
structure ModuleDef where
  name : String
  inputs : List Parameter
  outputs : List Parameter
  template : CommandTemplate
  deriving DecidableEq, Repr

/-- What is wrong with the definition of a module. -/
inductive ModuleError where
  | invalidPortName (module port : String)
  | duplicatePort (module port : String)
  | missingPlaceholder (module port : String)
  deriving DecidableEq, Repr

/-- The wording of an error. -/
def ModuleError.message : ModuleError → String
  | .invalidPortName module port =>
    "Module '" ++ module ++ "' declares port '" ++ port
      ++ "'; port names may only use letters, digits, '_', '.' and '-'"
  | .duplicatePort module port =>
    "Module '" ++ module ++ "' declares port '" ++ port ++ "' more than once"
  | .missingPlaceholder module port =>
    "Module '" ++ module ++ "' command has no \x7b" ++ port ++ "\x7d placeholder"

namespace ModuleDef

/-- The input ports and then the output ports. -/
def ports (m : ModuleDef) : List Parameter := m.inputs ++ m.outputs

/-- Checks the names of ports, given the names that come before them. -/
def checkPorts (module : String) (passed : List String) : List Parameter → Except ModuleError Unit
  | [] => .ok ()
  | p :: rest =>
    if !Text.isPlainName p.name then .error (.invalidPortName module p.name)
    else if passed.contains p.name then .error (.duplicatePort module p.name)
    else checkPorts module (p.name :: passed) rest

/-- Names in the order of their characters. -/
def sortNames (names : List String) : List String :=
  names.mergeSort fun a b => decide (a ≤ b)

/-- A module whose ports have distinct plain names and slots in the command.  Of several ports
without a slot the error names the first in the order of characters. -/
def define (name : String) (inputs outputs : List Parameter) (command : String) :
    Except ModuleError ModuleDef := do
  checkPorts name [] (inputs ++ outputs)
  let names := (inputs ++ outputs).map (·.name)
  let template := CommandTemplate.parse command names
  match (sortNames names).find? fun p => !template.slots.contains p with
  | some port => .error (.missingPlaceholder name port)
  | none => .ok ⟨name, inputs, outputs, template⟩

/-- How the summary shows a port: `<name>` when it is required, else `[name]`. -/
def mark (p : Parameter) : String :=
  if p.required then "<" ++ p.name ++ ">" else "[" ++ p.name ++ "]"

/-- Shows one port after the other in a command. -/
def showPorts (command : List Char) : List Parameter → List Char
  | [] => command
  | p :: rest =>
    showPorts (Text.replaceAll '\x7b' (p.name.toList ++ ['\x7d']) (mark p).toList command) rest

/-- The name and, in single quotes, the command with its ports shown. -/
def summary (m : ModuleDef) : String :=
  m.name ++ " '" ++ String.ofList (showPorts m.template.source.toList m.ports) ++ "'"

end ModuleDef

end Flowscript
