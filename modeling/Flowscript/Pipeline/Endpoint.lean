import Flowscript.Pipeline.Basic
import Flowscript.Text.Basic

/-!
# Endpoints

A document names the two ends of a connection by texts: `sources[3]`, `sinks[4]` or
`modules[5].name`, with the number of the block and, for a module, the name of the port.

* `Endpoint.parse?` takes such a text apart.
* `Pipeline.endpoint?` is the text of a port.
* `Pipeline.resolve` is the port of a text, on the side of the block that is asked for.
-/

set_option autoImplicit false

namespace Flowscript

/-- What is wrong with the text of an endpoint. -/
inductive EndpointFault where
  | form
  | number (error : IdentifierError)
  | noSuchPort
  | mismatch
  deriving DecidableEq, Repr

/-- The wording of a fault. -/
def EndpointFault.message : EndpointFault → String
  | .form => "expected sources[id], sinks[id] or modules[id].port"
  | .number error => error.message
  | .noSuchPort => "module has no such port"
  | .mismatch => "endpoint does not match the block kind or direction"

/-- What can go wrong with a pipeline document. -/
inductive DocumentError where
  /-- The text does not have the shape of a document. -/
  | malformed
  | badEndpoint (text : String) (fault : EndpointFault)
  | edit (error : EditError)
  /-- The file cannot be read or written. -/
  | inaccessible (path : String)
  deriving DecidableEq, Repr

/-- The wording of an error. -/
def DocumentError.message : DocumentError → String
  | .malformed => "Malformed pipeline document"
  | .badEndpoint text fault =>
    "Invalid connection endpoint " ++ Text.quoted text ++ ": " ++ fault.message
  | .edit error => error.message
  | .inaccessible path => "I/O error on " ++ path

/-- The list of a document that a block is in. -/
inductive Section where
  | sources
  | sinks
  | modules
  deriving DecidableEq, Repr

/-- The word for a list of a document. -/
def Section.text : Section → String
  | .sources => "sources"
  | .sinks => "sinks"
  | .modules => "modules"

/-- The text of an endpoint taken apart: the list, the digits of the number, and the name. -/
structure Endpoint where
  part : Section
  digits : String
  port : Option String
  deriving DecidableEq, Repr

namespace Endpoint

/-- The list that a text starts with, and what follows its opening bracket. -/
def section? (cs : List Char) : Option (Section × List Char) :=
  [Section.sources, .sinks, .modules].findSome? fun s =>
    (Text.dropPattern? (s.text ++ "[").toList cs).map (s, ·)

/-- The name after the closing bracket: none at the end of the text, and else what follows a
point, on one line. -/
def port? : List Char → Option (Option String)
  | [] => some none
  | '.' :: c :: cs =>
    if (c :: cs).contains '\n' then none else some (some (String.ofList (c :: cs)))
  | _ => none

/-- Takes the text of an endpoint apart. -/
def parse? (text : String) : Option Endpoint := do
  let (part, cs) ← section? text.toList
  let digits := cs.takeWhile Text.isDecimalDigit
  if digits.isEmpty then none
  else
    match cs.dropWhile Text.isDecimalDigit with
    | ']' :: rest => do some ⟨part, String.ofList digits, ← port? rest⟩
    | _ => none

end Endpoint

/-- The text of a port of a block.  Sources and sinks have one port, which needs no name. -/
def Block.endpoint? (b : Block) (side : Side) (index : Nat) : Option String :=
  match b.kind with
  | .source _ _ => some ("sources[" ++ b.id.text ++ "]")
  | .sink _ _ => some ("sinks[" ++ b.id.text ++ "]")
  | .module _ _ _ => do
    let port ← b.port? side index
    some ("modules[" ++ b.id.text ++ "]." ++ port.parameter.name)

namespace Pipeline

/-- The text of a port. -/
def endpoint? (p : Pipeline) (ref : PortRef) : Option String := do
  (← p.block? ref.block).endpoint? ref.side ref.index

/-- The port of a text on the given side of its block. -/
def resolve (p : Pipeline) (text : String) (side : Side) : Except DocumentError PortRef :=
  match Endpoint.parse? text with
  | none => .error (.badEndpoint text .form)
  | some e =>
    match BlockId.read e.digits with
    | .error error => .error (.badEndpoint text (.number error))
    | .ok id =>
      match p.block? id with
      | none => .error (.edit (.unknownBlock id))
      | some b =>
        match e.part, side, e.port, b.kind with
        | .sources, .output, none, .source _ _ => .ok (.output id 0)
        | .sinks, .input, none, .sink _ _ => .ok (.input id 0)
        | .modules, side, some name, .module _ _ _ =>
          match (b.ports side).findIdx? (·.parameter.name == name) with
          | some index => .ok ⟨id, side, index⟩
          | none => .error (.badEndpoint text .noSuchPort)
        | _, _, _, _ => .error (.badEndpoint text .mismatch)

end Pipeline

end Flowscript
