import Flowscript.Format.Catalog
import Flowscript.Json.Reader
import Flowscript.Json.Value

/-!
# Catalogs of formats as text

A catalog is an object whose field `formatDefs` lists entries, and each entry is an object with one
member: the name of a format and its body.

* `FormatCatalog.read` reads a catalog.
-/

set_option autoImplicit false

namespace Flowscript

open Json

/-- The body of an entry, all of whose fields may be left out. -/
structure FormatBody where
  colour : Colour
  suffix : String
  parent : Option String

namespace FormatBody

/-- Three levels from 0 to 255. -/
def colour? : Value → Option Colour
  | .array [r, g, b] => do
    some ⟨← r.naturalUpTo? 255, ← g.naturalUpTo? 255, ← b.naturalUpTo? 255⟩
  | _ => none

/-- Takes a body out of its value. -/
def ofValue? (v : Value) : Option FormatBody := do
  let fields ← v.record? ["color", "suffix", "extends"]
  let colour ← fields.withDefault? "color" .grey colour?
  let suffix ← fields.withDefault? "suffix" "" Value.string?
  let parent ← fields.withDefault? "extends" none (Value.nullable? Value.string?)
  some ⟨colour, suffix, parent⟩

/-- The format that a body defines; an empty parent is none. -/
def format (body : FormatBody) (name : String) : Format :=
  .define name body.suffix (body.parent.filter (!·.isEmpty)) body.colour

end FormatBody

/-- Puts a member into an object's members: a name that is there already keeps its place and gets
the new value. -/
def putMember {α : Type} (name : String) (value : α) : List (String × α) → List (String × α)
  | [] => [(name, value)]
  | m :: rest => if m.1 == name then (name, value) :: rest else m :: putMember name value rest

/-- Takes the members of an entry out of its value. -/
def entryMembers? (v : Value) : Option (List (String × FormatBody)) := do
  let members ← (← v.members?).mapM fun m => (FormatBody.ofValue? m.2).map (m.1, ·)
  some (members.foldl (fun kept m => putMember m.1 m.2 kept) [])

/-- The formats of entries that define one each. -/
def formatsOfEntries : List (List (String × FormatBody)) → Except FormatError (List Format)
  | [] => .ok []
  | [(name, body)] :: rest => do .ok (body.format name :: (← formatsOfEntries rest))
  | entry :: _ => .error (.entryNames entry.length)

/-- Reads a catalog of formats. -/
def FormatCatalog.read (text : String) : Except FormatError FormatCatalog := do
  let entries := do
    let fields ← (← Json.read? text).record? ["formatDefs"]
    fields.required? "formatDefs" (Value.list? entryMembers?)
  match entries with
  | none => .error .unreadable
  | some entries => FormatCatalog.ofDefinitions (← formatsOfEntries entries)

end Flowscript
