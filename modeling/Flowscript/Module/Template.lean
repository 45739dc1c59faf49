import Flowscript.Text.Basic

/-!
# Command templates

A command has slots: the name of a port in braces.  Anything else in braces is text, so commands
may use braces of their own.

* `CommandTemplate.parse` finds the slots.
* `CommandTemplate.slots` are their names, in order and with repeats.
* `CommandTemplate.fill` puts a value into every slot at once.
-/

set_option autoImplicit false

namespace Flowscript

/-- A piece of a command: one character, or a slot for the value of a port. -/
inductive Piece where
  | char (c : Char)
  | slot (name : String)
  deriving DecidableEq, Repr

/-- A slot without a value. -/
inductive TemplateError where
  | unresolved (name : String)
  deriving DecidableEq, Repr

/-- The wording of an error. -/
def TemplateError.message : TemplateError → String
  | .unresolved name => "Unresolved placeholder \x7b" ++ name ++ "\x7d"

/-- A command with the slots found in it. -/
structure CommandTemplate where
  source : String
  pieces : List Piece
  deriving DecidableEq, Repr

namespace CommandTemplate

/-- The name and the rest of a text that stood after an opening brace, where the text is a name, a
closing brace and the rest. -/
def placeholder? (cs : List Char) : Option (String × List Char) :=
  match cs.takeWhile Text.isNameChar, cs.dropWhile Text.isNameChar with
  | [], _ => none
  | name, '\x7d' :: rest => some (String.ofList name, rest)
  | _, _ => none

theorem length_of_placeholder? {cs rest : List Char} {name : String}
    (h : placeholder? cs = some (name, rest)) : rest.length < cs.length := by
  have hle : (cs.dropWhile Text.isNameChar).length ≤ cs.length :=
    (List.dropWhile_suffix _).length_le
  simp only [placeholder?] at h
  split at h
  · simp at h
  · rename_i hrest _
    simp only [Option.some.injEq, Prod.mk.injEq] at h
    rw [hrest, h.2, List.length_cons] at hle
    omega
  · simp at h

/-- The slot at the start of a text: a known name in braces, and what follows it. -/
def slot? (ports : List String) : List Char → Option (String × List Char)
  | '\x7b' :: cs =>
    match placeholder? cs with
    | some (name, rest) => if ports.contains name then some (name, rest) else none
    | none => none
  | _ => none

theorem length_of_slot? {ports : List String} {cs rest : List Char} {name : String}
    (h : slot? ports cs = some (name, rest)) : rest.length < cs.length := by
  unfold slot? at h
  split at h
  · rename_i cs'
    split at h
    · rename_i name' rest' hp
      split at h
      · simp only [Option.some.injEq, Prod.mk.injEq] at h
        have := length_of_placeholder? hp
        simp only [List.length_cons, ← h.2]
        omega
      · simp at h
    · simp at h
  · simp at h

/-- The pieces of a text, from left to right. -/
def scan (ports : List String) (cs : List Char) : List Piece :=
  match h : slot? ports cs with
  | some (name, rest) =>
    have := length_of_slot? h
    .slot name :: scan ports rest
  | none =>
    match cs with
    | [] => []
    | c :: cs => .char c :: scan ports cs
termination_by cs.length
decreasing_by all_goals simp_all

/-- Finds the slots of a command: the names of ports in braces. -/
def parse (source : String) (ports : List String) : CommandTemplate :=
  ⟨source, scan ports source.toList⟩

/-- The names of the slots, in order and with repeats. -/
def slots (t : CommandTemplate) : List String :=
  t.pieces.filterMap fun
    | .slot name => some name
    | .char _ => none

/-- The text of a piece. -/
def fillPiece (value : String → Option String) : Piece → Except TemplateError (List Char)
  | .char c => .ok [c]
  | .slot name =>
    match value name with
    | some text => .ok text.toList
    | none => .error (.unresolved name)

/-- The text of pieces one after the other; the first slot without a value is an error. -/
def fillPieces (value : String → Option String) : List Piece → Except TemplateError (List Char)
  | [] => .ok []
  | p :: ps => do .ok ((← fillPiece value p) ++ (← fillPieces value ps))

/-- The command with a value in every slot.  Values are not looked at for slots. -/
def fill (t : CommandTemplate) (value : String → Option String) : Except TemplateError String := do
  .ok (String.ofList (← fillPieces value t.pieces))

end CommandTemplate

end Flowscript
