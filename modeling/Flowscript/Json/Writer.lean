import Flowscript.Text.Quoted
import Flowscript.Json.Value

/-!
# Writing JSON

* `Value.compact` writes a value on one line without gaps.
* `Value.pretty` writes one item or member per line, two spaces deeper than its bracket; an empty
  array or object stays on its line.
-/

set_option autoImplicit false

namespace Flowscript.Json

/-- How a character is written in a text. -/
def writtenChar (c : Char) : String :=
  match c with
  | '\x22' => "\\\""
  | '\\' => "\\\\"
  | '\x08' => "\\b"
  | '\x0c' => "\\f"
  | '\n' => "\\n"
  | '\r' => "\\r"
  | '\t' => "\\t"
  | c =>
    if c.toNat < 0x10 then "\\u000" ++ Text.hexadecimal c.toNat
    else if c.toNat < 0x20 then "\\u00" ++ Text.hexadecimal c.toNat
    else c.toString

/-- A text between quotes. -/
def writtenText (s : String) : String := "\"" ++ String.join (s.toList.map writtenChar) ++ "\""

/-- A text between quotes; an ill-formed one has nothing to write. -/
def writtenContent (s : Option String) : String := writtenText (s.getD "")

mutual

/-- The value on one line without gaps. -/
def Value.compact : Value → String
  | .null => "null"
  | .bool b => if b then "true" else "false"
  | .number n => n.spelling
  | .text s => writtenContent s
  | .array items => "[" ++ String.intercalate "," (compactItems items) ++ "]"
  | .object members => "\x7b" ++ String.intercalate "," (compactMembers members) ++ "\x7d"

/-- The items of an array, each on one line. -/
def compactItems : List Value → List String
  | [] => []
  | v :: vs => v.compact :: compactItems vs

/-- The members of an object, each on one line. -/
def compactMembers : List (Option String × Value) → List String
  | [] => []
  | (name, v) :: rest => (writtenContent name ++ ":" ++ v.compact) :: compactMembers rest

end

/-- Two spaces for each level. -/
def indentation (depth : Nat) : String := String.ofList (List.replicate (2 * depth) ' ')

/-- Lines between brackets, each one level deeper than `depth`. -/
def bracketed (opening closing : String) (depth : Nat) (lines : List String) : String :=
  if lines.isEmpty then opening ++ closing
  else
    let inner := "\n" ++ indentation (depth + 1)
    opening ++ inner ++ String.intercalate ("," ++ inner) lines
      ++ "\n" ++ indentation depth ++ closing

mutual

/-- The value with one item or member per line, its first line already indented. -/
def Value.prettyAt (depth : Nat) : Value → String
  | .null => "null"
  | .bool b => if b then "true" else "false"
  | .number n => n.spelling
  | .text s => writtenContent s
  | .array items => bracketed "[" "]" depth (prettyItems (depth + 1) items)
  | .object members => bracketed "\x7b" "\x7d" depth (prettyMembers (depth + 1) members)

/-- The items of an array, one string each. -/
def prettyItems (depth : Nat) : List Value → List String
  | [] => []
  | v :: vs => v.prettyAt depth :: prettyItems depth vs

/-- The members of an object, one string each. -/
def prettyMembers (depth : Nat) : List (Option String × Value) → List String
  | [] => []
  | (name, v) :: rest =>
    (writtenContent name ++ ": " ++ v.prettyAt depth) :: prettyMembers depth rest

end

/-- The value with one item or member per line. -/
def Value.pretty (v : Value) : String := v.prettyAt 0

end Flowscript.Json
