import Flowscript.Json.Value

/-!
# Reading JSON

The grammar is the strict one: no byte order mark, comment, trailing comma, leading zero, raw
control character or trailing text.

* `read?` gives the value that a whole text spells.
-/

set_option autoImplicit false

namespace Flowscript.Json

/-- The four characters that may stand between the parts of a value. -/
def isGap (c : Char) : Bool := c == ' ' || c == '\t' || c == '\n' || c == '\r'

/-- A text after its leading gap. -/
def skipGap (cs : List Char) : List Char := cs.dropWhile isGap

theorem skipGap_append {gap cs : List Char} (h : ∀ c ∈ gap, isGap c = true) :
    skipGap (gap ++ cs) = skipGap cs :=
  List.dropWhile_append_of_pos h

/-- The value of a hexadecimal digit. -/
def hexDigit? (c : Char) : Option Nat :=
  if c.isDigit then some (c.toNat - '0'.toNat)
  else if 'a' ≤ c && c ≤ 'f' then some (c.toNat - 'a'.toNat + 10)
  else if 'A' ≤ c && c ≤ 'F' then some (c.toNat - 'A'.toNat + 10)
  else none

/-- The value of four hexadecimal digits. -/
def hexUnit? (a b c d : Char) : Option Nat := do
  some (((← hexDigit? a) * 16 + (← hexDigit? b)) * 256 + (← hexDigit? c) * 16 + (← hexDigit? d))

/-- A text being read: what it holds so far, last character first, unless it is ill-formed, and
the first half of a surrogate pair that still waits for the second. -/
structure Draft where
  content : Option (List Char)
  half : Option Nat

namespace Draft

/-- The draft of the empty text. -/
def empty : Draft := ⟨some [], none⟩

/-- A half that still waits makes the text ill-formed. -/
def settle (d : Draft) : Draft := if d.half.isSome then ⟨none, none⟩ else d

/-- Adds a character. -/
def push (d : Draft) (c : Char) : Draft :=
  let d := d.settle
  { d with content := d.content.map (c :: ·) }

/-- Adds a unit of sixteen bits. -/
def pushUnit (d : Draft) (n : Nat) : Draft :=
  if 0xdc00 ≤ n && n < 0xe000 then
    match d.half with
    | some h =>
      let c := Char.ofNat (0x10000 + (h - 0xd800) * 0x400 + (n - 0xdc00))
      ⟨d.content.map (c :: ·), none⟩
    | none => ⟨none, none⟩
  else if 0xd800 ≤ n && n < 0xdc00 then { d.settle with half := some n }
  else d.push (Char.ofNat n)

/-- The text that was read. -/
def finish (d : Draft) : Option String :=
  d.settle.content.map fun cs => String.ofList cs.reverse

end Draft

/-- The character that a backslash and a letter stand for. -/
def escaped? : Char → Option Char
  | '\x22' => some '\x22'
  | '\\' => some '\\'
  | '/' => some '/'
  | 'b' => some '\x08'
  | 'f' => some '\x0c'
  | 'n' => some '\n'
  | 'r' => some '\r'
  | 't' => some '\t'
  | _ => none

/-- Reads the rest of a text up to its closing quote. -/
def readText? (d : Draft) : List Char → Option (Option String × List Char)
  | [] => none
  | '\x22' :: cs => some (d.finish, cs)
  | '\\' :: 'u' :: x :: y :: z :: w :: cs =>
    match hexUnit? x y z w with
    | some n => readText? (d.pushUnit n) cs
    | none => none
  | '\\' :: c :: cs =>
    match escaped? c with
    | some e => readText? (d.push e) cs
    | none => none
  | c :: cs => if c == '\\' || c.toNat < 0x20 then none else readText? (d.push c) cs

mutual

/-- Reads a value, nested no deeper than `fuel` allows. -/
def readValue? : Nat → List Char → Option (Value × List Char)
  | 0, _ => none
  | fuel + 1, cs =>
    match skipGap cs with
    | 'n' :: 'u' :: 'l' :: 'l' :: cs => some (.null, cs)
    | 't' :: 'r' :: 'u' :: 'e' :: cs => some (.bool true, cs)
    | 'f' :: 'a' :: 'l' :: 's' :: 'e' :: cs => some (.bool false, cs)
    | '\x22' :: cs => (readText? .empty cs).map fun (t, cs) => (.text t, cs)
    | '[' :: cs =>
      match skipGap cs with
      | ']' :: cs => some (.array [], cs)
      | cs => readItems? fuel [] cs
    | '\x7b' :: cs =>
      match skipGap cs with
      | '\x7d' :: cs => some (.object [], cs)
      | cs => readMembers? fuel [] cs
    | cs => (Numeral.read? cs).map fun (n, cs) => (.number n, cs)

/-- Reads the items of an array after those read, last one first. -/
def readItems? : Nat → List Value → List Char → Option (Value × List Char)
  | 0, _, _ => none
  | fuel + 1, items, cs =>
    match readValue? fuel cs with
    | none => none
    | some (v, cs) =>
      match skipGap cs with
      | ',' :: cs => readItems? fuel (v :: items) cs
      | ']' :: cs => some (.array (v :: items).reverse, cs)
      | _ => none

/-- Reads the members of an object after those read, last one first. -/
def readMembers? : Nat → List (Option String × Value) → List Char → Option (Value × List Char)
  | 0, _, _ => none
  | fuel + 1, members, cs =>
    match skipGap cs with
    | '\x22' :: cs =>
      match readText? .empty cs with
      | none => none
      | some (name, cs) =>
        match skipGap cs with
        | ':' :: cs =>
          match readValue? fuel cs with
          | none => none
          | some (v, cs) =>
            match skipGap cs with
            | ',' :: cs => readMembers? fuel ((name, v) :: members) cs
            | '\x7d' :: cs => some (.object ((name, v) :: members).reverse, cs)
            | _ => none
        | _ => none
    | _ => none

end

/-- A gap in front of a value does not matter. -/
theorem readValue?_append {gap cs : List Char} (h : ∀ c ∈ gap, isGap c = true) (fuel : Nat) :
    readValue? fuel (gap ++ cs) = readValue? fuel cs := by
  cases fuel with
  | zero => rfl
  | succ fuel =>
    unfold readValue?
    rw [skipGap_append h]

/-- The value that a text spells, if it spells one.  Every step of the reader takes a character or
closes a bracket, so twice the length is fuel enough. -/
def read? (text : String) : Option Value :=
  let cs := text.toList
  match readValue? (2 * cs.length + 2) cs with
  | some (v, rest) => if (skipGap rest).isEmpty then some v else none
  | none => none

end Flowscript.Json
