import Flowscript.Programs.Text.CharClass

/-!
# Quoting for a script

Texts as a script in the wide dialect has them, such that they are read as they are.

* `Quoting.single` puts single quotes around a text, and `Quoting.double` double quotes.
* `Quoting.signed` writes characters that cannot be seen as signs.
* `Quoting.escaped` puts backslashes before what has a meaning of its own.
* `Quoting.assigned` is a value as it stands after an equals sign.
-/

set_option autoImplicit false

namespace Flowscript.Shell.Quoting

/-- Whether a character can be seen. -/
def isVisible (c : Char) : Bool := 32 ≤ c.toNat && c.toNat < 127

/-- Whether something in a text cannot be seen. -/
def needsSigns (o : Octets) : Bool := o.any fun c => !isVisible c

/-- A text between single quotes. -/
def single (o : Octets) : Octets :=
  if o == ['\''] then ['\\', '\'']
  else
    '\'' :: o.flatMap (fun c => if c == '\'' then ['\'', '\\', '\'', '\''] else [c]) ++ ['\'']

/-- A character as a sign. -/
def sign (c : Char) : Octets :=
  match c with
  | '\x1b' => ['\\', 'E']
  | '\x07' => ['\\', 'a']
  | '\x08' => ['\\', 'b']
  | '\x0b' => ['\\', 'v']
  | '\x0c' => ['\\', 'f']
  | '\n' => ['\\', 'n']
  | '\r' => ['\\', 'r']
  | '\t' => ['\\', 't']
  | '\\' => ['\\', '\\']
  | '\'' => ['\\', '\'']
  | c =>
    if isVisible c then [c]
    else
      let digits := Nat.toDigits 8 c.toNat
      '\\' :: List.replicate (3 - digits.length) '0' ++ digits

/-- A text between single quotes after a dollar, with signs in it. -/
def signed (o : Octets) : Octets := '$' :: '\'' :: o.flatMap sign ++ ['\'']

/-- A text between double quotes. -/
def double (o : Octets) : Octets :=
  let isSpecial (c : Char) : Bool := c == '"' || c == '$' || c == '\x60' || c == '\\'
  '"' :: o.flatMap (fun c => if isSpecial c then ['\\', c] else [c]) ++ ['"']

/-- A text between double quotes, or with signs if something in it cannot be seen. -/
def visible (o : Octets) : Octets := if needsSigns o then signed o else double o

/-- The characters that have a meaning of their own anywhere. -/
def specials : List Char := " \t\n'\"\\|&;()<>!\x7b\x7d*[?]^$\x60".toList

/-- Whether something in a text has a meaning of its own. -/
def hasSpecials (o : Octets) : Bool :=
  o.any specials.contains || o.head? == some '~' || o.head? == some '#'
    || (o.zip (o.drop 1)).any fun p => (p.1 == '=' || p.1 == ':') && p.2 == '~'

/-- A text with backslashes before what has a meaning of its own. -/
def escaped (o : Octets) : Octets :=
  let isSpecial (c : Char) : Bool := c == ',' || specials.contains c
  let body (o : Octets) : Octets := o.flatMap fun c => if isSpecial c then ['\\', c] else [c]
  match o with
  | c :: r => if c == '~' || c == '#' then '\\' :: c :: body r else body o
  | [] => ['\'', '\'']

/-- A text that is read as one word. -/
def word (o : Octets) : Octets := if needsSigns o then signed o else escaped o

/-- A text between quotes, always. -/
def reusable (o : Octets) : Octets := if needsSigns o then signed o else single o

/-- A value as it stands after an equals sign. -/
def assigned (o : Octets) : Octets :=
  if needsSigns o then signed o else if hasSpecials o then single o else o

/-- A key as it stands between brackets. -/
def key (o : Octets) : Octets :=
  if hasSpecials o || o == ['@'] || o == ['*'] then double o
  else if needsSigns o then signed o
  else o

/-- A word of a command that is shown before it is followed. -/
def shown (o : Octets) : Octets :=
  if o.isEmpty then ['\'', '\''] else if hasSpecials o then single o else o

/-- A pattern that is shown before it is used: what only stands for itself has backslashes. -/
def shownPattern (cs : List (Char × Bool)) : Octets :=
  cs.flatMap fun c => if c.2 then ['\\', c.1] else [c.1]

end Flowscript.Shell.Quoting
