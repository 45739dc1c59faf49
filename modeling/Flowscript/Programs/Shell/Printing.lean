import Flowscript.Programs.Calendar.Format
import Flowscript.Programs.Quantity
import Flowscript.Programs.Shell.Quoting
import Flowscript.Programs.Shell.WordReading
import Flowscript.Programs.Text.Directive
import Flowscript.Programs.Text.CharClass

/-!
# Printing from a script

* `Printing.echoed` is what `echo` prints.
* `Printing.formatted` is what `printf` prints for a format and its arguments, and its complaints.
* `Printing.unescaped` is a text whose backslashes are signs for other characters.
* `Printing.wideEchoed` and `Printing.wideFormatted` are the same for the wide dialect.

A format is used again for as long as there are arguments that it takes.
-/

set_option autoImplicit false

namespace Flowscript.Shell.Printing

/-- The character that a letter after a backslash stands for. -/
def letterEscape? : Char → Option Char
  | 'a' => some '\x07'
  | 'b' => some '\x08'
  | 'e' => some '\x1b'
  | 'f' => some '\x0c'
  | 'n' => some '\n'
  | 'r' => some '\r'
  | 't' => some '\t'
  | 'v' => some '\x0b'
  | '\\' => some '\\'
  | _ => none

/-- The character that octal digits stand for. -/
def octalChar (digits : Octets) : Char :=
  Char.ofNat (digits.foldl (fun n d => n * 8 + Text.wideDigitValue d) 0 % 256)

/-- The character that a backslash stands for with what follows it, and the rest. -/
def escape (cs : Octets) : Char × Octets :=
  match cs with
  | [] => ('\\', [])
  | c :: r =>
    let digits := (cs.take 3).takeWhile Text.isOctalDigit
    if !digits.isEmpty then (octalChar digits, cs.drop digits.length)
    else
      match letterEscape? c with
      | some e => (e, r)
      | none => ('\\', cs)

/-- A text whose backslashes are signs for other characters, and whether it goes on to its end. -/
def unescaped (fuel : Nat) (cs : Octets) : Octets × Bool :=
  match fuel, cs with
  | 0, _ => ([], true)
  | _, [] => ([], true)
  | fuel + 1, '\\' :: r =>
    let followedBy (c : Char) (r : Octets) : Octets × Bool :=
      let (more, goesOn) := unescaped fuel r
      (c :: more, goesOn)
    match r with
    | 'c' :: _ => ([], false)
    | '0' :: s =>
      let digits := (s.take 3).takeWhile Text.isOctalDigit
      followedBy (octalChar digits) (s.drop digits.length)
    | _ =>
      let (c, r) := escape r
      followedBy c r
  | fuel + 1, c :: r =>
    let (more, goesOn) := unescaped fuel r
    (c :: more, goesOn)

/-- What `echo` prints: its arguments with spaces between them, and the end of a line unless its
first argument is `-n` or an escape ends the printing. -/
def echoed (arguments : List Octets) : Octets :=
  let (hasEnd, words) := match arguments with
    | ['-', 'n'] :: words => (false, words)
    | words => (true, words)
  let text := Octets.join [' '] words
  let (text, goesOn) := unescaped (text.length + 1) text
  if hasEnd && goesOn then text ++ ['\n'] else text

/-! ## Formats -/

/-- A format that is being followed: the arguments left, whether one was asked for, what was printed
with the last part first, the complaints, and whether a number made no sense. -/
structure Progress where
  arguments : List Octets
  hasTaken : Bool
  printed : List Octets
  complaints : List Octets

namespace Progress

/-- Prints something. -/
def print (p : Progress) (o : Octets) : Progress := { p with printed := o :: p.printed }

/-- Takes an argument. -/
def next (p : Progress) : Option Octets × Progress :=
  match p.arguments with
  | a :: rest => (some a, { p with arguments := rest, hasTaken := true })
  | [] => (none, p)

/-- Notes a complaint. -/
def complain (p : Progress) (complaint : Octets) : Progress :=
  { p with complaints := complaint :: p.complaints }

/-- Takes an argument that is a number, with a complaint about one that is not. -/
def nextNumber {α : Type} (p : Progress) (zero : α) (ofNat : Nat → α)
    (scan : Octets → Option (α × Bool × Octets)) : α × Progress :=
  match p.next with
  | (none, p) => (zero, p)
  | (some text, p) =>
    let complain (what : String) : Progress := p.complain (text ++ Octets.ofText (": " ++ what))
    match text with
    | [] => (zero, p)
    | q :: r =>
      if q == '\x22' || q == '\x27' then (ofNat ((r.headD '\x00').toNat), p)
      else
        match scan text with
        | none => (zero, complain "expected numeric value")
        | some (value, isInRange, rest) =>
          if !rest.isEmpty then (value, complain "not completely converted")
          else if !isInRange then (value, complain "Numerical result out of range")
          else (value, p)

/-- Takes an argument that is an integer. -/
def nextInteger (p : Progress) : Int × Progress :=
  p.nextNumber 0 (fun n => (n : Int)) fun o =>
    (Int64s.scan none o).map fun s => (s.value, s.isInRange, s.rest)

/-- Takes an argument that is a natural number. -/
def nextNatural (p : Progress) : Nat × Progress :=
  p.nextNumber 0 id (Int64s.scanUnsigned none)

/-- Takes an argument that is any number. -/
def nextReal (p : Progress) : Quantity × Progress :=
  p.nextNumber Quantity.zero (fun n => BinaryFormat.double.ofInt n) fun o =>
    BinaryFormat.double.scan (o.dropWhile Text.isSpace)

end Progress

/-- How the use of a format ends. -/
inductive Outcome where
  | done
  /-- An escape ends the printing. -/
  | stopped
  /-- The format makes no sense. -/
  | failed (complaint : Octets)

/-- The number in a directive, or the one that an argument gives for a star. -/
def directiveNumber (cs : Octets) (p : Progress) : Option Int × Octets × Progress :=
  match cs with
  | '*' :: r =>
    let (n, p) := p.nextInteger
    (some n, r, p)
  | _ =>
    let digits := cs.takeWhile Char.isDigit
    (Octets.natural? digits |>.map fun n => (n : Int), cs.drop digits.length, p)

/-- Writes an argument as a conversion says, and says whether the printing goes on. -/
def convert? (d : Text.Directive) (conversion : Char) (p : Progress) :
    Option (Progress × Bool) :=
  if conversion == 'b' then
    let (a, p) := p.next
    let a := a.getD []
    let (text, goesOn) := unescaped (a.length + 1) a
    some (p.print (d.text text), goesOn)
  else if conversion == 'c' then
    let (a, p) := p.next
    let c := (a.getD []).headD '\x00'
    some (p.print (({ d with precision := none } : Text.Directive).text [c]), true)
  else if conversion == 's' then
    let (a, p) := p.next
    some (p.print (d.text (a.getD [])), true)
  else if conversion == 'd' || conversion == 'i' then
    let (n, p) := p.nextInteger
    some (p.print (d.signed n), true)
  else if "ouxX".toList.contains conversion then
    let (n, p) := p.nextNatural
    some (p.print (d.unsigned conversion n), true)
  else if "aAeEfFgG".toList.contains conversion then
    let (x, p) := p.nextReal
    some (p.print (d.real .double conversion x), true)
  else none

/-- Follows a format once. -/
def follow (fuel : Nat) (format : Octets) (p : Progress) : Progress × Outcome :=
  match fuel, format with
  | 0, _ => (p, .done)
  | _, [] => (p, .done)
  | fuel + 1, '\\' :: r =>
    let (c, r) := escape r
    follow fuel r (p.print [c])
  | fuel + 1, '%' :: '%' :: r => follow fuel r (p.print ['%'])
  | fuel + 1, '%' :: r =>
    let flags := r.takeWhile Text.Directive.isFlag
    let (width, s, p) := directiveNumber (r.drop flags.length) p
    let (precision, s, p) := match s with
      | '.' :: s =>
        let (n, s, p) := directiveNumber s p
        (some (n.getD 0), s, p)
      | _ => (none, s, p)
    match s with
    | [] => (p, .failed (Octets.ofText "missing format character"))
    | conversion :: s =>
      let d := (Text.Directive.ofFlags flags).withWidth (width.getD 0)
      let d := { d with precision := precision.bind fun n => if n < 0 then none else some n.toNat }
      match convert? d conversion p with
      | some (p, true) => follow fuel s p
      | some (p, false) => (p, .stopped)
      | none =>
        let start := r.take (r.length - s.length)
        (p, .failed ('%' :: start ++ Octets.ofText ": invalid directive"))
  | fuel + 1, c :: r => follow fuel r (p.print [c])

/-- Follows a format for as long as there are arguments that it takes. -/
def followAll (fuel : Nat) (format : Octets) (p : Progress) : Progress × Outcome :=
  match fuel with
  | 0 => (p, .done)
  | fuel + 1 =>
    match follow (format.length + 1) format { p with hasTaken := false } with
    | (p, .done) =>
      if p.hasTaken && !p.arguments.isEmpty then followAll fuel format p else (p, .done)
    | result => result

/-- What `printf` prints, its complaints, and how its format ends. -/
def formatted (format : Octets) (arguments : List Octets) : Octets × List Octets × Outcome :=
  let (p, outcome) := followAll (arguments.length + 1) format ⟨arguments, false, [], []⟩
  (p.printed.reverse.flatten, p.complaints.reverse, outcome)

/-! ## The wide dialect -/

/-- Whether an argument of `echo` is an option. -/
def isEchoOption : Octets → Bool
  | '-' :: c :: r => (c :: r).all fun d => d == 'n' || d == 'e' || d == 'E'
  | _ => false

/-- A text whose backslashes are signs as `echo` knows them, and whether it goes on to its end. -/
def echoUnescaped (fuel : Nat) (cs : Octets) : Octets × Bool :=
  match fuel, cs with
  | 0, _ | _, [] => ([], true)
  | fuel + 1, '\\' :: r =>
    let followedBy (o : Octets) (r : Octets) : Octets × Bool :=
      let (more, goesOn) := echoUnescaped fuel r
      (o ++ more, goesOn)
    match r with
    | 'c' :: _ => ([], false)
    | '0' :: s =>
      let digits := (s.take 3).takeWhile Text.isOctalDigit
      followedBy [octalChar digits] (s.drop digits.length)
    | c :: s =>
      if Text.isOctalDigit c || c == '\x27' || c == '\x22' || c == '?' then
        followedBy ['\\', c] s
      else
        let (o, s) := Source.signOf r
        followedBy o s
    | [] => (['\\'], true)
  | fuel + 1, c :: r =>
    let (more, goesOn) := echoUnescaped fuel r
    (c :: more, goesOn)

/-- What `echo` prints in the wide dialect, where options say whether there are escapes. -/
def wideEchoed (hasEscapes : Bool) (arguments : List Octets) : Octets :=
  let given := (arguments.takeWhile isEchoOption).flatMap (·.drop 1)
  let text := Octets.join [' '] (arguments.dropWhile isEchoOption)
  let escapes := match given.reverse.find? (· != 'n') with
    | some c => c == 'e'
    | none => hasEscapes
  let (text, goesOn) := if escapes then echoUnescaped (text.length + 1) text else (text, true)
  if goesOn && !given.contains 'n' then text ++ ['\n'] else text

/-- What a backslash stands for with what follows it, what is left, a complaint, and whether the
printing goes on. -/
structure Escape where
  text : Octets
  rest : Octets
  complaint : Option String
  goesOn : Bool

/-- What a backslash stands for in a format of the wide dialect, or in a text that is printed. -/
def wideEscape (isText : Bool) (cs : Octets) : Escape :=
  match cs with
  | [] => ⟨['\\'], [], none, true⟩
  | c :: r =>
    let hasDigit := (r.headD 'g') |> Text.isHexDigit
    if Text.isOctalDigit c then
      let start := if isText && c == '0' then r else cs
      let digits := (start.take 3).takeWhile Text.isOctalDigit
      ⟨[octalChar digits], start.drop digits.length, none, true⟩
    else if c == 'c' then
      if isText then ⟨[], [], none, false⟩ else ⟨['\\'], cs, none, true⟩
    else if c == '\x27' || c == '\x22' || c == '?' then
      if isText then ⟨['\\'], cs, none, true⟩ else ⟨[c], r, none, true⟩
    else if c == 'x' && !hasDigit then
      ⟨['\\'], cs, some "missing hex digit for \\x", true⟩
    else if (c == 'u' || c == 'U') && !hasDigit then
      ⟨['\\'], cs, some ("missing unicode digit for \\" ++ toString c), true⟩
    else if !"abeEfnrtvxuU\\".toList.contains c then ⟨['\\'], cs, none, true⟩
    else
      let (o, r) := Source.signOf cs
      ⟨o, r, none, true⟩

/-- A text whose backslashes are signs for other characters, the complaints about them, and whether
it goes on to its end. -/
def wideUnescaped (fuel : Nat) (cs : Octets) : Octets × List Octets × Bool :=
  match fuel, cs with
  | 0, _ | _, [] => ([], [], true)
  | fuel + 1, '\\' :: r =>
    let e := wideEscape true r
    if !e.goesOn then ([], [], false)
    else
      let (more, complaints, goesOn) := wideUnescaped fuel e.rest
      (e.text ++ more, (e.complaint.map Octets.ofText).toList ++ complaints, goesOn)
  | fuel + 1, c :: r =>
    let (more, complaints, goesOn) := wideUnescaped fuel r
    (c :: more, complaints, goesOn)

/-- What formats of the wide dialect go by: the time zone, the present second, the one at which the
shell started, and the names that take how much was printed. -/
structure Times where
  zone : Zone
  now : Int
  start : Int

/-- A format of the wide dialect that is being followed: whether an argument made no sense, and the
variables that get the number of characters printed so far. -/
structure WideProgress extends Progress where
  hasFailed : Bool
  counts : List (Octets × Nat)

namespace WideProgress

/-- Changes what is common to both dialects. -/
def withCommon (w : WideProgress) (p : Progress) : WideProgress := { w with toProgress := p }

/-- Complains of a number that makes no sense. -/
def refuse (w : WideProgress) (text : Octets) : WideProgress :=
  let what := match text with
    | '0' :: c :: _ =>
      if c.isDigit then ": invalid octal number"
      else if c == 'x' then ": invalid hex number" else ": invalid number"
    | _ => ": invalid number"
  { w.withCommon (w.complain (text ++ Octets.ofText what)) with hasFailed := true }

/-- Takes an argument that is a number, with a complaint about one that is not. -/
def nextNumber {α : Type} (w : WideProgress) (zero : α) (ofNat : Nat → α)
    (scan : Octets → Option (α × Bool × Octets)) : α × WideProgress :=
  match w.next with
  | (none, _) => (zero, w)
  | (some text, p) =>
    let w := w.withCommon p
    match text with
    | [] => (zero, w)
    | q :: r =>
      if q == '\x22' || q == '\x27' then (ofNat ((r.headD '\x00').toNat), w)
      else
        match scan text with
        | none => (zero, w.refuse text)
        | some (value, isInRange, rest) =>
          if !rest.isEmpty then (value, w.refuse text)
          else if !isInRange then
            (value, w.withCommon (w.complain (Octets.ofText "warning: " ++ text
              ++ Octets.ofText ": Numerical result out of range")))
          else (value, w)

/-- Takes an argument that is an integer. -/
def nextInteger (w : WideProgress) : Int × WideProgress :=
  w.nextNumber 0 (fun n => (n : Int)) fun o =>
    (Int64s.scan none o).map fun s => (s.value, s.isInRange, s.rest)

/-- Takes an argument that is a natural number. -/
def nextNatural (w : WideProgress) : Nat × WideProgress :=
  w.nextNumber 0 id (Int64s.scanUnsigned none)

/-- Takes an argument that is any number. -/
def nextReal (w : WideProgress) : Quantity × WideProgress :=
  w.nextNumber Quantity.zero (fun n => BinaryFormat.extended.ofInt n) fun o =>
    BinaryFormat.extended.scan (o.dropWhile Text.isSpace)

/-- Takes an argument that is a text. -/
def nextText (w : WideProgress) : Octets × WideProgress :=
  let (o, p) := w.next
  (o.getD [], w.withCommon p)

/-- Prints something. -/
def put (w : WideProgress) (o : Octets) : WideProgress := w.withCommon (w.print o)

/-- How many characters have been printed. -/
def size (w : WideProgress) : Nat := (w.printed.map List.length).foldl (· + ·) 0

end WideProgress

/-- The number in a directive, or the one that an argument gives for a star. -/
def wideNumber (cs : Octets) (w : WideProgress) : Option Int × Octets × WideProgress :=
  match cs with
  | '*' :: r =>
    let (n, w) := w.nextInteger
    (some n, r, w)
  | _ =>
    let isBelow := cs.head? == some '-'
    let digits := (if isBelow then cs.drop 1 else cs).takeWhile Char.isDigit
    let n := (Octets.natural? digits).map fun n => if isBelow then -(n : Int) else n
    (n, cs.drop (digits.length + if isBelow then 1 else 0), w)

/-- A format for times up to the parenthesis that closes it, and what follows it. -/
def timeFormat (depth : Nat) : Octets → Octets × Octets
  | [] => ([], [])
  | c :: r =>
    if c == ')' && depth == 0 then ([], r)
    else
      let depth := if c == '(' then depth + 1 else if c == ')' then depth - 1 else depth
      let (text, rest) := timeFormat depth r
      (c :: text, rest)

/-- Writes the time that an argument gives. -/
def wideTime (times : Times) (d : Text.Directive) (format : Octets) (w : WideProgress) :
    WideProgress :=
  let hasArgument := !w.arguments.isEmpty
  let (n, w) := w.nextInteger
  let second := if !hasArgument || n == -1 then times.now else if n == -2 then times.start else n
  let format := if format.isEmpty then ['%', 'X'] else format
  w.put (d.text ((Moment.ofEpoch times.zone second 0).format format))

/-- Writes an argument as a conversion says, and says whether the printing goes on. -/
def wideConvert? (d : Text.Directive) (conversion : Char) (w : WideProgress) :
    Option (WideProgress × Bool) :=
  match conversion with
  | 'b' =>
    let (a, w) := w.nextText
    let (text, complaints, goesOn) := wideUnescaped (a.length + 1) a
    let w := complaints.foldl (fun w c => w.withCommon (w.complain c)) w
    some (w.put (d.text text), goesOn)
  | 'c' =>
    let (a, w) := w.nextText
    some (w.put (({ d with precision := none } : Text.Directive).text [a.headD '\x00']), true)
  | 's' =>
    let (a, w) := w.nextText
    some (w.put (d.text a), true)
  | 'q' =>
    let (a, w) := w.nextText
    some (w.put (d.text (Quoting.word a)), true)
  | 'Q' =>
    let (a, w) := w.nextText
    let cut := match d.precision with
      | some n => a.take n
      | none => a
    some (w.put (({ d with precision := none } : Text.Directive).text (Quoting.word cut)), true)
  | 'n' =>
    let (a, w) := w.nextText
    some (if a.isEmpty then w else { w with counts := (a, w.size) :: w.counts }, true)
  | _ =>
    if conversion == 'd' || conversion == 'i' then
      let (n, w) := w.nextInteger
      some (w.put (d.signed n), true)
    else if "ouxX".toList.contains conversion then
      let (n, w) := w.nextNatural
      some (w.put (d.unsigned conversion n), true)
    else if "aAeEfFgG".toList.contains conversion then
      let (x, w) := w.nextReal
      some (w.put (d.real .extended conversion x), true)
    else none

/-- Follows a format of the wide dialect once. -/
def followWide (times : Times) (fuel : Nat) (format : Octets) (w : WideProgress) :
    WideProgress × Outcome :=
  match fuel, format with
  | 0, _ | _, [] => (w, .done)
  | fuel + 1, '\\' :: r =>
    let e := wideEscape false r
    let w := match e.complaint with
      | some c => w.withCommon (w.complain (Octets.ofText c))
      | none => w
    followWide times fuel e.rest (w.put e.text)
  | fuel + 1, '%' :: '%' :: r => followWide times fuel r (w.put ['%'])
  | fuel + 1, '%' :: r =>
    let flags := r.takeWhile fun c => Text.Directive.isFlag c || c == '\x27'
    let (width, s, w) := wideNumber (r.drop flags.length) w
    let (precision, s, w) := match s with
      | '.' :: s =>
        let (n, s, w) := wideNumber s w
        (some (n.getD 0), s, w)
      | _ => (none, s, w)
    let s := s.dropWhile "hjlLtz".toList.contains
    let d := (Text.Directive.ofFlags flags).withWidth (width.getD 0)
    let d := { d with precision := precision.bind fun n => if n < 0 then none else some n.toNat }
    match s with
    | [] =>
      (w, .failed ('\x60' :: '%' :: r ++ Octets.ofText "': missing format character"))
    | '(' :: s =>
      match timeFormat 0 s with
      | (text, 'T' :: rest) => followWide times fuel rest (wideTime times d text w)
      | (_, rest) =>
        let complaint := Octets.ofText "warning: \x60" ++ rest.headD '\x00'
          :: Octets.ofText "': invalid time format specification"
        followWide times fuel r ((w.withCommon (w.complain complaint)).put ['%'])
    | conversion :: s =>
      match wideConvert? d conversion w with
      | some (w, true) => followWide times fuel s w
      | some (w, false) => (w, .stopped)
      | none =>
        (w, .failed ('\x60' :: conversion :: Octets.ofText "': invalid format character"))
  | fuel + 1, c :: r => followWide times fuel r (w.put [c])

/-- Follows a format of the wide dialect for as long as there are arguments that it takes. -/
def followWideAll (times : Times) (fuel : Nat) (format : Octets) (w : WideProgress) :
    WideProgress × Outcome :=
  match fuel with
  | 0 => (w, .done)
  | fuel + 1 =>
    match followWide times (format.length + 1) format { w with hasTaken := false } with
    | (w, .done) =>
      if w.hasTaken && !w.arguments.isEmpty then followWideAll times fuel format w else (w, .done)
    | result => result

/-- What `printf` prints in the wide dialect, what comes of its arguments, and how its format
ends. -/
def wideFormatted (times : Times) (format : Octets) (arguments : List Octets) :
    WideProgress × Outcome :=
  followWideAll times (arguments.length + 1) format ⟨⟨arguments, false, [], []⟩, false, []⟩

end Flowscript.Shell.Printing
