import Flowscript.Programs.Quantity
import Flowscript.Programs.Shell.Printing
import Flowscript.Programs.Tool.Basic

/-!
# Programs that print their arguments

* `echoTool` prints its arguments.
* `printfTool` prints them in a format, which is used again for as long as it takes arguments.
-/

set_option autoImplicit false

namespace Flowscript.Tool

open Shell.Printing (isEchoOption letterEscape? octalChar)

/-! ## Arguments as they are -/

/-- The character that hexadecimal digits stand for. -/
def hexChar (digits : Octets) : Char :=
  Char.ofNat (digits.foldl (fun n d => n * 16 + Text.wideDigitValue d) 0 % 256)

/-- A text whose backslashes are signs for other characters, and whether it goes on to its end. -/
def unescapedWords (fuel : Nat) (cs : Octets) : Octets × Bool :=
  match fuel, cs with
  | 0, _ => ([], true)
  | _, [] => ([], true)
  | fuel + 1, '\\' :: r =>
    let followedBy (c : Char) (r : Octets) : Octets × Bool :=
      let (more, goesOn) := unescapedWords fuel r
      (c :: more, goesOn)
    match r with
    | 'c' :: _ => ([], false)
    | 'x' :: s =>
      let digits := (s.take 2).takeWhile Text.isHexDigit
      if digits.isEmpty then followedBy '\\' r else followedBy (hexChar digits) (s.drop digits.length)
    | '0' :: s =>
      let digits := (s.take 3).takeWhile Text.isOctalDigit
      followedBy (octalChar digits) (s.drop digits.length)
    | d :: s =>
      let digits := (r.take 3).takeWhile Text.isOctalDigit
      if !digits.isEmpty then followedBy (octalChar digits) (r.drop digits.length)
      else
        match letterEscape? d with
        | some e => followedBy e s
        | none => followedBy '\\' r
    | [] => (['\\'], true)
  | fuel + 1, c :: r =>
    let (more, goesOn) := unescapedWords fuel r
    (c :: more, goesOn)

/-- Prints its arguments. -/
def echoTool : Procedure := fun _ arguments => do
  let given := (arguments.takeWhile isEchoOption).flatMap (·.drop 1)
  let words := arguments.dropWhile isEchoOption
  let escapes := (given.reverse.find? (· != 'n')) == some 'e'
  let text := Octets.join [' '] words
  let (text, goesOn) := if escapes then unescapedWords (text.length + 1) text else (text, true)
  print text
  if goesOn && !given.contains 'n' then print ['\n']
  return 0

/-! ## Escapes in formats -/

/-- A character by its number, as it is written where only some characters can be. -/
def characterName (n : Nat) : Octets :=
  let digits := (Nat.toDigits 16 n).map Char.toUpper
  let (mark, width) := if n < 0x10000 then ('u', 4) else ('U', 8)
  '\\' :: mark :: List.replicate (width - digits.length) '0' ++ digits

/-- Prints what is meant by a backslash and what follows it, and gives the rest.  In a text, octal
digits can have one zero more in front. -/
def printEscape (isText : Bool) (cs : Octets) : ToolRun Octets := do
  match cs with
  | [] =>
    print ['\\']
    return []
  | 'x' :: r =>
    let digits := (r.take 2).takeWhile Text.isHexDigit
    if digits.isEmpty then giveUp 1 (octets "missing hexadecimal number in escape")
    print [hexChar digits]
    return r.drop digits.length
  | c :: r =>
    if Text.isOctalDigit c then
      let start := if isText && c == '0' then r else cs
      let digits := (start.take 3).takeWhile Text.isOctalDigit
      print [octalChar digits]
      return start.drop digits.length
    else if c == 'u' || c == 'U' then
      let width := if c == 'u' then 4 else 8
      let digits := (r.take width).takeWhile Text.isHexDigit
      if digits.length < width then giveUp 1 (octets "missing hexadecimal number in escape")
      let n := digits.foldl (fun n d => n * 16 + Text.wideDigitValue d) 0
      if (n ≤ 0x9f && n != 0x24 && n != 0x40 && n != 0x60) || (0xd800 ≤ n && n ≤ 0xdfff) then
        giveUp 1 (octets "invalid universal character name \\" ++ c :: digits.map Char.toLower)
      print (if n < 128 then [Char.ofNat n] else characterName n)
      return r.drop width
    else if c == 'c' then exit 0
    else
      match if c == '\x22' then some c else letterEscape? c with
      | some e => print [e]
      | none => print ['\\', c]
      return r

/-- Prints a text whose backslashes are signs for other characters. -/
def printEscaped (fuel : Nat) (cs : Octets) : ToolRun Unit :=
  match fuel, cs with
  | 0, _ => return ()
  | _, [] => return ()
  | fuel + 1, '\\' :: r => do
    let rest ← printEscape true r
    printEscaped fuel rest
  | fuel + 1, c :: r => do
    print [c]
    printEscaped fuel r

/-! ## Numbers -/

/-- Reads an argument that is a number, with a complaint about one that is not. -/
def argumentNumber {α : Type} (zero : α) (ofNat : Nat → α)
    (scan : Octets → Option (α × Bool × Octets)) (o : Octets) : ToolRun α := do
  match o with
  | q :: c :: r =>
    if q == '\x22' || q == '\x27' then
      if !r.isEmpty then
        complain (octets "warning: " ++ r
          ++ octets ": character(s) following character constant have been ignored")
      return ofNat c.toNat
  | _ => pure ()
  let wrong (what : Octets) : ToolRun Unit := do
    complain (quote o ++ what)
    noteFailure 1
  match scan o with
  | none =>
    if !o.isEmpty then wrong (octets ": expected a numeric value")
    return zero
  | some (value, isInRange, rest) =>
    if !isInRange then wrong (octets ": Numerical result out of range")
    else if !rest.isEmpty then wrong (octets ": value not completely converted")
    return value

/-- Reads an argument that is an integer. -/
def argumentInteger (o : Octets) : ToolRun Int :=
  argumentNumber 0 (fun n => (n : Int)) (fun o =>
    (Int64s.scan none o).map fun s => (s.value, s.isInRange, s.rest)) o

/-- Reads an argument that is any number. -/
def argumentReal (o : Octets) : ToolRun Quantity :=
  argumentNumber Quantity.zero (fun n => BinaryFormat.extended.ofInt n)
    (fun o => BinaryFormat.extended.scan (o.dropWhile Text.isSpace)) o

/-! ## Formats -/

/-- The conversions that go with a flag. -/
def conversionsWith (flag : Char) : List Char :=
  match flag with
  | 'I' | '\x27' => "dfFgGiu".toList
  | '#' => "aAeEfFgGoxX".toList
  | '0' => "aAdeEfFgGiouxX".toList
  | _ => "aAcdeEfFgGiosuxX".toList

/-- The largest width. -/
def greatestWidth : Int := 2147483647

/-- Takes a width or a precision, which an argument can give, and the arguments left. -/
def takeMeasure (what : String) (cs : Octets) (arguments : List Octets) :
    ToolRun (Int × Octets × List Octets) := do
  match cs with
  | '*' :: r =>
    match arguments with
    | [] => return (0, r, [])
    | o :: rest =>
      let n ← argumentInteger o
      if greatestWidth < n || n < -greatestWidth - 1 then
        giveUp 1 (octets ("invalid " ++ what ++ ": ") ++ quote o)
      return (n, r, rest)
  | _ =>
    let digits := cs.takeWhile Char.isDigit
    return ((Octets.natural? digits).getD 0, cs.drop digits.length, arguments)

/-- Writes an argument as a conversion says. -/
def convertArgument (d : Text.Directive) (conversion : Char) (o : Octets) : ToolRun Octets := do
  if conversion == 'c' then return d.text [o.headD '\x00']
  else if conversion == 's' then return d.text o
  else if conversion == 'd' || conversion == 'i' then return d.signed (← argumentInteger o)
  else if "ouxX".toList.contains conversion then
    let n ← argumentNumber 0 id (Int64s.scanUnsigned none) o
    return d.unsigned conversion n
  else return d.real .extended conversion (← argumentReal o)

/-- Prints what a directive says after its percent sign, and gives what follows it and the arguments
left. -/
def printDirective (cs : Octets) (arguments : List Octets) : ToolRun (Octets × List Octets) := do
  match cs with
  | '%' :: r =>
    print ['%']
    return (r, arguments)
  | 'b' :: r =>
    for o in arguments.take 1 do printEscaped (o.length + 1) o
    return (r, arguments.drop 1)
  | 'q' :: r =>
    for o in arguments.take 1 do print (Text.quotedForShell false o)
    return (r, arguments.drop 1)
  | _ =>
    let flags := cs.takeWhile fun c => Text.Directive.isFlag c || c == '\x27' || c == 'I'
    let (width, r, arguments) ← takeMeasure "field width" (cs.drop flags.length) arguments
    let (precision, r, arguments) ← match r with
      | '.' :: r => do
        let (n, r, arguments) ← takeMeasure "precision" r arguments
        pure (some n, r, arguments)
      | _ => pure (none, r, arguments)
    let r := r.dropWhile "lLhjtz".toList.contains
    let conversion := r.headD '\x00'
    let fits := (conversionsWith '-').contains conversion
      && flags.all (fun flag => (conversionsWith flag).contains conversion)
      && (conversion != 'c' || precision.isNone)
    if !fits then
      giveUp 1 ('%' :: cs.take (cs.length - r.length + 1)
        ++ octets ": invalid conversion specification")
    let d := (Text.Directive.ofFlags flags).withWidth width
    let d := { d with precision := precision.bind fun n => if n < 0 then none else some n.toNat }
    print (← convertArgument d conversion (arguments.headD []))
    return (r.drop 1, arguments.drop 1)

/-- Follows a format once, and gives the arguments left. -/
def followFormat (fuel : Nat) (format : Octets) (arguments : List Octets) :
    ToolRun (List Octets) :=
  match fuel, format with
  | 0, _ => return arguments
  | _, [] => return arguments
  | fuel + 1, '\\' :: r => do
    let rest ← printEscape false r
    followFormat fuel rest arguments
  | fuel + 1, '%' :: r => do
    let (rest, arguments) ← printDirective r arguments
    followFormat fuel rest arguments
  | fuel + 1, c :: r => do
    print [c]
    followFormat fuel r arguments

/-- Follows a format for as long as there are arguments that it takes, and gives those left. -/
def followFormats (fuel : Nat) (format : Octets) (arguments : List Octets) :
    ToolRun (List Octets) :=
  match fuel with
  | 0 => return arguments
  | fuel + 1 => do
    let rest ← followFormat (format.length + 1) format arguments
    if rest.isEmpty || rest.length == arguments.length then return rest
    followFormats fuel format rest

/-- Prints its arguments in a format. -/
def printfTool : Procedure := fun _ arguments => do
  let words := match arguments with
    | ['-', '-'] :: rest => rest
    | _ => arguments
  match words with
  | [] => giveUpUsage 1 (octets "missing operand")
  | format :: rest =>
    let left ← followFormats (rest.length + 1) format rest
    for o in left.take 1 do
      complain (octets "warning: ignoring excess arguments, starting with " ++ quote o)
    notedStatus

end Flowscript.Tool
