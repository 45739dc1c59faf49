import Flowscript.Programs.Tool.Basic

/-!
# A program that changes characters

* `CharSet` is a list of characters as it is written, and `readCharSet` reads one.
* `Translation` says what becomes of characters, and `translationOf` works it out.
* `translateTool` changes, deletes or squeezes characters.
-/

set_option autoImplicit false

namespace Flowscript.Tool

/-! ## Characters as they are written -/

/-- A character, and whether a backslash stood before it. -/
abbrev MarkedChar := Char × Bool

/-- The characters of a text in which backslashes are signs for other characters. -/
def markedChars (fuel : Nat) (o : Octets) : ToolRun (List MarkedChar) :=
  match fuel, o with
  | 0, _ => return []
  | _, [] => return []
  | _, ['\\'] => do
    complain (octets "warning: an unescaped backslash at end of string is not portable")
    return [('\\', false)]
  | fuel + 1, '\\' :: c :: r => do
    let value (ds : Octets) : Nat := ds.foldl (fun n d => n * 8 + Text.wideDigitValue d) 0
    let digits := ((c :: r).take 3).takeWhile Text.isOctalDigit
    if 255 < value digits then
      let (start, last) := (digits.take 2, digits.drop 2)
      complain (octets "warning: the ambiguous octal escape \\" ++ digits
        ++ octets " is being\n\tinterpreted as the 2-byte sequence \\0" ++ start
        ++ octets ", " ++ last)
      return (Char.ofNat (value start), true) :: (← markedChars fuel ((c :: r).drop 2))
    else if !digits.isEmpty then
      return (Char.ofNat (value digits), true)
        :: (← markedChars fuel ((c :: r).drop digits.length))
    else
      let plain := match c with
        | 'n' => '\n'
        | 't' => '\t'
        | 'r' => '\r'
        | 'a' => '\x07'
        | 'b' => '\x08'
        | 'f' => '\x0c'
        | 'v' => '\x0b'
        | c => c
      return (plain, true) :: (← markedChars fuel r)
  | fuel + 1, c :: r => return (c, false) :: (← markedChars fuel r)

/-- A character as it is shown in complaints. -/
def shownChar (c : Char) : Octets :=
  match c with
  | '\\' => ['\\', '\\']
  | '\x07' => ['\\', 'a']
  | '\x08' => ['\\', 'b']
  | '\x0c' => ['\\', 'f']
  | '\n' => ['\\', 'n']
  | '\r' => ['\\', 'r']
  | '\t' => ['\\', 't']
  | '\x0b' => ['\\', 'v']
  | c =>
    if ' ' ≤ c && c ≤ '~' then [c]
    else
      let digits := Nat.toDigits 8 c.toNat
      '\\' :: List.replicate (3 - digits.length) '0' ++ digits

/-! ## Sets of characters -/

/-- A part of a list of characters: characters in order, a class, the equals of a character, or one
that is repeated, without a count as often as it takes. -/
inductive CharSet where
  | char (c : Char)
  | range (first last : Char)
  | classOf (name : String)
  | equals (c : Char)
  | copies (c : Char) (count : Nat)

/-- All characters there are. -/
def allChars : Octets := (List.range 256).map Char.ofNat

/-- The characters from one to another. -/
def charsFrom (first last : Char) : Octets :=
  (List.range (last.toNat + 1 - first.toNat)).map fun i => Char.ofNat (first.toNat + i)

/-- The characters of a part. -/
def CharSet.members : CharSet → Octets
  | .char c => [c]
  | .range first last => charsFrom first last
  | .classOf name => allChars.filter ((Text.charClass? name).getD fun _ => false)
  | .equals c => [c]
  | .copies c count => List.replicate count c

/-- Whether a part is a character repeated as often as it takes. -/
def CharSet.isEndless : CharSet → Bool
  | .copies _ 0 => true
  | _ => false

/-- The text up to a mark and a closing bracket, neither with a backslash, and what follows. -/
def takeEnclosed? (mark : Char) (before cs : List MarkedChar) :
    Option (Octets × List MarkedChar) :=
  match cs with
  | m :: b :: r =>
    if m == (mark, false) && b == (']', false) then some (before.reverse.map (·.1), r)
    else takeEnclosed? mark (m :: before) (b :: r)
  | _ => none

/-- A count after a star and before a closing bracket, and what follows. -/
def takeCount? (cs : List MarkedChar) : Option (Octets × List MarkedChar) :=
  match cs with
  | ('*', false) :: r =>
    let digits := r.takeWhile fun m => m != (']', false) && !m.2
    match r.drop digits.length with
    | (']', false) :: rest => some (digits.map (·.1), rest)
    | _ => none
  | _ => none

/-- The number of copies that digits mean: octal ones after a zero. -/
def copyCount? (digits : Octets) : Option Nat :=
  let base := if digits.head? == some '0' then 8 else 10
  if digits.all fun c => Text.wideDigitValue c < base then
    some (digits.foldl (fun n d => n * base + Text.wideDigitValue d) 0)
  else none

/-- Reads a list of characters. -/
def readCharSet (fuel : Nat) (cs : List MarkedChar) : ToolRun (List CharSet) :=
  match fuel with
  | 0 => return []
  | fuel + 1 => do
    let ordinary : ToolRun (List CharSet) := do
      match cs with
      | (first, _) :: ('-', false) :: (last, _) :: rest =>
        if last < first then
          giveUp 1 (octets "range-endpoints of '" ++ shownChar first ++ '-' :: shownChar last
            ++ octets "' are in reverse collating sequence order")
        return .range first last :: (← readCharSet fuel rest)
      | (c, _) :: rest => return .char c :: (← readCharSet fuel rest)
      | [] => return []
    let copies : ToolRun (List CharSet) := do
      match cs with
      | _ :: (c, _) :: r =>
        match takeCount? r with
        | some (digits, rest) =>
          match copyCount? digits with
          | some count => return .copies c count :: (← readCharSet fuel rest)
          | none =>
            giveUp 1 (octets "invalid repeat count " ++ quote (digits.flatMap shownChar)
              ++ octets " in [c*n] construct")
        | none => ordinary
      | _ => ordinary
    -- A text such as `[:*]` can be a class without an end, or copies of the mark.
    let isCopies := (takeCount? (cs.drop 2)).any fun p => p.1.all Char.isDigit
    match cs with
    | ('[', false) :: (':', false) :: r =>
      match takeEnclosed? ':' [] r with
      | none => copies
      | some ([], _) => giveUp 1 (octets "missing character class name '[::]'")
      | some (name, rest) =>
        if (Text.charClass? (String.ofList name)).isSome then
          return .classOf (String.ofList name) :: (← readCharSet fuel rest)
        else if isCopies then copies
        else giveUp 1 (octets "invalid character class " ++ quote (name.flatMap shownChar))
    | ('[', false) :: ('=', false) :: r =>
      match takeEnclosed? '=' [] r with
      | none => copies
      | some ([], _) => giveUp 1 (octets "missing equivalence class character '[==]'")
      | some ([c], rest) => return .equals c :: (← readCharSet fuel rest)
      | some (text, _) =>
        if isCopies then copies
        else giveUp 1 (text.flatMap shownChar
          ++ octets ": equivalence class operand must be a single character")
    | ('[', false) :: _ => copies
    | _ => ordinary

/-- The list of characters that a text means. -/
def charSetOf (o : Octets) : ToolRun (List CharSet) := do
  let cs ← markedChars (o.length + 1) o
  readCharSet (cs.length + 1) cs

/-! ## Translations -/

/-- A character of a list, and whether it belongs to a class of letters of one case, whose name is
given, and whether a part starts with it. -/
structure CharItem where
  char : Char
  letterClass : Option String
  isFirst : Bool

/-- The characters of a list one by one. -/
def charItems (set : List CharSet) : List CharItem := set.flatMap fun part =>
  let letterClass := match part with
    | .classOf name => if name == "upper" || name == "lower" then some name else none
    | _ => none
  part.members.zipIdx.map fun (c, i) => ⟨c, letterClass, i == 0⟩

/-- What follows the part that the first of some characters belongs to. -/
def skipPart (items : List CharItem) : List CharItem := (items.drop 1).dropWhile (!·.isFirst)

/-- Whether classes of letters stand at the same places of two lists. -/
def areAligned (fuel : Nat) (first second : List CharItem) : Bool :=
  match fuel, second with
  | 0, _ => true
  | _, [] => true
  | fuel + 1, b :: s =>
    let goesOn (r s : List CharItem) : Bool := first.isEmpty || areAligned fuel r s
    if b.letterClass.isSome then
      first.head?.any (fun a => a.isFirst && a.letterClass.isSome)
        && goesOn (skipPart first) (skipPart second)
    else goesOn (first.drop 1) s

/-- What becomes of characters, and after which of them the same one again is left out. -/
structure Translation where
  deletes : Array Bool
  becomes : Array Char
  squeezes : Array Bool

/-- Characters by whether they are in a set. -/
def memberTable (set : Octets) : Array Bool :=
  set.foldl (fun table c => table.set! c.toNat true) (Array.replicate 256 false)

/-- Translates characters, after the last one that came out. -/
def Translation.apply (t : Translation) (last : Option Char) (o : Octets) : Octets × Option Char :=
  let (out, last) := o.foldl (fun (before : Octets × Option Char) c =>
    if t.deletes.getD c.toNat false then before
    else
      let c := t.becomes.getD c.toNat c
      if before.2 == some c && t.squeezes.getD c.toNat false then before
      else (c :: before.1, some c)) ([], last)
  (out.reverse, last)

/-- Translates what there is to read, as it comes. -/
def translateStream (t : Translation) (fuel : Nat) (last : Option Char) : ToolRun Nat :=
  match fuel with
  | 0 => return 0
  | fuel + 1 => do
    match ← liftM (Run.read 0 Run.blockSize) with
    | .error fault =>
      complain (octets ("read error: " ++ fault.message))
      return 1
    | .ok bytes =>
      if bytes.isEmpty then return 0
      let (out, last) := t.apply last (Octets.ofBytes bytes)
      print out
      flush
      translateStream t fuel last

/-- Characters and what becomes of them, from two lists. -/
def charPairs (fuel : Nat) (first second : List CharItem) : List (Char × Char) :=
  match fuel, first, second with
  | fuel + 1, a :: r, b :: s =>
    match a.letterClass, b.letterClass with
    | some "lower", some "upper" =>
      allChars.filterMap (fun c => if c.isLower then some (c, c.toUpper) else none)
        ++ charPairs fuel (skipPart first) (skipPart second)
    | some "upper", some "lower" =>
      allChars.filterMap (fun c => if c.isUpper then some (c, c.toLower) else none)
        ++ charPairs fuel (skipPart first) (skipPart second)
    | _, some _ => (a.char, b.char) :: charPairs fuel (skipPart first) (skipPart second)
    | _, none => (a.char, b.char) :: charPairs fuel r s
  | _, _, _ => []

/-- Gives up if two lists cannot say what becomes of characters; otherwise gives the second one, at
least as long as the first, which has a number of characters. -/
def checkedTarget (complements truncates : Bool) (length : Nat) (first second : List CharSet) :
    ToolRun (List CharSet) := do
  let isClass (part : CharSet) : Bool := part matches .classOf _
  if second.any fun part => part matches .equals _ then
    giveUp 1 (octets "[=c=] expressions may not appear in string2 when translating")
  if second.any fun
      | .classOf name => name != "upper" && name != "lower"
      | _ => false then
    giveUp 1 (octets ("when translating, the only character classes that may appear in\n"
      ++ "string2 are 'upper' and 'lower'"))
  if !complements && second.any isClass then
    if !areAligned (length + 1) (charItems first) (charItems second) then
      giveUp 1 (octets "misaligned [:upper:] and/or [:lower:] construct")
  let size := (second.map (·.members.length)).sum
  let mut target := second
  if size < length && !truncates then
    match second.getLast? with
    | none => giveUp 1 (octets "when not truncating set1, string2 must be non-empty")
    | some (.classOf _) =>
      if size == 0 then giveUp 1 (octets "when not truncating set1, string2 must be non-empty")
      giveUp 1 (octets ("when translating with string1 longer than string2,\n"
        ++ "the latter string must not end with a character class"))
    | some (.copies c _) =>
      if size == 0 then giveUp 1 (octets "when not truncating set1, string2 must be non-empty")
      target := second ++ [.copies c (length - size)]
    | some part => target := second ++ [.copies (part.members.getLastD '\x00') (length - size)]
  if complements && first.any isClass then
    let members := target.flatMap (·.members)
    let isOne := members.length == length && members.all (some · == members.head?)
    if !isOne then
      giveUp 1 (octets ("when translating with complemented character classes,\n"
        ++ "string2 must map all characters in the domain to one"))
  return target

/-- What becomes of characters as two lists say. -/
def translationOf (complements deletes squeezes truncates : Bool) (first : List CharSet)
    (second : Option (List CharSet)) : ToolRun Translation := do
  let listed := first.flatMap (·.members)
  let isListed := memberTable listed
  let sources := if complements then allChars.filter fun c => !isListed.getD c.toNat false
    else listed
  if first.any (·.isEndless) then
    giveUp 1 (octets "the [c*] repeat construct may not appear in string1")
  let noMembers := Array.replicate 256 false
  let same := allChars.toArray
  let isTranslating := second.isSome && !deletes
  let second ← second.mapM fun second => do
    let endless := (second.filter (·.isEndless)).length
    let size := (second.map (·.members.length)).sum
    let second := if endless == 1 && size ≤ sources.length then
        second.map fun
          | .copies c 0 => .copies c (sources.length - size)
          | part => part
      else second
    if 1 < endless then
      giveUp 1 (octets "only one [c*] repeat construct may appear in string2")
    if isTranslating then checkedTarget complements truncates sources.length first second
    else
      if endless == 1 && size < sources.length then
        giveUp 1 (octets "the [c*] construct may appear in string2 only when translating")
      pure second
  let members := (second.getD []).flatMap (·.members)
  let table := memberTable sources
  if deletes then return ⟨table, same, if squeezes then memberTable members else noMembers⟩
  match second with
  | none => return ⟨noMembers, same, table⟩
  | some second =>
    let pairs := if complements then sources.zip members
      else charPairs (sources.length + 1) (charItems first) (charItems second)
    let becomes := pairs.foldl (fun table p => table.set! p.1.toNat p.2) same
    return ⟨noMembers, becomes, if squeezes then memberTable members else noMembers⟩

/-- Changes, deletes or squeezes characters. -/
def translateTool : Procedure := fun _ arguments => do
  let (given, sets) ← OptionSpec.parse
    [.flag 'c' "complement", .flag 'C' "complement", .flag 'd' "delete",
      .flag 's' "squeeze-repeats", .flag 't' "truncate-set1"] 1 true (arguments.length + 1) arguments
  let deletes := has given "delete"
  let squeezes := has given "squeeze-repeats"
  let least := if deletes == squeezes then 2 else 1
  let most := if deletes && !squeezes then 1 else 2
  let complainMore (message : Octets) (more : String) : ToolRun Nat := do
    complain message
    if more != "" then writeErrors (octets (more ++ "\n"))
    suggestHelp 1
  if sets.length < least then
    match sets.getLast? with
    | none => complainMore (octets "missing operand") ""
    | some last =>
      complainMore (octets "missing operand after " ++ quote last)
        (if squeezes then "Two strings must be given when both deleting and squeezing repeats."
          else "Two strings must be given when translating.")
  else if most < sets.length then
    complainMore (octets "extra operand " ++ quote ((sets[most]?).getD []))
      (if sets.length == 2 then
          "Only one string may be given when deleting without squeezing repeats."
        else "")
  else
    let first ← charSetOf ((sets[0]?).getD [])
    let second ← (sets[1]?).mapM charSetOf
    let t ← translationOf (has given "complement") deletes squeezes
      (has given "truncate-set1" && second.isSome && !deletes) first second
    translateStream t Run.patience none

end Flowscript.Tool
