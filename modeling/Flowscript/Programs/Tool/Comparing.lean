import Flowscript.Host.Kernel
import Flowscript.Programs.Tool.LineOrder
import Flowscript.Programs.Tool.Measure
import Flowscript.Programs.Tool.Names
import Flowscript.Programs.Tool.Sorting

/-!
# Two files at a time

Tools that compare files or join their lines.

* `compareTool` tells the first byte that differs, or all of them.
* `JoinStyle` says how lines of two inputs are joined, and `JoinStyle.line` joins two of them.
* `joinTool` joins the lines of two sorted inputs that have a field in common.
-/

set_option autoImplicit false

namespace Flowscript.Tool

/-! ## A program that compares files byte by byte -/

/-- The number of bytes before the first that differs, and of lines before it. -/
def commonLength (a b : Octets) (count lines : Nat) : Nat × Nat :=
  match a, b with
  | c :: r, d :: s =>
    if c == d then commonLength r s (count + 1) (if c == '\n' then lines + 1 else lines)
    else (count, lines)
  | _, _ => (count, lines)

/-- A byte as three octal digits, with blanks for those that are not needed. -/
def octalText (c : Char) : Octets :=
  let digits := Nat.toDigits 8 c.toNat
  List.replicate (3 - digits.length) ' ' ++ digits

/-- A byte that can be seen. -/
def visibleByte (c : Char) : Octets :=
  let low := c.toNat % 128
  let body : Octets :=
    if low < 32 then ['^', Char.ofNat (low + 64)]
    else if low == 127 then ['^', '?']
    else [Char.ofNat low]
  if 128 ≤ c.toNat then 'M' :: '-' :: body else body

/-- What is compared: what is told, and where it starts and stops. -/
structure ByteComparison where
  tellsAll : Bool
  tellsNothing : Bool
  showsBytes : Bool
  skipped : Nat × Nat
  most : Option Nat

/-- The suffixes of numbers of bytes. -/
def comparedUnits : String := "kKMGTPEZY0"

/-- The number of bytes that are skipped. -/
def skippedBytes (whole o : Octets) : ToolRun Nat := do
  match scanMeasure none comparedUnits o with
  | .ok n => return n
  | .error _ => giveUpUsage 2 (octets "invalid --ignore-initial value '" ++ whole ++ ['\''])

/-- Reads what is compared from options. -/
def readByteComparison (given : List GivenOption) : ToolRun ByteComparison := do
  let mut c : ByteComparison := ⟨false, false, false, (0, 0), none⟩
  for (name, value) in given do
    match name with
    | "print-bytes" => c := { c with showsBytes := true }
    | "verbose" =>
      if c.tellsNothing then giveUpUsage 2 (octets "options -l and -s are incompatible")
      c := { c with tellsAll := true }
    | "bytes" =>
      match scanMeasure none comparedUnits value with
      | .ok n => c := { c with most := some (min n (c.most.getD n)) }
      | .error _ => giveUpUsage 2 (octets "invalid --bytes value '" ++ value ++ ['\''])
    | "ignore-initial" =>
      let first := value.takeWhile (· != ':')
      let n ← skippedBytes value first
      let m ← if first.length == value.length then pure n
        else skippedBytes value (value.drop (first.length + 1))
      c := { c with skipped := (max n c.skipped.1, max m c.skipped.2) }
    | _ =>
      if c.tellsAll then giveUpUsage 2 (octets "options -l and -s are incompatible")
      c := { c with tellsNothing := true }
  return c

/-- Tells that a file ends before the other one. -/
def tellEnd (c : ByteComparison) (name o : Octets) (count lines : Nat) : ToolRun Nat := do
  if c.tellsNothing then return 1
  if count == 0 then complain (octets "EOF on " ++ name ++ octets " which is empty")
  else
    let lineText :=
      if c.tellsAll then ""
      else if (o.drop (count - 1)).head? == some '\n' then s!", line {lines}"
      else s!", in line {lines + 1}"
    complain (octets "EOF on " ++ name ++ octets s!" after byte {count}" ++ octets lineText)
  return 1

/-- Tells all bytes that differ. -/
def tellAll (c : ByteComparison) (width : Nat) (a b : Octets) : ToolRun Bool := do
  let mut differs := false
  for ((x, y), i) in (a.zip b).zipIdx 1 do
    if x != y then
      differs := true
      let digits := Nat.toDigits 10 i
      let seen (z : Char) : Octets := if c.showsBytes then ' ' :: visibleByte z else []
      let first := seen x
      let gap := if c.showsBytes then List.replicate (5 - first.length) ' ' else []
      printLine (List.replicate (width - digits.length) ' ' ++ digits ++ ' ' :: octalText x
        ++ first ++ gap ++ ' ' :: octalText y ++ seen y)
  return differs

/-- Compares two texts. -/
def compareTexts (c : ByteComparison) (width : Nat) (first second a b : Octets) : ToolRun Nat := do
  if c.tellsAll then
    let differs ← tellAll c width a b
    if a.length < b.length then tellEnd c first a a.length 0
    else if b.length < a.length then tellEnd c second b b.length 0
    else return if differs then 1 else 0
  else
    let (count, lines) := commonLength a b 0 0
    match a.drop count, b.drop count with
    | [], [] => return 0
    | [], _ => tellEnd c first a count lines
    | _, [] => tellEnd c second a count lines
    | x :: _, y :: _ =>
      if c.tellsNothing then return 1
      let place := s!" {count + 1}, line {lines + 1}"
      let differ (unit : String) : Octets :=
        first ++ ' ' :: second ++ octets (" differ: " ++ unit ++ place)
      if c.showsBytes then
        printLine (differ "byte" ++ octets " is " ++ octalText x ++ ' ' :: visibleByte x
          ++ ' ' :: octalText y ++ ' ' :: visibleByte y)
      else printLine (differ "char")
      return 1

/-- Compares two files byte by byte. -/
def compareTool : Procedure := fun _ arguments => do
  modify fun s => { s with usage := octets "cmp: " }
  let (given, operands) ← options
    [.flag 'b' "print-bytes", .flag 'c' "print-bytes", .setting 'i' "ignore-initial",
      .flag 'l' "verbose", .setting 'n' "bytes", .flag 's' "silent",
      .flag OptionSpec.noLetter "quiet"] 2 arguments
  let c ← readByteComparison given
  let (first, second, skips) ← match operands with
    | [] =>
      giveUpUsage 2 (octets "missing operand after " ++ quote (arguments.getLastD (octets "cmp")))
    | [a] => pure (a, ['-'], [])
    | a :: b :: rest => pure (a, b, rest)
  let skip ← match skips with
    | [] => pure c.skipped
    | [a] => pure (max c.skipped.1 (← skippedBytes a a), c.skipped.2)
    | [a, b] =>
      pure (max c.skipped.1 (← skippedBytes a a), max c.skipped.2 (← skippedBytes b b))
    | _ :: _ :: x :: _ => giveUpUsage 2 (octets "extra operand " ++ quote x)
  let c := { c with skipped := skip }
  let content (path : Octets) : ToolRun Octets := do
    match ← readInput path with
    | .ok bytes => return Octets.ofBytes bytes
    | .error fault =>
      if fault == .isDirectory || !c.tellsNothing then
        complain (path ++ octets (": " ++ fault.message))
      exit 2
  let present (path : Octets) : ToolRun Unit := do
    if path == ['-'] then return ()
    if let .error fault ← find path true then
      if !c.tellsNothing then complain (path ++ octets (": " ++ fault.message))
      exit 2
  for path in if second == ['-'] then [second, first] else [first, second] do
    present path
  if c.skipped.1 == c.skipped.2 && first == second then return 0
  let isSame ← look fun k => k.isSame first second
  if isSame && c.skipped.1 == c.skipped.2 then return 0
  let a ← content first
  let b ← content second
  let cut (o : Octets) (skipped : Nat) : Octets := match c.most with
    | some n => (o.drop skipped).take n
    | none => o.drop skipped
  let a := cut a c.skipped.1
  let b := cut b c.skipped.2
  let sizes := (if first == ['-'] then [] else [a.length])
    ++ (if second == ['-'] then [] else [b.length]) ++ c.most.toList
  let width := (Nat.toDigits 10 (sizes.min?.getD (2 ^ 63 - 1))).length
  compareTexts c width first second a b

/-! ## A program that joins lines -/

/-! ### Joined lines -/

/-- What is printed of joined lines: the fields that they have, as many of each as its first line
has, or a list of fields, in which the input zero means the one that lines are joined by. -/
inductive JoinFormat where
  | whole
  | even (first second : Nat)
  | fields (list : List (Nat × Nat))

/-- How lines of two inputs are joined. -/
structure JoinStyle where
  /-- What stands between fields; blanks do if there is none. -/
  mark : Option Char
  /-- The place of the field that lines are joined by, from zero on, in the first input. -/
  first : Nat
  second : Nat
  foldsCase : Bool
  /-- Whether lines of either input without a partner are printed. -/
  unpaired : Bool × Bool
  /-- Whether lines with a partner are. -/
  paired : Bool
  format : JoinFormat
  filler : Octets

namespace JoinStyle

/-- The field that lines of an input are joined by. -/
def place (style : JoinStyle) (number : Nat) : Nat :=
  if number == 1 then style.first else style.second

/-- The fields between blanks, after the blanks that a line starts with. -/
def blankFields (fuel : Nat) (o : Octets) : List Octets :=
  match fuel with
  | 0 => [o]
  | fuel + 1 =>
    match o.dropWhile fun c => !isFieldBlank c with
    | [] => [o]
    | rest =>
      o.take (o.length - rest.length) :: blankFields fuel (rest.dropWhile isFieldBlank)

/-- The fields of a line. -/
def fieldsOf (style : JoinStyle) (line : Octets) : List Octets :=
  match style.mark with
  | some c => if line.isEmpty then [] else Text.splitAt (· == c) line
  | none =>
    let o := line.dropWhile isFieldBlank
    if o.isEmpty then [] else blankFields o.length o

/-- Compares the fields that lines of two inputs are joined by. -/
def compare (style : JoinStyle) (m n : Nat) (a b : List Octets) : Ordering :=
  let key (number : Nat) (fields : List Octets) : Octets :=
    let o := (fields[style.place number]?).getD []
    if style.foldsCase then o.map Char.toUpper else o
  compareOctets (key m a) (key n b)

/-- Joins a line of each input, or one of them alone. -/
def line (style : JoinStyle) (a b : Option (List Octets)) : Octets :=
  let field (fields : Option (List Octets)) (n : Nat) : Octets :=
    let o := ((fields.getD [])[n]?).getD []
    if o.isEmpty then style.filler else o
  let key := match a with
    | some fields => field (some fields) style.first
    | none => field b style.second
  let others (fields : Option (List Octets)) (place count : Nat) : List Octets :=
    ((List.range count).filter (· != place)).map (field fields)
  let size (fields : Option (List Octets)) : Nat := (fields.getD []).length
  let fields := match style.format with
    | .fields list => list.map fun (source, n) =>
        if source == 0 then key else if source == 1 then field a n else field b n
    | .whole => key :: others a style.first (size a) ++ others b style.second (size b)
    | .even m n => key :: others a style.first m ++ others b style.second n
  Octets.join [style.mark.getD ' '] fields

end JoinStyle

/-! ### Reading both inputs -/

/-- An input whose lines are joined: its number and name, the lines that are left with their numbers,
the line before, and whether it is known not to be sorted. -/
structure JoinInput where
  number : Nat
  name : Octets
  rest : List (Nat × Octets)
  before : Option (List Octets)
  isDisordered : Bool

/-- When the order of both inputs is checked. -/
structure JoinWatch where
  kind : OrderCheck
  /-- Whether there was a line without a partner. -/
  isAlone : Bool

/-- Reads a line, and complains if it is not in order. -/
def JoinInput.read (style : JoinStyle) (watch : JoinWatch) (s : JoinInput) :
    ToolRun (Option (List Octets) × JoinInput) := do
  match s.rest with
  | [] => return (none, s)
  | (n, line) :: rest =>
    let fields := style.fieldsOf line
    let checks := watch.kind == .always || (watch.kind == .whenAlone && watch.isAlone)
    let isWrong := checks && !s.isDisordered
      && s.before.any fun before => style.compare s.number s.number before fields == .gt
    if isWrong then
      complain (s.name ++ octets (":" ++ toString n ++ ": is not sorted: ") ++ line)
      if watch.kind == .always then throw 1
    return (some fields,
      { s with rest := rest, before := some fields, isDisordered := s.isDisordered || isWrong })

/-- Reads lines as long as they are joined to the same lines as the first one; gives them and the one
after them. -/
def JoinInput.readSame (style : JoinStyle) (watch : JoinWatch) (fuel : Nat) (s : JoinInput)
    (first : List Octets) : ToolRun (List (List Octets) × Option (List Octets) × JoinInput) :=
  match fuel with
  | 0 => return ([first], none, s)
  | fuel + 1 => do
    let (next, s) ← s.read style watch
    match next with
    | none => return ([first], none, s)
    | some fields =>
      if style.compare s.number s.number first fields == .eq then
        let (same, next, s) ← s.readSame style watch fuel fields
        return (first :: same, next, s)
      else return ([first], some fields, s)

/-- Reads the lines of an input that are left, which have no partner. -/
def JoinInput.readRest (style : JoinStyle) (watch : JoinWatch) (isShown : Bool)
    (showLine : List Octets → ToolRun Unit) (fuel : Nat) (s : JoinInput) : ToolRun JoinInput :=
  match fuel with
  | 0 => return s
  | fuel + 1 => do
    let (next, s) ← s.read style watch
    match next with
    | none => return s
    | some fields =>
      if isShown then showLine fields
      if s.isDisordered && !isShown then return s
      s.readRest style watch isShown showLine fuel

/-- Joins the lines of two inputs; says whether one of them is not sorted. -/
def joinInputs (style : JoinStyle) (showLine : Octets → ToolRun Unit) (fuel : Nat)
    (watch : JoinWatch) (a b : JoinInput) (x y : Option (List Octets)) : ToolRun Bool :=
  match fuel with
  | 0 => return false
  | fuel + 1 => do
    let alone (watch : JoinWatch) : JoinWatch := { watch with isAlone := true }
    let left (fields : List Octets) : ToolRun Unit := showLine (style.line (some fields) none)
    let right (fields : List Octets) : ToolRun Unit := showLine (style.line none (some fields))
    match x, y with
    | some f, some g =>
      match style.compare 1 2 f g with
      | .lt =>
        if style.unpaired.1 then left f
        let (x, a) ← a.read style watch
        joinInputs style showLine fuel (alone watch) a b x y
      | .gt =>
        if style.unpaired.2 then right g
        let (y, b) ← b.read style watch
        joinInputs style showLine fuel (alone watch) a b x y
      | .eq =>
        let (firsts, x, a) ← a.readSame style watch (a.rest.length + 1) f
        let (seconds, y, b) ← b.readSame style watch (b.rest.length + 1) g
        if style.paired then
          for f in firsts do
            for g in seconds do showLine (style.line (some f) (some g))
        joinInputs style showLine fuel watch a b x y
    | _, _ =>
      let checks := watch.kind != .never && !(a.isDisordered && b.isDisordered)
      let watch := if x.isSome && y.isSome then alone watch else watch
      let finish (s : JoinInput) (last : Option (List Octets)) (isShown : Bool)
          (showRest : List Octets → ToolRun Unit) : ToolRun JoinInput := do
        match last with
        | none => return s
        | some fields =>
          if isShown then showRest fields
          if isShown || checks then
            s.readRest style watch isShown showRest (s.rest.length + 1)
          else return s
      let a ← finish a x style.unpaired.1 left
      let b ← finish b y style.unpaired.2 right
      return a.isDisordered || b.isDisordered

/-! ### The program -/

/-- Reads the number of a field, and gives its place from zero on. -/
def readFieldPlace (o : Octets) : ToolRun Nat := do
  match Octets.natural? o with
  | some (n + 1) => return n
  | _ => giveUp 1 (octets "invalid field number: " ++ quote o)

/-- Reads a field of an input. -/
def readJoinField (o : Octets) : ToolRun (Nat × Nat) := do
  match o with
  | ['0'] => return (0, 0)
  | c :: r =>
    if c != '0' && c != '1' && c != '2' then
      giveUp 1 (octets "invalid file number in field spec: " ++ quote o)
    match r with
    | '.' :: digits =>
      if c == '0' then giveUp 1 (octets "invalid field specifier: " ++ quote o)
      return (Text.wideDigitValue c, ← readFieldPlace digits)
    | _ => giveUp 1 (octets "invalid field specifier: " ++ quote o)
  | [] => giveUp 1 (octets "invalid file number in field spec: " ++ quote o)

/-- The place of the field that lines of an input are joined by. -/
def joinPlace (given : List GivenOption) (own : String) : ToolRun Nat := do
  let values := (given.filter fun o => o.1 == own || o.1 == "both").map (·.2)
  let places ← values.mapM readFieldPlace
  match places.eraseDups with
  | [] => return 0
  | [n] => return n
  | m :: n :: _ => giveUp 1 (octets s!"incompatible join fields {m}, {n}")

/-- Joins the lines of two inputs that have a field in common. -/
def joinTool : Procedure := fun _ arguments => do
  let (given, operands) ← options
    [.setting '1' "first", .setting '2' "second", .setting 'j' "both", .setting 't' "mark",
      .setting 'a' "all", .setting 'v' "unpaired", .setting 'o' "format", .setting 'e' "empty",
      .flag 'i' "ignore-case", .flag 'z' "zero-terminated", .flag OptionSpec.noLetter "header",
      .flag OptionSpec.noLetter "check-order", .flag OptionSpec.noLetter "nocheck-order"] 1
    arguments
  let values (name : String) : List Octets := (given.filter (·.1 == name)).map (·.2)
  for o in values "all" ++ values "unpaired" do
    if o != ['1'] && o != ['2'] then giveUp 1 (octets "invalid field number: " ++ quote o)
  let wants (n : Char) : Bool :=
    (values "all").contains [n] || (values "unpaired").contains [n]
  if 1 < (values "empty").eraseDups.length then
    giveUp 1 (octets "conflicting empty-field replacement strings")
  let ending := if has given "zero-terminated" then '\x00' else '\n'
  let mark ← match valueOf? given "mark" with
    | none => pure none
    | some [] => pure (some '\n')
    | some ['\\', '0'] => pure (some '\x00')
    | some [c] => pure (some c)
    | some o => giveUp 1 (octets "multi-character tab " ++ quote o)
  let extra := if (values "format").isEmpty then [] else operands.take (operands.length - 2)
  let paths := operands.drop extra.length
  let lists := values "format" ++ extra
  let isEven := lists == [octets "auto"]
  let isBetween (c : Char) : Bool := c == ',' || c == ' ' || c == '\t'
  let list ← (if isEven then [] else lists.flatMap (Text.splitAt isBetween)).mapM readJoinField
  let style : JoinStyle :=
    { mark := mark
      first := ← joinPlace given "first"
      second := ← joinPlace given "second"
      foldsCase := has given "ignore-case"
      unpaired := (wants '1', wants '2')
      paired := (values "unpaired").isEmpty
      format := if lists.isEmpty || isEven then .whole else .fields list
      filler := (valueOf? given "empty").getD [] }
  let watch : JoinWatch :=
    ⟨if has given "nocheck-order" then .never
      else if has given "check-order" then .always else .whenAlone, false⟩
  let input (number : Nat) (path : Octets) : ToolRun JoinInput := do
    match ← readInput path with
    | .ok bytes =>
      let pieces := Text.splitAt (· == ending) (Octets.ofBytes bytes)
      let lines := if pieces.getLast? == some [] then pieces.dropLast else pieces
      return ⟨number, path, (lines.zipIdx 1).map fun (line, n) => (n, line), none, false⟩
    | .error fault =>
      complainAbout path fault
      throw 1
  match paths with
  | [p, q] =>
    if p == ['-'] && q == ['-'] then giveUp 1 (octets "both files cannot be standard input")
    let a ← input 1 p
    let b ← input 2 q
    let fuel := a.rest.length + b.rest.length + 2
    let (x, a) ← a.read style watch
    let (y, b) ← b.read style watch
    let size (fields : Option (List Octets)) : Nat := (fields.getD []).length
    let style := if isEven then { style with format := .even (size x) (size y) } else style
    let showLine (o : Octets) : ToolRun Unit := print (o ++ [ending])
    let hasHeader := has given "header" && (x.isSome || y.isSome)
    if hasHeader then showLine (style.line x y)
    let step (s : JoinInput) (first : Option (List Octets)) :
        ToolRun (Option (List Octets) × JoinInput) := do
      if hasHeader then JoinInput.read style watch { s with before := none }
      else return (first, s)
    let (x, a) ← step a x
    let (y, b) ← step b y
    if ← joinInputs style showLine fuel watch a b x y then
      giveUp 1 (octets "input is not in sorted order")
    return 0
  | [] => giveUpUsage 1 (octets "missing operand")
  | [a] => giveUpUsage 1 (octets "missing operand after " ++ quote a)
  | _ :: _ :: c :: _ => giveUpUsage 1 (octets "extra operand " ++ quote c)

end Flowscript.Tool
