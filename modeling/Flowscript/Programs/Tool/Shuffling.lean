import Flowscript.Programs.Tool.Measure
import Flowscript.Programs.Tool.Transfer

/-!
# Lines in no order

* `RandomBytes` are bytes that decide, from a file or made up.
* `Chance.choose` chooses one of some numbers.
* `shuffleTool` prints lines in an order that bytes decide.
-/

set_option autoImplicit false

namespace Flowscript.Tool

/-- Bytes that decide: those of a file with its name, or those that follow from a number. -/
inductive RandomBytes where
  | listed (path : Octets) (bytes : Octets)
  | madeUp (seed : Nat)

/-- What is left of bytes that decide: those that have not been used, and a number made of those
that have, with the largest that it could be. -/
structure Chance where
  bytes : RandomBytes
  number : Nat
  most : Nat

namespace Chance

/-- The next byte. -/
def next (c : Chance) : ToolRun (Nat × Chance) := do
  match c.bytes with
  | .listed path [] => giveUp 1 (quote path ++ octets ": end of file")
  | .listed path (b :: rest) => return (b.toNat, { c with bytes := .listed path rest })
  | .madeUp seed =>
    let seed := (seed * 6364136223846793005 + 1442695040888963407) % 2 ^ 64
    return (seed / 2 ^ 33 % 256, { c with bytes := .madeUp seed })

/-- Adds bytes until the number can be as large as some other one. -/
def widen (fuel bound : Nat) (c : Chance) : ToolRun Chance :=
  match fuel with
  | 0 => return c
  | fuel + 1 => do
    if bound ≤ c.most then return c
    let (byte, c) ← c.next
    widen fuel bound
      { c with number := (c.number * 256 + byte) % 2 ^ 64, most := (c.most * 256 + 255) % 2 ^ 64 }

/-- Chooses a number up to some bound, each as likely as any other. -/
def upTo (fuel bound : Nat) (c : Chance) : ToolRun (Nat × Chance) :=
  match fuel with
  | 0 => return (0, c)
  | fuel + 1 => do
    let c ← c.widen 9 bound
    if c.most == bound then return (c.number, { c with number := 0, most := 0 })
    let choices := bound + 1
    let excess := c.most - bound
    let useless := excess % choices
    if c.number ≤ c.most - useless then
      return (c.number % choices, { c with number := c.number / choices, most := excess / choices })
    upTo fuel bound { c with number := c.number % choices, most := useless - 1 }

/-- Chooses one of the numbers less than some number, which is positive. -/
def choose (count : Nat) (c : Chance) : ToolRun (Nat × Chance) := upTo 100000 (count - 1) c

/-- Puts a member chosen by chance to each of the first places, one after the other. -/
def mix {α : Type} (count place : Nat) (items : Array α) (c : Chance) :
    ToolRun (Array α × Chance) :=
  match count with
  | 0 => return (items, c)
  | count + 1 => do
    let (n, c) ← c.choose (items.size - place)
    mix count (place + 1) (items.swapIfInBounds place (place + n)) c

/-- Chooses some of the numbers less than some number, one after the other.  `moved` are those that
stand at the place of another one. -/
def pick (count place size : Nat) (moved : List (Nat × Nat)) (c : Chance) :
    ToolRun (List Nat) :=
  match count with
  | 0 => return []
  | count + 1 => do
    let (n, c) ← c.choose (size - place)
    let standing (k : Nat) : Nat := (moved.lookup k).getD k
    let rest ← pick count (place + 1) size ((place + n, standing place) :: moved) c
    return standing (place + n) :: rest

end Chance

/-- Reads lines, and keeps some of them, each as likely as any other. -/
def keepSome (mark : Char) (count : Nat) (c : Chance) : ToolRun (Array Octets × Chance) := do
  let step (known : Array Octets × Nat × Nat × Chance) (line : Octets) (_ : Bool) :
      ToolRun (Onward (Array Octets × Nat × Nat × Chance)) := do
    let (kept, place, seen, c) := known
    let kept := if place < kept.size then kept.set! place line
      else if seen < count then kept.push line else kept
    let seen := seen + 1
    if seen < count then return ((kept, kept.size, seen, c), true)
    let (place, c) ← c.choose (seen + 1)
    return ((kept, if place < count then place else count, seen, c), true)
  let ((kept, _, _, c), _) ← eachLine mark step 1 (#[], 0, 0, c) [['-']]
  return (kept, c)

/-- The range of numbers that a text gives. -/
def numberRange (o : Octets) : ToolRun (Nat × Nat) := do
  let refuse (reason : String) : ToolRun (Nat × Nat) :=
    giveUp 1 (octets "invalid input range: " ++ quote o ++ octets reason)
  let low := o.takeWhile (· != '-')
  match scanMeasure (some 10) "" low, o.drop low.length with
  | .ok first, '-' :: high =>
    match scanMeasure (some 10) "" high with
    | .ok last =>
      if last + 1 < first || last + 1 - first == 2 ^ 64 then refuse "" else return (first, last)
    | .error .tooLarge => refuse ": Value too large for defined data type"
    | .error _ => refuse ""
  | .error .tooLarge, _ => refuse ": Value too large for defined data type"
  | _, _ => refuse ""

/-- Prints lines again and again, each chosen by chance. -/
def repeatLines (mark : Char) (lines : Array Octets) (fuel : Nat) (c : Chance) : ToolRun Unit :=
  match fuel with
  | 0 => return ()
  | fuel + 1 => do
    let (n, c) ← c.choose lines.size
    print (lines.getD n [] ++ [mark])
    repeatLines mark lines fuel c

/-- Prints numbers of a range again and again, each chosen by chance. -/
def repeatNumbers (mark : Char) (first size fuel : Nat) (c : Chance) : ToolRun Unit :=
  match fuel with
  | 0 => return ()
  | fuel + 1 => do
    let (n, c) ← c.choose size
    print (Nat.toDigits 10 (first + n) ++ [mark])
    repeatNumbers mark first size fuel c

/-- The size from which on numbers of a range are not listed. -/
def wholeRangeSize : Nat := 100000

/-- The size from which on an input is not read as a whole. -/
def wholeInputSize : Nat := 8 * 1024 * 1024

/-- Prints lines in an order that is left to chance. -/
def shuffleTool : Procedure := fun _ arguments => do
  let (given, operands) ← options
    [.flag 'e' "echo", .setting 'i' "input-range", .setting 'n' "head-count",
      .setting 'o' "output", .setting OptionSpec.noLetter "random-source", .flag 'r' "repeat",
      .flag 'z' "zero-terminated"] 1 arguments
  let mut range : Option (Nat × Nat) := none
  let mut most : Nat := 2 ^ 64 - 1
  let mut output : Option Octets := none
  let mut source : Option Octets := none
  for (option, o) in given do
    if option == "input-range" then
      if range.isSome then giveUp 1 (octets "multiple -i options specified")
      range := some (← numberRange o)
    else if option == "head-count" then
      match scanMeasure (some 10) "" o with
      | .ok n => most := min most n
      | .error .tooLarge => pure ()
      | .error _ => giveUp 1 (octets "invalid line count: " ++ quote o)
    else if option == "output" then
      if output.any (· != o) then giveUp 1 (octets "multiple output files specified")
      output := some o
    else if option == "random-source" then
      if source.any (· != o) then giveUp 1 (octets "multiple random sources specified")
      source := some o
  let echoes := has given "echo"
  let repeats := has given "repeat"
  let mark := if has given "zero-terminated" then '\x00' else '\n'
  if echoes && range.isSome then giveUpUsage 1 (octets "cannot combine -e and -i options")
  if range.isSome then refuseExtra 1 0 operands
  else if !echoes then refuseExtra 1 1 operands
  let input := operands.headD ['-']
  let isFromFile := most != 0 && !echoes && range.isNone
  if isFromFile && input != ['-'] then
    match ← openInput input with
    | .ok descriptor =>
      kernel fun k => match k.file? descriptor with
        | some (i, _) => ((), (k.setDescriptor 0 i).close descriptor)
        | none => ((), k)
    | .error fault => giveUp 1 (quoteName input ++ octets (": " ++ fault.message))
  let size ← look fun k => match k.file? 0 with
    | some (_, file) =>
      match file.channel with
      | .node n => (k.tree.content? n).map ByteArray.size
      | .pipe _ => none
    | none => none
  let isSampled := isFromFile && !repeats && most != 2 ^ 64 - 1
    && size.all (wholeInputSize < ·)
  let lines : Array Octets ← if most == 0 then pure #[]
    else if echoes then pure operands.toArray
    else match range with
      | some (first, last) =>
        if last + 1 - first < wholeRangeSize then
          pure ((List.range (last + 1 - first)).map fun n => Nat.toDigits 10 (first + n)).toArray
        else pure #[]
      | none =>
        if isSampled then pure #[]
        else
          match ← liftM (Run.readAll 0) with
          | .error fault => giveUp 1 (octets ("read error: " ++ fault.message))
          | .ok bytes =>
            let pieces := Text.splitAt (· == mark) (Octets.ofBytes bytes)
            pure (if pieces.getLast? == some [] then pieces.dropLast else pieces).toArray
  let bytes ← match source with
    | none => pure (RandomBytes.madeUp (← look (·.now)))
    | some path =>
      match ← readInput path with
      | .ok bytes => pure (.listed path (Octets.ofBytes bytes))
      | .error fault => giveUp 1 (quoteName path ++ octets (": " ++ fault.message))
  let chance : Chance := ⟨bytes, 0, 0⟩
  let (lines, chance) ← if isSampled then keepSome mark most chance else pure (lines, chance)
  let count := min most lines.size
  let (lines, chance) ←
    if repeats then pure (lines, chance)
    else if lines.size ≤ 1 then pure (lines, chance)
    else chance.mix count 0 lines
  match output with
  | none => pure ()
  | some path =>
    match ← liftM (Run.openFile (Octets.toText path) .write) with
    | .ok descriptor =>
      kernel fun k => match k.file? descriptor with
        | some (i, _) => ((), (k.setDescriptor 1 i).close descriptor)
        | none => ((), k)
    | .error fault => giveUp 1 (quoteName path ++ octets (": " ++ fault.message))
  let wide := range.filter fun r => most != 0 && wholeRangeSize ≤ r.2 + 1 - r.1
  match wide with
  | some (first, last) =>
    let size := last + 1 - first
    if repeats then
      repeatNumbers mark first size (min most Run.patience) chance
    else
      for n in ← chance.pick (min most size) 0 size [] do
        print (Nat.toDigits 10 (first + n) ++ [mark])
    return 0
  | none => pure ()
  if repeats then
    if most == 0 then return 0
    if lines.isEmpty then giveUp 1 (octets "no lines to repeat")
    repeatLines mark lines (min most Run.patience) chance
  else
    for line in lines.toList.take count do print (line ++ [mark])
  return 0

end Flowscript.Tool
