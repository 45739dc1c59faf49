import Flowscript.Programs.Tool.Measure
import Flowscript.Programs.Tool.Streams

/-!
# Blocks of bytes

* `BlockPlan` says how blocks are copied, and `BlockChange` what becomes of bytes.
* `blockTool` copies some blocks of an input to a place in another file.
-/

set_option autoImplicit false

namespace Flowscript.Tool

/-! ## What becomes of bytes -/

/-- A change of a stream of bytes. -/
inductive BlockChange where
  | upper
  | lower
  /-- Two bytes after one another change places. -/
  | swap
  /-- Lines become records of a given length. -/
  | block
  /-- Records become lines. -/
  | unblock
  /-- A block that is too short is filled. -/
  | fill
  deriving DecidableEq, Repr

/-- What is known between blocks: a byte that waits for another one, how much there is of a record,
how many blanks may end one, and how many records were too long. -/
structure BlockState where
  saved : Option Char
  column : Nat
  blanks : Nat
  cut : Nat

/-- Bytes whose pairs have changed places, after one that waited, and the one that waits now. -/
def swapPairs (saved : Option Char) (o : Octets) : Octets × Option Char :=
  let rec go (fuel : Nat) (done : Octets) : Octets → Octets × Option Char
    | a :: b :: r =>
      match fuel with
      | 0 => (done.reverse, none)
      | fuel + 1 => go fuel (a :: b :: done) r
    | [a] => (done.reverse, some a)
    | [] => (done.reverse, none)
  go (o.length + 1) [] (saved.toList ++ o)

/-- Lines as records of a given length. -/
def toRecords (size : Nat) (s : BlockState) (o : Octets) : Octets × BlockState :=
  let (out, s) := o.foldl (fun ((out, s) : Octets × BlockState) c =>
    if c == '\n' then
      (List.replicate (size - s.column) ' ' ++ out, { s with column := 0 })
    else if s.column < size then (c :: out, { s with column := s.column + 1 })
    else
      (out, { s with column := s.column + 1, cut := if s.column == size then s.cut + 1 else s.cut }))
    ([], s)
  (out.reverse, s)

/-- Records of a given length as lines without blanks at their ends. -/
def ofRecords (size : Nat) (s : BlockState) (o : Octets) : Octets × BlockState :=
  let put (out : Octets) (s : BlockState) (c : Char) : Octets × BlockState :=
    let s := { s with column := s.column + 1 }
    if c == ' ' then (out, { s with blanks := s.blanks + 1 })
    else (c :: (List.replicate s.blanks ' ' ++ out), { s with blanks := 0 })
  let (out, s) := o.foldl (fun ((out, s) : Octets × BlockState) c =>
    if size ≤ s.column then put ('\n' :: out) { s with column := 0, blanks := 0 } c
    else put out s c) ([], s)
  (out.reverse, s)

/-! ## Plans -/

/-- How much is copied: blocks or bytes. -/
inductive BlockExtent where
  | blocks (n : Nat)
  | bytes (n : Nat)
  deriving DecidableEq, Repr

/-- How many bytes it is for blocks of some size. -/
def BlockExtent.size (extent : BlockExtent) (block : Nat) : Nat :=
  match extent with
  | .blocks n => n * block
  | .bytes n => n

/-- How blocks are copied: the sizes of blocks that are read and written, and of records, whether a
block is written as it was read, how much is copied, how much is left out of the input and of the
output, what becomes of bytes, whether faults are passed over, and whether blocks are read until
they are full. -/
structure BlockPlan where
  readSize : Nat
  writeSize : Nat
  recordSize : Nat
  copiesWhole : Bool
  /-- No bound if there is none. -/
  count : Option BlockExtent
  skip : BlockExtent
  seek : BlockExtent
  changes : List BlockChange
  passesFaults : Bool
  readsFull : Bool
  /-- What is said in the end. -/
  report : Octets

/-- What has been copied: whole blocks and others that were read and written, all bytes, what waits
to be written, and what is known of records. -/
structure BlockCount where
  readWhole : Nat
  readPart : Nat
  writtenWhole : Nat
  writtenPart : Nat
  size : Nat
  pending : Octets
  state : BlockState

/-- Nothing has been copied. -/
def BlockCount.nothing : BlockCount := ⟨0, 0, 0, 0, 0, [], ⟨none, 0, 0, 0⟩⟩

/-- What becomes of a block. -/
def BlockPlan.convert (plan : BlockPlan) (o : Octets) (s : BlockState) : Octets × BlockState :=
  let o := if plan.changes.contains .upper then o.map Char.toUpper
    else if plan.changes.contains .lower then o.map Char.toLower
    else o
  let (o, s) := if plan.changes.contains .swap then
      let (o, saved) := swapPairs s.saved o
      (o, { s with saved := saved })
    else (o, s)
  if plan.changes.contains .block then toRecords plan.recordSize s o
  else if plan.changes.contains .unblock then ofRecords plan.recordSize s o
  else (o, s)

/-- What is left in the end. -/
def BlockPlan.finish (plan : BlockPlan) (s : BlockState) : Octets × BlockState :=
  let saved := s.saved.toList
  let (o, s) := if plan.changes.contains .block then toRecords plan.recordSize s saved
    else if plan.changes.contains .unblock then ofRecords plan.recordSize s saved
    else (saved, s)
  if plan.changes.contains .block && 0 < s.column then
    (o ++ List.replicate (plan.recordSize - s.column) ' ', s)
  else if plan.changes.contains .unblock && 0 < s.column then (o ++ ['\n'], s)
  else (o, s)

/-- Writes some bytes. -/
def writeBlock (output : Nat) (name o : Octets) : ToolRun Bool := do
  match ← liftM (Run.write output (Octets.toBytes o)) with
  | .ok () => return true
  | .error fault =>
    complain (octets "error writing " ++ quotePath name ++ octets (": " ++ fault.message))
    noteFailure 1
    return false

/-- Writes whole blocks of what waits. -/
def writeFull (plan : BlockPlan) (output : Nat) (name : Octets) (fuel : Nat) (c : BlockCount) :
    ToolRun (BlockCount × Bool) :=
  match fuel with
  | 0 => return (c, true)
  | fuel + 1 => do
    if c.pending.length < plan.writeSize then return (c, true)
    if ← writeBlock output name (c.pending.take plan.writeSize) then
      writeFull plan output name fuel
        { c with
          pending := c.pending.drop plan.writeSize
          writtenWhole := c.writtenWhole + 1
          size := c.size + plan.writeSize }
    else return (c, false)

/-- Reads a block, which is as long as possible if the plan says so. -/
def readBlock (plan : BlockPlan) (input size fuel : Nat) (before : ByteArray) :
    ToolRun (Except Fault ByteArray) :=
  match fuel with
  | 0 => return .ok before
  | fuel + 1 => do
    match ← liftM (Run.read input (size - before.size)) with
    | .error fault => return .error fault
    | .ok bytes =>
      let all := before ++ bytes
      if bytes.isEmpty || !plan.readsFull || size ≤ all.size then return .ok all
      readBlock plan input size fuel all

/-- Reads blocks and writes them. -/
def copyBlocks (plan : BlockPlan) (source target : Octets) (input output fuel : Nat)
    (c : BlockCount) : ToolRun BlockCount :=
  match fuel with
  | 0 => return c
  | fuel + 1 => do
    let done := c.readWhole + c.readPart
    let wanted := match plan.count with
      | none => plan.readSize
      | some (.blocks n) => if done < n then plan.readSize else 0
      | some (.bytes n) => min plan.readSize (n - done * plan.readSize)
    if wanted == 0 then return c
    match ← readBlock plan input wanted Run.patience .empty with
    | .error fault =>
      complain (octets "error reading " ++ quotePath source ++ octets (": " ++ fault.message))
      noteFailure 1
      return c
    | .ok bytes =>
      if bytes.isEmpty then return c
      let isWhole := bytes.size == plan.readSize
      let c := if isWhole then { c with readWhole := c.readWhole + 1 }
        else { c with readPart := c.readPart + 1 }
      let o := Octets.ofBytes bytes
      let filler := if plan.changes.contains .block || plan.changes.contains .unblock then ' '
        else '\x00'
      let o := if plan.changes.contains .fill then
          o ++ List.replicate (plan.readSize - o.length) filler
        else o
      if plan.copiesWhole then
        if !(← writeBlock output target o) then return c
        let c := { c with size := c.size + o.length }
        copyBlocks plan source target input output fuel
          (if o.length == plan.readSize then { c with writtenWhole := c.writtenWhole + 1 }
            else { c with writtenPart := c.writtenPart + 1 })
      else
        let (o, state) := plan.convert o c.state
        let c := { c with pending := c.pending ++ o, state := state }
        let (c, goesOn) ← writeFull plan output target (c.pending.length + 1) c
        if goesOn then copyBlocks plan source target input output fuel c else return c

/-- Writes what is left in the end. -/
def finishBlocks (plan : BlockPlan) (target : Octets) (output : Nat) (c : BlockCount) :
    ToolRun BlockCount := do
  let (o, state) := plan.finish c.state
  let c := { c with pending := c.pending ++ o, state := state }
  let (c, _) ← writeFull plan output target (c.pending.length + 1) c
  if c.pending.isEmpty then return c
  if ← writeBlock output target c.pending then
    return { c with writtenPart := c.writtenPart + 1, size := c.size + c.pending.length }
  else return c

/-- Says how much has been copied. -/
def BlockPlan.tell (plan : BlockPlan) (c : BlockCount) : ToolRun Unit := do
  let report := String.ofList plan.report
  if report == "none" then return ()
  writeErrors (octets (s!"{c.readWhole}+{c.readPart} records in\n"
    ++ s!"{c.writtenWhole}+{c.writtenPart} records out\n"))
  if 0 < c.state.cut then
    let what := if c.state.cut == 1 then "record" else "records"
    writeErrors (octets s!"{c.state.cut} truncated {what}\n")
  if report == "noxfer" then return ()
  let what := if c.size == 1 then "byte" else "bytes"
  writeErrors (octets s!"{c.size} {what} copied, 0.0001 s, {c.size / 100} kB/s\n")

/-! ## Operands -/

/-- The operands of the program. -/
def blockOperands : List String :=
  ["if", "of", "bs", "ibs", "obs", "cbs", "count", "skip", "seek", "iseek", "oseek", "conv",
    "status", "iflag", "oflag"]

/-- The names of conversions. -/
def conversionNames : List String :=
  ["ascii", "ebcdic", "ibm", "block", "unblock", "lcase", "ucase", "sparse", "swab", "sync", "excl",
    "nocreat", "notrunc", "noerror", "fdatasync", "fsync"]

/-- The names of what can be said of files. -/
def flagNames : List String :=
  ["append", "direct", "directory", "dsync", "noatime", "nocache", "noctty", "nofollow", "nonblock",
    "sync", "binary", "text", "fullblock", "count_bytes", "skip_bytes", "seek_bytes"]

/-- Reads a number: factors with an `x` between them, and whether it counts bytes. -/
def readBlockNumber (o : Octets) : ToolRun (Nat × Bool) := do
  let refuse {α : Type} (reason : String) : ToolRun α :=
    giveUp 1 (octets "invalid number: " ++ quote o ++ octets reason)
  let pieces := Text.splitAt (· == 'x') o
  -- A zero in front of an `x` looks like the sign of another base.
  if 1 < pieces.length && pieces.head? == some ['0'] then
    complain (octets "warning: " ++ quote ['0', 'x'] ++ octets " is a zero multiplier; use "
      ++ quote ['0', '0', 'x'] ++ octets " if that is intended")
  let countsBytes := o.getLast? == some 'B' && (o.dropLast.getLast?).any Char.isDigit
  let pieces := if countsBytes then pieces.dropLast ++ [(pieces.getLastD []).dropLast] else pieces
  let factors ← pieces.mapM fun piece =>
    match scanMeasure (some 10) "bcEGkKMPTwYZ0" piece with
    | .ok n => pure n
    | .error .tooLarge => refuse ": Value too large for defined data type"
    | .error _ => refuse ""
  let product := factors.foldl (· * ·) 1
  if 2 ^ 64 ≤ product then refuse ": Value too large for defined data type"
  return (product, countsBytes)

/-- Takes the names out of a list of them. -/
def readNames (what : String) (known : List String) (o : Octets) : ToolRun (List String) :=
  (Text.splitAt (· == ',') o).mapM fun word => do
    let name := String.ofList word
    if known.contains name then return name
    giveUpUsage 1 (octets ("invalid " ++ what ++ ": ") ++ quote word)

/-- Takes the operands of the program apart. -/
def readBlockOperands : List Octets → ToolRun (List (String × Octets × Nat × Bool × List String))
  | [] => return []
  | word :: rest => do
    let name := String.ofList (word.takeWhile (· != '='))
    let value := word.drop (name.length + 1)
    if !word.contains '=' || !blockOperands.contains name then
      giveUpUsage 1 (octets "unrecognized operand " ++ quote word)
    let (number, countsBytes, names) ← match name with
      | "if" | "of" => pure (0, false, [])
      | "conv" => pure (0, false, ← readNames "conversion" conversionNames value)
      | "iflag" => pure (0, false, ← readNames "input flag" flagNames value)
      | "oflag" => pure (0, false, ← readNames "output flag" flagNames value)
      | "status" =>
        pure (0, false, ← readNames "status level" ["none", "noxfer", "progress"] value)
      | _ => do
        let (n, countsBytes) ← readBlockNumber value
        let isSize := name == "bs" || name == "ibs" || name == "obs"
        if isSize && n == 0 then giveUp 1 (octets "invalid number: " ++ quote value)
        pure (n, countsBytes, [])
    return (name, value, number, countsBytes, names) :: (← readBlockOperands rest)

/-- Refuses conversions that do not go together. -/
def refuseMixed (names : List String) : ToolRun Unit := do
  let both (a b : String) : Bool := names.contains a && names.contains b
  if both "ascii" "ebcdic" || both "ascii" "ibm" || both "ebcdic" "ibm" then
    giveUp 1 (octets "cannot combine any two of \x7bascii,ebcdic,ibm\x7d")
  if both "block" "unblock" then giveUp 1 (octets "cannot combine block and unblock")
  if both "lcase" "ucase" then giveUp 1 (octets "cannot combine lcase and ucase")
  if both "excl" "nocreat" then giveUp 1 (octets "cannot combine excl and nocreat")

/-- The change that a name means. -/
def changeNamed? (name : String) : Option BlockChange :=
  match name with
  | "ucase" => some .upper
  | "lcase" => some .lower
  | "swab" => some .swap
  | "block" => some .block
  | "unblock" => some .unblock
  | "sync" => some .fill
  | _ => none

/-! ## The program -/

/-- Leaves out the start of the input. -/
def skipInput (plan : BlockPlan) (name : Octets) (input : Nat) : ToolRun Unit := do
  let size := plan.skip.size plan.readSize
  if size == 0 then return ()
  let isShort ← look fun k =>
    match k.file? input with
    | some (_, { channel := .node n, offset, .. }) =>
      (k.tree.content? n).any fun content => content.size < offset + size
    | _ => false
  let rec readPast (fuel left : Nat) : ToolRun Nat :=
    match fuel with
    | 0 => return left
    | fuel + 1 => do
      if left == 0 then return 0
      match ← liftM (Run.read input (min left 65536)) with
      | .error _ => return left
      | .ok bytes => if bytes.isEmpty then return left else readPast fuel (left - bytes.size)
  let left ← readPast Run.patience size
  if (isShort || 0 < left) && String.ofList plan.report != "none" then
    complain (quoteName name ++ octets ": cannot skip to specified offset")

/-- Goes to the place in the output. -/
def seekOutput (plan : BlockPlan) (name : Octets) (output : Nat) (isNamed keeps : Bool) :
    ToolRun Unit := do
  let place := plan.seek.size plan.writeSize
  if place == 0 then return ()
  match ← look (·.file? output) with
  | some (_, { channel := .node n, offset, .. }) =>
    let start := if isNamed then 0 else offset
    kernel fun k =>
      let cut (content : ByteArray) : ByteArray :=
        content.extract 0 place ++ ⟨Array.replicate (place - content.size) 0⟩
      ((), (if keeps || !isNamed then k else k.modifyTree (·.modifyContent n cut)).seek output
        (start + place))
  | _ =>
    complain (quoteName name ++ octets ": cannot seek: Illegal seek")
    plan.tell .nothing
    exit 1

/-- Copies some blocks of an input to a place in another file. -/
def blockTool : Procedure := fun _ arguments => do
  let (_, operands) ← OptionSpec.parse [] 1 true (arguments.length + 1) arguments
  let given ← readBlockOperands operands
  let last (names : List String) : Option (Nat × Bool) :=
    (given.reverse.find? fun o => names.contains o.1).map fun o => (o.2.2.1, o.2.2.2.1)
  let path (name : String) : Option Octets :=
    (given.reverse.find? fun o => o.1 == name).map (·.2.1)
  let namesOf (name : String) : List String :=
    (given.filter (·.1 == name)).flatMap (·.2.2.2.2)
  let conversions := namesOf "conv"
  let recordSize := ((last ["cbs"]).map (·.1)).getD 0
  refuseMixed (conversions.filter fun c => recordSize != 0 || (c != "block" && c != "unblock"))
  let inputFlags := namesOf "iflag"
  let outputFlags := namesOf "oflag"
  let extent (names : List String) (isBytes : Bool) : Option BlockExtent :=
    (last names).map fun (n, countsBytes) => if isBytes || countsBytes then .bytes n else .blocks n
  let whole := (last ["bs"]).map (·.1)
  let changes := (conversions.filterMap changeNamed?).filter fun change =>
    recordSize != 0 || (change != .block && change != .unblock)
  let plan : BlockPlan :=
    { readSize := whole.getD (((last ["ibs"]).map (·.1)).getD 512)
      writeSize := whole.getD (((last ["obs"]).map (·.1)).getD 512)
      recordSize := recordSize
      copiesWhole := whole.isSome && conversions.all fun c =>
        (changeNamed? c).all (· == .fill)
      count := extent ["count"] (inputFlags.contains "count_bytes")
      skip := (extent ["skip", "iseek"] (inputFlags.contains "skip_bytes")).getD (.blocks 0)
      seek := (extent ["seek", "oseek"] (outputFlags.contains "seek_bytes")).getD (.blocks 0)
      changes := changes
      passesFaults := conversions.contains "noerror"
      readsFull := inputFlags.contains "fullblock"
      report := (path "status").getD [] }
  let failed {α : Type} (path : Octets) (fault : Fault) : ToolRun α :=
    giveUp 1 (octets "failed to open " ++ quotePath path ++ octets (": " ++ fault.message))
  let source := (path "if").getD (octets "standard input")
  let target := (path "of").getD (octets "standard output")
  let input ← match path "if" with
    | none => pure 0
    | some path =>
      match ← liftM (Run.openFile (Octets.toText path) .read) with
      | .ok descriptor => pure descriptor
      | .error fault => failed path fault
  let keeps := conversions.contains "notrunc"
  let output ← match path "of" with
    | none => pure 1
    | some path =>
      let mode : OpenMode :=
        { reads := false
          writes := true
          appends := outputFlags.contains "append"
          creates := !conversions.contains "nocreat"
          truncates := !keeps && plan.seek.size plan.writeSize == 0
          isNew := conversions.contains "excl" }
      match ← liftM (Run.openFile (Octets.toText path) mode) with
      | .ok descriptor => pure descriptor
      | .error fault => failed path fault
  skipInput plan source input
  seekOutput plan target output (path "of").isSome keeps
  let count ← copyBlocks plan source target input output Run.patience
    .nothing
  let count ← finishBlocks plan target output count
  plan.tell count
  notedStatus

end Flowscript.Tool
