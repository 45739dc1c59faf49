import Flowscript.Programs.Compression.Member
import Flowscript.Programs.Tool.Calendar

/-!
# Programs for compressed files

* `PackOptions` is what options say about compressing.
* `packTool` compresses files or takes them out of compressed ones.
-/

set_option autoImplicit false

namespace Flowscript.Tool

open Compression

/-- What options say about compressing. -/
structure PackOptions where
  unpacks : Bool
  toOutput : Bool
  forces : Bool
  keeps : Bool
  lists : Bool
  tests : Bool
  isQuiet : Bool
  isVerbose : Bool
  /-- Whether the name and time of a file are kept in the compressed one, if that was said. -/
  keepsName : Option Bool
  isRecursive : Bool
  ending : Octets
  level : Nat

/-- The numbers of a list of compressed files, and whether there is a first line. -/
structure PackList where
  packed : Nat
  text : Nat
  overhead : Nat
  count : Nat

/-- A part of some number in percent, with one place. -/
def percent (part : Int) (whole : Nat) : Octets :=
  let tenths : Int := if whole == 0 then 0 else
    let twice := 2000 * part
    let half := Int.fdiv (twice + whole) (2 * whole)
    if twice + whole == half * (2 * whole) && half % 2 == 1 then half - 1 else half
  let n := tenths.natAbs
  let text := (if tenths < 0 then ['-'] else []) ++ Nat.toDigits 10 (n / 10) ++ '.'
    :: Nat.toDigits 10 (n % 10) ++ ['%']
  List.replicate (6 - text.length) ' ' ++ text

namespace PackOptions

/-- Notes that something went wrong. -/
def fail : ToolRun Unit := modify fun s => { s with status := 1 }

/-- Warns, unless that is not wanted, and notes it. -/
def warn (s : PackOptions) (message : Octets) : ToolRun Unit := do
  if !s.isQuiet then complain message
  modify fun t => { t with status := if t.status == 0 then 2 else t.status }

/-- Complains about what is wrong with a compressed file. -/
def complainFault (name : Octets) (fault : UnpackFault) : ToolRun Unit := do
  flush
  if fault.standsAlone then writeErrors ['\n']
  complain (fault.message name)
  fail

/-- The ending of a compressed file that a name has, if it has one. -/
def endingOf? (s : PackOptions) (name : Octets) : Option Octets :=
  let usual := [".gz", ".z", ".taz", ".tgz", "-gz", "-z", "_z"].map octets
  (s.ending :: usual).find? fun e =>
    (e.map Char.toLower).isSuffixOf (name.map Char.toLower) && e.length < name.length
      && name[name.length - e.length - 1]? != some '/'

/-- The name of what a compressed file has in it. -/
def unpackedName (name ending : Octets) : Octets :=
  let stem := name.take (name.length - ending.length)
  let letters := ending.map Char.toLower
  if letters == octets ".taz" || letters == octets ".tgz" then stem ++ octets ".tar" else stem

/-- Prints how much shorter the compressed data is, and gives what is said of it. -/
def gain (text packed overhead : Nat) : Octets := percent ((text : Int) - packed + overhead) text

/-- The number of bytes of a compressed file that are no data. -/
def overheadOf (label : Label) : Nat :=
  headSize + tailSize + match label.name with
    | some o => o.length + 1
    | none => 0

/-- Prints a line of a list of compressed files. -/
def listLine (s : PackOptions) (all : PackList) (name : Octets) (found : Unpacked) (packed : Nat)
    (time : Nat) : ToolRun PackList := do
  let wide (n : Nat) : Octets :=
    let digits := Nat.toDigits 10 n
    List.replicate (19 - digits.length) ' ' ++ digits
  let titles := octets "         compressed        uncompressed  ratio uncompressed_name"
  if all.count == 0 && !s.isQuiet then
    printLine ((if s.isVerbose then octets "method  crc     date  time  " else []) ++ titles)
  if s.isVerbose then
    let digits := Nat.toDigits 16 found.sum
    print (octets "defla " ++ List.replicate (8 - digits.length) '0' ++ digits ++ [' ']
      ++ (← momentOf time).format (octets "%b %e %H:%M "))
  let overhead := overheadOf found.label
  printLine (wide packed ++ ' ' :: wide found.text.size ++ ' '
    :: gain found.text.size packed overhead ++ ' ' :: name)
  return ⟨all.packed + packed, all.text + found.text.size, overhead, all.count + 1⟩

/-- Reads a file. -/
def readFile (path : Octets) : ToolRun (Except Fault ByteArray) := readInput path

/-- Compresses or takes out the bytes of an input, and prints what comes out of that, or a line of a
list. -/
def passOn (s : PackOptions) (all : PackList) (name : Octets) (label : Label) (time : Nat)
    (listed : Octets) (bytes : ByteArray) : ToolRun PackList := do
  if !s.unpacks then
    let packed := pack label s.level bytes
    printBytes packed
    if s.isVerbose then
      flush
      let lead := if name == octets "stdin" then [] else name ++ octets ":\t"
      writeErrors (lead ++ gain bytes.size packed.size (overheadOf label) ++ ['\n'])
    return all
  let found := unpack bytes
  let isForeign := found.fault == some .foreign
  if isForeign && s.forces && s.toOutput && !s.lists then
    printBytes bytes
    return all
  if !s.lists && !s.tests then printBytes found.text
  match found.fault with
  | some fault =>
    if s.isVerbose && !isForeign && !s.lists then
      flush
      writeErrors (if name == octets "stdin" then [] else name ++ octets ":\t")
    complainFault name fault
    if !isForeign then exit 1
    return all
  | none =>
    if s.lists then listLine s all listed found bytes.size time
    else
      if s.isVerbose then
        flush
        let lead := if name == octets "stdin" then [] else name ++ octets ":\t"
        let what := if s.tests then octets " OK"
          else gain found.text.size bytes.size (overheadOf found.label)
        writeErrors (lead ++ what ++ ['\n'])
      if found.hasMore then
        flush
        if !s.isQuiet then writeErrors ['\n']
        s.warn (name ++ octets ": decompression OK, trailing garbage ignored")
      return all

/-- Compresses or takes out what there is to read. -/
def passInput (s : PackOptions) (all : PackList) : ToolRun PackList := do
  match ← liftM (Run.readAll 0) with
  | .error fault =>
    complain (octets ("stdin: " ++ fault.message))
    exit 1
  | .ok bytes =>
    let written ← look fun k =>
      match k.file? 0 with
      | some (_, file) => match file.channel with
        | .node n => some (k.tree.modifiedAt n)
        | _ => none
      | none => none
    let keeps := s.keepsName.getD true
    let second := if keeps then (written.getD 0) / 1000000000 else 0
    let now ← look (·.now)
    passOn s all (octets "stdin") ⟨none, second⟩ (written.getD now) (octets "stdout") bytes

/-- Writes the file that comes out of another one, which then goes unless it is kept. -/
def replaceFile (s : PackOptions) (path target : Octets) (node : Nat) (time : Nat)
    (bytes : ByteArray) : ToolRun Bool := do
  if !s.forces then
    if (← find target false) matches .ok _ then
      complain (target ++ octets " already exists;\tnot overwritten")
      modify fun t => { t with status := if t.status == 0 then 2 else t.status }
      return false
  let mode ← look fun k => k.tree.modeOf node
  let _ ← changeAt target false (·.unlink)
  match ← liftM (Run.openFile (Octets.toText target) .write) with
  | .error fault =>
    complainAbout target fault
    fail
    return false
  | .ok output =>
    let _ ← liftM (Run.write output bytes)
    liftM (Run.close output)
    match ← find target false with
    | .ok n => kernel fun k =>
        ((), k.modifyTree fun t => (t.setMode n (mode &&& 0o777)).setModified n time)
    | .error _ => pure ()
    if !s.keeps then
      let _ ← changeAt path false (·.unlink)
    return true

/-- Says that a file has been replaced. -/
def sayReplaced (s : PackOptions) (path target percent : Octets) : ToolRun Unit := do
  if s.isVerbose then
    flush
    writeErrors (path ++ octets ":\t" ++ percent
      ++ octets (if s.keeps then " -- created " else " -- replaced with ") ++ target ++ ['\n'])

/-- The file that a name means: with an ending, if it is not there without one. -/
def locate (s : PackOptions) (path : Octets) : ToolRun Octets := do
  if !s.unpacks || (s.endingOf? path).isSome then return path
  if (← find path true) matches .ok _ then return path
  for e in s.ending :: [".gz", ".z", "-z", ".Z"].map octets do
    if (← find (path ++ e) true) matches .ok _ then return path ++ e
  return path ++ s.ending

/-- Compresses or takes out a file that is no directory. -/
def passFile (s : PackOptions) (all : PackList) (path : Octets) (n : Nat) : ToolRun PackList := do
  let isElsewhere := s.toOutput || s.lists || s.tests
  let links ← look (·.tree.nameCount n)
  let mode ← look (·.tree.modeOf n)
  let isRegular := (← kindOf n) matches some (.regular _)
  if !isRegular then
    s.warn (path ++ octets " is not a directory or a regular file - ignored")
    return all
  if !isElsewhere && !s.forces then
    if mode &&& 0o4000 != 0 then
      s.warn (path ++ octets " is set-user-ID on execution - ignored")
      return all
    if mode &&& 0o2000 != 0 then
      s.warn (path ++ octets " is set-group-ID on execution - ignored")
      return all
    if 1 < links then
      s.warn (path ++ octets (" has " ++ toString (links - 1) ++ " other link"
        ++ (if links == 2 then "" else "s") ++ " -- file ignored"))
      return all
  let ending := s.endingOf? path
  if s.unpacks && !isElsewhere && ending.isNone then
    if !s.isRecursive && !s.isQuiet then
      s.warn (path ++ octets ": unknown suffix -- ignored")
    return all
  match !s.unpacks && !s.forces && !s.toOutput, ending with
  | true, some e =>
    if s.isVerbose || (!s.isRecursive && !s.isQuiet) then
      complain (path ++ octets " already has " ++ e ++ octets " suffix -- unchanged")
    return all
  | _, _ => pure ()
  match ← readFile path with
  | .error fault =>
    complainAbout path fault
    fail
    return all
  | .ok bytes =>
    let time ← look (·.tree.modifiedAt n)
    let keeps := s.keepsName.getD true
    let label : Label :=
      if keeps then ⟨some (baseName path), time / 1000000000⟩ else ⟨none, 0⟩
    let listed := match ending with
      | some e => unpackedName path e
      | none => path
    if isElsewhere then passOn s all path label time listed bytes
    else if s.unpacks then
      let found := unpack bytes
      match found.fault with
      | some fault =>
        complainFault path fault
        if fault != .foreign then exit 1
        return all
      | none =>
        let own := if s.keepsName == some true then found.label.name else none
        let target := match own with
          | some name => (path.reverse.dropWhile (· != '/')).reverse ++ baseName name
          | none => listed
        let time := if s.keepsName == some true && found.label.second != 0 then
            found.label.second * 1000000000 else time
        if ← replaceFile s path target n time found.text then
          sayReplaced s path target
            (gain found.text.size bytes.size (overheadOf found.label))
          if found.hasMore then
            writeErrors ['\n']
            s.warn (path ++ octets ": decompression OK, trailing garbage ignored")
        return all
    else
      let target := path ++ s.ending
      let packed := pack label s.level bytes
      if ← replaceFile s path target n time packed then
        sayReplaced s path target (gain bytes.size packed.size (overheadOf label))
      return all

/-- Compresses or takes out a file, or all files in a directory if that is wanted. -/
def passPath (s : PackOptions) (fuel : Nat) (all : PackList) (path : Octets) : ToolRun PackList :=
  match fuel with
  | 0 => return all
  | fuel + 1 => do
    let path ← s.locate path
    let follows := s.toOutput || s.forces
    match ← find path true with
    | .error fault =>
      complainAbout path fault
      fail
      return all
    | .ok n =>
      if ← isDirectory path then
        if !s.isRecursive then
          s.warn (path ++ octets " is a directory -- ignored")
          return all
        let mut all := all
        for name in ← namesIn path do all ← passPath s fuel all (inDirectory path name)
        return all
      let isLink := match ← find path false with
        | .ok m => m != n
        | .error _ => false
      if isLink && !follows then
        complainAbout path .tooManyLinks
        fail
        return all
      passFile s all path n

end PackOptions

/-- The options of programs for compressed files. -/
def packSpecs : List OptionSpec :=
  let bare (name : String) : OptionSpec := .flag OptionSpec.noLetter name
  let levels := (List.range 9).map fun k => OptionSpec.flag (Char.ofNat (49 + k)) ("level-" ++ toString (k + 1))
  [.flag 'a' "ascii", .flag 'c' "to-stdout", .flag 'c' "stdout", .flag 'd' "decompress",
    .flag 'd' "uncompress", .flag 'f' "force", .flag 'h' "help", .flag 'k' "keep",
    .flag 'l' "list", .flag 'L' "license", .flag 'n' "no-name", .flag 'N' "name",
    .flag 'q' "quiet", .flag 'q' "silent", .flag 'r' "recursive", .setting 'S' "suffix",
    .flag 't' "test", .flag 'v' "verbose", .flag 'V' "version", .setting 'b' "bits",
    bare "synchronous", bare "rsyncable", bare "fast", bare "best"] ++ levels

/-- Compresses files, or takes them out of compressed ones; `lead` are arguments in front of the
others. -/
def packTool (lead : List Octets) : Procedure := fun _ arguments => do
  let own := baseName (← get).name
  modify fun s =>
    { s with
      name := octets "gzip"
      hint := fun name => octets "Try \x60" ++ name ++ octets " --help' for more information.\n" }
  let (given, paths) ← options packSpecs 1 (lead ++ arguments)
  let any (names : List String) : Bool := names.any (has given)
  if any ["version", "license"] then
    let title := if arguments.contains (octets "--version") then
        OptionSpec.collectionOf (String.ofList own) else "gzip 1.12"
    printLine (octets title)
    return 0
  if has given "help" then
    printLine (octets "Usage: gzip [OPTION]... [FILE]...")
    return 0
  let ending := (valueOf? given "suffix").getD (octets ".gz")
  if ending.isEmpty || ending.contains '/' || 30 < ending.length then
    giveUp 1 (octets "invalid suffix '" ++ ending ++ ['\''])
  let level := given.foldl (fun level (name, _) =>
    if name == "fast" then 1 else if name == "best" then 9
    else if name.startsWith "level-" then
      ((name.toList.getLast?).map fun c => c.toNat - 48).getD level
    else level) 6
  let keepsName := given.foldl (fun keeps (name, _) =>
    if name == "no-name" then some false else if name == "name" then some true else keeps) none
  let s : PackOptions :=
    { unpacks := any ["decompress", "uncompress", "list", "test"]
      toOutput := any ["to-stdout", "stdout"], forces := has given "force"
      keeps := has given "keep", lists := has given "list", tests := has given "test"
      isQuiet := any ["quiet", "silent"] && !has given "verbose"
      isVerbose := has given "verbose" && !any ["quiet", "silent"]
      keepsName := keepsName, isRecursive := has given "recursive", ending := ending
      level := level }
  let mut all : PackList := ⟨0, 0, 0, 0⟩
  if paths.isEmpty then all ← s.passInput all
  for path in paths do
    if path == ['-'] then all ← { s with toOutput := true }.passInput all
    else all ← s.passPath 1000 all path
  if s.lists && 1 < all.count && !s.isQuiet then
    let wide (n : Nat) : Octets :=
      let digits := Nat.toDigits 10 n
      List.replicate (19 - digits.length) ' ' ++ digits
    print (if s.isVerbose then List.replicate 28 ' ' else [])
    printLine (wide all.packed ++ ' ' :: wide all.text ++ ' '
      :: PackOptions.gain all.text all.packed all.overhead ++ octets " (totals)")
  notedStatus

end Flowscript.Tool
