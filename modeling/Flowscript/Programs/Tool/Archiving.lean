import Flowscript.Programs.Archive
import Flowscript.Programs.Compression.Member
import Flowscript.Programs.Shell.Pattern
import Flowscript.Programs.Tool.Calendar
import Flowscript.Programs.Tool.Listing

/-!
# The program for archives

* `ArchiveOptions` is what options say about an archive, and `ArchiveAction` what is done with it.
* `archiveTool` makes archives and takes files out of them.
-/

set_option autoImplicit false

namespace Flowscript.Tool

/-- What is done with an archive. -/
inductive ArchiveAction where
  | create
  | list
  | extract
  | append
  | update
  | remove
  | compare
  deriving DecidableEq, Repr

/-- What options say about an archive. -/
structure ArchiveOptions where
  action : ArchiveAction
  given : List GivenOption
  file : Octets
  verbosity : Nat
  isPacked : Bool
  excluded : List Shell.Pattern
  stripped : Nat
  directory : Option Octets

/-- The names of options that say what is done. -/
def archiveActions : List (String × ArchiveAction) :=
  [("create", .create), ("list", .list), ("extract", .extract), ("get", .extract),
    ("append", .append), ("update", .update), ("delete", .remove), ("diff", .compare),
    ("compare", .compare)]

/-- The options of the program. -/
def archiveSpecs : List OptionSpec :=
  let bare (name : String) : OptionSpec := .flag OptionSpec.noLetter name
  let long (name : String) : OptionSpec := .setting OptionSpec.noLetter name
  [.flag 'c' "create", .flag 't' "list", .flag 'x' "extract", .flag 'r' "append",
    .flag 'u' "update", .flag 'd' "diff", bare "get", bare "compare", bare "delete",
    .setting 'f' "file", .flag 'v' "verbose", .flag 'z' "gzip", .flag 'j' "bzip2",
    .flag 'J' "xz", bare "zstd", .flag 'a' "auto-compress",
    .setting 'C' "directory", .flag 'O' "to-stdout", .flag 'k' "keep-old-files",
    bare "skip-old-files", bare "overwrite", bare "keep-newer-files", .flag 'U' "unlink-first",
    .flag 'p' "preserve-permissions", bare "same-permissions", bare "no-same-permissions",
    .flag 'P' "absolute-names", .flag 'h' "dereference", .flag 'm' "touch",
    .setting 'T' "files-from", .setting 'X' "exclude-from", long "exclude",
    long "strip-components", long "mtime", long "owner", long "group", long "mode",
    bare "numeric-owner", long "sort", bare "no-recursion", bare "recursion",
    bare "remove-files", .setting 'H' "format", bare "posix", .flag 'o' "no-same-owner",
    bare "same-owner", .flag 'w' "interactive", .flag 'l' "check-links", .flag 'S' "sparse",
    .setting 'b' "blocking-factor", .flag 'B' "read-full-records", .flag 'i' "ignore-zeros",
    bare "ignore-failed-read", bare "totals", bare "wildcards", bare "no-wildcards",
    bare "anchored", bare "no-anchored", bare "one-file-system", bare "null", bare "full-time",
    bare "force-local", .setting 'N' "newer", .setting 'g' "listed-incremental",
    .setting 'V' "label", long "warning", long "transform", long "xform", .flag 's' "same-order",
    bare "show-transformed-names", .flag 'W' "verify", bare "utc"]

/-- Ends the program after a complaint that it cannot go on. -/
def abandon {α : Type} (message : Octets) : ToolRun α := do
  complain message
  complain (octets "Error is not recoverable: exiting now")
  exit 2

/-- Complains, and notes it. -/
def complainStatus (message : Octets) : ToolRun Unit := do
  complain message
  noteFailure 2

/-- A name as it is listed, without characters that are not printed. -/
def listedName (o : Octets) : Octets := o.flatMap fun c =>
  match c with
  | '\\' => octets "\\\\"
  | '\n' => octets "\\n"
  | '\t' => octets "\\t"
  | '\r' => octets "\\r"
  | '\x07' => octets "\\a"
  | '\x08' => octets "\\b"
  | '\x0b' => octets "\\v"
  | '\x0c' => octets "\\f"
  | _ =>
    if 32 ≤ c.toNat && c.toNat < 127 then [c]
    else '\\' :: (Nat.toDigits 8 (512 + c.toNat)).drop 1

/-- The part of a name at its start that is not kept in an archive: up to the last part that is two
dots, and slashes. -/
def unsafeLead (name : Octets) : Octets :=
  let parts := Text.splitAt (· == '/') name
  let indexed := parts.zipIdx.filter fun (part, _) => part == ['.', '.']
  let count := match indexed.getLast? with
    | some (_, k) => k + 1
    | none => 0
  let lead := Octets.join ['/'] (parts.take count)
  let rest := name.drop lead.length
  lead ++ rest.takeWhile (· == '/')

/-- The room that owners and sizes take in a list at first. -/
def listRoom : Nat := 19

/-- Some names that have been shortened, so that it is said only once. -/
abbrev SaidLeads := List Octets

namespace ArchiveOptions

/-- Whether an option was given. -/
def has (s : ArchiveOptions) (name : String) : Bool := Tool.has s.given name

/-- The name under which a file is kept. -/
def keptName (s : ArchiveOptions) (said : SaidLeads) (what : String) (name : Octets) :
    ToolRun (Octets × SaidLeads) := do
  if s.has "absolute-names" then return (name, said)
  let lead := unsafeLead name
  if lead.isEmpty then return (name, said)
  let note := octets what ++ lead
  if !said.contains note then
    complain (octets "Removing leading \x60" ++ lead ++ octets ("' from " ++ what))
  let rest := name.drop lead.length
  return (if rest.isEmpty then ['.'] else rest, if said.contains note then said else note :: said)

/-- Whether a file is left out. -/
def isExcluded (s : ArchiveOptions) (name : Octets) : Bool :=
  let parts := Text.splitAt (· == '/') (withoutSlashes name)
  let fitsFrom (pattern : Shell.Pattern) (k : Nat) : Bool :=
    let rest := parts.drop k
    (List.range rest.length).any fun n =>
      pattern.accepts (Octets.join ['/'] (rest.take (n + 1)))
  s.excluded.any fun pattern => (List.range parts.length).any (fitsFrom pattern)

/-- Who a file belongs to, as a list says. -/
def ownerText (s : ArchiveOptions) (e : ArchiveEntry) : Octets :=
  let shown (name : Octets) (n : Nat) : Octets :=
    if s.has "numeric-owner" || name.isEmpty then Nat.toDigits 10 n else name
  shown e.ownerName e.owner ++ '/' :: shown e.groupName e.group

/-- A line about a file, and the room that owners and sizes take in the next ones. -/
def line (s : ArchiveOptions) (room : Nat) (e : ArchiveEntry) (isLong : Bool) :
    ToolRun (Octets × Nat) := do
  let name := listedName e.name
  if !isLong then return (name, room)
  let kind := match e.kind with
    | .regular => '-'
    | .sameAs _ => 'h'
    | .link _ => 'l'
    | .character => 'c'
    | .block => 'b'
    | .directory => 'd'
    | .pipe => 'p'
  let owner := s.ownerText e
  let size := Nat.toDigits 10 e.content.size
  let used := owner.length + 1 + size.length
  let room := max room used
  let here ← hereZone
  let time := Moment.ofTime (if s.has "utc" then Zone.universal else here) (e.second * 1000000000)
  let format := if s.has "full-time" then "%Y-%m-%d %H:%M:%S" else "%Y-%m-%d %H:%M"
  let after := match e.kind with
    | .sameAs target => octets " link to " ++ listedName target
    | .link target => octets " -> " ++ listedName target
    | _ => []
  return (kind :: modeLetters e.mode ++ ' ' :: owner ++ ' '
    :: List.replicate (room - used) ' ' ++ size ++ ' ' :: time.format (octets format) ++ ' '
    :: name ++ after, room)

/-! ## Making an archive -/

/-- An archive that is being made: its entries, the last one first, under which names files with
several names are in it, and what has been said. -/
structure Gathering where
  entries : List ArchiveEntry
  named : List (Nat × Octets)
  said : SaidLeads
  room : Nat
  taken : List Octets

/-- The number that a text is for, or the name and the number after a colon. -/
def ownerOf (o : Octets) : Octets × Nat :=
  let name := o.takeWhile (· != ':')
  match o.drop (name.length + 1), Octets.natural? name with
  | [], some n => ([], n)
  | [], none => (name, 0)
  | more, _ => (name, (Octets.natural? more).getD 0)

/-- Puts a file into an archive, and all in it if it is a directory. -/
def gather (s : ArchiveOptions) (archive : Option Nat) (fuel : Nat) (base name : Octets)
    (g : Gathering) : ToolRun Gathering :=
  match fuel with
  | 0 => return g
  | fuel + 1 => do
    let path := if base.isEmpty || name.head? == some '/' then name else inDirectory base name
    if s.isExcluded name then return g
    match ← Tool.find path (s.has "dereference") with
    | .error fault =>
      complainStatus (listedName name ++ octets (": Cannot stat: " ++ fault.message))
      return g
    | .ok n =>
      if archive == some n then
        complain (listedName name ++ octets ": archive cannot contain itself; not dumped")
        return g
      let facts ← look fun k => factsOf k.tree n
      let isTree := facts.isDirectory
      let shown := if isTree && name.getLast? != some '/' then name ++ ['/'] else name
      let (kept, said) ← s.keptName g.said "member names" shown
      let known := if 1 < facts.links && !isTree then g.named.lookup n else none
      let mut said := said
      if 1 < facts.links && !isTree then
        let (_, more) ← s.keptName said "hard link targets" shown
        said := more
      let kind : ArchivedKind := match known, facts.kind with
        | some first, _ => .sameAs first
        | none, some (.directory ..) => .directory
        | none, some (.link target) => .link (Octets.ofText target)
        | none, some (.pipe _) => .pipe
        | none, some (.device _) => .character
        | none, _ => .regular
      let content ← match kind, facts.kind with
        | .regular, some (.regular bytes) => pure bytes
        | _, _ => pure .empty
      let seconds ← match valueOf? s.given "mtime" with
        | none => pure (facts.modified / 1000000000)
        | some o => do
          match ← readTime? o with
          | some (second, _) => pure second.toNat
          | none => abandon (octets "Invalid mtime")
      let (ownerName, owner) := match valueOf? s.given "owner" with
        | some o => ownerOf o
        | none => (octets "root", 0)
      let (groupName, group) := match valueOf? s.given "group" with
        | some o => ownerOf o
        | none => (octets "root", 0)
      let plain := s.has "numeric-owner"
      let entry : ArchiveEntry :=
        { name := kept, kind := kind, mode := facts.mode, owner := owner, group := group
          ownerName := if plain then [] else ownerName
          groupName := if plain then [] else groupName
          second := seconds, content := content }
      let mut g := { g with
        entries := entry :: g.entries, said := said, taken := path :: g.taken
        named := if 1 < facts.links && !isTree && known.isNone then (n, kept) :: g.named
          else g.named }
      if 0 < s.verbosity then
        let (text, room) ← s.line g.room { entry with name := shown } (1 < s.verbosity)
        g := { g with room := room }
        if s.file == ['-'] then writeErrors (text ++ ['\n']) else printLine text
      if isTree && !s.has "no-recursion" then
        for inner in ← namesIn path do
          g ← gather s archive fuel base (inDirectory (withoutSlashes name) inner) g
      return g

/-- Writes the bytes of an archive. -/
def writeOut (s : ArchiveOptions) (bytes : ByteArray) : ToolRun Unit := do
  let ending (e : String) : Bool := (octets e).isSuffixOf s.file
  let packs := s.isPacked || (s.has "auto-compress" && (ending ".gz" || ending ".tgz"))
  let bytes := if packs then Compression.pack ⟨none, 0⟩ 6 bytes else bytes
  if s.file == ['-'] then printBytes bytes
  else
    match ← liftM (Run.openFile (Octets.toText s.file) .write) with
    | .ok output =>
      let _ ← liftM (Run.write output bytes)
      liftM (Run.close output)
    | .error fault =>
      abandon (listedName s.file ++ octets (": Cannot open: " ++ fault.message))

/-- Says at the end that something went wrong. -/
def finish : ToolRun Nat := do
  let status ← notedStatus
  if 1 < status then complain (octets "Exiting with failure status due to previous errors")
  return status

/-- Puts files into an archive after those that are in it. -/
def addTo (s : ArchiveOptions) (before : List ArchiveEntry) (archive : Option Nat)
    (paths : List (Octets × Octets)) : ToolRun Nat := do
  let mut g : Gathering := ⟨before.reverse, [], [], 0, []⟩
  g := { g with room := listRoom }
  for (base, name) in paths do g ← s.gather archive 1000 base name g
  let entries := if s.action == .update then
      g.entries.zipIdx.filterMap fun (e, k) =>
        let isNew := k < g.entries.length - before.length
        let isOld := before.any fun b => b.name == e.name && e.second ≤ b.second
        if isNew && isOld then none else some e
    else g.entries
  s.writeOut (Archive.write entries.reverse)
  if s.has "remove-files" then
    for path in g.taken do
      let _ ← changeAt path false fun t place => match place.node? with
        | some n => if t.isDirectoryAt n then t.removeDirectory place else t.unlink place
        | none => .error .missing
  finish

/-- Makes an archive. -/
def create (s : ArchiveOptions) (paths : List (Octets × Octets)) : ToolRun Nat := do
  if paths.isEmpty then
    complain (octets "Cowardly refusing to create an empty archive")
    suggestHelp 2
  if s.file != ['-'] then
    match ← liftM (Run.openFile (Octets.toText s.file) .write) with
    | .ok output => liftM (Run.close output)
    | .error fault =>
      abandon (listedName s.file ++ octets (": Cannot open: " ++ fault.message))
  let archive ← match ← Tool.find s.file true with
    | .ok n => pure (some n)
    | .error _ => pure none
  s.addTo [] (if s.file == ['-'] then none else archive) paths

/-! ## Reading an archive -/

/-- Whether bytes are those of a compressed file. -/
def looksPacked (bytes : ByteArray) : Bool :=
  Compression.byteOf bytes 0 == some 0x1f && Compression.byteOf bytes 1 == some 0x8b

/-- The bytes of an archive, out of a compressed one if it is one. -/
def readIn (s : ArchiveOptions) : ToolRun ByteArray := do
  match ← readInput s.file with
  | .error fault =>
    let what := if fault == .isDirectory then ": Cannot read: " else ": Cannot open: "
    abandon (listedName s.file ++ octets (what ++ fault.message))
  | .ok bytes =>
    if s.isPacked || (looksPacked bytes && s.file != ['-']) then
      let found := Compression.unpack bytes
      match found.fault with
      | none => return found.text
      | some fault =>
        flush
        let message := fault.message (octets "stdin")
        writeErrors (octets (if fault.standsAlone then "\ngzip: " else "gzip: ") ++ message ++ ['\n'])
        complain (octets "Child returned status 1")
        complain (octets "Error is not recoverable: exiting now")
        exit 2
    else if looksPacked bytes then abandon (octets "Archive is compressed. Use -z option")
    else return bytes

/-- Whether a file of an archive is meant by a name: it has it, or is in a directory that has it. -/
def isMeantBy (s : ArchiveOptions) (name : Octets) (e : ArchiveEntry) : Bool :=
  let name := withoutSlashes name
  let own := withoutSlashes e.name
  if s.has "wildcards" && !s.has "no-wildcards" then
    (Shell.Pattern.ofOctets name).accepts own
  else name == own || Octets.starts (name ++ ['/']) own

/-- The name under which a file is taken out, if it is. -/
def outName? (s : ArchiveOptions) (name : Octets) : Option Octets :=
  if s.stripped == 0 then some name
  else
    let parts := (Text.splitAt (· == '/') name).filter (!·.isEmpty)
    match parts.drop s.stripped with
    | [] => none
    | rest => some (Octets.join ['/'] rest)

/-- Makes the directories that a path needs. -/
def makeParents (path : Octets) : ToolRun Unit := do
  let parent := directoryName path
  if (← Tool.find parent true) matches .error _ then
    let _ ← change fun t here => .ok (t.makeDirectories here (Octets.toText parent)).2

/-- Puts a file of an archive at a path. -/
def place (s : ArchiveOptions) (shown path : Octets) (e : ArchiveEntry) : ToolRun Unit := do
  makeParents path
  let fails (what : String) (fault : Fault) : ToolRun Unit :=
    complainStatus (listedName shown ++ octets (": Cannot " ++ what ++ ": " ++ fault.message))
  let isThere := (← Tool.find path false) matches .ok _
  let isTree ← isDirectory path
  if e.kind == .directory then
    if !isTree then
      match ← changeAt path false fun t place => do
          let (t, _) ← t.insertDirectory place (e.mode &&& 0o777)
          .ok t with
      | .ok () => pure ()
      | .error fault => fails "mkdir" fault
    return ()
  if isThere && s.has "skip-old-files" then return ()
  if isThere && s.has "keep-old-files" then
    fails (if e.kind.target.isEmpty then "open" else "create symlink") .present
    return ()
  if isTree then
    let _ ← changeAt path false (·.removeDirectory)
  else if isThere then
    let _ ← changeAt path false (·.unlink)
  let insert (kind : FileKind) (mode : Nat) : ToolRun (Except Fault Unit) :=
    changeAt path false fun t place => do
      let (t, _) ← t.insert place kind mode
      .ok t
  match e.kind with
  | .link target =>
    match ← insert (.link (Octets.toText target)) 0o777 with
    | .ok () => pure ()
    | .error fault => fails "create symlink" fault
  | .sameAs target =>
    let source := match s.directory with
      | some base => inDirectory base ((s.outName? target).getD target)
      | none => (s.outName? target).getD target
    match ← change fun t here => do
        let n ← t.find here (Octets.toText source) false
        let place ← t.locate here (Octets.toText path) false
        .ok (t.setEntry place.directory place.name n) with
    | .ok () => pure ()
    | .error fault => fails ("hard link to '" ++ Octets.toText target ++ "'") fault
  | _ =>
    match ← insert (.regular e.content) (e.mode &&& 0o7777) with
    | .error fault =>
      fails "open" fault
    | .ok () =>
      if !s.has "touch" then
        match ← Tool.find path false with
        | .ok n => kernel fun k => ((), k.modifyTree (·.setModified n (e.second * 1000000000)))
        | .error _ => pure ()

/-- Does something with the files of an archive that are meant, and complains about names that mean
none. -/
def eachMeant (s : ArchiveOptions) (names : List Octets)
    (act : Nat → ArchiveEntry → Octets → ToolRun Nat) : ToolRun Unit := do
  let (entries, fault) := Archive.read (← s.readIn)
  let mut room := listRoom
  let mut said : SaidLeads := []
  for e in entries do
    let isMeant := names.isEmpty || names.any (s.isMeantBy · e)
    if isMeant && !s.isExcluded e.name then
      let (kept, more) ← s.keptName said "member names" e.name
      said := more
      room ← act room e kept
  match fault with
  | some .foreign => complainStatus (octets "This does not look like a tar archive")
  | some .short => abandon (octets "Unexpected EOF in archive")
  | none => pure ()
  for name in names do
    if !entries.any (s.isMeantBy name) then
      complainStatus (listedName name ++ octets ": Not found in archive")

/-- Lists the files of an archive. -/
def list (s : ArchiveOptions) (names : List Octets) : ToolRun Nat := do
  s.eachMeant names fun room e _ => do
    let (text, room) ← s.line room e (0 < s.verbosity)
    printLine text
    return room
  finish

/-- Takes files out of an archive. -/
def extract (s : ArchiveOptions) (names : List Octets) : ToolRun Nat := do
  match s.directory with
  | some d =>
    if !(← isDirectory d) then
      let fault := match ← Tool.find d true with
        | .ok _ => Fault.notDirectory
        | .error fault => fault
      abandon (listedName d ++ octets (": Cannot open: " ++ fault.message))
  | none => pure ()
  let act (room : Nat) (e : ArchiveEntry) (kept : Octets) : ToolRun Nat := do
    match s.outName? kept with
    | none => return room
    | some name =>
      let shown := if s.has "show-transformed-names" then { e with name := name } else e
      let (text, room) ← s.line room shown (1 < s.verbosity)
      let toOutput := s.has "to-stdout"
      if 0 < s.verbosity then
        if toOutput then writeErrors (text ++ ['\n']) else printLine text
      if toOutput then
        if e.kind == .regular then printBytes e.content
        return room
      let path := match s.directory with
        | some base => if name.head? == some '/' then name else inDirectory base name
        | none => name
      s.place name path e
      return room
  s.eachMeant names act
  -- The times of directories are set at the end, for files are put into them.
  if !s.has "to-stdout" && !s.has "touch" then
    let (entries, _) := Archive.read (← if s.file == ['-'] then pure .empty else s.readIn)
    for e in entries do
      if e.kind == .directory && (names.isEmpty || names.any (s.isMeantBy · e)) then
        match s.outName? e.name with
        | none => pure ()
        | some name =>
          let path := match s.directory with
            | some base => inDirectory base name
            | none => name
          match ← Tool.find path true with
          | .ok n => kernel fun k =>
              ((), k.modifyTree fun t =>
                (t.setMode n (e.mode &&& 0o7777)).setModified n (e.second * 1000000000))
          | .error _ => pure ()
  finish

/-- Says how files differ from those in an archive. -/
def compare (s : ArchiveOptions) (names : List Octets) : ToolRun Nat := do
  let act (room : Nat) (e : ArchiveEntry) (_ : Octets) : ToolRun Nat := do
    let path := match s.directory with
      | some base => inDirectory base e.name
      | none => e.name
    let shown := listedName e.name
    let differs (what : String) : ToolRun Unit := do
      printLine (shown ++ octets (": " ++ what))
      noteFailure 1
    if 0 < s.verbosity then
      let (text, _) ← s.line room e (1 < s.verbosity)
      printLine text
    match ← Tool.find path false with
    | .error fault =>
      complain (shown ++ octets (": Warning: Cannot stat: " ++ fault.message))
      noteFailure 1
    | .ok n =>
      let facts ← look fun k => factsOf k.tree n
      match e.kind, facts.kind with
      | .regular, some (.regular bytes) =>
        if facts.mode &&& 0o7777 != e.mode &&& 0o7777 then differs "Mode differs"
        if e.owner != 0 then differs "Uid differs"
        if e.group != 0 then differs "Gid differs"
        if facts.modified / 1000000000 != e.second then differs "Mod time differs"
        if bytes.size != e.content.size then differs "Size differs"
        else if bytes != e.content then differs "Contents differ"
      | .directory, some (.directory ..) =>
        if facts.mode &&& 0o7777 != e.mode &&& 0o7777 then differs "Mode differs"
        if facts.modified / 1000000000 != e.second then differs "Mod time differs"
      | .link target, some (.link now) =>
        if Octets.ofText now != target then differs "Symlink differs"
      | .sameAs target, _ =>
        if !(← isSameNode path target true) then
          differs ("Not linked to " ++ Octets.toText (listedName target))
      | _, _ => differs "File type differs"
    return room
  s.eachMeant names act
  finish

/-- Adds files to an archive that is there. -/
def append (s : ArchiveOptions) (paths : List (Octets × Octets)) : ToolRun Nat := do
  if paths.isEmpty && s.action == .append then
    complain (octets "Cowardly refusing to create an empty archive")
    suggestHelp 2
  if s.isPacked then
    complain (octets "Cannot update compressed archives")
    suggestHelp 2
  match ← Tool.find s.file true with
  | .error _ => s.create paths
  | .ok n =>
    let (entries, fault) := Archive.read (← s.readIn)
    if fault == some .foreign && (← look fun k => (factsOf k.tree n).size) != 0 then
      complain (octets "This does not look like a tar archive")
      complainStatus (octets "Skipping to next header")
    s.addTo entries (some n) paths

/-- Takes files off an archive. -/
def remove (s : ArchiveOptions) (names : List Octets) : ToolRun Nat := do
  let (entries, _) := Archive.read (← s.readIn)
  for name in names do
    if !entries.any (s.isMeantBy name) then
      complainStatus (listedName name ++ octets ": Not found in archive")
  let kept := entries.filter fun e => !names.any (s.isMeantBy · e)
  s.writeOut (Archive.write kept)
  finish

end ArchiveOptions

/-- Options and other arguments in their order. -/
def inTurn (specs : List OptionSpec) (fuel : Nat) (arguments : List Octets) :
    ToolRun (List (GivenOption ⊕ Octets)) :=
  match fuel with
  | 0 => return []
  | fuel + 1 => do
    let (given, rest) ← OptionSpec.parse specs 64 true (arguments.length + 1) arguments
    let first := given.map Sum.inl
    match rest with
    | [] => return first
    | o :: rest => return first ++ Sum.inr o :: (← inTurn specs fuel rest)

/-- The options in a word of letters without a hyphen, whose values follow one after the other. -/
def oldOptions (fuel : Nat) (letters : Octets) (rest : List Octets) :
    ToolRun (List (GivenOption ⊕ Octets) × List Octets) :=
  match fuel, letters with
  | 0, _ | _, [] => return ([], rest)
  | fuel + 1, c :: more => do
    match archiveSpecs.find? (·.letter == c) with
    | none =>
      complain (octets "invalid option -- " ++ quote [c])
      suggestHelp 64
    | some spec =>
      if spec.value == .required then
        match rest with
        | [] =>
          complain (octets "Old option '" ++ [c] ++ octets "' requires an argument.")
          suggestHelp 2
        | value :: rest =>
          let (options, rest) ← oldOptions fuel more rest
          return (.inl (spec.name, value) :: options, rest)
      else
        let (options, rest) ← oldOptions fuel more rest
        return (.inl (spec.name, []) :: options, rest)

/-- The names in a file, one on each line. -/
def namesFrom (path : Octets) : ToolRun (List Octets) := do
  match ← readInput path with
  | .ok bytes => return (Octets.lines (Octets.ofBytes bytes)).1.filter (!·.isEmpty)
  | .error fault => abandon (listedName path ++ octets (": Cannot open: " ++ fault.message))

/-- Makes archives, and takes files out of them. -/
def archiveTool : Procedure := fun _ arguments => do
  modify fun s =>
    { s with
      name := octets "tar"
      hint := fun name => octets "Try '" ++ name ++ octets " --help' or '" ++ name
        ++ octets " --usage' for more information.\n" }
  let items : List (GivenOption ⊕ Octets) ← match arguments with
    | first :: rest =>
      if first.head? == some '-' || first.isEmpty then
        inTurn archiveSpecs (arguments.length + 1) arguments
      else do
        let (old, rest) ← oldOptions (first.length + 1) first rest
        let others ← inTurn archiveSpecs (rest.length + 1) rest
        pure (old ++ others)
    | [] => pure []
  let given : List GivenOption := items.filterMap Sum.getLeft?
  let actions : List ArchiveAction := given.filterMap fun (name, _) => archiveActions.lookup name
  let action ← match actions.eraseDups with
    | [action] => pure action
    | [] =>
      complain (octets
        "You must specify one of the '-Acdtrux', '--delete' or '--test-label' options")
      suggestHelp 2
    | _ =>
      complain (octets ("You may not specify more than one '-Acdtrux', '--delete' or "
        ++ " '--test-label' option"))
      suggestHelp 2
  let mut base : Octets := []
  let mut paths : List (Octets × Octets) := []
  let mut excluded : List Shell.Pattern := []
  for item in items do
    match item with
    | .inr name => paths := paths ++ [(base, name)]
    | .inl ("directory", o) =>
      base := if o.head? == some '/' || base.isEmpty then o else inDirectory base o
    | .inl ("files-from", o) =>
      let lines ← namesFrom o
      let here := base
      paths := paths ++ lines.map fun line => (here, line)
    | .inl ("exclude", o) => excluded := excluded ++ [Shell.Pattern.ofOctets o]
    | .inl ("exclude-from", o) =>
      let lines ← namesFrom o
      excluded := excluded ++ lines.map Shell.Pattern.ofOctets
    | .inl _ => pure ()
  match ["bzip2", "xz", "zstd"].find? (Tool.has given) with
  | some packer =>
    writeErrors (octets ("tar (child): " ++ packer ++ ": Cannot exec: No such file or directory\n"
      ++ "tar (child): Error is not recoverable: exiting now\n"))
    complain (octets "Child returned status 2")
    complain (octets "Error is not recoverable: exiting now")
    exit 2
  | none => pure ()
  let stripped ← match valueOf? given "strip-components" with
    | none => pure 0
    | some o => match Octets.natural? o with
      | some n => pure n
      | none =>
        complain (octets "Invalid number of elements: " ++ quote o)
        suggestHelp 2
  let s : ArchiveOptions :=
    { action := action, given := given, file := (valueOf? given "file").getD ['-']
      verbosity := given.countP (·.1 == "verbose"), isPacked := Tool.has given "gzip"
      excluded := excluded, stripped := stripped
      directory := if base.isEmpty then none else some base }
  let names := paths.map (·.2)
  match action with
  | .create => s.create paths
  | .list => s.list names
  | .extract => s.extract names
  | .append | .update => s.append paths
  | .remove => s.remove names
  | .compare => s.compare names

end Flowscript.Tool
