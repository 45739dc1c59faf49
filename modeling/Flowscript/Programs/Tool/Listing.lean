import Flowscript.Programs.Tool.Calendar
import Flowscript.Programs.Tool.Sorting

/-!
# Programs that show what is in directories

* `modeText` shows permissions.
* `listTool` lists files and directories.
* `describeTool` shows what is known of a file.
* `usageTool` shows how much space is taken.
-/

set_option autoImplicit false

namespace Flowscript.Tool

/-! ## Descriptions -/

/-- The letter for the kind of a file. -/
def kindLetter : Option FileKind → Char
  | some (.directory ..) => 'd'
  | some (.link _) => 'l'
  | some (.device _) => 'c'
  | some (.pipe _) => 'p'
  | _ => '-'

/-- The words for the kind of a file. -/
def kindWords (size : Nat) : Option FileKind → String
  | some (.directory ..) => "directory"
  | some (.link _) => "symbolic link"
  | some (.device _) => "character special file"
  | some (.pipe _) => "fifo"
  | _ => if size == 0 then "regular empty file" else "regular file"

/-- The letters for permissions. -/
def modeLetters (mode : Nat) : Octets :=
  let bit (n : Nat) : Bool := mode >>> n &&& 1 == 1
  let run (n : Nat) (special : Bool) (on off : Char) : Char :=
    match special, bit n with
    | true, true => on
    | true, false => off
    | false, true => 'x'
    | false, false => '-'
  let letter (n : Nat) (c : Char) : Char := if bit n then c else '-'
  [letter 8 'r', letter 7 'w', run 6 (bit 11) 's' 'S', letter 5 'r', letter 4 'w',
    run 3 (bit 10) 's' 'S', letter 2 'r', letter 1 'w', run 0 (bit 9) 't' 'T']

/-- What is known of a file. -/
structure FileFacts where
  node : Nat
  kind : Option FileKind
  mode : Nat
  modified : Nat
  size : Nat
  links : Nat

/-- What is known of a node. -/
def factsOf (t : FileTree) (n : Nat) : FileFacts :=
  let kind := t.kind? n
  let size := match kind with
    | some (.regular content) => content.size
    | some (.directory ..) => 4096
    | some (.link target) => target.utf8ByteSize
    | some (.program _) => 100000
    | _ => 0
  let links := match kind with
    | some (.directory _ entries) => 2 + entries.countP fun e => t.isDirectoryAt e.2
    | _ => t.nameCount n
  ⟨n, kind, t.modeOf n, t.modifiedAt n, size, links⟩

namespace FileFacts

/-- The letters for kind and permissions. -/
def modeText (f : FileFacts) : Octets := kindLetter f.kind :: modeLetters f.mode

/-- Whether the file is a directory. -/
def isDirectory (f : FileFacts) : Bool := f.kind matches some (.directory ..)

/-- Whether somebody may run the file. -/
def isRunnable (f : FileFacts) : Bool := f.mode &&& 0o111 != 0

/-- How many kilobytes the file takes. -/
def kilobytes (f : FileFacts) : Nat :=
  match f.kind with
  | some (.regular _) | some (.program _) => (f.size + 4095) / 4096 * 4
  | some (.directory ..) => 4
  | _ => 0

/-- What is put after a name to show what kind of file it is. -/
def mark (f : FileFacts) (onlyDirectories : Bool) : Octets :=
  match f.kind with
  | some (.directory ..) => ['/']
  | some (.link _) => if onlyDirectories then [] else ['@']
  | some (.pipe _) => if onlyDirectories then [] else ['|']
  | some (.regular _) | some (.program _) =>
    if f.isRunnable && !onlyDirectories then ['*'] else []
  | _ => []

end FileFacts

/-- A size in the largest unit that it fills. -/
def humanSize (n : Nat) : Octets :=
  let rec go (fuel : Nat) (units : List Char) (scale : Nat) : Octets :=
    match fuel, units with
    | fuel + 1, unit :: rest =>
      if n < scale * 1024 || rest.isEmpty then
        let tenths := (n * 10 + scale - 1) / scale
        if tenths < 100 then
          Nat.toDigits 10 (tenths / 10) ++ '.' :: Nat.toDigits 10 (tenths % 10) ++ [unit]
        else Nat.toDigits 10 ((n + scale - 1) / scale) ++ [unit]
      else go fuel rest (scale * 1024)
    | _, _ => Nat.toDigits 10 n
  if n < 1024 then Nat.toDigits 10 n else go 10 "KMGT".toList 1024

/-! ## Lists -/

/-- A name that is listed, and what is known of it. -/
abbrev Listed := Octets × FileFacts

/-- The text of a name, with what shows its kind if that is wanted. -/
def nameText (given : List GivenOption) (item : Listed) : Octets :=
  (if has given "quote-name" then '"' :: item.1 ++ ['"'] else item.1)
    ++ (if has given "classify" then item.2.mark false
    else if has given "slashes" then item.2.mark true else [])

/-- The order of names that options ask for. -/
def sortListed (given : List GivenOption) (items : List Listed) : List Listed :=
  let byName (a b : Listed) : Ordering := compareOctets a.1 b.1
  let order (a b : Listed) : Ordering :=
    if has given "by-size" then (compare b.2.size a.2.size).then (byName a b)
    else if has given "by-time" then (compare b.2.modified a.2.modified).then (byName a b)
    else if has given "by-version" then Text.compareFileVersions a.1 b.1
    else byName a b
  let sorted := if has given "unsorted" then items
    else items.mergeSort fun a b => order a b != .gt
  if has given "reverse" && !has given "unsorted" then sorted.reverse else sorted

/-- Texts filled up on the left to the width of the longest. -/
def alignRight (texts : List Octets) : List Octets :=
  let width := (texts.map (·.length)).foldl max 0
  texts.map fun o => List.replicate (width - o.length) ' ' ++ o

/-- The lines of a list with all that is known of each file. -/
def longLines (given : List GivenOption) (items : List Listed) : List Octets :=
  let sizes := alignRight (items.map fun i =>
    if has given "human" then humanSize i.2.size else Nat.toDigits 10 i.2.size)
  let links := alignRight (items.map fun i => Nat.toDigits 10 i.2.links)
  (items.zip (links.zip sizes)).map fun (item, link, size) =>
    let owner := if has given "numeric" then octets "0" else octets "root"
    let owners := (if has given "no-owner" then [] else [owner])
      ++ (if has given "no-group" then [] else [owner])
    let target := match item.2.kind with
      | some (.link target) => octets (" -> " ++ target)
      | _ => []
    Octets.join [' '] ([item.2.modeText, link] ++ owners
      ++ [size, (Moment.ofTime Zone.universal item.2.modified).format (octets "%b %e %H:%M"),
        nameText given item]) ++ target

/-- Prints a list. -/
def printListed (given : List GivenOption) (items : List Listed) : ToolRun Unit := do
  let items := sortListed given items
  let lines := if has given "long" then longLines given items
    else items.map (nameText given)
  let lines := if has given "inode" then
      (alignRight (items.map fun i => Nat.toDigits 10 i.2.node)).zipWith
        (fun number line => number ++ ' ' :: line) lines
    else lines
  let lines := if has given "blocks" then
      (alignRight (items.map fun i => Nat.toDigits 10 i.2.kilobytes)).zipWith
        (fun number line => number ++ ' ' :: line) lines
    else lines
  if has given "commas" then
    if !lines.isEmpty then printLine (Octets.join (octets ", ") lines)
  else for line in lines do printLine line

/-- What is in a directory, as far as it is listed. -/
def listedIn (given : List GivenOption) (t : FileTree) (n : Nat) : List Listed :=
  let entries := ((t.entries? n).getD []).map fun e => (octets e.1, factsOf t e.2)
  let dots := if has given "all" then
      [(['.'], factsOf t n), (['.', '.'], factsOf t (t.parentOf n))]
    else []
  dots ++ entries.filter fun e =>
    has given "all" || has given "almost-all" || e.1.head? != some '.'

/-- Lists what is in a directory, and in those in it if that is wanted. -/
def listDirectory (given : List GivenOption) (fuel : Nat) (isTitled isFirst : Bool)
    (path : Octets) : ToolRun Unit :=
  match fuel with
  | 0 => return ()
  | fuel + 1 => do
    match ← find path true with
    | .error _ => return ()
    | .ok n =>
      let items ← look fun k => listedIn given k.tree n
      if !isFirst then print ['\n']
      if isTitled then printLine (path ++ [':'])
      if has given "long" || has given "blocks" then
        printLine (octets "total " ++ Nat.toDigits 10 (items.map (·.2.kilobytes)).sum)
      printListed given items
      if has given "recursive" then
        for (name, facts) in sortListed given items do
          if facts.isDirectory && name != ['.'] && name != ['.', '.'] then
            listDirectory given fuel true false (inDirectory path name)

/-- Lists files and directories. -/
def listTool : Procedure := fun _ arguments => do
  let (given, paths) ← options
    [.flag 'a' "all", .flag 'A' "almost-all", .flag '1' "one-per-line", .flag 'l' "long",
      .flag 'd' "directory", .flag 'R' "recursive", .flag 'F' "classify", .flag 'p' "slashes",
      .flag 'r' "reverse", .flag 't' "by-time", .flag 'S' "by-size", .flag 'U' "unsorted",
      .flag 'f' "unsorted", .flag 'i' "inode", .flag 's' "blocks", .flag 'h' "human",
      .flag 'n' "numeric", .flag 'g' "no-owner", .flag 'o' "no-group", .flag 'G' "no-group",
      .flag 'm' "commas", .flag 'L' "dereference", .flag 'H' "command-links", .flag 'C' "columns",
      .flag 'x' "across", .flag 'k' "kibibytes", .flag 'q' "hide-control", .flag 'N' "literal",
      .flag 'Q' "quote-name",
      .flag 'c' "change-time", .flag 'u' "access-time", .flag 'v' "by-version",
      ⟨OptionSpec.noLetter, "color", .optional⟩,
      .flag OptionSpec.noLetter "group-directories-first"] 2 arguments
  let given := if (given.any fun o => o.1 == "numeric" || o.1 == "no-owner" || o.1 == "no-group")
    then ("long", []) :: given else given
  let paths := if paths.isEmpty then [['.']] else paths
  let mut files : List Listed := []
  let mut directories : List Listed := []
  for path in paths do
    -- A link to a directory is one only if nothing is asked about the link itself.
    let keeps := (has given "long" || has given "classify" || has given "directory")
      && !has given "dereference" && !has given "command-links"
    let found ← find path (!keeps)
    let found ← match found with
      | .ok n => pure (.ok n)
      | .error _ => find path false
    match found with
    | .error fault =>
      complain (octets "cannot access " ++ quotePath path ++ octets (": " ++ fault.message))
      noteFailure 2
    | .ok n =>
      let facts ← look fun k => factsOf k.tree n
      if facts.isDirectory && !has given "directory" then
        directories := directories ++ [(path, facts)]
      else files := files ++ [(path, facts)]
  if !files.isEmpty then printListed given files
  let isTitled := 1 < paths.length || has given "recursive"
  let mut isFirst := files.isEmpty
  for (path, _) in sortListed given directories do
    listDirectory given 1000 isTitled isFirst path
    isFirst := false
  notedStatus

/-! ## Descriptions of one file -/

/-- What a letter of a format stands for. -/
def factText (path : Octets) (f : FileFacts) (c : Char) : Octets :=
  match c with
  | 'n' => path
  | 'N' => match f.kind with
    | some (.link target) => quotePath path ++ octets " -> " ++ quote (octets target)
    | _ => quotePath path
  | 's' => Nat.toDigits 10 f.size
  | 'F' => octets (kindWords f.size f.kind)
  | 'a' => Nat.toDigits 8 f.mode
  | 'A' => f.modeText
  | 'h' => Nat.toDigits 10 f.links
  | 'i' => Nat.toDigits 10 f.node
  | 'u' | 'g' => ['0']
  | 'U' | 'G' => octets "root"
  | 'b' => Nat.toDigits 10 (2 * f.kilobytes)
  | 'B' => octets "512"
  | 'o' => octets "4096"
  | 'X' | 'Y' | 'Z' => Nat.toDigits 10 (f.modified / 1000000000)
  | 'x' | 'y' | 'z' => (Moment.ofTime Zone.universal f.modified).format (octets "%F %T.%N %z")
  | '%' => ['%']
  | c => ['%', c]

/-- Writes a description as a format says. -/
def factFormat (path : Octets) (f : FileFacts) : Octets → Octets
  | '%' :: c :: r => factText path f c ++ factFormat path f r
  | c :: r => c :: factFormat path f r
  | [] => []

/-- A text in which backslashes before some letters stand for other characters. -/
def plainEscapes : Octets → Octets
  | '\\' :: c :: r =>
    (match c with
      | 'n' => ['\n']
      | 't' => ['\t']
      | '0' => ['\x00']
      | '\\' => ['\\']
      | c => ['\\', c]) ++ plainEscapes r
  | c :: r => c :: plainEscapes r
  | [] => []

/-- Shows what is known of files. -/
def describeTool : Procedure := fun _ arguments => do
  let (given, paths) ← options
    [.setting 'c' "format", .setting OptionSpec.noLetter "printf", .flag 'L' "dereference",
      .flag 't' "terse", .flag 'f' "file-system"] 1 arguments
  needOperand 1 paths
  for path in paths do
    match ← find path (has given "dereference") with
    | .error fault =>
      let what := if has given "dereference" then "cannot stat " else "cannot statx "
      complain (octets what ++ quotePath path ++ octets (": " ++ fault.message))
      noteFailure 1
    | .ok n =>
      let facts ← look fun k => factsOf k.tree n
      match valueOf? given "printf", valueOf? given "format" with
      | some format, _ => print (factFormat path facts (plainEscapes format))
      | none, some format => printLine (factFormat path facts format)
      | none, none =>
        printLine (factFormat path facts (octets "  File: %n"))
        printLine (factFormat path facts (octets "  Size: %s\tBlocks: %b\tIO Block: %o   %F"))
        printLine (factFormat path facts (octets "Access: (0%a/%A)  Uid: (    0/    root)"))
  notedStatus

/-- How many kilobytes a file takes, with all that is in it; each directory is printed if that is
wanted. -/
def usageOf (given : List GivenOption) (fuel : Nat) (isTop : Bool) (path : Octets) : ToolRun Nat :=
  match fuel with
  | 0 => return 0
  | fuel + 1 => do
    match ← find path false with
    | .error fault =>
      complainOf "cannot access" path fault
      return 0
    | .ok n =>
      let facts ← look fun k => factsOf k.tree n
      let mut total := if has given "bytes" then facts.size else facts.kilobytes
      if facts.isDirectory then
        for name in ← namesIn path do
          total := total + (← usageOf given fuel false (inDirectory path name))
      if isTop || (!has given "summarize" && (facts.isDirectory || has given "all")) then
        let text := if has given "human" then humanSize (1024 * total) else Nat.toDigits 10 total
        printLine (text ++ '\t' :: path)
      return total

/-- Shows how much space is taken. -/
def usageTool : Procedure := fun _ arguments => do
  let (given, paths) ← options
    [.flag 's' "summarize", .flag 'a' "all", .flag 'k' "kibibytes", .flag 'h' "human",
      .flag 'b' "bytes", .flag 'c' "total"] 1 arguments
  for path in if paths.isEmpty then [['.']] else paths do
    let _ ← usageOf given 1000 true path
  notedStatus

end Flowscript.Tool
