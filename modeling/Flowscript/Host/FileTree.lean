import Flowscript.Path

/-!
# File trees and their faults

What can go wrong with a file, and the tree that files are in.

* `Fault` is why a file or a process cannot be used as asked.
* `Fault.message` is its wording.
* `FileTree.locate` follows a path from a working directory.
* `FileTree.readBytes?`, `FileTree.list?` and their like look.
* `FileTree.insert`, `FileTree.unlink`, `FileTree.rename` and their like change.
* `FileTree.listing` names everything below a directory.
-/

set_option autoImplicit false

namespace Flowscript

/-! ## Why something cannot be done -/

/-- Why a file or a process cannot be used as asked. -/
inductive Fault where
  /-- Nothing is there. -/
  | missing
  | notDirectory
  | isDirectory
  /-- Something is there already. -/
  | present
  | notEmpty
  /-- Links lead on and on. -/
  | tooManyLinks
  | longName
  | denied
  | notPermitted
  | invalid
  /-- No file is open under a number. -/
  | notOpen
  /-- Nobody reads what is written. -/
  | unread
  /-- A file holds neither a program nor the name of one to run it. -/
  | notRunnable
  | full
  | noProcess
  | noDevice
  | busy
  | unseekable
  deriving DecidableEq, Repr

/-- The wording of a fault. -/
def Fault.message : Fault → String
  | .missing => "No such file or directory"
  | .notDirectory => "Not a directory"
  | .isDirectory => "Is a directory"
  | .present => "File exists"
  | .notEmpty => "Directory not empty"
  | .tooManyLinks => "Too many levels of symbolic links"
  | .longName => "File name too long"
  | .denied => "Permission denied"
  | .notPermitted => "Operation not permitted"
  | .invalid => "Invalid argument"
  | .notOpen => "Bad file descriptor"
  | .unread => "Broken pipe"
  | .notRunnable => "Exec format error"
  | .full => "No space left on device"
  | .noProcess => "No such process"
  | .noDevice => "No such device or address"
  | .busy => "Device or resource busy"
  | .unseekable => "Illegal seek"

/-! ## Files and directories

A file tree is a number of nodes: regular files with their bytes, directories with the names in
them, symbolic links, devices, pipes, and programs.  A directory says which node each of its names stands
for, so a file can have more than one name, or none while somebody still reads it.  The tree is a
value: writing gives a new one, and the old one is as it was. -/

/-- A file that is no store of bytes. -/
inductive Device where
  /-- Swallows what is written, and has nothing to read. -/
  | nothing
  /-- Has as many null bytes to read as one likes. -/
  | zeros
  /-- Has no space for what is written. -/
  | fullUp
  /-- The file that a process has open under a number. -/
  | opened (number : Nat)
  /-- The screen, of which there is none. -/
  | screen
  deriving DecidableEq, Repr

/-- What a node is. -/
inductive FileKind where
  | regular (content : ByteArray)
  | directory (parent : Nat) (entries : List (String × Nat))
  | link (target : String)
  | device (device : Device)
  /-- A pipe that can be opened by its name. -/
  | pipe (number : Nat)
  /-- A program of the host. -/
  | program (name : String)

/-- A node: what it is, its permission bits, and when it was last written. -/
structure FileNode where
  kind : FileKind
  mode : Nat
  modified : Nat

/-- Nodes by their numbers, and the time.  The root has the number zero. -/
structure FileTree where
  nodes : Array FileNode
  time : Nat

/-- Where a path leads: a name in a directory, and the node that it stands for, if there is one.  A
path that ends in a directory without naming it leads to the empty name. -/
structure Place where
  directory : Nat
  name : String
  node? : Option Nat

namespace FileTree

/-- The permissions of a directory. -/
def directoryMode : Nat := 0o755

/-- The permissions of a file that is written. -/
def plainMode : Nat := 0o644

/-- The permission bits that let somebody run a file. -/
def runBits : Nat := 0o111

/-- The time at which a host starts, in nanoseconds from the first day of 1970 on. -/
def startTime : Nat := 1767225600000000000

/-- A root without anything in it. -/
def empty : FileTree := ⟨#[⟨.directory 0 [], directoryMode, startTime⟩], startTime⟩

/-- The number of the root. -/
def root : Nat := 0

/-! ### Nodes -/

/-- What a node is. -/
def kind? (t : FileTree) (n : Nat) : Option FileKind := (t.nodes[n]?).map (·.kind)

/-- The permission bits of a node. -/
def modeOf (t : FileTree) (n : Nat) : Nat := ((t.nodes[n]?).map (·.mode)).getD 0

/-- When a node was last written. -/
def modifiedAt (t : FileTree) (n : Nat) : Nat := ((t.nodes[n]?).map (·.modified)).getD 0

/-- The names in a directory, in the order in which they were made. -/
def entries? (t : FileTree) (n : Nat) : Option (List (String × Nat)) :=
  match t.kind? n with
  | some (.directory _ entries) => some entries
  | _ => none

/-- Whether a node is a directory. -/
def isDirectoryAt (t : FileTree) (n : Nat) : Bool := (t.entries? n).isSome

/-- The directory that a directory is in. -/
def parentOf (t : FileTree) (n : Nat) : Nat :=
  match t.kind? n with
  | some (.directory parent _) => parent
  | _ => root

/-- Whether a directory still has a name. -/
def isAttached (t : FileTree) (n : Nat) : Bool :=
  n == root || ((t.entries? (t.parentOf n)).getD []).any (·.2 == n)

/-- The bytes of a regular file. -/
def content? (t : FileTree) (n : Nat) : Option ByteArray :=
  match t.kind? n with
  | some (.regular content) => some content
  | _ => none

/-- How many names a node has. -/
def nameCount (t : FileTree) (n : Nat) : Nat :=
  t.nodes.foldl (fun count node => count + match node.kind with
    | .directory _ entries => entries.countP (·.2 == n)
    | _ => 0) 0

/-- The names on the way from the root to a directory, unless it is no longer there. -/
def namesTo? (t : FileTree) (fuel n : Nat) : Option (List String) :=
  match fuel with
  | 0 => none
  | fuel + 1 =>
    if n == root then some []
    else do
      let parent := t.parentOf n
      let entry ← ((t.entries? parent).getD []).find? (·.2 == n)
      let before ← t.namesTo? fuel parent
      some (before ++ [entry.1])

/-- The absolute path of a directory, unless it is no longer there. -/
def path? (t : FileTree) (n : Nat) : Option String :=
  (t.namesTo? (t.nodes.size + 1) n).map fun names => "/" ++ String.intercalate "/" names

/-! ### Following paths -/

/-- The longest name, in bytes. -/
def longestName : Nat := 255

/-- The longest path, in bytes. -/
def longestPath : Nat := 4095

/-- How many links may be followed on one way. -/
def mostLinks : Nat := 40

/-- Follows the parts of a path from a directory.  A link on the way is followed, and one at the end
if `follow` says so. -/
def walk (t : FileTree) (follow : Bool) (links here : Nat) (parts : List String) :
    Except Fault Place :=
  match parts with
  | [] => .ok ⟨here, "", some here⟩
  | part :: rest =>
    match t.entries? here with
    | none => .error .notDirectory
    | some entries =>
      if part == "." then t.walk follow links here rest
      else if part == ".." then t.walk follow links (t.parentOf here) rest
      else if longestName < part.utf8ByteSize then .error .longName
      else
        match entries.lookup part with
        | none => if rest.isEmpty then .ok ⟨here, part, none⟩ else .error .missing
        | some n =>
          match t.kind? n with
          | some (.link target) =>
            if rest.isEmpty && !follow then .ok ⟨here, part, some n⟩
            else
              match links with
              | 0 => .error .tooManyLinks
              | links + 1 =>
                if target.isEmpty then .error .missing
                else t.walk follow links (if Path.isAbsolute target then root else here)
                  (Path.parts target ++ rest)
          | _ => if rest.isEmpty then .ok ⟨here, part, some n⟩ else t.walk follow links n rest
termination_by (links, parts.length)

/-- Where a path leads from a working directory.  All but its last part have to be there, and what
has a slash after it has to be a directory. -/
def locate (t : FileTree) (here : Nat) (path : String) (follow : Bool) : Except Fault Place :=
  if path.isEmpty then .error .missing
  else if path.toList.contains '\x00' then .error .invalid
  else if longestPath < path.utf8ByteSize then .error .longName
  else do
    let start := if Path.isAbsolute path then root else here
    let closed := Path.endsInSlash path
    let place ← t.walk (follow || closed) mostLinks start (Path.parts path)
    match place.node? with
    | some n => if closed && !t.isDirectoryAt n then .error .notDirectory else .ok place
    | none => .ok place

/-- The node that a path leads to. -/
def find (t : FileTree) (here : Nat) (path : String) (follow : Bool) : Except Fault Nat := do
  match (← t.locate here path follow).node? with
  | some n => .ok n
  | none => .error .missing

/-- What a path leads to. -/
def find? (t : FileTree) (here : Nat) (path : String) : Option FileKind :=
  match t.find here path true with
  | .ok n => t.kind? n
  | .error _ => none

/-! ### Looking -/

/-- Whether a path leads to anything. -/
def exists? (t : FileTree) (here : Nat) (path : String) : Bool := (t.find? here path).isSome

/-- Whether a path leads to a directory. -/
def isDirectory (t : FileTree) (here : Nat) (path : String) : Bool :=
  t.find? here path matches some (.directory ..)

/-- Whether a path leads to a regular file, or a program. -/
def isFile (t : FileTree) (here : Nat) (path : String) : Bool :=
  match t.find? here path with
  | some (.regular _) | some (.program _) => true
  | _ => false

/-- The bytes that can be read from a path. -/
def readBytes? (t : FileTree) (here : Nat) (path : String) : Option ByteArray :=
  match t.find? here path with
  | some (.regular content) => some content
  | some (.device .nothing) => some .empty
  | _ => none

/-- The text that can be read from a path, if its bytes are text. -/
def readText? (t : FileTree) (here : Nat) (path : String) : Option String := do
  String.fromUTF8? (← t.readBytes? here path)

/-- Names in the order of their characters. -/
def sortNames (names : List String) : List String := names.mergeSort fun a b => decide (a ≤ b)

/-- The names in a directory, sorted. -/
def namesAt (t : FileTree) (n : Nat) : List String :=
  sortNames (((t.entries? n).getD []).map (·.1))

/-- The names in the directory that a path leads to, sorted. -/
def list? (t : FileTree) (here : Nat) (path : String) : Option (List String) :=
  match t.find here path true with
  | .ok n => if t.isDirectoryAt n then some (t.namesAt n) else none
  | .error _ => none

/-- Everything below a directory, `depth` levels deep: each directory with a slash after its name
and before what is in it. -/
def listing (t : FileTree) (depth n : Nat) (lead : String) : List String :=
  match depth with
  | 0 => []
  | depth + 1 =>
    let entries := (t.entries? n).getD []
    (t.namesAt n).flatMap fun name =>
      match entries.lookup name with
      | some m =>
        if t.isDirectoryAt m then
          (lead ++ name ++ "/") :: t.listing depth m (lead ++ name ++ "/")
        else [lead ++ name]
      | none => []

/-- Everything below the directory that a path leads to. -/
def listing? (t : FileTree) (here : Nat) (path : String) : Option (List String) :=
  match t.find here path true with
  | .ok n => if t.isDirectoryAt n then some (t.listing (t.nodes.size + 1) n "") else none
  | .error _ => none

/-! ### Changing -/

/-- Changes what a node is. -/
def modifyKind (t : FileTree) (n : Nat) (f : FileKind → FileKind) : FileTree :=
  let time := t.time
  { t with nodes := t.nodes.modify n fun node =>
      { node with kind := f node.kind, modified := time } }

/-- Changes the permissions of a node. -/
def setMode (t : FileTree) (n mode : Nat) : FileTree :=
  { t with nodes := t.nodes.modify n fun node => { node with mode := mode } }

/-- Changes when a node was last written. -/
def setModified (t : FileTree) (n time : Nat) : FileTree :=
  { t with nodes := t.nodes.modify n fun node => { node with modified := time } }

/-- Changes the bytes of a regular file. -/
def modifyContent (t : FileTree) (n : Nat) (f : ByteArray → ByteArray) : FileTree :=
  t.modifyKind n fun
    | .regular content => .regular (f content)
    | kind => kind

/-- Changes the names in a directory. -/
def modifyEntries (t : FileTree) (n : Nat)
    (f : List (String × Nat) → List (String × Nat)) : FileTree :=
  t.modifyKind n fun
    | .directory parent entries => .directory parent (f entries)
    | kind => kind

/-- Lets a name of a directory stand for a node. -/
def setEntry (t : FileTree) (directory : Nat) (name : String) (n : Nat) : FileTree :=
  t.modifyEntries directory fun entries =>
    if (entries.lookup name).isSome then
      entries.map fun e => if e.1 == name then (name, n) else e
    else entries ++ [(name, n)]

/-- Takes a name out of a directory. -/
def dropEntry (t : FileTree) (directory : Nat) (name : String) : FileTree :=
  t.modifyEntries directory (·.filter (·.1 != name))

/-- Puts a new node at a place where nothing is, and gives its number. -/
def insert (t : FileTree) (place : Place) (kind : FileKind) (mode : Nat) :
    Except Fault (FileTree × Nat) :=
  if place.name.isEmpty || place.node?.isSome then .error .present
  else if !t.isAttached place.directory then .error .missing
  else
    let n := t.nodes.size
    let grown : FileTree := { t with nodes := t.nodes.push ⟨kind, mode, t.time⟩ }
    .ok (grown.setEntry place.directory place.name n, n)

/-- Makes a directory at a place where nothing is. -/
def insertDirectory (t : FileTree) (place : Place) (mode : Nat) :
    Except Fault (FileTree × Nat) :=
  t.insert place (.directory place.directory []) mode

/-- Makes the directory that a path leads to, where nothing is yet. -/
def makeDirectory (t : FileTree) (here : Nat) (path : String) (mode : Nat) :
    Except Fault FileTree := do
  let place ← t.locate here path false
  let (t, _) ← t.insertDirectory place mode
  .ok t

/-- Makes a directory unless one is there. -/
def ensureDirectory (t : FileTree) (here : Nat) (path : String) : Except Fault FileTree :=
  match t.makeDirectory here path directoryMode with
  | .ok t => .ok t
  | .error fault => if t.isDirectory here path then .ok t else .error fault

/-- The paths, the longest first, of the directories that have to be made: up to one that is there
or can be made. -/
def neededDirectories (t : FileTree) (here : Nat) : List String → Except Fault (List String)
  | [] => .ok []
  | "" :: _ => .ok []
  | path :: rest =>
    match t.ensureDirectory here path with
    | .ok _ => .ok [path]
    | .error .missing => return path :: (← t.neededDirectories here rest)
    | .error fault => .error fault

/-- Makes directories, the last one first, up to one that cannot be made. -/
def makeAll (t : FileTree) (here : Nat) : List String → Bool × FileTree
  | [] => (true, t)
  | path :: rest =>
    match t.makeAll here rest with
    | (false, t) => (false, t)
    | (true, t) =>
      match t.ensureDirectory here path with
      | .ok t => (true, t)
      | .error _ => (false, t)

/-- Makes all directories on the way that are not there, up to one that cannot be made, and says
whether there is none like that.  The empty path needs none. -/
def makeDirectories (t : FileTree) (here : Nat) (path : String) : Bool × FileTree :=
  match t.neededDirectories here (Path.above (path.length + 1) path) with
  | .ok needed => t.makeAll here needed
  | .error _ => (false, t)

/-- Gives the file that a path leads to new bytes, and makes it if it is not there.  The directory
it is in has to be there. -/
def writeBytes (t : FileTree) (here : Nat) (path : String) (content : ByteArray) :
    Except Fault FileTree := do
  let place ← t.locate here path true
  match place.node? with
  | some n =>
    match t.kind? n with
    | some (.regular _) => .ok (t.modifyContent n fun _ => content)
    | some (.device .nothing) => .ok t
    | some (.directory ..) => .error .isDirectory
    | _ => .error .denied
  | none =>
    if Path.endsInSlash path then .error .isDirectory
    else
      let (t, _) ← t.insert place (.regular content) plainMode
      .ok t

/-- Gives the file that a path leads to a new text. -/
def write? (t : FileTree) (here : Nat) (path text : String) : Option FileTree :=
  (t.writeBytes here path text.toUTF8).toOption

/-- Takes a name that does not stand for a directory out of its directory. -/
def unlink (t : FileTree) (place : Place) : Except Fault FileTree :=
  match place.node? with
  | none => .error .missing
  | some n =>
    if t.isDirectoryAt n then .error .isDirectory
    else .ok (t.dropEntry place.directory place.name)

/-- Takes a directory with nothing in it out of the one that it is in. -/
def removeDirectory (t : FileTree) (place : Place) : Except Fault FileTree :=
  match place.node? with
  | none => .error .missing
  | some n =>
    match t.entries? n with
    | none => .error .notDirectory
    | some entries =>
      if place.name.isEmpty then .error (if n == root then .busy else .invalid)
      else if !entries.isEmpty then .error .notEmpty
      else .ok (t.dropEntry place.directory place.name)

/-- Whether one directory is another one or below it. -/
def isWithin (t : FileTree) (fuel inner outer : Nat) : Bool :=
  match fuel with
  | 0 => false
  | fuel + 1 =>
    inner == outer || (inner != root && t.isWithin fuel (t.parentOf inner) outer)

/-- Lets another name stand for the node at a place, in place of the first name.  What the other
name stood for goes, unless it is a directory with something in it. -/
def rename (t : FileTree) (old new : Place) : Except Fault FileTree :=
  match old.node? with
  | none => .error .missing
  | some n =>
    if old.name.isEmpty || new.name.isEmpty then .error .busy
    else if new.node? == some n then .ok t
    else if !t.isAttached new.directory then .error .missing
    else if t.isDirectoryAt n && t.isWithin (t.nodes.size + 1) new.directory n then
      .error .invalid
    else
      let replaced : Except Fault Unit :=
        match new.node? with
        | none => .ok ()
        | some m =>
          match t.isDirectoryAt n, t.entries? m with
          | true, some entries => if entries.isEmpty then .ok () else .error .notEmpty
          | true, none => .error .notDirectory
          | false, some _ => .error .isDirectory
          | false, none => .ok ()
      match replaced with
      | .error fault => .error fault
      | .ok () =>
        let t := (t.dropEntry old.directory old.name).setEntry new.directory new.name n
        .ok { t with nodes := t.nodes.modify n fun node =>
          match node.kind with
          | .directory _ entries => { node with kind := .directory new.directory entries }
          | _ => node }

/-- Takes away the file that a path leads to. -/
def removeFile? (t : FileTree) (here : Nat) (path : String) : Option FileTree :=
  match t.locate here path false with
  | .ok place => (t.unlink place).toOption
  | .error _ => none

/-- Lets everybody run the file that a path leads to. -/
def allowRunning (t : FileTree) (here : Nat) (path : String) : FileTree :=
  match t.find here path true with
  | .ok n => t.setMode n 0o755
  | .error _ => t

end FileTree

end Flowscript
