import Flowscript.Programs.Shell.Expansion

/-!
# Redirections and builtins

How descriptors are redirected, and what builtins have in common.

* `expandRedirections` works out where redirections lead.
* `redirect` follows them and remembers what the descriptors were, and `restoreDescriptors` goes
  back to that.
* `Builtin` is a command that the shell follows itself, without starting a program.
* `print` adds to what it prints, and `flushOutput` writes that.
* `readOptions` takes options off its arguments, and `numberOf` reads a number.
-/

set_option autoImplicit false

namespace Flowscript.Shell

/-! ## Redirections -/

/-- A redirection of which it is known where it leads to. -/
inductive Target where
  | file (descriptor : Nat) (opening : Opening) (path : Octets)
  /-- To the file of another descriptor, or to none. -/
  | copy (descriptor : Nat) (source : Option Nat)
  | document (descriptor number : Nat)
  | text (descriptor : Nat) (content : Octets)
  /-- Nowhere, for a reason. -/
  | nowhere (complaint : Octets)

/-- The descriptor that a redirection is for. -/
def Target.descriptor : Target → Nat
  | .file descriptor _ _ => descriptor
  | .copy descriptor _ => descriptor
  | .document descriptor _ => descriptor
  | .text descriptor _ => descriptor
  | .nowhere _ => 0

/-- Descriptors with the private ones that keep their files, or nothing if they were closed. -/
abbrev SavedDescriptors := List (Nat × Option Nat)

/-- The path that a word stands for, or why it stands for none, in the wide dialect. -/
def widePath (m : Means) (word : Word) (make : Octets → Target) : Act Target := do
  match ← expandFields m word with
  | [path] => return make path
  | _ => return .nowhere (word.written ++ octets ": ambiguous redirect")

/-- Works out where a descriptor leads that another one is to lead to, in the wide dialect. -/
def shareTargets (m : Means) (descriptor : Option Nat) (isInput : Bool) (word : Word) :
    Act (List Target) := do
  let target := descriptor.getD (if isInput then 0 else 1)
  let ambiguous : List Target := [.nowhere (word.written ++ octets ": ambiguous redirect")]
  match ← expandFields m word with
  | [['-']] => return [.copy target none]
  | [text] =>
    match Octets.natural? text with
    | some source => return [.copy target (some source)]
    | none =>
      match text.getLast?, Octets.natural? text.dropLast with
      | some '-', some source => return [.copy target (some source), .copy source none]
      | _, _ =>
        if isInput || descriptor.any (· != 1) then return ambiguous
        return [.file 1 .output text, .copy 2 (some 1)]
  | _ => return ambiguous

/-- A redirection of another descriptor. -/
def Redirection.withDescriptor (descriptor : Nat) : Redirection → Redirection
  | .file _ opening path => .file descriptor opening path
  | .copy _ source => .copy descriptor source
  | .document _ number => .document descriptor number
  | .text _ word => .text descriptor word
  | .share _ isInput source => .share (some descriptor) isInput source
  | redirection => redirection

/-- The first descriptor from ten on that is free. -/
def freeDescriptor (k : Kernel) : Nat :=
  ((List.range 256).find? fun n => 10 ≤ n && (k.file? n).isNone).getD 255

/-- Works out where a redirection leads. -/
def expandRedirection (m : Means) : Redirection → Act (List Target)
  | .file descriptor opening path => do
    if (← get).isWide then return [← widePath m path (.file descriptor opening)]
    return [.file descriptor opening (← expandText m .atStart path)]
  | .copy descriptor source => do
    match ← expandFields m source with
    | [c] :: _ =>
      if c == '-' then return [.copy descriptor none]
      else if c.isDigit then return [.copy descriptor (some (Text.wideDigitValue c))]
      else fail (octets "Syntax error: Bad fd number")
    | _ => fail (octets "Syntax error: Bad fd number")
  | .document descriptor number => return [.document descriptor number]
  | .text descriptor word => do
    return [.text descriptor ((← expandText m .atStart word) ++ ['\n'])]
  | .together appends path => do
    let opening := if appends then Opening.appending else .output
    return [← widePath m path (.file 1 opening), .copy 2 (some 1)]
  | .share descriptor isInput source => shareTargets m descriptor isInput source
  | .named name redirection => do
    let closes := match redirection with
      | .share _ _ [.plain '-'] => true
      | _ => false
    if closes then
      return [.copy (((← get).get? name).bind Octets.natural? |>.getD 0) none]
    let descriptor ← look freeDescriptor
    assign name (numeral descriptor)
    match redirection.withDescriptor descriptor with
    | .file descriptor opening path => return [← widePath m path (.file descriptor opening)]
    | .share descriptor isInput source => shareTargets m descriptor isInput source
    | .text descriptor word =>
      return [.text descriptor ((← expandText m .atStart word) ++ ['\n'])]
    | _ => return []

/-- Works out where redirections lead. -/
def expandRedirections (m : Means) (redirections : List Redirection) : Act (List Target) := do
  return (← redirections.mapM (expandRedirection m)).flatten

/-- Why a file could not be opened, as it is said in a complaint. -/
def openingFault (creates : Bool) : Fault → String
  | .missing | .notDirectory => if creates then "Directory nonexistent" else "No such file"
  | fault => fault.message

/-- Opens the file of a redirection, and gives the place of the open file. -/
def openTarget (opening : Opening) (path : Octets) : Act Nat := do
  let name := Octets.toText path
  let opened (mode : OpenMode) : Act Nat := do
    match ← liftM (Run.openPath name mode) with
    | .ok i => return i
    | .error fault =>
      if (← get).isWide then failWith 1 (path ++ octets (": " ++ fault.message))
      fail (octets (if mode.creates then "cannot create " else "cannot open ") ++ path
        ++ octets (": " ++ openingFault mode.creates fault))
  match opening with
  | .input => opened .read
  | .both => opened .update
  | .appending => opened .append
  | .overwriting => opened .write
  | .output =>
    if (← get).has 'C' then
      match ← look (·.find name true) with
      | .error _ => opened .create
      | .ok n =>
        if (← look (·.tree.content? n)).isSome then
          if (← get).isWide then failWith 1 (path ++ octets ": cannot overwrite existing file")
          fail (octets "cannot create " ++ path ++ octets (": " ++ Fault.present.message))
        else opened { OpenMode.write with creates := false, truncates := false }
    else opened .write

/-- Opens a text as a file. -/
def openText (text : Octets) : Act Nat := kernel fun k =>
  let (reading, writing, k) := k.openPipe
  match k.openFiles[writing]? with
  | some { channel := .pipe n, .. } =>
    (reading, { k with pipes := k.pipes.modify n (·.put (Octets.toBytes text)) })
  | _ => (reading, k)

/-- Opens a text in the script as a file. -/
def openDocument (m : Means) (number : Nat) : Act Nat := do
  let word := ((← get).documents.lookup number).getD []
  openText (← expandDocument m word)

/-- Keeps the file of a descriptor under a private one. -/
def saveDescriptor (descriptor : Nat) : Act (Nat × Option Nat) := kernel fun k =>
  match k.file? descriptor with
  | some (i, _) =>
    let (kept, k) := k.addDescriptor Kernel.firstPrivate i
    ((descriptor, some kept), k.close descriptor)
  | none => ((descriptor, none), k)

/-- Follows a redirection.  Before a descriptor changes for the first time its file is kept, if
`saves` says so. -/
def redirectOne (m : Means) (saves : Bool) (saved : SavedDescriptors) (t : Target) :
    Act (Except Jump Unit × SavedDescriptors) := do
  let descriptor := t.descriptor
  let source : Except Jump (Option (Option Nat)) ← match t with
    | .file _ opening path => attempt do return some (some (← openTarget opening path))
    | .document _ number => attempt do return some (some (← openDocument m number))
    | .text _ content => attempt do return some (some (← openText content))
    | .nowhere complaint => attempt (failWith 1 complaint)
    | .copy _ none => pure (.ok (some none))
    | .copy _ (some source) =>
      if source == descriptor then pure (.ok none)
      else pure (.ok (some none))
  match source with
  | .error jump => return (.error jump, saved)
  | .ok none => return (.ok (), saved)
  | .ok (some file) =>
    let saved ← if saves && (saved.lookup descriptor).isNone then
        pure (saved ++ [← saveDescriptor descriptor])
      else pure saved
    match t, file with
    | .copy _ (some source), _ =>
      match ← look (·.file? source) with
      | some (i, _) =>
        kernel fun k => ((), k.setDescriptor descriptor i)
        return (.ok (), saved)
      | none =>
        let result ← attempt (fail (α := Unit)
          (octets (toString source ++ ": " ++ Fault.notOpen.message)))
        return (result, saved)
    | _, some i =>
      kernel fun k => ((), k.setDescriptor descriptor i)
      return (.ok (), saved)
    | _, none =>
      closeDescriptor descriptor
      return (.ok (), saved)

/-- Follows redirections up to one that cannot be followed. -/
def redirectAll (m : Means) (saves : Bool) (saved : SavedDescriptors) :
    List Target → Act (Except Jump Unit × SavedDescriptors)
  | [] => return (.ok (), saved)
  | t :: rest => do
    match ← redirectOne m saves saved t with
    | (.ok (), saved) => redirectAll m saves saved rest
    | failed => return failed

/-- Follows redirections of the whole process. -/
def redirect (m : Means) (targets : List Target) : Act Unit := do
  match (← redirectAll m false [] targets).1 with
  | .ok () => return ()
  | .error jump => throw jump

/-- Follows redirections for a while, and says with a status whether that was possible. -/
def redirectSafely (m : Means) (targets : List Target) : Act (Nat × SavedDescriptors) := do
  if targets.isEmpty then return (0, [])
  match ← redirectAll m true [] targets with
  | (.ok (), saved) => return (0, saved)
  | (.error .failed, saved) => return (if (← get).isWide then 1 else 2, saved)
  | (.error jump, _) => throw jump

/-- Lets descriptors be what they were. -/
def restoreDescriptors (saved : SavedDescriptors) : Act Unit := do
  if saved.isEmpty then return ()
  kernel fun k => ((), saved.foldl (fun k (descriptor, kept) =>
    match kept with
    | none => k.close descriptor
    | some kept =>
      match k.file? kept with
      | some (i, _) => (k.setDescriptor descriptor i).close kept
      | none => k) k)

/-- Forgets what descriptors were. -/
def forgetDescriptors (saved : SavedDescriptors) : Act Unit := do
  if saved.isEmpty then return ()
  kernel fun k => ((), saved.foldl (fun k (_, kept) =>
    match kept with
    | none => k
    | some kept => k.close kept) k)

/-! ## Commands of the shell itself -/

/-- A command of the shell itself.  A special one ends the shell if it goes wrong, and assignments
before it last.  One that assigns takes words that look like assignments as they are. -/
structure Builtin where
  name : String
  isSpecial : Bool
  assigns : Bool
  run : Means → Manner → List Octets → Act Nat

/-- Adds to what a command prints. -/
def print (o : Octets) : Act Unit :=
  modify fun s => { s with output := o.foldl (fun b c => b.push c.toNat.toUInt8) s.output }

/-- Adds a line to what a command prints. -/
def printLine (o : Octets) : Act Unit := print (o ++ ['\n'])

/-- Writes what a command has printed, and says why that was not possible if it was not. -/
def flushOutput : Act (Option Fault) := do
  let output := (← get).output
  if output.isEmpty then return none
  modify ({ · with output := .empty })
  match ← liftM (Run.write 1 output) with
  | .ok () => return none
  | .error fault => return some fault

/-- Gives up because a text is no number. -/
def failNumber {α : Type} (o : Octets) : Act α := fail (octets "Illegal number: " ++ o)

/-- The largest number that commands take. -/
def largestNumber : Int := 2147483647

/-- The number that an argument is. -/
def numberOf (o : Octets) : Act Nat := do
  match Int64s.ofOctets? (some 10) o with
  | some n => if n < 0 || largestNumber < n then failNumber o else return n.toNat
  | none => failNumber o

/-- Takes the options in a word, as far as they need no more words; the last one may. -/
def optionsIn (spec : String) (fuel : Nat) (word : Octets) (rest : List Octets) :
    Act (List (Char × Octets) × List Octets) :=
  match fuel, word with
  | 0, _ => return ([], rest)
  | _, [] => return ([], rest)
  | fuel + 1, c :: more => do
    match spec.toList.dropWhile (· != c) with
    | _ :: ':' :: _ =>
      if c == ':' then fail (octets "Illegal option -" ++ [c])
      match more, rest with
      | [], value :: rest => return ([(c, value)], rest)
      | [], [] => fail (octets "No arg for -" ++ [c] ++ octets " option")
      | _, _ => return ([(c, more)], rest)
    | _ :: _ =>
      let (options, rest) ← optionsIn spec fuel more rest
      return ((c, []) :: options, rest)
    | [] => fail (octets "Illegal option -" ++ [c])

/-- Takes options off arguments.  A colon in `spec` says that the option before it has a value. -/
def optionsOf (spec : String) (fuel : Nat) (arguments : List Octets) :
    Act (List (Char × Octets) × List Octets) :=
  match fuel, arguments with
  | 0, _ => return ([], arguments)
  | fuel + 1, ('-' :: c :: more) :: rest => do
    if c == '-' && more.isEmpty then return ([], rest)
    let (options, rest) ← optionsIn spec (more.length + 2) (c :: more) rest
    let (further, rest) ← optionsOf spec fuel rest
    return (options ++ further, rest)
  | _, _ => return ([], arguments)

/-- Takes options off arguments. -/
def readOptions (spec : String) (arguments : List Octets) :
    Act (List (Char × Octets) × List Octets) :=
  optionsOf spec (arguments.length + 1) arguments

/-- A text between single quotes, such that a shell reads it as it is. -/
def quoted (o : Octets) : Octets :=
  let rec go (fuel : Nat) (o : Octets) : Octets :=
    match fuel with
    | 0 => []
    | fuel + 1 =>
      let plain := o.takeWhile (· != '\'')
      let rest := o.drop plain.length
      let quotes := rest.takeWhile (· == '\'')
      let rest := rest.drop quotes.length
      let text := '\'' :: plain ++ ['\'']
      let marks := if quotes.isEmpty then [] else '"' :: quotes ++ ['"']
      text ++ marks ++ if rest.isEmpty then [] else go fuel rest
  go (o.length + 1) o

end Flowscript.Shell
