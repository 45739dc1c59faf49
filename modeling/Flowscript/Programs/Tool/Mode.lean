import Flowscript.Programs.Permission
import Flowscript.Programs.Tool.Names

/-!
# Modes of files

Tools that make files with modes or change them.

* `modeTool` changes permissions.
* `ownerTool` changes owners, of which there is one.
* `makePipe` makes a pipe that can be opened by its name.
* `pipeTool` and `nodeTool` are the programs that do that.
-/

set_option autoImplicit false

namespace Flowscript.Tool

/-! ## Changing permissions and owners -/

/-- Changes permissions, and those of all below if that is wanted. -/
def changeMode (given : List GivenOption) (spec : ModeSpec) (fuel : Nat) (path : Octets) :
    ToolRun Unit :=
  match fuel with
  | 0 => return ()
  | fuel + 1 => do
    match ← find path true with
    | .error fault =>
      if !has given "silent" then complainOf "cannot access" path fault
      noteFailure 1
    | .ok n =>
      kernel fun k =>
        let mode := spec k.self.mask (k.tree.isDirectoryAt n) (k.tree.modeOf n)
        ((), k.modifyTree (·.setMode n mode))
      if has given "recursive" && (← look (·.tree.isDirectoryAt n)) then
        for name in ← namesIn path do
          let inner := inDirectory path name
          match ← find inner false with
          | .ok m =>
            match ← kindOf m with
            | some (.link _) => pure ()
            | _ => changeMode given spec fuel inner
          | .error _ => pure ()

/-- Whether an argument takes permissions away and is no option. -/
def isModeWord (o : Octets) : Bool :=
  match o with
  | '-' :: c :: _ => "rwxXstugo".toList.contains c
  | _ => false

/-- Changes permissions. -/
def modeTool : Procedure := fun _ arguments => do
  let modeWord := (arguments.takeWhile (· != ['-', '-'])).find? isModeWord
  let rest := match modeWord with
    | some word => arguments.erase word
    | none => arguments
  let (given, operands) ← options
    [.flag 'R' "recursive", .flag 'v' "verbose", .flag 'c' "changes", .flag 'f' "silent",
      .flag OptionSpec.noLetter "quiet", .setting OptionSpec.noLetter "reference"] 1 rest
  let operands := modeWord.toList ++ operands
  match operands with
  | [] => giveUpUsage 1 (octets "missing operand")
  | [word] =>
    giveUpUsage 1 (octets "missing operand after " ++ quote word)
  | word :: paths =>
    match modeSpec? word with
    | none => giveUpUsage 1 (octets "invalid mode: " ++ quote word)
    | some spec =>
      for path in paths do changeMode given spec 1000 path
      notedStatus

/-- Whether a text names the only owner, or no owner. -/
def isOwner (o : Octets) : Bool := o.isEmpty || o == octets "root" || o.all Char.isDigit

/-- Says that files have the only owner that there is; `isGroup` says whether it is a group. -/
def ownerTool (isGroup : Bool) : Procedure := fun _ arguments => do
  let (given, operands) ← options
    [.flag 'R' "recursive", .flag 'v' "verbose", .flag 'c' "changes", .flag 'f' "silent",
      .flag 'h' "no-dereference", .flag 'H' "enter", .flag 'L' "follow", .flag 'P' "physical"]
    1 arguments
  match operands with
  | [] => giveUpUsage 1 (octets "missing operand")
  | [word] => giveUpUsage 1 (octets "missing operand after " ++ quote word)
  | word :: paths =>
    let user := word.takeWhile fun c => c != ':' && c != '.'
    if isGroup then
      if !isOwner word then giveUp 1 (octets "invalid group: " ++ quote word)
    else
      if !isOwner user then giveUp 1 (octets "invalid user: " ++ quote word)
      if !isOwner (word.drop (user.length + 1)) then
        giveUp 1 (octets "invalid group: " ++ quote word)
    for path in paths do
      match ← find path true with
      | .ok _ => pure ()
      | .error fault =>
        if !has given "silent" then complainOf "cannot access" path fault
        noteFailure 1
    notedStatus

/-! ## Pipes with names -/

/-- Makes a pipe with a name. -/
def makePipe (mode : Nat) (path : Octets) : ToolRun (Except Fault Unit) := do
  let pipe ← kernel (·.addPipe false)
  changeAt path false fun t place => do
    let (t, _) ← t.insert place (.pipe pipe) mode
    .ok t

/-- The permissions of new pipes. -/
def pipeMode (given : List GivenOption) : ToolRun Nat := do
  let mask ← look (·.self.mask)
  match valueOf? given "mode" with
  | none => return 0o666 &&& (0o777 ^^^ mask)
  | some word =>
    match modeSpec? word with
    | none => giveUp 1 (octets "invalid mode")
    | some spec =>
      let mode := spec mask false 0o666
      if 0o777 < mode then giveUp 1 (octets "mode must specify only file permission bits")
      return mode

/-- Makes pipes with names. -/
def pipeTool : Procedure := fun _ arguments => do
  let (given, paths) ← options
    [.setting 'm' "mode", .flag 'Z' "context"] 1 arguments
  needOperand 1 paths
  let mode ← pipeMode given
  for path in paths do
    match ← makePipe mode path with
    | .ok () => pure ()
    | .error fault => complainOf "cannot create fifo" path fault
  notedStatus

/-- Makes a special file; of those there are only pipes with names. -/
def nodeTool : Procedure := fun _ arguments => do
  let (given, operands) ← options [.setting 'm' "mode", .flag 'Z' "context"] 1 arguments
  let mode ← pipeMode given
  let wanted := match operands with
    | [] | _ :: ('p' :: _) :: _ => 2
    | _ => 4
  if operands.length < wanted then
    if operands.isEmpty then complain (octets "missing operand")
    else complain (octets "missing operand after " ++ quote (operands.getLastD []))
    if wanted == 4 && operands.length == 2 then
      writeErrors (octets "Special files require major and minor device numbers.\n")
    suggestHelp 1
  if wanted < operands.length then
    complain (octets "extra operand " ++ quote ((operands[wanted]?).getD []))
    if wanted == 2 && operands.length == 4 then
      writeErrors (octets "Fifos do not have major and minor device numbers.\n")
    suggestHelp 1
  let path := operands.headD []
  match operands.drop 1 with
  | ('p' :: _) :: _ =>
    match ← makePipe mode path with
    | .ok () => return 0
    | .error fault => giveUp 1 (quoteName path ++ octets (": " ++ fault.message))
  | [word, major, minor] =>
    if !(word.head?.any "bcu".toList.contains) then
      giveUpUsage 1 (octets "invalid device type " ++ quote word)
    if (Octets.natural? major).isNone then
      giveUp 1 (octets "invalid major device number " ++ quote major)
    if (Octets.natural? minor).isNone then
      giveUp 1 (octets "invalid minor device number " ++ quote minor)
    giveUp 1 (quoteName path ++ octets ": Operation not permitted")
  | _ => return 1

end Flowscript.Tool
