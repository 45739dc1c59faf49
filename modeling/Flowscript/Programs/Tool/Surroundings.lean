import Flowscript.Programs.Tool.Basic

/-!
# Programs that tell where one is

* `constantTool` and `namingTool` print what is always the same.
* `identityTool` and `systemTool` print who runs programs, and on what.
* `variablesTool` prints the variables that a program gets.
* `whereTool` prints where programs are.
-/

set_option autoImplicit false

namespace Flowscript.Tool

/-- Prints a line that is always the same. -/
def constantTool (wrong : Nat) (line : String) : Procedure := fun _ arguments => do
  let (_, operands) ← options [] wrong arguments
  refuseExtra wrong 0 operands
  printLine (octets line)
  return 0

/-- Prints how many programs can run at a time. -/
def countOfUnitsTool : Procedure := fun _ arguments => do
  let (_, operands) ← options
    [.flag OptionSpec.noLetter "all", .setting OptionSpec.noLetter "ignore"] 1 arguments
  refuseExtra 1 0 operands
  printLine ['4']
  return 0

/-- Prints the name of the host. -/
def hostNameTool : Procedure := fun _ arguments => do
  let (_, operands) ← options
    [.flag 's' "short", .flag 'f' "fqdn", .flag 'a' "alias", .flag 'i' "ip-address"] 255 arguments
  if !operands.isEmpty then giveUp 1 (octets "you must be root to change the host name")
  printLine (octets "localhost")
  return 0

/-- Says that there is no terminal. -/
def terminalTool : Procedure := fun _ arguments => do
  let (given, operands) ← options
    [.flag 's' "silent", .flag OptionSpec.noLetter "quiet"] 2 arguments
  refuseExtra 2 0 operands
  if !has given "silent" && !has given "quiet" then printLine (octets "not a tty")
  return 1

/-- Says that nobody has logged in. -/
def loginTool : Procedure := fun _ arguments => do
  let (_, operands) ← options [] 1 arguments
  refuseExtra 1 0 operands
  giveUp 1 (octets "no login name")

/-- Whether a name is that of the only user. -/
def isUser (name : Octets) : Bool := name == octets "root" || name == ['0']

/-- Complains about names of users that are not known. -/
def complainOfStrangers (names : List Octets) : ToolRun Unit := do
  for name in names do
    if !isUser name then
      complain (quotePath name ++ octets ": no such user")
      noteFailure 1

/-- Prints the groups of users. -/
def groupsTool : Procedure := fun _ arguments => do
  let (_, names) ← options [] 1 arguments
  if names.isEmpty then printLine (octets "root")
  for name in names do
    complainOfStrangers [name]
    if isUser name then printLine (name ++ octets " : root")
  notedStatus

/-- Prints who one is. -/
def identityTool : Procedure := fun _ arguments => do
  let (given, names) ← options [.flag 'u' "user", .flag 'g' "group", .flag 'n' "name",
    .flag 'G' "groups", .flag 'r' "real", .flag 'z' "zero", .flag 'a' "ignored"] 1 arguments
  let picks := ["user", "group", "groups"].filter (has given)
  if 1 < picks.length then giveUp 1 (octets "cannot print \"only\" of more than one choice")
  if picks.isEmpty && (has given "name" || has given "real") then
    giveUp 1 (octets "cannot print only names or real IDs in default format")
  if picks.isEmpty && has given "zero" then
    giveUp 1 (octets "option --zero not permitted in default format")
  for name in if names.isEmpty then [octets "root"] else names do
    complainOfStrangers [name]
    if isUser name then
      print (octets (if picks.isEmpty then "uid=0(root) gid=0(root) groups=0(root)"
        else if has given "name" then "root" else "0")
        ++ [if has given "zero" then '\x00' else '\n'])
  notedStatus

/-- Prints the kind of system. -/
def systemTool : Procedure := fun _ arguments => do
  let (given, operands) ← options [.flag 's' "kernel-name", .flag 'm' "machine",
    .flag 'n' "nodename", .flag 'r' "kernel-release", .flag 'v' "kernel-version",
    .flag 'p' "processor", .flag 'i' "hardware-platform", .flag 'o' "operating-system",
    .flag 'a' "all"] 1 arguments
  refuseExtra 1 0 operands
  let parts := [("kernel-name", "Linux"), ("nodename", "localhost"), ("machine", "x86_64"),
    ("processor", "unknown"), ("hardware-platform", "unknown"), ("operating-system", "GNU/Linux")]
  let isWanted (p : String × String) : Bool :=
    has given p.1 || (has given "all" && p.2 != "unknown")
  let wanted := parts.filter isWanted
  printLine (octets (if given.isEmpty then "Linux"
    else String.intercalate " " (wanted.map (·.2))))
  return 0

/-- Prints variables. -/
def variablesTool : Procedure := fun _ arguments => do
  let (given, names) ← OptionSpec.parse [.flag '0' "null"] 2 true (arguments.length + 1) arguments
  let mark := if has given "null" then '\x00' else '\n'
  if names.isEmpty then
    for v in (← get).environment do print (v ++ [mark])
    return 0
  for name in names do
    match ← binding? (Octets.toText name) with
    | some value => print (value ++ [mark])
    | none => noteFailure 1
  notedStatus

/-! ## Where programs are -/

/-- The options of `whereTool`, letters all of them, and what follows. -/
def lettersBefore : List Octets → Octets × List Octets
  | ['-', '-'] :: rest => ([], rest)
  | ('-' :: c :: more) :: rest =>
    let (letters, operands) := lettersBefore rest
    (c :: more ++ letters, operands)
  | words => ([], words)

/-- Prints where programs are. -/
def whereTool : Procedure := fun _ arguments => do
  let (letters, names) := lettersBefore arguments
  match letters.find? fun c => c != 'a' && c != 's' with
  | some c =>
    writeErrors (octets "Illegal option -" ++ [c, '\n'])
    printLine (octets "Usage: /usr/bin/which [-as] args")
    return 2
  | none => pure ()
  let directories := (← binding? "PATH").getD Run.standardPath
  let isProgram (path : String) : ToolRun Bool := look fun k =>
    match k.find path true with
    | .ok n =>
      match k.tree.kind? n with
      | some (.program _) => true
      | some (.regular _) => k.tree.modeOf n &&& FileTree.runBits != 0
      | _ => false
    | .error _ => false
  if names.isEmpty then noteFailure 1
  for name in names do
    let places := if name.contains '/' then [Octets.toText name]
      else (Text.splitAt (· == ':') directories).map fun d =>
        Octets.toText ((if d.isEmpty then ['.'] else d) ++ '/' :: name)
    let found ← places.filterM isProgram
    if found.isEmpty then noteFailure 1
    if !letters.contains 's' then
      for path in if letters.contains 'a' then found else found.take 1 do
        printLine (Octets.ofText path)
  notedStatus

end Flowscript.Tool
