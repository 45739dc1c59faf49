import Flowscript.Programs.Shell.Evaluation

/-!
# The shell as a program

* `Memory.initial` is what a shell knows when it starts.
* `WideCall.read` reads the arguments of a shell for the wide dialect.
* `shellProgram` runs a shell with its arguments: the script in a file, in an argument, or in what
  there is to read.
-/

set_option autoImplicit false

namespace Flowscript.Shell

/-- What variables are to begin with. -/
def initialVariables : List Variable :=
  [("IFS", " \t\n"), ("PATH", "/usr/local/sbin:/usr/local/bin:/usr/sbin:/usr/bin:/sbin:/bin"),
    ("PS1", "# "), ("PS2", "> "), ("PS4", "+ "), ("OPTIND", "1")].map fun v =>
      .single v.1 (some (octets v.2)) false false

/-- A variable with a value. -/
def valued (name value : String) : Variable := .single name (some (octets value)) false false

/-- A variable that is for numbers and stays as it is. -/
def fixedNumber (name : String) (n : Nat) : Variable :=
  { Variable.single name (some (numeral n)) false true with marks := ['i'] }

/-- The version of the wide dialect. -/
def wideVersion : String := "5.2.15(1)-release"

/-- The kind of machine. -/
def machineType : String := "x86_64-pc-linux-gnu"

/-- What variables of the wide dialect are to begin with. -/
def wideVariables (p : Process) : List Variable :=
  let parts := ["5", "2", "15", "1", "release", machineType].map octets
  let version : Elements := .listed ((List.range parts.length).zip parts)
  [valued "BASH" "/usr/bin/bash", valued "BASHOPTS" "", valued "BASHPID" "",
    { Variable.single "BASH_VERSINFO" none false true with elements := some version },
    valued "BASH_VERSION" wideVersion, valued "EPOCHREALTIME" "", valued "EPOCHSECONDS" "",
    fixedNumber "EUID" 0, valued "HOSTNAME" "localhost", valued "HOSTTYPE" "x86_64",
    valued "IFS" " \t\n", valued "MACHTYPE" machineType, valued "OPTERR" "1",
    { valued "OPTIND" "1" with marks := ['i'] }, valued "OSTYPE" "linux-gnu",
    .single "OLDPWD" none true false,
    valued "PATH" "/usr/local/sbin:/usr/local/bin:/usr/sbin:/usr/bin:/sbin:/bin",
    fixedNumber "PPID" p.parent, valued "PS4" "+ ", { valued "RANDOM" "0" with marks := ['i'] },
    valued "SECONDS" "0", valued "SHELL" "/bin/bash", valued "SHELLOPTS" "",
    valued "TERM" "dumb", fixedNumber "UID" 0]

/-- Takes over a variable that the shell got. -/
def Memory.takeVariable (s : Memory) (text : Octets) : Memory :=
  match splitAssignment text with
  | (o, some value) =>
    let name := String.ofList o
    let isKept := name == "IFS" || name == "OPTIND" || (s.binding? name).any (·.isReadOnly)
    if Word.isName o && !isKept then s.put (.single name (some value) true false) else s
  | _ => s

/-- What a shell knows when it starts, at some time. -/
def Memory.initial (dialect : Dialect) (i : Invocation) (p : Process) (now : Nat) : Memory :=
  let bare : Memory :=
    { dialect
      name := i.arguments.headD []
      commandName := none
      parameters := []
      bindings := match dialect with
        | .common => initialVariables
        | .wide => wideVariables p
      functions := []
      options := match dialect with
        | .common => []
        | .wide => ['h', 'B']
      status := 0
      outputStatus := 0
      savedStatus := none
      number := p.number
      lastStarted := none
      jobs := []
      traps := []
      ignoredAtStart := p.ignored
      errorLine := match dialect with
        | .common => 0
        | .wide => 1
      functionDepth := 0
      loopDepth := 0
      locals := []
      documents := []
      nextDocument := 0
      aliases := []
      found := []
      foundIn := []
      directory := none
      output := .empty
      nextOption := 1
      optionPlace := none
      isTracing := false
      features := match dialect with
        | .common => []
        | .wide => "interactive-comments" :: (featureNames.filter (·.2)).map (·.1)
      statuses := [0]
      calls := []
      copies := 0
      place := ""
      directories := []
      seed := p.number
      startedAt := now
      lastArgument := i.arguments.headD []
      channels := []
      lists := []
      depth := 0 }
  let s := i.environment.foldl Memory.takeVariable bare
  match dialect with
  | .common => s.put (.single "PPID" (some (numeral p.parent)) false false)
  | .wide =>
    let level := ((s.get? "SHLVL").bind Octets.natural?).getD 0 + 1
    (s.put (.single "SHLVL" (some (numeral level)) true false)).drop "_"

/-- Notes the working directory, by the name that the shell got if that is right. -/
def findDirectory : Act Unit := do
  let given := (((← get).get? "PWD").map Octets.toText).filter Path.isAbsolute
  let isRight ← look fun k =>
    given.any fun path => (k.find path true).toOption == some k.self.directory
  noteDirectory (if isRight then given else none) false

/-- How a shell was called: whether its script is an argument or what there is to read, and the
arguments left. -/
structure CallOptions where
  isArgument : Bool
  isRead : Bool
  rest : List Octets

/-- Reads the options that a shell was called with. -/
def readCallOptions (fuel : Nat) (call : CallOptions) : Act CallOptions :=
  match fuel with
  | 0 => return call
  | fuel + 1 => do
    let letters (value : Bool) (text : Octets) (rest : List Octets) : Act CallOptions := do
      let isArgument := call.isArgument || text.contains 'c'
      let isRead := call.isRead || text.contains 's'
      let rest ← setLetters value (text.filter fun c => c != 'c' && c != 'l') rest
      readCallOptions fuel ⟨isArgument, isRead, rest⟩
    match call.rest with
    | ['-'] :: rest => return { call with rest }
    | ['-', '-'] :: rest => return { call with rest }
    | ('-' :: text) :: rest => letters true text rest
    | ('+' :: text) :: rest => letters false text rest
    | _ => return call

/-- Names the shell and sets its parameters. -/
def nameShell : List Octets → Act Unit
  | [] => return ()
  | name :: parameters => modify ({ · with name := name, parameters := parameters })

/-- Runs a shell as it was called. -/
def runCall (m : Means) (arguments : List Octets) : Act Unit := do
  findDirectory
  let call ← readCallOptions (arguments.length + 1) ⟨false, false, arguments⟩
  if call.isArgument then
    match call.rest with
    | [] => fail (octets "-c requires an argument")
    | script :: rest =>
      nameShell rest
      let _ ← m.perform (.text script .last)
  else
    match if call.isRead then [] else call.rest with
    | [] =>
      modify ({ · with parameters := call.rest })
      match ← liftM (Run.readAll 0) with
      | .ok bytes => let _ ← m.perform (.script (.ofOctets .common (Octets.ofBytes bytes) 1))
      | .error _ => return ()
    | path :: _ =>
      let script ← readScript path
      nameShell call.rest
      let _ ← m.perform (.script (.ofOctets .common script 1))

/-! ## The wide dialect -/

/-- How a shell for the wide dialect was called: its options with what stands before each, the
features that are told on or off, and the arguments left. -/
structure WideCall where
  isArgument : Bool
  isRead : Bool
  features : List (Octets × Bool)
  rest : List Octets

namespace WideCall

/-- The long options, and whether each needs a value. -/
def longOptions : List (String × Bool) :=
  [("debug", false), ("debugger", false), ("dump-po-strings", false), ("dump-strings", false),
    ("help", false), ("init-file", true), ("login", false), ("noediting", false),
    ("noprofile", false), ("norc", false), ("posix", false), ("pretty-print", false),
    ("rcfile", true), ("restricted", false), ("verbose", false), ("version", false)]

/-- How the shell is used. -/
def usage : String :=
  "Usage:\tbash [GNU long option] [option] ...\n"
    ++ "\tbash [GNU long option] [option] script-file ...\nGNU long options:\n"
    ++ String.join (longOptions.map fun o => "\t--" ++ o.1 ++ "\n")
    ++ "Shell options:\n\t-ilrsD or -c command or -O shopt_option\t\t(invocation only)\n"
    ++ "\t-abefhkmnptuvxBCEHPT or -o option\n"

/-- The text about the version. -/
def versionText : String :=
  "GNU bash, version " ++ wideVersion ++ " (" ++ machineType ++ ")\n"
    ++ "Copyright (C) 2022 Free Software Foundation, Inc.\n"
    ++ "License GPLv3+: GNU GPL version 3 or later <http://gnu.org/licenses/gpl.html>\n\n"
    ++ "This is free software; you are free to change and redistribute it.\n"
    ++ "There is NO WARRANTY, to the extent permitted by law.\n"

/-- The text that helps. -/
def helpText : String :=
  "GNU bash, version " ++ wideVersion ++ "-(" ++ machineType ++ ")\n" ++ usage
    ++ "Type \x60bash -c \"help set\"' for more information about shell options.\n"
    ++ "Type \x60bash -c help' for more information about shell builtin commands.\n"
    ++ "Use the \x60bashbug' command to report bugs.\n\n"
    ++ "bash home page: <http://www.gnu.org/software/bash>\n"
    ++ "General help using GNU software: <http://www.gnu.org/gethelp/>\n"

/-- Ends the shell with a status. -/
def leaveWith {α : Type} (status : Nat) : Act α := do
  modify ({ · with status := status })
  throw .ended

/-- Gives up on how the shell was called. -/
def refuse {α : Type} (status : Nat) (complaint : Octets) (tellsUsage : Bool) : Act α := do
  writeErrors ((← get).name ++ octets ": " ++ complaint ++ ['\n'])
  if tellsUsage then writeErrors (octets usage)
  leaveWith status

/-- Takes the long options off the start of arguments. -/
def readLong (fuel : Nat) (arguments : List Octets) : Act (List Octets) :=
  match fuel, arguments with
  | 0, _ | _, [] => return arguments
  | fuel + 1, a :: rest => do
    let isDouble := Octets.starts ['-', '-'] a
    if a == ['-', '-'] || a.head? != some '-' then return arguments
    let name := Octets.toText (a.drop (if isDouble then 2 else 1))
    match longOptions.lookup name with
    | none =>
      if isDouble then refuse 2 (a ++ octets ": invalid option") true
      return arguments
    | some needsValue =>
      if needsValue && rest.isEmpty then
        refuse 2 (octets (name ++ ": option requires an argument")) false
      match name with
      | "version" =>
        print (octets versionText)
        let _ ← flushOutput
        leaveWith 0
      | "help" =>
        print (octets helpText)
        let _ ← flushOutput
        leaveWith 0
      | "verbose" => modify (·.setOption 'v' true)
      | "posix" => modify (·.setFeature "posix" true)
      | "login" => modify (·.setFeature "login_shell" true)
      | _ => pure ()
      readLong fuel (if needsValue then rest.drop 1 else rest)

/-- Reads the options in a word; the values of some are the next words. -/
def readLetters (sign : Char) (call : WideCall) : Octets → Act WideCall
  | [] => return call
  | c :: more => do
    let isOn := sign == '-'
    match c with
    | 'c' =>
      modify (·.setOption 'c' true)
      readLetters sign { call with isArgument := true } more
    | 's' =>
      modify (·.setOption 's' true)
      readLetters sign { call with isRead := true } more
    | 'l' =>
      modify (·.setFeature "login_shell" true)
      readLetters sign call more
    | 'i' =>
      modify fun s => (s.setOption 'i' true).setFeature "expand_aliases" true
      readLetters sign call more
    | 'r' | 'D' => readLetters sign call more
    | 'o' =>
      match call.rest with
      | [] => return call
      | name :: rest =>
        match setOptionNamed? (← get) name isOn with
        | some s => set s
        | none =>
          refuse 2 ((← get).name ++ octets ": " ++ name ++ octets ": invalid option name") false
        readLetters sign { call with rest } more
    | 'O' =>
      match call.rest with
      | [] => return call
      | name :: rest =>
        readLetters sign { call with rest, features := call.features ++ [(name, isOn)] } more
    | _ =>
      if !(wideOptionNames.any (·.1 == c)) then
        refuse 2 (sign :: c :: octets ": invalid option") true
      modify (·.setOption c isOn)
      readLetters sign call more

/-- Reads the short options at the start of arguments. -/
def readShort (fuel : Nat) (call : WideCall) : Act WideCall :=
  match fuel with
  | 0 => return call
  | fuel + 1 => do
    match call.rest with
    | ['-'] :: rest | ['-', '-'] :: rest => return { call with rest }
    | ('-' :: letters) :: rest =>
      readShort fuel (← readLetters '-' { call with rest } letters)
    | ('+' :: letters) :: rest =>
      readShort fuel (← readLetters '+' { call with rest } letters)
    | _ => return call

/-- Reads the arguments of a shell. -/
def read (arguments : List Octets) : Act WideCall := do
  let rest ← readLong (arguments.length + 1) arguments
  let call ← readShort (arguments.length + 1) ⟨false, false, [], rest⟩
  for (name, isOn) in call.features do
    if !(featureNames.any fun f => octets f.1 == name) then
      refuse 2 (name ++ octets ": invalid shell option name") false
    modify (·.setFeature (Octets.toText name) isOn)
  return call

end WideCall

/-- The path of the script that a shell for the wide dialect is called with. -/
def mainScriptPath (name : Octets) : Act Octets := do
  if ← look fun k => (k.find (Octets.toText name) true).toOption.isSome then return name
  wideScriptPath name

/-- Runs a shell for the wide dialect as it was called. -/
def runWideCall (m : Means) (arguments : List Octets) : Act Unit := do
  findDirectory
  let call ← WideCall.read arguments
  if call.isArgument then
    match call.rest with
    | [] => WideCall.refuse 2 (octets "-c: option requires an argument") false
    | script :: rest =>
      nameShell rest
      modify fun s => { s.put (valued "BASH_EXECUTION_STRING" (Octets.toText script)) with
        place := "-c" }
      let _ ← m.perform (.text script .last)
  else
    match if call.isRead then [] else call.rest with
    | [] =>
      modify fun s => { s.setOption 's' true with parameters := call.rest }
      match ← liftM (Run.readAll 0) with
      | .ok bytes => let _ ← m.perform (.script (.ofOctets .wide (Octets.ofBytes bytes) 1))
      | .error _ => return ()
    | given :: _ =>
      let path ← mainScriptPath given
      if ← look fun k => k.tree.isDirectory k.self.directory (Octets.toText path) then
        modify ({ · with name := path })
        WideCall.refuse 126 (path ++ octets ": Is a directory") false
      match ← liftM (Run.readPath (Octets.toText path)) with
      | .error fault =>
        WideCall.refuse (if fault == .missing then 127 else 126)
          (given ++ octets (": " ++ fault.message)) false
      | .ok bytes =>
        nameShell call.rest
        modify ({ · with calls := [⟨"main", path, 0⟩] })
        let _ ← m.perform (.script (.ofOctets .wide (Octets.ofBytes bytes) 1))

/-- More levels than evaluation has. -/
def manyLevels : Nat := 1000000000

end Shell

/-- Runs a shell, and gives its status. -/
def shellProgram (start : Invocation → Run Nat) (i : Invocation) : Run Nat := do
  let p ← Run.self
  let now ← Run.look (·.now)
  let m : Shell.Means := ⟨Shell.perform start Shell.manyLevels, start⟩
  let dialect := if i.program == "bash" then Shell.Dialect.wide else .common
  let run := match dialect with
    | .common => Shell.runCall
    | .wide => Shell.runWideCall
  Shell.process (Shell.Memory.initial dialect i p now)
    (Shell.runToEnd m (run m (i.arguments.drop 1)))

end Flowscript
