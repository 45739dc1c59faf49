import Flowscript.Programs.Shell.Builtin.Variables

/-!
# Commands for variables in the wide dialect

* `declareCommand` says what kind of variables there are, and so do the commands like it.
* `Builtin.wideUnset`, `Builtin.wideSet` and `Builtin.shopt` change variables and options.
* `wideOptions` takes options off the arguments of a command.

A list among the arguments stands there by its number, after a null character.
-/

set_option autoImplicit false

namespace Flowscript.Shell

/-! ## Options of commands -/

/-- How commands are used. -/
def usages : List (String × String) :=
  [(".", "filename [arguments]"), ("alias", "[-p] [name[=value] ... ]"),
    ("bg", "[job_spec ...]"), ("builtin", "[shell-builtin [arg ...]]"), ("caller", "[expr]"),
    ("cd", "[-L|[-P [-e]] [-@]] [dir]"), ("command", "[-pVv] command [arg ...]"),
    ("declare", "[-aAfFgiIlnrtux] [name[=value] ...] or declare -p [-aAfFilnrtux] [name ...]"),
    ("dirs", "[-clpv] [+N] [-N]"), ("disown", "[-h] [-ar] [jobspec ... | pid ...]"),
    ("enable", "[-a] [-dnps] [-f filename] [name ...]"), ("eval", "[arg ...]"),
    ("exec", "[-cl] [-a name] [command [argument ...]] [redirection ...]"), ("exit", "[n]"),
    ("export", "[-fn] [name[=value] ...] or export -p"), ("fg", "[job_spec]"),
    ("getopts", "optstring name [arg ...]"), ("hash", "[-lr] [-p pathname] [-dt] [name ...]"),
    ("help", "[-dms] [pattern ...]"),
    ("history", "[-c] [-d offset] [n] or history -anrw [filename] or history -ps arg [arg...]"),
    ("jobs", "[-lnprs] [jobspec ...] or jobs -x command [args]"),
    ("kill", "[-s sigspec | -n signum | -sigspec] pid | jobspec ... or kill -l [sigspec]"),
    ("local", "[option] name[=value] ..."),
    ("mapfile", "[-d delim] [-n count] [-O origin] [-s count] [-t] [-u fd] [-C callback] "
      ++ "[-c quantum] [array]"),
    ("popd", "[-n] [+N | -N]"), ("printf", "[-v var] format [arguments]"),
    ("pushd", "[-n] [+N | -N | dir]"), ("pwd", "[-LP]"),
    ("read", "[-ers] [-a array] [-d delim] [-i text] [-n nchars] [-N nchars] [-p prompt] "
      ++ "[-t timeout] [-u fd] [name ...]"),
    ("readarray", "[-d delim] [-n count] [-O origin] [-s count] [-t] [-u fd] [-C callback] "
      ++ "[-c quantum] [array]"),
    ("readonly", "[-aAf] [name[=value] ...] or readonly -p"), ("return", "[n]"),
    ("set", "[-abefhkmnptuvxBCEHPT] [-o option-name] [--] [-] [arg ...]"), ("shift", "[n]"),
    ("shopt", "[-pqsu] [-o] [optname ...]"), ("source", "filename [arguments]"),
    ("suspend", "[-f]"), ("times", ""), ("trap", "[-lp] [[arg] signal_spec ...]"),
    ("type", "[-afptP] name [name ...]"),
    ("typeset", "[-aAfFgiIlnrtux] name[=value] ... or typeset -p [-aAfFilnrtux] [name ...]"),
    ("ulimit", "[-SHabcdefiklmnpqrstuvxPRT] [limit]"), ("umask", "[-p] [-S] [mode]"),
    ("unalias", "[-a] name [name ...]"), ("unset", "[-f] [-v] [-n] [name ...]"),
    ("wait", "[-fn] [-p var] [id ...]")]

/-- Tells how the present command is used, and gives up. -/
def failUsage {α : Type} : Act α := do
  let name := ((← get).commandName).getD []
  let text := (usages.lookup (Octets.toText name)).getD ""
  let space := if text.isEmpty then "" else " "
  writeErrors (name ++ octets (": usage: " ++ Octets.toText name ++ space ++ text ++ "\n"))
  modify ({ · with status := 2 })
  throw .failed

/-- Gives up on the options of the present command. -/
def refuseOption {α : Type} (complaint : Octets) : Act α := do
  complain complaint
  failUsage

/-- Takes the options in a word off, as far as they need no more words; the last one may. -/
def wideOptionsIn (spec : String) (sign : Char) (fuel : Nat) (word : Octets)
    (rest : List Octets) : Act (List (Char × Octets) × List Octets) :=
  match fuel, word with
  | 0, _ => return ([], rest)
  | _, [] => return ([], rest)
  | fuel + 1, c :: more => do
    match if c == ':' then [] else spec.toList.dropWhile (· != c) with
    | _ :: ':' :: _ =>
      match more, rest with
      | [], value :: rest => return ([(c, value)], rest)
      | [], [] => refuseOption (sign :: c :: octets ": option requires an argument")
      | _, _ => return ([(c, more)], rest)
    | _ :: _ =>
      let (options, rest) ← wideOptionsIn spec sign fuel more rest
      return ((c, []) :: options, rest)
    | [] => refuseOption (sign :: c :: octets ": invalid option")

/-- Takes options off arguments.  A colon in `spec` says that the option before it has a value. -/
def wideOptionsFrom (spec : String) (fuel : Nat) (arguments : List Octets) :
    Act (List (Char × Octets) × List Octets) :=
  match fuel, arguments with
  | 0, _ => return ([], arguments)
  | _, ['-', '-'] :: rest => return ([], rest)
  | fuel + 1, ('-' :: c :: more) :: rest => do
    let (options, rest) ← wideOptionsIn spec '-' (more.length + 2) (c :: more) rest
    let (further, rest) ← wideOptionsFrom spec fuel rest
    return (options ++ further, rest)
  | _, _ => return ([], arguments)

/-- Takes options off arguments. -/
def wideOptions (spec : String) (arguments : List Octets) :
    Act (List (Char × Octets) × List Octets) :=
  wideOptionsFrom spec (arguments.length + 1) arguments

/-- Whether an option is among those that were given. -/
def hasOption (options : List (Char × Octets)) (letter : Char) : Bool :=
  options.any (·.1 == letter)

/-- The complaint that a text names no variable. -/
def notIdentifier (o : Octets) : Octets := '\x60' :: o ++ octets "': not a valid identifier"

/-! ## Printing variables -/

/-- A variable as a command that declares it. -/
def declarationOf (v : Variable) : Octets :=
  let kind := v.kindLetters
  let lead := octets "declare -" ++ (if kind.isEmpty then ['-'] else kind) ++ ' ' :: octets v.name
  match v.elements, v.value with
  | some e, _ => if v.marks.contains 'h' then lead else lead ++ '=' :: e.listText
  | none, some value => lead ++ '=' :: Quoting.visible value
  | none, none => lead

/-- A variable as an assignment. -/
def assignmentOf? (v : Variable) : Option Octets :=
  match v.elements, v.value with
  | some e, _ => if v.marks.contains 'h' then none else some (octets v.name ++ '=' :: e.listText)
  | none, some value => some (octets v.name ++ '=' :: Quoting.assigned value)
  | none, none => none

/-- A variable that the shell knows by itself, as one that was set. -/
def Memory.knownVariable? (s : Memory) (name : String) : Option Variable :=
  match s.known? name with
  | some e => some { Variable.single name none false false with elements := some e }
  | none => (s.knownValue? name).map fun value => .single name (some value) false false

/-- The variables in the order of their names. -/
def Memory.sortedVariables (s : Memory) : List Variable :=
  s.bindings.mergeSort fun a b => Octets.le (octets a.name) (octets b.name)

/-! ## Declaring -/

/-- An argument that names a variable, with a place in it and a value if these are given. -/
structure Declared where
  name : Octets
  index : Option Octets
  isAdded : Bool
  value : Option Octets

/-- What an argument declares; nothing if it names no variable. -/
def declared? (o : Octets) : Option Declared :=
  let name := o.takeWhile Word.isInName
  let valued (index : Option Octets) (rest : Octets) : Option Declared :=
    match rest with
    | [] => some ⟨name, index, false, none⟩
    | '=' :: value => some ⟨name, index, false, some value⟩
    | '+' :: '=' :: value => some ⟨name, index, true, some value⟩
    | _ => none
  if !Word.isName name then none
  else
    match o.drop name.length with
    | '[' :: rest =>
      (Reckoning.bracketed? 0 rest).bind fun p => valued (some p.1) p.2
    | rest => valued none rest

/-- The list that a value stands for by its number. -/
def listOf? (s : Memory) (value : Octets) : Option (List ListItem) :=
  match value with
  | '\x00' :: digits => (Octets.natural? digits).bind fun n => s.lists[n]?
  | _ => none

/-- The variable of another kind, if it can become that. -/
def Variable.converted? (v : Variable) (isKeyed : Bool) : Except String Variable :=
  match v.elements, isKeyed with
  | none, _ =>
    let items := match v.value with
      | some value =>
        if isKeyed then Elements.keyed [(['0'], value)] else .listed [(0, value)]
      | none => if isKeyed then .keyed [] else .listed []
    let marks := if v.value.isNone then 'h' :: v.marks else v.marks
    .ok { v with value := none, elements := some items, marks }
  | some (.listed _), true => .error "cannot convert indexed to associative array"
  | some (.keyed _), false => .error "cannot convert associative to indexed array"
  | some _, _ => .ok v

/-- The variable with marks added and others taken away. -/
def Variable.marked (v : Variable) (added removed : List Char) : Variable :=
  let cased := added.filter fun c => c == 'l' || c == 'u' || c == 'c'
  let dropped (c : Char) : Bool :=
    removed.contains c || (!cased.isEmpty && (c == 'l' || c == 'u' || c == 'c'))
  let kept := v.marks.filter fun c => !dropped c
  let fresh := (added.filter fun c => "inltuc".toList.contains c && !kept.contains c)
  { v with
    marks := kept ++ fresh
    isExported := (v.isExported || added.contains 'x') && !removed.contains 'x'
    isReadOnly := v.isReadOnly || added.contains 'r' }

/-- Does something that may give up on a line of the script, and says whether it did so. -/
def succeeds (act : Act Unit) : Act Bool := do
  match ← attempt act with
  | .ok () => return true
  | .error .discarded => return false
  | .error .failed => return false
  | .error jump => throw jump

/-- Declares a variable with marks added and removed, and says whether that was possible. -/
def declareOne (isLocal : Bool) (added removed : List Char) (argument : Octets) : Act Bool := do
  let refuse (complaint : Octets) : Act Bool := do
    complain complaint
    return false
  match declared? argument with
  | none => refuse (notIdentifier argument)
  | some d =>
    let given := String.ofList d.name
    let s ← get
    let name := if added.contains 'n' || removed.contains 'n' || isLocal then given
      else s.meant given
    let before := s.variableNamed name
    if isLocal then
      if before.isReadOnly then return ← refuse (octets (name ++ ": readonly variable"))
      hideVariable name
    let v := (← get).variableNamed name
    if v.isReadOnly && (d.value.isSome || removed.contains 'r') then
      return ← refuse (octets (name ++ ": readonly variable"))
    let list? := d.value.bind (listOf? s)
    let wantsKeys := added.contains 'A'
    let wantsList := added.contains 'a' || d.index.isSome || list?.isSome
    let converted : Except String Variable :=
      if wantsKeys then v.converted? true
      else if added.contains 'a' then v.converted? false
      else if wantsList && v.elements.isNone then v.converted? false
      else .ok v
    match converted with
    | .error complaint => refuse (octets (name ++ ": " ++ complaint))
    | .ok v =>
      let early := added.filter (· != 'r')
      modify (·.put (v.marked early removed))
      let isDone ← succeeds do
        match d.value, list? with
        | _, some items => assignList name d.isAdded items
        | some value, none =>
          if added.contains 'n' then
            modify fun s => s.put { s.variableNamed name with value := some value }
          else
            match d.index with
            | some index =>
              let spot ← spotOf name index
              assignSpot name (some spot) d.isAdded value
            | none => assignSpot name none d.isAdded value
        | none, none => pure ()
      if added.contains 'r' then
        modify fun s => s.put { s.variableNamed name with isReadOnly := true }
      return isDone

/-- The letters of attributes that signs add to variables or take from them. -/
structure DeclareOptions where
  added : List Char
  removed : List Char
  rest : List Octets

/-- Reads the options of a command that declares. -/
def declareOptions (fuel : Nat) (o : DeclareOptions) : Act DeclareOptions :=
  match fuel with
  | 0 => return o
  | fuel + 1 => do
    let letters := "aAfFgiIlnprtuxc".toList
    let check (sign : Char) (word : Octets) : Act Unit := do
      match word.find? fun c => !letters.contains c with
      | some c => refuseOption (sign :: c :: octets ": invalid option")
      | none => pure ()
    match o.rest with
    | ['-', '-'] :: rest => return { o with rest }
    | ('-' :: c :: more) :: rest =>
      check '-' (c :: more)
      declareOptions fuel { o with added := o.added ++ c :: more, rest }
    | ('+' :: c :: more) :: rest =>
      check '+' (c :: more)
      declareOptions fuel { o with removed := o.removed ++ c :: more, rest }
    | _ => return o

/-- Prints the variables with the kinds that are asked for, as commands. -/
def printDeclarations (wanted : List Char) : Act Unit := do
  let s ← get
  for v in s.sortedVariables do
    let kind := v.kindLetters
    if wanted.all kind.contains then printLine (declarationOf v)

/-- Declares variables, or prints them. -/
def declareCommand (name : String) (isLocal : Bool) : Builtin :=
  ⟨name, false, true, fun _ _ arguments => do
    let o ← declareOptions (arguments.length + 1) ⟨[], [], arguments⟩
    let s ← get
    let isInFunction := s.functionDepth != 0
    if isLocal && !isInFunction then failWith 1 (octets "can only be used in a function")
    let attributes := o.added.filter fun c => "aAilnrtuxc".toList.contains c
    if o.added.contains 'f' || o.added.contains 'F' then
      let names := if o.rest.isEmpty then
          (s.functions.map fun f => octets f.1).mergeSort Octets.le
        else o.rest
      let mut status := 0
      for f in names do
        if (s.functions.lookup (Octets.toText f)).isSome then
          printLine (if o.rest.isEmpty then octets "declare -f " ++ f else f)
        else status := 1
      return status
    if o.rest.isEmpty then
      if isLocal then return 0
      if o.added.contains 'p' || !attributes.isEmpty then printDeclarations attributes
      else
        for v in s.sortedVariables do
          match assignmentOf? v with
          | some text => printLine text
          | none => pure ()
      return 0
    let mut status := 0
    for a in o.rest do
      if o.added.contains 'p' then
        let found := match s.binding? (Octets.toText a) with
          | some v => some v
          | none => s.knownVariable? (Octets.toText a)
        match found with
        | some v => printLine (declarationOf v)
        | none =>
          complain (a ++ octets ": not found")
          status := 1
      else if a == ['-'] && isLocal then remember (.options s.options)
      else
        let isHere := isInFunction && !o.added.contains 'g'
        if !(← declareOne isHere o.added o.removed a) then status := 1
    return status⟩

/-- What `export` and `readonly` do: they give variables a mark. -/
def wideMark (name : String) (mark : Char) : Builtin :=
  ⟨name, false, true, fun _ _ arguments => do
    let (options, rest) ← wideOptions (if mark == 'x' then "fnp" else "aAfp") arguments
    let s ← get
    if rest.isEmpty then
      for v in s.sortedVariables do
        let isMarked := if mark == 'x' then v.isExported else v.isReadOnly
        if isMarked then printLine (declarationOf v)
      return 0
    let kinds := (options.map (·.1)).filter fun c => mark == 'r' && (c == 'a' || c == 'A')
    let removes := hasOption options 'n'
    let mut status := 0
    for a in rest do
      if hasOption options 'f' then
        if (s.functions.lookup (Octets.toText a)).isNone then
          complain (a ++ octets ": not a function")
          status := 1
      else
        let added := if removes then [] else mark :: kinds
        let removed := if removes then [mark] else []
        if !(← declareOne false added removed a) then status := 1
    return status⟩

/-- Takes variables or functions away. -/
def Builtin.wideUnset : Builtin :=
  ⟨"unset", false, false, fun _ _ arguments => do
    let (options, names) ← wideOptions "fnv" arguments
    let mut status := 0
    for given in names do
      let s ← get
      let dropFunction : Act Unit := modify fun s =>
        { s with functions := s.functions.filter (·.1 != Octets.toText given) }
      if hasOption options 'f' then dropFunction
      else
        match declared? given with
        | none => dropFunction
        | some d =>
          let name := String.ofList d.name
          let name := if hasOption options 'n' then name else s.meant name
          match s.binding? name with
          | none => if !hasOption options 'v' then dropFunction
          | some v =>
            if v.isReadOnly then
              complain (octets (name ++ ": cannot unset: readonly variable"))
              status := 1
            else
              match d.index, v.elements with
              | some index, some e =>
                if index == ['@'] || index == ['*'] then modify (·.drop name)
                else
                  match ← attempt (spotOf name index) with
                  | .ok spot => modify (·.put { v with elements := some (e.dropAt spot) })
                  | .error _ => status := 1
              | some _, none =>
                complain (octets (name ++ ": not an array variable"))
                status := 1
              | none, _ => modify fun s => (s.noteAssignment name none).drop name
    return status⟩

/-! ## Options of the shell -/

/-- The names of all options with their letters, in order. -/
def allOptionNames : List (Option Char × String) :=
  let lettered : List (Option Char × String) := wideOptionNames.map fun o => (some o.1, o.2)
  let named : List (Option Char × String) := namedOptions.map fun o => (none, o)
  (lettered ++ named).mergeSort fun a b => Octets.le (octets a.2) (octets b.2)

/-- Whether an option is set. -/
def Memory.hasNamed (s : Memory) (o : Option Char × String) : Bool :=
  match o.1 with
  | some letter => s.has letter
  | none => s.does o.2

/-- Sets an option by its name, if there is one with it. -/
def setOptionNamed? (s : Memory) (name : Octets) (value : Bool) : Option Memory :=
  (allOptionNames.find? fun o => octets o.2 == name).map fun o =>
    match o.1 with
    | some letter => s.setOption letter value
    | none => s.setFeature o.2 value

/-- A name with blanks up to a width, a tab, and whether it is on. -/
def optionLine (width : Nat) (name : String) (value : Bool) : Octets :=
  octets name ++ List.replicate (width - name.length) ' ' ++ '\t' ::
    octets (if value then "on" else "off")

/-- Sets the options in a word; the name of one may be the next word. -/
def setWideLetters (sign : Char) (letters : Octets) (rest : List Octets) : Act (List Octets) :=
  match letters with
  | [] => return rest
  | 'o' :: more => do
    let value := sign == '-'
    match rest with
    | name :: rest =>
      match setOptionNamed? (← get) name value with
      | some s =>
        set s
        setWideLetters sign more rest
      | none => failWith 2 (name ++ octets ": invalid option name")
    | [] =>
      let s ← get
      for o in allOptionNames do
        printLine (if value then optionLine 15 o.2 (s.hasNamed o)
          else octets ("set " ++ (if s.hasNamed o then "-" else "+") ++ "o " ++ o.2))
      setWideLetters sign more rest
  | letter :: more => do
    if !(wideOptionNames.any (·.1 == letter)) then
      refuseOption (sign :: letter :: octets ": invalid option")
    modify (·.setOption letter (sign == '-'))
    setWideLetters sign more rest

/-- Sets options and parameters. -/
def setWideAll (fuel : Nat) (arguments : List Octets) : Act Unit :=
  match fuel with
  | 0 => return ()
  | fuel + 1 => do
    match arguments with
    | ['-'] :: rest =>
      modify fun s => (s.setOption 'x' false).setOption 'v' false
      if !rest.isEmpty then setParameters rest
    | ['-', '-'] :: rest => setParameters rest
    | ('-' :: letters) :: rest => setWideAll fuel (← setWideLetters '-' letters rest)
    | ('+' :: letters) :: rest => setWideAll fuel (← setWideLetters '+' letters rest)
    | [] => return ()
    | rest => setParameters rest

/-- Sets options and parameters, or prints the variables. -/
def Builtin.wideSet : Builtin :=
  ⟨"set", false, false, fun _ _ arguments => do
    if arguments.isEmpty then
      for v in (← get).sortedVariables do
        match assignmentOf? v with
        | some text => printLine text
        | none => pure ()
    else setWideAll (arguments.length + 1) arguments
    return 0⟩

/-- What the wide dialect can be told to do, by name, and whether it does so to begin with. -/
def featureNames : List (String × Bool) :=
  [("autocd", false), ("assoc_expand_once", false), ("cdable_vars", false), ("cdspell", false),
    ("checkhash", false), ("checkjobs", false), ("checkwinsize", true), ("cmdhist", true),
    ("compat31", false), ("compat32", false), ("compat40", false), ("compat41", false),
    ("compat42", false), ("compat43", false), ("compat44", false), ("complete_fullquote", true),
    ("direxpand", false), ("dirspell", false), ("dotglob", false), ("execfail", false),
    ("expand_aliases", false), ("extdebug", false), ("extglob", false), ("extquote", true),
    ("failglob", false), ("force_fignore", true), ("globasciiranges", true),
    ("globskipdots", true), ("globstar", false), ("gnu_errfmt", false), ("histappend", false),
    ("histreedit", false), ("histverify", false), ("hostcomplete", true), ("huponexit", false),
    ("inherit_errexit", false), ("interactive_comments", true), ("lastpipe", false),
    ("lithist", false), ("localvar_inherit", false), ("localvar_unset", false),
    ("login_shell", false), ("mailwarn", false), ("no_empty_cmd_completion", false),
    ("nocaseglob", false), ("nocasematch", false), ("noexpand_translation", false),
    ("nullglob", false), ("patsub_replacement", true), ("progcomp", true),
    ("progcomp_alias", false), ("promptvars", true), ("restricted_shell", false),
    ("shift_verbose", false), ("sourcepath", true), ("varredir_close", false),
    ("xpg_echo", false)]

/-- Says what the shell is to do, or prints that. -/
def Builtin.shopt : Builtin :=
  ⟨"shopt", false, false, fun _ _ arguments => do
    let (options, names) ← wideOptions "pqsuo" arguments
    let sets := hasOption options 's'
    let unsets := hasOption options 'u'
    let isQuiet := hasOption options 'q'
    let isNamed := hasOption options 'o'
    if sets && unsets then
      failWith 1 (octets "cannot set and unset shell options simultaneously")
    let s ← get
    let table : List (String × Bool) :=
      if isNamed then allOptionNames.map fun o => (o.2, s.hasNamed o)
      else featureNames.map fun f => (f.1, s.does f.1)
    let tell (name : String) (value : Bool) : Act Unit := do
      if isQuiet then return ()
      if hasOption options 'p' then
        printLine (octets (if isNamed then
            "set " ++ (if value then "-" else "+") ++ "o " ++ name
          else "shopt " ++ (if value then "-s " else "-u ") ++ name))
      else printLine (optionLine 15 name value)
    if names.isEmpty then
      for (name, value) in table do
        if (!sets && !unsets) || value == sets then tell name value
      return 0
    let mut status := 0
    for o in names do
      match table.find? fun f => octets f.1 == o with
      | none =>
        complain (o ++ octets (if isNamed then ": invalid option name"
          else ": invalid shell option name"))
        status := 1
      | some (name, value) =>
        if sets || unsets then
          if isNamed then
            modify fun s => (setOptionNamed? s o sets).getD s
          else modify (·.setFeature name sets)
        else
          tell name value
          if !value then status := 1
    return status⟩

end Flowscript.Shell
