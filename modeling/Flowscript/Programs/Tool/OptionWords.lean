import Flowscript.Programs.Tool.Basic

/-!
# Words of a command line put in order

* `OptionGrammar` says which options there are.
* `OptionGrammar.scan` takes a command line apart.
* `getoptTool` prints a command line so that a script can go through it word by word.
-/

set_option autoImplicit false

namespace Flowscript.Tool

/-- What is done with a word that is no option. -/
inductive PlainWords where
  /-- It comes after all options. -/
  | later
  /-- It ends the options. -/
  | ending
  /-- It stays where it is. -/
  | inPlace
  deriving DecidableEq, Repr

/-- The options that a command line can have. -/
structure OptionGrammar where
  plain : PlainWords
  /-- The letters, each with a colon after it if it has a value, and two if it can have one. -/
  letters : Octets
  /-- Whether nothing is said about a value that is not there. -/
  isSilent : Bool
  names : List (Octets × OptionValue)
  /-- Whether a single hyphen can stand before a name. -/
  isLoose : Bool

/-- What a word turned out to be; an option has a value if it could have one. -/
inductive OptionWord where
  | letter (c : Char) (value : Option Octets)
  | named (name : Octets) (value : Option Octets)
  | plain (word : Octets)
  | wrong (complaint : Option Octets)

namespace OptionGrammar

/-- The options that letters with colons and names say. -/
def ofLetters (inOrder isLoose : Bool) (names : List (Octets × OptionValue)) (letters : Octets) :
    OptionGrammar :=
  let (plain, rest) := match letters with
    | '+' :: rest => (PlainWords.ending, rest)
    | '-' :: rest => (PlainWords.inPlace, rest)
    | _ => (if inOrder then PlainWords.ending else PlainWords.later, letters)
  ⟨plain, rest, rest.head? == some ':', names, isLoose⟩

/-- What can follow a letter, if it is one of those that there are. -/
def afterLetter? (g : OptionGrammar) (c : Char) : Option Octets :=
  if c == ':' || c == ';' then none
  else
    match g.letters.dropWhile (· != c) with
    | [] => none
    | _ :: rest => some rest

/-- Takes an option with a name; gives what it is and the words that follow, or nothing if it is not
one at all. -/
def scanName (g : OptionGrammar) (sign body : Octets) (rest : List Octets) :
    Option (OptionWord × List Octets) :=
  let name := body.takeWhile (· != '=')
  let value := (body.drop name.length).tail?
  let wrong (message : Octets) : Option (OptionWord × List Octets) :=
    some (.wrong (some message), rest)
  let about (name : Octets) : Octets := octets "option '" ++ sign ++ name
  let use (name : Octets) (kind : OptionValue) : Option (OptionWord × List Octets) :=
    match kind, value with
    | .none, some _ => wrong (about name ++ octets "' doesn't allow an argument")
    | .none, none => some (.named name none, rest)
    | .required, none =>
      match rest with
      | [] =>
        if g.isSilent then some (.wrong none, rest)
        else wrong (about name ++ octets "' requires an argument")
      | value :: rest => some (.named name (some value), rest)
    | _, value => some (.named name (some (value.getD [])), rest)
  match g.names.find? (·.1 == name) with
  | some (name, kind) => use name kind
  | none =>
    match g.names.filter fun n => Octets.starts name n.1 with
    | [(name, kind)] => use name kind
    | [] =>
      if g.isLoose && sign == ['-'] && (body.head?.bind g.afterLetter?).isSome then none
      else wrong (octets "unrecognized option '" ++ sign ++ body ++ ['\''])
    | found =>
      wrong (octets "option '" ++ sign ++ body ++ octets "' is ambiguous; possibilities:"
        ++ found.flatMap fun n => octets " '" ++ sign ++ n.1 ++ ['\''])

/-- Takes the options in a word of letters; gives what they are and the words that follow. -/
def scanLetters (g : OptionGrammar) (rest : List Octets) :
    Octets → List OptionWord × List Octets
  | [] => ([], rest)
  | c :: more =>
    let missing : OptionWord :=
      .wrong (if g.isSilent then none
        else some (octets "option requires an argument -- '" ++ [c, '\'']))
    match g.afterLetter? c with
    | none =>
      let (found, rest) := scanLetters g rest more
      (.wrong (some (octets "invalid option -- '" ++ [c, '\''])) :: found, rest)
    | some (':' :: ':' :: _) => ([.letter c (some more)], rest)
    | some (':' :: _) =>
      match more, rest with
      | [], [] => ([missing], rest)
      | [], value :: rest => ([.letter c (some value)], rest)
      | _, _ => ([.letter c (some more)], rest)
    | some after =>
      let byName (body : Octets) (rest : List Octets) : List OptionWord × List Octets :=
        match g.scanName (octets "-W ") body rest with
        | some (found, rest) => ([found], rest)
        | none => ([], rest)
      if c == 'W' && after.head? == some ';' then
        match more, rest with
        | [], [] => ([missing], rest)
        | [], body :: rest => byName body rest
        | _, _ => byName more rest
      else
        let (found, rest) := scanLetters g rest more
        (.letter c none :: found, rest)

/-- Takes a command line apart; gives the options and the words after them. -/
def scan (g : OptionGrammar) (fuel : Nat) (words : List Octets) :
    List OptionWord × List Octets :=
  match fuel, words with
  | 0, _ => ([], words)
  | _, [] => ([], [])
  | fuel + 1, word :: rest =>
    let goOn (found : List OptionWord) (rest : List Octets) : List OptionWord × List Octets :=
      let (more, operands) := scan g fuel rest
      (found ++ more, operands)
    let takeLetters (letters : Octets) : List OptionWord × List Octets :=
      let (found, rest) := g.scanLetters rest letters
      goOn found rest
    match word with
    | ['-', '-'] => ([], rest)
    | '-' :: '-' :: body =>
      if g.names.isEmpty && !g.isLoose then
        goOn [.wrong (some (octets "unrecognized option '" ++ word ++ ['\'']))] rest
      else
        match g.scanName ['-', '-'] body rest with
        | some (found, rest) => goOn [found] rest
        | none => goOn [] rest
    | '-' :: c :: more =>
      if g.isLoose && (!more.isEmpty || (g.afterLetter? c).isNone) then
        match g.scanName ['-'] (c :: more) rest with
        | some (found, rest) => goOn [found] rest
        | none => takeLetters (c :: more)
      else takeLetters (c :: more)
    | _ =>
      match g.plain with
      | .ending => ([], words)
      | .inPlace => goOn [.plain word] rest
      | .later =>
        let (more, operands) := scan g fuel rest
        (more, word :: operands)

end OptionGrammar

/-! ## Printing words -/

/-- How words are written for a shell. -/
inductive WordQuoting where
  | none
  | plain
  /-- As the C shell reads them. -/
  | strict
  deriving DecidableEq, Repr

/-- A word as a shell reads it. -/
def WordQuoting.write (q : WordQuoting) (word : Octets) : Octets :=
  let outside (o : Octets) : Octets := '\'' :: o ++ ['\'']
  let inside (c : Char) : Octets :=
    if c == '\'' then outside ['\\', c]
    else if q == .plain then [c]
    else if c == '\\' then ['\\', '\\']
    else if c == '\n' then ['\\', 'n']
    else if c == '!' || Text.isSpace c then outside ['\\', c]
    else [c]
  if q == .none then word else '\'' :: word.flatMap inside ++ ['\'']

/-- An option as it is printed. -/
def OptionWord.write (q : WordQuoting) : OptionWord → Octets
  | .letter c value => ' ' :: '-' :: c :: withValue value
  | .named name value => ' ' :: '-' :: '-' :: name ++ withValue value
  | .plain word => ' ' :: q.write word
  | .wrong _ => []
where
  withValue : Option Octets → Octets
    | some value => ' ' :: q.write value
    | none => []

/-- Prints a command line in order; the complaints say another name. -/
def printInOrder (g : OptionGrammar) (q : WordQuoting) (name : Octets) (isQuiet hasOutput : Bool)
    (words : List Octets) : ToolRun Nat := do
  let (found, operands) := g.scan (words.length + 1) words
  let mut status := 0
  for word in found do
    match word with
    | .wrong complaint =>
      status := 1
      match complaint with
      | some message =>
        if !isQuiet && !g.isSilent then writeErrors (name ++ octets ": " ++ message ++ ['\n'])
      | none => pure ()
    | _ => pure ()
  if hasOutput then
    print (found.flatMap (OptionWord.write q))
    print (octets " --")
    for word in operands do print (' ' :: q.write word)
    print ['\n']
  return status

/-- The names in a list, each with colons after it as letters have them. -/
def optionNames (o : Octets) : ToolRun (List (Octets × OptionValue)) := do
  let isMark (c : Char) : Bool := c == ',' || c == ' ' || c == '\t' || c == '\n'
  let words := (Text.splitAt isMark o).filter (!·.isEmpty)
  words.mapM fun word => do
    let (name, kind) := match word.reverse with
      | ':' :: ':' :: r => (r.reverse, OptionValue.optional)
      | ':' :: r => (r.reverse, OptionValue.required)
      | _ => (word, OptionValue.none)
    if name.isEmpty then
      giveUpUsage 2 (octets "empty long option after -l or --long argument")
    return (name, kind)

/-- Prints a command line so that a script can go through it word by word. -/
def getoptTool : Procedure := fun _ arguments => do
  let name := (← get).name
  let inOrder := (← binding? "POSIXLY_CORRECT").isSome
  let isOld := (← binding? "GETOPT_COMPATIBLE").isSome
  match arguments with
  | [] =>
    if isOld then
      printLine (octets " --")
      return 0
    giveUpUsage 2 (octets "missing optstring argument")
  | letters :: words =>
    if isOld || letters.head? != some '-' then
      let letters := letters.dropWhile fun c => c == '-' || c == '+'
      return ← printInOrder (OptionGrammar.ofLetters inOrder false [] letters) .none name false true
        words
    let (given, rest) ← OptionSpec.parse
      [.flag 'a' "alternative", .setting 'l' "longoptions", .setting 'n' "name",
        .setting 'o' "options", .flag 'q' "quiet", .flag 'Q' "quiet-output", .setting 's' "shell",
        .flag 'T' "test", .flag 'u' "unquoted", .flag 'h' "help", .flag 'V' "version"]
      2 true (arguments.length + 1) arguments
    if has given "help" || has given "version" then OptionSpec.announce (has given "version")
    if has given "test" then return 4
    let names ← (given.filter (·.1 == "longoptions")).mapM fun o => optionNames o.2
    let quoting ← match valueOf? given "shell" with
      | none => pure WordQuoting.plain
      | some shell =>
        if shell == octets "sh" || shell == octets "bash" then pure WordQuoting.plain
        else if shell == octets "csh" || shell == octets "tcsh" then pure WordQuoting.strict
        else giveUpUsage 2 (octets "unknown shell after -s or --shell argument")
    let quoting := if has given "unquoted" then .none else quoting
    let (letters, words) ← match valueOf? given "options", rest with
      | some letters, words => pure (letters, words)
      | none, letters :: words => pure (letters, words)
      | none, [] => giveUpUsage 2 (octets "missing optstring argument")
    let grammar := OptionGrammar.ofLetters inOrder (has given "alternative") names.flatten letters
    printInOrder grammar quoting ((valueOf? given "name").getD name) (has given "quiet")
      (!has given "quiet-output") words

end Flowscript.Tool
