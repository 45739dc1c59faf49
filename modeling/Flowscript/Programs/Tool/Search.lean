import Flowscript.Programs.Regex.Reading
import Flowscript.Programs.Shell.Pattern
import Flowscript.Programs.Tool.Listing
import Flowscript.Programs.Tool.Mode
import Flowscript.Programs.Tool.Processes

/-!
# Looking for files

* `FileTest` is an expression about files, and `FileTest.read` reads one.
* `FileTest.holds` says whether it holds of a file, and does what it says should be done.
* `searchTool` walks through directories.
-/

set_option autoImplicit false

namespace Flowscript.Tool

/-- Puts a text in place of another one wherever that is found. -/
def replaceAll (old new : Octets) (fuel : Nat) (cs : Octets) : Octets :=
  match fuel, cs with
  | 0, _ => cs
  | _, [] => []
  | fuel + 1, c :: r =>
    if !old.isEmpty && old.isPrefixOf cs then new ++ replaceAll old new fuel (cs.drop old.length)
    else c :: replaceAll old new fuel r

/-- How a number is compared: more than, less than, or exactly so many. -/
structure Comparison where
  sign : Option Char
  value : Nat
  deriving DecidableEq, Repr

/-- Whether a number is as it should be. -/
def Comparison.holds (c : Comparison) (n : Nat) : Bool :=
  match c.sign with
  | some '+' => c.value < n
  | some _ => n < c.value
  | none => n == c.value

/-- An expression about files. -/
inductive FileTest where
  | always (value : Bool)
  | named (pattern : Shell.Pattern) (foldsCase : Bool)
  | pathNamed (pattern : Shell.Pattern) (foldsCase : Bool)
  | linkNamed (pattern : Shell.Pattern)
  | matching (pattern : Regex) (foldsCase : Bool)
  | kind (letters : Octets)
  | empty
  | size (unit : Nat) (count : Comparison)
  | newer (time : Nat)
  | age (unit : Nat) (count : Comparison)
  | links (count : Comparison)
  | mode (bits : Nat) (sign : Option Char)
  | node (number : Nat)
  | printed (mark : Char)
  | formatted (format : Octets)
  | listed
  | removed
  | pruned
  | quitted
  | executed (words : List Octets) (isLocal : Bool)
  | collected (words : List Octets)
  | negated (test : FileTest)
  | both (first second : FileTest)
  | either (first second : FileTest)
  | sequence (first second : FileTest)

namespace FileTest

/-- Whether an expression does something, so that nothing is printed of its own accord. -/
def acts : FileTest → Bool
  | .printed _ | .formatted _ | .listed | .removed | .executed .. | .collected _ | .quitted => true
  | .negated test => test.acts
  | .both first second => first.acts || second.acts
  | .either first second => first.acts || second.acts
  | .sequence first second => first.acts || second.acts
  | _ => false

/-- Whether directories come after what is in them because they are removed. -/
def removes : FileTest → Bool
  | .removed => true
  | .negated test => test.removes
  | .both first second => first.removes || second.removes
  | .either first second => first.removes || second.removes
  | .sequence first second => first.removes || second.removes
  | _ => false

/-- The commands that are run once with all files. -/
def collections : FileTest → List (List Octets)
  | .collected words => [words]
  | .negated test => test.collections
  | .both first second => first.collections ++ second.collections
  | .either first second => first.collections ++ second.collections
  | .sequence first second => first.collections ++ second.collections
  | _ => []

end FileTest

/-! ## Reading -/

/-- How far a search goes. -/
structure SearchLimits where
  most : Option Nat
  least : Nat
  childrenFirst : Bool
  follows : Bool

/-- A complaint about an expression. -/
def wrongTest {α : Type} (message : Octets) : ToolRun α := giveUp 1 message

/-- Reads a comparison. -/
def readComparison (option word : Octets) : ToolRun Comparison := do
  let (sign, digits) := match word with
    | '+' :: r => (some '+', r)
    | '-' :: r => (some '-', r)
    | _ => (none, word)
  match Octets.natural? digits with
  | some n => return ⟨sign, n⟩
  | none =>
    wrongTest (octets "invalid argument " ++ ('\x60' :: word) ++ octets "' to " ++ ('\x60' :: option)
      ++ ['\''])

/-- Reads a size with a unit. -/
def readSize (option word : Octets) : ToolRun FileTest := do
  let unit := match word.getLast? with
    | some 'c' => 1
    | some 'w' => 2
    | some 'k' => 1024
    | some 'M' => 1048576
    | some 'G' => 1073741824
    | _ => 512
  let digits := if word.getLast?.any Char.isAlpha then word.dropLast else word
  return .size unit (← readComparison option digits)

/-- The words of a command up to its end, whether it takes all files at once, and what follows. -/
def commandWords (words before : List Octets) :
    Option (List Octets × Bool × List Octets) :=
  match words with
  | [] => none
  | [';'] :: rest => some (before.reverse, false, rest)
  | ['{', '}'] :: ['+'] :: rest => some (before.reverse, true, rest)
  | word :: rest => commandWords rest (word :: before)

/-- A text in small letters. -/
def lower (o : Octets) : Octets := o.map Char.toLower

/-- Reads one test with its arguments. -/
def readTest (word : Octets) (rest : List Octets) :
    ToolRun (FileTest × List Octets) := do
  let withValue (make : Octets → ToolRun FileTest) : ToolRun (FileTest × List Octets) := do
    match rest with
    | value :: rest => return (← make value, rest)
    | [] => wrongTest (octets "missing argument to " ++ ('\x60' :: word) ++ ['\''])
  let timeOf (path : Octets) : ToolRun Nat := do
    match ← find path true with
    | .ok n => look (·.tree.modifiedAt n)
    | .error fault => wrongTest (quote path ++ octets (": " ++ fault.message))
  let command (isLocal : Bool) : ToolRun (FileTest × List Octets) := do
    match commandWords rest [] with
    | some (words, true, rest) => return (.collected words, rest)
    | some (words, false, rest) =>
      if words.isEmpty then wrongTest (octets "invalid argument " ++ ('\x60' :: octets ";' to ")
        ++ ('\x60' :: word) ++ ['\''])
      return (.executed words isLocal, rest)
    | none => wrongTest (octets "missing argument to " ++ ('\x60' :: word) ++ ['\''])
  match String.ofList word with
  | "-name" => withValue fun v => return .named (Shell.Pattern.ofOctets v) false
  | "-iname" => withValue fun v => return .named (Shell.Pattern.ofOctets (lower v)) true
  | "-path" | "-wholename" => withValue fun v => return .pathNamed (Shell.Pattern.ofOctets v) false
  | "-ipath" | "-iwholename" =>
    withValue fun v => return .pathNamed (Shell.Pattern.ofOctets (lower v)) true
  | "-lname" => withValue fun v => return .linkNamed (Shell.Pattern.ofOctets v)
  | "-regex" | "-iregex" => withValue fun v => do
      match Regex.read .editor v with
      | .ok r => return .matching r (word == octets "-iregex")
      | .error fault => wrongTest (octets fault.message)
  | "-type" | "-xtype" => withValue fun v => do
      let letters := v.filter (· != ',')
      if letters.isEmpty || !letters.all "bcdpflsD".toList.contains then
        wrongTest (octets "Unknown argument to -type: " ++ v)
      return .kind letters
  | "-empty" => return (.empty, rest)
  | "-size" => withValue (readSize word)
  | "-newer" | "-anewer" | "-cnewer" => withValue fun v => return .newer (← timeOf v)
  | "-mtime" | "-atime" | "-ctime" =>
    withValue fun v => return .age 86400 (← readComparison word v)
  | "-mmin" | "-amin" | "-cmin" => withValue fun v => return .age 60 (← readComparison word v)
  | "-links" => withValue fun v => return .links (← readComparison word v)
  | "-perm" => withValue fun v => do
      let (sign, digits) := match v with
        | '-' :: r => (some '-', r)
        | '/' :: r => (some '/', r)
        | _ => (none, v)
      match modeSpec? digits with
      | some spec => return .mode (spec 0 false 0) sign
      | none => wrongTest (octets "invalid mode " ++ ('\x60' :: v) ++ ['\''])
  | "-samefile" => withValue fun v => do
      match ← find v true with
      | .ok n => return .node n
      | .error fault => wrongTest (quote v ++ octets (": " ++ fault.message))
  | "-user" | "-group" | "-uid" | "-gid" => withValue fun v =>
      return .always (v == octets "root" || v == ['0'])
  | "-readable" | "-writable" => return (.always true, rest)
  | "-executable" => return (.mode 0o111 (some '/'), rest)
  | "-true" => return (.always true, rest)
  | "-false" => return (.always false, rest)
  | "-print" => return (.printed '\n', rest)
  | "-print0" => return (.printed '\x00', rest)
  | "-printf" => withValue fun v => return .formatted v
  | "-ls" => return (.listed, rest)
  | "-delete" => return (.removed, rest)
  | "-prune" => return (.pruned, rest)
  | "-quit" => return (.quitted, rest)
  | "-exec" => command false
  | "-execdir" => command true
  | _ =>
    if word.head? == some '-' then
      wrongTest (octets "unknown predicate " ++ ('\x60' :: word) ++ ['\''])
    else wrongTest (octets "paths must precede expression: " ++ ('\x60' :: word) ++ ['\''])

/-- Whether a word ends a sequence of tests. -/
def endsTests (word : Octets) : Bool :=
  ["-o", "-or", ")", ","].any fun s => octets s == word

/-- Reads alternatives, sequences, or tests that all have to hold: `level` says which. -/
def readTests (fuel level : Nat) (words : List Octets) : ToolRun (FileTest × List Octets) :=
  match fuel with
  | 0 => wrongTest (octets "invalid expression")
  | fuel + 1 => do
    match level with
    | 0 =>
      let (first, rest) ← readTests fuel 1 words
      match rest with
      | [','] :: rest =>
        let (second, rest) ← readTests fuel 0 rest
        return (.sequence first second, rest)
      | _ => return (first, rest)
    | 1 =>
      let (first, rest) ← readTests fuel 2 words
      match rest with
      | word :: more =>
        if word == octets "-o" || word == octets "-or" then
          let (second, rest) ← readTests fuel 1 more
          return (.either first second, rest)
        return (first, rest)
      | [] => return (first, [])
    | 2 =>
      let (first, rest) ← readTests fuel 3 words
      match rest with
      | [] => return (first, [])
      | word :: more =>
        if endsTests word then return (first, rest)
        let more := if word == octets "-a" || word == octets "-and" then more else rest
        let (second, rest) ← readTests fuel 2 more
        return (.both first second, rest)
    | _ =>
      match words with
      | [] => wrongTest (octets "expected an expression after operator")
      | ['!'] :: rest =>
        let (test, rest) ← readTests fuel 3 rest
        return (.negated test, rest)
      | ['('] :: rest =>
        let (test, rest) ← readTests fuel 0 rest
        match rest with
        | [')'] :: rest => return (test, rest)
        | _ => wrongTest (octets "invalid expression; I was expecting to find a ')' somewhere "
            ++ octets "but did not see one.")
      | word :: rest =>
        if word == octets "-not" then
          let (test, rest) ← readTests fuel 3 rest
          return (.negated test, rest)
        else readTest word rest

/-- Takes the options that say how far a search goes out of its words. -/
def takeLimits (limits : SearchLimits) (fuel : Nat) (words : List Octets) :
    ToolRun (SearchLimits × List Octets) :=
  match fuel, words with
  | 0, _ => return (limits, words)
  | _, [] => return (limits, [])
  | fuel + 1, word :: rest => do
    let number (value : Octets) : ToolRun Nat := do
      match Octets.natural? value with
      | some n => return n
      | none =>
        wrongTest (octets "Expected a positive decimal integer argument to " ++ word
          ++ octets ", but got " ++ quote value)
    match String.ofList word, rest with
    | "-maxdepth", value :: rest =>
      takeLimits { limits with most := some (← number value) } fuel rest
    | "-mindepth", value :: rest =>
      takeLimits { limits with least := ← number value } fuel rest
    | "-depth", rest => takeLimits { limits with childrenFirst := true } fuel rest
    | "-d", rest => takeLimits { limits with childrenFirst := true } fuel rest
    | "-follow", rest => takeLimits { limits with follows := true } fuel rest
    | "-xdev", rest => takeLimits limits fuel rest
    | "-mount", rest => takeLimits limits fuel rest
    | "-noleaf", rest => takeLimits limits fuel rest
    | "-daystart", rest => takeLimits limits fuel rest
    | "-regextype", _ :: rest => takeLimits limits fuel rest
    | _, _ => do
      let (limits, rest) ← takeLimits limits fuel rest
      return (limits, word :: rest)

/-! ## Walking -/

/-- A file on the way: its path, where the search started, how deep it is, and what is known of it. -/
structure Visited where
  path : Octets
  top : Octets
  depth : Nat
  facts : FileFacts

/-- What a search has found so far: files for commands that take them all at once. -/
structure SearchState where
  collected : List Octets
  isPruned : Bool
  isOver : Bool

/-- What a letter of a format stands for. -/
def visitedText (v : Visited) (c : Char) : Octets :=
  match c with
  | 'p' => v.path
  | 'f' => baseName v.path
  | 'h' =>
    if v.path.contains '/' then
      ((v.path.reverse.dropWhile (· != '/')).drop 1).reverse
    else ['.']
  | 'P' => (v.path.drop v.top.length).dropWhile (· == '/')
  | 'H' => v.top
  | 'd' => Nat.toDigits 10 v.depth
  | 's' => Nat.toDigits 10 v.facts.size
  | 'm' => Nat.toDigits 8 v.facts.mode
  | 'M' => v.facts.modeText
  | 'y' => [if kindLetter v.facts.kind == '-' then 'f' else kindLetter v.facts.kind]
  | 'l' => match v.facts.kind with
    | some (.link target) => octets target
    | _ => []
  | 'n' => Nat.toDigits 10 v.facts.links
  | 'i' => Nat.toDigits 10 v.facts.node
  | 'u' | 'g' => octets "root"
  | 'U' | 'G' => ['0']
  | 'T' | 'A' | 'C' => []
  | '%' => ['%']
  | c => ['%', c]

/-- Writes what is known of a file as a format says. -/
def visitedFormat (v : Visited) : Octets → Octets
  | '%' :: c :: r => visitedText v c ++ visitedFormat v r
  | c :: r => c :: visitedFormat v r
  | [] => []

/-- Runs a command with a file, and says whether it succeeded. -/
def runWith (start : Invocation → Run Nat) (words : List Octets) : ToolRun Bool := do
  let number ← spawn start quote words (pure ())
  let ending ← liftM (Run.wait number)
  return ending == .exited 0

/-- Whether an expression holds of a file, after it has done what it says. -/
def FileTest.holds (start : Invocation → Run Nat) (v : Visited) :
    FileTest → StateT SearchState ToolRun Bool
  | .always value => return value
  | .named pattern foldsCase =>
    let name := baseName v.path
    return pattern.accepts (if foldsCase then lower name else name)
  | .pathNamed pattern foldsCase =>
    return pattern.accepts (if foldsCase then lower v.path else v.path)
  | .linkNamed pattern => return match v.facts.kind with
    | some (.link target) => pattern.accepts (octets target)
    | _ => false
  | .matching r foldsCase =>
    return (r.matchAt? ⟨foldsCase, false⟩ v.path ⟨0, none, v.path, []⟩).any fun m =>
      m.stop == v.path.length
  | .kind letters =>
    let letter := kindLetter v.facts.kind
    return letters.contains (if letter == '-' then 'f' else letter)
  | .empty => do
    match v.facts.kind with
    | some (.regular content) => return content.size == 0
    | some (.directory ..) => return (← namesIn v.path).isEmpty
    | _ => return false
  | .size unit count => return count.holds ((v.facts.size + unit - 1) / unit)
  | .newer time => return time < v.facts.modified
  | .age unit count => do
    let now ← (look (·.now) : ToolRun Nat)
    return count.holds ((now - v.facts.modified) / 1000000000 / unit)
  | .links count => return count.holds v.facts.links
  | .mode bits sign => return match sign with
    | some '-' => v.facts.mode &&& bits == bits
    | some _ => bits == 0 || v.facts.mode &&& bits != 0
    | none => v.facts.mode &&& 0o7777 == bits
  | .node number => return v.facts.node == number
  | .printed mark => do
    print (v.path ++ [mark])
    return true
  | .formatted format => do
    print (visitedFormat v (plainEscapes format))
    return true
  | .listed => do
    for line in longLines [] [(v.path, v.facts)] do printLine line
    return true
  | .removed => do
    if v.path == ['.'] then return true
    let result ← if v.facts.isDirectory then changeAt v.path false (·.removeDirectory)
      else changeAt v.path false (·.unlink)
    match result with
    | .ok () => return true
    | .error fault =>
      complainOf "cannot delete" v.path fault
      return false
  | .pruned => do
    modify fun s => { s with isPruned := true }
    return true
  | .quitted => do
    modify fun s => { s with isOver := true }
    return true
  | .executed words isLocal =>
    let name := if isLocal then octets "./" ++ baseName v.path else v.path
    runWith start (words.map fun w => replaceAll ['{', '}'] name (w.length + 1) w)
  | .collected _ => do
    modify fun s => { s with collected := s.collected ++ [v.path] }
    return true
  | .negated test => return !(← test.holds start v)
  | .both first second => do
    if ← first.holds start v then
      if (← get).isOver then return false
      second.holds start v
    else return false
  | .either first second => do
    if ← first.holds start v then return true
    else if (← get).isOver then return false
    else second.holds start v
  | .sequence first second => do
    let _ ← first.holds start v
    second.holds start v

/-- Walks through what is at a path. -/
def walkFiles (start : Invocation → Run Nat) (limits : SearchLimits) (test : FileTest)
    (fuel : Nat) (top : Octets) (depth : Nat) (path : Octets) :
    StateT SearchState ToolRun Unit :=
  match fuel with
  | 0 => return ()
  | fuel + 1 => do
    if (← get).isOver then return ()
    let found ← (find path limits.follows : ToolRun (Except Fault Nat))
    let found ← match found with
      | .ok n => pure (Except.ok n)
      | .error _ => (find path false : ToolRun (Except Fault Nat))
    match found with
    | .error fault =>
      complain (quote path ++ octets (": " ++ fault.message))
      noteFailure 1
    | .ok n =>
      let facts ← (look (fun k => factsOf k.tree n) : ToolRun FileFacts)
      let visit : StateT SearchState ToolRun Unit := do
        if limits.least ≤ depth then
          let _ ← test.holds start ⟨path, top, depth, facts⟩
      modify fun s => { s with isPruned := false }
      if !limits.childrenFirst then visit
      let s ← get
      if facts.isDirectory && !s.isOver && (limits.childrenFirst || !s.isPruned)
          && limits.most.all (depth < ·) then
        for name in ← (namesIn path : ToolRun (List Octets)) do
          walkFiles start limits test fuel top (depth + 1) (inDirectory path name)
      if limits.childrenFirst then
        if !(← get).isOver then visit

/-- Looks for files. -/
def searchTool : Procedure := fun start arguments => do
  let follows := arguments.head? == some (octets "-L")
  let words := arguments.dropWhile fun o =>
    o == octets "-L" || o == octets "-P" || o == octets "-H"
  let startsTest (o : Octets) : Bool :=
    o == ['!'] || o == ['('] || o == [')'] || o == [','] || (o.head? == some '-' && o != ['-'])
  let paths := words.takeWhile fun o => !startsTest o
  let (limits, tests) ← takeLimits ⟨none, 0, false, follows⟩ (words.length + 1)
    (words.drop paths.length)
  let test ← if tests.isEmpty then pure (FileTest.printed '\n') else do
    let (test, rest) ← readTests (5 * tests.length + 5) 0 tests
    match rest with
    | [] => pure (if test.acts then test else .both test (.printed '\n'))
    | _ => wrongTest (octets "invalid expression; you have too many ')'")
  let limits := if test.removes then { limits with childrenFirst := true } else limits
  let paths := if paths.isEmpty then [['.']] else paths
  let mut state : SearchState := ⟨[], false, false⟩
  for path in paths do
    let ((), next) ← (walkFiles start limits test 1000 path 0 path).run state
    state := next
  for words in test.collections do
    if !state.collected.isEmpty then
      if !(← runWith start (words ++ state.collected)) then noteFailure 1
  notedStatus

end Flowscript.Tool
