import Flowscript.Programs.Shell.WordReading

/-!
# Reading statements

* `Source.readToken` reads a token.
* `Source.verdict` reads a condition of the wide dialect.
* `Source.parse` reads a list of statements or a command.
* `Source.nextStatement` reads the next line of a script, and as many more as its statements need.
-/

set_option autoImplicit false

namespace Flowscript.Shell

/-- What is read: a list of statements up to the end of a line, one up to a token that ends it, one
like that which may be empty, or a command. -/
inductive Goal where
  | line
  | body
  | anyBody
  | command
  deriving DecidableEq, Repr

namespace Source

/-- The names of the commands that are part of the language. -/
def specialNames : List String :=
  [".", ":", "break", "continue", "eval", "exec", "exit", "export", "local", "readonly", "return",
    "set", "shift", "times", "trap", "unset"]

/-! ## Tokens -/

/-- Reads the sign of a redirection of a descriptor, if it is given; the first character of the sign
is next. -/
def redirectionSign (descriptor : Option Nat) : Reading Unit := do
  let first ← peekOn?
  let wide ← isWide
  advance
  let target : OpenRedirection ←
    if first == some '>' then
      let target := descriptor.getD 1
      if ← accept '>' then pure (.file target .appending)
      else if ← accept '|' then pure (.file target .overwriting)
      else if ← accept '&' then pure (if wide then .share descriptor false else .copy target)
      else pure (.file target .output)
    else
      let target := descriptor.getD 0
      if ← accept '<' then
        if ← accept '-' then pure (.document target true)
        else if wide then
          if ← accept '<' then pure (.text target) else pure (.document target false)
        else pure (.document target false)
      else if ← accept '&' then pure (if wide then .share descriptor true else .copy target)
      else if ← accept '>' then pure (.file target .both)
      else pure (.file target .input)
  modify ({ · with redirection := target, redirectionName := none })

/-- The name in braces that a text is. -/
def bracedName? (o : Octets) : Option String :=
  match o with
  | '\x7b' :: rest =>
    if rest.getLast? == some '\x7d' && Word.isName rest.dropLast then some (String.ofList rest.dropLast)
    else none
  | _ => none

/-- Reads a word, or a redirection that starts with a number or a sign, or in the wide dialect with
the name of a variable. -/
def wordToken (body : Bool → Reading (Option Statement)) : Reading Token := do
  let word ← readWord body (← get).checks.endMark
  let next ← peekOn?
  let wide ← isWide
  if next == some '<' || next == some '>' then
    match word.plainText? with
    | some [] =>
      redirectionSign none
      return .redirection
    | some o =>
      if o.all Char.isDigit && (wide || o.length == 1) then
        redirectionSign (Octets.natural? o)
        return .redirection
      if wide then
        match bracedName? o with
        | some name =>
          redirectionSign none
          modify ({ · with redirectionName := some name })
          return .redirection
        | none => pure ()
    | none => pure ()
  modify ({ · with word := word })
  return .word

/-- Reads what can be read twice in a row. -/
def doubled (c : Char) (single double : Token) : Reading Token := do
  advance
  if ← accept c then return double
  return single

/-- Reads what starts with an ampersand. -/
def ampersandToken : Reading Token := do
  let token ← doubled '&' .ampersand .and
  if token == .ampersand && (← isWide) && (← peek?) == some '>' then
    advance
    let appends ← accept '>'
    modify ({ · with redirection := .together appends, redirectionName := none })
    return .redirection
  return token

/-- Reads what starts with a vertical bar. -/
def barToken : Reading Token := do
  let token ← doubled '|' .pipe .or
  if token == .pipe && (← isWide) then
    if ← accept '&' then return .widePipe
  return token

/-- Reads what starts with a semicolon. -/
def semicolonToken : Reading Token := do
  let token ← doubled ';' .semicolon .caseEnd
  if ← isWide then
    if ← accept '&' then return if token == .semicolon then .caseFall else .caseOn
  return token

/-- Reads a token as it stands in the script. -/
def scan (body : Bool → Reading (Option Statement)) (fuel : Nat) : Reading Token :=
  match fuel with
  | 0 => pure .finish
  | fuel + 1 => do
    match ← peekOn? with
    | none => return .finish
    | some ' ' | some '\t' =>
      advance
      scan body fuel
    | some '#' =>
      modify fun s => { s with rest := s.rest.dropWhile (· != '\n') }
      scan body fuel
    | some c =>
      modify fun s => { s with tokenRest := s.rest }
      match c with
      | '\n' =>
        advance
        return .newline
      | '&' => ampersandToken
      | '|' => barToken
      | ';' => semicolonToken
      | '(' =>
        advance
        return .opening
      | ')' =>
        advance
        return .closing
      | _ => wordToken body

/-! ## Texts in the script -/

/-- Whether a line goes on in the next one. -/
def goesOn (line : List Char) : Bool := (line.reverse.takeWhile (· == '\\')).length % 2 == 1

/-- The lines of a text in the script up to its end mark, and what follows it, unless there is no
end mark. -/
def documentLines (a : Awaited) (joined : Bool) (fuel : Nat) (cs : List Char) :
    List Char × Option (List Char) :=
  match fuel, cs with
  | 0, cs => ([], some cs)
  | _, [] => ([], none)
  | fuel + 1, cs =>
    let line := cs.takeWhile (· != '\n')
    let rest := cs.drop (line.length + 1)
    let line := if a.dropsTabs && !joined then line.dropWhile (· == '\t') else line
    if line == a.endMark && !joined then ([], some rest)
    else
      let hasEnd := cs.any (· == '\n')
      let (more, rest) := documentLines a (a.isExpanded && goesOn line) fuel rest
      (line ++ (if hasEnd then ['\n'] else []) ++ more, rest)

/-- Reads a text in the script. -/
def readDocument (body : Bool → Reading (Option Statement)) (a : Awaited) : Reading Unit := do
  let s ← get
  let (text, rest?) := documentLines a false (s.rest.length + 1) s.rest
  let rest := rest?.getD []
  if rest?.isNone then
    let last := s.line + text.count '\n' - if text.getLast? == some '\n' then 1 else 0
    let warning := Octets.ofText ("warning: here-document at line " ++ toString a.line
      ++ " delimited by end-of-file (wanted ") ++ marked a.endMark ++ [')']
    modify fun after => { after with warnings := after.warnings ++ [(last, warning)] }
  let line := s.line + (s.rest.take (s.rest.length - rest.length)).count '\n'
  let word ←
    if a.isExpanded then
      nested do
        modify ({ · with rest := text })
        documentWord body
    else pure (text.map .literal)
  modify fun after =>
    { after with rest := rest, line := line, documents := (a.number, word) :: after.documents }

/-- Reads the texts in the script that start here. -/
def readDocuments (body : Bool → Reading (Option Statement)) : Reading Unit := do
  let awaited := (← get).awaited
  modify ({ · with awaited := [] })
  for a in awaited do readDocument body a

/-! ## Tokens in their places -/

/-- Reads a token, past the ends of lines. -/
def scanPast (body : Bool → Reading (Option Statement)) (fuel : Nat) (token : Token) :
    Reading Token :=
  match fuel with
  | 0 => pure token
  | fuel + 1 => do
    if token == .newline then
      readDocuments body
      scanPast body fuel (← scan body (← allRest))
    else return token

/-- The text of an alias that is to be put in place of a name. -/
def aliasOf? (s : Source) (name : String) : Option Octets := do
  let text ← s.aliases.lookup name
  let left := s.rest.length
  if s.unfolded.any fun u => u.1 == name && u.2 ≤ left then none else some text

/-- Reads a token, and looks for what one is to look for. -/
def readTokenWith (body : Bool → Reading (Option Statement)) (fuel : Nat) (checks : Checks) :
    Reading Token :=
  match fuel with
  | 0 => pure .finish
  | fuel + 1 => do
    let s ← get
    let token ←
      if s.isBack then
        set { s with isBack := false }
        pure s.token
      else scan body (← allRest)
    let token ← if checks.newlines then scanPast body (← allRest) token else pure token
    let s ← get
    let checks := checks.or s.checks
    let read (token : Token) : Reading Token := do
      modify ({ · with token := token, checks := .none })
      return token
    match if token == .word then s.word.plainText? else none with
    | none => read token
    | some text =>
      let name := String.ofList text
      match if checks.keywords then (Keyword.spellingsIn s.dialect).lookup name else none with
      | some keyword => read (.keyword keyword)
      | none =>
        match if checks.aliases && !s.aliases.isEmpty then aliasOf? s name else none with
        | none => read token
        | some value =>
          modify fun s =>
            { s with
              rest := value ++ s.rest
              unfolded := (name, s.rest.length) :: s.unfolded
              checks := .none }
          readTokenWith body fuel checks

/-- Reads a token. -/
def readToken (body : Bool → Reading (Option Statement)) : Reading Token := do
  readTokenWith body 1000 (← get).checks

/-- Reads a token that has to be there. -/
def expect (body : Bool → Reading (Option Statement)) (token : Token) : Reading Unit := do
  unless (← readToken body) == token do unexpected (some token)

/-! ## Redirections -/

/-- Reads the target of the redirection whose sign is the last token. -/
def redirectionTarget (body : Bool → Reading (Option Statement)) : Reading Redirection := do
  let s ← get
  let target : Reading Word := do
    unless (← readToken body) == .word do unexpected none
    return (← get).word
  let named (r : Redirection) : Redirection := match s.redirectionName with
    | some name => .named name r
    | none => r
  match s.redirection with
  | .document descriptor dropsTabs =>
    look { Checks.none with endMark := true }
    unless (← readToken body) == .word do unexpected none
    modify fun s =>
      let awaited : Awaited :=
        ⟨s.nextDocument, s.line, s.word.text, dropsTabs, s.word.plainText?.isSome⟩
      { s with nextDocument := s.nextDocument + 1, awaited := s.awaited ++ [awaited] }
    return .document descriptor ((← get).nextDocument - 1)
  | .file descriptor opening => return named (.file descriptor opening (← target))
  | .copy descriptor => return .copy descriptor (← target)
  | .text descriptor => return named (.text descriptor (← target))
  | .together appends => return .together appends (← target)
  | .share descriptor isInput => return named (.share descriptor isInput (← target))

/-- Reads redirections. -/
def redirections (body : Bool → Reading (Option Statement)) (fuel : Nat) :
    Reading (List Redirection) :=
  match fuel with
  | 0 => pure []
  | fuel + 1 => do
    look .words
    if (← readToken body) == .redirection then
      return (← redirectionTarget body) :: (← redirections body fuel)
    else
      pushBack
      return []

/-! ## Commands -/

/-- A command whose words are being read, the last ones first, and whether the next word may be an
assignment. -/
structure PartialCommand where
  assignments : List Word
  words : List Word
  redirections : List Redirection
  mayAssign : Bool

/-- The command that has been read. -/
def PartialCommand.statement (p : PartialCommand) (line : Nat) : Statement :=
  .simple line p.assignments.reverse p.words.reverse p.redirections.reverse

/-- The names of commands whose arguments can assign lists. -/
def declaringNames : List String :=
  ["declare", "typeset", "local", "export", "readonly", "alias", "eval", "let"]

/-- Whether a word of a command can assign a list. -/
def PartialCommand.takesLists (p : PartialCommand) : Bool :=
  p.mayAssign || match p.words.getLast?.bind Word.plainText? with
    | some name => declaringNames.contains (String.ofList name)
    | none => false

/-- Whether a word can be the name of a function. -/
def functionName? (dialect : Dialect) (word : Word) : Option String :=
  match word.plainText? with
  | none => none
  | some name =>
    let text := String.ofList name
    match dialect with
    | .wide => some text
    | .common => if Word.isName name && !specialNames.contains text then some text else none

/-- Reads the body of a function, which has to be a compound statement in the wide dialect. -/
def functionBody (body : Bool → Reading (Option Statement)) (command : Reading Statement) :
    Reading Statement := do
  look .all
  if ← isWide then
    match ← readToken body with
    | .keyword .time | .keyword .not | .keyword .function => unexpected none
    | .opening | .keyword _ => pushBack
    | _ => unexpected none
    look .all
  command

/-- Reads the words of a command, or of the definition of a function. -/
def simpleRest (body : Bool → Reading (Option Statement)) (command : Reading Statement)
    (line fuel : Nat) (p : PartialCommand) : Reading Statement :=
  match fuel with
  | 0 => fail "command too long"
  | fuel + 1 => do
    look (if p.mayAssign then { Checks.none with aliases := true } else .none)
    modify ({ · with takesLists := p.takesLists })
    let token ← readToken body
    modify ({ · with takesLists := false })
    match token with
    | .word =>
      let s ← get
      let word := s.word
      let assigns := match s.dialect with
        | .common => word.assignment?.isSome
        | .wide => word.wideAssignment?.isSome
      if p.mayAssign && assigns then
        simpleRest body command line fuel { p with assignments := word :: p.assignments }
      else
        simpleRest body command line fuel { p with words := word :: p.words, mayAssign := false }
    | .redirection =>
      let r ← redirectionTarget body
      simpleRest body command line fuel { p with redirections := r :: p.redirections }
    | .opening =>
      match p.assignments, p.words, p.redirections with
      | [], [word], [] =>
        expect body .closing
        match functionName? (← get).dialect word with
        | none => fail "Bad function name"
        | some name =>
          let line := (← get).line
          return .define line name (← functionBody body command)
      | _, _, _ =>
        pushBack
        return p.statement line
    | _ =>
      pushBack
      return p.statement line

/-- Reads words up to something else. -/
def wordsUpTo (body : Bool → Reading (Option Statement)) (fuel : Nat) : Reading (List Word) :=
  match fuel with
  | 0 => pure []
  | fuel + 1 => do
    if (← readToken body) == .word then return (← get).word :: (← wordsUpTo body fuel)
    else return []

/-- Reads the patterns of a case; the first one has been read. -/
def casePatterns (body : Bool → Reading (Option Statement)) (fuel : Nat) : Reading (List Word) :=
  match fuel with
  | 0 => pure []
  | fuel + 1 => do
    let word := (← get).word
    if (← readToken body) == .pipe then
      let _ ← readToken body
      return word :: (← casePatterns body fuel)
    else return [word]

/-- Reads the cases of a choice. -/
def cases (body : Bool → Reading (Option Statement)) (self : Goal → Reading (Option Statement))
    (fuel : Nat) : Reading (List (List Word × Option Statement × CaseEnd)) :=
  match fuel with
  | 0 => pure []
  | fuel + 1 => do
    look { Checks.none with newlines := true, keywords := true }
    match ← readToken body with
    | .keyword .esac => return []
    | token =>
      if token == .opening then
        let _ ← readToken body
      let patterns ← casePatterns body fuel
      unless (← get).token == .closing do unexpected (some .closing)
      let consequence ← self .anyBody
      look { Checks.none with newlines := true, keywords := true }
      match ← readToken body with
      | .keyword .esac => return [(patterns, consequence, .leaves)]
      | .caseEnd => return (patterns, consequence, .leaves) :: (← cases body self fuel)
      | .caseFall => return (patterns, consequence, .fallsThrough) :: (← cases body self fuel)
      | .caseOn => return (patterns, consequence, .goesOn) :: (← cases body self fuel)
      | _ => unexpected (some .caseEnd)

/-- A list of statements that cannot be empty; where the script ends, what should come after it is
missed first. -/
def someBody (self : Goal → Reading (Option Statement)) : Reading Statement := do
  match ← self .body with
  | some statement => return statement
  | none =>
    if (← get).token == .finish && !(← isWide) then return .simple (← get).line [] [] []
    unexpected none

/-- Reads a branch after its first word. -/
def branches (body : Bool → Reading (Option Statement))
    (self : Goal → Reading (Option Statement)) (fuel : Nat) : Reading Statement :=
  match fuel with
  | 0 => fail "too many branches"
  | fuel + 1 => do
    let condition ← someBody self
    expect body (.keyword .then)
    let consequence ← someBody self
    match ← readToken body with
    | .keyword .elif => return .branch condition consequence (some (← branches body self fuel))
    | .keyword .else => return .branch condition consequence (some (← someBody self))
    | _ =>
      pushBack
      return .branch condition consequence none

/-- All parameters, each as it is. -/
def allParameters : Word := [.mark, .parameter "@" .whole false [] true, .mark]

/-- Reads the body of a loop over words: statements between its keywords, or in the wide dialect
between braces. -/
def loopBody (body : Bool → Reading (Option Statement)) (self : Goal → Reading (Option Statement)) :
    Reading Statement := do
  look .all
  let token ← readToken body
  if token == .keyword .opening && (← isWide) then
    let statement ← someBody self
    expect body (.keyword .closing)
    return statement
  unless token == .keyword .do do unexpected (some (.keyword .do))
  let statement ← someBody self
  expect body (.keyword .done)
  return statement

/-- Reads the words of a loop after its variable. -/
def loopWords (body : Bool → Reading (Option Statement)) (fuel : Nat) : Reading (List Word) := do
  look .all
  if (← readToken body) == .keyword .in then
    let words ← wordsUpTo body fuel
    let last := (← get).token
    unless last == .newline || last == .semicolon do unexpected none
    return words
  else
    unless (← get).token == .semicolon do pushBack
    return [allParameters]

/-- Reads a loop over words after its first word. -/
def eachLoop (body : Bool → Reading (Option Statement)) (self : Goal → Reading (Option Statement))
    (line fuel : Nat) : Reading Statement := do
  let token ← readToken body
  let word := (← get).word
  let wide ← isWide
  if wide && token != .word then unexpected none
  let name := if token == .word then (word.plainText?).getD [] else []
  unless wide || Word.isName name do fail "Bad for loop variable"
  let words ← loopWords body fuel
  return .each line (String.ofList (if wide then word.text else name)) words (← loopBody body self)

/-- Reads a menu after its first word. -/
def menuLoop (body : Bool → Reading (Option Statement)) (self : Goal → Reading (Option Statement))
    (line fuel : Nat) : Reading Statement := do
  unless (← readToken body) == .word do unexpected none
  let name := (← get).word.text
  let words ← loopWords body fuel
  return .menu line (String.ofList name) words (← loopBody body self)

/-! ## Arithmetic and conditions as statements -/

/-- Whether two parentheses that are closed together come next. -/
def opensTwice (s : Source) : Bool :=
  match s.rest with
  | '(' :: '(' :: r => closesTwice r.length 0 r
  | _ => false

/-- The parts of a word between semicolons. -/
def semicolonParts (word : Word) : List Word :=
  word.foldr (fun part pieces =>
    match part, pieces with
    | .plain ';', _ => [] :: pieces
    | _, piece :: rest => (part :: piece) :: rest
    | _, [] => [[part]]) [[]]

/-- Reads a loop that counts after its first word; two parentheses come next. -/
def countedLoop (body : Bool → Reading (Option Statement))
    (self : Goal → Reading (Option Statement)) (line : Nat) : Reading Statement := do
  let start := (← get).rest
  advance
  advance
  let word ← readArithmetic body
  match semicolonParts word with
  | [first, condition, step] =>
    look .all
    unless (← readToken body) == .semicolon do pushBack
    return .counted line first condition step (← loopBody body self)
  | _ =>
    let s ← get
    let text := start.take (start.length - s.rest.length)
    throw ⟨s.line, Octets.ofText "syntax error: arithmetic expression required",
      [(s.line, Octets.ofText "syntax error: " ++ marked text)]⟩

/-- Passes over blanks. -/
def skipBlanks (fuel : Nat) : Reading Unit :=
  match fuel with
  | 0 => pure ()
  | fuel + 1 => do
    match ← peekOn? with
    | some ' ' | some '\t' =>
      advance
      skipBlanks fuel
    | _ => pure ()

/-- The letters of questions in conditions. -/
def questionLetters : List Char := "abcdefghknoprstuvwxzGLNORS".toList

/-- The comparisons in conditions that are words. -/
def wordComparisons : List String :=
  ["=", "==", "!=", "=~", "-eq", "-ne", "-lt", "-le", "-gt", "-ge", "-nt", "-ot", "-ef"]

/-- The text of the last token, as complaints about conditions call it. -/
def calledToken (s : Source) : Octets :=
  if s.token == .newline then Octets.ofText "newline" else s.tokenText

/-- Gives up on a condition because of the last token. -/
def failVerdict {α : Type} (message : Octets) : Reading α := do
  let s ← get
  if s.token == .finish then
    let after := s.earlyEnd
    throw ⟨s.line, Octets.ofText "unexpected EOF while looking for " ++ marked (Octets.ofText "]]"),
      [after]⟩
  let line := if s.token == .newline then s.line - 1 else s.line
  let near :=
    if s.token == .newline then
      let before := (s.tokenLine.reverse.dropWhile (· == ' ')).takeWhile (· != ' ')
      before.reverse
    else s.tokenText
  throw ⟨line, message, [(line, Octets.ofText "syntax error near " ++ marked near),
    (line, marked s.tokenLine)]⟩

/-- Reads a token of a condition, past the ends of lines. -/
def verdictToken (body : Bool → Reading (Option Statement)) : Reading (Token × Option Octets) := do
  look { Checks.none with newlines := true }
  let token ← readToken body
  let s ← get
  return (token, if token == .word then s.word.plainText? else none)

/-- What a part of a condition is: something with a choice in it, without one, or a single
condition. -/
inductive VerdictLevel where
  | either
  | both
  | single
  deriving DecidableEq, Repr

/-- Reads the second word of a comparison. -/
def comparedWord (body : Bool → Reading (Option Statement)) (isExpression : Bool) :
    Reading Word := do
  if isExpression then
    skipBlanks (← get).rest.length
    match (← get).rest with
    | '\n' :: _ | [] => pure ()
    | _ => return ← readExpression body
  look .none
  let token ← readToken body
  let s ← get
  if token == .word && s.word.plainText? != some [']', ']'] then return s.word
  failVerdict (Octets.ofText "unexpected argument " ++ marked s.calledToken
    ++ Octets.ofText " to conditional binary operator")

/-- Reads what comes after a single word in a condition. -/
def verdictAfter (body : Bool → Reading (Option Statement)) (first : Word) : Reading Verdict := do
  look .none
  let token ← readToken body
  let s ← get
  let compared (name : String) : Reading Verdict := do
    return .comparison name first (← comparedWord body (name == "=~"))
  match token with
  | .word =>
    match s.word.plainText? with
    | some o =>
      let name := String.ofList o
      if name == "]]" then
        pushBack
        return .text first
      if wordComparisons.contains name then return ← compared name
    | none => pure ()
    failVerdict (Octets.ofText "conditional binary operator expected")
  | .redirection =>
    match s.redirection with
    | .file 0 .input => compared "<"
    | .file 1 .output => compared ">"
    | _ => failVerdict (Octets.ofText "conditional binary operator expected")
  | .closing | .and | .or =>
    pushBack
    return .text first
  | _ =>
    failVerdict (if token == .newline || token == .finish then
        Octets.ofText "conditional binary operator expected"
      else Octets.ofText "unexpected token " ++ marked s.calledToken
        ++ Octets.ofText ", conditional binary operator expected")

/-- Reads a part of a condition. -/
def verdict (body : Bool → Reading (Option Statement)) (fuel : Nat) (level : VerdictLevel) :
    Reading Verdict :=
  match fuel with
  | 0 => fail "condition too deep"
  | fuel + 1 => do
    match level with
    | .either =>
      let first ← verdict body fuel .both
      if (← verdictToken body).1 == .or then return .either first (← verdict body fuel .either)
      pushBack
      return first
    | .both =>
      let first ← verdict body fuel .single
      if (← verdictToken body).1 == .and then return .both first (← verdict body fuel .both)
      pushBack
      return first
    | .single =>
      let (token, text?) ← verdictToken body
      let s ← get
      match token with
      | .opening =>
        let inner ← verdict body fuel .either
        let (last, _) ← verdictToken body
        if last == .closing then return inner
        let s ← get
        failVerdict (Octets.ofText "unexpected token " ++ marked s.calledToken
          ++ Octets.ofText ", expected " ++ marked [')'])
      | .word =>
        match text? with
        | some ['!'] => return .negation (← verdict body fuel .single)
        | some ['-', c] =>
          if questionLetters.contains c then
            look .none
            let next ← readToken body
            let after ← get
            if next == .word && after.word.plainText? != some [']', ']'] then
              return .question c after.word
            failVerdict (Octets.ofText "unexpected argument " ++ marked after.calledToken
              ++ Octets.ofText " to conditional unary operator")
          verdictAfter body s.word
        | some [']', ']'] =>
          failVerdict (Octets.ofText "unexpected token " ++ marked s.calledToken
            ++ Octets.ofText " in conditional command")
        | _ => verdictAfter body s.word
      | _ =>
        failVerdict (Octets.ofText "unexpected token " ++ marked s.calledToken
          ++ Octets.ofText " in conditional command")

/-- Reads a condition after its first word, and the word that ends it. -/
def wholeVerdict (body : Bool → Reading (Option Statement)) (fuel : Nat) : Reading Verdict := do
  let before := (← get).takesGroups
  modify ({ · with takesGroups := true })
  let condition ← verdict body fuel .either
  let (token, text?) ← verdictToken body
  unless token == .word && text? == some [']', ']'] do
    failVerdict (Octets.ofText "syntax error in conditional expression")
  modify ({ · with takesGroups := before })
  return condition

/-- Reads the definition of a function after its first word. -/
def functionDefinition (body : Bool → Reading (Option Statement)) (command : Reading Statement) :
    Reading Statement := do
  unless (← readToken body) == .word do unexpected none
  let s ← get
  look .none
  if (← readToken body) == .opening then
    expect body .closing
  else pushBack
  return .define s.line (String.ofList s.word.text) (← functionBody body command)

/-- A compound statement, and the token after it. -/
def compound (body : Bool → Reading (Option Statement)) (self : Goal → Reading (Option Statement))
    (command : Reading Statement) (line fuel : Nat) (token : Token) :
    Reading (Statement × Option Token) := do
  match token with
  | .keyword .if => return (← branches body self fuel, some (.keyword .fi))
  | .keyword .while | .keyword .until =>
    let condition ← someBody self
    expect body (.keyword .do)
    let repeated ← someBody self
    return (.loop (token == .keyword .until) condition repeated, some (.keyword .done))
  | .keyword .for =>
    if ← isWide then skipBlanks (← get).rest.length
    if (← isWide) && opensTwice (← get) then return (← countedLoop body self line, none)
    return (← eachLoop body self line fuel, none)
  | .keyword .menu => return (← menuLoop body self line fuel, none)
  | .keyword .function => return (← functionDefinition body command, none)
  | .keyword .verdict => return (.verdict line (← wholeVerdict body fuel), none)
  | .keyword .case =>
    expect body .word
    let subject := (← get).word
    look .all
    expect body (.keyword .in)
    return (.choose line subject (← cases body self fuel), none)
  | .opening =>
    let s ← get
    let isArithmetic := s.dialect == .wide && match s.rest with
      | '(' :: r => closesTwice r.length 0 r
      | _ => false
    if isArithmetic then
      advance
      return (.reckon line (← readArithmetic body), none)
    return (.subshell line (← someBody self) [], some .closing)
  | .keyword .opening => return (← someBody self, some (.keyword .closing))
  | _ => unexpected none

/-- A statement with redirections after it. -/
def withRedirections (line : Nat) (statement : Statement) : List Redirection → Statement
  | [] => statement
  | redirections =>
    match statement with
    | .subshell line body _ => .subshell line body redirections
    | _ => .redirected line statement redirections

/-- Reads a command. -/
def commandStep (body : Bool → Reading (Option Statement))
    (self : Goal → Reading (Option Statement)) (fuel : Nat) : Reading Statement := do
  let lineBefore := (← get).line
  let command : Reading Statement := do
    match ← self .command with
    | some statement => return statement
    | none => unexpected none
  let token ← readToken body
  let s ← get
  let line := if s.dialect == .wide then s.line else lineBefore
  match token with
  | .word | .redirection =>
    pushBack
    simpleRest body command line fuel ⟨[], [], [], true⟩
  | token =>
    let (statement, last) ← compound body self command line fuel token
    match last with
    | some token => expect body token
    | none => pure ()
    return withRedirections line statement (← redirections body fuel)

/-! ## Lists -/

/-- A statement whose errors go where its output goes. -/
def withErrors (line : Nat) : Statement → Statement
  | .simple line assignments words redirections =>
    .simple line assignments words (redirections ++ [.copy 2 [.plain '1']])
  | .redirected line body redirections =>
    .redirected line body (redirections ++ [.copy 2 [.plain '1']])
  | .subshell line body redirections =>
    .subshell line body (redirections ++ [.copy 2 [.plain '1']])
  | statement => .redirected line statement [.copy 2 [.plain '1']]

/-- Reads the further commands of a pipeline after the first one. -/
def pipelineRest (body : Bool → Reading (Option Statement)) (command : Reading Statement)
    (fuel : Nat) (first : Statement) : Reading (List Statement) :=
  match fuel with
  | 0 => pure [first]
  | fuel + 1 => do
    match ← readToken body with
    | .pipe =>
      look .all
      return first :: (← pipelineRest body command fuel (← command))
    | .widePipe =>
      let line := (← get).line
      look .all
      return withErrors line first :: (← pipelineRest body command fuel (← command))
    | _ =>
      pushBack
      return [first]

/-- Reads the words before a pipeline that negate it, and in the wide dialect measure its time:
whether it is negated, and measured in a short form or a long one. -/
def pipelineStart (body : Bool → Reading (Option Statement)) (fuel : Nat) (negated : Bool)
    (timed : Option Bool) : Reading (Bool × Option Bool) :=
  match fuel with
  | 0 => pure (negated, timed)
  | fuel + 1 => do
    match ← readToken body with
    | .keyword .not =>
      look .words
      if ← isWide then pipelineStart body fuel (!negated) timed else return (true, timed)
    | .keyword .time =>
      look .words
      let isShort := match (← get).rest.dropWhile (· == ' ') with
        | '-' :: 'p' :: c :: _ => endsWord c
        | '-' :: 'p' :: [] => true
        | _ => false
      if isShort then
        let _ ← readToken body
        look .words
      pipelineStart body fuel negated (some isShort)
    | _ =>
      pushBack
      return (negated, timed)

/-- Whether a pipeline ends before it starts. -/
def isEmptyPipeline (token : Token) : Bool :=
  token == .newline || token == .semicolon || token == .finish

/-- Reads a pipeline. -/
def pipeline (body : Bool → Reading (Option Statement)) (command : Reading Statement)
    (fuel : Nat) : Reading Statement := do
  let (negated, timed) ← pipelineStart body fuel false none
  let s ← get
  if s.dialect == .wide && (negated || timed.isSome) && isEmptyPipeline s.token then
    let empty : Statement := match timed with
      | some isShort => .timed isShort none
      | none => .simple s.line [] [] []
    return if negated then .negated empty else empty
  let parts ← pipelineRest body command fuel (← command)
  let statement := match parts with
    | [single] => single
    | _ => .pipeline parts false
  let statement := match timed with
    | some isShort => .timed isShort (some statement)
    | none => statement
  return if negated then .negated statement else statement

/-- Reads the further pipelines that depend on whether the ones before went well. -/
def dependentRest (body : Bool → Reading (Option Statement)) (command : Reading Statement)
    (fuel : Nat) (before : Statement) : Reading Statement :=
  match fuel with
  | 0 => pure before
  | fuel + 1 => do
    match ← readToken body with
    | .and =>
      look .all
      dependentRest body command fuel (.both before (← pipeline body command fuel))
    | .or =>
      look .all
      dependentRest body command fuel (.either before (← pipeline body command fuel))
    | _ =>
      pushBack
      return before

/-- A statement that is not waited for. -/
def inBackground (line : Nat) : Statement → Statement
  | .pipeline parts _ => .pipeline parts true
  | .redirected line body redirections => .background line body redirections
  | statement => .background line statement []

/-- Statements one after the other. -/
def joined (before : Option Statement) (next : Statement) : Statement :=
  match before with
  | some before => .sequence before next
  | none => next

/-- Reads a list of statements. -/
def listRest (body : Bool → Reading (Option Statement)) (command : Reading Statement) (goal : Goal)
    (fuel : Nat) (mayEnd : Bool) (before : Option Statement) : Reading (Option Statement) :=
  match fuel with
  | 0 => pure before
  | fuel + 1 => do
    let finished (before : Option Statement) : Reading (Option Statement) := do
      readDocuments body
      modify ({ · with isBack := true, token := .finish })
      return before
    look (if goal == .line then .words else .all)
    let token ← readToken body
    if token == .newline then
      readDocuments body
      return before
    if token == .finish then return ← finished before
    pushBack
    if mayEnd && token.endsList then return before
    let statement ← dependentRest body command fuel (← pipeline body command fuel)
    let line := (← get).line
    let after ← readToken body
    let statement := if after == .ampersand then inBackground line statement else statement
    let before := some (joined before statement)
    match after with
    | .finish => finished before
    | .newline =>
      pushBack
      listRest body command goal fuel (goal != .line) before
    | .ampersand | .semicolon => listRest body command goal fuel (goal != .line) before
    | _ =>
      if goal == .line then unexpected none
      pushBack
      return before

/-- Reads a list of statements or a command. -/
def parse (fuel : Nat) (goal : Goal) : Reading (Option Statement) :=
  match fuel with
  | 0 => fail "script too deep"
  | fuel + 1 => do
    let self (goal : Goal) : Reading (Option Statement) := parse fuel goal
    let body (old : Bool) : Reading (Option Statement) := do
      let statement ← self .anyBody
      unless old do
        let token ← readTokenWith (fun _ => pure none) 1000 .none
        unless token == .closing do unexpected (some .closing)
      return statement
    let command : Reading Statement := commandStep body self fuel
    match goal with
    | .command => return some (← command)
    | _ => listRest body command goal fuel (goal == .anyBody) none

/-- More steps than any script takes to read. -/
def readingSteps : Nat := 1000000000

/-- Reads the next line of a script, and as many more as its statements need.  There may be no
statement in it. -/
def nextStatement : Reading (Option Statement) := do
  modify ({ · with isBack := false, awaited := [], checks := .none })
  parse readingSteps .line

/-- Whether the end of the script has been reached. -/
def isFinished (s : Source) : Bool := s.token == .finish

end Source

end Flowscript.Shell
