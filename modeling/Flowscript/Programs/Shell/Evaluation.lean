import Flowscript.Programs.Shell.Builtin.Wide

/-!
# Evaluation of statements

* `evaluateStatement` evaluates a statement by its kind.
* `evaluateSimple` evaluates a command with its words, assignments and redirections.
* `evaluateText` and `evaluateScript` read statements and evaluate them one after the other.
* `perform` evaluates any work.

The status of a statement is known to the shell and given back.  A statement in a loop or function
that is left ends in a jump, and so does one that ends the shell.
-/

set_option autoImplicit false

namespace Flowscript.Shell

/-! ## Signals -/

/-- Takes the signals that the process was told of. -/
def takeSignals : Act (List Signal) := kernel fun k =>
  let noticed := k.self.noticed
  if noticed.isEmpty then ([], k) else (noticed, k.modifySelf ({ · with noticed := [] }))

/-- Does what is to be done on a signal.  The status is what it was before. -/
def onSignal (m : Means) (signal : Signal) : Act Unit := do
  let s ← get
  match s.traps.lookup signal with
  | none => return ()
  | some action =>
    if action.isEmpty then return ()
    let status := s.savedStatus.getD s.status
    set { s with savedStatus := some status, errorLine := if s.isWide then 1 else s.errorLine }
    let restore : Act Unit := modify fun t => { t with
      status := status
      savedStatus := s.savedStatus
      errorLine := if s.isWide then s.errorLine else t.errorLine }
    match ← attempt (m.perform (.text action .plain)) with
    | .ok _ => restore
    | .error (.broken n) =>
      restore
      throw (.broken n)
    | .error (.continued n) =>
      restore
      throw (.continued n)
    | .error .returned =>
      modify ({ · with savedStatus := s.savedStatus })
      throw .returned
    | .error jump => throw jump

/-- Does what is to be done on the signals that have come. -/
def runTraps (m : Means) : Act Unit := do
  let signals ← takeSignals
  if signals.isEmpty then return ()
  for signal in signals.mergeSort (· ≤ ·) do onSignal m signal

/-- Does what is to be done on an event in the wide dialect, unless that is being done already. -/
def onEvent (m : Means) (event : Signal) : Act Unit := do
  let s ← get
  match if s.isWide then s.traps.lookup event else none with
  | none => return ()
  | some action =>
    if action.isEmpty then return ()
    set { s with traps := s.traps.filter (·.1 != event) }
    let back : Act Unit := modify fun t => { t with
      traps := if (t.traps.lookup event).isSome then t.traps else (event, action) :: t.traps
      status := s.status
      statuses := s.statuses
      errorLine := s.errorLine }
    closing back do
      let _ ← m.perform (.text action .plain)

/-! ## Places -/

/-- Notes the line of a statement. -/
def noteLine (line : Nat) : Act Unit := modify fun s =>
  { s with errorLine := line, commandName := if s.isWide then none else s.commandName }

/-- Brings back the variables that were remembered since there were `depth` lists of them. -/
def unwindLocals (depth : Nat) : Act Unit := do
  let count := (← get).locals.length - depth
  for _ in List.range count do popLocals

/-! ## Commands -/

/-- What a name stands for as a command. -/
inductive Command where
  | function (f : Function)
  | builtin (b : Builtin)
  /-- A program, and where it was found if it was looked for. -/
  | program (path : Option Octets)
  | unknown (fault : Fault)

/-- The words of a command as they are expanded: those that are known and those that are not. -/
structure CommandWords where
  known : List Octets
  rest : List Word

/-- Expands words until more than `count` are known. -/
def expandUpTo (m : Means) (count fuel : Nat) (w : CommandWords) : Act CommandWords :=
  match fuel with
  | 0 => return w
  | fuel + 1 => do
    if count < w.known.length then return w
    match w.rest with
    | [] => return w
    | word :: rest =>
      let fields ← expandFields m word
      expandUpTo m count fuel ⟨w.known ++ fields, rest⟩

/-- The place of the command that is meant after `command` and its options, if it is to be followed,
and where it is looked for. -/
def meantCommand (m : Means) (fuel place : Nat) (isStandard : Bool) (w : CommandWords) :
    Act (CommandWords × Option (Nat × Bool)) :=
  match fuel with
  | 0 => return (w, none)
  | fuel + 1 => do
    let w ← expandUpTo m place (w.rest.length + 1) w
    match w.known[place]? with
    | none => return (w, none)
    | some ['-', '-'] =>
      let w ← expandUpTo m (place + 1) (w.rest.length + 1) w
      return (w, if place + 1 < w.known.length then some (place + 1, isStandard) else none)
    | some ('-' :: c :: more) =>
      if (c :: more).all (· == 'p') then meantCommand m fuel (place + 1) true w
      else return (w, none)
    | some _ => return (w, some (place, isStandard))

/-- A command that has been looked up: all its words, the place of the first one that counts, what
it is, whether it is special, and where it is looked for. -/
structure FoundCommand where
  words : CommandWords
  place : Nat
  isSpecial : Bool
  assigns : Bool
  isExec : Bool
  isLocal : Bool
  skipsFunctions : Bool
  isStandard : Bool

/-- Looks up a command, past any `command` before it. -/
def lookUp (m : Means) (fuel : Nat) (found : FoundCommand) (isFirst : Bool) : Act FoundCommand :=
  match fuel with
  | 0 => return found
  | fuel + 1 => do
    let name := found.words.known[found.place]?.getD []
    let isFunction := !found.skipsFunctions
      && ((← get).functions.lookup (Octets.toText name)).isSome
    let dialect := (← get).dialect
    match if isFunction then none else Builtin.named? dialect name with
    | none => return { found with isLocal := true }
    | some b =>
      let found := if dialect == .wide then { found with isLocal := false }
        else if isFirst then { found with isSpecial := b.isSpecial, isLocal := !b.isSpecial }
        else { found with isLocal := true }
      let found := { found with assigns := b.assigns, isExec := b.name == "exec" }
      if b.name != "command" then return found
      let (words, place?) ← meantCommand m (found.words.rest.length + found.words.known.length + 1)
        (found.place + 1) found.isStandard found.words
      match place? with
      | none => return { found with words }
      | some (place, isStandard) =>
        lookUp m fuel { found with words, place, isStandard, skipsFunctions := true } false

/-- Expands an assignment that is the argument of a command.  A list is put aside, and stands there
by its number. -/
def expandAssigning (m : Means) (a : Word.Assignment) : Act Octets := do
  let index ← match a.index with
    | some index => do pure ('[' :: (← expandText m .nowhere index) ++ [']'])
    | none => pure []
  let lead := octets a.name ++ index ++ octets (if a.isAdded then "+=" else "=")
  match a.value with
  | [.list items] =>
    let items ← expandItems m items
    let count := (← get).lists.length
    modify fun s => { s with lists := s.lists ++ [items] }
    return lead ++ '\x00' :: numeral count
  | value => return lead ++ (← expandText m .inAssignment value)

/-- Expands the rest of the words of a command. -/
def expandRest (m : Means) (assigns : Bool) (w : CommandWords) : Act (List Octets) := do
  let isWide := (← get).isWide
  let mut known := w.known
  for word in w.rest do
    match if assigns && isWide then word.wideAssignment? else none with
    | some a => known := known ++ [← expandAssigning m a]
    | none =>
      if assigns && !isWide && word.assignment?.isSome then
        known := known ++ [← expandText m .inAssignment word]
      else known := known ++ (← expandFields m word)
  return known

/-- What a name stands for. -/
def commandOf (name : Octets) (skipsFunctions : Bool) (directories : Octets) : Act Command := do
  let s ← get
  match if skipsFunctions then none else s.functions.lookup (Octets.toText name) with
  | some f => return .function f
  | none =>
    match Builtin.named? s.dialect name with
    | some b => return .builtin b
    | none =>
      if name.contains '/' then return .program none
      match ← findProgram directories name with
      | some path => return .program (some path)
      | none =>
        look fun k =>
          let isThere := (Run.candidates directories name).any fun path =>
            (k.find path true).toOption.isSome
          .unknown (if isThere then .denied else .missing)

/-- Calls a function of the wide dialect.  What is done on events is not done in it, unless it is
passed on. -/
def callWideFunction (m : Means) (manner : Manner) (name : Octets) (f : Function)
    (arguments : List Octets) : Act Nat := do
  let s ← get
  let hidden := s.traps.filter fun t => Signal.last < t.1 && !s.passesOn t.1
  set { s with
    parameters := arguments
    functionDepth := s.functionDepth + 1
    loopDepth := 0
    calls := ⟨Octets.toText name, f.source, s.errorLine⟩ :: s.calls
    traps := s.traps.filter fun t => t.1 ≤ Signal.last || s.passesOn t.1 }
  let back : Act Unit := modify fun t =>
    let isNew (trap : Signal × Octets) : Bool := (t.traps.lookup trap.1).isNone
    { t with
      parameters := s.parameters
      optionPlace := s.optionPlace
      functionDepth := s.functionDepth
      loopDepth := s.loopDepth
      calls := s.calls
      errorLine := s.errorLine
      traps := t.traps ++ hidden.filter isNew }
  closing back do
    let status ← match ← attempt (m.perform (.statement f.body manner.inner)) with
      | .ok status => pure status
      | .error .returned => do pure (← get).status
      | .error jump => throw jump
    modify ({ · with status := status })
    onEvent m afterReturn
    return status

/-- How deep functions can call one another. -/
def deepestCall : Nat := 1000

/-- Calls a function. -/
def callFunction (m : Means) (manner : Manner) (name : Octets) (f : Function)
    (arguments : List Octets) : Act Nat := do
  let s ← get
  if s.isWide then return ← callWideFunction m manner name f arguments
  if deepestCall < s.functionDepth + 1 then
    fail (octets ("Maximum function recursion depth (" ++ toString deepestCall ++ ") reached"))
  set { s with
    parameters := arguments
    nextOption := 1
    optionPlace := none
    functionDepth := s.functionDepth + 1
    loopDepth := 0 }
  let result ← attempt (m.perform (.statement f.body manner.inner))
  modify fun t => { t with
    parameters := s.parameters
    nextOption := s.nextOption
    optionPlace := s.optionPlace
    functionDepth := s.functionDepth
    loopDepth := s.loopDepth }
  match result with
  | .ok status => return status
  | .error .returned => return (← get).status
  | .error jump => throw jump

/-- Follows a command of the shell itself, and writes what it prints. -/
def callBuiltin (m : Means) (manner : Manner) (b : Builtin) (name : Octets)
    (arguments : List Octets) : Act Nat := do
  let before := (← get).commandName
  modify ({ · with commandName := some name })
  let result ← attempt (b.run m manner arguments)
  let fault? ← flushOutput
  let failed ← match result, fault? with
    | .error .failed, _ | .error .ended, _ | .error .exited, _ => pure false
    | _, none => pure false
    | _, some fault => do
      if (← get).isWide then complain (octets ("write error: " ++ fault.message))
      else complain (name ++ octets ": I/O error")
      pure true
  modify ({ · with commandName := before })
  match result with
  | .ok status => return if failed then status ||| 1 else status
  | .error jump => throw jump

/-- Starts a program, or lets it take over if nothing comes after it. -/
def callProgram (m : Means) (manner : Manner) (directories : Octets) (path : Option Octets)
    (words : List Octets) : Act Nat := do
  if manner.isLast && !(← get).hasTraps then startProgram m directories path words
  else
    awaitProcess (← startCopy m .awaited true (startProgram m directories path words))

/-- Reads a text as one in the script. -/
def readDocumentText (dialect : Dialect) (text : Octets) : Word :=
  let reading : Reading Word := Source.documentWord fun _ => pure none
  match (reading.run).run (Source.ofOctets dialect text 1) with
  | (.ok word, _) => word
  | (.error _, _) => text.map .literal

/-- Shows something before it is followed.  In the wide dialect the first character before it is
there once more for each script that this one is a part of. -/
def trace (m : Means) (saved : SavedDescriptors) (text : Octets) : Act Unit := do
  let s ← get
  if !s.has 'x' || s.isTracing then return ()
  modify ({ · with isTracing := true })
  let lead ← expandDocument m (readDocumentText s.dialect ((s.get? "PS4").getD []))
  modify ({ · with isTracing := false })
  let lead := match lead with
    | c :: r => if s.isWide then List.replicate (s.depth + 1) c ++ r else lead
    | [] => []
  let line := lead ++ text ++ ['\n']
  let target := ((saved.lookup 2).getD (some 2)).getD 2
  let _ ← liftM (Run.write target (Octets.toBytes line))

/-- Makes the assignments before a command, and gives their texts. -/
def makeAssignments (m : Means) (isLocal isExported : Bool) (assignments : List Word) :
    Act (List Octets) :=
  assignments.mapM fun word => do
    let text ← expandText m .inAssignment word
    if isLocal then makeLocal text true
    else
      let (name, value) := splitAssignment text
      assignWith (Octets.toText name) value isExported false
    return text

/-- Makes an assignment before a command of the wide dialect, for as long as that goes on.  A
variable that cannot be changed stays as it is. -/
def makePassing (m : Means) (a : Word.Assignment) : Act Octets := do
  let value ← expandText m .inAssignment a.value
  let shown := shownAssignment a none value
  let s ← get
  match s.binding? a.name with
  | some v =>
    if v.isReadOnly then complain (octets (a.name ++ ": readonly variable"))
    else
      remember (.variable a.name (some v))
      let value := if a.isAdded then (v.first?.getD []) ++ value else value
      modify (·.put { v with value := some value, elements := none, isExported := true })
  | none =>
    remember (.variable a.name none)
    modify (·.put (.single a.name (some value) true false))
  modify (·.noteAssignment a.name (some value))
  return shown

/-- Makes the assignments before a command of the wide dialect, and shows them. -/
def makeWideAssignments (m : Means) (saved : SavedDescriptors) (isPassing : Bool)
    (assignments : List Word) : Act Unit :=
  for word in assignments do
    match word.wideAssignment? with
    | some a => trace m saved (← if isPassing then makePassing m a else makeWideAssignment m a)
    | none => pure ()

/-- Follows a command whose words and redirections have been worked out. -/
def callCommand (m : Means) (manner : Manner) (found : FoundCommand) (words : List Octets) :
    Act Nat := do
  match words with
  | [] => return (← get).outputStatus
  | name :: arguments =>
    let s ← get
    let directories := if found.isStandard then Run.standardPath else s.searchPath
    match ← commandOf name found.skipsFunctions directories with
    | .unknown fault =>
      if s.isWide then
        match s.functions.lookup "command_not_found_handle" with
        | some f => callFunction m manner (octets "command_not_found_handle") f words
        | none =>
          let (status, reason) ← wideStartingFault name fault
          complain (shownName name ++ octets (": " ++ reason))
          return status
      else
        complain (name ++ octets (": " ++ startingFault fault))
        return 127
    | .program path => callProgram m manner directories path words
    | .function f => callFunction m manner name f arguments
    | .builtin b =>
      let depth := (← get).locals.length
      match ← attempt (callBuiltin m manner b name arguments) with
      | .ok status => return status
      | .error .failed =>
        if found.isSpecial then throw .failed
        unwindLocals depth
        return (← get).status
      | .error jump => throw jump

/-- Evaluates a command with its words, assignments and redirections. -/
def evaluateSimple (m : Means) (manner : Manner) (line : Nat) (assignments words : List Word)
    (redirections : List Redirection) : Act Nat := do
  noteLine line
  modify ({ · with outputStatus := 0 })
  let start ← get
  let w ← expandUpTo m 0 (words.length + 1) ⟨[], words⟩
  let bare : FoundCommand := ⟨w, 0, false, false, false, false, false, false⟩
  let found ← if w.known.isEmpty then pure bare else lookUp m (words.length + 1) bare true
  let all ← expandRest m found.assigns found.words
  let called := all.drop found.place
  let targets ← expandRedirections m redirections
  let depth := (← get).locals.length
  let isLocal := found.isLocal || (start.isWide && !all.isEmpty && !assignments.isEmpty)
  if isLocal then pushLocals
  let (status, saved) ← redirectSafely m targets
  let finish : Act Unit := do
    unwindLocals depth
    if start.isWide then
      closeChannels start.channels
      modify fun s => { s with
        lists := start.lists
        lastArgument := all.getLast?.getD s.lastArgument }
  let leaveNormally : Act Unit := do
    if found.isExec then forgetDescriptors saved else restoreDescriptors saved
    finish
  let follow : Act Nat := do
    if start.isWide then
      makeWideAssignments m saved isLocal assignments
      if !all.isEmpty then trace m saved (Octets.join [' '] (all.map Quoting.shown))
    else
      let texts ← makeAssignments m isLocal (found.isExec && 1 < called.length) assignments
      trace m saved (Octets.join [' '] (texts ++ all))
    callCommand m manner found called
  if status != 0 then
    modify ({ · with status := status })
    restoreDescriptors saved
    if found.isSpecial then throw .failed
    finish
    return status
  match ← attempt follow with
  | .ok status =>
    leaveNormally
    return status
  | .error (.broken n) =>
    leaveNormally
    throw (.broken n)
  | .error (.continued n) =>
    leaveNormally
    throw (.continued n)
  | .error .returned =>
    leaveNormally
    throw .returned
  | .error jump =>
    restoreDescriptors saved
    if start.isWide then finish
    throw jump

/-! ## Statements of several parts -/

/-- How a loop goes on after a part of it. -/
inductive AfterPart where
  | next (status : Nat)
  | again
  | leave

/-- Evaluates a part of a loop, and says how that goes on. -/
def loopPart (m : Means) (manner : Manner) (depth : Nat) (s : Statement) : Act AfterPart := do
  match ← attempt (m.perform (.statement s manner)) with
  | .ok status => return .next status
  | .error (.broken n) =>
    if n ≤ 1 then return .leave
    modify ({ · with loopDepth := depth })
    throw (.broken (n - 1))
  | .error (.continued n) =>
    if n ≤ 1 then return .again
    modify ({ · with loopDepth := depth })
    throw (.continued (n - 1))
  | .error jump => throw jump

/-- The status of a loop that is left early. -/
def leftStatus : Act Nat := do
  let s ← get
  return if s.isWide then s.status else 0

/-- Evaluates a loop up to its end. -/
def loopOver (m : Means) (manner : Manner) (untilHolds : Bool) (condition body : Statement)
    (depth fuel status : Nat) : Act Nat :=
  match fuel with
  | 0 => return status
  | fuel + 1 => do
    match ← loopPart m .tested depth condition with
    | .leave => return status
    | .again => loopOver m manner untilHolds condition body depth fuel status
    | .next result =>
      if (result == 0) == untilHolds then return status
      match ← loopPart m manner depth body with
      | .leave => leftStatus
      | .again => loopOver m manner untilHolds condition body depth fuel 0
      | .next status => loopOver m manner untilHolds condition body depth fuel status

/-- Evaluates a statement for each of several values; `before` is done first each time. -/
def loopEach (m : Means) (manner : Manner) (name : String) (before : Act Unit) (body : Statement)
    (depth status : Nat) : List Octets → Act Nat
  | [] => return status
  | value :: rest => do
    before
    assign name value
    match ← loopPart m manner depth body with
    | .leave => leftStatus
    | .again => loopEach m manner name before body depth 0 rest
    | .next status => loopEach m manner name before body depth status rest

/-- Does something as a loop. -/
def asLoop (act : Nat → Act Nat) : Act Nat := do
  let depth := (← get).loopDepth
  modify ({ · with loopDepth := depth + 1 })
  let status ← act depth
  modify ({ · with loopDepth := depth })
  return status

/-- More rounds than any loop has. -/
def manyRounds : Nat := 1000000000000

/-- The cases from the first one on that a text belongs to. -/
def chosenCases (m : Means) (style : PatternStyle) (subject : Octets) :
    List (List Word × Option Statement × CaseEnd) →
      Act (List (List Word × Option Statement × CaseEnd))
  | [] => return []
  | (patterns, body) :: rest => do
    for word in patterns do
      if (← expandPatternIn m style word).accepts subject then return (patterns, body) :: rest
    chosenCases m style subject rest

/-- Evaluates the cases that a text belongs to.  A case can go on with the next one. -/
def evaluateCases (m : Means) (manner : Manner) (style : PatternStyle) (subject : Octets)
    (fuel status : Nat) (cases : List (List Word × Option Statement × CaseEnd)) : Act Nat :=
  match fuel, cases with
  | 0, _ | _, [] => return status
  | fuel + 1, (_, body, ending) :: rest => do
    let manner := if ending == .leaves then manner else manner.inner
    let status ← match body with
      | some body => m.perform (.statement body manner)
      | none => pure 0
    match ending with
    | .leaves => return status
    | .fallsThrough => evaluateCases m manner style subject fuel status rest
    | .goesOn =>
      evaluateCases m manner style subject fuel status (← chosenCases m style subject rest)

/-- Evaluates a statement in a copy of the shell. -/
def evaluateApart (m : Means) (manner : Manner) (line : Nat) (body : Statement)
    (redirections : List Redirection) : Act Nat := do
  noteLine line
  let targets ← expandRedirections m redirections
  let child (manner : Manner) : Act Unit := do
    redirect m targets
    let _ ← m.perform (.statement body { manner with isLast := true })
  if manner.isLast && !(← get).hasTraps then
    modify Memory.copied
    child manner
    throw .ended
  awaitProcess (← startCopy m .awaited true (child manner))

/-- Starts a statement without waiting for it. -/
def evaluateBehind (m : Means) (line : Nat) (body : Statement) (redirections : List Redirection) :
    Act Nat := do
  noteLine line
  let targets ← expandRedirections m redirections
  let number ← startCopy m .background true do
    redirect m targets
    let _ ← m.perform (.statement body .last)
  modify (·.addJob [number])
  return 0

/-- Starts the parts of a pipeline, each of which reads what the one before prints.  `isOpen` says
that the last one prints into a pipe too, whose other end is given. -/
def startParts (m : Means) (manner : Manner) (relation : Relation) (isFirst isOpen : Bool)
    (input : Option Nat) : List Statement → Act (List Nat × Option Nat)
  | [] => return ([], input)
  | body :: rest => do
    let ends ← if rest.isEmpty && !isOpen then pure none else some <$> openPipe
    let number ← startCopy m relation isFirst do
      match ends with
      | some (reading, _) => closeDescriptor reading
      | none => pure ()
      match input with
      | some descriptor => moveDescriptor descriptor 0
      | none => pure ()
      match ends with
      | some (_, writing) => moveDescriptor writing 1
      | none => pure ()
      let _ ← m.perform (.statement body { manner with isLast := true })
    match input with
    | some descriptor => closeDescriptor descriptor
    | none => pure ()
    match ends with
    | some (_, writing) => closeDescriptor writing
    | none => pure ()
    let (numbers, reading) ← startParts m manner relation false isOpen (ends.map (·.1)) rest
    return (number :: numbers, reading)

/-- Evaluates a pipeline whose last part is evaluated by the shell itself, and gives the statuses of
its parts. -/
def evaluateWithLast (m : Means) (manner : Manner) (parts : List Statement) : Act (List Nat) := do
  match parts.getLast? with
  | none => return []
  | some last =>
    let (numbers, reading) ← startParts m manner .awaited true true none parts.dropLast
    let kept ← saveDescriptor 0
    match reading with
    | some descriptor => moveDescriptor descriptor 0
    | none => pure ()
    let status ← closing (restoreDescriptors [kept]) do
      m.perform (.statement last manner.inner)
    return (← awaitProcesses numbers) ++ [status]

/-- Evaluates a pipeline. -/
def evaluatePipeline (m : Means) (manner : Manner) (parts : List Statement)
    (inBackground : Bool) : Act Nat := do
  let s ← get
  if inBackground then
    let (numbers, _) ← startParts m manner .background true false none parts
    modify (·.addJob numbers)
    return 0
  let statuses ← if s.isWide && s.does "lastpipe" then evaluateWithLast m manner parts
    else do awaitProcesses (← startParts m manner .awaited true false none parts).1
  modify ({ · with statuses := statuses })
  let last := statuses.getLast?.getD 0
  if s.isWide && s.does "pipefail" then return (statuses.reverse.find? (· != 0)).getD 0
  return last

/-- Evaluates a statement with redirections around it. -/
def evaluateRedirected (m : Means) (manner : Manner) (line : Nat) (body : Statement)
    (redirections : List Redirection) : Act Nat := do
  noteLine line
  let start ← get
  let targets ← expandRedirections m redirections
  let (status, saved) ← redirectSafely m targets
  let finish : Act Unit := do
    restoreDescriptors saved
    if start.isWide then closeChannels start.channels
  closing finish do
    if status != 0 then return status
    m.perform (.statement body manner.inner)

/-! ## Statements of the wide dialect -/

/-- Evaluates arithmetic in a word; nothing if it makes no sense. -/
def evaluateReckoning (m : Means) (expression : Word) : Act (Option Int) := do
  let text ← expandText m .nowhere expression
  trace m [] (octets "(( " ++ (text.dropWhile (· == ' ')) ++ octets " ))")
  match ← tryReckon text with
  | .ok value => return some value
  | .error failure =>
    complain (octets "((: " ++ failure.message)
    return none

/-- Evaluates a loop that counts, up to its end. -/
def loopCounted (m : Means) (manner : Manner) (line : Nat) (condition step : Word)
    (body : Statement) (depth fuel status : Nat) : Act Nat :=
  match fuel with
  | 0 => return status
  | fuel + 1 => do
    noteLine line
    onEvent m beforeCommand
    let value? ← if condition.isEmpty then pure (some 1) else evaluateReckoning m condition
    match value? with
    | none => return 1
    | some 0 => return status
    | some _ =>
      let goOn (status : Nat) : Act Nat := do
        noteLine line
        onEvent m beforeCommand
        if !step.isEmpty && (← evaluateReckoning m step).isNone then return 1
        loopCounted m manner line condition step body depth fuel status
      match ← loopPart m manner depth body with
      | .leave => leftStatus
      | .again => goOn 0
      | .next status => goOn status

/-- Blanks from one column to another one. -/
def indentation (column target : Nat) : Octets :=
  let nextStop := (column / 8 + 1) * 8
  if target ≤ column then []
  else if target / 8 ≤ column / 8 then List.replicate (target - column) ' '
  else '\t' :: List.replicate ((target / 8 * 8 - nextStop) / 8) '\t'
    ++ List.replicate (target % 8) ' '

/-- The lines that show choices with their numbers, in columns. -/
def menuLines (width : Nat) (choices : List Octets) : List Octets :=
  let count := choices.length
  let size (n : Nat) : Nat := (numeral n).length
  let widest := (choices.map List.length).foldl max 0 + size count + 4
  let columns := max 1 (width / widest)
  let rows := (count + columns - 1) / columns
  let columns := (count + rows - 1) / max 1 rows
  let (rows, columns) := if rows == 1 then (columns, 1) else (rows, columns)
  let entry (place : Nat) (width : Nat) : Octets :=
    let number := numeral (place + 1)
    List.replicate (width - number.length) ' ' ++ number ++ octets ") " ++ choices.getD place []
  (List.range rows).map fun row =>
    let places := ((List.range columns).map fun c => row + c * rows).filter (· < count)
    let cells := places.map fun place => (place, entry place (size (if place == row then rows else count)))
    let ends (place : Nat) : Bool := places.getLast? == some place
    (cells.foldl (fun (line, start) (place, text) =>
      if ends place then (line ++ text, start)
      else (line ++ text ++ indentation (start + text.length) (start + widest), start + widest))
      (([] : Octets), 0)).1

/-- Asks for one of several choices, and gives it; nothing at the end of the answers. -/
def askChoice (choices : List Octets) (fuel : Nat) (shows : Bool) : Act (Option Octets) :=
  match fuel with
  | 0 => return none
  | fuel + 1 => do
    let s ← get
    if shows then
      let width := ((s.get? "COLUMNS").bind Octets.natural?).getD 80
      for line in menuLines width choices do writeErrors (line ++ ['\n'])
    writeErrors ((s.get? "PS3").getD (octets "#? "))
    let line ← readWhole false Run.patience ⟨[], false, false⟩
    assign "REPLY" (Field.text line.parts.reverse)
    if !line.isDone then
      printLine []
      let _ ← flushOutput
      return none
    match (← get).get? "REPLY" with
    | none | some [] => askChoice choices fuel true
    | some answer =>
      match wideNumber? answer with
      | some n =>
        return some (if n < 1 then [] else (choices[n.toNat - 1]?).getD [])
      | none => return some []

/-- Evaluates a loop over answers, up to its end. -/
def loopMenu (m : Means) (manner : Manner) (name : String) (choices : List Octets)
    (body : Statement) (depth fuel : Nat) (shows : Bool) : Act Nat :=
  match fuel with
  | 0 => return 0
  | fuel + 1 => do
    match ← askChoice choices manyRounds shows with
    | none => return 1
    | some choice =>
      assign name choice
      let goOn : Act Nat := do
        let isEmpty := ((← get).get? "REPLY").getD [] == []
        loopMenu m manner name choices body depth fuel isEmpty
      match ← loopPart m manner depth body with
      | .leave => leftStatus
      | .again => goOn
      | .next _ => goOn

/-- A time as minutes and seconds. -/
def minuteText (nanoseconds : Nat) : String :=
  let thousandths := nanoseconds / 1000000
  let digits := toString (thousandths % 1000)
  toString (thousandths / 60000) ++ "m" ++ toString (thousandths / 1000 % 60) ++ "."
    ++ String.ofList (List.replicate (3 - digits.length) '0') ++ digits ++ "s"

/-- Evaluates a statement, and says how long that took. -/
def evaluateTimed (m : Means) (manner : Manner) (isShort : Bool) (body : Option Statement) :
    Act Nat := do
  let start ← look (·.now)
  let status ← match body with
    | some body => m.perform (.statement body manner.inner)
    | none => pure 0
  let spent := (← look (·.now)) - start
  if isShort then
    let hundredths := toString (spent / 10000000 % 100)
    let zero := if hundredths.length < 2 then "0" else ""
    writeErrors (octets ("real " ++ toString (spent / 1000000000) ++ "." ++ zero ++ hundredths
      ++ "\nuser 0.00\nsys 0.00\n"))
  else
    writeErrors (octets ("\nreal\t" ++ minuteText spent ++ "\nuser\t0m0.000s\nsys\t0m0.000s\n"))
  return status

/-- Whether a text can be the name of the variable of a loop, with a complaint if not. -/
def checkLoopName (name : String) : Act Bool := do
  if !(← get).isWide || Word.isName (octets name) then return true
  complain (notIdentifier (octets name))
  return false

/-- Evaluates a statement by its kind.  It is also said whether its failure ends a shell that is
ended by failures. -/
def evaluateKind (m : Means) (manner : Manner) (s : Statement) : Act (Nat × Bool) := do
  let sub (body : Statement) (manner : Manner) : Act Nat := m.perform (.statement body manner)
  match s with
  | .simple line assignments words redirections =>
    if (← get).isWide then
      noteLine line
      onEvent m beforeCommand
    return (← evaluateSimple m manner line assignments words redirections, true)
  | .redirected line body redirections =>
    return (← evaluateRedirected m manner line body redirections, false)
  | .background line body redirections =>
    return (← evaluateBehind m line body redirections, true)
  | .subshell line body redirections =>
    return (← evaluateApart m manner line body redirections, true)
  | .pipeline parts inBackground =>
    return (← evaluatePipeline m manner parts inBackground, true)
  | .negated body =>
    return (if (← sub body .tested) == 0 then 1 else 0, false)
  | .both first second =>
    let status ← sub first .tested
    if status != 0 then return (status, false)
    return (← sub second manner, false)
  | .either first second =>
    let status ← sub first .tested
    if status == 0 then return (status, false)
    return (← sub second manner, false)
  | .sequence first second =>
    let _ ← sub first manner.inner
    return (← sub second manner, false)
  | .branch condition consequence alternative =>
    if (← sub condition .tested) == 0 then return (← sub consequence manner, false)
    match alternative with
    | some body => return (← sub body manner, false)
    | none => return (0, false)
  | .loop untilHolds condition body =>
    return (← asLoop fun depth =>
      loopOver m manner.inner untilHolds condition body depth manyRounds 0, false)
  | .each line name words body =>
    noteLine line
    if !(← checkLoopName name) then return (1, true)
    let start ← get
    let values ← words.mapM (expandFields m)
    let before : Act Unit := do
      if start.isWide then
        noteLine line
        onEvent m beforeCommand
        trace m [] (octets ("for " ++ name ++ " in ")
          ++ Octets.join [' '] (words.map Word.written))
    let status ← asLoop fun depth =>
      loopEach m manner.inner name before body depth 0 values.flatten
    if start.isWide then closeChannels start.channels
    return (status, false)
  | .choose line subject cases =>
    noteLine line
    let s ← get
    if s.isWide then
      onEvent m beforeCommand
      trace m [] (octets "case " ++ Word.written subject ++ octets " in")
    let text ← expandText m .atStart subject
    let folds := s.isWide && s.does "nocasematch"
    let text := if folds then text.map Char.toLower else text
    let style := { s.patternStyle with foldsCase := folds }
    let chosen ← chosenCases m style text cases
    return (← evaluateCases m manner style text (cases.length + 1) 0 chosen, false)
  | .define _ name body =>
    modify fun s =>
      let source := if s.isWide && s.calls.isEmpty then octets "environment" else s.sourceName
      { s with functions := (name, ⟨body, source⟩) :: s.functions.filter (·.1 != name) }
    return (0, false)
  | .verdict line condition =>
    noteLine line
    onEvent m beforeCommand
    match ← judge m (trace m []) manyRounds condition with
    | some true => return (0, true)
    | some false => return (1, true)
    | none => return (2, true)
  | .reckon line expression =>
    noteLine line
    onEvent m beforeCommand
    match ← evaluateReckoning m expression with
    | some 0 | none => return (1, true)
    | some _ => return (0, true)
  | .counted line start condition step body =>
    noteLine line
    onEvent m beforeCommand
    if !start.isEmpty && (← evaluateReckoning m start).isNone then return (1, false)
    return (← asLoop fun depth =>
      loopCounted m manner.inner line condition step body depth manyRounds 0, false)
  | .menu line name words body =>
    noteLine line
    if !(← checkLoopName name) then return (1, true)
    let values := (← words.mapM (expandFields m)).flatten
    if values.isEmpty then return (0, false)
    return (← asLoop fun depth =>
      loopMenu m manner.inner name values body depth manyRounds true, false)
  | .timed isShort body => return (← evaluateTimed m manner isShort body, false)

/-- Whether a statement has a status of its own that is kept with those of the parts of pipelines. -/
def hasOwnStatus : Statement → Bool
  | .simple .. | .subshell .. | .verdict .. | .reckon .. | .define .. => true
  | _ => false

/-- Evaluates a statement, and does what is to be done on signals before and after it. -/
def evaluateStatement (m : Means) (manner : Manner) (s : Statement) : Act Nat := do
  let status ← if (← get).has 'n' then pure 0 else do
    runTraps m
    let (status, isChecked) ← evaluateKind m manner s
    modify fun t => { t with
      status := status
      statuses := if hasOwnStatus s then [status] else t.statuses }
    runTraps m
    if isChecked && status != 0 && !manner.isTested then
      onEvent m afterFailure
      if (← get).has 'e' then throw .ended
    pure status
  if manner.isLast then throw .ended
  return status

/-! ## Scripts -/

/-- What stands before a complaint about a line of the script that makes no sense. -/
def Memory.placeText (s : Memory) (line : Nat) : Octets :=
  let place := if s.place.isEmpty then "" else s.place ++ ": "
  s.sourceName ++ octets (": " ++ place ++ "line " ++ toString line ++ ": ")

/-- Reads the next statements of a script.  There is a status if they make no sense. -/
def readStatement (source : Source) : Act (Except Nat (Option Statement) × Source) := do
  let s ← get
  let source := { source with
    takesGroups := s.isWide && s.does "extglob"
    documents := s.documents
    nextDocument := s.nextDocument
    aliases := if s.isWide && !s.does "expand_aliases" then [] else s.aliases }
  let (result, rest) := ((Source.nextStatement).run).run source
  if s.isWide then
    for (line, warning) in rest.warnings do
      writeErrors (s.sourceName ++ octets (": line " ++ toString line ++ ": ") ++ warning ++ ['\n'])
  match result with
  | .ok statement =>
    modify ({ · with documents := rest.documents, nextDocument := rest.nextDocument })
    if s.has 'v' then
      writeErrors (source.rest.take (source.rest.length - rest.rest.length))
    return (.ok statement, { rest with warnings := [] })
  | .error fault =>
    if s.isWide then
      for (line, message) in (fault.line, fault.message) :: fault.further do
        writeErrors (s.placeText line ++ message ++ ['\n'])
      modify ({ · with status := 2 })
      return (.error 2, rest)
    modify ({ · with errorLine := fault.line })
    fail (octets "Syntax error: " ++ fault.message)

/-- Does something with statements that were read together.  The wide dialect goes on after those
that have been given up, but copies of a shell end. -/
def goingOn (act : Act Nat) : Act Nat := do
  match ← attempt act with
  | .ok status => return status
  | .error jump =>
    let s ← get
    if !s.isWide || (jump != .discarded && jump != .failed) then throw jump
    if s.copies != 0 then throw .ended
    return s.status

/-- Evaluates the statements of a text, the last one as the manner says. -/
def evaluateText (m : Means) (manner : Manner) (fuel : Nat) (source : Source) (status : Nat) :
    Act Nat :=
  match fuel with
  | 0 => return status
  | fuel + 1 => do
    let (statement?, source) ← readStatement source
    match statement? with
    | .error status => return status
    | .ok none =>
      if source.isFinished then return status else evaluateText m manner fuel source status
    | .ok (some statement) =>
      let status ← goingOn
        (m.perform (.statement statement (if source.isFinished then manner else manner.inner)))
      if source.isFinished then return status
      evaluateText m manner fuel source status

/-- Evaluates the statements of a script up to its end, or until it is left. -/
def evaluateScript (m : Means) (fuel : Nat) (source : Source) (status : Nat) : Act Nat :=
  match fuel with
  | 0 => return status
  | fuel + 1 => do
    let (statement?, source) ← readStatement source
    match statement? with
    | .error status => return status
    | .ok none => if source.isFinished then return status else evaluateScript m fuel source status
    | .ok (some statement) =>
      match ← attempt (goingOn (m.perform (.statement statement .plain))) with
      | .ok status =>
        if source.isFinished then return status else evaluateScript m fuel source status
      | .error .returned => return (← get).status
      | .error jump => throw jump

/-- Evaluates work. -/
def performStep (m : Means) : Work → Act Nat
  | .statement s manner => evaluateStatement m manner s
  | .text script manner => do
    let s ← get
    let line := if s.isWide then s.errorLine else 1
    evaluateText m manner manyRounds (.ofOctets s.dialect script line) 0
  | .script source => evaluateScript m manyRounds source 0

/-- Evaluates work, down to some depth. -/
def perform (start : Invocation → Run Nat) (fuel : Nat) (work : Work) : Act Nat :=
  match fuel with
  | 0 => fail (octets "too deep")
  | fuel + 1 => performStep ⟨perform start fuel, start⟩ work

end Flowscript.Shell
