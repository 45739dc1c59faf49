import Flowscript.Pipeline.Feeders
import Flowscript.Script.Basic
import Flowscript.Table.Basic

/-!
# Compiling a pipeline

For every row of a table and every sink of a pipeline, the script gets a rule that copies the
result to the file of the sink and a rule for each module that the result depends on.  Sinks come in
the order of their numbers, and within a row each module has one rule, where the way up from the
sinks first gets to it.

* `Compilation.originOf` is the file behind an output port.
* `Compilation.enter` adds the rule of a module, and `Compilation.addSink` those of a sink.
* `compile` makes the whole script or names the first thing that stands in the way.
-/

set_option autoImplicit false

namespace Flowscript

/-- What stands in the way of a script. -/
inductive CompileError where
  | missingRequiredInput (label : String) (block : BlockId) (port : String)
  | missingColumn (column : String)
  | missingCell (row column : String)
  | unsafeFileName (row column value : String)
  | cyclicPipeline (block : BlockId)
  | unknownPort (port : PortRef)
  | template (error : TemplateError)
  /-- A file or directory cannot be written, or the path of the output root is empty. -/
  | inaccessible (path : String)
  deriving DecidableEq, Repr

/-- The wording of an error. -/
def CompileError.message : CompileError → String
  | .missingRequiredInput label block port =>
    "Required input '" ++ port ++ "' of " ++ label ++ " (block " ++ block.text
      ++ ") is not connected"
  | .missingColumn column => "Table has no column '" ++ column ++ "'"
  | .missingCell row column => "Row " ++ row ++ " has an empty '" ++ column ++ "' cell"
  | .unsafeFileName row column value =>
    "Row " ++ row ++ " '" ++ column ++ "' cell " ++ Text.quoted value
      ++ " contains whitespace or one of ':', '#', '%'"
  | .cyclicPipeline block => "Pipeline has a cycle through block " ++ block.text
  | .unknownPort port => "Port not found: " ++ port.text
  | .template error => error.message
  | .inaccessible path => "I/O error on " ++ path

/-- What is compiled. -/
structure Compilation where
  pipeline : Pipeline
  table : Table
  deriving DecidableEq, Repr

/-- The parts of a script gathered so far: rules in order, and each file once, in the order of the
first mention. -/
structure ScriptDraft where
  rules : List Rule
  targets : List String
  intermediates : List String
  arguments : List (String × String)
  deriving DecidableEq, Repr

namespace ScriptDraft

/-- Nothing has been gathered. -/
def empty : ScriptDraft := ⟨[], [], [], []⟩

/-- Adds a rule. -/
def addRule (d : ScriptDraft) (r : Rule) : ScriptDraft := { d with rules := d.rules ++ [r] }

/-- Adds a name to a list unless it is there. -/
def insertName (names : List String) (name : String) : List String :=
  if names.contains name then names else names ++ [name]

/-- Adds a file that the setup writes, unless it is there. -/
def addArgument (d : ScriptDraft) (argument : String × String) : ScriptDraft :=
  if (d.arguments.map Prod.fst).contains argument.1 then d
  else { d with arguments := d.arguments ++ [argument] }

/-- Adds files between source and result. -/
def addIntermediates (d : ScriptDraft) (paths : List String) : ScriptDraft :=
  { d with intermediates := paths.foldl insertName d.intermediates }

end ScriptDraft

/-- The file behind an output port, with its text when the setup writes it. -/
structure Origin where
  path : String
  text : Option String
  deriving DecidableEq, Repr

/-- What a slot of a command gets: the name of the port, its text, and the file behind it. -/
structure SlotValue where
  name : String
  text : String
  origin : Option Origin
  deriving DecidableEq, Repr

namespace Compilation

/-- Characters that make takes for its own. -/
def isUnsafe (c : Char) : Bool := Text.isBlank c || c == ':' || c == '#' || c == '%'

/-- The resolved cell of a row under a column. -/
def cell (c : Compilation) (row : Row) (column : String) : Except CompileError String :=
  if c.table.hasColumn column then .ok ((row.resolved? column).getD "")
  else .error (.missingColumn column)

/-- A cell that names a file: not empty, and one word of make. -/
def fileCell (c : Compilation) (row : Row) (column : String) : Except CompileError String :=
  match c.cell row column with
  | .error e => .error e
  | .ok value =>
    if value.isEmpty then .error (.missingCell row.id column)
    else if value.toList.any isUnsafe then .error (.unsafeFileName row.id column value)
    else .ok value

/-- The file of an output of a block for a row. -/
def artifact (c : Compilation) (row : Row) (block : BlockId) (index : Nat) (format : String) :
    String :=
  Layout.artifact row.id block index (c.pipeline.toolbox.formats.suffix format)

/-- The file behind an output port for a row.  A source of text has a file that the setup
writes. -/
def originOf (c : Compilation) (row : Row) (port : PortRef) : Except CompileError Origin :=
  match c.pipeline.block? port.block with
  | none => .error (.unknownPort port)
  | some b =>
    match b.kind with
    | .source column output =>
      if output.parameter.isArg then
        match c.cell row column with
        | .error e => .error e
        | .ok text => .ok ⟨c.artifact row b.id 0 output.format, some text⟩
      else
        match c.fileCell row column with
        | .error e => .error e
        | .ok path => .ok ⟨path, none⟩
    | .module _ _ outputs =>
      match outputs[port.index]? with
      | none => .error (.unknownPort port)
      | some output => .ok ⟨c.artifact row b.id output.index output.format, none⟩
    | .sink _ _ => .error (.unknownPort port)

/-- What an input of a module block gets: the file behind it, its content where the input takes
text, and nothing where it is not connected and need not be. -/
def inputValue (c : Compilation) (row : Row) (id : BlockId) (definition : ModuleDef) (port : Port) :
    Except CompileError SlotValue :=
  match c.pipeline.feeder? (.input id port.index) with
  | some source =>
    match c.originOf row source with
    | .error e => .error e
    | .ok origin =>
      .ok ⟨port.parameter.name,
        if port.parameter.isArg then "`cat " ++ origin.path ++ "`" else origin.path, some origin⟩
  | none =>
    if port.parameter.required then
      .error (.missingRequiredInput definition.name id port.parameter.name)
    else .ok ⟨port.parameter.name, "", none⟩

/-- What an output of a module block gets: the file that it makes. -/
def outputValue (c : Compilation) (row : Row) (id : BlockId) (port : Port) : SlotValue :=
  ⟨port.parameter.name, c.artifact row id port.index port.format, none⟩

/-- Adds the files behind slots that the setup writes. -/
def addArguments (d : ScriptDraft) (origins : List Origin) : ScriptDraft :=
  origins.foldl (fun d o => match o.text with
    | some text => d.addArgument (o.path, text)
    | none => d) d

/-- Adds the rule of a module block for a row. -/
def addModule (c : Compilation) (row : Row) (d : ScriptDraft) (id : BlockId)
    (definition : ModuleDef) (inputs outputs : List Port) : Except CompileError ScriptDraft :=
  match inputs.mapM (c.inputValue row id definition) with
  | .error e => .error e
  | .ok given =>
    let made := outputs.map (c.outputValue row id)
    let values := (given ++ made).map fun v => (v.name, v.text)
    match definition.template.fill (fun name => values.lookup name) with
    | .error e => .error (.template e)
    | .ok command =>
      let origins := given.filterMap (·.origin)
      let targets := made.map (·.text)
      .ok (((addArguments d origins).addRule
        (.run row.id id definition.name targets (origins.map (·.path)).eraseDups command)
        ).addIntermediates targets)

/-- Follows a step of the walk. -/
def follow (c : Compilation) (row : Row) (d : ScriptDraft) : Visit → Except CompileError ScriptDraft
  | .loop id => .error (.cyclicPipeline id)
  | .enter id =>
    match c.pipeline.block? id with
    | some ⟨_, _, .module definition inputs outputs⟩ =>
      c.addModule row d id definition inputs outputs
    | _ => .ok d

/-- The target of a sink that names the given file. -/
def sinkTarget (file : String) : String :=
  if Path.isAbsolute file then file else Layout.inOutput file

/-- Adds the rules of a sink for a row: its own, and those of the modules it depends on that have
none yet.  A target that has a rule keeps the rule it has, and nothing is added. -/
def addSink (c : Compilation) (row : Row) (state : ScriptDraft × List BlockId) (b : Block) :
    Except CompileError (ScriptDraft × List BlockId) :=
  match b.kind with
  | .sink column input =>
    match c.pipeline.feeder? (.input b.id 0) with
    | none => .error (.missingRequiredInput column b.id input.parameter.name)
    | some source => do
      let target := sinkTarget (← c.fileCell row column)
      let origin ← c.originOf row source
      let d := addArguments state.1 [origin]
      if d.targets.contains target then .ok (d, state.2)
      else
        let d := { d.addRule (.copy target origin.path) with targets := d.targets ++ [target] }
        let (visits, seen) := c.pipeline.walk [] state.2 source.block
        let d ← visits.foldlM (c.follow row) d
        .ok (d, seen)
  | _ => .ok state

/-- The sinks by number. -/
def sortedSinks (c : Compilation) : List Block :=
  c.pipeline.sinks.mergeSort fun a b => a.id.number ≤ b.id.number

/-- Adds the rules of a row. -/
def addRow (c : Compilation) (d : ScriptDraft) (row : Row) : Except CompileError ScriptDraft := do
  let (d, _) ← c.sortedSinks.foldlM (c.addSink row) (d.addRule (.directory row.id), [])
  .ok d

/-- The rules of all rows. -/
def draft (c : Compilation) : Except CompileError ScriptDraft :=
  c.table.rows.foldlM c.addRow .empty

end Compilation

/-- The build script of a pipeline over a table.  An output root that is not absolute lies in the
working directory. -/
def compile (options : ScriptOptions) (pipeline : Pipeline) (table : Table)
    (workingDirectory outputRoot : String) : Except CompileError BuildScript :=
  match Path.absolute? workingDirectory outputRoot with
  | none => .error (.inaccessible outputRoot)
  | some root => do
    let d ← (Compilation.mk pipeline table).draft
    .ok ⟨pipeline.name, root, options, table.rows.map (·.id), d.rules, d.targets, d.intermediates,
      d.arguments⟩

end Flowscript
