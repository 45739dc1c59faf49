import Flowscript.Text.Basic
import Flowscript.Text.Quoted

/-!
# Tables and their variables

How variables are written in a text, and the tables whose cells may use them.

* `Variable.tokens` splits a text into characters and variables.
* `Variable.isVariable` says that a text is one variable and nothing more.
* `Variable.substitute` puts values in place of the variables that have one.
* `Table.parseWith` reads a table, or names the first fault.
* `Row.resolved` is a cell with its variables replaced.
* `Table.dataColumns` and `Table.variableColumns` sort the columns by kind.
-/

set_option autoImplicit false

namespace Flowscript

/-! ## Variables

A variable is written `$(name)`, with a name that holds neither brackets nor blanks. -/

namespace Variable

/-- A character of a text, or a variable in it with its dollar and brackets. -/
inductive Token where
  | char (c : Char)
  | variable (text : String)
  deriving DecidableEq, Repr

/-- What the name of a variable may hold. -/
def isNameChar (c : Char) : Bool := c != '(' && c != ')' && !Text.isBlank c

/-- The variable at the start of a text, and what follows it. -/
def variableAt? : List Char → Option (String × List Char)
  | '$' :: '(' :: cs =>
    match cs.takeWhile isNameChar, cs.dropWhile isNameChar with
    | [], _ => none
    | name, ')' :: rest => some (String.ofList ('$' :: '(' :: name ++ [')']), rest)
    | _, _ => none
  | _ => none

theorem length_of_variableAt? {cs rest : List Char} {name : String}
    (h : variableAt? cs = some (name, rest)) : rest.length < cs.length := by
  unfold variableAt? at h
  split at h
  · rename_i cs'
    have hle : (cs'.dropWhile isNameChar).length ≤ cs'.length :=
      (List.dropWhile_suffix _).length_le
    split at h
    · simp at h
    · rename_i hrest _
      simp only [Option.some.injEq, Prod.mk.injEq] at h
      rw [hrest, h.2, List.length_cons] at hle
      simp only [List.length_cons]
      omega
    · simp at h
  · simp at h

/-- The characters and variables of a text, from left to right. -/
def tokens (cs : List Char) : List Token :=
  match h : variableAt? cs with
  | some (name, rest) =>
    have := length_of_variableAt? h
    .variable name :: tokens rest
  | none =>
    match cs with
    | [] => []
    | c :: cs => .char c :: tokens cs
termination_by cs.length
decreasing_by all_goals simp_all

/-- Whether a text is one variable and nothing more. -/
def isVariable (text : String) : Bool :=
  match variableAt? text.toList with
  | some (_, rest) => rest.isEmpty
  | none => false

/-- The text that a token stands for: the value of a variable that has one, else itself. -/
def Token.expand (value : String → Option String) : Token → List Char
  | .char c => [c]
  | .variable name => ((value name).getD name).toList

/-- A text with values in place of the variables that have one.  Values are not looked at for
variables. -/
def substitute (value : String → Option String) (text : String) : String :=
  String.ofList ((tokens text.toList).flatMap (Token.expand value))

end Variable

/-! ## Tables

A table is a text of lines, and each line a list of cells.  The first line that is not blank names
the columns; one of them is `id`, and its cells tell the rows apart.  A column whose name is a
variable gives each row a value for it, which other cells of the row may use. -/

/-- What separates the cells of a line unless another character is named. -/
def Table.defaultDelimiter : Char := '|'

/-- The column that tells the rows apart. -/
def Table.idColumn : String := "id"

/-- What keeps a row id from naming a directory and a make target. -/
inductive RowIdFault where
  | empty
  | relative
  | separator
  | character
  deriving DecidableEq, Repr

/-- The wording of a fault. -/
def RowIdFault.message : RowIdFault → String
  | .empty => "id is empty"
  | .relative => "id is a relative path component"
  | .separator => "id contains a path separator"
  | .character => "id may only contain letters, digits, '_', '.' and '-'"

/-- What is wrong with a table. -/
inductive TableError where
  | empty
  | raggedRow (line expected found : Nat)
  | duplicateHeader (header : String)
  | missingIdColumn
  | duplicateRowId (id : String)
  | invalidRowId (line : Nat) (id : String) (fault : RowIdFault)
  /-- The file cannot be read. -/
  | unreadable (path : String)
  deriving DecidableEq, Repr

/-- The wording of an error. -/
def TableError.message : TableError → String
  | .empty => "Table is empty"
  | .raggedRow line expected found =>
    "Row on line " ++ toString line ++ " has " ++ toString found ++ " cells, expected "
      ++ toString expected
  | .duplicateHeader header => "Duplicate column header: " ++ header
  | .missingIdColumn => "Table has no '" ++ Table.idColumn ++ "' column"
  | .duplicateRowId id => "Duplicate row id: " ++ id
  | .invalidRowId line id fault =>
    "Invalid row id " ++ Text.quoted id ++ " on line " ++ toString line ++ ": " ++ fault.message
  | .unreadable path => "I/O error on " ++ path

/-- A row: each column with the cell under it. -/
structure Row where
  cells : List (String × String)
  deriving DecidableEq, Repr

namespace Row

/-- The cell under a column. -/
def get? (r : Row) (column : String) : Option String := r.cells.lookup column

/-- The cell that tells the row apart. -/
def id (r : Row) : String := (r.get? Table.idColumn).getD ""

/-- A text with the row's cells in place of the variables that name a column. -/
def substitute (r : Row) (text : String) : String := Variable.substitute r.get? text

/-- The cell under a column, with its variables replaced. -/
def resolved? (r : Row) (column : String) : Option String := (r.get? column).map r.substitute

end Row

/-- A table: the columns in order and the rows in order. -/
structure Table where
  headers : List String
  rows : List Row
  deriving DecidableEq, Repr

namespace Table

/-- The cells of a line. -/
def cellsOf (delimiter : Char) (line : List Char) : List String :=
  (Text.splitAt (· == delimiter) line).map fun cell => String.ofList (Text.trimChars cell)

/-- The lines that are not blank, with their numbers counted from one. -/
def numberedLines (text : String) : List (Nat × List Char) :=
  ((Text.lines text.toList).zipIdx 1).filterMap fun (line, n) =>
    if Text.isAllBlank line then none else some (n, line)

/-- The first name that comes a second time. -/
def repeated? (passed : List String) : List String → Option String
  | [] => none
  | name :: rest => if passed.contains name then some name else repeated? (name :: passed) rest

/-- What is wrong with a row id, if anything is. -/
def rowIdFault? (id : String) : Option RowIdFault :=
  if id.isEmpty then some .empty
  else if id == "." || id == ".." then some .relative
  else if id.toList.any fun c => c == '/' || c == '\\' then some .separator
  else if !Text.isPlainName id then some .character
  else none

/-- Reads the row of a line, given the ids of the rows before it. -/
def parseRow (delimiter : Char) (headers ids : List String) (number : Nat) (line : List Char) :
    Except TableError Row :=
  let cells := cellsOf delimiter line
  if cells.length != headers.length then
    .error (.raggedRow number headers.length cells.length)
  else
    let row : Row := ⟨headers.zip cells⟩
    match rowIdFault? row.id with
    | some fault => .error (.invalidRowId number row.id fault)
    | none => if ids.contains row.id then .error (.duplicateRowId row.id) else .ok row

/-- Reads the rows of the lines after the header, given the ids of the rows before them. -/
def parseRows (delimiter : Char) (headers ids : List String) :
    List (Nat × List Char) → Except TableError (List Row)
  | [] => .ok []
  | (number, line) :: rest => do
    let row ← parseRow delimiter headers ids number line
    .ok (row :: (← parseRows delimiter headers (row.id :: ids) rest))

/-- Reads a table whose cells are separated by the given character. -/
def parseWith (delimiter : Char) (text : String) : Except TableError Table :=
  match numberedLines text with
  | [] => .error .empty
  | (_, header) :: rest =>
    let headers := cellsOf delimiter header
    match repeated? [] headers with
    | some header => .error (.duplicateHeader header)
    | none =>
      if !headers.contains idColumn then .error .missingIdColumn
      else do .ok ⟨headers, ← parseRows delimiter headers [] rest⟩

/-- Reads a table whose cells are separated by `|`. -/
def parse (text : String) : Except TableError Table := parseWith defaultDelimiter text

/-- Whether a column exists. -/
def hasColumn (t : Table) (column : String) : Bool := t.headers.contains column

/-- The columns that pipelines can use. -/
def dataColumns (t : Table) : List String :=
  t.headers.filter fun h => h != idColumn && !Variable.isVariable h

/-- The columns that give values to variables. -/
def variableColumns (t : Table) : List String := t.headers.filter Variable.isVariable

/-- The row of an id. -/
def row? (t : Table) (id : String) : Option Row := t.rows.find? (·.id == id)

end Table

end Flowscript
