import Flowscript.Pipeline.Identifier

/-!
# The layout of an output root

All files of an analysis lie in its output root, and the build script names them relative to it
with three variables: `OUTPUT` for the root itself, `PROCESSING` for the files between source and
result, one directory for each row, and `ERRORS` for the markers of failed modules.

* `rowDirectory`, `artifact`, `marker` and `inOutput` are paths in the language of the script.
* `scriptFile` and its like are names on disk.
-/

set_option autoImplicit false

namespace Flowscript.Layout

/-- The name of the build script in the output root. -/
def scriptFile : String := "Makefile"

/-- What the main build wrote to its standard output. -/
def outputLog : String := "STDOUT.txt"

/-- What the main build wrote to its standard error. -/
def errorLog : String := "STDERR.txt"

/-- The directory of the files between source and result. -/
def processingDirectory : String := "processing"

/-- The directory of the markers of failed modules. -/
def errorsDirectory : String := "errors"

/-- The directory of a row's files. -/
def rowDirectory (row : String) : String := "$(PROCESSING)" ++ row

/-- The directory of a row's markers. -/
def rowErrors (row : String) : String := "$(ERRORS)" ++ row

/-- The file of an output of a block for a row. -/
def artifact (row : String) (block : BlockId) (index : Nat) (suffix : String) : String :=
  rowDirectory row ++ "/" ++ block.text ++ "_" ++ toString index ++ suffix

/-- The marker that a module failed for a row. -/
def marker (row : String) (block : BlockId) : String := rowErrors row ++ "/" ++ block.text

/-- A file in the output root. -/
def inOutput (file : String) : String := "$(OUTPUT)" ++ file

end Flowscript.Layout
