import Flowscript.Path
import Flowscript.Script.Rule

/-!
# Build scripts

A build script is a makefile: variables that list its files, fixed targets that set up, clean and
count, and the rules.

* `BuildScript` is a script with its parts still apart.
* `BuildScript.text` is the makefile.
-/

set_option autoImplicit false

namespace Flowscript

/-- A build script for the rows of a table.  `arguments` are the files that the setup writes, each
with its text. -/
structure BuildScript where
  name : String
  outputRoot : String
  options : ScriptOptions
  rows : List String
  rules : List Rule
  targets : List String
  intermediates : List String
  arguments : List (String × String)
  deriving DecidableEq, Repr

namespace BuildScript

/-- Where the script is written. -/
def path (s : BuildScript) : String := Path.join s.outputRoot Layout.scriptFile

/-- The files that the setup writes. -/
def argumentPaths (s : BuildScript) : List String := s.arguments.map Prod.fst

/-- How a character is written in a quoted word of a recipe: the shell ends and starts the quotes
around a quote, and make takes two dollars for one. -/
def quotedChar : Char → List Char
  | '\x27' => ['\x27', '\\', '\x27', '\x27']
  | '$' => ['$', '$']
  | c => [c]

/-- A text as one word of a recipe. -/
def shellQuote (text : String) : String :=
  "'" ++ String.ofList (text.toList.flatMap quotedChar) ++ "'"

/-- A variable that lists items, one on each line. -/
def listVariable (name : String) (items : List String) : String :=
  name ++ " :=" ++ String.join (items.map (" \\\n\t" ++ ·)) ++ "\n"

/-- The comment on the first line; it names the pipeline. -/
def title (s : BuildScript) : String :=
  "# Build script for pipeline '" ++ s.name ++ "', generated by pipeforge.\n"

/-- The variables of the layout and the lists of files. -/
def preamble (s : BuildScript) : String :=
  "# Run `make setupall` before building `all`.\n\n"
    ++ "SHELL := " ++ s.options.shell ++ "\n"
    ++ "OUTPUT := " ++ Path.trimSlashes s.outputRoot ++ "/\n"
    ++ "PROCESSING := $(OUTPUT)" ++ Layout.processingDirectory ++ "/\n"
    ++ "ERRORS := $(OUTPUT)" ++ Layout.errorsDirectory ++ "/\n\n"
    ++ listVariable "TARGETS" s.targets
    ++ listVariable "INTERMEDIATES" s.intermediates
    ++ listVariable "ARGS" s.argumentPaths

/-- A recipe line that makes directories, if there are any to make. -/
def makeDirectories (directories : List String) : String :=
  if directories.isEmpty then "" else "\tmkdir -p " ++ Rule.spaced directories ++ "\n"

/-- The recipe line that writes the file of an argument. -/
def writeArgument (argument : String × String) : String :=
  "\tprintf '%s' " ++ shellQuote argument.2 ++ " > " ++ argument.1 ++ "\n"

/-- The target that makes the directories, takes old markers away and writes the arguments. -/
def setupTarget (s : BuildScript) : String :=
  "setupall:\n"
    ++ makeDirectories (s.rows.map Layout.rowDirectory)
    ++ "\trm -rf $(ERRORS)\n"
    ++ makeDirectories (s.rows.map Layout.rowErrors)
    ++ String.join (s.arguments.map writeArgument)
    ++ "\t: > " ++ Layout.inOutput Layout.outputLog ++ "\n"
    ++ "\t: > " ++ Layout.inOutput Layout.errorLog ++ "\n\n"

/-- The targets that do not depend on what is built. -/
def fixedTargets : String :=
  "cleanall:\n"
    ++ "\trm -f $(TARGETS) $(INTERMEDIATES) $(ARGS)\n"
    ++ "\trm -rf $(ERRORS)\n\n"
    ++ "target_ratio:\n"
    ++ "\t@echo \"$(words $(wildcard $(TARGETS))) / $(words $(TARGETS))\"\n\n"
    ++ "intermediate_ratio:\n"
    ++ "\t@echo \"$(words $(wildcard $(TARGETS) $(INTERMEDIATES))) / "
    ++ "$(words $(TARGETS) $(INTERMEDIATES))\"\n\n"

/-- All of the script but its title. -/
def body (s : BuildScript) : String :=
  s.preamble
    ++ "\n.PHONY: all setupall cleanall target_ratio intermediate_ratio\n"
    ++ ".DEFAULT_GOAL := all\n\n"
    ++ "all: $(TARGETS)\n\n"
    ++ s.setupTarget
    ++ fixedTargets
    ++ String.join (s.rules.map (·.text s.options.keepGoing))

/-- The makefile. -/
def text (s : BuildScript) : String := s.title ++ s.body

end BuildScript

end Flowscript
