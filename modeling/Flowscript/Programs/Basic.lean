import Flowscript.Programs.Shell.Program
import Flowscript.Programs.Tool.Archiving
import Flowscript.Programs.Tool.Arguments
import Flowscript.Programs.Tool.Blocks
import Flowscript.Programs.Tool.Comparing
import Flowscript.Programs.Tool.Compressing
import Flowscript.Programs.Tool.Measure
import Flowscript.Programs.Tool.Difference.Basic
import Flowscript.Programs.Tool.Digests
import Flowscript.Programs.Tool.Dumping
import Flowscript.Programs.Tool.Editing.Basic
import Flowscript.Programs.Tool.Encoding
import Flowscript.Programs.Tool.Testing
import Flowscript.Programs.Tool.Sequence
import Flowscript.Programs.Tool.Fields
import Flowscript.Programs.Tool.Files
import Flowscript.Programs.Tool.Processes
import Flowscript.Programs.Tool.Matching.Basic
import Flowscript.Programs.Tool.Mode
import Flowscript.Programs.Tool.Lines
import Flowscript.Programs.Tool.OptionWords
import Flowscript.Programs.Tool.Paging.Basic
import Flowscript.Programs.Tool.Paths
import Flowscript.Programs.Tool.Pieces
import Flowscript.Programs.Tool.Printing
import Flowscript.Programs.Tool.Record.Basic
import Flowscript.Programs.Tool.Scaling
import Flowscript.Programs.Tool.Search
import Flowscript.Programs.Tool.Sections
import Flowscript.Programs.Tool.Shuffling
import Flowscript.Programs.Tool.Sorting
import Flowscript.Programs.Tool.Surroundings
import Flowscript.Programs.Tool.Transfer
import Flowscript.Programs.Tool.Translating

/-!
# Programs for a host

The shells and the tools that recipes and build programs call.  A host can have any programs; these
are one choice, and nothing about pipelines, tables and scripts depends on it.

* `Tool.catalog` are the programs other than shells, by their names.
* `startProgram` starts a program, and `Programs.standard` are all of them.
-/

set_option autoImplicit false

namespace Flowscript

namespace Tool

/-- Programs about programs, and those that do what the shell could do itself. -/
def processTools : List (String × Procedure) :=
  [("env", envTool), ("nohup", nohupTool), ("nice", niceTool), ("setsid", setsidTool),
    ("sleep", sleepTool), ("timeout", timeoutTool), ("xargs", xargsTool), ("echo", echoTool),
    ("printf", printfTool), ("test", testTool false), ("[", testTool true),
    ("true", statusTool 0), ("false", statusTool 1), ("sync", syncTool), ("yes", yesTool),
    ("kill", killTool), ("stdbuf", bufferTool), ("flock", flockTool), ("getopt", getoptTool)]

/-- Programs that tell where one is. -/
def surroundingTools : List (String × Procedure) :=
  [("id", identityTool), ("groups", groupsTool), ("logname", loginTool), ("tty", terminalTool),
    ("whoami", constantTool 1 "root"), ("hostid", constantTool 1 "007f0101"),
    ("hostname", hostNameTool), ("nproc", countOfUnitsTool), ("arch", constantTool 1 "x86_64"),
    ("uname", systemTool), ("printenv", variablesTool), ("which", whereTool)]

/-- Programs about text. -/
def textTools : List (String × Procedure) :=
  [("cat", catTool), ("tac", tacTool), ("head", headTool), ("tail", tailTool), ("tee", teeTool),
    ("split", splitTool), ("csplit", sectionTool), ("dd", blockTool),
    ("cut", cutTool), ("paste", pasteTool), ("join", joinTool), ("fold", foldTool),
    ("rev", reverseTool), ("expand", expandTool), ("unexpand", unexpandTool), ("nl", numberTool), ("tr", translateTool),
    ("grep", matchingTool none), ("egrep", matchingTool (some .extended)),
    ("fgrep", matchingTool (some .fixed)), ("sed", editTool), ("awk", recordTool),
    ("mawk", recordTool), ("wc", countTool), ("sort", sortTool), ("uniq", uniqueTool),
    ("comm", commonTool), ("numfmt", numfmtTool), ("shuf", shuffleTool),
    ("seq", sequenceTool), ("factor", factorTool), ("expr", expressionTool),
    ("cmp", compareTool), ("diff", differenceTool), ("od", dumpTool), ("pr", pageTool)]

/-- Programs that turn bytes into letters and numbers. -/
def digestTools : List (String × Procedure) :=
  [("cksum", checksumTool), ("sum", sumTool), ("md5sum", digestTool .md5),
    ("sha1sum", digestTool .sha1), ("sha224sum", digestTool (.sha2 "SHA224" .sha224)),
    ("sha256sum", digestTool (.sha2 "SHA256" .sha256)),
    ("sha384sum", digestTool (.sha2 "SHA384" .sha384)),
    ("sha512sum", digestTool (.sha2 "SHA512" .sha512)), ("b2sum", digestTool (.blake2 64)),
    ("base64", encodeTool .base64), ("base32", encodeTool .base32), ("basenc", chooseCodeTool)]

/-- Programs about files. -/
def fileTools : List (String × Procedure) :=
  [("basename", baseNameTool), ("dirname", directoryNameTool), ("readlink", readLinkTool),
    ("realpath", realPathTool), ("pathchk", pathchkTool), ("pwd", workingTool), ("mktemp", temporaryTool),
    ("mkdir", makeDirectoryTool), ("rmdir", removeDirectoryTool), ("rm", removeTool),
    ("unlink", unlinkTool), ("cp", copyTool), ("mv", moveTool), ("ln", linkTool),
    ("link", nameTool), ("mkfifo", pipeTool), ("mknod", nodeTool), ("install", installTool), ("touch", touchTool),
    ("truncate", truncateTool), ("chmod", modeTool), ("chown", ownerTool false),
    ("chgrp", ownerTool true), ("ls", listTool), ("stat", describeTool), ("du", usageTool),
    ("find", searchTool), ("date", dateTool),
    ("gzip", packTool []), ("gunzip", packTool [octets "-d"]), ("zcat", packTool [octets "-cd"]),
    ("tar", archiveTool)]

/-- The programs other than shells, by their names. -/
def catalog : List (String × Procedure) := processTools ++ surroundingTools ++ textTools ++ digestTools ++ fileTools

/-- The names of shells. -/
def shells : List String := ["sh", "dash", "bash"]

/-- The names of all programs. -/
def names : List String := shells ++ catalog.map (·.1)

end Tool

/-- Starts a program, down to some depth of programs that start programs. -/
def startProgram (depth : Nat) (i : Invocation) : Run Nat :=
  match depth with
  | 0 => pure 126
  | depth + 1 =>
    if Tool.shells.contains i.program then shellProgram (startProgram depth) i
    else
      match Tool.catalog.lookup i.program with
      | some tool => Tool.run tool (startProgram depth) i
      | none => pure 127

/-- More programs than start one another. -/
def manyPrograms : Nat := 1000000000

/-- Shells and tools. -/
def Programs.standard : Programs := ⟨Tool.names, startProgram manyPrograms⟩

end Flowscript
