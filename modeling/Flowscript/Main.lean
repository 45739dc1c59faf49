import Flowscript.CommandLine.Execution
import Flowscript.Programs.Basic

/-!
# The program

The files below the working directory are taken as they are, the command line is followed, and what
it changed is written back.  Files that start with `#!` can be run.  Nothing else on the disk is
looked at, so paths that lead out of the working directory lead to the standard host.
-/

set_option autoImplicit false

namespace Flowscript.Program

/-- Whether bytes are those of a script that names the program to run it. -/
def startsScript (content : ByteArray) : Bool :=
  content.data[0]? == some 35 && content.data[1]? == some 33

/-- Takes a file or directory, and all that is in it, to the same path of a host. -/
partial def take (h : Host) (directory : String) (entry : IO.FS.DirEntry) : IO Host := do
  let path := Path.join directory entry.fileName
  if ← entry.path.isDir then
    (← entry.path.readDir).foldlM (fun h e => take h path e) (h.makeDirectories path).2
  else
    let content ← IO.FS.readBinFile entry.path
    match h.tree.writeBytes h.directory path content with
    | .error _ => return h
    | .ok tree =>
      return h.setTree (if startsScript content then tree.allowRunning h.directory path else tree)

/-- A host with the files below the working directory. -/
def snapshot : IO Host := do
  let directory ← IO.currentDir
  let (_, h) := (Host.standard .standard).makeDirectories directory.toString
  let node := (h.tree.find h.directory directory.toString true).toOption.getD h.directory
  let h := { h with directory := node, workingPath := directory.toString }
  (← directory.readDir).foldlM (fun h e => take h "" e) h

/-- What is below the working directory of a host. -/
def listing (h : Host) : List String := (h.tree.listing? h.directory ".").getD []

/-- Writes back what is not the same any more, directories before what is in them. -/
def writeBack (before after : Host) : IO Unit := do
  let old := listing before
  let new := listing after
  for path in old.reverse do
    unless new.contains path do
      if Path.endsInSlash path then IO.FS.removeDir path else IO.FS.removeFile path
  for path in new do
    if Path.endsInSlash path then IO.FS.createDirAll path
    else
      match after.readBytes? path with
      | none => pure ()
      | some content =>
        unless before.readBytes? path == some content do IO.FS.writeBinFile path content

end Flowscript.Program

open Flowscript in
/-- Follows the command line. -/
def main (arguments : List String) : IO UInt32 := do
  let before ← Program.snapshot
  let (report, after) := CommandLine.execute Duration.text arguments before
  Program.writeBack before after
  (← IO.getStdout).putStr report.output
  match report.error with
  | some e => IO.eprintln ("Error: " ++ e.message)
  | none => if report.code == 2 then IO.eprintln "Error: the command line cannot be read"
  return report.code.toUInt32
