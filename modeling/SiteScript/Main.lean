import SiteScript.CommandLine
import SiteScript.Rehearsal

/-!
# SiteScript.Main

The program.  What the command line works on is read from the machine before, and what it changed is
written back after; everything between is `CommandLine.execute`, on the machine of `SiteScript.Rehearsal`.
-/

namespace SiteScript.Main

/-- Add what stands at a location of the machine, and everything below it. -/
partial def gather (files : FileSystem) (location : Location) : IO FileSystem := do
  let path ← IO.FS.realPath (Path.ofLocation location).text
  if ← path.isDir then
    let files := files.put location .directory
    if Project.skippedDirs.contains (location.getLastD "") then return files
    (← path.readDir).foldlM (fun files entry => gather files (location ++ [entry.fileName])) files
  else if ← path.pathExists then
    return files.put location (.plain (← IO.FS.readBinFile path))
  else return files

/-- Add a directory and those above it. -/
def addDirectory (files : FileSystem) (location : Location) : FileSystem :=
  (List.range location.length).foldl
    (fun files depth => files.put (location.take (depth + 1)) .directory) files

/-- The part of the machine that a path leads to; nothing when it leads nowhere. -/
def snapshot (workingDir : Location) (text : Option String) : IO FileSystem := do
  let files := addDirectory .empty workingDir
  match text with
  | none => return files
  | some text =>
    try
      let path ← IO.FS.realPath (Path.ofText workingDir text).text
      let location := segmentsOf path.toString
      gather (addDirectory files location.dropLast) location
    catch _ => return files

/-- Whether two entries are the same. -/
def same : Entry → Entry → Bool
  | .directory, .directory => true
  | .file a _, .file b _ => Bytes.ofArray a == Bytes.ofArray b
  | _, _ => false

/-- Write what differs from before to the machine, the oldest entries first. -/
def writeBack (before after : FileSystem) : IO Unit :=
  after.entries.reverse.forM fun (location, entry) => do
    if !(before.get? location).any (same entry) then
      match entry with
      | .directory => IO.FS.createDirAll (Path.ofLocation location).text
      | .file content _ => IO.FS.writeBinFile (Path.ofLocation location).text content
      | .link _ => return

/-- A number from bytes. -/
def seed (bytes : ByteArray) : Nat := Bytes.ofLittleEndian (Bytes.ofArray bytes)

end SiteScript.Main

open SiteScript in
/-- Run the program: results go to the standard output, reports to the error output. -/
def main (args : List String) : IO UInt32 := do
  let workingDir := segmentsOf (← IO.currentDir).toString
  let files ← Main.snapshot workingDir ((CommandLine.parse? args).bind CommandLine.Invocation.path?)
  let random ← IO.getRandomBytes 48
  let bytes := Bytes.ofArray random
  let host : Run.Host :=
    { machine := Rehearsal.machine, files
      root := ["tmp", IdSupply.uuid (Main.seed random) 0]
      ids := .ofSeed (Main.seed random) }
  let ending := CommandLine.execute
    { host, workingDir, vectors := (bytes.take 16, (bytes.drop 16).take 16) } args
  Main.writeBack files ending.files
  ending.log.forM fun line => IO.eprintln line.text
  let output ← IO.getStdout
  output.write (Bytes.toArray ending.output)
  output.flush
  if ending.status = CommandLine.usageStatus then IO.eprint CommandLine.Topic.program.text
  return UInt32.ofNat ending.status
