import SiteScript.Bundle
import SiteScript.Execution
import SiteScript.Manifest
import SiteScript.Workspace

/-!
# SiteScript.Run

A bundle from its first line to its last: it is unpacked into a workspace, the script to begin with is
loaded, and at the end the workspace is removed.
-/

namespace SiteScript.Run

/-- The script to begin with: the one that was asked for, the one the manifest names, or the default,
which is reported. -/
def mainFile (context : Context) : String × Context :=
  match context.config.mainFile with
  | some main => (main, context)
  | none =>
    let fallback := " Using " ++ Manifest.defaultMain ++ " as fallback."
    match Manifest.load context.box context.files with
    | .ok (some manifest) => (manifest.main, context)
    | .ok none =>
      (Manifest.defaultMain, context.warn (Manifest.fileName ++ " not found." ++ fallback))
    | .error error => (Manifest.defaultMain, context.warn (error.message ++ "." ++ fallback))

/-- Load the script to begin with. -/
def loadMain (context : Context) : Context :=
  let (main, context) := mainFile context
  if context.hasSource main then context.loadSource main
  else context.error ("Main file '" ++ main ++ "' was not found in the archive.")

/-- Where a run takes place: the machine and the file system around it, the place of its workspace,
and where its identifiers come from. -/
structure Host where
  machine : Machine
  files : FileSystem
  root : Location
  ids : IdSupply

/-- Start a file map. -/
def startFiles (host : Host) (files : FileMap) (config : RunConfig) : Except Error Context :=
  match Workspace.materialize host.root host.files files with
  | (.error error, _) => .error error
  | (.ok (), fs) =>
    let context := Context.start host.machine files host.root fs config host.ids
    .ok (loadMain (context.info ("Workspace ready at " ++
      Text.quoted (Path.ofLocation host.root).text ++ " (" ++ Decimal.text files.size ++ " files)")))

/-- Start a bundle; one that is damaged fails before anything is done. -/
def start (host : Host) (bundle : Bytes) (config : RunConfig) : Except Error Context :=
  match Bundle.decode bundle with
  | .error error => .error error
  | .ok files => startFiles host files config

/-- A span of milliseconds: whole milliseconds below a second, seconds with the digits they need above
it. -/
def spanText (milliseconds : Nat) : String :=
  if milliseconds = 0 then "0ns"
  else if milliseconds < 1000 then Decimal.text milliseconds ++ "ms"
  else
    let fraction := (Decimal.ofNat (1000 + milliseconds % 1000)).drop 1
    let digits := Text.dropEndWhile (· == '0') fraction
    String.ofList (Decimal.ofNat (milliseconds / 1000) ++
      (if digits.isEmpty then [] else '.' :: digits) ++ ['s'])

/-- Say how the run goes on once everything is started. -/
def tellWait (context : Context) : Context :=
  if context.keepsAlive then context.info "All tasks scheduled. Waiting for completion..."
  else
    context.info ("No long-running tasks found. The process will terminate in " ++
      spanText context.config.grace ++ ".")

/-- Wait for the end of the run; the commands in the background end by then. -/
def wait (context : Context) : Context := (tellWait context).endCommands

/-- End a run: stop everything and remove the workspace. -/
def shutdown (context : Context) : Except Error Unit × Context :=
  let context := context.shutdown
  match Workspace.close context.box.root context.files with
  | .ok files => (.ok (), { context with files })
  | .error error => (.error error, context)

/-- Run a bundle to its end. -/
def toEnd (host : Host) (bundle : Bytes) (config : RunConfig) :
    Except Error Unit × Option Context :=
  match start host bundle config with
  | .error error => (.error error, none)
  | .ok context =>
    let (closed, context) := shutdown (wait context)
    (closed.mapError (·.withContext "cleanup"), some context)

end SiteScript.Run
