import SiteScript.Log
import SiteScript.Machine
import SiteScript.Modules
import SiteScript.Variables
import SiteScript.Web.Server

/-!
# SiteScript.Context

The state of a run: the scripts and the workspace it began with, and everything that directives,
requests and the passing of time change.
-/

namespace SiteScript

/-- How a bundle is run. -/
structure RunConfig where
  /-- The script to begin with; the manifest names it otherwise. -/
  mainFile : Option String := none
  packagesDir : String := "tont-packets"
  /-- How long to wait at the end of a run that nothing keeps alive, in milliseconds. -/
  grace : Nat := 1000
deriving DecidableEq

/-- What became of a server. -/
inductive ServerStatus where
  /-- A listener was bound to this address. -/
  | listening (address : String)
  | failed
deriving DecidableEq

/-- What a server is marked as when its listener was to be bound. -/
def ServerStatus.ofBinding : Binding → ServerStatus
  | .bound address => .listening address
  | .refused _ | .unnamed _ => .failed

/-- Something that keeps a run alive. -/
inductive Task where
  /-- Call a function again and again, beginning one period after the start. -/
  | schedule (start period : Nat) (function : String)
  /-- Answer requests. -/
  | listener (server : Web.Server)
  /-- Answer encrypted requests to a server. -/
  | secureListener (id : String)

/-- The state of a run. -/
structure Context where
  machine : Machine
  config : RunConfig
  /-- The scripts of the bundle. -/
  sources : FileMap
  box : Sandbox
  files : FileSystem
  bindings : Variables := .empty
  functions : Dictionary (List Action) := .empty
  /-- The scripts that were loaded, the latest first. -/
  loaded : List String := []
  apis : Web.Registry := {}
  servers : Dictionary ServerStatus := .empty
  connections : Dictionary Connection := .empty
  tasks : List Task := []
  /-- The commands that were started and not waited for, and have not ended yet. -/
  background : List String := []
  ids : IdSupply
  /-- How often the machine was asked for something. -/
  moment : Nat := 0
  /-- Seconds since the run began. -/
  clock : Nat := 0
  log : List LogLine := []
  /-- What was printed. -/
  output : Bytes := []

namespace Context

/-- The state before anything is done, with the bundle unpacked at a root. -/
def start (machine : Machine) (files : FileMap) (root : Location) (fs : FileSystem)
    (config : RunConfig) (ids : IdSupply) : Context :=
  { machine, config, ids, files := fs, box := ⟨root⟩
    sources := files.filter fun path _ => isScriptPath path }

variable (context : Context)

/-- The machine was asked for something. -/
def asked : Context := { context with moment := context.moment + 1 }

/-- Report something. -/
def report (line : LogLine) : Context := { context with log := context.log ++ [line] }

/-- Report progress. -/
def info (message : String) : Context := context.report (.info message)

/-- Report something doubtful. -/
def warn (message : String) : Context := context.report (.warn message)

/-- Report a failure. -/
def error (message : String) : Context := context.report (.error message)

/-- Print bytes. -/
def print (bytes : Bytes) : Context := { context with output := context.output ++ bytes }

/-- Whether the bundle has a script of this path. -/
def hasSource (path : String) : Bool := context.sources.contains path

/-- What a module's name stands for. -/
def resolve (name : String) : Resolution :=
  .find context.sources context.config.packagesDir name

/-- Give a variable a value. -/
def setVariable (key value : String) : Context :=
  { context with bindings := context.bindings.insert key value }

/-- A text with the values of variables put in. -/
def substitute (text : String) : String := context.bindings.substitute text

/-- Give a function its body. -/
def define (name : String) (body : List Action) : Context :=
  { context with functions := context.functions.insert name body }

/-- Whether a script was loaded. -/
def isLoaded (path : String) : Bool := context.loaded.contains path

/-- Mark a script as loaded; false when it was before. -/
def markLoaded (path : String) : Bool × Context :=
  if context.isLoaded path then (false, context)
  else (true, { context with loaded := path :: context.loaded })

/-- Say what became of a server. -/
def setStatus (id : String) (status : ServerStatus) : Context :=
  { context with servers := context.servers.insert id status }

/-- Keep the run alive. -/
def keepAlive (task : Task) : Context := { context with tasks := context.tasks ++ [task] }

/-- Whether anything keeps the run alive. -/
def keepsAlive : Bool := !context.tasks.isEmpty

/-- Keep a connection under a handle. -/
def addConnection (handle : String) (connection : Connection) : Context :=
  { context with connections := context.connections.insert handle connection }

/-- Stop what keeps the run alive and close the connections. -/
def shutdown : Context := { context with tasks := [], connections := .empty }

end Context

end SiteScript
