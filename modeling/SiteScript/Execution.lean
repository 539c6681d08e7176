import SiteScript.Unfolding
import SiteScript.Web.Listening

/-!
# SiteScript.Execution

Running a script.  `perform` does one action; an action that fails is reported and the run goes on.  A
function that calls another one goes one level deeper, and calls more than `maxDepth` levels deep are
refused, so every action comes to an end whatever functions call each other.

Loading a script runs the steps of its unfolding.
-/

namespace SiteScript.Context

/-- How deep functions may call each other. -/
def maxDepth : Nat := 64

/-- How an action went, and the run after it. -/
abbrev Outcome := Except Error Unit × Context

variable (context : Context)

/-- An action that changes files.  `told` words its failure. -/
def changeFiles (change : Sandbox.Change) (told : HostError → Error) : Outcome :=
  match change with
  | (.ok (), files) => (.ok (), { context with files })
  | (.error error, files) => (.error (told error), { context with files })

/-- A failure of an action, told with what was to be done. -/
def told (what : String) (error : HostError) : Error :=
  .directive (what ++ ": " ++ error.message)

/-- Text in double quotes. -/
def inQuotes (text : String) : String := "\"" ++ text ++ "\""

/-- Run a shell command in the workspace, and wait for it or not. -/
def runCommand (command : String) (wait : Bool) : Outcome :=
  let (result, context) :=
    if wait then context.runAwaited command else context.runInBackground command
  (result.mapError (told ("Command failed " ++ inQuotes command)), context)

/-! ## Databases -/

/-- The handle a connection is kept under. -/
def handle (id : String) : String := id ++ "_query"

/-- How a connection is to be opened: by its address, or by host and account. -/
def connectionConfig (config : Block) : Except String Database.Config :=
  match config.get? "url" with
  | some url => .ok { url }
  | none =>
    Database.Config.mysql (config.getD "host" "") (config.getD "user" "") (config.getD "password" "")
      (config.getD "database" "")

/-- Open a connection to a database, if its address tells the kind. -/
def openConnection (config : Database.Config) : Except String Connection × Context :=
  match Database.kind? config.url with
  | some kind => (context.machine.connect context.moment kind config, context.asked)
  | none => (.error Database.kindUnknown, context)

/-- Open a connection and keep it. -/
def connect (id : String) (config : Block) : Outcome :=
  let failed (message : String) : Except Error Unit :=
    .error (.directive ("Connection " ++ inQuotes id ++ " failed: " ++ message))
  match connectionConfig (context.bindings.substituteBlock config) with
  | .error message => (failed message, context)
  | .ok config =>
    match context.openConnection config with
    | (.error message, context) => (failed message, context)
    | (.ok connection, context) =>
      let context := context.info ("Connection '" ++ id ++ "' ready as " ++ handle id)
      (.ok (), context.addConnection (handle id) connection)

/-- Ask a connection, and keep the rows in a variable when the block names one. -/
def query (id : String) (config : Block) : Outcome :=
  match context.connections.get? (handle id) with
  | none => (.error (.directive ("No connection named " ++ inQuotes id)), context)
  | some connection =>
    match connection.query context.moment (context.substitute (config.getD "sql" "")) with
    | .error message =>
      (.error (.directive ("Query on " ++ inQuotes id ++ " failed: " ++ message)), context.asked)
    | .ok rows =>
      match (config.get? "into").filter (!·.isEmpty) with
      | some into => (.ok (), context.asked.setVariable into (Json.array rows).compact)
      | none => (.ok (), context.asked)

/-! ## Actions -/

/-- Declare a route.  Its block is kept as it is written. -/
def declareApi (name : String) (config : Block) : Outcome :=
  match Web.Declaration.ofBlock name config with
  | .error error => (.error error, context)
  | .ok declaration => (.ok (), { context with apis := context.apis.register declaration })

/-- Start a server with the settings of a block. -/
def startWeb (path : String) (config : Block) : Outcome :=
  let config := context.bindings.substituteBlock config
  match Web.ServerDecl.ofBlock (context.substitute path) config with
  | .error error => (.error error, context)
  | .ok decl => (.ok (), context.startServer decl)

/-- Call a function every so many seconds from now on. -/
def scheduleCall (seconds : Nat) (function : String) : Context :=
  (context.info ("Scheduled '" ++ function ++ "' every " ++ Decimal.text seconds ++ "s")).keepAlive
    (.schedule context.clock seconds function)

/-- Do an action; `call` calls a function. -/
def execute (call : String → Context → Outcome) (context : Context) : Action → Outcome
  | .log message =>
    (.ok (), context.print (Bytes.ofText (context.substitute message ++ "\n")))
  | .copyFile source target =>
    let source := context.substitute source
    let target := context.substitute target
    context.changeFiles (context.box.copyFile context.files source target)
      (told ("Could not copy " ++ inQuotes source ++ " to " ++ inQuotes target))
  | .moveFile source target =>
    let source := context.substitute source
    let target := context.substitute target
    context.changeFiles (context.box.moveFile context.files source target)
      (told ("Could not move " ++ inQuotes source ++ " to " ++ inQuotes target))
  | .deleteFile path =>
    let path := context.substitute path
    context.changeFiles (context.box.deleteFile context.files path)
      (told ("Could not delete " ++ inQuotes path))
  | .deleteFolder path =>
    let path := context.substitute path
    context.changeFiles (context.box.deleteFolder context.files path)
      (told ("Could not delete folder " ++ inQuotes path))
  | .addFolder path =>
    context.changeFiles (context.box.createFolder context.files (context.substitute path)) .host
  | .addFile path =>
    context.changeFiles (context.box.createFile context.files (context.substitute path)) .host
  | .editFile path content =>
    context.changeFiles (context.box.writeFile context.files (context.substitute path)
      (context.substitute content).toUTF8) .host
  | .run command wait => context.runCommand (context.substitute command) wait
  | .call name => call name context
  | .schedule seconds function => (.ok (), context.scheduleCall seconds function)
  | .connect id config => context.connect id config
  | .query id config => context.query id config
  | .declareApi name config => context.declareApi name config
  | .startWeb path config => context.startWeb path config

/-- Do an action and report its failure. -/
def performWith (call : String → Context → Outcome) (context : Context) (action : Action) :
    Context :=
  match execute call context action with
  | (.ok (), context) => context
  | (.error error, context) => context.error error.message

/-- There is no such function. -/
def functionMissing (name : String) : Error :=
  .directive ("Function " ++ inQuotes name ++ " was not found for direct execution.")

/-- The function would be called too deep. -/
def tooDeep (name : String) : Error :=
  .directive ("Function " ++ inQuotes name ++ " exceeded the call depth of " ++ Decimal.text maxDepth)

/-- Call a function with so many levels left: its actions are done in order. -/
def callWithin : Nat → String → Context → Outcome
  | levels, name, context =>
    match context.functions.get? name with
    | none => (.error (functionMissing name), context)
    | some body =>
      match levels with
      | 0 => (.error (tooDeep name), context)
      | levels + 1 => (.ok (), body.foldl (performWith (callWithin levels)) context)

/-- Call a function at a depth. -/
def callFunction (name : String) (depth : Nat) : Outcome :=
  callWithin (maxDepth - depth) name context

/-- Do an action at a depth, and report its failure. -/
def perform (action : Action) (depth : Nat) : Context :=
  performWith (callWithin (maxDepth - depth)) context action

/-! ## Scripts -/

/-- Take one step. -/
def step (context : Context) : Step → Context
  | .assign key value => context.setVariable key value
  | .define name body => context.define name body
  | .perform action => context.perform action 0
  | .report line => context.report line

/-- Take the steps of an unfolding. -/
def follow (unfolding : Unfolding) : Context :=
  unfolding.steps.foldl step { context with loaded := unfolding.loaded }

/-- Load a script, unless it was loaded before. -/
def loadSource (path : String) : Context :=
  context.follow (.ofFile context.sources context.config.packagesDir context.loaded path)

/-- Load a module. -/
def loadModule (name : String) : Context :=
  context.follow (.ofModule context.sources context.config.packagesDir context.loaded name)

/-! ## Time -/

/-- Whether a schedule is due: a whole number of periods, and at least one, has passed. -/
def isDue (start period now : Nat) : Bool :=
  start < now && period != 0 && (now - start) % period == 0

/-- Let a task do what is due. -/
def tick (context : Context) : Task → Context
  | .schedule start period function =>
    if isDue start period context.clock then
      match context.callFunction function 0 with
      | (.ok (), context) => context
      | (.error error, context) => context.error ("schedule: " ++ error.message)
    else context
  | _ => context

/-- Let a second pass. -/
def second : Context :=
  context.tasks.foldl tick { context with clock := context.clock + 1 }

/-- Let seconds pass, one at a time. -/
def advance (context : Context) : Nat → Context
  | 0 => context
  | seconds + 1 => advance context.second seconds

end SiteScript.Context
