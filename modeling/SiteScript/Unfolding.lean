import SiteScript.Error
import SiteScript.Log
import SiteScript.Modules

/-!
# SiteScript.Unfolding

What loading a script amounts to, before anything is done.  Following the directives in source order,
and each `load` into the scripts it names that are not loaded yet, gives one sequence of steps:
assignments, functions, actions at top level, and reports.  The sequence depends on the scripts alone;
running it is a matter of its own (`SiteScript.Execution`).

* A script is marked as loaded before its directives are followed, so a cycle of loads comes to an end.
* Inside a body, actions are kept for the function; assignments and loads act at once.
* Of a body that another one interrupts, or that the end of the file leaves open, nothing remains.
-/

namespace SiteScript

/-- One step of a run. -/
inductive Step where
  | assign (key value : String)
  /-- Give a function its body. -/
  | define (name : String) (body : List Action)
  /-- Do something at top level. -/
  | perform (action : Action)
  | report (line : LogLine)
deriving DecidableEq

/-- The steps so far and the scripts loaded by then. -/
structure Unfolding where
  steps : List Step := []
  loaded : List String := []
deriving DecidableEq

namespace Unfolding

/-- Add a step. -/
def add (unfolding : Unfolding) (step : Step) : Unfolding :=
  { unfolding with steps := unfolding.steps ++ [step] }

/-- Mark a script as loaded. -/
def mark (unfolding : Unfolding) (path : String) : Unfolding :=
  { unfolding with loaded := path :: unfolding.loaded }

/-- How a script is loaded after some steps. -/
abbrev Loader := Unfolding → String → Unfolding

/-- Load the scripts a module's name stands for, one after another. -/
def loadModule (load : Loader) (sources : FileMap) (packagesDir : String) (unfolding : Unfolding)
    (name : String) : Unfolding :=
  let loadFile (kind : String) (unfolding : Unfolding) (path : String) : Unfolding :=
    let unfolding :=
      if unfolding.loaded.contains path then unfolding
      else unfolding.add (.report (.info ("Loading " ++ kind ++ " file: " ++ path)))
    load unfolding path
  match Resolution.find sources packagesDir name with
  | .package files => files.foldl (loadFile "package") unfolding
  | .file path => loadFile "single" unfolding path
  | .missing =>
    unfolding.add (.report (.error ("Could not find file or package \"" ++ name ++ "\".")))

/-- The body that is open: the name of its function and the actions kept so far. -/
abbrev OpenBody := Option (String × List Action)

/-- Follow one directive. -/
def follow (loadModules : Unfolding → List String → Unfolding) (state : Unfolding × OpenBody) :
    Directive → Unfolding × OpenBody
  | .assign key value => (state.1.add (.assign key value), state.2)
  | .beginFunction name =>
    match state.2 with
    | some (unclosed, _) =>
      (state.1.add (.report (.warn ("':start: " ++ name ++ "' inside unclosed function '" ++
        unclosed ++ "', which is discarded"))), some (name, []))
    | none => (state.1, some (name, []))
  | .endFunction =>
    match state.2 with
    | some (name, body) => (state.1.add (.define name body), none)
    | none => state
  | .load modules => (loadModules state.1 modules, state.2)
  | .act action =>
    match state.2 with
    | some (name, body) => (state.1, some (name, body ++ [action]))
    | none => (state.1.add (.perform action), none)

/-- Follow what a script says; a malformed directive is reported and passed over. -/
def followAll (loadModules : Unfolding → List String → Unfolding) (path : String)
    (unfolding : Unfolding) (results : List (Except Script.ParseError Directive)) : Unfolding :=
  let (unfolding, unclosed) := results.foldl (fun state result =>
    match result with
    | .ok directive => follow loadModules state directive
    | .error error => (state.1.add (.report (.error (Error.ofParse error).message)), state.2))
    (unfolding, (none : OpenBody))
  match unclosed with
  | some (name, _) =>
    unfolding.add (.report (.warn (path ++ ": function '" ++ name ++
      "' is missing ':end:' and was discarded")))
  | none => unfolding

/-- Load a script.  `fuel` bounds how deep loads are nested. -/
def loadFile (sources : FileMap) (packagesDir : String) : Nat → Loader
  | 0, unfolding, _ => unfolding
  | fuel + 1, unfolding, path =>
    if unfolding.loaded.contains path then unfolding
    else
      let marked := unfolding.mark path
      match sources.get? path with
      | none => marked.add (.report (.error ("Source file " ++ path ++ " is not in the bundle")))
      | some text =>
        let loadModules (unfolding : Unfolding) (modules : List String) : Unfolding :=
          modules.foldl (loadModule (loadFile sources packagesDir fuel) sources packagesDir) unfolding
        followAll loadModules path marked (Script.parse path text)

/-- Enough fuel for any loads among some scripts: of nested loads each is of a script that was not
loaded before. -/
def fuelFor (sources : FileMap) : Nat := sources.size + 1

/-- Load a script after others. -/
def ofFile (sources : FileMap) (packagesDir : String) (loaded : List String) (path : String) :
    Unfolding :=
  loadFile sources packagesDir (fuelFor sources) { loaded } path

/-- Load a module after some scripts. -/
def ofModule (sources : FileMap) (packagesDir : String) (loaded : List String) (name : String) :
    Unfolding :=
  loadModule (loadFile sources packagesDir (fuelFor sources)) sources packagesDir { loaded } name

end Unfolding

end SiteScript
