import SiteScript.Dictionary

/-!
# SiteScript.Script.Directive

What a script says.  A script is a list of directives; a directive assigns a variable, opens or closes
the body of a function, names modules to load, or is an `Action`: something to do at once at top level
and to keep for later inside a body.
-/

namespace SiteScript

/-- The `key: value` pairs of a block, values without their quotes. -/
abbrev Block := Dictionary String

/-- Something a script does. -/
inductive Action where
  /-- Print a line. -/
  | log (message : String)
  | copyFile (source target : String)
  | moveFile (source target : String)
  | deleteFile (path : String)
  | deleteFolder (path : String)
  | addFolder (path : String)
  | addFile (path : String)
  | editFile (path content : String)
  /-- Run a shell command, and wait for it or not. -/
  | run (command : String) (wait : Bool)
  /-- Call a function of the script. -/
  | call (name : String)
  /-- Call a function again and again. -/
  | schedule (seconds : Nat) (function : String)
  /-- Open a database connection. -/
  | connect (id : String) (config : Block)
  /-- Ask a connection. -/
  | query (connection : String) (config : Block)
  /-- Declare a route of the web interface. -/
  | declareApi (name : String) (config : Block)
  /-- Start a web server. -/
  | startWeb (path : String) (config : Block)
deriving DecidableEq

/-- One statement of a script. -/
inductive Directive where
  /-- Assign a variable, at once even inside a body. -/
  | assign (key value : String)
  | beginFunction (name : String)
  | endFunction
  /-- Load modules, at once even inside a body. -/
  | load (modules : List String)
  | act (action : Action)
deriving DecidableEq

end SiteScript
