import SiteScript.FileSystem.Fault
import SiteScript.Decimal
import SiteScript.Script.Parser
import SiteScript.Script.Check

/-!
# SiteScript.Error

Failures and their wording.  What goes wrong inside the library is a cause of its own type; here the
causes meet, each with the one text it is reported by.
-/

namespace SiteScript

/-- A failure of something the host machine does for a script. -/
inductive HostError where
  | io (fault : FileFault)
  /-- A path that climbs out of the workspace. -/
  | sandbox (path : String)
  | command (message : String)
  | database (message : String)
deriving DecidableEq

/-- The wording of a host failure. -/
def HostError.message : HostError → String
  | .io fault => "IO error: " ++ fault.message
  | .sandbox path => "Path escapes sandbox: " ++ path
  | .command message => "Command failed: " ++ message
  | .database message => message

/-- A failure of the library. -/
inductive Error where
  /-- A script that fails the check before a build. -/
  | syntaxCheck (file : String) (line : Nat) (message : String)
  /-- A bundle that cannot be opened. -/
  | corruptBundle (message : String)
  /-- A malformed directive. -/
  | parse (file : String) (line : Nat) (message : String)
  /-- An action that failed; it is reported and the script goes on. -/
  | directive (message : String)
  /-- A listener that could not be started. -/
  | listener (message : String)
  | config (message : String)
  | io (fault : FileFault)
  /-- A failure at a path that belongs to the message. -/
  | ioAt (fault : FileFault) (path : String)
  | host (error : HostError)
  /-- A failure while doing something larger. -/
  | inContext (context message : String)
deriving DecidableEq

namespace Error

/-- The wording of a failure. -/
def message : Error → String
  | .syntaxCheck file line message =>
    "Syntax Error in " ++ file ++ " on line " ++ Decimal.text line ++ ": " ++ message
  | .corruptBundle message => "Corrupt bundle: " ++ message
  | .parse file line message =>
    "Parse error in " ++ file ++ " on line " ++ Decimal.text line ++ ": " ++ message
  | .directive message => "Directive error: " ++ message
  | .listener message => "Listener error: " ++ message
  | .config message => "Configuration error: " ++ message
  | .io fault => "I/O error: " ++ fault.message
  | .ioAt fault path => "I/O error: " ++ fault.message ++ " at path " ++ path
  | .host error => error.message
  | .inContext context message => context ++ ": " ++ message

/-- The failure, told as part of something larger. -/
def withContext (error : Error) (context : String) : Error :=
  .inContext context error.message

/-- A malformed directive as a failure. -/
def ofParse (error : Script.ParseError) : Error :=
  .parse error.file error.line error.fault.message

/-- A flaw of a file found by the check. -/
def ofCheck (file : String) (error : Script.CheckError) : Error :=
  .syntaxCheck file error.line error.flaw.message

end Error

end SiteScript
