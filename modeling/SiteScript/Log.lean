/-!
# SiteScript.Log

What a run reports, line by line.
-/

namespace SiteScript

/-- How much a report matters. -/
inductive LogLevel where
  | error | warn | info
deriving DecidableEq

/-- How a level is written. -/
def LogLevel.text : LogLevel → String
  | .error => "ERROR"
  | .warn => "WARN"
  | .info => "INFO"

/-- One report. -/
structure LogLine where
  level : LogLevel
  message : String
deriving DecidableEq

namespace LogLine

/-- A report of progress. -/
def info (message : String) : LogLine := ⟨.info, message⟩

/-- A report of something doubtful. -/
def warn (message : String) : LogLine := ⟨.warn, message⟩

/-- A report of a failure. -/
def error (message : String) : LogLine := ⟨.error, message⟩

/-- A report as a line. -/
def text (line : LogLine) : String := line.level.text ++ " " ++ line.message

end LogLine

end SiteScript
