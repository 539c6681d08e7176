import SiteScript.Text.Basic

/-!
# SiteScript.Script.Comments

Scripts without their comments.  A comment is a whole line whose first character other than a blank is
`#`; a `#` further on is part of its line and stays.
-/

namespace SiteScript.Script

open Text

/-- Whether a line is a comment. -/
def isComment (line : List Char) : Bool :=
  startsWithChar '#' (trim line)

/-- The script without its comment lines; all other lines stay as they are. -/
def stripComments (code : String) : String :=
  String.ofList (join '\n' ((lines code).filter fun line => !isComment line))

end SiteScript.Script
