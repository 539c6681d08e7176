import SiteScript.Text.Basic
import SiteScript.Dictionary

/-!
# SiteScript.FileMap

The files of a project: texts by their relative path, in order of the paths.
-/

namespace SiteScript

/-- Texts by relative path. -/
abbrev FileMap := Dictionary String

/-- The extension of script files. -/
def scriptExtension : String := "tont"

/-- Whether a path names a script: what follows its last dot is the extension of scripts. -/
def isScriptPath (path : String) : Bool :=
  match Text.cutLast? '.' path.toList with
  | some (_, extension) => extension == scriptExtension.toList
  | none => false

end SiteScript
