import SiteScript.FileMap

/-!
# SiteScript.Modules

What the name of a module stands for: all scripts of an installed package, or else one script at the
top of the bundle.
-/

namespace SiteScript

/-- What a module's name stands for. -/
inductive Resolution where
  /-- The scripts of a package, in the order of their paths. -/
  | package (files : List String)
  | file (path : String)
  | missing
deriving DecidableEq

namespace Resolution

/-- Find what a name stands for among the scripts of a bundle. -/
def find (sources : FileMap) (packagesDir name : String) : Resolution :=
  let base := packagesDir ++ "/" ++ name ++ "/"
  let ending := "." ++ scriptExtension
  let package := sources.keys.filter fun path =>
    Text.startsWith base.toList path.toList && Text.endsWith ending.toList path.toList
  if package.isEmpty then
    let path := name ++ ending
    if sources.contains path then .file path else .missing
  else .package package

/-- The scripts a name stands for. -/
def files : Resolution → List String
  | .package files => files
  | .file path => [path]
  | .missing => []

end Resolution

end SiteScript
