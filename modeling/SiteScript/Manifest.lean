import SiteScript.Json.Fields
import SiteScript.Json.Printer
import SiteScript.Sandbox

/-!
# SiteScript.Manifest

What a project says about itself: its name and version, the script to begin with, and the packages it
uses.  A package is given by where it came from, or pinned to a version.  The manifest is a JSON text;
`ofText` reads it and `toJson` gives the value it is written as.
-/

namespace SiteScript

/-- A package of a project. -/
inductive Dependency where
  /-- Taken from a source, in any version. -/
  | unpinned (source : String)
  /-- Pinned to a version. -/
  | pinned (version : String) (source : Option String)
deriving DecidableEq

namespace Dependency

/-- The version, if the package is pinned. -/
def version? : Dependency → Option String
  | .unpinned _ => none
  | .pinned version _ => some version

/-- The source, if it is given. -/
def source? : Dependency → Option String
  | .unpinned source => some source
  | .pinned _ source => source

/-- How deep the value of a package may be nested: it stands two levels down in a manifest. -/
def maxDepth : Nat := Json.maxDepth - 2

/-- Read a package: a text, or an object with a version.  Unlike the other records, all of it has to
have a value. -/
def ofRaw? (raw : Json.Raw) : Option Dependency :=
  match raw with
  | .string body => (Json.Raw.text? body).map .unpinned
  | .object members => do
    let _ ← Json.Raw.value? maxDepth raw
    let fields ← Json.Raw.objectFields? ["version", "source"] members
    let version ← (← fields.get? "version").string?
    let source ← ((fields.get? "source").map Json.Raw.optionalString?).getD (some none)
    return .pinned version source
  | _ => none

/-- A package as it is written; a source that is not given is left out. -/
def toJson : Dependency → Json
  | .unpinned source => .string source
  | .pinned version none => .object [("version", .string version)]
  | .pinned version (some source) =>
    .object [("version", .string version), ("source", .string source)]

end Dependency

/-- What a project says about itself. -/
structure Manifest where
  name : Option String := none
  version : Option String := none
  /-- The script to begin with. -/
  main : String := "Main.tont"
  dependencies : Dictionary Dependency := .empty
deriving DecidableEq

namespace Manifest

/-- The file a manifest is kept in. -/
def fileName : String := "tontoo.json"

/-- The script to begin with when nothing names one. -/
def defaultMain : String := ({} : Manifest).main

/-- Read a field, or take its default. -/
def field? {α : Type} (fields : Dictionary Json.Raw) (name : String) (default : α)
    (read? : Json.Raw → Option α) : Option α :=
  ((fields.get? name).map read?).getD (some default)

/-- Read a manifest. -/
def ofRaw? (raw : Json.Raw) : Option Manifest := do
  let fields ← raw.fields? ["name", "version", "main", "dependencies"]
  return {
    name := ← field? fields "name" none Json.Raw.optionalString?
    version := ← field? fields "version" none Json.Raw.optionalString?
    main := ← field? fields "main" defaultMain Json.Raw.string?
    dependencies :=
      ← field? fields "dependencies" .empty (Json.Raw.entries? Dependency.ofRaw?) }

/-- The manifest of a text. -/
def ofText (text : String) : Except Error Manifest :=
  match (Json.Raw.parse? text.toList).bind ofRaw? with
  | some manifest => .ok manifest
  | none => .error (.config (fileName ++ " is invalid: not a manifest"))

/-- A text, or `null`. -/
def optional (text : Option String) : Json :=
  (text.map Json.string).getD .null

/-- A manifest as it is written: its fields in their order. -/
def toJson (manifest : Manifest) : Json :=
  .object
    [("name", optional manifest.name), ("version", optional manifest.version),
      ("main", .string manifest.main),
      ("dependencies", .ofDictionary (manifest.dependencies.mapValues fun _ d => d.toJson))]

/-- The manifest in a workspace; none when there is no such file. -/
def load (box : Sandbox) (fs : FileSystem) : Except Error (Option Manifest) :=
  if box.isFile fs fileName then
    match box.readText fs fileName with
    | .error error => .error (.host error)
    | .ok text => (ofText text).map some
  else .ok none

end Manifest

end SiteScript
