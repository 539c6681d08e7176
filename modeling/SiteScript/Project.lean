import SiteScript.Archive.Zip
import SiteScript.Bundle
import SiteScript.Log
import SiteScript.Manifest

/-!
# SiteScript.Project

From a project's directory to its bundles.  `collect` gathers the texts below the directory, leaving
out what was built and what other tools keep there; `check` reads the manifest and looks at every
script; `build` writes three files, and nothing is written unless every check was passed.

A project is known by the text of its path, as it is shown in messages, and by the directory that text
is relative to.
-/

namespace SiteScript

/-- A directory with a project. -/
structure Project where
  /-- The directory that relative paths begin at. -/
  workingDir : Location
  /-- The path of the project. -/
  root : String

namespace Project

/-! ## Paths -/

/-- Join a path to another one: an absolute path stands for itself. -/
def joinPath (base path : String) : String :=
  if Text.startsWithChar '/' path.toList then path
  else if base.isEmpty || Text.endsWith ['/'] base.toList then base ++ path
  else base ++ "/" ++ path

variable (project : Project)

/-- The path of a text. -/
def path (text : String) : Path := .ofText project.workingDir text

/-- The directory of the project. -/
def directory? (fs : FileSystem) : Except FileFault Location :=
  let path := project.path project.root
  if project.root.isEmpty then .error .notFound
  else
    match fs.stat path, fs.locate? path with
    | .ok .directory, some location => .ok location
    | .ok _, _ => .error .notDirectory
    | .error fault, _ => .error fault

/-! ## Collecting -/

/-- Where the results of a build go. -/
def buildDir : String := "build"

/-- Directories that are left out wherever they are. -/
def skippedDirs : List String := [".git", "node_modules"]

/-- Whether a file is left out, given the names that lead to it: the results of a build at the top, and
the skipped directories at any depth. -/
def isSkipped (names : Location) : Bool :=
  let dirs := names.dropLast
  dirs.head? == some buildDir || dirs.any skippedDirs.contains

/-- The texts below a directory, and the paths of files that are not texts. -/
structure Collection where
  files : FileMap := .empty
  skipped : List String := []

/-- Take one file into a collection. -/
def Collection.add (collection : Collection) (names : Location) (content : ByteArray) :
    Collection :=
  match String.fromUTF8? content with
  | some text => { collection with files := collection.files.insert (joinSegments names) text }
  | none => { collection with skipped := collection.skipped ++ [joinSegments names] }

/-- The files below a location that are not left out, in the order of their names. -/
def filesBelow (fs : FileSystem) (location : Location) : List (Location × ByteArray) :=
  ((fs.below location).filterMap fun (names, entry) =>
    match entry with
    | .file content _ => if isSkipped names then none else some (names, content)
    | _ => none).mergeSort fun a b => !List.lex b.1 a.1 fun m n => m < n

/-- Gather the texts of a project. -/
def collect (fs : FileSystem) : Except Error Collection :=
  match project.directory? fs with
  | .error fault => .error (.io fault)
  | .ok location =>
    .ok ((filesBelow fs location).foldl (fun c (names, content) => c.add names content) {})

/-! ## Checking -/

/-- There is no manifest, or nothing in it. -/
def manifestMissing : Error :=
  .config (Manifest.fileName ++ " not found or empty in " ++ Text.quoted project.root)

/-- The manifest of the project. -/
def manifest (fs : FileSystem) : Except Error Manifest :=
  match fs.readText (project.path (joinPath project.root Manifest.fileName)) with
  | .error _ => .error project.manifestMissing
  | .ok text =>
    let trimmed := String.ofList (Text.trim text.toList)
    if trimmed == "" || trimmed == "\x7b\x7d" then .error project.manifestMissing
    else Manifest.ofText text

/-- Check the scripts of a file map, in the order of their paths. -/
def checkScripts (files : FileMap) : Except Error Unit :=
  files.entries.forM fun (path, code) =>
    if isScriptPath path then (Script.check code).mapError (.ofCheck path) else .ok ()

/-- A project that passed every check. -/
structure Checked where
  manifest : Manifest
  files : FileMap

/-- Gather and check a project.  The reports come with the result. -/
def check (fs : FileSystem) : Except Error Checked × List LogLine :=
  match project.manifest fs with
  | .error error => (.error error, [])
  | .ok manifest =>
    match project.collect fs with
    | .error error => (.error error, [])
    | .ok collection =>
      let log := collection.skipped.map fun path =>
        LogLine.warn ("Skipping " ++ path ++ ": not UTF-8 text")
      if collection.files.size = 0 then (.error (.config "No data found to build"), log)
      else
        let log := log ++ [.info "Checking syntax..."]
        match checkScripts collection.files with
        | .error error => (.error error, log)
        | .ok () =>
          (.ok ⟨manifest, collection.files⟩, log ++ [.info "Syntax check successful."])

/-! ## Building -/

/-- The name of the project: the one in its manifest, or that of the place it is at. -/
def name (fs : FileSystem) (manifest : Manifest) : String :=
  match manifest.name.filter (!·.isEmpty) with
  | some name => name
  | none =>
    let place? := if project.root.isEmpty then none else fs.locate? (project.path project.root)
    (place?.bind List.getLast?).getD "project"

/-- What a build wrote. -/
structure Output where
  bundle : String
  distributable : String
  archive : String
  files : Nat

/-- Write files one after another, up to the first that fails. -/
def writeAll (fs : FileSystem) : List (String × Bytes) → Except FileFault Unit × FileSystem
  | [] => (.ok (), fs)
  | (text, content) :: rest =>
    match fs.write (project.path text) (Bytes.toArray content) with
    | .ok fs => writeAll fs rest
    | .error fault => (.error fault, fs)

/-- The archive of plain files. -/
def archive (files : FileMap) : Bytes :=
  Zip.encode (files.entries.map fun (path, content) => ⟨path, Bytes.ofText content⟩)

/-- Write the results of a checked project.  The bundles are sealed under the given vectors. -/
def write (fs : FileSystem) (vectors : Bytes × Bytes) (checked : Checked) :
    Except Error Output × FileSystem :=
  let name := project.name fs checked.manifest
  let outDir := joinPath project.root buildDir
  let output : Output :=
    { bundle := joinPath outDir (name ++ ".tontoo")
      distributable := joinPath outDir (name ++ "_no_comments.tontoo")
      archive := joinPath outDir (name ++ "_source.zip")
      files := checked.files.size }
  match fs.createDirAll (project.path outDir).segments with
  | (.error fault, fs) => (.error (.io fault), fs)
  | (.ok (), fs) =>
    let contents :=
      [(output.bundle, Bundle.encode vectors.1 checked.files),
        (output.distributable, Bundle.encodeDistributable vectors.2 checked.files),
        (output.archive, archive checked.files)]
    match project.writeAll fs contents with
    | (.error fault, fs) => (.error (.io fault), fs)
    | (.ok (), fs) => (.ok output, fs)

/-- Check a project and write its results. -/
def build (fs : FileSystem) (vectors : Bytes × Bytes) :
    Except Error Output × List LogLine × FileSystem :=
  match project.check fs with
  | (.error error, log) => (.error error, log, fs)
  | (.ok checked, log) =>
    match project.write fs vectors checked with
    | (.error error, fs) => (.error error, log, fs)
    | (.ok output, fs) =>
      (.ok output, log ++ [.info ("Build successful: " ++ Text.quoted output.bundle)], fs)

end Project

end SiteScript
