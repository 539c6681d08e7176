import SiteScript.FileMap
import SiteScript.FileSystem.Calls
import SiteScript.Error
import SiteScript.Text.Quoted

/-!
# SiteScript.Workspace

The directory a bundle is unpacked into for one run.  Every path of the bundle is checked before
anything is written, so a bundle that reaches for places outside leaves no trace.
-/

namespace SiteScript.Workspace

/-- Whether a path stays below the directory it is joined to: it is not empty, does not begin at the
top and never goes up. -/
def isSafe (path : String) : Bool :=
  match path.toList with
  | [] => false
  | c :: _ => c != '/' && !(segmentsOf path).contains ".."

/-- The segments of a joined path that are names. -/
def names (path : String) : List String :=
  (segmentsOf path).filter (· != ".")

/-- The path as it is handed to the system: joined as written. -/
def joined (root : Location) (path : String) : Path :=
  ⟨root ++ segmentsOf path, Text.endsWith ['/'] path.toList⟩

/-- Write one file below the root, making the directories that are to hold it. -/
def writeEntry (root : Location) (fs : FileSystem) (path content : String) :
    Except FileFault Unit × FileSystem :=
  match fs.createDirAll (root ++ names path).dropLast with
  | (.error fault, fs) => (.error fault, fs)
  | (.ok (), fs) =>
    match fs.write (joined root path) content.toUTF8 with
    | .ok fs => (.ok (), fs)
    | .error fault => (.error fault, fs)

/-- Write files below the root, up to the first that fails. -/
def writeEntries (root : Location) :
    FileSystem → List (String × String) → Except FileFault Unit × FileSystem
  | fs, [] => (.ok (), fs)
  | fs, (path, content) :: rest =>
    match writeEntry root fs path content with
    | (.error fault, fs) => (.error fault, fs)
    | (.ok (), fs) => writeEntries root fs rest

/-- Remove a directory that was given up.  Nobody learns whether that fails. -/
def discard (root : Location) (fs : FileSystem) : FileSystem :=
  (fs.removeTree (.ofLocation root)).toOption.getD fs

/-- Unpack a file map into a new directory.  When that fails the directory is given up. -/
def materialize (root : Location) (fs : FileSystem) (files : FileMap) :
    Except Error Unit × FileSystem :=
  match files.keys.find? (!isSafe ·) with
  | some path => (.error (.corruptBundle ("entry '" ++ path ++ "' escapes the workspace")), fs)
  | none =>
    match writeEntries root (fs.put root .directory) files.entries with
    | (.ok (), fs) => (.ok (), fs)
    | (.error fault, fs) => (.error (.io fault), discard root fs)

/-- Remove the directory. -/
def close (root : Location) (fs : FileSystem) : Except Error FileSystem :=
  match fs.removeTree (.ofLocation root) with
  | .ok fs => .ok fs
  | .error fault => .error (.ioAt fault (Text.quoted (Path.ofLocation root).text))

/-- Whether the directory is there. -/
def exists? (root : Location) (fs : FileSystem) : Bool :=
  fs.isDirectory (.ofLocation root)

end SiteScript.Workspace
