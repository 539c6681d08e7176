import SiteScript.FileSystem.Calls
import SiteScript.Error

/-!
# SiteScript.Sandbox

The files a script may touch.  Paths of a script are taken from the root of its sandbox: leading
slashes and `.` mean nothing, and `..` goes back one name but never above the root (`resolve`).  After
that a path consists of plain names, so nothing a script does reaches beyond the root.
-/

namespace SiteScript

/-- A directory that scripts are confined to. -/
structure Sandbox where
  root : Location
deriving DecidableEq

namespace Sandbox

/-- Cancel each `..` with the name before it; none when there is none to cancel. -/
def normalize (done : List String) : List String → Option (List String)
  | [] => some done
  | segment :: rest =>
    if segment = "." then normalize done rest
    else if segment = ".." then
      match done with
      | [] => none
      | _ :: _ => normalize done.dropLast rest
    else normalize (done ++ [segment]) rest

/-- The names a path leads through from the root. -/
def resolve (path : String) : Except HostError (List String) :=
  match normalize [] (segmentsOf path) with
  | some names => .ok names
  | none => .error (.sandbox path)

/-- The path of names below the root; the root itself is written with a slash. -/
def path (box : Sandbox) (names : List String) : Path :=
  ⟨box.root ++ names, names.isEmpty⟩

/-- The segments of the directory that holds a resolved path. -/
def parent (box : Sandbox) (names : List String) : List String :=
  (box.root ++ names).dropLast

variable (box : Sandbox) (fs : FileSystem)

/-- The result of an operation that changes files. -/
abbrev Change := Except HostError Unit × FileSystem

/-- A single change: nothing happens when it fails. -/
def ofCall (result : Except FileFault FileSystem) : Change :=
  match result with
  | .ok fs => (.ok (), fs)
  | .error fault => (.error (.io fault), fs)

/-- Make the directory that holds a path, then go on. -/
def withParent (names : List String) (next : FileSystem → Change) : Change :=
  match fs.createDirAll (box.parent names) with
  | (.error fault, fs) => (.error (.io fault), fs)
  | (.ok (), fs) => next fs

/-- Copy a file, making the directories that are to hold the copy. -/
def copyFile (source target : String) : Change :=
  match resolve source, resolve target with
  | .error error, _ => (.error error, fs)
  | .ok _, .error error => (.error error, fs)
  | .ok source, .ok target =>
    box.withParent fs target fun fs =>
      match fs.copy (box.path source) (box.path target) with
      | (.ok (), fs) => (.ok (), fs)
      | (.error fault, fs) => (.error (.io fault), fs)

/-- Move a file or directory. -/
def moveFile (source target : String) : Change :=
  match resolve source, resolve target with
  | .error error, _ => (.error error, fs)
  | .ok _, .error error => (.error error, fs)
  | .ok source, .ok target => ofCall fs (fs.rename (box.path source) (box.path target))

/-- Remove a file. -/
def deleteFile (path : String) : Change :=
  match resolve path with
  | .error error => (.error error, fs)
  | .ok names => ofCall fs (fs.unlink (box.path names))

/-- Remove a directory and all it holds; one that is not there is no failure. -/
def deleteFolder (path : String) : Change :=
  match resolve path with
  | .error error => (.error error, fs)
  | .ok names =>
    match fs.removeTree (box.path names) with
    | .error .notFound => (.ok (), fs)
    | result => ofCall fs result

/-- Make a directory and the missing ones above it. -/
def createFolder (path : String) : Change :=
  match resolve path with
  | .error error => (.error error, fs)
  | .ok names =>
    match fs.createDirAll (box.root ++ names) with
    | (.ok (), fs) => (.ok (), fs)
    | (.error fault, fs) => (.error (.io fault), fs)

/-- Make an empty file unless something is there. -/
def createFile (path : String) : Change :=
  match resolve path with
  | .error error => (.error error, fs)
  | .ok names =>
    match fs.stat (box.path names) with
    | .ok _ => (.ok (), fs)
    | .error .notFound => ofCall fs (fs.write (box.path names) ByteArray.empty)
    | .error fault => (.error (.io fault), fs)

/-- Write a file, making the directories that are to hold it. -/
def writeFile (path : String) (content : ByteArray) : Change :=
  match resolve path with
  | .error error => (.error error, fs)
  | .ok names =>
    box.withParent fs names fun fs => ofCall fs (fs.write (box.path names) content)

/-- The bytes of a file. -/
def read (path : String) : Except HostError ByteArray :=
  match resolve path with
  | .error error => .error error
  | .ok names => (fs.read (box.path names)).mapError .io

/-- The text of a file. -/
def readText (path : String) : Except HostError String :=
  match resolve path with
  | .error error => .error error
  | .ok names => (fs.readText (box.path names)).mapError .io

/-- Whether a path names a regular file. -/
def isFile (path : String) : Bool :=
  match resolve path with
  | .error _ => false
  | .ok names => fs.isFile (box.path names)

end Sandbox

end SiteScript
