import SiteScript.FileSystem.Path

/-!
# SiteScript.FileSystem.Calls

The operations of the system on files and directories.  A failing operation changes nothing; the
operations made of several steps (`createDirAll`, `copy`) keep what the steps before the failure did,
so they give the file system back in both cases.
-/

namespace SiteScript.FileSystem

/-! ## Looking -/

/-- What is found where a path leads. -/
def entryAt (fs : FileSystem) (slash : Bool) : Target → Except FileFault Entry
  | .directory _ => .ok .directory
  | .name parent name =>
    if tooLong name then .error .nameTooLong
    else
      match fs.get? (parent ++ [name]) with
      | none => .error .notFound
      | some .directory => .ok .directory
      | some entry => if slash then .error .notDirectory else .ok entry

/-- What a path names, links followed. -/
def stat (fs : FileSystem) (path : Path) : Except FileFault Entry :=
  match fs.destination path with
  | .error fault => .error fault
  | .ok target => fs.entryAt path.slash target

/-- What a path names, which may be a link. -/
def linkStat (fs : FileSystem) (path : Path) : Except FileFault Entry :=
  match fs.followPath path.slash path with
  | .error fault => .error fault
  | .ok target => fs.entryAt path.slash target

/-- Whether a path names a directory. -/
def isDirectory (fs : FileSystem) (path : Path) : Bool :=
  match fs.stat path with
  | .ok .directory => true
  | _ => false

/-- Whether a path names a regular file. -/
def isFile (fs : FileSystem) (path : Path) : Bool :=
  match fs.stat path with
  | .ok (.file _ _) => true
  | _ => false

/-- The bytes of a file. -/
def read (fs : FileSystem) (path : Path) : Except FileFault ByteArray :=
  match fs.stat path with
  | .error fault => .error fault
  | .ok (.file content _) => .ok content
  | .ok _ => .error .isDirectory

/-- The text of a file. -/
def readText (fs : FileSystem) (path : Path) : Except FileFault String :=
  match fs.read path with
  | .error fault => .error fault
  | .ok content =>
    match String.fromUTF8? content with
    | some text => .ok text
    | none => .error .notUtf8

/-- Where the thing stands that a path names, links followed. -/
def locate? (fs : FileSystem) (path : Path) : Option Location :=
  match fs.stat path, fs.destination path with
  | .ok _, .ok target => some target.location
  | _, _ => none

/-- Where the thing stands that a path names, which may be a link. -/
def locateLink? (fs : FileSystem) (path : Path) : Option Location :=
  match fs.linkStat path, fs.followPath path.slash path with
  | .ok _, .ok target => some target.location
  | _, _ => none

/-- Everything that can be seen below a location by following so many links at most, with the names
from there on.  A link that leads nowhere is seen as a link. -/
def visible (fs : FileSystem) : Nat → Location → List (Location × Entry)
  | 0, location => fs.below location
  | links + 1, location =>
    (fs.below location).flatMap fun (names, entry) =>
      match entry, fs.stat (.ofLocation (location ++ names)), fs.locate? (.ofLocation (location ++ names)) with
      | .link _, .ok .directory, some place =>
        (names, .directory) :: (fs.visible links place).map fun (more, found) =>
          (names ++ more, found)
      | .link _, .ok found, _ => [(names, found)]
      | entry, _, _ => [(names, entry)]

/-! ## One change -/

/-- Write a file, over the file that was there. -/
def write (fs : FileSystem) (path : Path) (content : ByteArray) : Except FileFault FileSystem :=
  match fs.destination path with
  | .error fault => .error fault
  | .ok (.directory _) => .error .isDirectory
  | .ok (.name parent name) =>
    if path.slash then .error .isDirectory
    else if tooLong name then .error .nameTooLong
    else
      match fs.get? (parent ++ [name]) with
      | some .directory => .error .isDirectory
      | some (.file _ traits) => .ok (fs.rewrite (parent ++ [name]) content traits)
      | _ => .ok (fs.put (parent ++ [name]) (.plain content))

/-- Say who may read, write and run a file; directories have no such record. -/
def setMode (fs : FileSystem) (path : Path) (mode : Nat) : FileSystem :=
  match fs.stat path, fs.locate? path with
  | .ok (.file content traits), some location => fs.rewrite location content { traits with mode }
  | _, _ => fs

/-- Make an entry with a new name. -/
def make (fs : FileSystem) (path : Path) (entry : Entry) : Except FileFault FileSystem :=
  match fs.target path with
  | .error fault => .error fault
  | .ok (.directory _) => .error .alreadyExists
  | .ok (.name parent name) =>
    if tooLong name then .error .nameTooLong
    else
      match fs.get? (parent ++ [name]) with
      | some _ => .error .alreadyExists
      | none =>
        if path.slash && !entry.isDirectory then .error .notFound
        else .ok (fs.put (parent ++ [name]) entry)

/-- Make a directory. -/
def makeDirectory (fs : FileSystem) (path : Path) : Except FileFault FileSystem :=
  fs.make path .directory

/-- Make a link. -/
def makeLink (fs : FileSystem) (path : Path) (text : String) : Except FileFault FileSystem :=
  if text.isEmpty then .error .notFound else fs.make path (.link text)

/-- Give a file, or a link, one more name. -/
def addName (fs : FileSystem) (source target : Path) : Except FileFault FileSystem :=
  match fs.linkStat source, fs.locateLink? source with
  | .ok (.file content traits), some location =>
    let number := traits.shared.getD fs.unusedNumber
    let entry := Entry.file content { traits with shared := some number }
    (fs.make target entry).map fun fs => fs.put location entry
  | .ok .directory, _ => .error .notPermitted
  | .ok entry, _ => fs.make target entry
  | .error fault, _ => .error fault

/-- Remove a file or a link. -/
def unlink (fs : FileSystem) (path : Path) : Except FileFault FileSystem :=
  match fs.target path with
  | .error fault => .error fault
  | .ok (.directory _) => .error .isDirectory
  | .ok (.name parent name) =>
    if tooLong name then .error .nameTooLong
    else
      match fs.get? (parent ++ [name]) with
      | none => .error .notFound
      | some .directory => .error .isDirectory
      | some _ =>
        if path.slash then .error .notDirectory else .ok (fs.erase (parent ++ [name]))

/-- Remove a directory and all it holds; of a link, only the link. -/
def removeTree (fs : FileSystem) (path : Path) : Except FileFault FileSystem :=
  match fs.target path with
  | .error fault => .error fault
  | .ok (.directory location) => .ok (fs.eraseTree location)
  | .ok (.name parent name) =>
    if tooLong name then .error .nameTooLong
    else
      match fs.get? (parent ++ [name]) with
      | none => .error .notFound
      | some (.file _ _) => .error .notDirectory
      | some .directory => .ok (fs.eraseTree (parent ++ [name]))
      | some (.link _) => .ok (fs.erase (parent ++ [name]))

/-- Whether nothing stands below a location. -/
def isEmptyAt (fs : FileSystem) (location : Location) : Bool :=
  (fs.below location).isEmpty

/-- Whether two entries are names of one file. -/
def areOneFile (first second : Option Entry) : Bool :=
  match first.bind Entry.shared?, second.bind Entry.shared? with
  | some m, some n => m = n
  | _, _ => false

/-- Give the entry at `source` the name `target`: the checks once both names are looked up. -/
def renameEntry (fs : FileSystem) (source target : Location) (entry : Entry) (slash : Bool) :
    Except FileFault FileSystem :=
  if !entry.isDirectory && slash then .error .notDirectory
  else if source.isPrefixOf target && source != target then .error .invalidArgument
  else if target.isPrefixOf source && source != target then .error .notEmpty
  else if source = target || areOneFile (some entry) (fs.get? target) then .ok fs
  else
    match entry.isDirectory, fs.get? target with
    | false, some .directory => .error .isDirectory
    | true, some .directory =>
      if fs.isEmptyAt target then .ok (fs.graft source target) else .error .notEmpty
    | true, some _ => .error .notDirectory
    | _, _ => .ok (fs.graft source target)

/-- Rename a file or directory, over a file or an empty directory of the same kind.  A directory does
not move into itself. -/
def rename (fs : FileSystem) (source target : Path) : Except FileFault FileSystem := do
  match source.refused?, target.refused? with
  | some fault, _ => .error fault
  | none, some fault => .error fault
  | none, none =>
    match ← fs.target source, ← fs.target target with
    | .name sourceParent sourceName, .name targetParent targetName =>
      if tooLong sourceName then .error .nameTooLong
      else
        match fs.get? (sourceParent ++ [sourceName]) with
        | none => .error .notFound
        | some entry =>
          if tooLong targetName then .error .nameTooLong
          else
            fs.renameEntry (sourceParent ++ [sourceName]) (targetParent ++ [targetName]) entry
              (source.slash || target.slash)
    | _, _ => .error .invalidArgument

/-! ## Several changes -/

/-- Make the directory whose segments, last first, are given, and every missing one above it. -/
def createDirAllUp (fs : FileSystem) : List String → Except FileFault Unit × FileSystem
  | [] => (.ok (), fs)
  | last :: above =>
    let path := Path.ofLocation (last :: above).reverse
    match fs.makeDirectory path with
    | .ok fs => (.ok (), fs)
    | .error .notFound =>
      match fs.createDirAllUp above with
      | (.error fault, fs) => (.error fault, fs)
      | (.ok (), fs) =>
        match fs.makeDirectory path with
        | .ok fs => (.ok (), fs)
        | .error fault => if fs.isDirectory path then (.ok (), fs) else (.error fault, fs)
    | .error fault => if fs.isDirectory path then (.ok (), fs) else (.error fault, fs)

/-- Make a directory and every missing one above it; a directory that is there is left as it is. -/
def createDirAll (fs : FileSystem) (segments : List String) :
    Except FileFault Unit × FileSystem :=
  fs.createDirAllUp segments.reverse

/-- Copy a file: open the source, empty or make the target, then copy what the source holds by now.
The copy may be used as the source may. -/
def copy (fs : FileSystem) (source target : Path) : Except FileFault Unit × FileSystem :=
  match fs.stat source with
  | .error fault => (.error fault, fs)
  | .ok .directory => (.error .notRegular, fs)
  | .ok (.link _) => (.error .notRegular, fs)
  | .ok (.file _ traits) =>
    match fs.write target ByteArray.empty with
    | .error fault => (.error fault, fs)
    | .ok emptied =>
      match emptied.read source with
      | .error fault => (.error fault, emptied)
      | .ok content =>
        match emptied.write target content with
        | .error fault => (.error fault, emptied)
        | .ok copied => (.ok (), copied.setMode target traits.mode)

end SiteScript.FileSystem
