import SiteScript.FileSystem.Basic
import SiteScript.FileSystem.Fault
import SiteScript.Text.Basic

/-!
# SiteScript.FileSystem.Path

Paths and where they lead.  A `Path` is what is handed to the system: segments from the top, among
which `.` and `..` may occur, and whether a slash follows the last one.

Segments are followed through directories and links (`follow`).  A path leads to a name in a directory,
whether anything has that name or not: `target` is where an entry is made, renamed or removed, and
`destination` also follows a link that has the name, so it is where a file is read or written.
-/

namespace SiteScript

/-- A path from the top of the file system. -/
structure Path where
  segments : List String
  /-- Whether the path ends in a slash. -/
  slash : Bool
deriving DecidableEq

/-- The segments of a path text: what stands between slashes, and is not empty. -/
def segmentsOf (text : String) : List String :=
  ((Text.split '/' text.toList).filter (!·.isEmpty)).map String.ofList

/-- Segments with slashes between them. -/
def joinSegments (segments : List String) : String :=
  String.ofList (Text.join '/' (segments.map String.toList))

namespace Path

/-- The path of a location. -/
def ofLocation (location : Location) : Path := ⟨location, false⟩

/-- The path of a text, which begins at a directory unless it begins with a slash. -/
def ofText (directory : Location) (text : String) : Path :=
  let start := if Text.startsWithChar '/' text.toList then [] else directory
  ⟨start ++ segmentsOf text, Text.endsWith ['/'] text.toList⟩

/-- The text of a path. -/
def text (path : Path) : String :=
  "/" ++ joinSegments path.segments ++ (if path.slash then "/" else "")

/-- The longest name, in bytes. -/
def maxName : Nat := 255

/-- The longest path, in bytes. -/
def maxPath : Nat := 4095

/-- What the system refuses before it looks at anything. -/
def refused? (path : Path) : Option FileFault :=
  if path.segments.any (·.toList.contains '\x00') then some .nulInName
  else if path.text.utf8ByteSize > maxPath then some .nameTooLong
  else none

end Path

namespace FileSystem

/-- Whether a name is too long to be looked up. -/
def tooLong (name : String) : Bool := name.utf8ByteSize > Path.maxName

/-- Where a path leads. -/
inductive Target where
  /-- A name in a directory, whether anything has that name or not. -/
  | name (parent : Location) (name : String)
  /-- A directory reached by `.`, by `..` or as the top. -/
  | directory (location : Location)
deriving DecidableEq

/-- The location that a path leads to. -/
def Target.location : Target → Location
  | .name parent last => parent ++ [last]
  | .directory location => location

/-- Follow segments from a directory.  A link is followed by `jump`, which gets the segments from the
top on; the last segment is followed if `last` says so. -/
def followWith (fs : FileSystem) (jump : List String → Except FileFault Target) (last : Bool)
    (location : Location) : List String → Except FileFault Target
  | [] => .ok (.directory location)
  | segment :: rest =>
    if segment = "." then fs.followWith jump last location rest
    else if segment = ".." then fs.followWith jump last location.dropLast rest
    else if rest.isEmpty && !last then .ok (.name location segment)
    else
      match fs.get? (location ++ [segment]), rest with
      | some (.link path), rest =>
        let start := Path.ofText location path
        jump (start.segments ++ (if start.slash then ["."] else []) ++ rest)
      | _, [] => .ok (.name location segment)
      | none, _ => .error (if tooLong segment then .nameTooLong else .notFound)
      | some (.file _ _), _ => .error .notDirectory
      | some .directory, rest => fs.followWith jump last (location ++ [segment]) rest

/-- How many links may be followed on the way. -/
def maxLinks : Nat := 40

/-- Follow segments from the top through so many links. -/
def follow (fs : FileSystem) (last : Bool) : Nat → List String → Except FileFault Target
  | 0 => fs.followWith (fun _ => .error .tooManyLinks) last []
  | links + 1 => fs.followWith (fs.follow last links) last []

/-- Follow a path. -/
def followPath (fs : FileSystem) (last : Bool) (path : Path) : Except FileFault Target :=
  match path.refused? with
  | some fault => .error fault
  | none => fs.follow last maxLinks path.segments

/-- Follow a path up to its last segment. -/
def target (fs : FileSystem) (path : Path) : Except FileFault Target := fs.followPath false path

/-- Follow a path through its last segment too. -/
def destination (fs : FileSystem) (path : Path) : Except FileFault Target := fs.followPath true path

end FileSystem

end SiteScript
