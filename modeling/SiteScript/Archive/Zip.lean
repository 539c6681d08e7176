import SiteScript.Archive.Crc32
import SiteScript.Archive.Deflate

/-!
# SiteScript.Archive.Zip

Archives of several files: for every file a header and its compressed bytes, then a directory of all
of them, then where the directory is.

```
encode files = locals ++ directory ++ end of directory
```

`decode?` follows the directory, so the files come out in the order they were put in.
-/

namespace SiteScript.Zip

/-- A file of an archive. -/
structure Member where
  name : String
  content : Bytes

/-- The fields that a file's header and its entry in the directory share: version, flags (names are
UTF-8), method, time and date, check, sizes, length of the name. -/
def commonFields (member : Member) (packed : Bytes) : Bytes :=
  let u16 := Bytes.littleEndian 2
  let u32 := Bytes.littleEndian 4
  u16 20 ++ u16 0x0800 ++ u16 8 ++ u16 0 ++ u16 0x21 ++ u32 (Crc32.checksum member.content) ++
    u32 packed.length ++ u32 member.content.length ++ u16 (Bytes.ofText member.name).length

/-- A file with its header. -/
def localPart (member : Member) (packed : Bytes) : Bytes :=
  Bytes.littleEndian 4 0x04034b50 ++ commonFields member packed ++ Bytes.littleEndian 2 0 ++
    Bytes.ofText member.name ++ packed

/-- The entry of a file in the directory. -/
def directoryPart (member : Member) (packed : Bytes) (offset : Nat) : Bytes :=
  Bytes.littleEndian 4 0x02014b50 ++ Bytes.littleEndian 2 20 ++ commonFields member packed ++
    Bytes.littleEndian 12 0 ++ Bytes.littleEndian 4 offset ++ Bytes.ofText member.name

/-- The files and the directory of an archive, the next file beginning at `offset`. -/
def parts (offset : Nat) : List Member → Bytes × Bytes
  | [] => ([], [])
  | member :: members =>
    let packed := Deflate.store member.content
    let file := localPart member packed
    let (files, directory) := parts (offset + file.length) members
    (file ++ files, directoryPart member packed offset ++ directory)

/-- The archive of some files. -/
def encode (members : List Member) : Bytes :=
  let (files, directory) := parts 0 members
  let count := Bytes.littleEndian 2 members.length
  files ++ directory ++ Bytes.littleEndian 4 0x06054b50 ++ Bytes.littleEndian 4 0 ++ count ++ count ++
    Bytes.littleEndian 4 directory.length ++ Bytes.littleEndian 4 files.length ++
    Bytes.littleEndian 2 0

/-! ## Reading -/

/-- The number at a place, of a width in bytes. -/
def numberAt (bytes : Bytes) (place width : Nat) : Nat :=
  Bytes.ofLittleEndian ((bytes.drop place).take width)

/-- The file at an offset. -/
def memberAt? (archive : Bytes) (name : String) (offset size : Nat) : Option Member := do
  let header := archive.drop offset
  let start := 30 + numberAt header 26 2 + numberAt header 28 2
  let (content, _) ← Deflate.inflate? ((header.drop start).take size)
  return ⟨name, Bytes.ofArray content⟩

/-- Read entries of a directory. -/
def entries? (archive : Bytes) : Nat → Bytes → Option (List Member)
  | 0, _ => some []
  | count + 1, directory => do
    let nameLength := numberAt directory 28 2
    let name ← Bytes.toText? ((directory.drop 46).take nameLength)
    let member ← memberAt? archive name (numberAt directory 42 4) (numberAt directory 20 4)
    let next := 46 + nameLength + numberAt directory 30 2 + numberAt directory 32 2
    let members ← entries? archive count (directory.drop next)
    return member :: members

/-- The files of an archive without a comment at its end. -/
def decode? (archive : Bytes) : Option (List Member) :=
  let ending := archive.drop (archive.length - 22)
  entries? archive (numberAt ending 10 2) (archive.drop (numberAt ending 16 4))

end SiteScript.Zip
