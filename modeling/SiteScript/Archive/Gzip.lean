import SiteScript.Archive.Crc32
import SiteScript.Archive.Deflate
import SiteScript.Word

/-!
# SiteScript.Archive.Gzip

Compressed bytes with a header in front, and their check and length behind.  Only the first member of
a file is read; what follows it does not matter.
-/

namespace SiteScript.Gzip

/-- The header that is written: no name, no time. -/
def header : Bytes := [0x1f, 0x8b, 8, 0, 0, 0, 0, 0, 0, 0xff]

/-- Wrap bytes up. -/
def compress (bytes : Bytes) : Bytes :=
  header ++ Deflate.store bytes ++
    (Bytes.littleEndian 4 (Crc32.checksum bytes) ++ Bytes.littleEndian 4 bytes.length)

/-- Skip a field that ends in a zero byte. -/
def skipField : Bytes → Option Bytes
  | [] => none
  | b :: rest => if b = 0 then some rest else skipField rest

/-- Skip a field that begins with its length. -/
def skipExtra : Bytes → Option Bytes
  | a :: b :: rest =>
    let n := Bytes.ofLittleEndian [a, b]
    if n ≤ rest.length then some (rest.drop n) else none
  | _ => none

/-- Apply `skip` when the flag is set. -/
def skipIf (flag : Bool) (skip : Bytes → Option Bytes) (bytes : Bytes) : Option Bytes :=
  if flag then skip bytes else some bytes

/-- Skip the check of the header, which must be right for the bytes before it. -/
def skipHeaderCheck (whole rest : Bytes) : Option Bytes :=
  match rest with
  | a :: b :: after =>
    let seen := whole.take (whole.length - rest.length)
    if Bytes.ofLittleEndian [a, b] = Crc32.checksum seen % 0x10000 then some after else none
  | _ => none

/-- The bytes after the header. -/
def body? (bytes : Bytes) : Option Bytes :=
  match bytes with
  | 0x1f :: 0x8b :: 8 :: flags :: _ :: _ :: _ :: _ :: _ :: _ :: rest => do
    let flag := flags.toNat.testBit
    if flag 5 || flag 6 || flag 7 then none
    else
      let rest ← skipIf (flag 2) skipExtra rest
      let rest ← skipIf (flag 3) skipField rest
      let rest ← skipIf (flag 4) skipField rest
      skipIf (flag 1) (skipHeaderCheck bytes) rest
  | _ => none

/-- Unwrap the first member; none when any part of it is damaged. -/
def decompress? (bytes : Bytes) : Option ByteArray := do
  let body ← body? bytes
  let (content, rest) ← Deflate.inflate? body
  if rest.length < 8 then none
  else
    let check := Bytes.ofLittleEndian (rest.take 4)
    let length := Bytes.ofLittleEndian ((rest.drop 4).take 4)
    if check = Crc32.checksum (Bytes.ofArray content) && length = content.size % Word.values 32 then
      some content
    else none

end SiteScript.Gzip
