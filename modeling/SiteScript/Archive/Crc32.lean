import SiteScript.Bytes

/-!
# SiteScript.Archive.Crc32

The cyclic redundancy check of archives: the remainder of the bytes, taken as a polynomial with the
lowest bit first.
-/

namespace SiteScript.Crc32

/-- Divide one bit out. -/
def shift (r : UInt32) : UInt32 :=
  if r &&& 1 = 0 then r >>> 1 else (r >>> 1) ^^^ 0xEDB88320

/-- Take a byte into the remainder. -/
def update (r : UInt32) (b : UInt8) : UInt32 :=
  Nat.repeat shift 8 (r ^^^ b.toUInt32)

/-- The check of some bytes. -/
def checksum (bytes : Bytes) : Nat :=
  ((bytes.foldl update 0xFFFFFFFF) ^^^ 0xFFFFFFFF).toNat

end SiteScript.Crc32
