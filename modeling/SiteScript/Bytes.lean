/-!
# SiteScript.Bytes

Byte strings as lists, between the byte arrays that files hold and the ciphers and archives that take
them apart.  Texts cross here too: `ofText` is the UTF-8 of a text and `toText?` reads it back.
-/

namespace SiteScript

/-- A byte string. -/
abbrev Bytes := List UInt8

namespace Bytes

/-- The bytes of a byte array. -/
def ofArray (array : ByteArray) : Bytes := array.data.toList

/-- The byte array of some bytes. -/
def toArray (bytes : Bytes) : ByteArray := ⟨Array.mk bytes⟩

/-- The UTF-8 of a text. -/
def ofText (text : String) : Bytes := ofArray text.toUTF8

/-- The text whose UTF-8 the bytes are. -/
def toText? (bytes : Bytes) : Option String := String.fromUTF8? bytes.toArray

@[simp] theorem toArray_ofArray (array : ByteArray) : toArray (ofArray array) = array := rfl

@[simp] theorem ofArray_toArray (bytes : Bytes) : ofArray (toArray bytes) = bytes := rfl

/-- Reading the UTF-8 of a text gives the text. -/
@[simp] theorem toText?_ofText (text : String) : toText? (ofText text) = some text := by
  simp [toText?, ofText, String.fromUTF8?, String.toUTF8, text.isValidUTF8, String.fromUTF8]

/-- Bytes in groups of `n`; the last group may be shorter. -/
def groups (n : Nat) (bytes : Bytes) : List Bytes :=
  if _ : bytes = [] ∨ n = 0 then []
  else bytes.take n :: groups n (bytes.drop n)
termination_by bytes.length
decreasing_by
  have : bytes.length ≠ 0 := fun hl => ‹¬ (bytes = [] ∨ n = 0)› (.inl (List.length_eq_zero_iff.1 hl))
  have : n ≠ 0 := fun hn => ‹¬ (bytes = [] ∨ n = 0)› (.inr hn)
  simp only [List.length_drop]
  omega

/-- Combine two byte strings by exclusive or, as far as both reach. -/
def xor (a b : Bytes) : Bytes := List.zipWith (· ^^^ ·) a b

/-- A number as `width` bytes, the lowest first. -/
def littleEndian : Nat → Nat → Bytes
  | 0, _ => []
  | width + 1, n => UInt8.ofNat n :: littleEndian width (n / 256)

/-- A number as `width` bytes, the highest first. -/
def bigEndian (width n : Nat) : Bytes := (littleEndian width n).reverse

/-- The number of bytes with the lowest first. -/
def ofLittleEndian : Bytes → Nat
  | [] => 0
  | b :: bytes => b.toNat + 256 * ofLittleEndian bytes

end Bytes

end SiteScript
