import SiteScript.Hex

/-!
# SiteScript.Text.Percent

Bytes written as `%XX`.  Encoding is for a set of characters: those of the set and everything beyond
ASCII is written by its bytes, all else stands for itself.
-/

namespace SiteScript.Text.Percent

/-- A hexadecimal digit in upper case. -/
def digit (n : Nat) : Char := (Nat.digitChar n).toUpper

/-- The code of a byte. -/
def encodeByte (b : UInt8) : List Char :=
  ['%', digit (b.toNat / 16), digit (b.toNat % 16)]

/-- A character, written by its bytes when it is in the set. -/
def encodeChar (set : Char → Bool) (c : Char) : List Char :=
  if set c || c.toNat ≥ 0x80 then (Bytes.ofText (String.singleton c)).flatMap encodeByte else [c]

/-- A text with the characters of a set encoded. -/
def encode (set : Char → Bool) (text : List Char) : List Char :=
  text.flatMap (encodeChar set)

/-- The bytes of encoded bytes; a percent sign without two digits stands for itself. -/
def decode : Bytes → Bytes
  | [] => []
  | 0x25 :: a :: b :: rest =>
    match Hex.digitValue? a, Hex.digitValue? b with
    | some high, some low => UInt8.ofNat (16 * high + low) :: decode rest
    | _, _ => 0x25 :: decode (a :: b :: rest)
  | b :: rest => b :: decode rest

/-- Control characters. -/
def isControl (c : Char) : Bool := c.toNat < 0x20 || c.toNat == 0x7F

end SiteScript.Text.Percent
