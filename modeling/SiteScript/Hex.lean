import SiteScript.Bytes
import SiteScript.Decimal
import SiteScript.Text.Quoted

/-!
# SiteScript.Hex

Bytes as hexadecimal digits: written in lower case, read in either case.
-/

namespace SiteScript.Hex

/-- The two digits of a byte. -/
def encodeByte (b : UInt8) : List Char :=
  [Nat.digitChar (b.toNat / 16), Nat.digitChar (b.toNat % 16)]

/-- The digits of bytes. -/
def encode (bytes : Bytes) : List Char :=
  bytes.flatMap encodeByte

/-- The digits of bytes, as a string. -/
def text (bytes : Bytes) : String := String.ofList (encode bytes)

/-- Why digits cannot be read. -/
inductive Fault where
  | oddLength
  | badDigit (digit : Char) (position : Nat)
deriving DecidableEq

/-- The wording of a fault. -/
def Fault.message : Fault → String
  | .oddLength => "Odd number of digits"
  | .badDigit digit position =>
    "Invalid character " ++ Text.quotedLiteral digit ++ " at position " ++ Decimal.text position

/-- The value of a digit, given as a byte. -/
def digitValue? (b : UInt8) : Option Nat :=
  let n := b.toNat
  if 0x30 ≤ n && n ≤ 0x39 then some (n - 0x30)
  else if 0x61 ≤ n && n ≤ 0x66 then some (n - 0x61 + 10)
  else if 0x41 ≤ n && n ≤ 0x46 then some (n - 0x41 + 10)
  else none

/-- Read pairs of digits, the first of them at the given position. -/
def decodePairs (position : Nat) : Bytes → Except Fault Bytes
  | a :: b :: rest =>
    match digitValue? a with
    | none => .error (.badDigit (Char.ofNat a.toNat) position)
    | some high =>
      match digitValue? b with
      | none => .error (.badDigit (Char.ofNat b.toNat) (position + 1))
      | some low =>
        (decodePairs (position + 2) rest).map fun bytes => UInt8.ofNat (16 * high + low) :: bytes
  | _ => .ok []

/-- Read digits, given by their bytes. -/
def decode (digits : Bytes) : Except Fault Bytes :=
  if digits.length % 2 != 0 then .error .oddLength else decodePairs 0 digits

end SiteScript.Hex
