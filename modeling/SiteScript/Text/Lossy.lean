import SiteScript.Bytes

/-!
# SiteScript.Text.Lossy

Reading bytes as UTF-8 when they need not be: what cannot be part of a character is replaced.  The
longest piece that could have begun a character counts as one fault, so reading goes on with the first
byte that did not fit.
-/

namespace SiteScript.Text

/-- What stands for bytes that are no character. -/
def replacement : Char := '\uFFFD'

/-- A character whose first bytes have been read: how many bytes are missing, the number so far, and
the range of the next byte. -/
structure Unfinished where
  missing : Nat
  value : Nat
  low : Nat
  high : Nat
deriving DecidableEq

/-- What the first byte of a character tells. -/
inductive Lead where
  | char (c : Char)
  | unfinished (state : Unfinished)
  | fault
deriving DecidableEq

/-- The first byte of a character.  The range of the second byte excludes numbers that have a shorter
form, surrogates, and numbers beyond the last code point. -/
def lead (b : UInt8) : Lead :=
  let n := b.toNat
  if n < 0x80 then .char (Char.ofNat n)
  else if n < 0xC2 then .fault
  else if n < 0xE0 then .unfinished ⟨1, n - 0xC0, 0x80, 0xBF⟩
  else if n = 0xE0 then .unfinished ⟨2, 0, 0xA0, 0xBF⟩
  else if n = 0xED then .unfinished ⟨2, 0xD, 0x80, 0x9F⟩
  else if n < 0xF0 then .unfinished ⟨2, n - 0xE0, 0x80, 0xBF⟩
  else if n = 0xF0 then .unfinished ⟨3, 0, 0x90, 0xBF⟩
  else if n < 0xF4 then .unfinished ⟨3, n - 0xF0, 0x80, 0xBF⟩
  else if n = 0xF4 then .unfinished ⟨3, 4, 0x80, 0x8F⟩
  else .fault

/-- A byte at the start of a character: what is known for sure, and what is unfinished. -/
def start (b : UInt8) : List Char × Option Unfinished :=
  match lead b with
  | .char c => ([c], none)
  | .unfinished state => ([], some state)
  | .fault => ([replacement], none)

/-- A byte after others: the characters it settles, and what is unfinished after it. -/
def takeByte (state : Option Unfinished) (b : UInt8) : List Char × Option Unfinished :=
  match state with
  | none => start b
  | some state =>
    if state.low ≤ b.toNat && b.toNat ≤ state.high then
      let value := state.value * 64 + (b.toNat - 0x80)
      if state.missing ≤ 1 then ([Char.ofNat value], none)
      else ([], some ⟨state.missing - 1, value, 0x80, 0xBF⟩)
    else
      let (settled, next) := start b
      (replacement :: settled, next)

/-- Read bytes after the first bytes of a character, if there are any. -/
def readLossy (state : Option Unfinished) : Bytes → List Char
  | [] => if state.isSome then [replacement] else []
  | b :: bytes =>
    let (settled, next) := takeByte state b
    settled ++ readLossy next bytes

/-- The text of bytes, with faults replaced. -/
def ofBytesLossy (bytes : Bytes) : String :=
  String.ofList (readLossy none bytes)

end SiteScript.Text
