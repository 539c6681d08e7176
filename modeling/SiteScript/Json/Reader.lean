import SiteScript.Json.Raw
import SiteScript.Json.Value

/-!
# SiteScript.Json.Reader

What a `Raw` tree means: escapes are decoded, numerals become numbers and members are sorted, a later
one over an earlier one of the same name.  A tree means nothing when an escape is half of a surrogate
pair, when a number is beyond the range of doubles, or when arrays and objects are nested more than
`maxDepth` deep.
-/

namespace SiteScript.Json

/-- How deep arrays and objects may be nested. -/
def maxDepth : Nat := 127

/-- The value of a hexadecimal digit. -/
def hexValue (c : Char) : Nat :=
  if c.isDigit then c.toNat - '0'.toNat
  else if 'a' ≤ c then c.toNat - 'a'.toNat + 10
  else c.toNat - 'A'.toNat + 10

/-- The value of four hexadecimal digits. -/
def hexValue4 (a b c d : Char) : Nat :=
  ((hexValue a * 16 + hexValue b) * 16 + hexValue c) * 16 + hexValue d

/-- The character of an escape letter. -/
def letterValue (c : Char) : Char :=
  match c with
  | 'b' => '\x08'
  | 'f' => '\x0c'
  | 'n' => '\n'
  | 'r' => '\r'
  | 't' => '\t'
  | _ => c

/-- The characters a string body stands for; none when a surrogate is not half of a pair. -/
def unescape : List Char → Option (List Char)
  | [] => some []
  | '\\' :: 'u' :: a :: b :: c :: d :: rest =>
    let unit := hexValue4 a b c d
    if 0xDC00 ≤ unit && unit ≤ 0xDFFF then none
    else if 0xD800 ≤ unit && unit ≤ 0xDBFF then
      match rest with
      | '\\' :: 'u' :: e :: f :: g :: h :: rest =>
        let low := hexValue4 e f g h
        if 0xDC00 ≤ low && low ≤ 0xDFFF then
          (unescape rest).map
            (Char.ofNat (0x10000 + (unit - 0xD800) * 0x400 + (low - 0xDC00)) :: ·)
        else none
      | _ => none
    else (unescape rest).map (Char.ofNat unit :: ·)
  | '\\' :: c :: rest => (unescape rest).map (letterValue c :: ·)
  | c :: rest => (unescape rest).map (c :: ·)

/-- The string a body stands for. -/
def Raw.text? (body : List Char) : Option String :=
  (unescape body).map String.ofList

/-- The value of a tree, with arrays and objects nested at most `depth` deep. -/
def Raw.value? : Nat → Raw → Option Json
  | _, .null => some .null
  | _, .bool b => some (.bool b)
  | _, .number token => token.number?.map .number
  | _, .string body => (Raw.text? body).map .string
  | 0, .array _ => none
  | 0, .object _ => none
  | depth + 1, .array items => (items.mapM (Raw.value? depth)).map .array
  | depth + 1, .object members =>
    (members.mapM fun (key, raw) => do
      let name ← Raw.text? key
      let value ← Raw.value? depth raw
      return (name, value)).map ofMembers

/-- Read a value. -/
def parse? (text : String) : Option Json :=
  (Raw.parse? text.toList).bind (Raw.value? maxDepth)

end SiteScript.Json
