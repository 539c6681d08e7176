import SiteScript.Decimal
import SiteScript.Text.Basic
import SiteScript.Text.Lossy

/-!
# SiteScript.Rehearsal.Shell.Octets

Text as shells and the programs they call see it: bytes.  A byte is kept as the character with its
number, so that marks such as `;` can be written as characters; `octets` and `Octets.name` lead from
texts to bytes and back.
-/

namespace SiteScript.Rehearsal.Shell

/-- Text of bytes: one character below 256 for each. -/
abbrev Octets := List Char

/-- The bytes of a text. -/
def octets (text : String) : Octets :=
  (Bytes.ofText text).map fun b => Char.ofNat b.toNat

namespace Octets

/-- Bytes as a text of bytes. -/
def ofBytes (bytes : Bytes) : Octets := bytes.map fun b => Char.ofNat b.toNat

/-- The bytes that a text of bytes stands for. -/
def bytes (text : Octets) : Bytes := text.map fun c => UInt8.ofNat c.toNat

/-- The content of a file. -/
def ofArray (content : ByteArray) : Octets := ofBytes (Bytes.ofArray content)

/-- A text of bytes as the content of a file. -/
def toArray (text : Octets) : ByteArray := Bytes.toArray text.bytes

/-- The text whose bytes these are. -/
def name (text : Octets) : String := Text.ofBytesLossy text.bytes

/-- The digits of a natural number. -/
def ofNat (n : Nat) : Octets := Decimal.ofNat n

/-- The order of bytes: the first difference decides, and a shorter text comes before its
continuations. -/
def before : Octets → Octets → Bool
  | _, [] => false
  | [], _ :: _ => true
  | a :: as, b :: bs => if a = b then before as bs else a.toNat < b.toNat

/-- Sort by bytes. -/
def sorted (texts : List Octets) : List Octets :=
  texts.mergeSort fun a b => !before b a

/-- The parts of a text that a character ends.  The last part need not have an end. -/
def parts (ending : Char) (text : Octets) : List Octets :=
  let pieces := Text.split ending text
  if pieces.getLast? == some [] then pieces.dropLast else pieces

/-- The lines of a text, without their ends.  A last line need not have an end. -/
def lines (text : Octets) : List Octets := parts '\n' text

/-- Lines with their ends. -/
def unlines (lines : List Octets) : Octets := lines.flatMap (· ++ ['\n'])

/-- Words with blanks between them. -/
def spaced (words : List Octets) : Octets := Text.join ' ' words

/-- A blank of the usual kind. -/
def isSpace (c : Char) : Bool :=
  c == ' ' || ('\t' ≤ c && c ≤ '\r')

/-- The words between blanks. -/
def words (text : Octets) : List Octets :=
  (text.splitBy fun a b => isSpace a == isSpace b).filter fun word => !(word.head?.any isSpace)

end Octets

/-- The first character of a name. -/
def isNameStart (c : Char) : Bool := c.isAlpha || c == '_'

/-- The characters of a name. -/
def isNameChar (c : Char) : Bool := c.isAlphanum || c == '_'

/-- Whether a text can name a variable or a function. -/
def isName (text : Octets) : Bool :=
  text.head?.any isNameStart && text.all isNameChar

end SiteScript.Rehearsal.Shell
