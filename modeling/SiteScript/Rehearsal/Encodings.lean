import SiteScript.Bytes

/-!
# SiteScript.Rehearsal.Encodings

How the files of certificates and keys are written.

They hold armoured sections.  A section stands between a line `-----BEGIN LABEL-----` and a line that
begins with `-----END LABEL-----`; what is outside sections does not count.  A line that begins a section
inside another one gives it another label, and what was read stays.

The content of a section is checked only if its label is one that can be asked for (`isKnown`).

The content is bytes written as letters, six bits each (`Base64`).  Blanks do not count; marks of padding
may only end the text, and if there are any, they must bring it to a multiple of four.

What stands in a section is a value in a tagged encoding (`Der`): a tag, a length and the content.  A length
must be written in the shortest way, and is at most two bytes long.
-/

/-! ## Letters -/

namespace SiteScript.Base64

/-- The six bits that a letter stands for. -/
def value? (b : UInt8) : Option Nat :=
  let n := b.toNat
  if 65 ≤ n && n ≤ 90 then some (n - 65)
  else if 97 ≤ n && n ≤ 122 then some (n - 71)
  else if 48 ≤ n && n ≤ 57 then some (n + 4)
  else if n = 43 then some 62
  else if n = 47 then some 63
  else none

/-- A byte that does not count. -/
def isBlank (b : UInt8) : Bool := b == 32 || (9 ≤ b && b ≤ 13)

/-- The mark of padding. -/
def padding : UInt8 := 61

/-- The bytes of groups of six bits; bits that do not fill a byte are dropped. -/
def join : List Nat → Bytes
  | a :: b :: c :: d :: rest =>
    let n := ((a * 64 + b) * 64 + c) * 64 + d
    UInt8.ofNat (n / 65536) :: UInt8.ofNat (n / 256) :: UInt8.ofNat n :: join rest
  | [a, b, c] =>
    let n := (a * 64 + b) * 64 + c
    [UInt8.ofNat (n / 1024), UInt8.ofNat (n / 4)]
  | [a, b] => [UInt8.ofNat ((a * 64 + b) / 16)]
  | _ => []

/-- Whether so many letters can be followed by so many marks of padding. -/
def fits (letters marks : Nat) : Bool :=
  if marks = 0 then letters % 4 != 1 else marks ≤ 2 && (letters + marks) % 4 = 0

/-- The bytes that a text stands for. -/
def decode? (text : Bytes) : Option Bytes :=
  let text := text.filter fun b => !isBlank b
  let letters := text.takeWhile (· != padding)
  let marks := text.drop letters.length
  if marks.all (· == padding) && fits letters.length marks.length then
    (letters.mapM value?).map join
  else none

end SiteScript.Base64

/-! ## Sections -/

namespace SiteScript.Rehearsal.Armour

/-- A section of a file. -/
structure Part where
  label : Bytes
  content : Bytes

/-- Whether a section has one of some labels. -/
def Part.hasLabel (labels : List String) (part : Part) : Bool :=
  labels.any fun label => Bytes.ofText label == part.label

/-- The lines of a file, which end at either of the usual marks. -/
def lines : Bytes → List Bytes
  | [] => [[]]
  | b :: rest =>
    match lines rest with
    | line :: more => if b == 10 || b == 13 then [] :: line :: more else (b :: line) :: more
    | [] => [[b]]

/-- What follows a beginning. -/
def after? (start : String) (line : Bytes) : Option Bytes :=
  let start := Bytes.ofText start
  if start.isPrefixOf line then some (line.drop start.length) else none

/-- The label of the section that a line begins: after it stand exactly five dashes, and blanks at
most.  The outer `none` is for other lines. -/
def beginning? (line : Bytes) : Option (Option Bytes) :=
  (after? "-----BEGIN " line).map fun rest =>
    let trimmed := rest.reverse.dropWhile (· == 32)
    let dashes := trimmed.takeWhile (· == 45)
    if dashes.length = 5 then some (trimmed.drop 5).reverse else none

/-- Whether a line ends the section with a label. -/
def ends (label line : Bytes) : Bool :=
  (Bytes.ofText "-----END " ++ label ++ Bytes.ofText "-----").isPrefixOf line

/-- The labels of sections that can be asked for. -/
def knownLabels : List String :=
  ["CERTIFICATE", "PUBLIC KEY", "RSA PRIVATE KEY", "PRIVATE KEY", "EC PRIVATE KEY", "X509 CRL",
    "CERTIFICATE REQUEST", "ECHCONFIG"]

/-- Whether a section can be asked for. -/
def isKnown (label : Bytes) : Bool := knownLabels.any fun known => Bytes.ofText known == label

/-- The sections of lines, in order; an error stands where a section is damaged or has no end, and
nothing follows it. -/
def parts (current : Option (Bytes × Bytes)) : List Bytes → List (Option Part)
  | [] => if current.isSome then [none] else []
  | line :: rest =>
    match beginning? line, current with
    | some none, _ => [none]
    | some (some label), _ => parts (some (label, (current.map (·.2)).getD [])) rest
    | none, none => parts none rest
    | none, some (label, text) =>
      if ends label line then
        if isKnown label then
          match Base64.decode? text with
          | some content => some { label, content } :: parts none rest
          | none => [none]
        else parts none rest
      else parts (some (label, text ++ line)) rest

/-- The sections of a file. -/
def ofFile (content : ByteArray) : List (Option Part) :=
  parts none (lines (Bytes.ofArray content))

end SiteScript.Rehearsal.Armour

/-! ## Tagged values -/

namespace SiteScript.Rehearsal.Der

/-- The tags that occur. -/
def integerTag : UInt8 := 0x02

@[inherit_doc integerTag]
def truthTag : UInt8 := 0x01

@[inherit_doc integerTag]
def nameTag : UInt8 := 0x06

@[inherit_doc integerTag]
def bitsTag : UInt8 := 0x03

@[inherit_doc integerTag]
def octetsTag : UInt8 := 0x04

@[inherit_doc integerTag]
def sequenceTag : UInt8 := 0x30

/-- The tag of a part with a number that is marked by its place. -/
def placeTag (n : UInt8) : UInt8 := 0xA0 + n

/-- The number of bytes with the highest first. -/
def ofBigEndian (bytes : Bytes) : Nat := Bytes.ofLittleEndian bytes.reverse

/-- The length at the beginning of bytes, and what follows it. -/
def length? : Bytes → Option (Nat × Bytes)
  | [] => none
  | first :: rest =>
    if first < 0x80 then some (first.toNat, rest)
    else
      match first, rest with
      | 0x81, a :: rest => if a.toNat < 128 then none else some (a.toNat, rest)
      | 0x82, a :: b :: rest =>
        let n := a.toNat * 256 + b.toNat
        if n < 256 then none else some (n, rest)
      | _, _ => none

/-- The content of the value with a tag at the beginning of bytes, and what follows it. -/
def read? (tag : UInt8) : Bytes → Option (Bytes × Bytes)
  | [] => none
  | first :: rest => do
    let (n, rest) ← length? rest
    if first == tag && n ≤ rest.length then some (rest.take n, rest.drop n) else none

/-- The content of the value that makes up bytes. -/
def only? (tag : UInt8) (bytes : Bytes) : Option Bytes := do
  let (content, rest) ← read? tag bytes
  if rest.isEmpty then some content else none

/-- A number that is not negative, written in the shortest way. -/
def natural? (bytes : Bytes) : Option (Nat × Bytes) := do
  let (content, rest) ← read? integerTag bytes
  match content with
  | [] => none
  | [a] => if a < 0x80 then some (a.toNat, rest) else none
  | a :: b :: _ =>
    if a ≥ 0x80 || (a == 0 && b < 0x80) then none else some (ofBigEndian content, rest)

/-- Numbers one after another. -/
def naturals? : Nat → Bytes → Option (List Nat × Bytes)
  | 0, bytes => some ([], bytes)
  | count + 1, bytes => do
    let (n, rest) ← natural? bytes
    let (more, rest) ← naturals? count rest
    return (n :: more, rest)

/-- Bits that fill bytes. -/
def bits? (bytes : Bytes) : Option (Bytes × Bytes) := do
  let (content, rest) ← read? bitsTag bytes
  match content with
  | 0 :: bits => some (bits, rest)
  | _ => none

/-- The bytes of a number below a power of 256, with the highest first and none too many. -/
def digits : Nat → Nat → Bytes
  | 0, _ => []
  | fuel + 1, n => if n = 0 then [] else digits fuel (n / 256) ++ [UInt8.ofNat n]

/-- Write a value. -/
def write (tag : UInt8) (content : Bytes) : Bytes :=
  let n := content.length
  let length : Bytes := if n < 128 then [UInt8.ofNat n]
    else if n < 256 then [0x81, UInt8.ofNat n]
    else [0x82, UInt8.ofNat (n / 256), UInt8.ofNat n]
  tag :: length ++ content

/-- Write a number that is not negative and has so many bytes at most. -/
def writeNatural (most n : Nat) : Bytes :=
  let bytes := digits most n
  match bytes with
  | [] => write integerTag [0]
  | a :: _ => write integerTag (if a ≥ 0x80 then 0 :: bytes else bytes)

end SiteScript.Rehearsal.Der
