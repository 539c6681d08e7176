import SiteScript.Bytes

/-!
# SiteScript.Archive.Deflate

The compressed format of gzip and zip.  `store` writes bytes as blocks that hold them as they are;
`inflate?` reads every form: stored blocks, blocks under the fixed codes and blocks that bring their
own codes.

Bits are taken from the lowest of each byte up.  The bits of whole bytes come to a multiple of eight,
so the place inside a byte is known from the number of bits left.

Prefix codes are given by the lengths of their words alone (`Huffman`): words of one length follow each
other in the order of their symbols, and shorter words come before longer ones.
-/

/-! ## Prefix codes -/

namespace SiteScript

/-- A prefix code: how many words there are of each length from one up, and the symbols in the order
of their words. -/
structure Huffman where
  counts : List Nat
  symbols : Array Nat

namespace Huffman

/-- The longest word. -/
def maxLength : Nat := 15

/-- Room left for words after `counts`, out of `room` for words of the current length; none when the
code has more words than there is room for. -/
def roomLeft (room : Nat) : List Nat → Option Nat
  | [] => some room
  | count :: counts => if count ≤ 2 * room then roomLeft (2 * room - count) counts else none

/-- The code whose word for symbol `i` has the `i`-th length; zero means that there is no word.  The
words must fill the code, except that a code of no word, or of one word of one bit, may leave room when
`partly`. -/
def ofLengths? (partly : Bool) (lengths : List Nat) : Option Huffman :=
  let counts := (List.range maxLength).map fun i => lengths.count (i + 1)
  let numbered := lengths.zipIdx
  let symbols := (List.range maxLength).flatMap fun i =>
    numbered.filterMap fun (length, symbol) => if length = i + 1 then some symbol else none
  match roomLeft 1 counts with
  | none => none
  | some room =>
    if room = 0 || (partly && symbols.length ≤ 1 && lengths.all (· ≤ 1)) then
      some ⟨counts, symbols.toArray⟩
    else none

/-- Read a word: `code` is the bits so far, `first` the first word of the current length and `index`
the number of words before it. -/
def readWord (symbols : Array Nat) (code first index : Nat) :
    List Nat → List Bool → Option (Nat × List Bool)
  | count :: counts, bit :: bits =>
    let code := 2 * code + bit.toNat
    let first := 2 * first
    if code < first + count then
      (symbols[index + (code - first)]?).map fun symbol => (symbol, bits)
    else readWord symbols code (first + count) (index + count) counts bits
  | _, _ => none

/-- Read the symbol at the front of the bits. -/
def read (code : Huffman) (bits : List Bool) : Option (Nat × List Bool) :=
  readWord code.symbols 0 0 0 code.counts bits

end Huffman

end SiteScript

namespace SiteScript.Deflate

/-! ## Bits -/

/-- The bits of a byte, the lowest first. -/
def bitsOfByte (b : UInt8) : List Bool :=
  (List.range 8).map b.toNat.testBit

/-- The bits of bytes. -/
def bitsOf (bytes : Bytes) : List Bool :=
  bytes.flatMap bitsOfByte

/-- The number at the front of the bits, the lowest bit first. -/
def takeNumber : Nat → List Bool → Option (Nat × List Bool)
  | 0, bits => some (0, bits)
  | _ + 1, [] => none
  | n + 1, bit :: bits => (takeNumber n bits).map fun (high, bits) => (bit.toNat + 2 * high, bits)

/-- Go on at the next whole byte. -/
def align (bits : List Bool) : List Bool :=
  bits.drop (bits.length % 8)

/-! ## Codes -/

/-- Extra bits and least value of a length or distance symbol. -/
abbrev Step := Nat × Nat

/-- The steps of symbols whose extra bits are given: each begins where the one before ends. -/
def stepsFrom (base : Nat) : List Nat → List Step
  | [] => []
  | extra :: rest => (extra, base) :: stepsFrom (base + Nat.pow 2 extra) rest

/-- The lengths of the symbols from 257 on; the last stands for the longest length alone. -/
def lengthSteps : List Step :=
  stepsFrom 3 [0, 0, 0, 0, 0, 0, 0, 0, 1, 1, 1, 1, 2, 2, 2, 2, 3, 3, 3, 3, 4, 4, 4, 4, 5, 5, 5, 5]
    ++ [(0, 258)]

/-- The distances of the distance symbols. -/
def distanceSteps : List Step :=
  stepsFrom 1 [0, 0, 0, 0, 1, 1, 2, 2, 3, 3, 4, 4, 5, 5, 6, 6, 7, 7, 8, 8, 9, 9, 10, 10, 11, 11,
    12, 12, 13, 13]

/-- The codes of a block: literals and lengths, and distances. -/
structure Codes where
  literals : Huffman
  distances : Huffman

/-- The fixed codes. -/
def fixedCodes? : Option Codes := do
  let literals ← Huffman.ofLengths? false
    (List.replicate 144 8 ++ List.replicate 112 9 ++ List.replicate 24 7 ++ List.replicate 8 8)
  let distances ← Huffman.ofLengths? false (List.replicate 32 5)
  return ⟨literals, distances⟩

/-- The order in which the lengths of the code for lengths are given. -/
def lengthOrder : List Nat := [16, 17, 18, 0, 8, 7, 9, 6, 10, 5, 11, 4, 12, 3, 13, 2, 14, 1, 15]

/-- Read `count` numbers of `width` bits. -/
def takeNumbers (width : Nat) : Nat → List Bool → Option (List Nat × List Bool)
  | 0, bits => some ([], bits)
  | count + 1, bits => do
    let (n, bits) ← takeNumber width bits
    let (rest, bits) ← takeNumbers width count bits
    return (n :: rest, bits)

/-- Read word lengths until there are `total`; `done` are those read, the latest first. -/
def takeLengths (code : Huffman) (total : Nat) :
    Nat → List Nat → List Bool → Option (List Nat × List Bool)
  | 0, _, _ => none
  | fuel + 1, done, bits =>
    if done.length = total then some (done.reverse, bits)
    else if done.length > total then none
    else do
      let (symbol, bits) ← code.read bits
      if symbol < 16 then takeLengths code total fuel (symbol :: done) bits
      else if symbol = 16 then
        let previous ← done.head?
        let (n, bits) ← takeNumber 2 bits
        takeLengths code total fuel (List.replicate (n + 3) previous ++ done) bits
      else if symbol = 17 then
        let (n, bits) ← takeNumber 3 bits
        takeLengths code total fuel (List.replicate (n + 3) 0 ++ done) bits
      else
        let (n, bits) ← takeNumber 7 bits
        takeLengths code total fuel (List.replicate (n + 11) 0 ++ done) bits

/-- Read the codes a block brings. -/
def takeCodes (bits : List Bool) : Option (Codes × List Bool) := do
  let (literalCount, bits) ← takeNumber 5 bits
  let (distanceCount, bits) ← takeNumber 5 bits
  let (lengthCount, bits) ← takeNumber 4 bits
  let literalCount := literalCount + 257
  let distanceCount := distanceCount + 1
  if literalCount > 286 || distanceCount > 30 then none
  else
    let (given, bits) ← takeNumbers 3 (lengthCount + 4) bits
    let lengthOf := fun symbol => ((List.zip lengthOrder given).lookup symbol).getD 0
    let code ← Huffman.ofLengths? false ((List.range 19).map lengthOf)
    let total := literalCount + distanceCount
    let (lengths, bits) ← takeLengths code total (total + 1) [] bits
    let literals ← Huffman.ofLengths? true (lengths.take literalCount)
    let distances ← Huffman.ofLengths? true (lengths.drop literalCount)
    return (⟨literals, distances⟩, bits)

/-! ## Blocks -/

/-- Repeat `length` bytes from `distance` back.  Before the first byte stand zeros. -/
def copyBack (distance : Nat) : Nat → ByteArray → ByteArray
  | 0, output => output
  | length + 1, output =>
    let byte := if distance ≤ output.size then output.data.getD (output.size - distance) 0 else 0
    copyBack distance length (output.push byte)

/-- Read a value given in steps. -/
def takeStep (steps : List Step) (symbol : Nat) (bits : List Bool) : Option (Nat × List Bool) := do
  let (extra, base) ← steps[symbol]?
  let (n, bits) ← takeNumber extra bits
  return (base + n, bits)

/-- Read symbols up to the end of the block. -/
def inflateSymbols (codes : Codes) : Nat → List Bool → ByteArray → Option (List Bool × ByteArray)
  | 0, _, _ => none
  | fuel + 1, bits, output => do
    let (symbol, bits) ← codes.literals.read bits
    if symbol < 256 then inflateSymbols codes fuel bits (output.push (UInt8.ofNat symbol))
    else if symbol = 256 then return (bits, output)
    else
      let (length, bits) ← takeStep lengthSteps (symbol - 257) bits
      let (symbol, bits) ← codes.distances.read bits
      let (distance, bits) ← takeStep distanceSteps symbol bits
      inflateSymbols codes fuel bits (copyBack distance length output)

/-- Read whole bytes. -/
def takeBytes : Nat → List Bool → ByteArray → Option (List Bool × ByteArray)
  | 0, bits, output => some (bits, output)
  | n + 1, bits, output => do
    let (b, bits) ← takeNumber 8 bits
    takeBytes n bits (output.push (UInt8.ofNat b))

/-- Read a stored block: its length, the complement of that, and its bytes. -/
def inflateStored (bits : List Bool) (output : ByteArray) : Option (List Bool × ByteArray) := do
  let (length, bits) ← takeNumber 16 (align bits)
  let (complement, bits) ← takeNumber 16 bits
  if length + complement = 0xFFFF then takeBytes length bits output else none

/-- Read blocks up to the last one. -/
def inflateBlocks : Nat → List Bool → ByteArray → Option (List Bool × ByteArray)
  | 0, _, _ => none
  | fuel + 1, bits, output => do
    let (final, bits) ← takeNumber 1 bits
    let (kind, bits) ← takeNumber 2 bits
    let (bits, output) ←
      if kind = 0 then inflateStored bits output
      else if kind = 1 then do
        let codes ← fixedCodes?
        inflateSymbols codes (bits.length + 1) bits output
      else if kind = 2 then do
        let (codes, bits) ← takeCodes bits
        inflateSymbols codes (bits.length + 1) bits output
      else none
    if final = 1 then return (bits, output) else inflateBlocks fuel bits output

/-- Decompress the bytes up to the end of the last block.  Gives the bytes after it too. -/
def inflate? (bytes : Bytes) : Option (ByteArray × Bytes) := do
  let bits := bitsOf bytes
  let (bits, output) ← inflateBlocks (bits.length + 1) bits ByteArray.empty
  return (output, bytes.drop (bytes.length - bits.length / 8))

/-! ## Storing -/

/-- The most bytes in a stored block. -/
def maxStored : Nat := 0xFFFF

/-- A stored block. -/
def storedBlock (last : Bool) (bytes : Bytes) : Bytes :=
  (if last then 1 else 0) :: (Bytes.littleEndian 2 bytes.length ++
    Bytes.littleEndian 2 (0xFFFF - bytes.length) ++ bytes)

/-- Groups of bytes as stored blocks, of which the last one is marked. -/
def storedBlocks : List Bytes → Bytes
  | [] => storedBlock true []
  | [bytes] => storedBlock true bytes
  | bytes :: rest => storedBlock false bytes ++ storedBlocks rest

/-- Bytes in the compressed format, stored as they are. -/
def store (bytes : Bytes) : Bytes :=
  storedBlocks (Bytes.groups maxStored bytes)

end SiteScript.Deflate
