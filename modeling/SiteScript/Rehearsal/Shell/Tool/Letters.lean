import SiteScript.Rehearsal.Shell.Tool.Lines

/-!
# SiteScript.Rehearsal.Shell.Tool.Letters

Bytes written as letters, a fixed number of bits each (`Alphabet`).  Letters come in groups that stand for
whole bytes; a group that is not full is padded.  What is written is cut into lines of a width.
-/

namespace SiteScript.Rehearsal.Shell

/-- How bytes are written as letters. -/
structure Alphabet where
  letters : Octets
  /-- How many bits a letter stands for. -/
  bits : Nat
  /-- How many letters stand for whole bytes. -/
  group : Nat
  padded : Bool := true
  /-- Whether the lowest bit of a byte comes first. -/
  lowFirst : Bool := false
  /-- Whether what a broken group begins with still counts. -/
  lenient : Bool := false

namespace Alphabet

/-- The capital letters and the digits. -/
def capitals : Octets := "ABCDEFGHIJKLMNOPQRSTUVWXYZ".toList

/-- The alphabets by name. -/
def named : List (String × Alphabet) :=
  let all := capitals ++ capitals.map Char.toLower ++ "0123456789".toList
  [("base64", { letters := all ++ ['+', '/'], bits := 6, group := 4, lenient := true }),
    ("base64url", { letters := all ++ ['-', '_'], bits := 6, group := 4, lenient := true }),
    ("base32", { letters := capitals ++ "234567".toList, bits := 5, group := 8 }),
    ("base32hex",
      { letters := "0123456789".toList ++ capitals.take 22, bits := 5, group := 8 }),
    ("base16", { letters := "0123456789ABCDEF".toList, bits := 4, group := 2, padded := false }),
    ("base2msbf", { letters := ['0', '1'], bits := 1, group := 8, padded := false }),
    ("base2lsbf",
      { letters := ['0', '1'], bits := 1, group := 8, padded := false, lowFirst := true })]

variable (alphabet : Alphabet)

/-- The bits of a number, the highest first. -/
def bitsOf (width n : Nat) : List Nat := (List.range width).reverse.map fun i => n / Nat.pow 2 i % 2

/-- The number of bits, the highest first. -/
def ofBits (bits : List Nat) : Nat := bits.foldl (fun n bit => 2 * n + bit) 0

/-- The bits of a byte in the order of the alphabet. -/
def byteBits (c : Char) : List Nat :=
  let bits := bitsOf 8 c.toNat
  if alphabet.lowFirst then bits.reverse else bits

/-- The letters of bits; the last letter is filled with zeros. -/
def lettersOf : Nat → List Nat → Octets
  | 0, _ => []
  | _, [] => []
  | fuel + 1, bits =>
    let first := bits.take alphabet.bits
    let filled := first ++ List.replicate (alphabet.bits - first.length) 0
    alphabet.letters.getD (ofBits filled) '?' :: lettersOf fuel (bits.drop alphabet.bits)

/-- The letters of a group of bytes, padded. -/
def encodeGroup (bytes : Octets) : Octets :=
  let letters := alphabet.lettersOf 41 (bytes.flatMap alphabet.byteBits)
  letters ++ (if alphabet.padded then List.replicate (alphabet.group - letters.length) '=' else [])

/-- The letters of bytes. -/
def encode (text : Octets) : Octets :=
  let size := alphabet.group * alphabet.bits / 8
  let (done, last) := text.foldl (fun ((done, last) : List Octets × Octets) c =>
    let last := last ++ [c]
    if last.length = size then (alphabet.encodeGroup last :: done, []) else (done, last)) ([], [])
  ((if last.isEmpty then done else alphabet.encodeGroup last :: done).reverse).flatten

/-- The bytes of full groups of eight bits. -/
def bytesOf : Nat → List Nat → Octets
  | 0, _ => []
  | fuel + 1, bits =>
    if bits.length < 8 then []
    else
      let first := bits.take 8
      Char.ofNat (ofBits (if alphabet.lowFirst then first.reverse else first)) ::
        bytesOf fuel (bits.drop 8)

/-- How many letters a group may have before its padding. -/
def isWhole (letters : Nat) : Bool :=
  letters = alphabet.group ||
    (alphabet.padded && letters > 0 && letters * alphabet.bits % 8 < alphabet.bits)

/-- The bytes of a group of letters, and whether it is right. -/
def decodeGroup (letters : Octets) : Octets × Bool :=
  let own := letters.takeWhile fun c => alphabet.letters.contains c
  let bits := own.flatMap fun c => bitsOf alphabet.bits (alphabet.letters.idxOf c)
  let isRight := letters.length = alphabet.group && alphabet.isWhole own.length &&
    (letters.drop own.length).all (· == '=')
  let bytes := alphabet.bytesOf 6 bits
  (if isRight || alphabet.lenient then bytes else [], isRight)

/-- The bytes that letters stand for, as far as they are right, and whether all are. -/
def decode : Nat → Octets → Octets × Bool
  | 0, _ => ([], true)
  | _, [] => ([], true)
  | fuel + 1, text =>
    let (bytes, isRight) := alphabet.decodeGroup (text.take alphabet.group)
    if isRight then
      let (more, isRight) := decode fuel (text.drop alphabet.group)
      (bytes ++ more, isRight)
    else (bytes, false)

end Alphabet

/-- Text cut into lines of a width; none if there is no width. -/
def wrapped (width : Nat) : Nat → Octets → Octets
  | 0, text => text
  | fuel + 1, text =>
    if width = 0 || text.isEmpty then text
    else text.take width ++ '\n' :: wrapped width fuel (text.drop width)

/-- Write bytes as letters of an alphabet, or letters as bytes. -/
def writeLetters (call : Call) (alphabet : Alphabet) (options : Options) : Effect :=
  match (options.value? 'w').getD "76".toList |> natural?, options.operands with
  | none, _ =>
    call.start.complain (call.name ++ ": invalid wrap size: " ++ inQuotes ((options.value? 'w').getD []))
  | some _, _ :: extra :: _ => call.lacking ("extra operand " ++ inQuotes extra)
  | some width, operands =>
    let (text, effect) := call.joined operands 1
    if effect.status != 0 then effect
    else if options.has 'd' then
      let letters := text.filter fun c => c != '\n' &&
        (!options.has 'i' || alphabet.letters.contains c || c == '=')
      let (bytes, isRight) := alphabet.decode (letters.length + 1) letters
      let effect := effect.say bytes
      if isRight then effect else effect.complain (call.name ++ ": invalid input")
    else
      let letters := alphabet.encode text
      effect.say (wrapped width (letters.length + 1) letters)

/-- The options of the programs that write letters. -/
def letterOptions : OptionSpec :=
  { flags := "di", valued := "w"
    long := [("decode", 'd'), ("ignore-garbage", 'i'), ("wrap", 'w')] }

/-- Write bytes as letters of one alphabet. -/
def lettersOf (name : String) : Tool := fun call =>
  call.withOptions letterOptions 1 fun options =>
    match Alphabet.named.lookup name with
    | some alphabet => writeLetters call alphabet options
    | none => call.start

/-- Write bytes as letters of the alphabet that is named by an option. -/
def lettersOfAny : Tool := fun call =>
  let names := call.args.filterMap fun arg => do
    let name ← Text.dropPrefix? ['-', '-'] arg
    Alphabet.named.lookup (String.ofList name)
  let isName (arg : Octets) : Bool :=
    ((Text.dropPrefix? ['-', '-'] arg).bind fun name =>
      Alphabet.named.lookup (String.ofList name)).isSome
  match names.getLast? with
  | none => call.lacking "missing encoding type"
  | some alphabet =>
    { call with args := call.args.filter (!isName ·) }.withOptions letterOptions 1 fun options =>
      writeLetters call alphabet options

end SiteScript.Rehearsal.Shell
