import SiteScript.Cipher.Md5
import SiteScript.Cipher.Sha1
import SiteScript.Cipher.Sha256
import SiteScript.Cipher.Sha512
import SiteScript.Hex
import SiteScript.Rehearsal.Shell.Tool.Basic

/-!
# SiteScript.Rehearsal.Shell.Tool.Digests

Digests and sums of files.  A digest is written before the name of its file, or after it together with
the name of the algorithm; lines of both forms can be read back and compared with the files
(`checkDigests`).  The older sums are numbers with the size of the file.
-/

namespace SiteScript.Rehearsal.Shell

namespace Digest

/-- A way to make digests. -/
structure Algorithm where
  /-- The name that stands in the longer form of lines. -/
  label : String
  digest : Bytes → Bytes
  /-- How many bytes a digest has. -/
  size : Nat

/-- The algorithms. -/
def algorithms : List Algorithm :=
  [⟨"MD5", Md5.digest, 16⟩, ⟨"SHA1", Sha1.digest, 20⟩, ⟨"SHA224", Sha256.digestShort, 28⟩,
    ⟨"SHA256", Sha256.digest, 32⟩, ⟨"SHA384", Sha512.digestShort, 48⟩, ⟨"SHA512", Sha512.digest, 64⟩]

/-- The algorithm with a name, in small or capital letters. -/
def algorithm? (name : String) : Option Algorithm :=
  algorithms.find? fun algorithm => algorithm.label.toList == name.toList.map Char.toUpper

/-! ## Lines -/

/-- How lines are written. -/
structure Manner where
  /-- Whether the name of the algorithm is written. -/
  tagged : Bool := false
  /-- Whether a mark stands before the name. -/
  marked : Bool := false
  ending : Char := '\n'

/-- A name in which the ends of lines are written as letters, and whether there are any. -/
def escaped (name : Octets) : Octets × Bool :=
  if name.any fun c => c == '\n' || c == '\\' || c == '\r' then
    (name.flatMap fun c =>
      if c == '\n' then ['\\', 'n'] else if c == '\r' then ['\\', 'r']
      else if c == '\\' then ['\\', '\\'] else [c], true)
  else (name, false)

/-- The name that an escaped name stands for. -/
def unescaped : Octets → Octets
  | '\\' :: c :: rest =>
    (if c == 'n' then '\n' else if c == 'r' then '\r' else c) :: unescaped rest
  | c :: rest => c :: unescaped rest
  | [] => []

/-- The line of a file. -/
def line (algorithm : Algorithm) (manner : Manner) (name content : Octets) : Octets :=
  let digits := Hex.encode (algorithm.digest content.bytes)
  let (name, isEscaped) := if manner.ending == '\n' then escaped name else (name, false)
  let mark : Octets := if isEscaped then ['\\'] else []
  if manner.tagged then
    mark ++ algorithm.label.toList ++ " (".toList ++ name ++ ") = ".toList ++ digits ++ [manner.ending]
  else mark ++ digits ++ [' ', if manner.marked then '*' else ' '] ++ name ++ [manner.ending]

/-- Whether a text is a digest of an algorithm. -/
def isDigest (algorithm : Algorithm) (text : Octets) : Bool :=
  text.length = 2 * algorithm.size &&
    text.all fun c => (Hex.digitValue? (UInt8.ofNat c.toNat)).isSome

/-- The digest and the name in a line of the longer form. -/
def readTagged? (algorithm : Algorithm) (line : Octets) : Option (Octets × Octets) := do
  let rest ← Text.dropPrefix? (algorithm.label.toList ++ " (".toList) line
  let count := 2 * algorithm.size
  let digits := rest.drop (rest.length - count)
  let before := rest.take (rest.length - count)
  let middle := before.drop (before.length - 4)
  if middle == ") = ".toList && isDigest algorithm digits then
    return (digits, before.take (before.length - 4))
  else none

/-- The digest and the name in a line. -/
def readLine? (algorithm : Algorithm) (line : Octets) : Option (Octets × Octets) := do
  let (isEscaped, line) := match line.dropWhile fun c => c == ' ' || c == '\t' with
    | '\\' :: rest => (true, rest)
    | line => (false, line)
  let (digits, name) ← readTagged? algorithm line <|> do
    let digits := line.take (2 * algorithm.size)
    match line.drop digits.length with
    | ' ' :: c :: name =>
      if isDigest algorithm digits && !(c :: name).isEmpty then
        some (digits, if c == ' ' || c == '*' then name else c :: name)
      else none
    | _ => none
  if name.isEmpty then none
  else return (digits.map Char.toLower, if isEscaped then unescaped name else name)

/-! ## Checks -/

/-- What is told about files that are checked. -/
structure Reporting where
  quiet : Bool := false
  silent : Bool := false
  strict : Bool := false
  ignoresMissing : Bool := false

/-- What a check has found. -/
structure Found where
  effect : Effect
  read : Nat := 0
  verified : Nat := 0
  malformed : Nat := 0
  failed : Bool := false

/-- Check a line. -/
def checkLine (call : Call) (algorithm : Algorithm) (reporting : Reporting) (found : Found)
    (line : Octets) : Found :=
  if line.isEmpty || line.head? == some '#' then found
  else
    match readLine? algorithm line with
    | none => { found with malformed := found.malformed + 1 }
    | some (digits, name) =>
      let tell (what : String) : Effect :=
        if reporting.silent then found.effect
        else found.effect.say ((escaped name).1 ++ octets (": " ++ what ++ "\n"))
      let found := { found with read := found.read + 1 }
      let content := if name == ['-'] then .ok call.input else call.read call.files name
      match content with
      | .error fault =>
        if fault == .notFound && reporting.ignoresMissing then found
        else
          { found with
            effect := (tell "FAILED open or read").complain (mistake call.name name fault)
            failed := true }
      | .ok content =>
        if Hex.encode (algorithm.digest content.bytes) == digits then
          { found with
            effect := if reporting.quiet then found.effect else tell "OK"
            verified := found.verified + 1 }
        else { found with effect := tell "FAILED", failed := true }

/-- Check the lines of files. -/
def check (call : Call) (algorithm : Algorithm) (reporting : Reporting) (operands : List Octets) :
    Effect :=
  let start := { call.start with taken := call.inputTaken operands }
  (call.contents operands).foldl (fun effect (operand, content) =>
    match content with
    | .error fault => effect.complain (mistake call.name operand fault)
    | .ok text =>
      let found := (Octets.lines text).foldl (checkLine call algorithm reporting) { effect }
      if found.read = 0 then
        found.effect.complain (mistake call.name operand .invalidArgument)
      else if reporting.ignoresMissing && found.verified = 0 then
        found.effect.complain (call.name ++ ": " ++ operand.name ++ ": no file was verified")
      else if found.failed || (reporting.strict && found.malformed > 0) then
        { found.effect with status := 1 }
      else found.effect) start

end Digest

open Digest in
/-- Write digests of files, or check lines that were written so. -/
def digests (label : String) : Tool := fun call =>
  call.withOptions
    { flags := "bctwzTqsiS"
      long := [("binary", 'b'), ("check", 'c'), ("text", 't'), ("warn", 'w'), ("zero", 'z'), ("tag", 'T'),
        ("quiet", 'q'), ("status", 's'), ("ignore-missing", 'i'), ("strict", 'S')] } 1
    fun options =>
      match algorithm? label with
      | none => call.start
      | some algorithm =>
        if options.has 'c' then
          check call algorithm
            { quiet := options.has 'q' || options.has 's', silent := options.has 's'
              strict := options.has 'S', ignoresMissing := options.has 'i' } options.operands
        else
          let manner : Manner :=
            { tagged := options.has 'T', marked := options.prevails 'b' ['t']
              ending := if options.has 'z' then '\x00' else '\n' }
          let start := { call.start with taken := call.inputTaken options.operands }
          (call.contents options.operands).foldl (fun effect (operand, content) =>
            match content with
            | .ok text => effect.say (line algorithm manner operand text)
            | .error fault => effect.complain (mistake call.name operand fault)) start

/-! ## Sums -/

namespace Sum

/-- Take a bit into the remainder of a division of polynomials, the highest bit first. -/
def divideBit (r : UInt32) : UInt32 :=
  if r &&& 0x80000000 = 0 then r <<< 1 else (r <<< 1) ^^^ 0x04C11DB7

/-- Take a byte into the remainder. -/
def divideByte (r : UInt32) (b : UInt8) : UInt32 :=
  Nat.repeat divideBit 8 (r ^^^ (b.toUInt32 <<< 24))

/-- The bytes of a length, the lowest first and no more than there need to be. -/
def lengthBytes : Nat → Nat → Bytes
  | 0, _ => []
  | fuel + 1, n => if n = 0 then [] else UInt8.ofNat n :: lengthBytes fuel (n / 256)

/-- The remainder of a text and its length. -/
def remainder (text : Octets) : Nat :=
  let r := text.bytes.foldl divideByte 0
  (~~~((lengthBytes 9 text.length).foldl divideByte r)).toNat

/-- A sum that is turned before each byte is added. -/
def turned (text : Octets) : Nat :=
  text.foldl (fun sum c => (sum / 2 + sum % 2 * 32768 + c.toNat) % 65536) 0

/-- The sum of the bytes, folded to sixteen bits. -/
def plain (text : Octets) : Nat :=
  let sum := text.foldl (fun sum c => sum + c.toNat) 0
  let folded := sum % 65536 + sum % 4294967296 / 65536
  folded % 65536 + folded / 65536

/-- A number with zeros before it. -/
def zeroPadded (width n : Nat) : Octets :=
  let digits := Octets.ofNat n
  List.replicate (width - digits.length) '0' ++ digits

/-- The kinds of sums. -/
inductive Kind where
  | remainder
  | turned
  | plain

/-- The sum of a text with its size. -/
def Kind.text (content : Octets) : Kind → Octets
  | .remainder => Octets.ofNat (Sum.remainder content) ++ ' ' :: Octets.ofNat content.length
  | .turned =>
    let blocks := Octets.ofNat ((content.length + 1023) / 1024)
    zeroPadded 5 (Sum.turned content) ++ ' ' :: List.replicate (5 - blocks.length) ' ' ++ blocks
  | .plain => Octets.ofNat (Sum.plain content) ++ ' ' :: Octets.ofNat ((content.length + 511) / 512)

/-- Write sums of files. -/
def write (call : Call) (kind : Kind) (operands : List Octets) : Effect :=
  let start := { call.start with taken := call.inputTaken operands }
  (call.contents operands).foldl (fun effect (operand, content) =>
    match content with
    | .ok text =>
      effect.say (kind.text text ++ (if operands.isEmpty then [] else ' ' :: operand) ++ ['\n'])
    | .error fault => effect.complain (mistake call.name operand fault)) start

end Sum

/-- Write sums of files, of the turned kind or of the plain one. -/
def sums : Tool := fun call =>
  call.withOptions { flags := "rs", long := [("sysv", 's')] } 1 fun options =>
    Sum.write call (if options.prevails 's' ['r'] then .plain else .turned) options.operands

open Digest in
/-- Write remainders of files, or what another algorithm makes of them. -/
def remainders : Tool := fun call =>
  call.withOptions
    { flags := "TUcz", valued := "a"
      long := [("algorithm", 'a'), ("tag", 'T'), ("untagged", 'U'), ("check", 'c'), ("zero", 'z')] } 1
    fun options =>
      let name := String.ofList ((options.value? 'a').getD "crc".toList)
      match name, algorithm? name with
      | "crc", _ => Sum.write call .remainder options.operands
      | "bsd", _ => Sum.write call .turned options.operands
      | "sysv", _ => Sum.write call .plain options.operands
      | _, none => call.lacking ("invalid argument " ++ inQuotes name.toList ++ " for \x27--algorithm\x27")
      | _, some algorithm =>
        if options.has 'c' then check call algorithm {} options.operands
        else
          let manner : Manner :=
            { tagged := options.prevails 'T' ['U'] || !options.has 'U'
              ending := if options.has 'z' then '\x00' else '\n' }
          let start := { call.start with taken := call.inputTaken options.operands }
          (call.contents options.operands).foldl (fun effect (operand, content) =>
            match content with
            | .ok text => effect.say (line algorithm manner operand text)
            | .error fault => effect.complain (mistake call.name operand fault)) start

end SiteScript.Rehearsal.Shell
