import SiteScript.Bytes
import SiteScript.Hex

/-!
# SiteScript.Cipher.Sha256

The SHA-256 digest: the message is padded to whole blocks of 64 bytes, each block is expanded to 64
words, and 64 rounds per block stir them into eight words of state.  The digest of 224 bits begins with
another state and is cut.
-/

namespace SiteScript.Sha256

/-- The constants of the rounds. -/
def roundConstants : List UInt32 :=
  [0x428a2f98, 0x71374491, 0xb5c0fbcf, 0xe9b5dba5, 0x3956c25b, 0x59f111f1, 0x923f82a4, 0xab1c5ed5,
   0xd807aa98, 0x12835b01, 0x243185be, 0x550c7dc3, 0x72be5d74, 0x80deb1fe, 0x9bdc06a7, 0xc19bf174,
   0xe49b69c1, 0xefbe4786, 0x0fc19dc6, 0x240ca1cc, 0x2de92c6f, 0x4a7484aa, 0x5cb0a9dc, 0x76f988da,
   0x983e5152, 0xa831c66d, 0xb00327c8, 0xbf597fc7, 0xc6e00bf3, 0xd5a79147, 0x06ca6351, 0x14292967,
   0x27b70a85, 0x2e1b2138, 0x4d2c6dfc, 0x53380d13, 0x650a7354, 0x766a0abb, 0x81c2c92e, 0x92722c85,
   0xa2bfe8a1, 0xa81a664b, 0xc24b8b70, 0xc76c51a3, 0xd192e819, 0xd6990624, 0xf40e3585, 0x106aa070,
   0x19a4c116, 0x1e376c08, 0x2748774c, 0x34b0bcb5, 0x391c0cb3, 0x4ed8aa4a, 0x5b9cca4f, 0x682e6ff3,
   0x748f82ee, 0x78a5636f, 0x84c87814, 0x8cc70208, 0x90befffa, 0xa4506ceb, 0xbef9a3f7, 0xc67178f2]

/-- The eight words of state. -/
structure State where
  a : UInt32
  b : UInt32
  c : UInt32
  d : UInt32
  e : UInt32
  f : UInt32
  g : UInt32
  h : UInt32

/-- The state before the first block. -/
def initial : State :=
  ⟨0x6a09e667, 0xbb67ae85, 0x3c6ef372, 0xa54ff53a, 0x510e527f, 0x9b05688c, 0x1f83d9ab, 0x5be0cd19⟩

/-- The state before the first block of the shorter digest. -/
def initialShort : State :=
  ⟨0xc1059ed8, 0x367cd507, 0x3070dd17, 0xf70e5939, 0xffc00b31, 0x68581511, 0x64f98fa7, 0xbefa4fa4⟩

/-- Turn a word right by `n` bits. -/
def rotate (x : UInt32) (n : UInt32) : UInt32 := (x >>> n) ||| (x <<< (32 - n))

/-- One round: a constant and a word of the block go into the state. -/
def round (s : State) (constant word : UInt32) : State :=
  let s1 := rotate s.e 6 ^^^ rotate s.e 11 ^^^ rotate s.e 25
  let choice := (s.e &&& s.f) ^^^ (~~~s.e &&& s.g)
  let t1 := s.h + s1 + choice + constant + word
  let s0 := rotate s.a 2 ^^^ rotate s.a 13 ^^^ rotate s.a 22
  let majority := (s.a &&& s.b) ^^^ (s.a &&& s.c) ^^^ (s.b &&& s.c)
  ⟨t1 + (s0 + majority), s.a, s.b, s.c, s.d + t1, s.e, s.f, s.g⟩

/-- The word of four bytes, the highest first. -/
def wordOf (bytes : Bytes) : UInt32 :=
  bytes.foldl (fun w b => (w <<< 8) ||| b.toUInt32) 0

/-- Add `n` words to the words of a block, of which the latest stands first. -/
def extend : Nat → List UInt32 → List UInt32
  | 0, words => words
  | n + 1, words =>
    let at' := fun i => words.getD (i - 1) 0
    let w15 := at' 15
    let w2 := at' 2
    let s0 := rotate w15 7 ^^^ rotate w15 18 ^^^ (w15 >>> 3)
    let s1 := rotate w2 17 ^^^ rotate w2 19 ^^^ (w2 >>> 10)
    extend n ((at' 16 + s0 + at' 7 + s1) :: words)

/-- The 64 words of a block. -/
def schedule (block : Bytes) : List UInt32 :=
  (extend 48 ((Bytes.groups 4 block).map wordOf).reverse).reverse

/-- Stir a block into the state. -/
def compress (s : State) (block : Bytes) : State :=
  let t := (List.zip roundConstants (schedule block)).foldl
    (fun s (constant, word) => round s constant word) s
  ⟨s.a + t.a, s.b + t.b, s.c + t.c, s.d + t.d, s.e + t.e, s.f + t.f, s.g + t.g, s.h + t.h⟩

/-- The message with its end mark, zeros up to a whole block and its length in bits. -/
def pad (message : Bytes) : Bytes :=
  let zeros := (119 - message.length % 64) % 64
  message ++ 0x80 :: (List.replicate zeros 0 ++ Bytes.bigEndian 8 (8 * message.length))

/-- The digest of a message from a state on. -/
def digestFrom (start : State) (message : Bytes) : Bytes :=
  let s := (Bytes.groups 64 (pad message)).foldl compress start
  [s.a, s.b, s.c, s.d, s.e, s.f, s.g, s.h].flatMap fun w => Bytes.bigEndian 4 w.toNat

/-- The digest of a message: 32 bytes. -/
def digest (message : Bytes) : Bytes := digestFrom initial message

/-- The shorter digest of a message: 28 bytes. -/
def digestShort (message : Bytes) : Bytes := (digestFrom initialShort message).take 28

/-- The digest of a text in hexadecimal digits. -/
def hexDigest (text : String) : String :=
  Hex.text (digest (Bytes.ofText text))

end SiteScript.Sha256
