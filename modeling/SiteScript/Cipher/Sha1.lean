import SiteScript.Cipher.Sha256

/-!
# SiteScript.Cipher.Sha1

The SHA-1 digest: each block of 64 bytes is expanded to 80 words, and 80 rounds stir them into five words
of state.  Messages are padded as for the longer digests.
-/

namespace SiteScript.Sha1

/-- The five words of state. -/
structure State where
  a : UInt32
  b : UInt32
  c : UInt32
  d : UInt32
  e : UInt32

/-- The state before the first block. -/
def initial : State := ⟨0x67452301, 0xefcdab89, 0x98badcfe, 0x10325476, 0xc3d2e1f0⟩

/-- Turn a word left by `n` bits. -/
def rotate (x : UInt32) (n : UInt32) : UInt32 := (x <<< n) ||| (x >>> (32 - n))

/-- What a round adds, by its number: a mixture of three words, and a constant. -/
def mixture (s : State) (number : Nat) : UInt32 × UInt32 :=
  if number < 20 then ((s.b &&& s.c) ||| (~~~s.b &&& s.d), 0x5a827999)
  else if number < 40 then (s.b ^^^ s.c ^^^ s.d, 0x6ed9eba1)
  else if number < 60 then ((s.b &&& s.c) ||| (s.b &&& s.d) ||| (s.c &&& s.d), 0x8f1bbcdc)
  else (s.b ^^^ s.c ^^^ s.d, 0xca62c1d6)

/-- One round. -/
def round (s : State) (number : Nat) (word : UInt32) : State :=
  let (mixed, constant) := mixture s number
  ⟨rotate s.a 5 + mixed + s.e + constant + word, s.a, rotate s.b 30, s.c, s.d⟩

/-- Add `n` words to the words of a block, of which the latest stands first. -/
def extend : Nat → List UInt32 → List UInt32
  | 0, words => words
  | n + 1, words =>
    let at' := fun i => words.getD (i - 1) 0
    extend n (rotate (at' 3 ^^^ at' 8 ^^^ at' 14 ^^^ at' 16) 1 :: words)

/-- The 80 words of a block. -/
def schedule (block : Bytes) : List UInt32 :=
  (extend 64 ((Bytes.groups 4 block).map Sha256.wordOf).reverse).reverse

/-- Stir a block into the state. -/
def compress (s : State) (block : Bytes) : State :=
  let t := (schedule block).zipIdx.foldl (fun t (word, number) => round t number word) s
  ⟨s.a + t.a, s.b + t.b, s.c + t.c, s.d + t.d, s.e + t.e⟩

/-- The digest of a message: 20 bytes. -/
def digest (message : Bytes) : Bytes :=
  let s := (Bytes.groups 64 (Sha256.pad message)).foldl compress initial
  [s.a, s.b, s.c, s.d, s.e].flatMap fun w => Bytes.bigEndian 4 w.toNat

end SiteScript.Sha1
