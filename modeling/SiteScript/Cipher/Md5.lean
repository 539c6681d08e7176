import SiteScript.Bytes

/-!
# SiteScript.Cipher.Md5

The MD5 digest: the message is padded to whole blocks of 64 bytes, and 64 steps per block stir its
sixteen words into four words of state.  All numbers have their lowest byte first.
-/

namespace SiteScript.Md5

/-- The constants of the steps. -/
def stepConstants : List UInt32 :=
  [0xd76aa478, 0xe8c7b756, 0x242070db, 0xc1bdceee, 0xf57c0faf, 0x4787c62a, 0xa8304613, 0xfd469501,
   0x698098d8, 0x8b44f7af, 0xffff5bb1, 0x895cd7be, 0x6b901122, 0xfd987193, 0xa679438e, 0x49b40821,
   0xf61e2562, 0xc040b340, 0x265e5a51, 0xe9b6c7aa, 0xd62f105d, 0x02441453, 0xd8a1e681, 0xe7d3fbc8,
   0x21e1cde6, 0xc33707d6, 0xf4d50d87, 0x455a14ed, 0xa9e3e905, 0xfcefa3f8, 0x676f02d9, 0x8d2a4c8a,
   0xfffa3942, 0x8771f681, 0x6d9d6122, 0xfde5380c, 0xa4beea44, 0x4bdecfa9, 0xf6bb4b60, 0xbebfbc70,
   0x289b7ec6, 0xeaa127fa, 0xd4ef3085, 0x04881d05, 0xd9d4d039, 0xe6db99e5, 0x1fa27cf8, 0xc4ac5665,
   0xf4292244, 0x432aff97, 0xab9423a7, 0xfc93a039, 0x655b59c3, 0x8f0ccc92, 0xffeff47d, 0x85845dd1,
   0x6fa87e4f, 0xfe2ce6e0, 0xa3014314, 0x4e0811a1, 0xf7537e82, 0xbd3af235, 0x2ad7d2bb, 0xeb86d391]

/-- How far each step turns a word: four distances in each of four rounds. -/
def turns : List UInt32 :=
  ([[7, 12, 17, 22], [5, 9, 14, 20], [4, 11, 16, 23], [6, 10, 15, 21]] : List (List UInt32)).flatMap
    fun round => (List.replicate 4 round).flatten

/-- The four words of state. -/
structure State where
  a : UInt32
  b : UInt32
  c : UInt32
  d : UInt32

/-- The state before the first block. -/
def initial : State := ⟨0x67452301, 0xefcdab89, 0x98badcfe, 0x10325476⟩

/-- Turn a word left by `n` bits. -/
def rotate (x : UInt32) (n : UInt32) : UInt32 := (x <<< n) ||| (x >>> (32 - n))

/-- What a step adds: a mixture of three words by its round, and the number of the word of the block. -/
def mixture (s : State) (step : Nat) : UInt32 × Nat :=
  if step < 16 then ((s.b &&& s.c) ||| (~~~s.b &&& s.d), step)
  else if step < 32 then ((s.d &&& s.b) ||| (~~~s.d &&& s.c), (5 * step + 1) % 16)
  else if step < 48 then (s.b ^^^ s.c ^^^ s.d, (3 * step + 5) % 16)
  else (s.c ^^^ (s.b ||| ~~~s.d), 7 * step % 16)

/-- One step. -/
def stir (words : List UInt32) (s : State) (step : Nat) (constant turn : UInt32) : State :=
  let (mixed, place) := mixture s step
  let sum := s.a + mixed + constant + words.getD place 0
  ⟨s.d, s.b + rotate sum turn, s.b, s.c⟩

/-- The word of four bytes. -/
def wordOf (bytes : Bytes) : UInt32 := UInt32.ofNat (Bytes.ofLittleEndian bytes)

/-- Stir a block into the state. -/
def compress (s : State) (block : Bytes) : State :=
  let words := (Bytes.groups 4 block).map wordOf
  let t := ((List.zip stepConstants turns).zipIdx).foldl
    (fun t ((constant, turn), step) => stir words t step constant turn) s
  ⟨s.a + t.a, s.b + t.b, s.c + t.c, s.d + t.d⟩

/-- The message with its end mark, zeros up to a whole block and its length in bits. -/
def pad (message : Bytes) : Bytes :=
  let zeros := (119 - message.length % 64) % 64
  message ++ 0x80 :: (List.replicate zeros 0 ++ Bytes.littleEndian 8 (8 * message.length))

/-- The digest of a message: 16 bytes. -/
def digest (message : Bytes) : Bytes :=
  let s := (Bytes.groups 64 (pad message)).foldl compress initial
  [s.a, s.b, s.c, s.d].flatMap fun w => Bytes.littleEndian 4 w.toNat

end SiteScript.Md5
