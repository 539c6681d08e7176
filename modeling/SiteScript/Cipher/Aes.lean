import SiteScript.Bytes

/-!
# SiteScript.Cipher.Aes

The block cipher AES with keys of 256 bits.  A block is 16 bytes, column by column; the key is
expanded to 15 round keys, and 14 rounds substitute the bytes, turn the rows, mix the columns and add
a round key.  `decryptBlock` undoes the steps in the opposite order.
-/

namespace SiteScript.Aes

/-- The substitution of bytes. -/
def substitution : Array UInt8 :=
  #[0x63, 0x7c, 0x77, 0x7b, 0xf2, 0x6b, 0x6f, 0xc5, 0x30, 0x01, 0x67, 0x2b, 0xfe, 0xd7, 0xab, 0x76,
   0xca, 0x82, 0xc9, 0x7d, 0xfa, 0x59, 0x47, 0xf0, 0xad, 0xd4, 0xa2, 0xaf, 0x9c, 0xa4, 0x72, 0xc0,
   0xb7, 0xfd, 0x93, 0x26, 0x36, 0x3f, 0xf7, 0xcc, 0x34, 0xa5, 0xe5, 0xf1, 0x71, 0xd8, 0x31, 0x15,
   0x04, 0xc7, 0x23, 0xc3, 0x18, 0x96, 0x05, 0x9a, 0x07, 0x12, 0x80, 0xe2, 0xeb, 0x27, 0xb2, 0x75,
   0x09, 0x83, 0x2c, 0x1a, 0x1b, 0x6e, 0x5a, 0xa0, 0x52, 0x3b, 0xd6, 0xb3, 0x29, 0xe3, 0x2f, 0x84,
   0x53, 0xd1, 0x00, 0xed, 0x20, 0xfc, 0xb1, 0x5b, 0x6a, 0xcb, 0xbe, 0x39, 0x4a, 0x4c, 0x58, 0xcf,
   0xd0, 0xef, 0xaa, 0xfb, 0x43, 0x4d, 0x33, 0x85, 0x45, 0xf9, 0x02, 0x7f, 0x50, 0x3c, 0x9f, 0xa8,
   0x51, 0xa3, 0x40, 0x8f, 0x92, 0x9d, 0x38, 0xf5, 0xbc, 0xb6, 0xda, 0x21, 0x10, 0xff, 0xf3, 0xd2,
   0xcd, 0x0c, 0x13, 0xec, 0x5f, 0x97, 0x44, 0x17, 0xc4, 0xa7, 0x7e, 0x3d, 0x64, 0x5d, 0x19, 0x73,
   0x60, 0x81, 0x4f, 0xdc, 0x22, 0x2a, 0x90, 0x88, 0x46, 0xee, 0xb8, 0x14, 0xde, 0x5e, 0x0b, 0xdb,
   0xe0, 0x32, 0x3a, 0x0a, 0x49, 0x06, 0x24, 0x5c, 0xc2, 0xd3, 0xac, 0x62, 0x91, 0x95, 0xe4, 0x79,
   0xe7, 0xc8, 0x37, 0x6d, 0x8d, 0xd5, 0x4e, 0xa9, 0x6c, 0x56, 0xf4, 0xea, 0x65, 0x7a, 0xae, 0x08,
   0xba, 0x78, 0x25, 0x2e, 0x1c, 0xa6, 0xb4, 0xc6, 0xe8, 0xdd, 0x74, 0x1f, 0x4b, 0xbd, 0x8b, 0x8a,
   0x70, 0x3e, 0xb5, 0x66, 0x48, 0x03, 0xf6, 0x0e, 0x61, 0x35, 0x57, 0xb9, 0x86, 0xc1, 0x1d, 0x9e,
   0xe1, 0xf8, 0x98, 0x11, 0x69, 0xd9, 0x8e, 0x94, 0x9b, 0x1e, 0x87, 0xe9, 0xce, 0x55, 0x28, 0xdf,
   0x8c, 0xa1, 0x89, 0x0d, 0xbf, 0xe6, 0x42, 0x68, 0x41, 0x99, 0x2d, 0x0f, 0xb0, 0x54, 0xbb, 0x16]

/-- The substitution that undoes `substitution`. -/
def inverseSubstitution : Array UInt8 :=
  #[0x52, 0x09, 0x6a, 0xd5, 0x30, 0x36, 0xa5, 0x38, 0xbf, 0x40, 0xa3, 0x9e, 0x81, 0xf3, 0xd7, 0xfb,
   0x7c, 0xe3, 0x39, 0x82, 0x9b, 0x2f, 0xff, 0x87, 0x34, 0x8e, 0x43, 0x44, 0xc4, 0xde, 0xe9, 0xcb,
   0x54, 0x7b, 0x94, 0x32, 0xa6, 0xc2, 0x23, 0x3d, 0xee, 0x4c, 0x95, 0x0b, 0x42, 0xfa, 0xc3, 0x4e,
   0x08, 0x2e, 0xa1, 0x66, 0x28, 0xd9, 0x24, 0xb2, 0x76, 0x5b, 0xa2, 0x49, 0x6d, 0x8b, 0xd1, 0x25,
   0x72, 0xf8, 0xf6, 0x64, 0x86, 0x68, 0x98, 0x16, 0xd4, 0xa4, 0x5c, 0xcc, 0x5d, 0x65, 0xb6, 0x92,
   0x6c, 0x70, 0x48, 0x50, 0xfd, 0xed, 0xb9, 0xda, 0x5e, 0x15, 0x46, 0x57, 0xa7, 0x8d, 0x9d, 0x84,
   0x90, 0xd8, 0xab, 0x00, 0x8c, 0xbc, 0xd3, 0x0a, 0xf7, 0xe4, 0x58, 0x05, 0xb8, 0xb3, 0x45, 0x06,
   0xd0, 0x2c, 0x1e, 0x8f, 0xca, 0x3f, 0x0f, 0x02, 0xc1, 0xaf, 0xbd, 0x03, 0x01, 0x13, 0x8a, 0x6b,
   0x3a, 0x91, 0x11, 0x41, 0x4f, 0x67, 0xdc, 0xea, 0x97, 0xf2, 0xcf, 0xce, 0xf0, 0xb4, 0xe6, 0x73,
   0x96, 0xac, 0x74, 0x22, 0xe7, 0xad, 0x35, 0x85, 0xe2, 0xf9, 0x37, 0xe8, 0x1c, 0x75, 0xdf, 0x6e,
   0x47, 0xf1, 0x1a, 0x71, 0x1d, 0x29, 0xc5, 0x89, 0x6f, 0xb7, 0x62, 0x0e, 0xaa, 0x18, 0xbe, 0x1b,
   0xfc, 0x56, 0x3e, 0x4b, 0xc6, 0xd2, 0x79, 0x20, 0x9a, 0xdb, 0xc0, 0xfe, 0x78, 0xcd, 0x5a, 0xf4,
   0x1f, 0xdd, 0xa8, 0x33, 0x88, 0x07, 0xc7, 0x31, 0xb1, 0x12, 0x10, 0x59, 0x27, 0x80, 0xec, 0x5f,
   0x60, 0x51, 0x7f, 0xa9, 0x19, 0xb5, 0x4a, 0x0d, 0x2d, 0xe5, 0x7a, 0x9f, 0x93, 0xc9, 0x9c, 0xef,
   0xa0, 0xe0, 0x3b, 0x4d, 0xae, 0x2a, 0xf5, 0xb0, 0xc8, 0xeb, 0xbb, 0x3c, 0x83, 0x53, 0x99, 0x61,
   0x17, 0x2b, 0x04, 0x7e, 0xba, 0x77, 0xd6, 0x26, 0xe1, 0x69, 0x14, 0x63, 0x55, 0x21, 0x0c, 0x7d]

/-- Substitute one byte. -/
def substitute (b : UInt8) : UInt8 := substitution.getD b.toNat 0

/-- Undo the substitution of one byte. -/
def unsubstitute (b : UInt8) : UInt8 := inverseSubstitution.getD b.toNat 0

/-! ## The field of bytes -/

/-- Multiply a byte by two. -/
def double (b : UInt8) : UInt8 :=
  if b &&& 0x80 = 0 then b <<< 1 else (b <<< 1) ^^^ 0x1b

/-- Multiply a byte by a factor of at most 15, given by its bits. -/
def times (factor : Nat) (b : UInt8) : UInt8 :=
  let b2 := double b
  let b4 := double b2
  let b8 := double b4
  (if factor.testBit 0 then b else 0) ^^^ (if factor.testBit 1 then b2 else 0) ^^^
    (if factor.testBit 2 then b4 else 0) ^^^ (if factor.testBit 3 then b8 else 0)

/-! ## Steps of a round -/

/-- Reorder a block: byte `i` of the result is byte `order[i]`. -/
def reorder (order : List Nat) (block : Bytes) : Bytes :=
  order.map fun i => block.getD i 0

/-- Turn row `r` left by `r` columns. -/
def turnRows : Bytes → Bytes :=
  reorder [0, 5, 10, 15, 4, 9, 14, 3, 8, 13, 2, 7, 12, 1, 6, 11]

/-- Turn row `r` right by `r` columns. -/
def turnRowsBack : Bytes → Bytes :=
  reorder [0, 13, 10, 7, 4, 1, 14, 11, 8, 5, 2, 15, 12, 9, 6, 3]

/-- Multiply a column by a matrix whose rows are turns of one row. -/
def mixColumn (a b c d : Nat) (column : Bytes) : Bytes :=
  let x := column.getD 0 0
  let y := column.getD 1 0
  let z := column.getD 2 0
  let w := column.getD 3 0
  [times a x ^^^ times b y ^^^ times c z ^^^ times d w,
   times d x ^^^ times a y ^^^ times b z ^^^ times c w,
   times c x ^^^ times d y ^^^ times a z ^^^ times b w,
   times b x ^^^ times c y ^^^ times d z ^^^ times a w]

/-- Mix every column. -/
def mixColumns (block : Bytes) : Bytes :=
  (Bytes.groups 4 block).flatMap (mixColumn 2 3 1 1)

/-- Undo the mixing of every column. -/
def unmixColumns (block : Bytes) : Bytes :=
  (Bytes.groups 4 block).flatMap (mixColumn 14 11 13 9)

/-! ## Keys -/

/-- The constants of the key expansion. -/
def keyConstants : List UInt8 := [0x01, 0x02, 0x04, 0x08, 0x10, 0x20, 0x40]

/-- Add `n` words to the words of a key, of which the latest stands first; `i` is the number of words
there are. -/
def expandWords : Nat → Nat → List Bytes → List Bytes
  | 0, _, words => words
  | n + 1, i, words =>
    let previous := words.getD 0 []
    let changed :=
      if i % 8 = 0 then
        let turned := (previous.drop 1 ++ previous.take 1).map substitute
        Bytes.xor turned [keyConstants.getD (i / 8 - 1) 0, 0, 0, 0]
      else if i % 8 = 4 then previous.map substitute
      else previous
    expandWords n (i + 1) (Bytes.xor (words.getD 7 []) changed :: words)

/-- The 15 round keys of a key of 32 bytes. -/
def expandKey (key : Bytes) : List Bytes :=
  let words := (expandWords 52 8 (Bytes.groups 4 key).reverse).reverse
  Bytes.groups 16 words.flatten

/-! ## Blocks -/

/-- The rounds after the first key: all but the last mix the columns. -/
def encryptRounds (block : Bytes) : List Bytes → Bytes
  | [] => block
  | [last] => Bytes.xor (turnRows (block.map substitute)) last
  | key :: keys => encryptRounds (Bytes.xor (mixColumns (turnRows (block.map substitute))) key) keys

/-- Encrypt a block under expanded keys. -/
def encryptBlock (keys : List Bytes) (block : Bytes) : Bytes :=
  match keys with
  | [] => block
  | first :: rest => encryptRounds (Bytes.xor block first) rest

/-- Undo the rounds, the keys given from the last to the first. -/
def decryptRounds (block : Bytes) : List Bytes → Bytes
  | [] => block
  | [first] => Bytes.xor ((turnRowsBack block).map unsubstitute) first
  | key :: keys =>
    decryptRounds (unmixColumns (Bytes.xor ((turnRowsBack block).map unsubstitute) key)) keys

/-- Decrypt a block under expanded keys. -/
def decryptBlock (keys : List Bytes) (block : Bytes) : Bytes :=
  match keys.reverse with
  | [] => block
  | last :: rest => decryptRounds (Bytes.xor block last) rest

end SiteScript.Aes
