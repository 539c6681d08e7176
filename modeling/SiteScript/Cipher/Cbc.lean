import SiteScript.Cipher.Aes

/-!
# SiteScript.Cipher.Cbc

Messages of any length under AES: padded to whole blocks, every block mixed with the ciphertext of
the one before it.

The padding repeats its own length, between 1 and 16, so it can always be told from the message; a
message that ends anywhere else than the padding says is refused.
-/

namespace SiteScript.Cbc

/-- Bytes in a block. -/
def blockSize : Nat := 16

/-- A message with its padding. -/
def pad (message : Bytes) : Bytes :=
  let n := blockSize - message.length % blockSize
  message ++ List.replicate n (UInt8.ofNat n)

/-- The message without its padding, if that is well formed. -/
def unpad? (padded : Bytes) : Option Bytes :=
  match padded.getLast? with
  | none => none
  | some last =>
    let n := last.toNat
    let (message, padding) := padded.splitAt (padded.length - n)
    if 1 ≤ n && n ≤ blockSize && padding == List.replicate n last then some message else none

/-- Encrypt blocks one after another. -/
def encryptBlocks (encrypt : Bytes → Bytes) (previous : Bytes) : List Bytes → List Bytes
  | [] => []
  | block :: blocks =>
    let sealed := encrypt (Bytes.xor block previous)
    sealed :: encryptBlocks encrypt sealed blocks

/-- Decrypt blocks one after another. -/
def decryptBlocks (decrypt : Bytes → Bytes) (previous : Bytes) : List Bytes → List Bytes
  | [] => []
  | sealed :: blocks =>
    Bytes.xor (decrypt sealed) previous :: decryptBlocks decrypt sealed blocks

/-- Encrypt a message under a key of 32 bytes and an initial vector of 16. -/
def encrypt (key vector message : Bytes) : Bytes :=
  let keys := Aes.expandKey key
  (encryptBlocks (Aes.encryptBlock keys) vector (Bytes.groups blockSize (pad message))).flatten

/-- Decrypt a ciphertext; none when it is not whole blocks or its padding is not well formed. -/
def decrypt? (key vector ciphertext : Bytes) : Option Bytes :=
  if ciphertext.isEmpty || ciphertext.length % blockSize != 0 then none
  else
    let keys := Aes.expandKey key
    unpad?
      (decryptBlocks (Aes.decryptBlock keys) vector (Bytes.groups blockSize ciphertext)).flatten

end SiteScript.Cbc
