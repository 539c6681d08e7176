import SiteScript.Cipher.Cbc
import SiteScript.Proofs.Cipher.Aes

/-!
# SiteScript.Proofs.Cipher.Cbc

Decryption of a message undoes encryption: the padding can be told from the message at every length,
and a chain of blocks is undone block by block, each with the ciphertext of the one before.

The other way round, a ciphertext that can be decrypted is the encryption of what it decrypts to
(`encrypt_of_decrypt?`), because whole blocks before a padding leave no choice of the padding. -/

namespace SiteScript.Cbc

/-! ## Padding -/

/-- A padded message is whole blocks, and at least one. -/
theorem length_pad (message : Bytes) :
    (pad message).length % blockSize = 0 ∧ 0 < (pad message).length := by
  rw [pad, List.length_append, List.length_replicate, blockSize]
  omega

/-- Only a message before between 1 and 16 bytes, each of them their number, is taken for padded. -/
theorem unpad?_eq_some_iff {padded message : Bytes} :
    unpad? padded = some message ↔
      ∃ n, 1 ≤ n ∧ n ≤ blockSize ∧ padded = message ++ List.replicate n (UInt8.ofNat n) := by
  constructor
  · intro h
    rw [unpad?] at h
    cases hlast : padded.getLast? with
    | none =>
        rw [hlast] at h
        cases h
    | some last =>
        rw [hlast] at h
        simp only [List.splitAt_eq, Option.ite_none_right_eq_some, Bool.and_eq_true,
          decide_eq_true_eq, beq_iff_eq, Option.some.injEq] at h
        obtain ⟨⟨⟨hpos, hle⟩, hpadding⟩, rfl⟩ := h
        refine ⟨last.toNat, hpos, hle, ?_⟩
        rw [UInt8.ofNat_toNat, ← hpadding, List.take_append_drop]
  · rintro ⟨n, hpos, hle, rfl⟩
    rw [blockSize] at hle
    have hbyte : (UInt8.ofNat n).toNat = n :=
      UInt8.toNat_ofNat_of_lt' (by simp only [UInt8.size]; omega)
    have hlast : (message ++ List.replicate n (UInt8.ofNat n)).getLast? = some (UInt8.ofNat n) := by
      rw [List.getLast?_append, List.getLast?_replicate, if_neg (by omega)]
      rfl
    have hsplit : (message ++ List.replicate n (UInt8.ofNat n)).splitAt
        ((message ++ List.replicate n (UInt8.ofNat n)).length - n) =
        (message, List.replicate n (UInt8.ofNat n)) := by
      rw [List.splitAt_eq, List.length_append, List.length_replicate, Nat.add_sub_cancel,
        List.take_left, List.drop_left]
    rw [unpad?, hlast]
    simp only [hbyte, hsplit]
    simp [hpos, hle, blockSize]

/-- Padding is taken off again. -/
theorem unpad?_pad (message : Bytes) : unpad? (pad message) = some message :=
  unpad?_eq_some_iff.2 ⟨blockSize - message.length % blockSize, by simp only [blockSize]; omega,
    Nat.sub_le _ _, rfl⟩

/-- Before whole blocks there is one padding only. -/
theorem pad_of_unpad? {padded message : Bytes} (h : unpad? padded = some message)
    (hwhole : padded.length % blockSize = 0) : pad message = padded := by
  obtain ⟨n, hpos, hle, rfl⟩ := unpad?_eq_some_iff.1 h
  rw [List.length_append, List.length_replicate, blockSize] at hwhole
  have hcount : blockSize - message.length % blockSize = n := by
    rw [blockSize] at hle ⊢
    omega
  rw [pad, hcount]

/-! ## Chains -/

section Chains

variable {encrypt decrypt : Bytes → Bytes}
  (hlength : ∀ block : Bytes, block.length = blockSize → (encrypt block).length = blockSize)

include hlength

/-- A chain has as many blocks as the message, of the same size. -/
theorem length_encryptBlocks {blocks : List Bytes}
    (hblocks : ∀ block ∈ blocks, block.length = blockSize)
    {previous : Bytes} (hprevious : previous.length = blockSize) :
    (∀ block ∈ encryptBlocks encrypt previous blocks, block.length = blockSize) ∧
      (encryptBlocks encrypt previous blocks).length = blocks.length := by
  induction blocks generalizing previous with
  | nil => exact ⟨nofun, rfl⟩
  | cons block blocks ih =>
      have hblock := hblocks block List.mem_cons_self
      have hsealed : (encrypt (Bytes.xor block previous)).length = blockSize :=
        hlength _ (by rw [Bytes.length_xor (by rw [hblock, hprevious]), hblock])
      have hrest := ih (fun block hblock => hblocks block (List.mem_cons_of_mem _ hblock)) hsealed
      exact ⟨List.forall_mem_cons.2 ⟨hsealed, hrest.1⟩, congrArg (· + 1) hrest.2⟩

/-- A chain is undone if its blocks are. -/
theorem decryptBlocks_encryptBlocks
    (hback : ∀ block : Bytes, block.length = blockSize → decrypt (encrypt block) = block)
    {blocks : List Bytes}
    (hblocks : ∀ block ∈ blocks, block.length = blockSize) {previous : Bytes}
    (hprevious : previous.length = blockSize) :
    decryptBlocks decrypt previous (encryptBlocks encrypt previous blocks) = blocks := by
  induction blocks generalizing previous with
  | nil => rfl
  | cons block blocks ih =>
      have hblock := hblocks block List.mem_cons_self
      have hmixed : (Bytes.xor block previous).length = blockSize := by
        rw [Bytes.length_xor (by rw [hblock, hprevious]), hblock]
      rw [encryptBlocks, decryptBlocks, hback _ hmixed,
        Bytes.xor_xor_self (by rw [hblock, hprevious]),
        ih (fun block hblock => hblocks block (List.mem_cons_of_mem _ hblock)) (hlength _ hmixed)]

end Chains

/-- A chain that was undone can be made again, if the cipher undoes its own deciphering. -/
theorem encryptBlocks_decryptBlocks {encrypt decrypt : Bytes → Bytes}
    (hforth : ∀ block : Bytes, block.length = blockSize →
      (decrypt block).length = blockSize ∧ encrypt (decrypt block) = block)
    {blocks : List Bytes} (hblocks : ∀ block ∈ blocks, block.length = blockSize)
    {previous : Bytes} (hprevious : previous.length = blockSize) :
    (∀ block ∈ decryptBlocks decrypt previous blocks, block.length = blockSize) ∧
      encryptBlocks encrypt previous (decryptBlocks decrypt previous blocks) = blocks := by
  induction blocks generalizing previous with
  | nil => exact ⟨nofun, rfl⟩
  | cons block blocks ih =>
      have hblock := hblocks block List.mem_cons_self
      obtain ⟨hlength, hback⟩ := hforth block hblock
      have hsame : (decrypt block).length = previous.length := by rw [hlength, hprevious]
      obtain ⟨hrest, hchain⟩ := ih (fun b hb => hblocks b (List.mem_cons_of_mem _ hb)) hblock
      refine ⟨List.forall_mem_cons.2 ⟨by rw [Bytes.length_xor hsame, hlength], hrest⟩, ?_⟩
      rw [decryptBlocks, encryptBlocks, Bytes.xor_xor_self hsame, hback, hchain]

/-! ## Messages -/

/-- The blocks of a ciphertext deciphered one after another, the padding among them. -/
def decipher (key vector ciphertext : Bytes) : Bytes :=
  (decryptBlocks (Aes.decryptBlock (Aes.expandKey key)) vector
    (Bytes.groups blockSize ciphertext)).flatten

/-- **What can be decrypted**: whole blocks, at least one, that end in a padding. -/
theorem decrypt?_eq_some_iff {key vector ciphertext message : Bytes} :
    decrypt? key vector ciphertext = some message ↔
      0 < ciphertext.length ∧ ciphertext.length % blockSize = 0 ∧
      ∃ n, 1 ≤ n ∧ n ≤ blockSize ∧
        decipher key vector ciphertext = message ++ List.replicate n (UInt8.ofNat n) := by
  rw [← unpad?_eq_some_iff, decrypt?, decipher, List.length_pos_iff]
  simp only [Option.ite_none_left_eq_some, Bool.or_eq_true, List.isEmpty_iff, bne_iff_ne, ne_eq,
    not_or, not_not, and_assoc]

/-- **Decryption undoes encryption**, for a key of 32 bytes, an initial vector of 16 and any
message. -/
theorem decrypt?_encrypt {key vector : Bytes} (hkey : key.length = 32)
    (hvector : vector.length = blockSize)
    (message : Bytes) : decrypt? key vector (encrypt key vector message) = some message := by
  have hkeys := Aes.length_of_mem_expandKey hkey
  have hlength : ∀ block : Bytes, block.length = blockSize →
      (Aes.encryptBlock (Aes.expandKey key) block).length = blockSize :=
    fun block h => Aes.length_encryptBlock hkeys h
  have hback : ∀ block : Bytes, block.length = blockSize →
      Aes.decryptBlock (Aes.expandKey key) (Aes.encryptBlock (Aes.expandKey key) block) = block :=
    fun block h => Aes.decryptBlock_encryptBlock hkeys h
  obtain ⟨hwhole, hpos⟩ := length_pad message
  have hpad := (Bytes.flatten_groups (n := blockSize) (by decide) (pad message)).1
  have hblocks := Bytes.length_of_mem_groups hwhole
  obtain ⟨hsealed, hcount⟩ := length_encryptBlocks hlength hblocks hvector
  have hcipher : (encrypt key vector message).length = (pad message).length := by
    rw [encrypt, Bytes.length_flatten hsealed, hcount, ← Bytes.length_flatten hblocks, hpad]
  have hnonempty : (encrypt key vector message).isEmpty = false := by
    rw [List.isEmpty_eq_false_iff, ← List.length_pos_iff, hcipher]
    exact hpos
  rw [decrypt?, if_neg (by simp [hnonempty, hcipher, hwhole])]
  simp only
  rw [encrypt, Bytes.groups_flatten (by decide) hsealed,
    decryptBlocks_encryptBlocks hlength hback hblocks hvector, hpad, unpad?_pad]

/-- **A ciphertext that can be decrypted is the encryption of its message.** -/
theorem encrypt_of_decrypt? {key vector ciphertext message : Bytes} (hkey : key.length = 32)
    (hvector : vector.length = blockSize)
    (h : decrypt? key vector ciphertext = some message) :
    encrypt key vector message = ciphertext := by
  have hkeys := Aes.length_of_mem_expandKey hkey
  obtain ⟨-, hwhole, hpadded⟩ := decrypt?_eq_some_iff.1 h
  have hblocks := Bytes.length_of_mem_groups hwhole
  have hcipher := (Bytes.flatten_groups (n := blockSize) (by decide) ciphertext).1
  obtain ⟨hplain, hchain⟩ := encryptBlocks_decryptBlocks
    (fun block hblock => Aes.encryptBlock_decryptBlock hkeys hblock) hblocks hvector
  have hlength : (decipher key vector ciphertext).length % blockSize = 0 := by
    rw [decipher, Bytes.length_flatten hplain]
    exact Nat.mul_mod_right _ _
  rw [encrypt, pad_of_unpad? (unpad?_eq_some_iff.2 hpadded) hlength, decipher]
  rw [Bytes.groups_flatten (by decide) hplain, hchain, hcipher]

end SiteScript.Cbc
