import SiteScript.Archive.Gzip
import SiteScript.Proofs.Bytes

/-!
# SiteScript.Proofs.Archive.Gzip

Decompression undoes compression.  The bytes are stored as they are, but a reader of the compressed
format goes over them bit by bit: numbers are read back from the bits of the bytes they were written
as, stored blocks from theirs, and the check and the length behind the last block are those of the
content. -/

namespace SiteScript

namespace Deflate

/-! ## Bits -/

/-- The number of bits with the lowest first. -/
def number : List Bool → Nat
  | [] => 0
  | bit :: bits => bit.toNat + 2 * number bits

/-- Bits are read as their number. -/
theorem takeNumber_append (bits rest : List Bool) :
    takeNumber bits.length (bits ++ rest) = some (number bits, rest) := by
  induction bits with
  | nil => rfl
  | cons bit bits ih => rw [List.length_cons, List.cons_append, takeNumber, ih]; rfl

theorem length_bitsOfByte (b : UInt8) : (bitsOfByte b).length = 8 := rfl

theorem number_bitsOfByte (b : UInt8) : number (bitsOfByte b) = b.toNat :=
  Bytes.forall_byte (p := fun b => number (bitsOfByte b) = b.toNat) (by decide +kernel) b

theorem bitsOf_cons (b : UInt8) (bytes : Bytes) :
    bitsOf (b :: bytes) = bitsOfByte b ++ bitsOf bytes := rfl

theorem bitsOf_append (a b : Bytes) : bitsOf (a ++ b) = bitsOf a ++ bitsOf b :=
  List.flatMap_append

theorem length_bitsOf (bytes : Bytes) : (bitsOf bytes).length = 8 * bytes.length := by
  induction bytes with
  | nil => rfl
  | cons b bytes ih =>
      rw [bitsOf_cons, List.length_append, ih, length_bitsOfByte, List.length_cons]
      omega

theorem number_append (a b : List Bool) :
    number (a ++ b) = number a + Nat.pow 2 a.length * number b := by
  induction a with
  | nil => simp [number]
  | cons bit a ih =>
      have hpower : Nat.pow 2 (a.length + 1) * number b = 2 * (Nat.pow 2 a.length * number b) := by
        rw [show Nat.pow 2 (a.length + 1) =
          Nat.pow 2 a.length * 2 from rfl, Nat.mul_comm _ 2, Nat.mul_assoc]
      rw [List.cons_append, number, ih, number, List.length_cons, hpower]
      omega

/-- The number of the bits of bytes is the number of the bytes. -/
theorem number_bitsOf (bytes : Bytes) : number (bitsOf bytes) = Bytes.ofLittleEndian bytes := by
  induction bytes with
  | nil => rfl
  | cons b bytes ih =>
      rw [bitsOf_cons, number_append, ih, number_bitsOfByte, length_bitsOfByte]
      rfl

/-- A number of two bytes is read back. -/
theorem takeNumber_littleEndian {n : Nat} (h : n < 0x10000) (rest : List Bool) :
    takeNumber 16 (bitsOf (Bytes.littleEndian 2 n) ++ rest) = some (n, rest) := by
  have hlength : (bitsOf (Bytes.littleEndian 2 n)).length = 16 := by
    rw [length_bitsOf, Bytes.length_littleEndian]
  have hnumber : number (bitsOf (Bytes.littleEndian 2 n)) = n := by
    rw [number_bitsOf, Bytes.ofLittleEndian_littleEndian]
    exact Nat.mod_eq_of_lt h
  have htake := takeNumber_append (bitsOf (Bytes.littleEndian 2 n)) rest
  rwa [hlength, hnumber] at htake

/-! ## Stored blocks -/

theorem toArray_push (done : Bytes) (b : UInt8) :
    (Bytes.toArray done).push b = Bytes.toArray (done ++ [b]) := by
  exact congrArg ByteArray.mk (List.push_toArray done b)

/-- Bytes are read back from their bits. -/
theorem takeBytes_bitsOf (bytes : Bytes) (rest : List Bool) (done : Bytes) :
    takeBytes bytes.length (bitsOf bytes ++ rest) (Bytes.toArray done) =
      some (rest, Bytes.toArray (done ++ bytes)) := by
  induction bytes generalizing done with
  | nil => rw [List.append_nil]; rfl
  | cons b bytes ih =>
      have hbyte := takeNumber_append (bitsOfByte b) (bitsOf bytes ++ rest)
      rw [length_bitsOfByte, number_bitsOfByte] at hbyte
      rw [List.length_cons, bitsOf_cons, List.append_assoc, takeBytes, hbyte]
      simp only [Option.bind_eq_bind, Option.bind_some, UInt8.ofNat_toNat, toArray_push, ih,
        List.append_assoc, List.singleton_append]

/-- A stored block is read, from the last bits of the byte with its mark on. -/
theorem inflateStored_block {bytes : Bytes} (h : bytes.length ≤ maxStored) {mark : List Bool}
    (hmark : mark.length < 8) (after done : Bytes) :
    inflateStored (mark ++ bitsOf (Bytes.littleEndian 2 bytes.length ++
      Bytes.littleEndian 2 (0xFFFF - bytes.length) ++ bytes ++ after)) (Bytes.toArray done) =
      some (bitsOf after, Bytes.toArray (done ++ bytes)) := by
  rw [maxStored] at h
  -- what follows the mark are whole bytes, so aligning drops the mark and nothing else
  have halign : ∀ content : Bytes, align (mark ++ bitsOf content) = bitsOf content := by
    intro content
    rw [align, List.length_append, length_bitsOf, Nat.add_mul_mod_self_left, Nat.mod_eq_of_lt hmark,
      List.drop_left]
  rw [inflateStored, halign, bitsOf_append, bitsOf_append, bitsOf_append, List.append_assoc,
    List.append_assoc, takeNumber_littleEndian (by omega)]
  simp only [Option.bind_eq_bind, Option.bind_some]
  rw [takeNumber_littleEndian (by omega)]
  simp only [Option.bind_some]
  rw [if_pos (by omega), takeBytes_bitsOf]

/-- Reading blocks goes over a stored block, and ends with it if it is marked as the last. -/
theorem inflateBlocks_storedBlock {bytes : Bytes} (h : bytes.length ≤ maxStored)
    (last : Bool) (fuel : Nat)
    (after done : Bytes) :
    inflateBlocks (fuel + 1) (bitsOf (storedBlock last bytes ++ after)) (Bytes.toArray done) =
      if last then some (bitsOf after, Bytes.toArray (done ++ bytes))
      else inflateBlocks fuel (bitsOf after) (Bytes.toArray (done ++ bytes)) := by
  have hmark : bitsOfByte (if last then 1 else 0) =
      [last, false, false] ++ List.replicate 5 false := by
    cases last <;> rfl
  have hstored := inflateStored_block h
      (show (List.replicate 5 false).length < 8 by decide) after done
  rw [storedBlock, List.cons_append, bitsOf_cons, hmark, inflateBlocks]
  simp only [List.cons_append, List.nil_append, takeNumber, Option.map_some, Option.bind_eq_bind,
    Option.bind_some, Bool.toNat_false, Nat.mul_zero, Nat.add_zero, if_true, hstored]
  cases last <;> rfl

/-- Reading blocks gives all that was stored. -/
theorem inflateBlocks_storedBlocks {groups : List Bytes}
    (h : ∀ group ∈ groups, group.length ≤ maxStored)
    {fuel : Nat} (hfuel : groups.length < fuel) (after done : Bytes) :
    inflateBlocks fuel (bitsOf (storedBlocks groups ++ after)) (Bytes.toArray done) =
      some (bitsOf after, Bytes.toArray (done ++ groups.flatten)) := by
  induction groups generalizing fuel done with
  | nil =>
      obtain ⟨fuel, rfl⟩ : ∃ n, fuel = n + 1 := ⟨fuel - 1, by omega⟩
      rw [storedBlocks, inflateBlocks_storedBlock (by decide)]
      rfl
  | cons group groups ih =>
      obtain ⟨fuel, rfl⟩ : ∃ n, fuel = n + 1 := ⟨fuel - 1, by omega⟩
      have hgroup := h group List.mem_cons_self
      match groups with
      | [] =>
          rw [storedBlocks, inflateBlocks_storedBlock hgroup, List.flatten_singleton]
          rfl
      | next :: groups =>
          rw [storedBlocks, List.append_assoc, inflateBlocks_storedBlock hgroup, List.flatten_cons,
            ← List.append_assoc]
          · exact ih (fun g hg => h g (List.mem_cons_of_mem _ hg)) (Nat.lt_of_succ_lt_succ hfuel) _
          · exact nofun

/-- Every block takes a byte and more. -/
theorem length_storedBlocks (groups : List Bytes) :
    groups.length ≤ (storedBlocks groups).length := by
  have hblock : ∀ last bytes, 1 ≤ (storedBlock last bytes).length :=
    fun last bytes => Nat.le_add_left 1 _
  induction groups with
  | nil => exact Nat.zero_le _
  | cons group groups ih =>
      match groups with
      | [] => exact hblock true group
      | next :: groups =>
          rw [storedBlocks, List.length_append, List.length_cons]
          · have hfirst := hblock false group
            omega
          · exact nofun

/-- **Inflating stored bytes** gives them back, and the bytes after them. -/
theorem inflate?_store (bytes after : Bytes) :
    inflate? (store bytes ++ after) = some (Bytes.toArray bytes, after) := by
  obtain ⟨hflatten, hgroups⟩ := Bytes.flatten_groups (n := maxStored) (by decide) bytes
  have hfuel : (Bytes.groups maxStored bytes).length <
      (bitsOf (store bytes ++ after)).length + 1 := by
    have hlength := length_storedBlocks (Bytes.groups maxStored bytes)
    rw [length_bitsOf, List.length_append, store]
    omega
  have hblocks : inflateBlocks ((bitsOf (store bytes ++ after)).length + 1)
      (bitsOf (store bytes ++ after))
      ByteArray.empty = some (bitsOf after, Bytes.toArray bytes) := by
    have hread := inflateBlocks_storedBlocks hgroups hfuel after []
    rwa [hflatten] at hread
  have hrest : (store bytes ++ after).length - (bitsOf after).length / 8 =
      (store bytes).length := by
    rw [length_bitsOf, List.length_append]
    omega
  rw [inflate?]
  simp only [hblocks, Option.bind_eq_bind, Option.bind_some, hrest, List.drop_left]
  rfl

end Deflate

namespace Gzip

theorem checksum_lt (bytes : Bytes) : Crc32.checksum bytes < Nat.pow 256 4 :=
  UInt32.toNat_lt _

/-- **Decompression undoes compression.** -/
theorem decompress?_compress (bytes : Bytes) :
    decompress? (compress bytes) = some (Bytes.toArray bytes) := by
  let tail := Bytes.littleEndian 4 (Crc32.checksum bytes) ++ Bytes.littleEndian 4 bytes.length
  have hbody : body? (compress bytes) = some (Deflate.store bytes ++ tail) := rfl
  have hcheck : Bytes.ofLittleEndian (tail.take 4) = Crc32.checksum bytes := by
    rw [List.take_left' (Bytes.length_littleEndian 4 _), Bytes.ofLittleEndian_littleEndian,
      Nat.mod_eq_of_lt (checksum_lt bytes)]
  have hlength : Bytes.ofLittleEndian ((tail.drop 4).take 4) = bytes.length % Word.values 32 := by
    rw [List.drop_left' (Bytes.length_littleEndian 4 _),
      List.take_of_length_le (Nat.le_of_eq (by simp)), Bytes.ofLittleEndian_littleEndian]
    rfl
  have htail : ¬ tail.length < 8 := by simp [tail]
  rw [decompress?, hbody]
  simp only [Option.bind_eq_bind, Option.bind_some, Deflate.inflate?_store, if_neg htail,
    hcheck, hlength]
  simp [ByteArray.size, Bytes.toArray, Bytes.ofArray]

end Gzip

end SiteScript
