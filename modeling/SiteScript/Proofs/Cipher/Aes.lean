import Mathlib.Data.Set.Finite.List
import SiteScript.Cipher.Aes
import SiteScript.Proofs.Bytes

/-!
# SiteScript.Proofs.Cipher.Aes

Decryption of a block undoes encryption, and encryption decryption, for whatever round keys of 16
bytes.

1. Each step of a round is undone by its counterpart: substitution byte by byte, the turning of
   rows as a permutation, and the mixing of columns because multiplication distributes over
   exclusive or, which leaves four identities for single bytes.
2. The rounds are undone from the last to the first (`decryptRounds_encryptRounds`).
3. There are finitely many blocks, so every block is the encryption of one
   (`encryptBlock_decryptBlock`).
4. The expansion of a key of 32 bytes gives round keys of 16 bytes. -/

namespace SiteScript.Aes

/-! ## Bytes -/

/-- Undoing the substitution of the bytes in their order gives the bytes in their order. -/
theorem map_unsubstitute :
    substitution.toList.map unsubstitute = (List.range 256).map UInt8.ofNat := by
  decide +kernel

/-- A table whose bytes a function takes to the bytes in their order. -/
theorem getD_of_map {table : Array UInt8} {f : UInt8 → UInt8}
    (h : table.toList.map f = (List.range 256).map UInt8.ofNat) (b : UInt8) :
    f (table.getD b.toNat 0) = b := by
  have hplace := congrArg (fun bytes => bytes[b.toNat]?) h
  simp only [List.getElem?_map, List.getElem?_range b.toNat_lt, Option.map_some, UInt8.ofNat_toNat,
    Array.getElem?_toList] at hplace
  obtain ⟨a, hget, hf⟩ := Option.map_eq_some_iff.1 hplace
  rw [Array.getD_eq_getD_getElem?, hget, Option.getD_some, hf]

/-- The substitution is undone. -/
theorem unsubstitute_substitute (b : UInt8) : unsubstitute (substitute b) = b :=
  getD_of_map map_unsubstitute b

/-- Doubling shifts, and takes the polynomial out when the highest bit was set. -/
theorem double_eq (b : UInt8) :
    double b = (b <<< 1) ^^^ (if b &&& 0x80 = 0 then 0 else 0x1b) := by
  rw [double]
  split
  · rw [UInt8.xor_zero]
  · rfl

theorem highBit (b : UInt8) : b &&& 0x80 = 0 ∨ b &&& 0x80 = 0x80 :=
  Bytes.forall_byte (p := fun b => b &&& 0x80 = 0 ∨ b &&& 0x80 = 0x80) (by decide +kernel) b

/-- Doubling distributes over exclusive or. -/
theorem double_xor (a b : UInt8) : double (a ^^^ b) = double a ^^^ double b := by
  have hbits : (a ^^^ b) &&& 0x80 = (a &&& 0x80) ^^^ (b &&& 0x80) := by
    rw [← UInt8.toBitVec_inj]
    simp only [UInt8.toBitVec_and, UInt8.toBitVec_xor]
    ext i
    simp [Bool.and_xor_distrib_right]
  have hcarry : (if (a ^^^ b) &&& 0x80 = 0 then (0 : UInt8) else 0x1b) =
      (if a &&& 0x80 = 0 then 0 else 0x1b) ^^^ (if b &&& 0x80 = 0 then 0 else 0x1b) := by
    rw [hbits]
    rcases highBit a with ha | ha <;> rcases highBit b with hb | hb <;> rw [ha, hb] <;> decide
  rw [double_eq, double_eq, double_eq, UInt8.shiftLeft_xor, hcarry]
  ac_rfl

/-- Multiplication distributes over exclusive or. -/
theorem times_xor (factor : Nat) (a b : UInt8) :
    times factor (a ^^^ b) = times factor a ^^^ times factor b := by
  have hpart : ∀ (c : Bool) (x y : UInt8),
      (if c then x ^^^ y else 0) = (if c then x else 0) ^^^ (if c then y else 0) := by
    intro c x y
    cases c <;> simp
  simp only [times, double_xor, hpart]
  ac_rfl

/-! ## Columns -/

/-- Multiplying by the two matrices one after the other: on one place a byte comes back, on the
three others it vanishes. -/
theorem times_unmix (b : UInt8) :
    times 14 (times 2 b) ^^^ times 11 (times 1 b) ^^^ times 13 (times 1 b) ^^^
      times 9 (times 3 b) = b ∧
    times 14 (times 3 b) ^^^ times 11 (times 2 b) ^^^ times 13 (times 1 b) ^^^
      times 9 (times 1 b) = 0 ∧
    times 14 (times 1 b) ^^^ times 11 (times 3 b) ^^^ times 13 (times 2 b) ^^^
      times 9 (times 1 b) = 0 ∧
    times 14 (times 1 b) ^^^ times 11 (times 1 b) ^^^ times 13 (times 3 b) ^^^
      times 9 (times 2 b) = 0 :=
  Bytes.forall_byte (p := fun b =>
    times 14 (times 2 b) ^^^ times 11 (times 1 b) ^^^ times 13 (times 1 b) ^^^
      times 9 (times 3 b) = b ∧
    times 14 (times 3 b) ^^^ times 11 (times 2 b) ^^^ times 13 (times 1 b) ^^^
      times 9 (times 1 b) = 0 ∧
    times 14 (times 1 b) ^^^ times 11 (times 3 b) ^^^ times 13 (times 2 b) ^^^
      times 9 (times 1 b) = 0 ∧
    times 14 (times 1 b) ^^^ times 11 (times 1 b) ^^^ times 13 (times 3 b) ^^^
      times 9 (times 2 b) = 0)
    (by decide +kernel) b

/-- The place where a byte of a column comes back: the column's other bytes vanish.  The four rows
of the matrices are turns of one row, so one place stands for all. -/
theorem unmix_place (x y z w : UInt8) :
    times 14 (times 2 x ^^^ times 3 y ^^^ times 1 z ^^^ times 1 w) ^^^
      times 11 (times 1 x ^^^ times 2 y ^^^ times 3 z ^^^ times 1 w) ^^^
      times 13 (times 1 x ^^^ times 1 y ^^^ times 2 z ^^^ times 3 w) ^^^
      times 9 (times 3 x ^^^ times 1 y ^^^ times 1 z ^^^ times 2 w) = x := by
  obtain ⟨hx, -, -, -⟩ := times_unmix x
  obtain ⟨-, hy, -, -⟩ := times_unmix y
  obtain ⟨-, -, hz, -⟩ := times_unmix z
  obtain ⟨-, -, -, hw⟩ := times_unmix w
  calc _ = (times 14 (times 2 x) ^^^ times 11 (times 1 x) ^^^ times 13 (times 1 x) ^^^
        times 9 (times 3 x)) ^^^
      (times 14 (times 3 y) ^^^ times 11 (times 2 y) ^^^ times 13 (times 1 y) ^^^
        times 9 (times 1 y)) ^^^
      (times 14 (times 1 z) ^^^ times 11 (times 3 z) ^^^ times 13 (times 2 z) ^^^
        times 9 (times 1 z)) ^^^
      (times 14 (times 1 w) ^^^ times 11 (times 1 w) ^^^ times 13 (times 3 w) ^^^
        times 9 (times 2 w)) := by
        simp only [times_xor]
        ac_rfl
    _ = x := by rw [hx, hy, hz, hw, UInt8.xor_zero, UInt8.xor_zero, UInt8.xor_zero]

/-- Mixing a column is undone. -/
theorem unmixColumn_mixColumn (x y z w : UInt8) :
    mixColumn 14 11 13 9 (mixColumn 2 3 1 1 [x, y, z, w]) = [x, y, z, w] := by
  have hx := unmix_place x y z w
  have hy := unmix_place y z w x
  have hz := unmix_place z w x y
  have hw := unmix_place w x y z
  simp only [mixColumn, List.getD_cons_zero, List.getD_cons_succ, List.cons.injEq, and_true]
  refine ⟨hx, Eq.trans ?_ hy, Eq.trans ?_ hz, Eq.trans ?_ hw⟩ <;> ac_rfl

/-! ## Steps of a round -/

/-- Mixed columns have four bytes. -/
theorem length_of_mem_mixed {columns : List Bytes} :
    ∀ column ∈ columns.map (mixColumn 2 3 1 1), column.length = 4 := by
  intro column hcolumn
  obtain ⟨_, -, rfl⟩ := List.mem_map.1 hcolumn
  rfl

/-- Mixing every column of a block is undone. -/
theorem unmixColumns_mixColumns {block : Bytes} (h : block.length = 16) :
    unmixColumns (mixColumns block) = block := by
  have hcolumns := @Bytes.length_of_mem_groups 4 block (by rw [h])
  have hback : ∀ column ∈ Bytes.groups 4 block,
      mixColumn 14 11 13 9 (mixColumn 2 3 1 1 column) = column := by
    intro column hcolumn
    match column, hcolumns column hcolumn with
    | [x, y, z, w], _ => exact unmixColumn_mixColumn x y z w
  calc unmixColumns (mixColumns block)
      = ((Bytes.groups 4 block).map fun column =>
        mixColumn 14 11 13 9 (mixColumn 2 3 1 1 column)).flatten := by
        rw [unmixColumns, mixColumns, List.flatMap_def, List.flatMap_def,
          Bytes.groups_flatten (by decide) length_of_mem_mixed, List.map_map]
        rfl
    _ = (Bytes.groups 4 block).flatten := by rw [List.map_congr_left hback, List.map_id']
    _ = block := (Bytes.flatten_groups (by decide) block).1

/-- Mixing leaves the number of bytes alone. -/
theorem length_mixColumns {block : Bytes} (h : block.length = 16) :
    (mixColumns block).length = 16 := by
  have hcolumns := @Bytes.length_of_mem_groups 4 block (by rw [h])
  have hcount : 4 * (Bytes.groups 4 block).length = 16 := by
    rw [← Bytes.length_flatten hcolumns, (Bytes.flatten_groups (by decide) block).1, h]
  rw [mixColumns, List.flatMap_def, Bytes.length_flatten length_of_mem_mixed,
    List.length_map, hcount]

/-- Turning the rows of a block is undone. -/
theorem turnRowsBack_turnRows {block : Bytes} (h : block.length = 16) :
    turnRowsBack (turnRows block) = block := by
  match block, h with
  | [_, _, _, _, _, _, _, _, _, _, _, _, _, _, _, _], _ => rfl

theorem length_turnRows (block : Bytes) : (turnRows block).length = 16 := rfl

/-- Substituting every byte is undone. -/
theorem map_unsubstitute_substitute (block : Bytes) :
    (block.map substitute).map unsubstitute = block := by
  simp only [List.map_map, Function.comp_def, unsubstitute_substitute, List.map_id']

/-! ## Rounds -/

/-- The substitution and the turn of a round are undone. -/
theorem undo_round {block : Bytes} (h : block.length = 16) :
    (turnRowsBack (turnRows (block.map substitute))).map unsubstitute = block := by
  rw [turnRowsBack_turnRows (by rw [List.length_map, h]), map_unsubstitute_substitute]

theorem length_encryptRounds {keys : List Bytes} {block : Bytes}
    (hkeys : ∀ key ∈ keys, key.length = 16)
    (h : block.length = 16) : (encryptRounds block keys).length = 16 := by
  induction keys generalizing block with
  | nil => exact h
  | cons key keys ih =>
      have hkey := hkeys key List.mem_cons_self
      have hrest := fun k hk => hkeys k (List.mem_cons_of_mem key hk)
      match keys with
      | [] =>
          rw [encryptRounds, Bytes.length_xor (by rw [length_turnRows, hkey]), length_turnRows]
      | next :: keys =>
          have hmixed := length_mixColumns (length_turnRows (block.map substitute))
          rw [encryptRounds]
          · exact ih hrest (by rw [Bytes.length_xor (by rw [hmixed, hkey]), hmixed])
          · exact nofun

/-- Undoing rounds from the last key on leads back to the first of them, where the columns are not
mixed yet.  Whatever keys came before are still to be undone. -/
theorem decryptRounds_encryptRounds {keys front : List Bytes} {last : Bytes}
    (hreverse : keys.reverse = last :: front) (hkeys : ∀ key ∈ keys, key.length = 16)
    {block : Bytes}
    (h : block.length = 16) (before : Bytes) (others : List Bytes) :
    decryptRounds (Bytes.xor (encryptRounds block keys) last) (front ++ before :: others) =
      decryptRounds (turnRows (block.map substitute)) (before :: others) := by
  induction keys generalizing block front before others with
  | nil => cases hreverse
  | cons key keys ih =>
      have hkey := hkeys key List.mem_cons_self
      match keys with
      | [] =>
          cases hreverse
          rw [encryptRounds, Bytes.xor_xor_self (by rw [length_turnRows, hkey])]
          rfl
      | next :: keys =>
          have hmixed := length_mixColumns (length_turnRows (block.map substitute))
          obtain ⟨front', rfl, hreverse'⟩ : ∃ front', front = front' ++ [key] ∧
              (next :: keys).reverse = last :: front' := by
            rw [List.reverse_cons] at hreverse
            match hrest : (next :: keys).reverse with
            | [] => simp at hrest
            | first :: rest =>
                rw [hrest] at hreverse
                cases hreverse
                exact ⟨rest, rfl, rfl⟩
          have hblock :
              (Bytes.xor (mixColumns (turnRows (block.map substitute))) key).length = 16 := by
            rw [Bytes.length_xor (by rw [hmixed, hkey]), hmixed]
          rw [encryptRounds, List.append_assoc, List.singleton_append,
            ih hreverse' (fun k hk => hkeys k (List.mem_cons_of_mem key hk)) hblock key
              (before :: others),
            decryptRounds, undo_round hblock, Bytes.xor_xor_self (by rw [hmixed, hkey]),
            unmixColumns_mixColumns (length_turnRows _)]
          · exact nofun
          · exact nofun

/-- **Decryption of a block undoes encryption.** -/
theorem decryptBlock_encryptBlock {keys : List Bytes} (hkeys : ∀ key ∈ keys, key.length = 16)
    {block : Bytes} (h : block.length = 16) :
    decryptBlock keys (encryptBlock keys block) = block := by
  match keys with
  | [] => rfl
  | first :: keys =>
      have hfirst := hkeys first List.mem_cons_self
      have hstate : (Bytes.xor block first).length = 16 := by
        rw [Bytes.length_xor (by rw [h, hfirst]), h]
      have hback : Bytes.xor (Bytes.xor block first) first = block :=
        Bytes.xor_xor_self (by rw [h, hfirst])
      rw [encryptBlock, decryptBlock, List.reverse_cons]
      match hreverse : keys.reverse with
      | [] =>
          rw [List.reverse_eq_nil_iff.1 hreverse]
          exact hback
      | last :: front =>
          have hrest := fun k hk => hkeys k (List.mem_cons_of_mem first hk)
          have hrounds := decryptRounds_encryptRounds hreverse hrest hstate first []
          simp only [List.cons_append]
          rw [hrounds, decryptRounds, undo_round hstate, hback]

/-- Encryption gives a block. -/
theorem length_encryptBlock {keys : List Bytes} (hkeys : ∀ key ∈ keys, key.length = 16)
    {block : Bytes} (h : block.length = 16) : (encryptBlock keys block).length = 16 := by
  match keys with
  | [] => exact h
  | first :: keys =>
      have hfirst := hkeys first List.mem_cons_self
      refine length_encryptRounds (fun k hk => hkeys k (List.mem_cons_of_mem first hk)) ?_
      rw [Bytes.length_xor (by rw [h, hfirst]), h]

/-! ## All blocks -/

/-- What can be undone on the blocks of one length reaches every block of that length, because there
are finitely many of them. -/
theorem exists_of_undone {n : Nat} {f g : Bytes → Bytes}
    (hlength : ∀ block : Bytes, block.length = n → (f block).length = n)
    (hback : ∀ block : Bytes, block.length = n → g (f block) = block) {block : Bytes}
    (h : block.length = n) : ∃ source : Bytes, source.length = n ∧ f source = block := by
  have hbytes : Finite UInt8 := .of_injective UInt8.toFin fun _ _ => UInt8.toFin_inj.1
  have hfinite := List.finite_length_eq UInt8 n
  have hinjective : Set.InjOn f {block : Bytes | block.length = n} := by
    intro a ha b hb hab
    rw [← hback a ha, hab, hback b hb]
  have hbijective := (hfinite.injOn_iff_bijOn_of_mapsTo hlength).1 hinjective
  exact hbijective.surjOn h

/-- **Encryption of a block undoes decryption**: the block is the encryption of some block, and that
is what decryption gives. -/
theorem encryptBlock_decryptBlock {keys : List Bytes} (hkeys : ∀ key ∈ keys, key.length = 16)
    {block : Bytes} (h : block.length = 16) :
    (decryptBlock keys block).length = 16 ∧ encryptBlock keys (decryptBlock keys block) = block := by
  obtain ⟨plain, hplain, rfl⟩ := exists_of_undone (fun _ => length_encryptBlock hkeys)
    (fun _ => decryptBlock_encryptBlock hkeys) h
  rw [decryptBlock_encryptBlock hkeys hplain]
  exact ⟨hplain, rfl⟩

/-! ## Keys -/

/-- The expansion adds words of four bytes to eight or more of them. -/
theorem length_expandWords {words : List Bytes} (n i : Nat)
    (hwords : ∀ word ∈ words, word.length = 4)
    (hcount : 8 ≤ words.length) :
    (∀ word ∈ expandWords n i words, word.length = 4) ∧
      (expandWords n i words).length = words.length + n := by
  induction n generalizing i words with
  | zero => exact ⟨hwords, rfl⟩
  | succ n ih =>
      have hword : ∀ k < 8, (words.getD k []).length = 4 := by
        intro k hk
        have hlt : k < words.length := by omega
        rw [List.getD_eq_getElem?_getD, List.getElem?_eq_getElem hlt, Option.getD_some]
        exact hwords _ (List.getElem_mem hlt)
      have hprevious := hword 0 (by decide)
      rw [expandWords]
      -- whichever way the word before is changed, it keeps its four bytes
      generalize hchanged : (if i % 8 = 0 then _ else _) = changed
      have hfour : changed.length = 4 := by
        subst hchanged
        split
        · have hturned : (((words.getD 0 []).drop 1 ++ (words.getD 0 []).take 1).map
              substitute).length = 4 := by
            rw [List.length_map, List.length_append, List.length_drop, List.length_take, hprevious]
            rfl
          rw [Bytes.length_xor (by rw [hturned]; rfl), hturned]
        · split
          · rw [List.length_map, hprevious]
          · exact hprevious
      have hnew : (Bytes.xor (words.getD 7 []) changed).length = 4 := by
        rw [Bytes.length_xor (by rw [hword 7 (by decide), hfour]), hword 7 (by decide)]
      have hrest := @ih (Bytes.xor (words.getD 7 []) changed :: words) (i + 1)
        (List.forall_mem_cons.2 ⟨hnew, hwords⟩) (by rw [List.length_cons]; omega)
      exact ⟨hrest.1, by rw [hrest.2, List.length_cons]; omega⟩

/-- Round keys are as long as blocks. -/
theorem length_of_mem_expandKey {key : Bytes} (h : key.length = 32) :
    ∀ roundKey ∈ expandKey key, roundKey.length = 16 := by
  have hwords := @Bytes.length_of_mem_groups 4 key (by rw [h])
  have hcount : (Bytes.groups 4 key).length = 8 := by
    have hlength := Bytes.length_flatten hwords
    rw [(Bytes.flatten_groups (by decide) key).1, h] at hlength
    omega
  obtain ⟨hexpanded, htotal⟩ := @length_expandWords (Bytes.groups 4 key).reverse 52 8
    (by simpa using hwords) (Nat.le_of_eq (by rw [List.length_reverse, hcount]))
  refine Bytes.length_of_mem_groups ?_
  rw [Bytes.length_flatten (n := 4) (by simpa using hexpanded), List.length_reverse, htotal,
    List.length_reverse, hcount]

end SiteScript.Aes
