import SiteScript.Bytes

/-!
# SiteScript.Proofs.Bytes

Laws of byte strings: groups can be put together again, exclusive or undoes itself, numbers that are
written as bytes are read back, and texts are read from their UTF-8 only. -/

namespace SiteScript.Bytes

/-- What holds of all bytes, given for the numbers below 256. -/
theorem forall_byte {p : UInt8 → Prop} (h : ∀ n < 256, p (UInt8.ofNat n)) (b : UInt8) : p b := by
  have hb := h b.toNat b.toNat_lt
  rwa [UInt8.ofNat_toNat] at hb

/-! ## Groups -/

theorem groups_nil (n : Nat) : groups n [] = [] := by
  rw [groups]
  simp

/-- A full group comes first. -/
theorem groups_append {n : Nat} {group : Bytes} (hn : 0 < n) (hgroup : group.length = n)
    (rest : Bytes) :
    groups n (group ++ rest) = group :: groups n rest := by
  have hne : group ++ rest ≠ [] := by
    intro hnil
    rw [(List.append_eq_nil_iff.1 hnil).1] at hgroup
    simp at hgroup
    omega
  rw [groups, dif_neg (by simp only [not_or]; exact ⟨hne, by omega⟩), ← hgroup, List.take_left,
    List.drop_left]

/-- Full groups are found again in their sequence. -/
theorem groups_flatten {n : Nat} {pieces : List Bytes} (hn : 0 < n)
    (h : ∀ piece ∈ pieces, piece.length = n) : groups n pieces.flatten = pieces := by
  induction pieces with
  | nil => exact groups_nil n
  | cons piece pieces ih =>
      rw [List.flatten_cons, groups_append hn (h piece List.mem_cons_self),
        ih fun piece hpiece => h piece (List.mem_cons_of_mem _ hpiece)]

/-- The groups in sequence are the bytes, and no group is longer than allowed or empty. -/
theorem flatten_groups {n : Nat} (hn : 0 < n) (bytes : Bytes) :
    (groups n bytes).flatten = bytes ∧ ∀ group ∈ groups n bytes, group.length ≤ n := by
  induction bytes using groups.induct n with
  | case1 bytes hend =>
      rw [groups, dif_pos hend]
      rcases hend with rfl | hzero
      · exact ⟨rfl, nofun⟩
      · omega
  | case2 bytes hend ih =>
      rw [groups, dif_neg hend, List.flatten_cons, ih.1, List.take_append_drop]
      refine ⟨rfl, fun group hgroup => ?_⟩
      rcases List.mem_cons.1 hgroup with rfl | hgroup
      · exact List.length_take_le n bytes
      · exact ih.2 group hgroup

/-- Bytes that come to a whole number of groups make full groups only. -/
theorem length_of_mem_groups {n : Nat} {bytes : Bytes} (h : bytes.length % n = 0) :
    ∀ group ∈ groups n bytes, group.length = n := by
  induction bytes using groups.induct n with
  | case1 bytes hend =>
      rw [groups, dif_pos hend]
      exact nofun
  | case2 bytes hend ih =>
      have hpos : 0 < bytes.length := List.length_pos_iff.2 fun hnil => hend (.inl hnil)
      have hle : n ≤ bytes.length := Nat.le_of_dvd hpos (Nat.dvd_of_mod_eq_zero h)
      rw [groups, dif_neg hend]
      intro group hgroup
      rcases List.mem_cons.1 hgroup with rfl | hgroup
      · rw [List.length_take]
        omega
      · refine ih ?_ group hgroup
        rw [List.length_drop, Nat.sub_mod_eq_zero_of_mod_eq]
        rw [h, Nat.mod_self]

/-- Pieces of one length in sequence. -/
theorem length_flatten {n : Nat} {pieces : List Bytes} (h : ∀ piece ∈ pieces, piece.length = n) :
    pieces.flatten.length = n * pieces.length := by
  induction pieces with
  | nil => rfl
  | cons piece pieces ih =>
      rw [List.flatten_cons, List.length_append, h piece List.mem_cons_self,
        ih fun piece hpiece =>
          h piece (List.mem_cons_of_mem _ hpiece), List.length_cons, Nat.mul_succ,
        Nat.add_comm]

/-! ## Exclusive or -/

theorem length_xor {a b : Bytes} (h : a.length = b.length) : (xor a b).length = a.length := by
  rw [xor, List.length_zipWith, h, Nat.min_self]

/-- Combining twice with the same bytes changes nothing. -/
theorem xor_xor_self {a b : Bytes} (h : a.length = b.length) : xor (xor a b) b = a := by
  induction a generalizing b with
  | nil => rfl
  | cons x a ih =>
      match b with
      | [] => simp at h
      | y :: b =>
          have hrest : xor (xor a b) b = a := ih (by simpa using h)
          have hfirst : (x ^^^ y) ^^^ y = x := by
            rw [UInt8.xor_assoc, UInt8.xor_self, UInt8.xor_zero]
          rw [show xor (xor (x :: a) (y :: b)) (y :: b) =
            ((x ^^^ y) ^^^ y) :: xor (xor a b) b from rfl, hfirst, hrest]

/-! ## Numbers as bytes -/

@[simp] theorem length_littleEndian (width n : Nat) : (littleEndian width n).length = width := by
  induction width generalizing n with
  | zero => rfl
  | succ width ih => simp [littleEndian, ih]

@[simp] theorem length_bigEndian (width n : Nat) : (bigEndian width n).length = width := by
  rw [bigEndian, List.length_reverse, length_littleEndian]

/-- A number that is written as bytes is read back as far as the bytes reach. -/
theorem ofLittleEndian_littleEndian (width n : Nat) :
    ofLittleEndian (littleEndian width n) = n % Nat.pow 256 width := by
  induction width generalizing n with
  | zero => exact (Nat.mod_one n).symm
  | succ width ih =>
      have hbyte : (UInt8.ofNat n).toNat = n % 256 := UInt8.toNat_ofNat'
      have hpower : Nat.pow 256 (width + 1) = 256 * Nat.pow 256 width := Nat.mul_comm _ _
      rw [littleEndian, ofLittleEndian, ih, hbyte, hpower, Nat.mod_mul]

/-! ## Texts -/

/-- Bytes are read as the text that they are the UTF-8 of. -/
theorem fromUTF8?_eq_some_iff {array : ByteArray} {text : String} :
    String.fromUTF8? array = some text ↔ array = text.toUTF8 := by
  constructor
  · intro h
    rw [String.fromUTF8?] at h
    split at h
    · cases h
      rfl
    · cases h
  · rintro rfl
    exact toText?_ofText text

theorem toText?_eq_some_iff {bytes : Bytes} {text : String} :
    toText? bytes = some text ↔ bytes = ofText text := by
  rw [toText?, fromUTF8?_eq_some_iff]
  constructor
  · intro h
    rw [ofText, ← h, ofArray_toArray]
  · rintro rfl
    exact toArray_ofArray _

end SiteScript.Bytes
