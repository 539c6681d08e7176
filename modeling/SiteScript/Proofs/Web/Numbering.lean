import Mathlib.Algebra.Group.Int.Defs
import SiteScript.Proofs.Json.Rereading
import SiteScript.Proofs.Web.DataFile

/-!
# SiteScript.Proofs.Web.Numbering

The number of a new record.  Numbers are words of 64 bits with a sign; a file may also hold integers
beyond them, up to the largest of 64 bits without a sign.

1. As long as the largest number is not taken, a new record gets the number after the largest one, as
   if there were no end of numbers (`nextId_eq_iff`).  When it is taken, a new record gets the smallest
   (`nextId_eq_minSigned`).
2. Integers beyond the numbers do not count.  So a new number exceeds all integers of a file exactly
   when these are below the largest number (`lt_nextId_iff`).
-/

namespace SiteScript.Web.DataFile

variable {records : List Json} {record : Json} {n : Int}

/-! ## Identifiers -/

/-- The integer that is the `id` of a record. -/
def idNumber? (record : Json) : Option Int :=
  match record.member? "id" with
  | some (.number (.int n)) => some n
  | _ => none

theorem idNumber?_eq_some : idNumber? record = some n ↔ record.member? "id" = some (.int n) := by
  rw [idNumber?]
  split
  next heq => simp [heq, Json.int]
  next hother => simpa [Json.int] using hother n

theorem fitsWord_idNumber? (h : Json.Kept record) (hid : idNumber? record = some n) :
    Json.FitsWord n := by
  cases h.member? (idNumber?_eq_some.1 hid) with
  | int hfits => exact hfits

/-- The number of a record is its integer, where that fits in the word of numbers. -/
theorem numberOf?_eq (record : Json) :
    numberOf? record = (idNumber? record).filter (Word.fitsSigned idBits) := by
  cases hid : idNumber? record with
  | some n =>
      rw [numberOf?, idNumber?_eq_some.1 hid]
      rfl
  | none =>
      rw [numberOf?]
      split
      next heq => cases hid.symm.trans (idNumber?_eq_some.2 heq)
      next => rfl

theorem numberOf?_eq_some_iff : numberOf? record = some n ↔
    idNumber? record = some n ∧ Word.minSigned idBits ≤ n ∧ n ≤ Word.maxSigned idBits := by
  simp [numberOf?_eq, Word.fitsSigned]

/-- The numbers that are taken. -/
theorem mem_numbers_iff : n ∈ records.filterMap numberOf? ↔
    (∃ r ∈ records, idNumber? r = some n) ∧
      Word.minSigned idBits ≤ n ∧ n ≤ Word.maxSigned idBits := by
  simp only [List.mem_filterMap, numberOf?_eq_some_iff]
  exact ⟨fun ⟨r, hr, hid, hword⟩ => ⟨⟨r, hr, hid⟩, hword⟩,
    fun ⟨⟨r, hr, hid⟩, hword⟩ => ⟨r, hr, hid, hword⟩⟩

/-! ## The next number -/

/-- The number after the largest one, or one.  Unlike `nextId` it does not know of the size of words.
-/
def nextNumber (records : List Json) : Int :=
  match (records.filterMap numberOf?).max? with
  | some largest => largest + 1
  | none => 1

/-- Of records with numbers, one has the number before the next one. -/
theorem nextNumber_cases (records : List Json) :
    (records.filterMap numberOf? = [] ∧ nextNumber records = 1) ∨
      ∃ largest, largest ∈ records.filterMap numberOf? ∧
        (∀ n ∈ records.filterMap numberOf?, n ≤ largest) ∧ nextNumber records = largest + 1 := by
  rw [nextNumber]
  cases hmax : (records.filterMap numberOf?).max? with
  | none => exact .inl ⟨List.max?_eq_none_iff.1 hmax, rfl⟩
  | some largest =>
      obtain ⟨hmem, hle⟩ := List.max?_eq_some_iff.1 hmax
      exact .inr ⟨largest, hmem, hle, rfl⟩

/-- Every number is smaller than the next one. -/
theorem lt_nextNumber (h : n ∈ records.filterMap numberOf?) : n < nextNumber records := by
  rcases nextNumber_cases records with ⟨hnone, -⟩ | ⟨largest, -, hle, hnext⟩
  · rw [hnone] at h
    cases h
  · have := hle n h
    omega

/-- The next number is never the smallest of its word. -/
theorem minSigned_lt_nextNumber (records : List Json) :
    Word.minSigned idBits < nextNumber records := by
  rcases nextNumber_cases records with ⟨-, hnext⟩ | ⟨largest, hmem, -, hnext⟩
  · rw [hnext]
    decide
  · have := (mem_numbers_iff.1 hmem).2.1
    omega

/-- The next number fits in its word as long as the largest number is not taken. -/
theorem nextNumber_le_iff : nextNumber records ≤ Word.maxSigned idBits ↔
    ∀ r ∈ records, idNumber? r ≠ some (Word.maxSigned idBits) := by
  constructor
  · intro hroom r hr hid
    have hlt := lt_nextNumber (mem_numbers_iff.2 ⟨⟨r, hr, hid⟩, by decide, Int.le_refl _⟩)
    omega
  · intro hfree
    rcases nextNumber_cases records with ⟨-, hnext⟩ | ⟨largest, hmem, -, hnext⟩
    · rw [hnext]
      decide
    · obtain ⟨⟨r, hr, hid⟩, -, hle⟩ := mem_numbers_iff.1 hmem
      have hne : largest ≠ Word.maxSigned idBits := fun heq => hfree r hr (heq ▸ hid)
      omega

/-- A record with the next number makes the number after that the next one. -/
theorem nextNumber_concat {stored : Json} (h : numberOf? stored = some (nextNumber records)) :
    nextNumber (records ++ [stored]) = nextNumber records + 1 := by
  have hmax : ((records ++ [stored]).filterMap numberOf?).max? = some (nextNumber records) := by
    rw [List.max?_eq_some_iff, List.filterMap_append, List.filterMap_cons_some h]
    refine ⟨by simp, fun n hn => ?_⟩
    rcases List.mem_append.1 hn with hn | hn
    · exact Int.le_of_lt (lt_nextNumber hn)
    · exact Int.le_of_eq (by simpa using hn)
  rw [nextNumber, hmax]

/-! ## The assigned number -/

/-- The number that an append assigns is the next one, unless that is too large for its word. -/
theorem nextId_eq (h : nextNumber records ≤ Word.maxSigned idBits) :
    nextId records = nextNumber records := by
  have hlow := minSigned_lt_nextNumber records
  rw [nextNumber] at h hlow ⊢
  rw [nextId]
  cases hmax : (records.filterMap numberOf?).max? with
  | none => rfl
  | some largest =>
      simp only [hmax] at h hlow ⊢
      refine Int.bmod_eq_of_le ?_ ?_
      · exact Int.le_trans (by decide) (Int.le_of_lt hlow)
      · exact Int.lt_of_le_of_lt h (by decide)

/-- After the largest number comes the smallest. -/
theorem nextId_eq_minSigned (h : ∃ r ∈ records, idNumber? r = some (Word.maxSigned idBits)) :
    nextId records = Word.minSigned idBits := by
  have hmax : (records.filterMap numberOf?).max? = some (Word.maxSigned idBits) :=
    List.max?_eq_some_iff.2 ⟨mem_numbers_iff.2 ⟨h, by decide, Int.le_refl _⟩,
      fun _ hn => (mem_numbers_iff.1 hn).2.2⟩
  rw [nextId, hmax]
  decide

/-- **The next number is assigned** exactly as long as the largest number is not taken. -/
theorem nextId_eq_iff : nextId records = nextNumber records ↔
    ∀ r ∈ records, idNumber? r ≠ some (Word.maxSigned idBits) := by
  rw [← nextNumber_le_iff]
  exact ⟨fun h => h ▸ (nextId_bounds records).2, nextId_eq⟩

/-- The number of a new record is the one after the largest, unless it is the smallest of all. -/
theorem nextId_eq_of_lt (h : Word.minSigned idBits < nextId records) :
    nextId records = nextNumber records :=
  nextId_eq_iff.2 fun r hr hid => absurd (nextId_eq_minSigned ⟨r, hr, hid⟩) (Int.ne_of_gt h)

/-- The integer `id` of a record is smaller than the number of the next record, or too large to be
the number of any. -/
theorem lt_nextId {k : Int} (hrecord : record ∈ records) (hfits : Json.FitsWord k)
    (hid : idNumber? record = some k) (h : Word.minSigned idBits < nextId records) :
    k < nextId records ∨ 2 ^ 63 ≤ k := by
  rcases Int.lt_or_le (Word.maxSigned idBits) k with hlarge | hword
  · exact .inr (Int.add_one_le_of_lt hlarge)
  · rw [nextId_eq_of_lt h]
    exact .inl (lt_nextNumber (mem_numbers_iff.2 ⟨⟨record, hrecord, hid⟩, hfits.1, hword⟩))

/-- **A new number exceeds all integers** exactly when these are below the largest number. -/
theorem lt_nextId_iff (hfits : ∀ r ∈ records, ∀ k, idNumber? r = some k → Json.FitsWord k) :
    (∀ r ∈ records, ∀ k, idNumber? r = some k → k < nextId records) ↔
      ∀ r ∈ records, ∀ k, idNumber? r = some k → k < Word.maxSigned idBits := by
  constructor
  · intro hall r hr k hid
    exact Int.lt_of_lt_of_le (hall r hr k hid) (nextId_bounds records).2
  · intro hall r hr k hid
    have hassigned : nextId records = nextNumber records :=
      nextId_eq_iff.2 fun s hs htaken => Int.lt_irrefl _ (hall s hs _ htaken)
    have hmin : Word.minSigned idBits < nextId records :=
      hassigned ▸ minSigned_lt_nextNumber records
    rcases lt_nextId hr (hfits r hr k hid) hid hmin with hlt | hlarge
    · exact hlt
    · exact absurd (Int.lt_of_lt_of_le (hall r hr k hid) (by decide : _ ≤ (2 : Int) ^ 63))
        (Int.not_lt.2 hlarge)

end SiteScript.Web.DataFile
