import Mathlib.Data.List.Find
import SiteScript.Proofs.Binary64
import SiteScript.Proofs.Json.Rereading
import SiteScript.Proofs.Web.Appends

/-!
# SiteScript.Proofs.Web.Lookup

Finding a record by its `id`.  Numbers are assigned as integers, and looked for as doubles.

1. Digits find the first record whose integer is rounded to the same double as theirs
   (`find_number`).  That is the first record with their number as long as no large numbers are
   around; from `2 ^ 53` on, a record with another number may stand before it
   (`neighbour_found`).
2. A record that was created is found by its number, up to `2 ^ 53`, unless an earlier record has
   the number for its `id` in another form, as a text or as a real (`find_appended`); such a record
   is found instead (`text_found`). -/

namespace SiteScript.Web.DataFile

variable {box : Sandbox} {fs fs' : FileSystem} {path : String} {records : List Json}

theorem find_of_readAll (h : readAll box fs path = .ok records) (id : String) :
    find box fs path id = .ok (records.find? (hasId id)) := by
  rw [find, h]
  rfl

/-! ## Identifiers -/

section HasId

variable {record : Json} {id : String} {n : Int}
  (htext : Extended.ofText? id.toList = some (.ofInt n))

/-- An integer of 64 bits can be rounded to a double. -/
theorem natAbs_lt_of_fitsWord (h : Json.FitsWord n) : n.natAbs < 2 ^ 64 := by
  obtain ⟨hmin, hmax⟩ := h
  have hlow : Word.minSigned 64 = -2 ^ 63 := by decide
  have hhigh : Word.maxUnsigned 64 = 2 ^ 64 - 1 := by decide
  omega

include htext

/-- An integer is found by one that is rounded to the same double. -/
theorem hasId_int {k : Int} (hfits : Json.FitsWord k) (hid : idNumber? record = some k) :
    hasId id record = decide (Binary64.ofInt? k = Binary64.ofInt? n) := by
  obtain ⟨stored, hstored⟩ := Binary64.exists_ofInt? (natAbs_lt_of_fitsWord hfits)
  rw [hasId, idNumber?_eq_some.1 hid]
  simp only [Json.int, Number.toReal?, htext, hstored, Extended.ofInt]
  cases hrequested : Binary64.ofInt? n with
  | none => simp
  | some requested =>
      simp only [Option.some.injEq]
      rw [Bool.eq_iff_iff, decide_eq_true_iff]
      refine ⟨Binary64.eq_of_numEq hstored hrequested, ?_⟩
      rintro rfl
      simp [Binary64.numEq]

/-- An integer up to `2 ^ 53` finds no real with another value. -/
theorem not_hasId_real {x : Binary64} (hid : record.member? "id" = some (.number (.real x)))
    (hn : n.natAbs ≤ 2 ^ 53) (hne : x.toRat ≠ n) : hasId id record = false := by
  obtain ⟨requested, hrequested⟩ := Binary64.exists_ofInt? (show n.natAbs < 2 ^ 64 by omega)
  rw [hasId, hid]
  simp only [Number.toReal?, htext, Extended.ofInt, hrequested]
  rw [← Bool.not_eq_true]
  intro hsame
  exact hne ((Binary64.toRat_eq_of_numEq hsame).trans (Binary64.toRat_ofInt? hrequested hn))

end HasId

/-! ## Requested numbers -/

/-- **Digits find the first record whose integer is rounded to the same double as their number**,
however many they are and whatever zeros stand in front.  That is the first record with their
number, if that number or every number in the file is below `2 ^ 53`. -/
theorem find_number {digits : String} (hread : readAll box fs path = .ok records)
    (hids : ∀ r ∈ records, ∃ k, idNumber? r = some k) (hne : digits ≠ "")
    (hdigits : ∀ c ∈ digits.toList, c.isDigit = true) :
    let n : Int := Decimal.value digits.toList
    find box fs path digits = .ok (records.find? fun r =>
      (idNumber? r).any fun k => Binary64.ofInt? k = Binary64.ofInt? n) ∧
    (n < 2 ^ 53 ∨ (∀ r ∈ records, ∀ k, idNumber? r = some k → k.natAbs < 2 ^ 53) →
      find box fs path digits = .ok (records.find? fun r => idNumber? r = some n)) := by
  intro n
  have htext : Extended.ofText? digits.toList = some (.ofInt n) :=
    Extended.ofText?_digits (by simpa using hne) hdigits
  rw [find_of_readAll hread]
  constructor
  · refine congrArg Except.ok (List.find?_congr fun r hr => ?_)
    obtain ⟨k, hk⟩ := hids r hr
    rw [hasId_int htext (fitsWord_idNumber? (kept_of_readAll hread r hr).1 hk) hk, hk]
    rfl
  · intro hexact
    refine congrArg Except.ok (List.find?_congr fun r hr => ?_)
    obtain ⟨k, hk⟩ := hids r hr
    have hfits := fitsWord_idNumber? (kept_of_readAll hread r hr).1 hk
    obtain ⟨x, hx⟩ := Binary64.exists_ofInt? (natAbs_lt_of_fitsWord hfits)
    have hsmall : k.natAbs < 2 ^ 53 ∨ n.natAbs < 2 ^ 53 := by
      rcases hexact with hn | hall
      · exact .inr (by omega)
      · exact .inl (hall r hr k hk)
    rw [hasId_int htext hfits hk, hk, decide_eq_decide, Option.some.injEq]
    refine ⟨fun hsame => Binary64.eq_of_ofInt?_eq hx (hsame ▸ hx) hsmall, ?_⟩
    rintro rfl
    rfl

/-- The first two numbers that are rounded to one double, and a small one. -/
def largeNotes : List Json := [numbered (2 ^ 53), numbered (2 ^ 53 + 1), numbered 42]

theorem readAll_largeNotes :
    readAll newBox (notesFile largeNotes) "notes.json" = .ok largeNotes := by
  refine readAll_notesFile ?_
  simp only [largeNotes, List.forall_mem_cons]
  exact ⟨(flat_numbered ⟨by decide, by decide⟩).storable,
    (flat_numbered ⟨by decide, by decide⟩).storable,
    (flat_numbered ⟨by decide, by decide⟩).storable, nofun⟩

/-- Zeros in front do not count. -/
theorem find_number_zeros :
    readAll newBox (notesFile largeNotes) "notes.json" = .ok largeNotes ∧
      find newBox (notesFile largeNotes) "notes.json" "042" = .ok (some (numbered 42)) := by
  have hids : ∀ r ∈ largeNotes, ∃ k, idNumber? r = some k := by
    simp only [largeNotes, List.forall_mem_cons]
    exact ⟨⟨_, rfl⟩, ⟨_, rfl⟩, ⟨_, rfl⟩, nofun⟩
  have hdigits : ∀ c ∈ "042".toList, c.isDigit = true := List.all_eq_true.1 (by decide)
  refine ⟨readAll_largeNotes, ?_⟩
  exact (find_number readAll_largeNotes hids (by decide) hdigits).2 (.inl (by decide))

/-- The record with the smaller of two neighbouring numbers is found for the larger one, which is
the number of the record after it. -/
theorem neighbour_found :
    readAll newBox (notesFile largeNotes) "notes.json" = .ok largeNotes ∧
      (Decimal.value "9007199254740993".toList : Int) = 2 ^ 53 + 1 ∧
      largeNotes.find? (fun r => idNumber? r = some (2 ^ 53 + 1)) = some (numbered (2 ^ 53 + 1)) ∧
      find newBox (notesFile largeNotes) "notes.json" "9007199254740993" =
        .ok (some (numbered (2 ^ 53))) ∧
      idNumber? (numbered (2 ^ 53)) ≠ idNumber? (numbered (2 ^ 53 + 1)) := by
  have hfound : hasId "9007199254740993" (numbered (2 ^ 53)) = true := by decide +kernel
  refine ⟨readAll_largeNotes, by decide +kernel, ?_, ?_, by decide⟩
  · rw [largeNotes, List.find?_cons_of_neg (by decide), List.find?_cons_of_pos (by decide)]
  · rw [find_of_readAll readAll_largeNotes, largeNotes, List.find?_cons_of_pos hfound]

/-! ## Created records -/

/-- How deep the records of a file may be nested. -/
def recordDepth : Nat := Json.maxDepth - 1

/-- The integer `id` of a record that is reread is that of the record. -/
theorem idNumber?_of_reread {record again : Json} {n : Int} (hkept : Json.Kept record)
    (hread : Json.reread recordDepth record = some again) :
    idNumber? again = some n ↔ idNumber? record = some n := by
  have hmember := @Json.member?_of_reread record again (recordDepth - 1) hkept hread "id"
  rw [idNumber?_eq_some, idNumber?_eq_some, hmember]
  constructor
  · intro hid
    obtain ⟨member, hmember, hagain⟩ := Option.bind_eq_some_iff.1 hid
    rw [hmember, Json.eq_int_of_reread (hkept.member? hmember) hagain]
  · intro hid
    have hfits := fitsWord_idNumber? hkept (idNumber?_eq_some.2 hid)
    rw [hid, Option.bind_some, Json.reread_int hfits]

section Append

variable {record : Record} {author : Option String} {stored : Json} {again : List Json}

/-- A file that can be read after an append holds the previous records and the stored one, each of
them reread. -/
theorem reread_of_append (happend : append box fs path record author = (.ok stored, fs'))
    (hagain : readAll box fs' path = .ok again) :
    ∃ records earlier last, readAll box fs path = .ok records ∧
      stored = .object (stamp record (nextId records) author) ∧
      records.mapM (Json.reread recordDepth) = some earlier ∧
      Json.reread recordDepth stored = some last ∧ again = earlier ++ [last] := by
  obtain ⟨records, hread, hstored, hwrite⟩ := append_eq_ok happend
  have hparse : Json.parse? (text (records ++ [stored])) = some (.array again) := by
    rw [readAll_written hwrite] at hagain
    split at hagain
    next hparse =>
      cases hagain
      exact hparse
    next => cases hagain
  have harray : Json.reread (recordDepth + 1) (.array (records ++ [stored])) =
      some (.array again) := by
    rwa [text, Json.parse?_pretty_eq] at hparse
  rw [Json.reread_array, List.mapM_append, List.mapM_cons, List.mapM_nil] at harray
  simp only [Option.pure_def, Option.bind_eq_bind, Option.bind_eq_some_iff,
    Option.map_eq_some_iff] at harray
  obtain ⟨_, ⟨earlier, hearlier, _, ⟨last, hlast, _, hnil, hcons⟩, happended⟩, hitems⟩ := harray
  cases hnil
  cases hcons
  cases happended
  cases hitems
  exact ⟨records, earlier, last, hread, hstored, hearlier, hlast, rfl⟩

/-- The text of an integer. -/
def idText (n : Int) : String := String.ofList (Decimal.ofInt n)

theorem ofText?_idText (n : Int) : Extended.ofText? (idText n).toList = some (.ofInt n) := by
  rw [idText, String.toList_ofList, Extended.ofText?_ofInt]

/-- A number up to `2 ^ 53` finds no record with a smaller number, and none with one that is too
large to be assigned. -/
theorem not_hasId_smaller {old : Json} {k n : Int} (hfits : Json.FitsWord k)
    (hid : idNumber? old = some k) (hother : k < n ∨ 2 ^ 63 ≤ k) (hlow : -2 ^ 53 < n)
    (hhigh : n ≤ 2 ^ 53) : hasId (idText n) old = false := by
  obtain ⟨x, hx⟩ := Binary64.exists_ofInt? (show n.natAbs < 2 ^ 64 by omega)
  have hvalue : x.toRat = n := Binary64.toRat_ofInt? hx (by omega)
  rw [hasId_int (ofText?_idText n) hfits hid, decide_eq_false_iff_not, hx]
  intro hsame
  rcases hother with hless | hlarge
  · have hlt := Binary64.toRat_lt hsame hless hlow hhigh
    rw [hvalue] at hlt
    exact absurd hlt (lt_irrefl _)
  · have hle := Binary64.power_le_toRat hsame hlarge
    rw [hvalue] at hle
    have : (2 : Int) ^ 63 ≤ n := by exact_mod_cast hle
    omega

/-- A number up to `2 ^ 53` finds no record with such an integer for its `id`, nor one with a text or
a real that is not the number. -/
theorem not_hasId_other {r : Json} {n : Int} (hlow : -2 ^ 53 < n) (hhigh : n ≤ 2 ^ 53)
    (hint : ∀ k, idNumber? r = some k → Json.FitsWord k ∧ (k < n ∨ 2 ^ 63 ≤ k))
    (hstring : r.member? "id" ≠ some (.string (idText n)))
    (hreal : ∀ x, r.member? "id" = some (.number (.real x)) → x.toRat ≠ n) :
    hasId (idText n) r = false := by
  cases hid : r.member? "id" with
  | none => rw [hasId, hid]
  | some id =>
      cases id with
      | number number =>
          cases number with
          | int k =>
              have hk := idNumber?_eq_some.2 hid
              obtain ⟨hfits, hother⟩ := hint k hk
              exact not_hasId_smaller hfits hk hother hlow hhigh
          | real x => exact not_hasId_real (ofText?_idText n) hid (by omega) (hreal x hid)
      | string s =>
          rw [hasId, hid]
          exact beq_eq_false_iff_ne.2 fun heq => hstring (heq ▸ hid)
      | null | bool _ | array _ | object _ => rw [hasId, hid]

/-- **A record that was created is found by its number**, if the file can be read again, the number
is up to `2 ^ 53`, and no earlier record has it for its `id` as a text or as a real.  What is found
is the stored record, if its reals are read back. -/
theorem find_appended {n : Int} (hrecord : Json.Kept (.object record))
    (happend : append box fs path record author = (.ok stored, fs'))
    (hn : idNumber? stored = some n) (hagain : readAll box fs' path = .ok again)
    (hlow : -2 ^ 53 < n) (hhigh : n ≤ 2 ^ 53)
    (hothers : ∀ r ∈ again.dropLast, r.member? "id" ≠ some (.string (idText n)) ∧
      ∀ x, r.member? "id" = some (.number (.real x)) → x.toRat ≠ n) :
    ∃ last, again = again.dropLast ++ [last] ∧
      (∀ r ∈ again.dropLast, hasId (idText n) r = false) ∧
      find box fs' path (idText n) = .ok (some last) ∧
      ((∀ x, Json.HasReal x stored → Json.ReadsBack (.real x)) → last = stored) := by
  obtain ⟨records, earlier, last, hread, hstored, hearlier, hlast, rfl⟩ :=
    reread_of_append happend hagain
  rw [List.dropLast_concat] at hothers ⊢
  have hkept : Json.Kept stored := by
    rw [hstored]
    exact kept_stamp hrecord (fitsWord_nextId records) author
  have hnext : n = nextId records := by
    rw [idNumber?_eq_some, hstored, Json.member?, lookup_stamp, if_pos rfl] at hn
    cases hn
    rfl
  have hmin : Word.minSigned idBits < nextId records := by
    rw [← hnext]
    exact Int.lt_trans (by decide) hlow
  have hnone : ∀ r ∈ earlier, hasId (idText n) r = false := by
    intro r hr
    obtain ⟨old, hold, hreread⟩ := Json.exists_of_mem_mapM hearlier hr
    have holdKept := (kept_of_readAll hread old hold).1
    refine not_hasId_other hlow hhigh (fun k hk => ?_) (hothers r hr).1 (hothers r hr).2
    -- integers are reread as they were, and the number was chosen after all of those
    have hid := (idNumber?_of_reread holdKept hreread).1 hk
    have hfits := fitsWord_idNumber? holdKept hid
    exact ⟨hfits, hnext ▸ lt_nextId hold hfits hid hmin⟩
  have hfound : hasId (idText n) last = true := by
    have hid := (idNumber?_of_reread hkept hlast).2 hn
    rw [hasId_int (ofText?_idText n) (fitsWord_idNumber? hkept hn) hid, decide_eq_true rfl]
  refine ⟨last, rfl, hnone, ?_, fun hreals => Json.eq_of_reread hkept hreals hlast⟩
  rw [find_of_readAll hagain, List.find?_append, List.find?_eq_none.2 (by simpa using hnone),
    Option.none_or, List.find?_cons_of_pos hfound]

end Append

/-! ### Records with texts and reals -/

/-- A half. -/
def half : Binary64 := ⟨false, 2 ^ 52, -53⟩

theorem readsBack_half : Json.ReadsBack (.real half) := ⟨by decide +kernel, by decide +kernel⟩

/-- A record with nothing but a text for its `id`. -/
def titled (id : String) : Json := .object [("id", .string id)]

theorem flat_titled (id : String) : Flat [("id", .string id)] where
  sorted := List.pairwise_singleton _ _
  member := by simp

/-- Records with a text, a real and an integer. -/
def mixedNotes : List Json :=
  [titled "note", .object [("id", .number (.real half))], numbered 41]

theorem storable_mixedNotes : ∀ r ∈ mixedNotes, Storable r := by
  simp only [mixedNotes, List.forall_mem_cons]
  refine ⟨(flat_titled _).storable, ⟨?_, rfl⟩,
    (flat_numbered ⟨by decide, by decide⟩).storable, nofun⟩
  refine .object (List.pairwise_singleton _ _) fun member hmember => ?_
  rw [List.mem_singleton.1 hmember]
  exact .number readsBack_half

/-- The record that is created there is found. -/
theorem find_appended_mixed :
    append newBox (notesFile mixedNotes) "notes.json" [] none =
        (.ok (numbered 42), notesFile (mixedNotes ++ [numbered 42])) ∧
      readAll newBox (notesFile (mixedNotes ++ [numbered 42])) "notes.json" =
        .ok (mixedNotes ++ [numbered 42]) ∧
      find newBox (notesFile (mixedNotes ++ [numbered 42])) "notes.json" (idText 42) =
        .ok (some (numbered 42)) := by
  have hstored := flat_numbered (show Json.FitsWord 42 from ⟨by decide, by decide⟩)
  have happend : append newBox (notesFile mixedNotes) "notes.json" [] none =
      (.ok (numbered 42), notesFile (mixedNotes ++ [numbered 42])) :=
    append_notesFile storable_mixedNotes [] none
  have hagain : readAll newBox (notesFile (mixedNotes ++ [numbered 42])) "notes.json" =
      .ok (mixedNotes ++ [numbered 42]) := by
    refine readAll_notesFile fun r hr => ?_
    rcases List.mem_append.1 hr with hr | hr
    · exact storable_mixedNotes r hr
    · rw [List.mem_singleton.1 hr]
      exact hstored.storable
  have hothers : ∀ r ∈ (mixedNotes ++ [numbered 42]).dropLast,
      r.member? "id" ≠ some (.string (idText 42)) ∧
        ∀ x, r.member? "id" = some (.number (.real x)) → x.toRat ≠ (42 : Int) := by
    rw [List.dropLast_concat]
    simp only [mixedNotes, List.forall_mem_cons]
    refine ⟨⟨?_, fun x heq => ?_⟩, ⟨fun heq => ?_, fun x heq => ?_⟩,
      ⟨fun heq => ?_, fun x heq => ?_⟩, List.forall_mem_nil _⟩
    · intro heq
      exact absurd (Json.string.inj (Option.some.inj heq)) (by decide +kernel)
    · cases heq
    · cases heq
    · cases heq
      norm_num [Binary64.toRat, Binary64.magnitude, half]
    · cases heq
    · cases heq
  obtain ⟨last, -, -, hfind, hlast⟩ := find_appended
    (.object List.Pairwise.nil (List.forall_mem_nil _)) happend rfl hagain (by decide) (by decide)
    hothers
  rw [hlast fun x hx => absurd hx (hstored.not_hasReal x)] at hfind
  exact ⟨happend, hagain, hfind⟩

/-- A record with the number of the new one as a text is found in its place. -/
theorem text_found :
    append newBox (notesFile [titled "1"]) "notes.json" [] none =
        (.ok (numbered 1), notesFile [titled "1", numbered 1]) ∧
      readAll newBox (notesFile [titled "1", numbered 1]) "notes.json" =
        .ok [titled "1", numbered 1] ∧
      idNumber? (numbered 1) = some 1 ∧
      find newBox (notesFile [titled "1", numbered 1]) "notes.json" (idText 1) =
        .ok (some (titled "1")) ∧
      (titled "1").member? "id" ≠ (numbered 1).member? "id" := by
  have hold : ∀ r ∈ [titled "1"], Storable r :=
    List.forall_mem_singleton.2 (flat_titled "1").storable
  have hnew : ∀ r ∈ [titled "1", numbered 1], Storable r := by
    simp only [List.forall_mem_cons]
    exact ⟨(flat_titled _).storable, (flat_numbered ⟨by decide, by decide⟩).storable, nofun⟩
  have hread := readAll_notesFile hnew
  have hfound : hasId (idText 1) (titled "1") = true := by decide +kernel
  refine ⟨append_notesFile hold [] none, hread, rfl, ?_, nofun⟩
  rw [find_of_readAll hread, List.find?_cons_of_pos hfound]

end SiteScript.Web.DataFile
