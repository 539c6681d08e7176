import SiteScript.Hex

/-!
# SiteScript.Proofs.Hex

Hexadecimal digits and the bytes they denote: two digits to a byte, each in lower or upper case
(`Denotes`).

* Reading takes exactly the digits that denote bytes (`decode_eq_ok_iff`).  It goes over the UTF-8 of
  a text, where no byte of a character beyond ASCII is taken for a digit.
* Bytes are written as digits that denote them (`denotes_encode`), and digits that denote bytes are
  the ones that are written for them, but for the case (`Denotes.map_toLower`). -/

namespace SiteScript.Hex

/-- A character is the digit of a value, in either case. -/
def IsDigit (c : Char) (n : Nat) : Prop :=
  n < 16 ∧ (c = Nat.digitChar n ∨ c = (Nat.digitChar n).toUpper)

/-- Digits that denote bytes, two to a byte. -/
inductive Denotes : List Char → Bytes → Prop where
  | nil : Denotes [] []
  | cons {a b : Char} {high low : Nat} {digits : List Char} {bytes : Bytes}
      (hhigh : IsDigit a high) (hlow : IsDigit b low) (h : Denotes digits bytes) :
      Denotes (a :: b :: digits) (UInt8.ofNat (16 * high + low) :: bytes)

/-! ## Single digits -/

/-- To prove something of every digit and its value, prove it of the sixteen digits in both cases. -/
theorem IsDigit.elim {p : Char → Nat → Prop}
    (h : ∀ n < 16, p (Nat.digitChar n) n ∧ p (Nat.digitChar n).toUpper n) {c : Char} {n : Nat}
    (hdigit : IsDigit c n) : p c n := by
  obtain ⟨hn, rfl | rfl⟩ := hdigit
  · exact (h n hn).1
  · exact (h n hn).2

/-- A digit is one byte of text, which has the digit for a value. -/
theorem IsDigit.utf8 {c : Char} {n : Nat} (h : IsDigit c n) :
    String.utf8EncodeChar c = [UInt8.ofNat c.toNat] ∧
      digitValue? (UInt8.ofNat c.toNat) = some n :=
  h.elim (p := fun c n => String.utf8EncodeChar c = [UInt8.ofNat c.toNat] ∧
    digitValue? (UInt8.ofNat c.toNat) = some n) (by decide)

/-- In lower case it is the digit that is written for its value. -/
theorem IsDigit.toLower {c : Char} {n : Nat} (h : IsDigit c n) : c.toLower = Nat.digitChar n :=
  h.elim (p := fun c n => c.toLower = Nat.digitChar n) (by decide)

/-- No byte beyond ASCII is a digit. -/
theorem lt_of_digitValue? {b : UInt8} {n : Nat} (h : digitValue? b = some n) : b.toNat < 0x80 := by
  refine Nat.lt_of_not_le fun hle => ?_
  simp only [digitValue?] at h
  rw [if_neg (by simp; omega), if_neg (by simp; omega), if_neg (by simp; omega)] at h
  cases h

/-- The digits among the characters of ASCII. -/
theorem isDigit_ascii : ∀ k < 0x80, ∀ n ∈ digitValue? (UInt8.ofNat k), n < 16 ∧
    (Char.ofNat k = Nat.digitChar n ∨ Char.ofNat k = (Nat.digitChar n).toUpper) := by
  decide +kernel

/-- A character whose first byte is taken for a digit is that digit, and has no other bytes. -/
theorem isDigit_of_utf8 {c : Char} {b : UInt8} {others : Bytes} {n : Nat}
    (hbytes : String.utf8EncodeChar c = b :: others) (h : digitValue? b = some n) :
    others = [] ∧ IsDigit c n := by
  have hb := lt_of_digitValue? h
  simp only [String.utf8EncodeChar] at hbytes
  split at hbytes
  next hascii =>
    cases hbytes
    have hdigit := isDigit_ascii c.toNat (Nat.lt_succ_of_le hascii) n h
    rw [Char.ofNat_toNat] at hdigit
    exact ⟨rfl, hdigit⟩
  next =>
    -- the first byte of a longer form is beyond ASCII, whichever of the three it is
    exfalso
    repeat' split at hbytes
    all_goals
      rw [← (List.cons.inj hbytes).1, UInt8.toNat_ofNat'] at hb
      omega

/-! ## Pairs of digits -/

/-- The bytes of a text of characters. -/
theorem ofText_ofList (text : List Char) :
    Bytes.ofText (String.ofList text) = text.flatMap String.utf8EncodeChar := by
  rw [Bytes.ofText, Bytes.ofArray, String.toUTF8_eq_toByteArray, String.toByteArray_ofList,
    List.utf8Encode, List.data_toByteArray]

/-- A pair of digits is read as a byte, if what follows is read too. -/
theorem decodePairs_cons_eq_ok {position : Nat} {a b : UInt8} {digits bytes : Bytes} :
    decodePairs position (a :: b :: digits) = .ok bytes ↔
      ∃ high low rest, digitValue? a = some high ∧ digitValue? b = some low ∧
        decodePairs (position + 2) digits = .ok rest ∧
        bytes = UInt8.ofNat (16 * high + low) :: rest := by
  rw [decodePairs]
  cases digitValue? a with
  | none => simp
  | some high =>
      cases digitValue? b with
      | none => simp
      | some low =>
          cases decodePairs (position + 2) digits with
          | error fault => simp [Except.map]
          | ok rest => simp [Except.map, eq_comm]

/-- Digits that denote bytes are read, wherever they stand. -/
theorem Denotes.decodePairs {digits : List Char} {bytes : Bytes} (h : Denotes digits bytes)
    (position : Nat) :
    (digits.flatMap String.utf8EncodeChar).length % 2 = 0 ∧
      decodePairs position (digits.flatMap String.utf8EncodeChar) = .ok bytes := by
  induction h generalizing position with
  | nil => exact ⟨rfl, rfl⟩
  | cons hhigh hlow _ ih =>
      obtain ⟨ha, hvalue⟩ := hhigh.utf8
      obtain ⟨hb, hvalue'⟩ := hlow.utf8
      rw [List.flatMap_cons, List.flatMap_cons, ha, hb]
      obtain ⟨heven, hread⟩ := ih (position + 2)
      refine ⟨?_, decodePairs_cons_eq_ok.2 ⟨_, _, _, hvalue, hvalue', hread, rfl⟩⟩
      simp only [List.cons_append, List.nil_append, List.length_cons]
      omega

/-- The UTF-8 of a character is not empty. -/
theorem exists_utf8 (c : Char) : ∃ a others, String.utf8EncodeChar c = a :: others :=
  List.exists_cons_of_ne_nil fun hnil => by
    have hlength := String.length_utf8EncodeChar c
    have hpos := c.utf8Size_pos
    rw [hnil] at hlength
    exact absurd hlength.symm (Nat.ne_of_gt hpos)

/-- Where bytes are read, a digit comes first, and the byte of another follows it. -/
theorem isDigit_of_decodePairs {c : Char} {text : List Char} {bytes : Bytes} {position : Nat}
    (heven : ((c :: text).flatMap String.utf8EncodeChar).length % 2 = 0)
    (h : decodePairs position ((c :: text).flatMap String.utf8EncodeChar) = .ok bytes) :
    ∃ high low b rest bytes', IsDigit c high ∧ digitValue? b = some low ∧
      text.flatMap String.utf8EncodeChar = b :: rest ∧
      decodePairs (position + 2) rest = .ok bytes' ∧
      bytes = UInt8.ofNat (16 * high + low) :: bytes' := by
  obtain ⟨a, others, hc⟩ := exists_utf8 c
  rw [List.flatMap_cons, hc, List.cons_append] at h heven
  cases hrest : others ++ text.flatMap String.utf8EncodeChar with
  | nil =>
      rw [hrest] at heven
      cases heven
  | cons b rest =>
      rw [hrest] at h
      obtain ⟨high, low, bytes', ha, hb, hread, hbytes⟩ := decodePairs_cons_eq_ok.1 h
      obtain ⟨rfl, hdigit⟩ := isDigit_of_utf8 hc ha
      exact ⟨high, low, b, rest, bytes', hdigit, hb, hrest, hread, hbytes⟩

/-- What is read as bytes are digits that denote them. -/
theorem denotes_of_decodePairs {digits : List Char} {bytes : Bytes} {position : Nat}
    (heven : (digits.flatMap String.utf8EncodeChar).length % 2 = 0)
    (h : decodePairs position (digits.flatMap String.utf8EncodeChar) = .ok bytes) :
    Denotes digits bytes := by
  match digits with
  | [] =>
      cases h
      exact .nil
  | [c] =>
      obtain ⟨_, _, _, _, _, _, _, hnil, _⟩ := isDigit_of_decodePairs heven h
      cases hnil
  | c :: d :: digits =>
      obtain ⟨high, low, b, rest, bytes', hhigh, hb, hrest, hread, rfl⟩ :=
        isDigit_of_decodePairs heven h
      obtain ⟨b', others, hd⟩ := exists_utf8 d
      rw [List.flatMap_cons, hd, List.cons_append] at hrest
      obtain ⟨rfl, rfl⟩ := List.cons.inj hrest
      obtain ⟨rfl, hlow⟩ := isDigit_of_utf8 hd hb
      refine .cons hhigh hlow (denotes_of_decodePairs ?_ hread)
      rw [List.flatMap_cons, List.flatMap_cons, hhigh.utf8.1, hd] at heven
      simp only [List.cons_append, List.nil_append, List.length_cons] at heven
      omega

/-- **Digits are read as the bytes they denote**, and nothing else is read. -/
theorem decode_eq_ok_iff {digits : List Char} {bytes : Bytes} :
    decode (Bytes.ofText (String.ofList digits)) = .ok bytes ↔ Denotes digits bytes := by
  rw [ofText_ofList, decode]
  constructor
  · intro h
    split at h
    · cases h
    next heven => exact denotes_of_decodePairs (by simpa using heven) h
  · intro h
    obtain ⟨heven, hread⟩ := h.decodePairs 0
    rw [if_neg (by rw [heven]; decide), hread]

/-! ## Written digits -/

theorem encode_cons (b : UInt8) (bytes : Bytes) :
    encode (b :: bytes) = encodeByte b ++ encode bytes := rfl

/-- The halves of a byte are digits. -/
theorem halves_lt (b : UInt8) : b.toNat / 16 < 16 ∧ b.toNat % 16 < 16 := by
  have hb := b.toNat_lt
  omega

/-- The digits of bytes denote them, and so do the digits in upper case. -/
theorem denotes_encode (bytes : Bytes) :
    Denotes (encode bytes) bytes ∧ Denotes ((encode bytes).map Char.toUpper) bytes := by
  induction bytes with
  | nil => exact ⟨.nil, .nil⟩
  | cons b bytes ih =>
      obtain ⟨hhigh, hlow⟩ := halves_lt b
      have hbyte : UInt8.ofNat (16 * (b.toNat / 16) + b.toNat % 16) = b := by
        rw [Nat.div_add_mod, UInt8.ofNat_toNat]
      have hlower := Denotes.cons ⟨hhigh, .inl rfl⟩ ⟨hlow, .inl rfl⟩ ih.1
      have hupper := Denotes.cons ⟨hhigh, .inr rfl⟩ ⟨hlow, .inr rfl⟩ ih.2
      rw [hbyte] at hlower hupper
      exact ⟨hlower, hupper⟩

/-- Digits in lower case are those that are written for the bytes they denote. -/
theorem Denotes.map_toLower {digits : List Char} {bytes : Bytes} (h : Denotes digits bytes) :
    digits.map Char.toLower = encode bytes := by
  induction h with
  | nil => rfl
  | @cons a b high low digits bytes hhigh hlow _ ih =>
      have hlt := hhigh.1
      have hlt' := hlow.1
      have hbyte : (UInt8.ofNat (16 * high + low)).toNat = 16 * high + low :=
        UInt8.toNat_ofNat_of_lt' (by simp only [UInt8.size]; omega)
      have hhalves : (16 * high + low) / 16 = high ∧ (16 * high + low) % 16 = low := by omega
      rw [List.map_cons, List.map_cons, hhigh.toLower, hlow.toLower, ih, encode_cons, encodeByte,
        hbyte, hhalves.1, hhalves.2]
      rfl

/-- Every character of digits is a digit. -/
theorem Denotes.isDigit {digits : List Char} {bytes : Bytes} (h : Denotes digits bytes) {c : Char}
    (hc : c ∈ digits) : ∃ n, IsDigit c n := by
  induction h with
  | nil => cases hc
  | cons hhigh hlow _ ih =>
      rcases List.mem_cons.1 hc with rfl | hc
      · exact ⟨_, hhigh⟩
      rcases List.mem_cons.1 hc with rfl | hc
      · exact ⟨_, hlow⟩
      · exact ih hc

end SiteScript.Hex
