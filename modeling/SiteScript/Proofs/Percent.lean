import SiteScript.Proofs.Hex
import SiteScript.Text.Percent

/-!
# SiteScript.Proofs.Percent

Texts written with `%XX` and read again.

1. A character is written by its bytes or stands for itself (`encodeChar_cases`), so what is written
   has no character of the set but those of codes (`mem_encode`).
2. A character is read as its bytes, unless it is a percent sign that stands for itself with two
   hexadecimal digits after it; those are read as the code of a byte (`decode_encode_cons`,
   `decode_encode_code`).
3. So a text comes back from an encoding that writes percent signs by their bytes
   (`decode_encode_of_percent`), and from one that does not exactly when no code stands in the text
   (`decode_encode_iff`): a code makes the bytes fewer, and nothing makes them more.
-/

namespace SiteScript.Text.Percent

/-- The UTF-8 of a text. -/
def utf8 (text : List Char) : Bytes := text.flatMap String.utf8EncodeChar

theorem ofText_ofList (text : List Char) : Bytes.ofText (String.ofList text) = utf8 text :=
  Hex.ofText_ofList text

theorem utf8_append (a b : List Char) : utf8 (a ++ b) = utf8 a ++ utf8 b := List.flatMap_append

theorem utf8_cons (c : Char) (rest : List Char) :
    utf8 (c :: rest) = String.utf8EncodeChar c ++ utf8 rest := List.flatMap_cons

theorem utf8_percent (rest : List Char) : utf8 ('%' :: rest) = 0x25 :: utf8 rest := rfl

/-- The UTF-8 of two digits is two bytes with their values. -/
theorem utf8_digits {a b : Char} {high low : Nat} (ha : Hex.IsDigit a high)
    (hb : Hex.IsDigit b low) (rest : List Char) :
    ∃ x y, utf8 (a :: b :: rest) = x :: y :: utf8 rest ∧ Hex.digitValue? x = some high ∧
      Hex.digitValue? y = some low := by
  refine ⟨_, _, ?_, ha.utf8.2, hb.utf8.2⟩
  rw [utf8_cons, utf8_cons, ha.utf8.1, hb.utf8.1]
  rfl

/-! ## Codes -/

instance (c : Char) (n : Nat) : Decidable (Hex.IsDigit c n) := inferInstanceAs (Decidable (_ ∧ _))

/-- Whether a text begins with two hexadecimal digits. -/
def startsPair : List Char → Bool
  | a :: b :: _ => (List.range 16).any (Hex.IsDigit a ·) && (List.range 16).any (Hex.IsDigit b ·)
  | _ => false

/-- Whether the code of a byte stands in a text: a percent sign and two hexadecimal digits. -/
def hasCode : List Char → Bool
  | [] => false
  | c :: rest => (c == '%' && startsPair rest) || hasCode rest

theorem startsPair_iff {text : List Char} :
    startsPair text = true ↔
      ∃ a b rest high low, text = a :: b :: rest ∧ Hex.IsDigit a high ∧ Hex.IsDigit b low := by
  have hdigit : ∀ c, (List.range 16).any (Hex.IsDigit c ·) = true ↔ ∃ n, Hex.IsDigit c n := by
    intro c
    simp only [List.any_eq_true, List.mem_range, decide_eq_true_eq]
    exact ⟨fun ⟨n, _, h⟩ => ⟨n, h⟩, fun ⟨n, h⟩ => ⟨n, h.1, h⟩⟩
  match text with
  | [] => simp [startsPair]
  | [_] => simp [startsPair]
  | a :: b :: rest =>
    rw [startsPair, Bool.and_eq_true, hdigit, hdigit]
    constructor
    · rintro ⟨⟨high, ha⟩, low, hb⟩
      exact ⟨a, b, rest, high, low, rfl, ha, hb⟩
    · rintro ⟨_, _, _, high, low, heq, ha, hb⟩
      cases heq
      exact ⟨⟨high, ha⟩, low, hb⟩

/-! ## Reading -/

theorem decode_cons {b : UInt8} (h : b ≠ 0x25) (rest : Bytes) :
    decode (b :: rest) = b :: decode rest := by
  rw [decode]
  rintro a c others rfl
  exact absurd rfl h

theorem decode_code {a b : UInt8} {high low : Nat} (ha : Hex.digitValue? a = some high)
    (hb : Hex.digitValue? b = some low) (rest : Bytes) :
    decode (0x25 :: a :: b :: rest) = UInt8.ofNat (16 * high + low) :: decode rest := by
  rw [decode, ha, hb]

/-- A percent sign without two digits after it stands for itself. -/
theorem decode_percent {rest : Bytes}
    (h : ∀ a b others high low, rest = a :: b :: others → Hex.digitValue? a = some high →
      Hex.digitValue? b ≠ some low) :
    decode (0x25 :: rest) = 0x25 :: decode rest := by
  match rest with
  | [] => rfl
  | [_] => rfl
  | a :: b :: others =>
    rw [decode]
    split
    next high low ha hb => exact absurd hb (h a b others high low rfl ha)
    next => rfl

/-! ## Writing -/

variable {set : Char → Bool}

theorem encode_cons (c : Char) (rest : List Char) :
    encode set (c :: rest) = encodeChar set c ++ encode set rest := List.flatMap_cons

theorem isDigit_digit {n : Nat} (h : n < 16) : Hex.IsDigit (digit n) n := ⟨h, .inr rfl⟩

/-- A character is written by its bytes, or it is one of ASCII that stands for itself. -/
theorem encodeChar_cases (set : Char → Bool) (c : Char) :
    encodeChar set c = (String.utf8EncodeChar c).flatMap encodeByte ∨
      (encodeChar set c = [c] ∧ set c = false ∧ c.toNat < 0x80) := by
  have hbytes : Bytes.ofText (String.singleton c) = String.utf8EncodeChar c :=
    (ofText_ofList [c]).trans (by simp [utf8])
  rw [encodeChar, hbytes]
  split
  next => exact .inl rfl
  next h => exact .inr ⟨rfl, by simpa using h⟩

/-- What is written has percent signs and digits, and of other characters those outside the set. -/
theorem mem_encode {text : List Char} {c : Char} (h : c ∈ encode set text) :
    c = '%' ∨ (∃ n, Hex.IsDigit c n) ∨ (c ∈ text ∧ set c = false) := by
  obtain ⟨d, hd, hc⟩ := List.mem_flatMap.1 h
  rcases encodeChar_cases set d with hchar | ⟨hchar, hset, -⟩
  · rw [hchar] at hc
    obtain ⟨b, -, hb⟩ := List.mem_flatMap.1 hc
    obtain ⟨hhigh, hlow⟩ := Hex.halves_lt b
    simp only [encodeByte, List.mem_cons, List.not_mem_nil, or_false] at hb
    rcases hb with rfl | rfl | rfl
    · exact .inl rfl
    · exact .inr (.inl ⟨_, isDigit_digit hhigh⟩)
    · exact .inr (.inl ⟨_, isDigit_digit hlow⟩)
  · rw [hchar, List.mem_singleton] at hc
    subst hc
    exact .inr (.inr ⟨hd, hset⟩)

/-- What has a meaning of its own and is in the set is not written, unless codes have it. -/
theorem eq_false_of_mem_encode {p : Char → Bool} (hpercent : p '%' = false)
    (hdigits : ∀ n < 16, p (Nat.digitChar n) = false ∧ p (Nat.digitChar n).toUpper = false)
    (hset : ∀ c, set c = false → p c = false) {text : List Char} {c : Char}
    (h : c ∈ encode set text) : p c = false := by
  rcases mem_encode h with rfl | ⟨n, hdigit⟩ | ⟨-, hc⟩
  · exact hpercent
  · exact hdigit.elim (p := fun c _ => p c = false) hdigits
  · exact hset c hc

/-- A text of ASCII without characters of the set is written as it is. -/
theorem encode_eq_self {text : List Char} (h : ∀ c ∈ text, set c = false ∧ c.toNat < 0x80) :
    encode set text = text := by
  induction text with
  | nil => rfl
  | cons c rest ih =>
    obtain ⟨⟨hset, hascii⟩, hrest⟩ := List.forall_mem_cons.1 h
    have hself : encodeChar set c = [c] := by
      rw [encodeChar, if_neg]
      simp [hset, Nat.not_le.2 hascii]
    rw [encode_cons, hself, ih hrest, List.singleton_append]

/-! ## Reading what was written -/

/-- A byte that was written by its code is read. -/
theorem decode_encodeByte (b : UInt8) (rest : List Char) :
    decode (utf8 (encodeByte b ++ rest)) = b :: decode (utf8 rest) := by
  obtain ⟨hhigh, hlow⟩ := Hex.halves_lt b
  obtain ⟨x, y, hutf8, hx, hy⟩ := utf8_digits (isDigit_digit hhigh) (isDigit_digit hlow) rest
  have hbyte : UInt8.ofNat (16 * (b.toNat / 16) + b.toNat % 16) = b := by
    rw [Nat.div_add_mod, UInt8.ofNat_toNat]
  rw [encodeByte, List.cons_append, utf8_percent, List.cons_append, List.cons_append,
    List.nil_append, hutf8, decode_code hx hy, hbyte]

theorem decode_encodeBytes (bytes : Bytes) (rest : List Char) :
    decode (utf8 (bytes.flatMap encodeByte ++ rest)) = bytes ++ decode (utf8 rest) := by
  induction bytes with
  | nil => rfl
  | cons b bytes ih =>
    rw [List.flatMap_cons, List.append_assoc, decode_encodeByte, ih, List.cons_append]

/-- Where the byte of a digit comes first, the text begins with that digit. -/
theorem exists_of_digitValue? {text : List Char} {b : UInt8} {others : Bytes} {n : Nat}
    (hbytes : utf8 (encode set text) = b :: others) (h : Hex.digitValue? b = some n) :
    ∃ c rest, text = c :: rest ∧ Hex.IsDigit c n ∧ others = utf8 (encode set rest) := by
  match text with
  | [] => cases hbytes
  | c :: rest =>
    obtain ⟨first, more, hc⟩ := Hex.exists_utf8 c
    rw [encode_cons, utf8_append] at hbytes
    rcases encodeChar_cases set c with hchar | ⟨hchar, -⟩
    · -- a percent sign is no digit
      rw [hchar, hc, List.flatMap_cons, encodeByte, List.cons_append, utf8_percent] at hbytes
      obtain rfl := (List.cons.inj hbytes).1
      cases h
    · rw [hchar, utf8_cons, hc] at hbytes
      obtain ⟨rfl, hothers⟩ := List.cons.inj hbytes
      obtain ⟨rfl, hdigit⟩ := Hex.isDigit_of_utf8 hc h
      exact ⟨c, rest, rfl, hdigit, hothers.symm⟩

/-- A character is read as its bytes, unless it is a percent sign that stands for itself with two
digits after it. -/
theorem decode_encode_cons {c : Char} {rest : List Char}
    (h : set '%' = true ∨ (c == '%' && startsPair rest) = false) :
    decode (utf8 (encode set (c :: rest))) =
      String.utf8EncodeChar c ++ decode (utf8 (encode set rest)) := by
  rw [encode_cons]
  rcases encodeChar_cases set c with hchar | ⟨hchar, hset, hascii⟩
  · rw [hchar, decode_encodeBytes]
  · rw [hchar, List.singleton_append, utf8_cons]
    by_cases hc : c = '%'
    · subst hc
      have hpair : startsPair rest = false := by simpa [hset] using h
      refine decode_percent fun a b others high low hrest ha hb => ?_
      obtain ⟨first, more, rfl, hfirst, hmore⟩ := exists_of_digitValue? hrest ha
      obtain ⟨second, more', rfl, hsecond, -⟩ := exists_of_digitValue? hmore.symm hb
      rw [startsPair_iff.2 ⟨first, second, more', high, low, rfl, hfirst, hsecond⟩] at hpair
      cases hpair
    · have hutf8 : String.utf8EncodeChar c = [UInt8.ofNat c.toNat] := by
        simp [String.utf8EncodeChar, Nat.lt_succ_iff.1 hascii]
      have hne : UInt8.ofNat c.toNat ≠ 0x25 := by
        intro heq
        have hnat := congrArg UInt8.toNat heq
        rw [UInt8.toNat_ofNat_of_lt' (Nat.lt_trans hascii (by decide))] at hnat
        exact hc (Char.toNat_inj.1 hnat)
      rw [hutf8, List.singleton_append, decode_cons hne, List.singleton_append]

/-- A percent sign that stands for itself with two digits after it is read as the code of a byte. -/
theorem decode_encode_code (hpercent : set '%' = false)
    (hdigits : ∀ c n, Hex.IsDigit c n → set c = false) {a b : Char} {high low : Nat}
    (ha : Hex.IsDigit a high) (hb : Hex.IsDigit b low) (rest : List Char) :
    decode (utf8 (encode set ('%' :: a :: b :: rest))) =
      UInt8.ofNat (16 * high + low) :: decode (utf8 (encode set rest)) := by
  have hdigit : ∀ {c : Char} {n : Nat}, Hex.IsDigit c n → set c = false ∧ c.toNat < 0x80 :=
    fun {c n} hc => ⟨hdigits c n hc, hc.elim (p := fun c _ => c.toNat < 0x80) (by decide)⟩
  have hself : encode set ['%', a, b] = ['%', a, b] := by
    refine encode_eq_self fun c hc => ?_
    simp only [List.mem_cons, List.not_mem_nil, or_false] at hc
    rcases hc with rfl | rfl | rfl
    · exact ⟨hpercent, by decide⟩
    · exact hdigit ha
    · exact hdigit hb
  have hsplit : encode set ('%' :: a :: b :: rest) = '%' :: a :: b :: encode set rest := by
    have happend : encode set (['%', a, b] ++ rest) = encode set ['%', a, b] ++ encode set rest :=
      List.flatMap_append
    rwa [hself] at happend
  obtain ⟨x, y, hutf8, hx, hy⟩ := utf8_digits ha hb (encode set rest)
  rw [hsplit, utf8_percent, hutf8, decode_code hx hy]

/-! ## What comes back -/

/-- A written text stands for the text whose bytes it is read as. -/
def StandsFor (written : List Char) (text : String) : Prop :=
  decode (Bytes.ofText (String.ofList written)) = Bytes.ofText text

instance (written : List Char) (text : String) : Decidable (StandsFor written text) :=
  inferInstanceAs (Decidable (_ = _))

theorem standsFor_iff {written : List Char} {text : String} :
    StandsFor written text ↔ decode (utf8 written) = utf8 text.toList := by
  rw [StandsFor, ofText_ofList, ← ofText_ofList text.toList, String.ofList_toList]

/-- A written text stands for one text only. -/
theorem StandsFor.unique {written : List Char} {text other : String} (h : StandsFor written text)
    (hother : StandsFor written other) : text = other := by
  have hbytes : Bytes.toText? (Bytes.ofText text) = Bytes.toText? (Bytes.ofText other) := by
    rw [← show _ = Bytes.ofText text from h, ← show _ = Bytes.ofText other from hother]
  simpa using hbytes

/-- A text comes back from an encoding that writes percent signs by their bytes. -/
theorem decode_encode_of_percent (hpercent : set '%' = true) (text : List Char) :
    decode (utf8 (encode set text)) = utf8 text := by
  induction text with
  | nil => rfl
  | cons c rest ih => rw [decode_encode_cons (.inl hpercent), ih, utf8_cons]

theorem decode_encode_of_not_hasCode {text : List Char} (h : hasCode text = false) :
    decode (utf8 (encode set text)) = utf8 text := by
  induction text with
  | nil => rfl
  | cons c rest ih =>
    obtain ⟨hbegin, hrest⟩ := Bool.or_eq_false_iff.1 h
    rw [decode_encode_cons (.inr hbegin), ih hrest, utf8_cons]

/-- Reading back never gives more bytes, and gives fewer when a code stands in the text. -/
theorem length_decode_encode (hpercent : set '%' = false)
    (hdigits : ∀ c n, Hex.IsDigit c n → set c = false) (text : List Char) :
    (decode (utf8 (encode set text))).length + (if hasCode text then 1 else 0) ≤
      (utf8 text).length := by
  match text with
  | [] => exact Nat.le_refl 0
  | c :: rest =>
    cases hbegin : c == '%' && startsPair rest with
    | true =>
      obtain ⟨hc, hpair⟩ := Bool.and_eq_true_iff.1 hbegin
      obtain rfl := eq_of_beq hc
      obtain ⟨a, b, rest, high, low, rfl, ha, hb⟩ := startsPair_iff.1 hpair
      have ih := length_decode_encode hpercent hdigits rest
      obtain ⟨x, y, hutf8, -⟩ := utf8_digits ha hb rest
      rw [decode_encode_code hpercent hdigits ha hb, utf8_percent, hutf8]
      simp only [List.length_cons]
      split <;> omega
    | false =>
      have ih := length_decode_encode hpercent hdigits rest
      have hcode : hasCode (c :: rest) = hasCode rest := by rw [hasCode, hbegin, Bool.false_or]
      rw [decode_encode_cons (.inr hbegin), utf8_cons, hcode, List.length_append,
        List.length_append]
      omega

/-- **A text comes back** from an encoding that leaves percent signs and digits as they are exactly
when no code stands in it. -/
theorem decode_encode_iff (hpercent : set '%' = false)
    (hdigits : ∀ c n, Hex.IsDigit c n → set c = false) (text : List Char) :
    decode (utf8 (encode set text)) = utf8 text ↔ hasCode text = false := by
  refine ⟨fun h => ?_, decode_encode_of_not_hasCode⟩
  have hlength := length_decode_encode hpercent hdigits text
  rw [h] at hlength
  cases hcode : hasCode text with
  | false => rfl
  | true =>
    rw [hcode, if_pos rfl] at hlength
    omega

end SiteScript.Text.Percent
