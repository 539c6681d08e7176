import SiteScript.Json.Raw

/-!
# SiteScript.Proofs.Json.Numerals

Numerals.  Where a numeral ends is seen from the character after it, so a numeral that is read to
its end is read the same before any text that does not go on with a digit, a point or an exponent
(`scanNumber_append`).  Numerals are put together from digits (`scanWhole_digits`,
`scanUnsigned_point`), and integers of 64 bits read as themselves. -/

namespace SiteScript

/-! ## Decimal digits -/

namespace Decimal

theorem isDigit_of_mem_ofNat {n : Nat} {c : Char} (h : c ∈ ofNat n) : c.isDigit = true :=
  Nat.isDigit_of_mem_toDigits (by decide) (by decide) h

/-- The digits of a number denote it. -/
theorem value_ofNat (n : Nat) : value (ofNat n) = n :=
  Nat.ofDigitChars_ten_toDigits

/-- The digits of a number read as the number, when it is not too large. -/
theorem unsigned?_ofNat {n largest : Nat} (h : n ≤ largest) :
    unsigned? largest (ofNat n) = some n := by
  have hne : ofNat n ≠ [] := Nat.toDigits_ne_nil
  have hdigits : (ofNat n).all Char.isDigit = true :=
    List.all_eq_true.2 fun c hc => isDigit_of_mem_ofNat hc
  rw [unsigned?.eq_def]
  split
  next rest heq =>
    have hplus : Char.isDigit '+' = true := isDigit_of_mem_ofNat (heq ▸ List.mem_cons_self)
    exact absurd hplus (by decide)
  next => simp [ofDigits?, hne, hdigits, value_ofNat, h]

theorem digitChar_ne_zero : ∀ n < 10, n ≠ 0 → [n.digitChar].head? ≠ some '0' := by decide

/-- Only the number zero is written with a zero in front. -/
theorem head?_ofNat {n : Nat} (h : n ≠ 0) : (ofNat n).head? ≠ some '0' := by
  induction n using Nat.strongRecOn with
  | ind n ih =>
      rw [ofNat]
      by_cases hlt : n < 10
      · rw [Nat.toDigits_of_lt_base hlt]
        exact digitChar_ne_zero n hlt h
      · rw [Nat.toDigits_of_base_le (by decide) (Nat.le_of_not_lt hlt)]
        have hne : Nat.toDigits 10 (n / 10) ≠ [] := Nat.toDigits_ne_nil
        have hdigits := ih (n / 10) (by omega) (by omega)
        rw [ofNat] at hdigits
        obtain ⟨d, rest, hcons⟩ := List.exists_cons_of_ne_nil hne
        rw [hcons] at hdigits ⊢
        exact hdigits

end Decimal

namespace Json

/-! ## The parts of a numeral -/

/-- The sign of an exponent and the digits after it. -/
def exponentSign (text : List Char) : Bool × List Char :=
  match text with
  | '-' :: rest => (true, rest)
  | '+' :: rest => (false, rest)
  | _ => (false, text)

/-- An exponent is a sign and digits. -/
theorem scanExponent_mark {mark : Char} (h : (mark == 'e' || mark == 'E') = true)
    (text : List Char) :
    scanExponent (mark :: text) =
      (scanDigits (exponentSign text).2).map fun (digits, rest) =>
        (some ((exponentSign text).1, digits), rest) :=
  if_pos h

/-- A numeral after its sign. -/
def scanUnsigned (negative : Bool) (text : List Char) : Option (Number.Token × List Char) := do
  let (whole, text) ← scanWhole text
  let (fraction, text) ← scanFraction text
  let (exponent, text) ← scanExponent text
  return (⟨negative, whole, fraction, exponent⟩, text)

theorem scanNumber_minus (text : List Char) :
    scanNumber ('-' :: text) = scanUnsigned true text := rfl

theorem scanNumber_unsigned {c : Char} (h : c ≠ '-') (text : List Char) :
    scanNumber (c :: text) = scanUnsigned false (c :: text) := by
  rw [scanNumber, scanUnsigned]
  simp [h]

/-! ## Where a numeral ends -/

/-- A character that may go on with a numeral. -/
def isNumeralChar (c : Char) : Bool :=
  c.isDigit || c == '.' || c == 'e' || c == 'E'

/-- The text does not go on with a numeral. -/
def EndsNumeral (after : List Char) : Prop := ∀ c ∈ after.head?, isNumeralChar c = false

/-- Digits end where they did, before a text that begins with no digit. -/
theorem takeWhile_append_stop {p : Char → Bool} {after : List Char}
    (h : ∀ c ∈ after.head?, p c = false)
    (text : List Char) :
    (text ++ after).takeWhile p = text.takeWhile p ∧
      (text ++ after).dropWhile p = text.dropWhile p ++ after := by
  induction text with
  | nil =>
      cases after with
      | nil => exact ⟨rfl, rfl⟩
      | cons c after => simp [h c rfl]
  | cons d text ih =>
      by_cases hd : p d = true
      · simp [hd, ih.1, ih.2]
      · simp [hd]

section Append

variable {after : List Char} (h : EndsNumeral after)

include h

theorem EndsNumeral.isDigit : ∀ c ∈ after.head?, c.isDigit = false := by
  intro c hc
  have hnumeral := h c hc
  simp only [isNumeralChar, Bool.or_eq_false_iff] at hnumeral
  exact hnumeral.1.1.1

theorem EndsNumeral.ne {c : Char} (hc : isNumeralChar c = true) (rest : List Char) :
    after ≠ c :: rest := by
  rintro rfl
  have hnumeral := h c rfl
  simp [hc] at hnumeral

theorem scanDigits_append {text digits rest : List Char}
    (hscan : scanDigits text = some (digits, rest)) :
    scanDigits (text ++ after) = some (digits, rest ++ after) := by
  have hstop := takeWhile_append_stop h.isDigit text
  rw [scanDigits] at hscan ⊢
  rw [hstop.1, hstop.2]
  split at hscan
  · cases hscan
  · cases hscan
    rfl

theorem scanWhole_append {text digits rest : List Char}
    (hscan : scanWhole text = some (digits, rest)) :
    scanWhole (text ++ after) = some (digits, rest ++ after) := by
  match text with
  | [] => cases hscan
  | d :: text =>
      by_cases hd : d = '0'
      · subst hd
        match text with
        | [] =>
            cases hscan
            match after with
            | [] => rfl
            | c :: after => simp [scanWhole, h.isDigit c rfl]
        | c :: text =>
            by_cases hc : c.isDigit = true
            · simp [scanWhole, hc] at hscan
            · simp only [scanWhole, hc] at hscan ⊢
              cases hscan
              simp [hc]
      · have hstop := takeWhile_append_stop h.isDigit (d :: text)
        by_cases hdigit : d.isDigit = true
        · simp only [scanWhole, hdigit, if_true] at hscan
          cases hscan
          rw [List.cons_append] at hstop ⊢
          simp only [scanWhole, hdigit, if_true, hstop]
        · simp [scanWhole, hdigit] at hscan

theorem scanFraction_append {text rest : List Char} {fraction : Option (List Char)}
    (hscan : scanFraction text = some (fraction, rest)) :
    scanFraction (text ++ after) = some (fraction, rest ++ after) := by
  by_cases hpoint : ∃ digits, text = '.' :: digits
  · obtain ⟨digits, rfl⟩ := hpoint
    obtain ⟨⟨_, _⟩, hdigits, heq⟩ := Option.map_eq_some_iff.1 hscan
    cases heq
    exact Option.map_eq_some_iff.2 ⟨_, scanDigits_append h hdigits, rfl⟩
  · have hnone : ∀ {text}, (∀ digits, text ≠ '.' :: digits) →
        scanFraction text = some (none, text) := by
      intro text htext
      rw [scanFraction]
      exact htext
    rw [hnone fun digits heq => hpoint ⟨digits, heq⟩] at hscan
    cases hscan
    refine hnone fun digits heq => ?_
    match text with
    | [] => exact h.ne (show isNumeralChar '.' = true by decide) digits heq
    | c :: text => exact hpoint ⟨text, by rw [(List.cons.inj heq).1]⟩

theorem scanExponent_append {text rest : List Char} {exponent : Option (Bool × List Char)}
    (hscan : scanExponent text = some (exponent, rest)) :
    scanExponent (text ++ after) = some (exponent, rest ++ after) := by
  match text with
  | [] =>
      cases hscan
      match after with
      | [] => rfl
      | c :: after =>
          have hmark : (c == 'e' || c == 'E') = false := by
            have hnumeral := h c rfl
            simp only [isNumeralChar, Bool.or_eq_false_iff] at hnumeral
            rw [hnumeral.1.2, hnumeral.2]
            rfl
          simp [scanExponent, hmark]
  | mark :: text =>
      by_cases hmark : (mark == 'e' || mark == 'E') = true
      · rw [scanExponent_mark hmark] at hscan
        obtain ⟨⟨digits, rest'⟩, hdigits, heq⟩ := Option.map_eq_some_iff.1 hscan
        cases heq
        have hsign : exponentSign (text ++ after) =
            ((exponentSign text).1, (exponentSign text).2 ++ after) := by
          match text with
          | [] => cases hdigits
          | c :: text =>
              rw [List.cons_append]
              by_cases hminus : c = '-'
              · subst hminus
                rfl
              · by_cases hplus : c = '+'
                · subst hplus
                  rfl
                · simp [exponentSign, hminus, hplus]
        rw [List.cons_append, scanExponent_mark hmark, hsign]
        exact Option.map_eq_some_iff.2 ⟨_, scanDigits_append h hdigits, rfl⟩
      · simp only [scanExponent, hmark] at hscan
        cases hscan
        simp [scanExponent, hmark]

theorem scanUnsigned_append {negative : Bool} {text rest : List Char} {token : Number.Token}
    (hscan : scanUnsigned negative text = some (token, rest)) :
    scanUnsigned negative (text ++ after) = some (token, rest ++ after) := by
  simp only [scanUnsigned, Option.bind_eq_bind, Option.bind_eq_some_iff] at hscan
  obtain ⟨⟨whole, _⟩, hwhole, ⟨fraction, _⟩, hfraction, ⟨exponent, _⟩, hexponent, heq⟩ := hscan
  cases heq
  simp [scanUnsigned, scanWhole_append h hwhole, scanFraction_append h hfraction,
    scanExponent_append h hexponent]

/-- **A numeral ends before what cannot go on with it**: how a numeral is read does not depend on
the text after it. -/
theorem scanNumber_append {text rest : List Char} {token : Number.Token}
    (hscan : scanNumber text = some (token, rest)) :
    scanNumber (text ++ after) = some (token, rest ++ after) := by
  match text with
  | [] => cases hscan
  | c :: text =>
      by_cases hminus : c = '-'
      · subst hminus
        exact scanUnsigned_append h hscan
      · rw [List.cons_append, scanNumber_unsigned hminus]
        rw [scanNumber_unsigned hminus] at hscan
        exact scanUnsigned_append h hscan

end Append

/-! ## Numerals from their parts -/

/-- Digits that may stand before the point: a zero alone, or digits that do not begin with one. -/
def IsWhole (digits : List Char) : Prop :=
  digits = ['0'] ∨ digits ≠ [] ∧ (∀ c ∈ digits, c.isDigit = true) ∧ digits.head? ≠ some '0'

section Parts

variable {after : List Char} (hafter : ∀ c ∈ after.head?, c.isDigit = false)

include hafter

/-- Digits are read up to what is no digit. -/
theorem span_digits {digits : List Char} (h : ∀ c ∈ digits, c.isDigit = true) :
    (digits ++ after).takeWhile Char.isDigit = digits ∧
      (digits ++ after).dropWhile Char.isDigit = after := by
  obtain ⟨htake, hdrop⟩ := takeWhile_append_stop hafter []
  rw [List.nil_append] at htake hdrop
  rw [List.takeWhile_append_of_pos h, List.dropWhile_append_of_pos h, htake, hdrop]
  exact ⟨List.append_nil digits, rfl⟩

theorem scanDigits_digits {digits : List Char} (hne : digits ≠ [])
    (h : ∀ c ∈ digits, c.isDigit = true) :
    scanDigits (digits ++ after) = some (digits, after) := by
  obtain ⟨htake, hdrop⟩ := span_digits hafter h
  rw [scanDigits, htake, hdrop]
  split
  · exact absurd rfl hne
  · rfl

theorem scanWhole_digits {digits : List Char} (h : IsWhole digits) :
    scanWhole (digits ++ after) = some (digits, after) := by
  rcases h with rfl | ⟨hne, hdigits, hhead⟩
  · match after with
    | [] => rfl
    | c :: after => simp [scanWhole, hafter c rfl]
  · obtain ⟨htake, hdrop⟩ := span_digits hafter hdigits
    obtain ⟨d, digits, rfl⟩ := List.exists_cons_of_ne_nil hne
    have hd : d ≠ '0' := fun heq => hhead (by rw [heq]; rfl)
    rw [List.cons_append] at htake hdrop ⊢
    simp only [scanWhole, hdigits d List.mem_cons_self, if_true, htake, hdrop]

end Parts

/-- Digits before and after a point, and then perhaps an exponent. -/
theorem scanUnsigned_point {whole digits text : List Char}
    {exponent : Option (Bool × List Char)} (hwhole : IsWhole whole) (hne : digits ≠ [])
    (hdigits : ∀ c ∈ digits, c.isDigit = true) (htext : ∀ c ∈ text.head?, c.isDigit = false)
    (hexponent : scanExponent text = some (exponent, [])) (negative : Bool) :
    scanUnsigned negative (whole ++ '.' :: (digits ++ text)) =
      some (⟨negative, whole, some digits, exponent⟩, []) := by
  have hpoint : ∀ c ∈ ('.' :: (digits ++ text)).head?, c.isDigit = false := by
    intro c hc
    cases hc
    rfl
  have hfraction : scanFraction ('.' :: (digits ++ text)) = some (some digits, text) := by
    rw [scanFraction, scanDigits_digits htext hne hdigits]
    rfl
  rw [scanUnsigned, scanWhole_digits hpoint hwhole]
  simp [hfraction, hexponent]

/-- The exponent that is written after its mark. -/
theorem scanExponent_ofNat (negative : Bool) (n : Nat) :
    scanExponent ('e' :: (if negative then '-' else '+') :: Decimal.ofNat n) =
      some (some (negative, Decimal.ofNat n), []) := by
  have hdigits : scanDigits (Decimal.ofNat n) = some (Decimal.ofNat n, []) := by
    have hscan := @scanDigits_digits [] nofun (Decimal.ofNat n) Nat.toDigits_ne_nil
      fun c hc => Decimal.isDigit_of_mem_ofNat hc
    rwa [List.append_nil] at hscan
  rw [scanExponent_mark (by decide)]
  cases negative <;> simp [exponentSign, hdigits]

theorem isDigit_mark (negative : Bool) (n : Nat) :
    ∀ c ∈ ('e' :: (if negative then '-' else '+') :: Decimal.ofNat n).head?, c.isDigit = false := by
  intro c hc
  cases hc
  rfl

/-! ## Integers -/

/-- The digits of a number do not begin with a zero that others follow. -/
theorem isWhole_ofNat (n : Nat) : IsWhole (Decimal.ofNat n) := by
  by_cases hzero : n = 0
  · subst hzero
    exact .inl rfl
  · exact .inr ⟨Nat.toDigits_ne_nil, fun c hc => Decimal.isDigit_of_mem_ofNat hc,
      Decimal.head?_ofNat hzero⟩

/-- The digits of a number are read to their end. -/
theorem scanWhole_ofNat (n : Nat) : scanWhole (Decimal.ofNat n) = some (Decimal.ofNat n, []) := by
  have hscan := @scanWhole_digits [] nofun _ (isWhole_ofNat n)
  rwa [List.append_nil] at hscan

/-- The numeral of an integer. -/
def intToken (n : Int) : Number.Token := ⟨decide (n < 0), Decimal.ofNat n.natAbs, none, none⟩

theorem scanUnsigned_ofNat (negative : Bool) (n : Nat) :
    scanUnsigned negative (Decimal.ofNat n) =
      some (⟨negative, Decimal.ofNat n, none, none⟩, []) := by
  rw [scanUnsigned, scanWhole_ofNat]
  rfl

/-- The text of an integer is read to its end. -/
theorem scanNumber_ofInt (n : Int) : scanNumber (Decimal.ofInt n) = some (intToken n, []) := by
  cases n with
  | ofNat n =>
      have hne : Decimal.ofNat n ≠ [] := Nat.toDigits_ne_nil
      have hform := scanUnsigned_ofNat false n
      obtain ⟨d, digits, hdigits⟩ := List.exists_cons_of_ne_nil hne
      have hminus : d ≠ '-' := by
        rintro rfl
        have hdigit : '-'.isDigit = true :=
          Decimal.isDigit_of_mem_ofNat (n := n) (by rw [hdigits]; exact List.mem_cons_self)
        exact absurd hdigit (by decide)
      rw [Decimal.ofInt, intToken, hdigits, scanNumber_unsigned hminus, ← hdigits, hform]
      rfl
  | negSucc n =>
      rw [Decimal.ofInt, scanNumber_minus, scanUnsigned_ofNat, intToken,
        decide_eq_true (Int.negSucc_lt_zero n), Int.natAbs_negSucc]

/-- An integer of 64 bits, with or without sign. -/
def FitsWord (n : Int) : Prop := Word.minSigned 64 ≤ n ∧ n ≤ Word.maxUnsigned 64

instance (n : Int) : Decidable (FitsWord n) := inferInstanceAs (Decidable (_ ∧ _))

/-- The numeral of an integer denotes it. -/
theorem number?_intToken {n : Int} (h : FitsWord n) : (intToken n).number? = some (.int n) := by
  obtain ⟨hmin, hmax⟩ := h
  simp only [Word.minSigned, Nat.reduceSub] at hmin
  rw [Number.Token.number?, intToken, Decimal.value_ofNat, Number.maxSignificand]
  by_cases hnegative : n < 0
  · have hle : n.natAbs ≤ Word.values 63 := by omega
    have hne : n.natAbs ≠ 0 := by omega
    have habs : -(n.natAbs : Int) = n := by omega
    simp only [decide_eq_true hnegative, decide_eq_true hle, bne_iff_ne.2 hne, habs,
      Option.isNone_none,
      Bool.not_true, Bool.false_and, Bool.and_self, if_true, Bool.false_eq_true, if_false]
  · have hle : n.natAbs ≤ Word.maxUnsigned 64 := by omega
    have habs : (n.natAbs : Int) = n := by omega
    simp only [decide_eq_false hnegative, decide_eq_true hle, habs, Option.isNone_none,
      Bool.not_false, Bool.and_self, if_true]

end Json

end SiteScript
