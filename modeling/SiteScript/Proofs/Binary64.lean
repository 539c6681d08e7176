import Mathlib.Algebra.Order.Field.Power
import Mathlib.Algebra.Order.Field.Rat
import Mathlib.Data.List.TakeWhile
import Mathlib.Tactic.NormNum
import Mathlib.Tactic.Positivity
import SiteScript.Proofs.Json.Numerals

/-!
# SiteScript.Proofs.Binary64

Integers as doubles.

1. `Binary64.toRat` is the value of a double.  An integer up to `2 ^ 53` is rounded to itself
   (`toRat_ofInt?`), and every larger one stays on its side of a power of two (`power_le_toRat`,
   `toRat_le_power`); so an integer below `2 ^ 53` shares its double with no other
   (`eq_of_ofInt?_eq`).
2. Digits read as the double that the number they denote is rounded to (`ofText?_digits`), and the
   text of an integer as the one that the integer is rounded to (`ofText?_ofInt`). -/

namespace SiteScript

/-! ## Digits -/

namespace Decimal

/-- What stands in front counts for as many places as there are digits after it. -/
theorem foldl_digits (n : Nat) (digits : List Char) :
    digits.foldl (fun n d => 10 * n + digitValue d) n = n * 10 ^ digits.length + value digits := by
  induction digits generalizing n with
  | nil => simp [value]
  | cons d digits ih =>
      have hcons : value (d :: digits) = (10 * 0 + digitValue d) * 10 ^ digits.length +
          value digits := ih _
      rw [List.foldl_cons, ih, hcons, List.length_cons, Nat.pow_succ]
      grind

theorem value_cons (d : Char) (digits : List Char) :
    value (d :: digits) = digitValue d * 10 ^ digits.length + value digits := by
  have hfold : value (d :: digits) = (10 * 0 + digitValue d) * 10 ^ digits.length + value digits :=
    foldl_digits _ digits
  rwa [Nat.mul_zero, Nat.zero_add] at hfold

theorem digitValue_pos {c : Char} (h : c.isDigit = true) (hzero : c ≠ '0') : 0 < digitValue c := by
  have hlow : '0'.toNat ≤ c.toNat := by
    simp only [Char.isDigit, Bool.and_eq_true, decide_eq_true_eq] at h
    exact h.1
  have hne : c.toNat ≠ '0'.toNat := fun heq => hzero (Char.toNat_inj.1 heq)
  rw [digitValue]
  omega

/-- Zeros in front do not count. -/
theorem value_dropZeros (digits : List Char) :
    value (digits.dropWhile (· == '0')) = value digits := by
  induction digits with
  | nil => rfl
  | cons d digits ih =>
      by_cases hd : d = '0'
      · subst hd
        rw [List.dropWhile_cons_of_pos rfl, ih]
        rfl
      · rw [List.dropWhile_cons_of_neg (by simpa using hd)]

/-- Without zeros in front, a number is as large as its digits are many. -/
theorem le_value {digits : List Char} (hdigits : ∀ c ∈ digits, c.isDigit = true)
    (hne : digits ≠ []) (hhead : digits.head? ≠ some '0') :
    10 ^ (digits.length - 1) ≤ value digits := by
  obtain ⟨d, rest, rfl⟩ := List.exists_cons_of_ne_nil hne
  have hd := digitValue_pos (hdigits d List.mem_cons_self) fun heq => hhead (by rw [heq]; rfl)
  rw [value_cons, List.length_cons, Nat.add_sub_cancel]
  exact Nat.le_add_right_of_le (Nat.le_mul_of_pos_left _ hd)

end Decimal

namespace Binary64

theorem power_pos (k : Nat) : 0 < power k := Nat.pow_pos (by decide)

/-! ## Values -/

/-- The size of a number, as a rational number. -/
def magnitude (x : Binary64) : ℚ := x.significand * 2 ^ x.exponent

/-- The value of a number. -/
def toRat (x : Binary64) : ℚ := if x.negative then -x.magnitude else x.magnitude

/-- Equal numbers have equal values. -/
theorem toRat_eq_of_numEq {x y : Binary64} (h : x.numEq y = true) : x.toRat = y.toRat := by
  rw [numEq, Bool.or_eq_true, Bool.and_eq_true, isZero, isZero, beq_iff_eq, beq_iff_eq,
    beq_iff_eq] at h
  rcases h with rfl | ⟨hx, hy⟩
  · rfl
  · simp [toRat, magnitude, hx, hy]

/-! ## Rounding to the nearest -/

section DivNearest

variable {numerator denominator : Nat}

theorem divNearest_one (n : Nat) : divNearest n 1 = n := by
  simp [divNearest, Nat.mod_one]

/-- A quotient is not rounded below a whole number under it. -/
theorem le_divNearest {low : Nat} (hpos : 0 < denominator) (h : low * denominator ≤ numerator) :
    low ≤ divNearest numerator denominator := by
  have hlow : low ≤ numerator / denominator := (Nat.le_div_iff_mul_le hpos).2 h
  simp only [divNearest]
  split
  · exact hlow
  split
  · omega
  split <;> omega

end DivNearest

/-! ## Integers -/

/-- The quotient that is rounded for an integer: one of both powers is one. -/
theorem scaleDown_one (m : Nat) :
    scaleDown m 1 ((m.log2 : Int) - 52) = (m * power (52 - m.log2), power (m.log2 - 52)) := by
  rcases Nat.lt_or_ge m.log2 52 with hlt | hge
  · obtain ⟨k, hk⟩ : ∃ k, 52 - m.log2 = k + 1 := ⟨51 - m.log2, by omega⟩
    have hexponent : (m.log2 : Int) - 52 = Int.negSucc k := by omega
    have hzero : m.log2 - 52 = 0 := by omega
    rw [hexponent, scaleDown, hk, hzero]
    rfl
  · have hexponent : (m.log2 : Int) - 52 = Int.ofNat (m.log2 - 52) := by
      rw [Int.ofNat_eq_natCast]
      omega
    have hzero : 52 - m.log2 = 0 := by omega
    rw [hexponent, scaleDown, hzero]
    simp [power]

/-- The quotient has 53 bits. -/
theorem scaled_bounds {m : Nat} (h : m ≠ 0) :
    power 52 * power (m.log2 - 52) ≤ m * power (52 - m.log2) ∧
      m * power (52 - m.log2) < power 53 * power (m.log2 - 52) := by
  have hlow : 2 ^ m.log2 ≤ m := Nat.log2_self_le h
  have hhigh : m < 2 ^ (m.log2 + 1) := Nat.lt_log2_self
  have hpow : ∀ a b, power a * power b = 2 ^ (a + b) := fun a b => (Nat.pow_add 2 a b).symm
  constructor
  · calc power 52 * power (m.log2 - 52) = power m.log2 * power (52 - m.log2) := by
          rw [hpow, hpow]
          congr 1
          omega
      _ ≤ m * power (52 - m.log2) := Nat.mul_le_mul_right _ hlow
  · calc m * power (52 - m.log2) < power (m.log2 + 1) * power (52 - m.log2) :=
          Nat.mul_lt_mul_of_pos_right hhigh (power_pos _)
      _ = power 53 * power (m.log2 - 52) := by
          rw [hpow, hpow]
          congr 1
          omega

/-- The exponent of an integer is that of its first bit. -/
theorem exponentOf_one {m : Nat} (h : m ≠ 0) : exponentOf m 1 = (m.log2 : Int) - 52 := by
  have hquotient : ¬ m * power (52 - m.log2) / power (m.log2 - 52) < power 52 := by
    rw [Nat.not_lt, Nat.le_div_iff_mul_le (power_pos _)]
    exact (scaled_bounds h).1
  have hmin : minExponent ≤ (m.log2 : Int) - 52 := by
    rw [minExponent]
    omega
  simp only [exponentOf, show Nat.log2 1 = 0 by decide, Int.natCast_zero, Int.sub_zero,
    scaleDown_one, if_neg hquotient]
  exact Int.max_eq_left hmin

/-- A positive integer is rounded to a significand of 53 bits, and the exponent of its first bit or
the one after that. -/
theorem ofRatio_one (negative : Bool) {m : Nat} (h : m ≠ 0) :
    ∃ (significand : Nat) (exponent : Int), power 52 ≤ significand ∧
      (m.log2 : Int) - 52 ≤ exponent ∧ exponent ≤ (m.log2 : Int) - 51 ∧
      (m.log2 ≤ 52 → significand = m * power (52 - m.log2) ∧ exponent = (m.log2 : Int) - 52) ∧
      ofRatio negative m 1 =
        if exponent > maxExponent then none else some ⟨negative, significand, exponent⟩ := by
  obtain ⟨hlow, hhigh⟩ := scaled_bounds h
  have hrounded := le_divNearest (power_pos _) hlow
  have hexact : m.log2 ≤ 52 → divNearest (m * power (52 - m.log2)) (power (m.log2 - 52)) =
      m * power (52 - m.log2) := by
    intro hle
    rw [show m.log2 - 52 = 0 by omega, show power 0 = 1 from rfl, divNearest_one]
  have hpower : power 0 = 1 := rfl
  rw [ofRatio, if_neg (by simpa using h), exponentOf_one h]
  simp only [scaleDown_one]
  generalize hsignificand : divNearest (m * power (52 - m.log2)) (power (m.log2 - 52)) = significand
    at hrounded hexact
  split
  next hcarry =>
    rw [beq_iff_eq] at hcarry
    refine ⟨power 52, (m.log2 : Int) - 52 + 1, Nat.le_refl _, by omega, by omega, ?_, rfl⟩
    -- what has at most 53 bits was not rounded
    intro hle
    rw [show m.log2 - 52 = 0 by omega, hpower, Nat.mul_one] at hhigh
    rw [hexact hle] at hcarry
    omega
  next => exact ⟨significand, _, hrounded, by omega, by omega, fun hle => ⟨hexact hle, rfl⟩, rfl⟩

theorem ofRatio_two_pow (negative : Bool) :
    ofRatio negative (2 ^ 53) 1 = some ⟨negative, 2 ^ 52, 1⟩ := by
  cases negative <;> decide +kernel

/-- Integers of 64 bits are not too large to be rounded. -/
theorem exists_ofInt? {n : Int} (h : n.natAbs < 2 ^ 64) : ∃ x, ofInt? n = some x := by
  by_cases hzero : n = 0
  · exact ⟨zero false, by rw [hzero]; rfl⟩
  · have hne : n.natAbs ≠ 0 := Int.natAbs_ne_zero.2 hzero
    have hlog : n.natAbs.log2 < 64 := (Nat.log2_lt hne).2 h
    obtain ⟨significand, exponent, -, -, hexponent, -, heq⟩ := ofRatio_one (decide (n < 0)) hne
    have hmax : ¬ exponent > maxExponent := by
      rw [maxExponent]
      omega
    rw [ofInt?, heq, if_neg hmax]
    exact ⟨_, rfl⟩

/-- Integers of more than 1024 bits are. -/
theorem ofRatio_eq_none (negative : Bool) {m : Nat} (hne : m ≠ 0) (hlog : 1024 ≤ m.log2) :
    ofRatio negative m 1 = none := by
  obtain ⟨significand, exponent, -, hexponent, -, -, heq⟩ := ofRatio_one negative hne
  have hmax : exponent > maxExponent := by
    rw [maxExponent]
    omega
  rw [heq, if_pos hmax]

section Value

variable {n : Int} {x : Binary64} (hx : ofInt? n = some x)

include hx

/-- The sign, the significand and the exponent that an integer is rounded to. -/
theorem form_ofInt? (hzero : n ≠ 0) : ∃ (significand : Nat) (exponent : Int),
    power 52 ≤ significand ∧ (n.natAbs.log2 : Int) - 52 ≤ exponent ∧
    (n.natAbs.log2 ≤ 52 → significand = n.natAbs * power (52 - n.natAbs.log2) ∧
      exponent = -((52 - n.natAbs.log2 : Nat) : Int)) ∧
    x = ⟨decide (n < 0), significand, exponent⟩ := by
  obtain ⟨significand, exponent, hsignificand, hexponent, -, hexact, heq⟩ :=
    ofRatio_one (decide (n < 0)) (Int.natAbs_ne_zero.2 hzero)
  rw [ofInt?, heq] at hx
  split at hx
  · cases hx
  · have hexact : n.natAbs.log2 ≤ 52 → significand = n.natAbs * power (52 - n.natAbs.log2) ∧
        exponent = -((52 - n.natAbs.log2 : Nat) : Int) := fun hle => by
      obtain ⟨hsignificand, hexponent⟩ := hexact hle
      exact ⟨hsignificand, by omega⟩
    exact ⟨significand, exponent, hsignificand, hexponent, hexact, (Option.some.inj hx).symm⟩

theorem negative_ofInt? : x.negative = decide (n < 0) := by
  by_cases hzero : n = 0
  · subst hzero
    cases hx
    rfl
  · obtain ⟨_, _, -, -, -, rfl⟩ := form_ofInt? hx hzero
    rfl

/-- An integer up to `2 ^ 53` is not changed by rounding. -/
theorem magnitude_ofInt? (h : n.natAbs ≤ 2 ^ 53) : x.magnitude = n.natAbs := by
  by_cases hzero : n = 0
  · subst hzero
    cases hx
    simp [magnitude, zero]
  rcases Nat.lt_or_eq_of_le h with hlt | heq
  · have hlog : n.natAbs.log2 < 53 := (Nat.log2_lt (Int.natAbs_ne_zero.2 hzero)).2 hlt
    obtain ⟨_, _, -, -, hexact, rfl⟩ := form_ofInt? hx hzero
    obtain ⟨rfl, rfl⟩ := hexact (by omega)
    have hpower : ((power (52 - n.natAbs.log2) : ℕ) : ℚ) = 2 ^ (52 - n.natAbs.log2) :=
      Nat.cast_pow 2 _
    rw [magnitude, zpow_neg, zpow_natCast, Nat.cast_mul, hpower]
    exact mul_inv_cancel_right₀ (pow_ne_zero _ two_ne_zero) _
  · rw [ofInt?, heq, ofRatio_two_pow] at hx
    cases hx
    rw [magnitude, heq]
    norm_num

/-- Rounding an integer leaves it on its side of a power of two. -/
theorem power_le_magnitude {k : Nat} (h : 2 ^ k ≤ n.natAbs) : 2 ^ k ≤ x.magnitude := by
  have hne : n.natAbs ≠ 0 := Nat.ne_of_gt (Nat.lt_of_lt_of_le (Nat.two_pow_pos k) h)
  have hk : k ≤ n.natAbs.log2 := (Nat.le_log2 hne).2 h
  obtain ⟨significand, exponent, hsignificand, hexponent, -, rfl⟩ :=
    form_ofInt? hx (Int.natAbs_ne_zero.1 hne)
  have hcast : (2 : ℚ) ^ (52 : ℤ) ≤ significand := by
    have hpower : ((2 ^ 52 : ℕ) : ℚ) ≤ significand := Nat.cast_le.2 hsignificand
    exact_mod_cast hpower
  calc (2 : ℚ) ^ k ≤ 2 ^ ((52 : ℤ) + exponent) := by
        rw [← zpow_natCast]
        exact zpow_le_zpow_right₀ one_le_two (by omega)
    _ = 2 ^ (52 : ℤ) * 2 ^ exponent := zpow_add₀ two_ne_zero _ _
    _ ≤ significand * 2 ^ exponent := by gcongr

/-- An integer up to `2 ^ 53` is rounded to itself. -/
theorem toRat_ofInt? (h : n.natAbs ≤ 2 ^ 53) : x.toRat = n := by
  rw [toRat, negative_ofInt? hx, magnitude_ofInt? hx h, Nat.cast_natAbs]
  by_cases hnegative : n < 0
  · simp [hnegative, abs_of_neg hnegative]
  · simp [hnegative, abs_of_nonneg (Int.not_lt.1 hnegative)]

theorem power_le_toRat {k : Nat} (h : 2 ^ k ≤ n) : 2 ^ k ≤ x.toRat := by
  have hpos : (0 : Int) < 2 ^ k := Int.pow_pos (by decide)
  have hcast : ((2 ^ k : Nat) : Int) = 2 ^ k := Int.natCast_pow 2 k
  have habs : 2 ^ k ≤ n.natAbs := by omega
  have hmagnitude := power_le_magnitude hx habs
  rwa [toRat, negative_ofInt? hx, if_neg (by simp; omega)]

theorem toRat_le_power {k : Nat} (h : n ≤ -2 ^ k) : x.toRat ≤ -2 ^ k := by
  have hpos : (0 : Int) < 2 ^ k := Int.pow_pos (by decide)
  have hcast : ((2 ^ k : Nat) : Int) = 2 ^ k := Int.natCast_pow 2 k
  have habs : 2 ^ k ≤ n.natAbs := by omega
  have hmagnitude := power_le_magnitude hx habs
  rw [toRat, negative_ofInt? hx, if_pos (by simp; omega)]
  exact neg_le_neg hmagnitude

end Value

/-- An integer below another one, which is up to `2 ^ 53`, is rounded to less than that. -/
theorem toRat_lt {m n : Int} {x : Binary64} (hx : ofInt? m = some x) (h : m < n)
    (hlow : -2 ^ 53 < n) (hhigh : n ≤ 2 ^ 53) : x.toRat < n := by
  rcases Int.lt_or_le m (-2 ^ 53) with hm | hm
  · have hle := toRat_le_power hx (Int.le_of_lt hm)
    exact lt_of_le_of_lt hle (by exact_mod_cast hlow)
  · rw [toRat_ofInt? hx (by omega)]
    exact_mod_cast h

/-- An integer below `2 ^ 53` shares its value with no other one when both are rounded. -/
theorem eq_of_toRat_eq {m n : Int} {x y : Binary64} (hx : ofInt? m = some x)
    (hy : ofInt? n = some y) (h : x.toRat = y.toRat) (hm : m.natAbs < 2 ^ 53) : m = n := by
  have hxm := toRat_ofInt? hx (Nat.le_of_lt hm)
  rcases Int.lt_trichotomy n m with hlt | heq | hgt
  · have := toRat_lt hy hlt (by omega) (by omega)
    rw [← h, hxm] at this
    exact absurd this (lt_irrefl _)
  · exact heq.symm
  · rcases Int.lt_or_le n (2 ^ 53) with hn | hn
    · rw [hxm, toRat_ofInt? hy (by omega)] at h
      exact Int.cast_injective h
    · have hle := power_le_toRat hy hn
      rw [← h, hxm] at hle
      have : (2 ^ 53 : Int) ≤ m := by exact_mod_cast hle
      omega

/-- An integer below `2 ^ 53` is rounded to what no other integer is rounded to. -/
theorem eq_of_ofInt?_eq {m n : Int} {x : Binary64} (hm : ofInt? m = some x)
    (hn : ofInt? n = some x) (h : m.natAbs < 2 ^ 53 ∨ n.natAbs < 2 ^ 53) : m = n := by
  rcases h with h | h
  · exact eq_of_toRat_eq hm hn rfl h
  · exact (eq_of_toRat_eq hn hm rfl h).symm

/-- Integers that are rounded to equal numbers are rounded to the same number: only zero is rounded
to zero, and that to the positive one. -/
theorem eq_of_numEq {m n : Int} {x y : Binary64} (hx : ofInt? m = some x) (hy : ofInt? n = some y)
    (h : x.numEq y = true) : x = y := by
  have hzero : ∀ {k : Int} {z : Binary64}, ofInt? k = some z → z.isZero = true →
      z = zero false := by
    intro k z hz hiszero
    have hvalue : z.toRat = (zero false).toRat :=
      toRat_eq_of_numEq (by rw [numEq, hiszero]; simp [isZero, zero])
    obtain rfl : 0 = k := eq_of_toRat_eq rfl hz hvalue.symm (by decide)
    exact (Option.some.inj hz).symm
  rw [numEq, Bool.or_eq_true, Bool.and_eq_true, beq_iff_eq] at h
  rcases h with heq | ⟨hxzero, hyzero⟩
  · exact heq
  · rw [hzero hx hxzero, hzero hy hyzero]

end Binary64

/-! ## Reading -/

namespace Extended

/-- The double that an integer is rounded to, or the infinite number of its sign. -/
def ofInt (n : Int) : Extended :=
  match Binary64.ofInt? n with
  | some x => .finite x
  | none => .infinite (n < 0)

section Digits

variable {digits : List Char} (hne : digits ≠ []) (hdigits : ∀ c ∈ digits, c.isDigit = true)

include hdigits

/-- The digits of a numeral without point and exponent denote an integer, which is rounded. -/
theorem ofNumeral_digits (negative : Bool) :
    ofNumeral negative ⟨digits, [], 0⟩ =
      match Binary64.ofRatio negative (Decimal.value digits) 1 with
      | some x => .finite x
      | none => .infinite negative := by
  rw [← Decimal.value_dropZeros]
  simp only [ofNumeral, List.append_nil, List.length_nil]
  have hsignificant : ∀ c ∈ digits.dropWhile (· == '0'), c.isDigit = true :=
    fun c hc => hdigits c ((List.dropWhile_suffix _).subset hc)
  have hhead : (digits.dropWhile (· == '0')).head? ≠ some '0' := by
    have hstop := List.head?_dropWhile_not (· == '0') digits
    intro hzero
    rw [hzero] at hstop
    exact absurd (show ('0' == '0') = false from hstop) (by decide)
  generalize digits.dropWhile (· == '0') = significant at hsignificant hhead
  by_cases hnil : significant = []
  · subst hnil
    rfl
  have hsize := Decimal.le_value hsignificant hnil hhead
  have hdecimal : Binary64.ofDecimal? negative (Decimal.value significant) (0 - ((0 : Nat) : Int)) =
      Binary64.ofRatio negative (Decimal.value significant) 1 :=
    congrArg (Binary64.ofRatio negative · 1) (Nat.mul_one _)
  rw [if_neg (by simp [hnil]), hdecimal]
  split
  next hlong =>
    -- the number has more than four hundred digits
    have hlarge : 2 ^ (3 * (significant.length - 1)) ≤ Decimal.value significant := by
      calc 2 ^ (3 * (significant.length - 1))
          = (2 ^ 3) ^ (significant.length - 1) := Nat.pow_mul 2 3 _
        _ ≤ 10 ^ (significant.length - 1) := Nat.pow_le_pow_left (by decide) _
        _ ≤ Decimal.value significant := hsize
    have hne : Decimal.value significant ≠ 0 :=
      Nat.ne_of_gt (Nat.lt_of_lt_of_le (Nat.two_pow_pos _) hlarge)
    have hlog := (Nat.le_log2 hne).2 hlarge
    rw [Binary64.ofRatio_eq_none negative hne (by omega)]
  next => rfl

include hne

theorem numeral?_digits : numeral? digits = some ⟨digits, [], 0⟩ := by
  have htake : digits.takeWhile Char.isDigit = digits := List.takeWhile_eq_self_iff.2 hdigits
  have hdrop : digits.dropWhile Char.isDigit = [] := List.dropWhile_eq_nil_iff.2 hdigits
  simp [numeral?, htake, hdrop, hne]

/-- Digits are no word that begins with a letter. -/
theorem lower_ne_word {word : String} {letter : Char} (hword : word.toList.head? = some letter)
    (hletter : letter.isDigit = false) :
    (String.ofList (digits.map Char.toLower) == word) = false := by
  have hlower : ∀ {c : Char}, c.isDigit = true → c.toLower = c := by
    intro c hc
    simp only [Char.isDigit, Bool.and_eq_true, decide_eq_true_eq] at hc
    exact dif_neg fun hupper => absurd (UInt32.le_trans hupper.1 hc.2) (by decide)
  rw [beq_eq_false_iff_ne]
  rintro rfl
  obtain ⟨c, rest, rfl⟩ := List.exists_cons_of_ne_nil hne
  have hc := hdigits c List.mem_cons_self
  rw [String.toList_ofList, List.map_cons, hlower hc, List.head?_cons] at hword
  obtain rfl := Option.some.inj hword
  rw [hc] at hletter
  cases hletter

theorem ofText?_unsigned : ofText? digits = some (ofNumeral false ⟨digits, [], 0⟩) := by
  have hword := @lower_ne_word digits hne hdigits
  have hnumeral := numeral?_digits hne hdigits
  rw [ofText?.eq_def]
  split
  next negative body hsign =>
    -- a digit is no sign
    obtain ⟨rfl, rfl⟩ : false = negative ∧ digits = body := by
      split at hsign
      next => exact absurd (hdigits '-' List.mem_cons_self) (by decide)
      next => exact absurd (hdigits '+' List.mem_cons_self) (by decide)
      next => exact Prod.mk.inj hsign
    simp only [@hword "inf" 'i' rfl rfl, @hword "infinity" 'i' rfl rfl, @hword "nan" 'n' rfl rfl,
      hnumeral]
    rfl

theorem ofText?_minus : ofText? ('-' :: digits) = some (ofNumeral true ⟨digits, [], 0⟩) := by
  have hword := @lower_ne_word digits hne hdigits
  simp only [ofText?, @hword "inf" 'i' rfl rfl, @hword "infinity" 'i' rfl rfl,
    @hword "nan" 'n' rfl rfl, numeral?_digits hne hdigits]
  rfl

/-- **Digits read as the double that the number they denote is rounded to**, however many they are
and whatever zeros stand in front. -/
theorem ofText?_digits : ofText? digits = some (ofInt (Decimal.value digits)) := by
  rw [ofText?_unsigned hne hdigits, ofNumeral_digits hdigits]
  rfl

end Digits

/-- **The text of an integer reads as the double that the integer is rounded to.** -/
theorem ofText?_ofInt (n : Int) : ofText? (Decimal.ofInt n) = some (ofInt n) := by
  have hdigits : ∀ {m : Nat}, ∀ c ∈ Decimal.ofNat m, c.isDigit = true :=
    fun c hc => Decimal.isDigit_of_mem_ofNat hc
  cases n with
  | ofNat m =>
      rw [Decimal.ofInt, @ofText?_digits (Decimal.ofNat m) Nat.toDigits_ne_nil hdigits,
        Decimal.value_ofNat]
      rfl
  | negSucc m =>
      rw [Decimal.ofInt, @ofText?_minus (Decimal.ofNat (m + 1)) Nat.toDigits_ne_nil hdigits,
        ofNumeral_digits hdigits, Decimal.value_ofNat, ofInt, Binary64.ofInt?,
        decide_eq_true (Int.negSucc_lt_zero m), Int.natAbs_negSucc]

end Extended
end SiteScript
