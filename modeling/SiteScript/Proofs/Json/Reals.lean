import SiteScript.Proofs.Json.Numerals

/-!
# SiteScript.Proofs.Json.Reals

The text of a real is a numeral, and never the numeral of an integer: it has a point or an exponent
(`scanNumber_realText`).  What is to be seen is that the digits before the point do not begin with a
zero that others follow; they would only if the shortest digits of a number were zero, and no number
but zero is what zero rounds to (`roundsTo_zero`, `digits_shortest_ne_zero`). -/

namespace SiteScript

/-! ## The shortest digits -/

namespace Binary64

/-- The unit of the last bit, in the quotient that a number is. -/
theorem ratio_eq (x : Binary64) : ∃ unit d, 0 < unit ∧ x.ratio = (x.significand * unit, d) := by
  rw [ratio]
  cases x.exponent with
  | ofNat k => exact ⟨power k, 1, Nat.pow_pos (by decide), rfl⟩
  | negSucc k => exact ⟨1, power (k + 1), Nat.one_pos, by rw [Nat.mul_one]⟩

/-- A range with a positive lower end does not hold zero. -/
theorem not_within_zero {low high : Nat} (h : 0 < low) (p : Prop) [Decidable p] :
    (if p then decide (low ≤ 0) && decide (0 ≤ high)
      else decide (low < 0) && decide (0 < high)) = false := by
  have hle : ¬ low ≤ 0 := Nat.not_le_of_lt h
  simp [hle]

/-- No number but zero is what zero rounds to. -/
theorem roundsTo_zero {x : Binary64} (h : x.significand ≠ 0) (exponent : Int) :
    x.roundsTo 0 exponent = false := by
  obtain ⟨unit, d, hunit, hratio⟩ := x.ratio_eq
  have hpos : 0 < x.significand := Nat.pos_of_ne_zero h
  have hmul : unit ≤ x.significand * unit := Nat.le_mul_of_pos_left unit hpos
  -- the lower end of what rounds to the number is above zero
  have hlow : ∀ {below down : Nat}, below ≤ 2 * unit → 0 < down →
      0 < (4 * (x.significand * unit) - below) * down :=
    fun hbelow hdown => Nat.mul_pos (by omega) hdown
  have hbelow : (if (x.significand == power 52 && decide (x.exponent > minExponent)) = true
      then unit else 2 * unit) ≤ 2 * unit := by split <;> omega
  cases exponent with
  | ofNat k =>
    simp only [roundsTo, hratio, Nat.mul_zero, Nat.zero_mul, Nat.mul_div_cancel_left unit hpos]
    exact not_within_zero (hlow hbelow Nat.one_pos) _
  | negSucc k =>
    simp only [roundsTo, hratio, Nat.mul_zero, Nat.zero_mul, Nat.mul_div_cancel_left unit hpos]
    exact not_within_zero (hlow hbelow (Nat.pow_pos (by decide))) _

/-- The digits of a given count are one of two neighbours, whichever rounds to the number. -/
theorem shortestWith?_eq (x : Binary64) (leading : Int) (count : Nat) :
    ∃ near far power, x.shortestWith? leading count =
      if x.roundsTo near power then some ⟨near, power⟩
      else if x.roundsTo far power then some ⟨far, power⟩ else none :=
  ⟨_, _, _, rfl⟩

theorem digits_shortestWith? {x : Binary64} (h : x.significand ≠ 0) {leading : Int} {count : Nat}
    {form : DecimalForm} (hform : x.shortestWith? leading count = some form) : form.digits ≠ 0 := by
  obtain ⟨near, far, power, heq⟩ := x.shortestWith?_eq leading count
  have hne : ∀ {digits}, x.roundsTo digits power = true → digits ≠ 0 := by
    rintro _ hrounds rfl
    rw [roundsTo_zero h] at hrounds
    cases hrounds
  rw [heq] at hform
  split at hform
  next hnear =>
    cases hform
    exact hne hnear
  split at hform
  next hfar =>
    cases hform
    exact hne hfar
  next => cases hform

theorem DecimalForm.digits_normalize {form : DecimalForm} (h : form.digits ≠ 0) (fuel : Nat) :
    (form.normalize fuel).digits ≠ 0 := by
  induction fuel generalizing form with
  | zero => exact h
  | succ fuel ih =>
    rw [normalize]
    split
    next htens =>
      simp only [Bool.and_eq_true, bne_iff_ne, beq_iff_eq] at htens
      refine ih ?_
      show form.digits / 10 ≠ 0
      omega
    next => exact h

/-- Only zero has nothing but a zero for its shortest digits. -/
theorem digits_shortest_ne_zero {x : Binary64} (h : x.isZero = false) : x.shortest.digits ≠ 0 := by
  have hne : x.significand ≠ 0 := by simpa [isZero] using h
  rw [shortest, h]
  simp only [Bool.false_eq_true, if_false]
  split
  next form hfound =>
    obtain ⟨count, -, hform⟩ := List.exists_of_findSome?_eq_some hfound
    exact DecimalForm.digits_normalize (digits_shortestWith? hne hform) 20
  next => exact hne

end Binary64

namespace Json

/-! ## The text of a real -/

/-- A numeral that is read to its end and is no integer's: it has a point or an exponent. -/
def ScansReal (negative : Bool) (text : List Char) : Prop :=
  ∃ token, scanUnsigned negative text = some (token, []) ∧
    (token.fraction.isNone && token.exponent.isNone) = false

theorem scansReal_point {whole digits : List Char} (hwhole : IsWhole whole) (hne : digits ≠ [])
    (hdigits : ∀ c ∈ digits, c.isDigit = true) (negative : Bool) :
    ScansReal negative (whole ++ '.' :: digits) := by
  have hscan := @scanUnsigned_point _ _ [] _ hwhole hne hdigits nofun rfl negative
  rw [List.append_nil] at hscan
  exact ⟨_, hscan, rfl⟩

section Exponent

variable {d : Char} (hd : d.isDigit = true) (negative sign : Bool) (n : Nat)

include hd

theorem isWhole_digit : IsWhole [d] := by
  by_cases hzero : d = '0'
  · exact .inl (by rw [hzero])
  · exact .inr ⟨List.cons_ne_nil _ _, by simpa using hd, by simpa using hzero⟩

/-- One digit and an exponent. -/
theorem scansReal_exponent :
    ScansReal negative (d :: 'e' :: (if sign then '-' else '+') :: Decimal.ofNat n) := by
  have hscan := scanWhole_digits (isDigit_mark sign n) (isWhole_digit hd)
  refine ⟨⟨negative, [d], none, some (sign, Decimal.ofNat n)⟩, ?_, rfl⟩
  rw [scanUnsigned, show d :: 'e' :: (if sign then '-' else '+') :: Decimal.ofNat n =
    [d] ++ 'e' :: (if sign then '-' else '+') :: Decimal.ofNat n from rfl, hscan]
  simp [scanFraction, scanExponent_ofNat]

/-- One digit, others after a point, and an exponent. -/
theorem scansReal_point_exponent {digits : List Char} (hne : digits ≠ [])
    (hdigits : ∀ c ∈ digits, c.isDigit = true) :
    ScansReal negative
      (d :: '.' :: (digits ++ 'e' :: (if sign then '-' else '+') :: Decimal.ofNat n)) :=
  ⟨_, scanUnsigned_point (isWhole_digit hd) hne hdigits (isDigit_mark sign n)
    (scanExponent_ofNat sign n) negative, rfl⟩

end Exponent

section Placed

variable {digits : List Char} (hne : digits ≠ []) (hdigits : ∀ c ∈ digits, c.isDigit = true)

include hne hdigits

/-- Digits with the point at its place, and zeros up to there. -/
theorem scansReal_placed (hhead : digits.head? ≠ some '0') (exponent : Int) (negative : Bool) :
    ScansReal negative
      (if exponent ≥ 0 then digits ++ List.replicate exponent.natAbs '0' ++ ['.', '0']
      else if exponent + digits.length - 1 ≥ 0 then
        digits.take ((exponent + digits.length - 1).natAbs + 1) ++
          '.' :: digits.drop ((exponent + digits.length - 1).natAbs + 1)
      else '0' :: '.' ::
        (List.replicate ((exponent + digits.length - 1).natAbs - 1) '0' ++ digits)) := by
  have hzeros : ∀ n, ∀ c ∈ List.replicate n '0', c.isDigit = true := by
    intro n c hc
    rw [List.eq_of_mem_replicate hc]
    rfl
  split
  next =>
    -- all digits stand before the point, and perhaps zeros after them
    have hwhole : IsWhole (digits ++ List.replicate exponent.natAbs '0') := by
      refine .inr ⟨by simp [hne], fun c hc => ?_, ?_⟩
      · exact (List.mem_append.1 hc).elim (hdigits c) (hzeros _ c)
      · rwa [List.head?_append, List.head?_eq_some_head hne, Option.some_or,
          ← List.head?_eq_some_head hne]
    exact scansReal_point hwhole (by simp) (hzeros 1) negative
  next hexponent =>
    split
    next hleading =>
      -- the point stands between the digits
      have hwhole : IsWhole (digits.take ((exponent + digits.length - 1).natAbs + 1)) := by
        refine .inr ⟨by simpa using hne, fun c hc => hdigits c (List.mem_of_mem_take hc), ?_⟩
        rwa [List.head?_take, if_neg (Nat.succ_ne_zero _)]
      refine scansReal_point hwhole ?_ (fun c hc => hdigits c (List.mem_of_mem_drop hc)) negative
      intro hnil
      have hlength := congrArg List.length hnil
      rw [List.length_drop, List.length_nil] at hlength
      omega
    next =>
      -- the digits follow a zero, the point and perhaps more zeros
      exact scansReal_point (.inl rfl) (by simp [hne])
        (fun c hc => (List.mem_append.1 hc).elim (hzeros _ c) (hdigits c)) negative

end Placed

/-- The text of a real is a sign and a numeral that is no integer's. -/
theorem exists_realText (x : Binary64) :
    ∃ body, Number.realText x = (if x.negative then '-' :: body else body) ∧
      ∀ negative, ScansReal negative body := by
  refine ⟨_, rfl, fun negative => ?_⟩
  have hshortest := @Binary64.digits_shortest_ne_zero x
  have hdigits : ∀ c ∈ Decimal.ofNat x.shortest.digits, c.isDigit = true :=
    fun c hc => Decimal.isDigit_of_mem_ofNat hc
  have hne : Decimal.ofNat x.shortest.digits ≠ [] := Nat.toDigits_ne_nil
  have hhead := @Decimal.head?_ofNat x.shortest.digits
  generalize Decimal.ofNat x.shortest.digits = digits at hdigits hne hhead
  split
  · exact scansReal_point (.inl rfl) (by simp) (by simp [Char.isDigit]) negative
  next hzero =>
    split
    next =>
      exact scansReal_placed hne hdigits (hhead (hshortest (by simpa using hzero))) _ negative
    next =>
      -- one digit, perhaps others after a point, and the exponent
      obtain ⟨d, rest, rfl⟩ := List.exists_cons_of_ne_nil hne
      have hd := hdigits d List.mem_cons_self
      have hsign : ∀ n : Int, (if n < 0 then '-' else '+') =
          if decide (n < 0) then '-' else '+' := by simp
      simp only [hsign]
      match rest with
      | [] => exact scansReal_exponent hd negative _ _
      | next :: rest =>
        exact scansReal_point_exponent hd negative _ _ (List.cons_ne_nil _ _)
          fun c hc => hdigits c (List.mem_cons_of_mem d hc)

/-- **The text of a real is read to its end**, as a numeral with a point or an exponent. -/
theorem scanNumber_realText (x : Binary64) :
    ∃ token, scanNumber (Number.realText x) = some (token, []) ∧
      (token.fraction.isNone && token.exponent.isNone) = false := by
  obtain ⟨body, htext, hbody⟩ := exists_realText x
  obtain ⟨token, hscan, hreal⟩ := hbody x.negative
  refine ⟨token, ?_, hreal⟩
  rw [htext]
  cases hsign : x.negative with
  | true =>
    rw [hsign] at hscan
    exact hscan
  | false =>
    rw [hsign] at hscan
    -- the numeral has a digit before its point, so it does not begin with a minus sign
    match body with
    | [] => cases hscan
    | c :: text =>
      have hminus : c ≠ '-' := by
        rintro rfl
        cases hscan
      rw [if_neg Bool.false_ne_true, scanNumber_unsigned hminus, hscan]

/-- The text of a number is read to its end. -/
theorem exists_scanNumber_text (n : Number) : ∃ token, scanNumber n.text = some (token, []) := by
  cases n with
  | int n => exact ⟨_, scanNumber_ofInt n⟩
  | real x =>
    obtain ⟨token, hscan, -⟩ := scanNumber_realText x
    exact ⟨token, hscan⟩

end Json

end SiteScript
