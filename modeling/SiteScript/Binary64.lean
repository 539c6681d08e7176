import SiteScript.Decimal

/-!
# SiteScript.Binary64

Finite double-precision numbers, as a sign, a significand and a power of two, computed with exactly:
no operation of the machine's floating point is used.

* **rounding** — `ofRatio` takes a quotient of natural numbers to the nearest double, a tie to the
  even significand; reading, multiplying and dividing are all one rounding of an exact quotient;
* **reading** — `Extended.ofText?` reads a decimal numeral, correctly rounded;
* **shortest digits** — `shortest` gives the fewest decimal digits that round back to the number, and
  of those the nearest to it.
-/

namespace SiteScript

/-- The number `± significand · 2 ^ exponent`.  Numbers made by this module have a significand below
`2 ^ 53` and an exponent of at least `-1074`, and the significand is at least `2 ^ 52` unless the
exponent is `-1074`; so every number has one form, apart from the sign of zero. -/
structure Binary64 where
  negative : Bool
  significand : Nat
  exponent : Int
deriving DecidableEq

namespace Binary64

/-- Two to a power. -/
def power (k : Nat) : Nat := Nat.pow 2 k

/-- Exponent of the smallest steps. -/
def minExponent : Int := -1074

/-- Exponent of the largest numbers. -/
def maxExponent : Int := 971

/-- Zero with the given sign. -/
def zero (negative : Bool) : Binary64 := ⟨negative, 0, minExponent⟩

/-- Whether the number is zero, of either sign. -/
def isZero (x : Binary64) : Bool := x.significand == 0

/-! ## Rounding -/

/-- `numerator / denominator` to the nearest natural number, a tie to the even one. -/
def divNearest (numerator denominator : Nat) : Nat :=
  let quotient := numerator / denominator
  let twice := 2 * (numerator % denominator)
  if twice < denominator then quotient
  else if twice > denominator then quotient + 1
  else if quotient % 2 == 0 then quotient else quotient + 1

/-- The quotient of two natural numbers by a power of two, as a quotient. -/
def scaleDown (numerator denominator : Nat) (exponent : Int) : Nat × Nat :=
  match exponent with
  | .ofNat k => (numerator, denominator * power k)
  | .negSucc k => (numerator * power (k + 1), denominator)

/-- The exponent at which a positive quotient has a significand of 53 bits, or the least exponent. -/
def exponentOf (numerator denominator : Nat) : Int :=
  let guess : Int := (numerator.log2 : Int) - denominator.log2 - 52
  let (n, d) := scaleDown numerator denominator guess
  let exponent := if n / d < power 52 then guess - 1 else guess
  max exponent minExponent

/-- The double nearest to a quotient, a tie to the even significand; none when it is too large. -/
def ofRatio (negative : Bool) (numerator denominator : Nat) : Option Binary64 :=
  if numerator == 0 then some (zero negative)
  else
    let exponent := exponentOf numerator denominator
    let (n, d) := scaleDown numerator denominator exponent
    let significand := divNearest n d
    let (significand, exponent) :=
      if significand == power 53 then (power 52, exponent + 1) else (significand, exponent)
    if exponent > maxExponent then none else some ⟨negative, significand, exponent⟩

/-- The magnitude as a quotient of natural numbers. -/
def ratio (x : Binary64) : Nat × Nat :=
  match x.exponent with
  | .ofNat k => (x.significand * power k, 1)
  | .negSucc k => (x.significand, power (k + 1))

/-- The double nearest to an integer; none when it is too large. -/
def ofInt? (n : Int) : Option Binary64 :=
  ofRatio (n < 0) n.natAbs 1

/-- The double nearest to a product. -/
def mul? (x y : Binary64) : Option Binary64 :=
  let (a, b) := x.ratio
  let (c, d) := y.ratio
  ofRatio (x.negative != y.negative) (a * c) (b * d)

/-- The double nearest to a quotient; none also for a divisor of zero. -/
def div? (x y : Binary64) : Option Binary64 :=
  let (a, b) := x.ratio
  let (c, d) := y.ratio
  if c == 0 then none else ofRatio (x.negative != y.negative) (a * d) (b * c)

/-- The double nearest to `digits · 10 ^ exponent`; none when it is too large. -/
def ofDecimal? (negative : Bool) (digits : Nat) (exponent : Int) : Option Binary64 :=
  match exponent with
  | .ofNat k => ofRatio negative (digits * Decimal.power k) 1
  | .negSucc k => ofRatio negative digits (Decimal.power (k + 1))

/-- Equal as numbers: the two zeros are one. -/
def numEq (x y : Binary64) : Bool :=
  x == y || (x.isZero && y.isZero)

/-! ## Shortest digits -/

/-- A decimal number `digits · 10 ^ exponent`. -/
structure DecimalForm where
  digits : Nat
  exponent : Int
deriving DecidableEq

/-- How many zeros are put behind a number of any size before its digits are counted: the smallest
positive double is above `10 ^ -324`. -/
def smallestShift : Nat := 400

/-- The power of ten of the leading digit of a positive number. -/
def leadingPower (x : Binary64) : Int :=
  let (n, d) := x.ratio
  ((Decimal.ofNat (n * Decimal.power smallestShift / d)).length : Int) - 1 - smallestShift

/-- Whether `digits · 10 ^ power` lies where the nearest double is `x`.  All ends are multiplied by
four and by a power of ten, so that they are whole. -/
def roundsTo (x : Binary64) (digits : Nat) (power : Int) : Bool :=
  let (n, d) := x.ratio
  let (up, down) := match power with
    | .ofNat k => (Decimal.power k, 1)
    | .negSucc k => (1, Decimal.power (k + 1))
  -- the step above the number, and the one below it, in quarters of its own unit
  let unit := n / x.significand
  let below := if x.significand == Binary64.power 52 && x.exponent > minExponent then unit else 2 * unit
  let low := (4 * n - below) * down
  let high := (4 * n + 2 * unit) * down
  let point := 4 * digits * up * d
  if x.significand % 2 == 0 then low ≤ point && point ≤ high
  else low < point && point < high

/-- Take trailing zeros off the digits. -/
def DecimalForm.normalize (fuel : Nat) (form : DecimalForm) : DecimalForm :=
  match fuel with
  | 0 => form
  | fuel + 1 =>
    if form.digits != 0 && form.digits % 10 == 0 then
      normalize fuel ⟨form.digits / 10, form.exponent + 1⟩
    else form

/-- The nearest number with the given count of digits that rounds back to `x`, if there is one. -/
def shortestWith? (x : Binary64) (leading : Int) (count : Nat) : Option DecimalForm :=
  let power : Int := leading - count + 1
  let (n, d) := x.ratio
  let (n, d) := match power with
    | .ofNat k => (n, d * Decimal.power k)
    | .negSucc k => (n * Decimal.power (k + 1), d)
  let floor := n / d
  let twice := 2 * (n % d)
  let nearFloor := twice < d || (twice == d && floor % 2 == 0)
  let (near, far) := if nearFloor then (floor, floor + 1) else (floor + 1, floor)
  if roundsTo x near power then some ⟨near, power⟩
  else if roundsTo x far power then some ⟨far, power⟩
  else none

/-- The fewest digits that round back to `x`, and of those the nearest. -/
def shortest (x : Binary64) : DecimalForm :=
  if x.isZero then ⟨0, 0⟩
  else
    let leading := leadingPower x
    match (List.range 17).findSome? fun i => shortestWith? x leading (i + 1) with
    | some form => form.normalize 20
    | none => ⟨x.significand, 0⟩

end Binary64

/-! ## Reading -/

/-- A number that a decimal numeral can stand for. -/
inductive Extended where
  | finite (value : Binary64)
  | infinite (negative : Bool)
  | notANumber
deriving DecidableEq

namespace Extended

/-- Digits, an optional point with more digits, and an optional exponent: the parts of a numeral. -/
structure Numeral where
  whole : List Char
  fraction : List Char
  exponent : Int

/-- Read the exponent that follows the mark `e`. -/
def exponent? (text : List Char) : Option Int :=
  match text with
  | '-' :: digits => (Decimal.ofDigits? digits).map fun n => -(n : Int)
  | '+' :: digits => (Decimal.ofDigits? digits).map Int.ofNat
  | digits => (Decimal.ofDigits? digits).map Int.ofNat

/-- Read a numeral: at least one digit before or after the point. -/
def numeral? (text : List Char) : Option Numeral :=
  let whole := text.takeWhile Char.isDigit
  let rest := text.dropWhile Char.isDigit
  let (fraction, rest) := match rest with
    | '.' :: after => (after.takeWhile Char.isDigit, after.dropWhile Char.isDigit)
    | _ => ([], rest)
  if whole.isEmpty && fraction.isEmpty then none
  else
    match rest with
    | [] => some ⟨whole, fraction, 0⟩
    | mark :: rest =>
      if mark == 'e' || mark == 'E' then (exponent? rest).map fun e => ⟨whole, fraction, e⟩
      else none

/-- The number a numeral denotes, correctly rounded.  Numerals far outside the range of doubles are
settled by their leading power alone. -/
def ofNumeral (negative : Bool) (numeral : Numeral) : Extended :=
  let digits := (numeral.whole ++ numeral.fraction).dropWhile (· == '0')
  let exponent := numeral.exponent - numeral.fraction.length
  let leading := exponent + digits.length
  if digits.isEmpty || leading < -400 then .finite (Binary64.zero negative)
  else if leading > 400 then .infinite negative
  else
    match Binary64.ofDecimal? negative (Decimal.value digits) exponent with
    | some x => .finite x
    | none => .infinite negative

/-- Read a signed decimal number, or one of the words for infinity and for no number. -/
def ofText? (text : List Char) : Option Extended :=
  let (negative, body) := match text with
    | '-' :: rest => (true, rest)
    | '+' :: rest => (false, rest)
    | _ => (false, text)
  let word := String.ofList (body.map Char.toLower)
  if word == "inf" || word == "infinity" then some (.infinite negative)
  else if word == "nan" then some .notANumber
  else (numeral? body).map (ofNumeral negative)

end Extended

end SiteScript
