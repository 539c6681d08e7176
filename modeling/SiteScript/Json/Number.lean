import SiteScript.Binary64
import SiteScript.Word

/-!
# SiteScript.Json.Number

Numbers of a record.  A numeral without point and exponent that fits into 64 bits, with or without
sign, is an integer; every other numeral is a double.

A numeral is read in two steps.  Its leading digits are gathered into a significand of 64 bits, and
the rest only counts towards the power of ten; then the significand is multiplied or divided by that
power (`scale?`).  Each step rounds, so the result may be a neighbour of the nearest double, and a
numeral beyond the range of doubles is refused.
-/

namespace SiteScript

/-- A number of a record. -/
inductive Number where
  | int (value : Int)
  | real (value : Binary64)
deriving DecidableEq

namespace Number

/-- The parts of a numeral as it is written. -/
structure Token where
  negative : Bool
  whole : List Char
  /-- The digits after the point, if there is one. -/
  fraction : Option (List Char)
  /-- The sign (negative or not) and the digits of the exponent, if there is one. -/
  exponent : Option (Bool × List Char)
deriving DecidableEq

/-- The largest significand. -/
def maxSignificand : Nat := Word.maxUnsigned 64

/-- The largest exponent that is computed with. -/
def maxPower : Nat := Word.maxUnsigned 31

/-- Take digits into the significand while it stays in range.  Gives the significand, how many digits
were taken and how many were left. -/
def gather (significand : Nat) : List Char → Nat × Nat × Nat
  | [] => (significand, 0, 0)
  | d :: digits =>
    let next := 10 * significand + Decimal.digitValue d
    if next > maxSignificand then (significand, 0, digits.length + 1)
    else
      let (significand, taken, left) := gather next digits
      (significand, taken + 1, left)

/-- The double nearest to a power of ten within the range of doubles. -/
def powerOfTen? (k : Nat) : Option Binary64 :=
  if k ≤ 308 then Binary64.ofRatio false (Decimal.power k) 1 else none

/-- Multiply a double by a power of ten.  A power below the table is taken in steps of `10 ^ -308`,
and two steps bring every significand of 64 bits to zero; a power above the table is too large unless
the number is zero. -/
def scaleWith? : Nat → Binary64 → Int → Option Binary64
  | 0, x, _ => some x
  | steps + 1, x, power =>
    if x.isZero then some x
    else if power < -308 then
      ((powerOfTen? 308).bind x.div?).bind fun y => scaleWith? steps y (power + 308)
    else if power < 0 then (powerOfTen? power.natAbs).bind x.div?
    else (powerOfTen? power.natAbs).bind x.mul?

/-- Multiply the double of a significand by a power of ten. -/
def scale? (x : Binary64) (power : Int) : Option Binary64 :=
  scaleWith? 4 x power

/-- A number of 32 bits nearest to an integer. -/
def clampPower (n : Int) : Int :=
  max (Word.minSigned 32) (min n (Word.maxSigned 32))

/-- The double a numeral denotes. -/
def Token.real? (token : Token) : Option Binary64 :=
  let (significand, _, left) := gather 0 token.whole
  let (significand, taken, _) := match token.fraction with
    | some digits => gather significand digits
    | none => (significand, 0, 0)
  let power : Int := (left : Int) - taken
  let magnitude := match token.exponent with
    | none => (Binary64.ofRatio false significand 1).bind fun x => scale? x power
    | some (negative, digits) =>
      let n := Decimal.value digits
      if n > maxPower then
        if significand != 0 && !negative then none else some (Binary64.zero false)
      else
        let power := clampPower (if negative then power - n else power + n)
        (Binary64.ofRatio false significand 1).bind fun x => scale? x power
  magnitude.map fun x => { x with negative := token.negative }

/-- The number a numeral denotes. -/
def Token.number? (token : Token) : Option Number :=
  let n := Decimal.value token.whole
  if token.fraction.isNone && token.exponent.isNone then
    if !token.negative && n ≤ maxSignificand then some (.int n)
    else if token.negative && n != 0 && n ≤ Word.values 63 then some (.int (-(n : Int)))
    else token.real?.map .real
  else token.real?.map .real

/-- The value as a double: integers are rounded. -/
def toReal? : Number → Option Binary64
  | .int n => Binary64.ofInt? n
  | .real x => some x

/-! ## Text -/

/-- How doubles are written: positionally while the leading power of ten lies between these bounds,
with at least one digit after the point; otherwise with a signed exponent. -/
def positionalRange : Int × Int := (-5, 15)

/-- The decimal digits of a double, placed. -/
def realText (x : Binary64) : List Char :=
  let form := x.shortest
  let digits := Decimal.ofNat form.digits
  let leading : Int := form.exponent + digits.length - 1
  let body :=
    if x.isZero then ['0', '.', '0']
    else if positionalRange.1 ≤ leading && leading ≤ positionalRange.2 then
      if form.exponent ≥ 0 then
        digits ++ List.replicate form.exponent.natAbs '0' ++ ['.', '0']
      else if leading ≥ 0 then
        let whole := leading.natAbs + 1
        digits.take whole ++ '.' :: digits.drop whole
      else
        '0' :: '.' :: (List.replicate (leading.natAbs - 1) '0' ++ digits)
    else
      let fraction := match digits with
        | [] => []
        | [d] => [d]
        | d :: rest => d :: '.' :: rest
      fraction ++ 'e' :: (if leading < 0 then '-' else '+') :: Decimal.ofNat leading.natAbs
  if x.negative then '-' :: body else body

/-- The text of a number. -/
def text : Number → List Char
  | .int n => Decimal.ofInt n
  | .real x => realText x

end Number

end SiteScript
