import SiteScript.Bytes
import SiteScript.Cipher.Sha512

/-!
# SiteScript.Cipher.Curve

Keys on curves: a key leads to a multiple of a point, which is its public part.

* `Residue` — arithmetic with remainders by a prime.  The inverse of a remainder is its power by the
  prime less two.
* `Curve` — curves `y² = x³ - 3x + b`.  Points are added by the line through them; the sum of a point
  and its mirror image is `none`, which stands for the point at infinity.  A key is a number.
* `Edwards` — the curve `y² - x² = 1 + d·x²·y²` over the prime `2²⁵⁵ - 19`.  A key is a seed of 32 bytes:
  half of its digest, with some bits set and others cleared, is the number.
-/

/-! ## Remainders by a prime -/

namespace SiteScript.Residue

/-- The binary digits of a number, the lowest first; at most so many. -/
def bits : Nat → Nat → List Bool
  | 0, _ => []
  | fuel + 1, n => if n = 0 then [] else (n % 2 == 1) :: bits fuel (n / 2)

/-- A power, by the binary digits of the exponent. -/
def powerBits (prime base : Nat) : List Bool → Nat
  | [] => 1
  | bit :: rest =>
    let half := powerBits prime (base * base % prime) rest
    if bit then half * base % prime else half

/-- A power. -/
def power (prime base exponent : Nat) : Nat :=
  powerBits prime (base % prime) (bits (exponent.log2 + 1) exponent)

/-- The difference of two remainders. -/
def minus (prime a b : Nat) : Nat := (a + prime - b % prime) % prime

/-- The inverse of a remainder. -/
def inverse (prime a : Nat) : Nat := power prime a (prime - 2)

/-- The quotient of two remainders. -/
def divide (prime a b : Nat) : Nat := a * inverse prime b % prime

end SiteScript.Residue

/-! ## Curves with a point at infinity -/

namespace SiteScript

/-- A curve with a point on it. -/
structure Curve where
  prime : Nat
  /-- The last coefficient. -/
  b : Nat
  /-- The coordinates of the point. -/
  x : Nat
  y : Nat
  /-- How many multiples the point has. -/
  order : Nat
  /-- The size of a number in bytes. -/
  size : Nat

namespace Curve

variable (curve : Curve)

/-- A point of a curve; none is the point at infinity. -/
abbrev Point := Option (Nat × Nat)

/-- The third point on a line with a slope through two points, mirrored. -/
def along (slope x1 y1 x2 : Nat) : Point :=
  let p := curve.prime
  let x := Residue.minus p (slope * slope) (x1 + x2)
  some (x, Residue.minus p (slope * Residue.minus p x1 x) y1)

/-- The sum of two points. -/
def add : Point → Point → Point
  | none, other => other
  | point, none => point
  | some (x1, y1), some (x2, y2) =>
    let p := curve.prime
    if x1 = x2 then
      if y1 = y2 && y1 != 0 then
        let slope := Residue.divide p (Residue.minus p (3 * x1 * x1) 3) (2 * y1)
        curve.along slope x1 y1 x2
      else none
    else
      let slope := Residue.divide p (Residue.minus p y2 y1) (Residue.minus p x2 x1)
      curve.along slope x1 y1 x2

/-- A multiple of a point, by the binary digits of the factor. -/
def times (point : Point) : List Bool → Point
  | [] => none
  | bit :: rest =>
    let more := times (curve.add point point) rest
    if bit then curve.add point more else more

/-- The multiple of the point of a curve. -/
def multiple (factor : Nat) : Point :=
  curve.times (some (curve.x, curve.y)) (Residue.bits (factor.log2 + 1) factor)

/-- A point as it is written: a mark, and both coordinates with the highest byte first. -/
def write (point : Nat × Nat) : Bytes :=
  4 :: Bytes.bigEndian curve.size point.1 ++ Bytes.bigEndian curve.size point.2

/-- The public part of a key; none unless the key is a factor that leads to a point. -/
def publicOf? (key : Nat) : Option Bytes :=
  if key = 0 || curve.order ≤ key then none else (curve.multiple key).map curve.write

/-- The curve over a prime of 256 bits. -/
def p256 : Curve where
  prime := 0xffffffff00000001000000000000000000000000ffffffffffffffffffffffff
  b := 0x5ac635d8aa3a93e7b3ebbd55769886bc651d06b0cc53b0f63bce3c3e27d2604b
  x := 0x6b17d1f2e12c4247f8bce6e563a440f277037d812deb33a0f4a13945d898c296
  y := 0x4fe342e2fe1a7f9b8ee7eb4a7c0f9e162bce33576b315ececbb6406837bf51f5
  order := 0xffffffff00000000ffffffffffffffffbce6faada7179e84f3b9cac2fc632551
  size := 32

/-- The curve over a prime of 384 bits. -/
def p384 : Curve where
  prime := 0xfffffffffffffffffffffffffffffffffffffffffffffffffffffffffffffffeffffffff0000000000000000ffffffff
  b := 0xb3312fa7e23ee7e4988e056be3f82d19181d9c6efe8141120314088f5013875ac656398d8a2ed19d2a85c8edd3ec2aef
  x := 0xaa87ca22be8b05378eb1c71ef320ad746e1d3b628ba79b9859f741e082542a385502f25dbf55296c3a545e3872760ab7
  y := 0x3617de4a96262c6f5d9e98bf9292dc29f8f41dbd289a147ce9da3113b5f0b8c00a60b1ce1d7e819d7a431d7c90ea0e5f
  order := 0xffffffffffffffffffffffffffffffffffffffffffffffffc7634d81f4372ddf581a0db248b0a77aecec196accc52973
  size := 48

end Curve

end SiteScript

/-! ## The Edwards curve -/

namespace SiteScript.Edwards

/-- The prime. -/
def prime : Nat := 0x7fffffffffffffffffffffffffffffffffffffffffffffffffffffffffffffed

/-- The coefficient of the curve. -/
def coefficient : Nat := 0x52036cee2b6ffe738cc740797779e89800700a4d4141d8ab75eb4dca135978a3

/-- A point of the curve. -/
abbrev Point := Nat × Nat

/-- The point that makes no difference in a sum. -/
def neutral : Point := (0, 1)

/-- The point whose multiples are the public parts of keys. -/
def base : Point :=
  (0x216936d3cd6e53fec0a4e231fdd6dc5c692cc7609525a7b2c9562d608f25d51a,
    0x6666666666666666666666666666666666666666666666666666666666666658)

/-- The sum of two points. -/
def add (first second : Point) : Point :=
  let (x1, y1) := first
  let (x2, y2) := second
  let product := coefficient * (x1 * x2 % prime * (y1 * y2 % prime) % prime) % prime
  (Residue.divide prime ((x1 * y2 + x2 * y1) % prime) (1 + product),
    Residue.divide prime ((y1 * y2 + x1 * x2) % prime) (Residue.minus prime 1 product))

/-- A multiple of a point, by the binary digits of the factor. -/
def times (point : Point) : List Bool → Point
  | [] => neutral
  | bit :: rest =>
    let more := times (add point point) rest
    if bit then add point more else more

/-- The factor that a seed stands for: the lowest three bits and the highest are cleared, and the one
below the highest is set. -/
def factor (seed : Bytes) : Nat :=
  let n := Bytes.ofLittleEndian ((Sha512.digest seed).take 32)
  let high := 0x4000000000000000000000000000000000000000000000000000000000000000
  n % high / 8 * 8 + high

/-- A point as it is written: its second coordinate, with the highest bit telling whether the first is
odd. -/
def write (point : Point) : Bytes :=
  let high := 0x8000000000000000000000000000000000000000000000000000000000000000
  Bytes.littleEndian 32 (point.2 + (if point.1 % 2 = 1 then high else 0))

/-- The public part of a key. -/
def publicOf (seed : Bytes) : Bytes := write (times base (Residue.bits 255 (factor seed)))

end SiteScript.Edwards
