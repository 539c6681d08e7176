import SiteScript.Rehearsal.Shell.Tool.Print

/-!
# SiteScript.Rehearsal.Shell.Records.Number

Numbers of record programs: doubles of the machine.  Their digits are made from their exact value, which
`Number.exact` takes from the bits.  The number at the beginning of a text is read by `Number.ofText`; a
text can look like a number as a whole (`Number.ofWhole?`).
-/

namespace SiteScript.Rehearsal.Shell.Records

namespace Number

/-! ## Exact values -/

/-- The exact value of a number. -/
def exact (x : Float) : Extended :=
  let bits := x.toBits.toNat
  let negative := bits / Binary64.power 63 = 1
  let exponent := bits / Binary64.power 52 % 2048
  let fraction := bits % Binary64.power 52
  if exponent = 2047 then if fraction = 0 then .infinite negative else .notANumber
  else if exponent = 0 then .finite ⟨negative, fraction, Binary64.minExponent⟩
  else .finite ⟨negative, fraction + Binary64.power 52, (exponent : Int) - 1075⟩

/-- The number with an exact value. -/
def ofExact : Extended → Float
  | .finite value =>
    let magnitude := Float.scaleB (Float.ofNat value.significand) value.exponent
    if value.negative then -magnitude else magnitude
  | .infinite negative => if negative then -(1.0 / 0.0) else 1.0 / 0.0
  | .notANumber => 0.0 / 0.0

/-- The integer that a number is. -/
def integer? (x : Float) : Option Int :=
  match exact x with
  | .finite value =>
    let (n, d) := value.ratio
    if n % d = 0 then some (if value.negative then -((n / d : Nat) : Int) else (n / d : Nat)) else none
  | _ => none

/-- The integer part of a number, within the bounds of machine words. -/
def truncated (x : Float) : Int :=
  match exact x with
  | .finite value =>
    let (n, d) := value.ratio
    let whole : Int := if value.negative then -((n / d : Nat) : Int) else (n / d : Nat)
    max (-9223372036854775808) (min whole 18446744073709551615)
  | .infinite negative => if negative then -9223372036854775808 else 18446744073709551615
  | .notANumber => -9223372036854775808

/-! ## Reading -/

/-- The value of a hexadecimal digit. -/
def hexValue? (c : Char) : Option Nat :=
  if c.isDigit then some (c.toNat - 48)
  else
    let low := c.toLower
    if 'a' ≤ low && low ≤ 'f' then some (low.toNat - 87) else none

/-- The number at the beginning of a text without a sign, and how many characters it has. -/
def unsignedStart? (text : Octets) : Option (Float × Nat) :=
  let word (name : String) : Bool := (text.take name.length).map Char.toLower == name.toList
  match text with
  | '0' :: c :: rest =>
    let digits := rest.takeWhile fun c => (hexValue? c).isSome
    if (c == 'x' || c == 'X') && !digits.isEmpty then
      let value := digits.foldl (fun n c => 16 * n + (hexValue? c).getD 0) 0
      some (Float.ofNat value, 2 + digits.length)
    else decimal text
  | _ =>
    if word "infinity" then some (1.0 / 0.0, 8)
    else if word "inf" then some (1.0 / 0.0, 3)
    else if word "nan" then some (0.0 / 0.0, 3)
    else decimal text
where
  /-- The decimal number at the beginning of a text. -/
  decimal (text : Octets) : Option (Float × Nat) :=
    let whole := text.takeWhile Char.isDigit
    let rest := text.drop whole.length
    let fraction := match rest with
      | '.' :: digits => digits.takeWhile Char.isDigit
      | _ => []
    let point := if rest.head? == some '.' then 1 else 0
    if whole.isEmpty && fraction.isEmpty then none
    else
      let length := whole.length + point + fraction.length
      let (exponent, extra) := match text.drop length with
        | mark :: more =>
          if mark == 'e' || mark == 'E' then
            let (sign, digits) := match more with
              | '-' :: digits => (1, digits.takeWhile Char.isDigit)
              | '+' :: digits => (1, digits.takeWhile Char.isDigit)
              | digits => (0, digits.takeWhile Char.isDigit)
            if digits.isEmpty then ((0 : Int), 0)
            else
              let n : Int := Decimal.value digits
              (if more.head? == some '-' then -n else n, 1 + sign + digits.length)
          else (0, 0)
        | [] => (0, 0)
      some (ofExact (Extended.ofNumeral false ⟨whole, fraction, exponent⟩), length + extra)

/-- The number at the beginning of a text, after blanks and a sign, and how many characters they have. -/
def start? (text : Octets) : Option (Float × Nat) :=
  let blanks := text.takeWhile Octets.isSpace
  match text.drop blanks.length with
  | '-' :: rest => (unsignedStart? rest).map fun (x, n) => (-x, blanks.length + 1 + n)
  | '+' :: rest => (unsignedStart? rest).map fun (x, n) => (x, blanks.length + 1 + n)
  | rest => (unsignedStart? rest).map fun (x, n) => (x, blanks.length + n)

/-- The number that a text stands for: the one it begins with, or zero. -/
def ofText (text : Octets) : Float := ((start? text).map (·.1)).getD 0.0

/-- The number that a whole text looks like, with blanks around it. -/
def ofWhole? (text : Octets) : Option Float :=
  let isBlank (c : Char) : Bool := Octets.isSpace c && c != '\n'
  let body := Text.dropEndWhile isBlank (text.dropWhile isBlank)
  let begins := body.head?.any fun c => c.isDigit || c == '.' || c == '-' || c == '+'
  let ends := body.getLast?.any fun c => c.isDigit || c == '.'
  if begins && ends then
    match start? body with
    | some (x, n) => if n = body.length then some x else none
    | none => none
  else none

/-! ## Writing -/

/-- A number without a fraction as it is written. -/
def integerText? (x : Float) : Option Octets := do
  let n ← integer? x
  if -9223372036854775808 ≤ n && n ≤ 18446744073709551616 then
    return Decimal.ofInt (min n 18446744073709551615)
  else none

/-- A number with a fraction in its place of a format. -/
def realText (slot : Slot) (letter : Char) (x : Float) : Octets :=
  match exact x with
  | .finite value => slot.real letter value
  | .infinite negative =>
    { slot with flags := slot.flags.filter (· != '0') }.padNumber false (slot.sign negative) "inf".toList
  | .notANumber => { slot with flags := slot.flags.filter (· != '0') }.pad "-nan".toList

end Number

end SiteScript.Rehearsal.Shell.Records
