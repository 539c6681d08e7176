/-!
# SiteScript.Decimal

Decimal digits: the number a list of digits denotes, unsigned numbers with an upper limit, and the
text of natural numbers and integers.
-/

namespace SiteScript.Decimal

/-- Ten to a power. -/
def power (k : Nat) : Nat := Nat.pow 10 k

/-- The value of one digit. -/
def digitValue (d : Char) : Nat :=
  d.toNat - '0'.toNat

/-- The number a list of digits denotes. -/
def value (digits : List Char) : Nat :=
  digits.foldl (fun n d => 10 * n + digitValue d) 0

/-- The number written in a text that consists of digits and has at least one. -/
def ofDigits? (text : List Char) : Option Nat :=
  if !text.isEmpty && text.all Char.isDigit then some (value text) else none

/-- An unsigned number of at most the given size, with an optional plus sign. -/
def unsigned? (largest : Nat) (text : List Char) : Option Nat :=
  let digits := match text with
    | '+' :: rest => rest
    | _ => text
  (ofDigits? digits).filter (· ≤ largest)

/-- The digits of a natural number. -/
def ofNat (n : Nat) : List Char :=
  Nat.toDigits 10 n

/-- The digits of an integer, after a minus sign when it is negative. -/
def ofInt : Int → List Char
  | .ofNat n => ofNat n
  | .negSucc n => '-' :: ofNat (n + 1)

/-- The decimal text of a natural number. -/
def text (n : Nat) : String :=
  String.ofList (ofNat n)

end SiteScript.Decimal
