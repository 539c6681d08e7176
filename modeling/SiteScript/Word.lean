/-!
# SiteScript.Word

The numbers that fit in words of so many bits.
-/

namespace SiteScript.Word

/-- How many values a word has. -/
def values (bits : Nat) : Nat := Nat.pow 2 bits

/-- The largest number of a word without a sign. -/
def maxUnsigned (bits : Nat) : Nat := values bits - 1

/-- The smallest number of a word with a sign. -/
def minSigned (bits : Nat) : Int := -(values (bits - 1) : Int)

/-- The largest number of a word with a sign. -/
def maxSigned (bits : Nat) : Int := (values (bits - 1) : Int) - 1

/-- Whether a number fits in a word with a sign. -/
def fitsSigned (bits : Nat) (n : Int) : Bool := minSigned bits ≤ n && n ≤ maxSigned bits

end SiteScript.Word
