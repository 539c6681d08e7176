import SiteScript.Hex
import SiteScript.Word

/-!
# SiteScript.IdSupply

Where fresh identifiers come from.  A supply is a numbered sequence of texts and how many of them have
been handed out; a supply is `Fresh` when no text occurs twice in it, so that no identifier is ever
handed out again.
-/

namespace SiteScript

/-- A sequence of identifiers and how many of them have been drawn. -/
structure IdSupply where
  /-- The identifier with a number. -/
  id : Nat → String
  drawn : Nat

namespace IdSupply

/-- No identifier occurs twice. -/
def Fresh (supply : IdSupply) : Prop :=
  ∀ i j, supply.id i = supply.id j → i = j

/-- Draw the next identifier. -/
def draw (supply : IdSupply) : String × IdSupply :=
  (supply.id supply.drawn, { supply with drawn := supply.drawn + 1 })

/-- The last hexadecimal digits of a number, as many as asked for. -/
def digits (count n : Nat) : String :=
  String.ofList ((List.range count).reverse.map fun i => Nat.digitChar (n / Nat.pow 16 i % 16))

/-- The identifier of a number within the identifiers of a seed: five groups of digits, of which the
third tells that the identifier is a random one. -/
def uuid (seed n : Nat) : String :=
  digits 8 seed ++ "-" ++ digits 4 (seed / Word.values 32) ++ "-4" ++ digits 3 (seed / Word.values 48) ++ "-8" ++
    digits 3 (seed / Word.values 60) ++ "-" ++ digits 12 n

/-- The identifiers of a seed. -/
def ofSeed (seed : Nat) : IdSupply := ⟨uuid seed, 0⟩

end IdSupply

end SiteScript
