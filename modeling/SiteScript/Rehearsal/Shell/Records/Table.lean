import SiteScript.Rehearsal.Shell.Records.Value

/-!
# SiteScript.Rehearsal.Shell.Records.Table

The tables of record programs: values by key.  A key is a text; one that is given as a whole number is
found by its number.

The order in which the keys of a table are gone through comes from how they are kept: in chains, which a
key belongs to by a sum over its characters, and in which the key that was used last stands first
(`Table.keys`).  Keys that were given as numbers are in chains of their own until their texts are needed.
-/

namespace SiteScript.Rehearsal.Shell.Records

/-- A key, as it is given. -/
inductive Key where
  | number (n : Int)
  | text (name : Octets)

/-- The text of a key. -/
def Key.name : Key → Octets
  | .number n => Decimal.ofInt n
  | .text name => name

/-- The key that a value stands for.  Numbers with a fraction become texts by a format. -/
def Key.ofValue (form : Octets) (value : Value) : Key :=
  match value with
  | .number x =>
    match Number.integer? x with
    | some n =>
      if -2147483648 < n && n < 2147483648 then .number n else .text (value.toText form)
    | none => .text (value.toText form)
  | value => .text (value.toText form)

/-- A table. -/
structure Table where
  values : List (Octets × Value) := []
  /-- The keys in chains by text, those used last first. -/
  named : List Octets := []
  /-- The keys in chains by number, those used last first. -/
  numbered : List Int := []
  /-- The number of chains. -/
  chains : Nat := 64
  /-- Whether the chains by text are complete. -/
  hasNames : Bool := false
  /-- Whether the values are in a row, as the parts of a text are, and in no chains yet. -/
  inRow : Bool := false

namespace Table

/-- The sum over the characters of a text. -/
def hash (text : Octets) : Nat :=
  text.foldl (fun (h : Nat) c => (h ^^^ c.toNat) * 16777619 % 4294967296) 2166136261

/-- The chain of a text. -/
def chainOf (table : Table) (text : Octets) : Nat := hash text % table.chains

/-- The chain of a number. -/
def numberChain (table : Table) (n : Int) : Nat := (n % (table.chains : Int)).toNat

/-- The items of a list by their chains. -/
def byChains {α : Type} (table : Table) (chain : α → Nat) (items : List α) : List α :=
  let chained := items.map fun item => (chain item, item)
  (List.range table.chains).flatMap fun i => chained.filterMap fun (j, item) =>
    if i = j then some item else none

/-- The table with values in chains. -/
def unrowed (table : Table) : Table :=
  if !table.inRow then table
  else
    { table with
      numbered := ((List.range table.values.length).map fun i => ((i + 1 : Nat) : Int)).reverse
      inRow := false }

/-- The table with complete chains by text. -/
def withNames (table : Table) : Table :=
  let table := table.unrowed
  if table.hasNames then table
  else
    let order := byChains table table.numberChain table.numbered
    let named := order.foldl (fun named n =>
      let name := Decimal.ofInt n
      if named.contains name then named else name :: named) table.named
    { table with named, hasNames := true }

/-- Add a value; more chains are made when there are many. -/
def added (table : Table) (name : Octets) : Table :=
  let values := (name, Value.unset) :: table.values
  let chains := if values.length > 12 * table.chains then 2 * table.chains else table.chains
  { table with values, chains }

/-- Use a key by its text: it comes first in its chain.  One that is not there is added if that is
wanted. -/
def useName (table : Table) (create : Bool) (name : Octets) : Table :=
  let table := table.withNames
  if table.named.contains name then { table with named := name :: table.named.filter (· != name) }
  else if create then
    let table := table.added name
    { table with named := name :: table.named }
  else table

/-- Use a key by its number. -/
def useNumber (table : Table) (create : Bool) (n : Int) : Table :=
  let name := Decimal.ofInt n
  let isThere := (table.values.lookup name).isSome
  if table.inRow && isThere then table
  else
    let table := table.unrowed
    if table.numbered.contains n then
      { table with numbered := n :: table.numbered.filter (· != n) }
    else if !isThere && !create then table
    else
      let table := if table.hasNames then table.useName create name else table.added name
      { table with numbered := n :: table.numbered }

/-- Use a key. -/
def use (table : Table) (create : Bool) : Key → Table
  | .number n => table.useNumber create n
  | .text name => table.useName create name

/-- The value of a key, which is there from now on. -/
def get (table : Table) (key : Key) : Value × Table :=
  let table := table.use true key
  ((table.values.lookup key.name).getD .unset, table)

/-- Give a key a value. -/
def set (table : Table) (key : Key) (value : Value) : Table :=
  let table := table.use true key
  let name := key.name
  { table with
    values := table.values.map fun entry => if entry.1 == name then (name, value) else entry }

/-- Whether a key is there. -/
def has (table : Table) (key : Key) : Bool := (table.values.lookup key.name).isSome

/-- Take a key away. -/
def erase (table : Table) (key : Key) : Table :=
  let table := table.unrowed
  let name := key.name
  { table with
    values := table.values.filter (·.1 != name)
    named := table.named.filter (· != name)
    numbered := table.numbered.filter fun n => Decimal.ofInt n != name }

/-- The keys in the order in which they are gone through. -/
def keys (table : Table) : List Octets × Table :=
  let table := table.withNames
  (byChains table table.chainOf table.named, table)

/-- The table of parts, numbered from one. -/
def ofParts (parts : List Value) : Table :=
  { values := parts.zipIdx.map fun (value, i) => (Octets.ofNat (i + 1), value), inRow := true
    chains := grow 40 64 parts.length }
where
  /-- The number of chains for so many values. -/
  grow : Nat → Nat → Nat → Nat
    | 0, chains, _ => chains
    | fuel + 1, chains, size => if size > 12 * chains then grow fuel (2 * chains) size else chains

end Table

end SiteScript.Rehearsal.Shell.Records
