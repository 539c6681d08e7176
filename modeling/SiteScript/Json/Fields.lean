import SiteScript.Json.Reader

/-!
# SiteScript.Json.Fields

Trees that stand for a record with known fields.  A record is written as an object, whose other
members do not count and whose fields occur once each, or as an array of the fields in their order, of
which the last ones may be missing.
-/

namespace SiteScript.Json.Raw

/-- The string a tree stands for. -/
def string? : Raw → Option String
  | .string body => text? body
  | _ => none

/-- The string a tree stands for, or none for `null`. -/
def optionalString? : Raw → Option (Option String)
  | .null => some none
  | raw => raw.string?.map some

/-- Take one member of an object into the fields. -/
def addField? (names : List String) (fields : Dictionary Raw) (member : List Char × Raw) :
    Option (Dictionary Raw) :=
  match text? member.1 with
  | none => none
  | some name =>
    if !names.contains name then some fields
    else if fields.contains name then none
    else some (fields.insert name member.2)

/-- The fields of an object. -/
def objectFields? (names : List String) (members : List (List Char × Raw)) :
    Option (Dictionary Raw) :=
  members.foldlM (addField? names) .empty

/-- The fields of a record. -/
def fields? (names : List String) : Raw → Option (Dictionary Raw)
  | .object members => objectFields? names members
  | .array items =>
    if items.length ≤ names.length then some (.ofList (names.zip items)) else none
  | _ => none

/-- The entries of an object, each read by `read?`; of two with one name the later counts. -/
def entries? {α : Type} (read? : Raw → Option α) : Raw → Option (Dictionary α)
  | .object members =>
    (members.mapM fun (key, raw) => do
      return (← text? key, ← read? raw)).map Dictionary.ofList
  | _ => none

end SiteScript.Json.Raw
