import SiteScript.Dictionary
import SiteScript.Json.Number

/-!
# SiteScript.Json.Value

JSON values as records hold them: the members of an object are sorted by name and a name occurs once.
-/

namespace SiteScript

/-- A JSON value. -/
inductive Json where
  | null
  | bool (value : Bool)
  | number (value : Number)
  | string (value : String)
  | array (items : List Json)
  | object (members : List (String × Json))

namespace Json

/-- An integer. -/
def int (n : Int) : Json := .number (.int n)

/-- The member of an object. -/
def member? : Json → String → Option Json
  | .object members, name => members.lookup name
  | _, _ => none

/-- The object with the entries of a dictionary. -/
def ofDictionary (d : Dictionary Json) : Json :=
  .object d.entries

/-- An object from members in any order; of two with one name the later counts. -/
def ofMembers (members : List (String × Json)) : Json :=
  .object (members.foldl (fun sorted (name, value) => insertEntry name value sorted) [])

end Json

end SiteScript
