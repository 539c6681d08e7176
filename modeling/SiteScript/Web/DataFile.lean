import SiteScript.Bytes
import SiteScript.Json.Printer
import SiteScript.Json.Reader
import SiteScript.Sandbox
import SiteScript.Web.Refusal
import SiteScript.Word

/-!
# SiteScript.Web.DataFile

The files behind a web interface.  A data file is an array of records, each with an `id`; one that is
not there holds none.  A new record gets the number after the largest `id`, and the whole array is
written again.
-/

namespace SiteScript.Web.DataFile

/-- The members of a record, sorted by name. -/
abbrev Record := List (String × Json)

/-- The records of a file. -/
def readAll (box : Sandbox) (fs : FileSystem) (path : String) : Except Error (List Json) :=
  if box.isFile fs path then
    match box.readText fs path with
    | .error error => .error (.host error)
    | .ok text =>
      match Json.parse? text with
      | some (.array records) => .ok records
      | _ => .error (.config (path ++ " is not a JSON array: not an array of values"))
  else .ok []

/-! ## Identifiers -/

/-- The size of the word that numbers of records are kept in. -/
def idBits : Nat := 64

/-- The number of a record: an integer that fits in its word. -/
def numberOf? (record : Json) : Option Int :=
  match record.member? "id" with
  | some (.number (.int n)) => if Word.fitsSigned idBits n then some n else none
  | _ => none

/-- The number after the largest one, or one.  Numbers are words of 64 bits with a sign, so after the
largest of all comes the smallest. -/
def nextId (records : List Json) : Int :=
  match (records.filterMap numberOf?).max? with
  | some largest => Int.bmod (largest + 1) (Word.values idBits)
  | none => 1

/-- Whether a record has the requested `id`.  Numbers are compared as doubles, so `042` finds `42`;
texts are compared as they are. -/
def hasId (id : String) (record : Json) : Bool :=
  match record.member? "id" with
  | some (.number n) =>
    match n.toReal?, Extended.ofText? id.toList with
    | some stored, some (.finite requested) => stored.numEq requested
    | _, _ => false
  | some (.string s) => s == id
  | _ => false

/-- The first record with an `id`. -/
def find (box : Sandbox) (fs : FileSystem) (path id : String) : Except Error (Option Json) :=
  (readAll box fs path).map fun records => records.find? (hasId id)

/-! ## New records -/

/-- A record as it is stored: with its number, and signed when it has an author. -/
def stamp (record : Record) (id : Int) (author : Option String) : Record :=
  let numbered := insertEntry "id" (.int id) record
  match author with
  | some author => insertEntry "author" (.string author) numbered
  | none => numbered

/-- The text of a data file. -/
def text (records : List Json) : String := (Json.array records).pretty

/-- Add a record to a file.  Gives the record as it is stored. -/
def append (box : Sandbox) (fs : FileSystem) (path : String) (record : Record)
    (author : Option String) : Except Error Json × FileSystem :=
  match readAll box fs path with
  | .error error => (.error error, fs)
  | .ok records =>
    let stored := Json.object (stamp record (nextId records) author)
    match box.writeFile fs path (text (records ++ [stored])).toUTF8 with
    | (.ok (), fs) => (.ok stored, fs)
    | (.error error, fs) => (.error (.host error), fs)

/-- A body that is no JSON text. -/
def malformed : Refusal := .internal "malformed JSON"

/-- The record a request's body holds. -/
def parseRecord (body : Bytes) : Except Refusal Record :=
  match (Bytes.toText? body).bind Json.parse? with
  | some (.object members) => .ok members
  | some _ => .error (.internal "request body must be a JSON object")
  | none => .error malformed

end SiteScript.Web.DataFile
