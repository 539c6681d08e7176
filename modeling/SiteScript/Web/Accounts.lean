import SiteScript.Cipher.Sha256
import SiteScript.IdSupply
import SiteScript.Json.Fields
import SiteScript.Json.Printer
import SiteScript.Sandbox

/-!
# SiteScript.Web.Accounts

The accounts of a site, by name: the hash of a password and the identifier the account's records are
signed with.  They are kept in one file of the workspace, as an object of objects; reading also takes
an account written as an array of its two fields.
-/

namespace SiteScript.Web

/-- An account. -/
structure Account where
  /-- The digest of the password, in hexadecimal digits. -/
  passwordHash : String
  uuid : String
deriving DecidableEq

/-- The accounts by name. -/
abbrev Accounts := Dictionary Account

namespace Account

/-- Read an account. -/
def ofRaw? (raw : Json.Raw) : Option Account := do
  let fields ← raw.fields? ["passwordHash", "uuid"]
  return ⟨← (← fields.get? "passwordHash").string?, ← (← fields.get? "uuid").string?⟩

/-- An account as it is written. -/
def toJson (account : Account) : Json :=
  .object [("passwordHash", .string account.passwordHash), ("uuid", .string account.uuid)]

end Account

namespace Accounts

/-- The file accounts are kept in. -/
def fileName : String := "users.json"

/-- Read accounts; of two with one name the later counts. -/
def parse? (text : String) : Option Accounts :=
  (Json.Raw.parse? text.toList).bind (Json.Raw.entries? Account.ofRaw?)

/-- The text accounts are kept as. -/
def text (accounts : Accounts) : String :=
  (Json.ofDictionary (accounts.mapValues fun _ account => account.toJson)).pretty

/-- The accounts kept in the workspace; none when there is no such file. -/
def load (box : Sandbox) (fs : FileSystem) : Except Error (Option Accounts) :=
  if box.isFile fs fileName then
    match box.readText fs fileName with
    | .error error => .error (.host error)
    | .ok text =>
      match parse? text with
      | some accounts => .ok (some accounts)
      | none => .error (.config (fileName ++ " is not valid: not an object of accounts"))
  else .ok none

/-- Keep the accounts in the workspace. -/
def save (accounts : Accounts) (box : Sandbox) (fs : FileSystem) : Sandbox.Change :=
  box.writeFile fs fileName accounts.text.toUTF8

/-- The identifier of the account with this name and password. -/
def verify? (accounts : Accounts) (name password : String) : Option String :=
  match accounts.get? name with
  | some account =>
    if account.passwordHash == Sha256.hexDigest password then some account.uuid else none
  | none => none

/-- The accounts with a new one, under a new identifier. -/
def add (accounts : Accounts) (name password : String) (supply : IdSupply) : Accounts × IdSupply :=
  let (uuid, supply) := supply.draw
  (accounts.insert name ⟨Sha256.hexDigest password, uuid⟩, supply)

/-- The accounts with a new one, unless the name is taken. -/
def register? (accounts : Accounts) (name password : String) (supply : IdSupply) :
    Option (Accounts × IdSupply) :=
  if accounts.contains name then none else some (accounts.add name password supply)

end Accounts

end SiteScript.Web
