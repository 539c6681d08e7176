import SiteScript.Text.Basic
import SiteScript.Url.Basic

/-!
# SiteScript.Database

How a database is reached: by an address, whose scheme tells the kind of the database.
-/

namespace SiteScript

namespace Database

/-- How a database is reached. -/
structure Config where
  url : String
  maxConnections : Nat := 5
  /-- How long opening may take, in milliseconds. -/
  timeout : Nat := 10000
deriving DecidableEq

/-- The address of a server, made from the name of its host, an account and a database. -/
def Config.mysql (host user password database : String) : Except String Config :=
  match Url.readRest "mysql".toList (host.toList ++ ['/']) with
  | .error fault => .error ("Invalid MySQL host '" ++ host ++ "': " ++ fault.message)
  | .ok url =>
    if !url.hasHost then .error ("Invalid MySQL user for host '" ++ host ++ "'")
    else
      let url := url.withUsername user
      let url := if password.isEmpty then url else url.withPassword password
      .ok { url := (url.push database).text }

/-! ## Kinds -/

/-- The kinds of databases. -/
inductive Kind where
  | postgres
  | mysql
  | sqlite
deriving DecidableEq

/-- The schemes of addresses, each with its kind. -/
def schemes : List (String × Kind) :=
  [("postgres://", .postgres), ("postgresql://", .postgres), ("mysql://", .mysql),
    ("mariadb://", .mysql), ("sqlite://", .sqlite), ("sqlite:", .sqlite)]

/-- The kind of the database at an address. -/
def kind? (url : String) : Option Kind :=
  (schemes.find? fun (scheme, _) => Text.startsWith scheme.toList url.toList).map (·.2)

/-- The address is of no kind. -/
def kindUnknown : String :=
  "Unsupported database URL scheme. Supported: postgres://, mysql://, sqlite://"

end Database

end SiteScript
