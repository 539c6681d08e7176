import SiteScript.Error
import SiteScript.Script.Directive
import SiteScript.Word

/-!
# SiteScript.Web.ServerDecl

What a script says about a server it starts.  Every setting has a default, and an empty value counts
as none.
-/

namespace SiteScript.Web

/-- The settings of a server. -/
structure ServerDecl where
  id : String := "webserver1"
  host : String := "localhost"
  port : Nat := 8080
  /-- The directory of the pages, in the workspace. -/
  publicDir : String := "public"
  landing : String := "index.html"
  notFound : String := "404.html"
  /-- What the paths of the web interface begin with. -/
  apiBase : String := "/api/"
  /-- Whether clients can register and log in. -/
  users : Bool := false
  ssl : Bool := false
  sslPort : Nat := 443
  sslBits : Nat := 2048
deriving DecidableEq

namespace ServerDecl

/-- A setting that is given and not empty. -/
def given? (config : Block) (key : String) : Option String :=
  (config.get? key).filter (!·.isEmpty)

/-- A number of at most the given size. -/
def number (config : Block) (key : String) (largest default : Nat) : Except Error Nat :=
  match given? config key with
  | none => .ok default
  | some text =>
    match Decimal.unsigned? largest text.toList with
    | some n => .ok n
    | none => .error (.config ("invalid " ++ key ++ " '" ++ text ++ "'"))

/-- The largest port. -/
def maxPort : Nat := Word.maxUnsigned 16

/-- The largest number of key bits that can be given. -/
def maxBits : Nat := Word.maxUnsigned 32

/-- The settings of a block in which variables have been substituted.  `path` names the directory of
the pages when the block does not. -/
def ofBlock (path : String) (config : Block) : Except Error ServerDecl := do
  let defaults : ServerDecl := {}
  let publicDir := (given? config "path").getD (if path.isEmpty then defaults.publicDir else path)
  let sslBits ← number config "sslbits" maxBits defaults.sslBits
  let port ← number config "port" maxPort defaults.port
  let sslPort ← number config "sslport" maxPort defaults.sslPort
  return {
    id := (given? config "id").getD defaults.id
    host := (given? config "host").getD defaults.host
    port, publicDir
    landing := (given? config "landing").getD defaults.landing
    notFound := (given? config "404").getD defaults.notFound
    apiBase := (given? config "api").getD defaults.apiBase
    users := config.get? "user" == some "true"
    ssl := config.get? "ssl" == some "true"
    sslPort, sslBits }

end ServerDecl

end SiteScript.Web
