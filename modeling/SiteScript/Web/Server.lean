import SiteScript.Web.Accounts
import SiteScript.Web.MediaType
import SiteScript.Web.Refusal
import SiteScript.Web.Route
import SiteScript.Web.ServerDecl
import SiteScript.Web.Session

/-!
# SiteScript.Web.Server

A server: its settings, who is logged in, and its own copy of the accounts.  What it takes and gives
are requests and responses.
-/

namespace SiteScript.Web

/-- What a client asks. -/
structure Request where
  /-- The method, as the client wrote it. -/
  method : String
  path : String
  /-- The header with the cookies, if it is there and readable. -/
  cookie : Option String := none
  body : Bytes := []

/-- What a client gets. -/
structure Response where
  status : Nat
  contentType : Option String := none
  /-- Where the client is sent on to. -/
  location : Option String := none
  setCookie : Option String := none
  body : ByteArray := ByteArray.empty

namespace Response

/-- A text. -/
def ofText (status : Nat) (contentType body : String) : Response :=
  { status, contentType := some contentType, body := body.toUTF8 }

/-- A page. -/
def html (status : Nat) (body : String) : Response := ofText status "text/html" body

/-- A JSON value. -/
def json (status : Nat) (value : Json) : Response := ofText status "application/json" value.compact

/-- A request turned down. -/
def ofRefusal (refusal : Refusal) : Response :=
  ofText refusal.status "application/json" refusal.body

/-- Send the client on, and give it a cookie or not. -/
def redirect (location : String) (setCookie : Option String) : Response :=
  { status := 302, location := some location, setCookie }

end Response

/-- A server. -/
structure Server where
  decl : ServerDecl
  sessions : Sessions := {}
  accounts : Accounts := .empty
deriving DecidableEq

end SiteScript.Web
