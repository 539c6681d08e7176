import SiteScript.Decimal
import SiteScript.Dictionary
import SiteScript.IdSupply
import SiteScript.Text.Basic

/-!
# SiteScript.Web.Session

Who is logged in.  A session is known by a token that the client keeps in a cookie; sessions live as
long as the server and end with it.

`cookies` reads the header of a request: parts between semicolons, each a name and a value around the
first equals sign, of two parts with one name the later counting.
-/

namespace SiteScript.Web

/-! ## Cookies -/

/-- A text without double quotes at its ends. -/
def dropQuotes (text : List Char) : List Char :=
  Text.dropEndWhile (· == '"') (text.dropWhile (· == '"'))

/-- The name and the value of one part of a header. -/
def cookie? (part : List Char) : Option (String × String) :=
  (Text.cut? '=' (Text.trim part)).map fun (name, value) =>
    (String.ofList (Text.trim name), String.ofList (dropQuotes (Text.trim value)))

/-- The cookies of a header. -/
def cookies (header : String) : Dictionary String :=
  .ofList ((Text.split ';' header.toList).filterMap cookie?)

/-! ## Sessions -/

/-- The account a session belongs to. -/
structure Session where
  userId : String
  username : String
deriving DecidableEq

/-- How session cookies are made. -/
structure SessionConfig where
  /-- How long the client keeps the cookie, in seconds. -/
  maxAge : Nat := 86400
  cookieName : String := "sessionId"
  cookiePath : String := "/"
  /-- Whether the cookie is hidden from scripts of the page. -/
  httpOnly : Bool := true
deriving DecidableEq

/-- The sessions of a server, by token. -/
structure Sessions where
  config : SessionConfig := {}
  byToken : Dictionary Session := .empty
deriving DecidableEq

namespace Sessions

/-- Open a session under a new token. -/
def create (sessions : Sessions) (session : Session) (supply : IdSupply) :
    String × Sessions × IdSupply :=
  let (token, supply) := supply.draw
  (token, { sessions with byToken := sessions.byToken.insert token session }, supply)

/-- The session of a token. -/
def get? (sessions : Sessions) (token : String) : Option Session :=
  sessions.byToken.get? token

/-- The session that the cookies of a request name. -/
def ofHeader? (sessions : Sessions) (header : String) : Option Session :=
  ((cookies header).get? sessions.config.cookieName).bind sessions.get?

/-- The cookie that hands a token to the client. -/
def cookieText (sessions : Sessions) (token : String) : String :=
  let config := sessions.config
  config.cookieName ++ "=" ++ token ++ (if config.httpOnly then "; HttpOnly" else "") ++
    "; Path=" ++ config.cookiePath ++ "; Max-Age=" ++ Decimal.text config.maxAge

/-- How many sessions there are. -/
def size (sessions : Sessions) : Nat := sessions.byToken.size

end Sessions

end SiteScript.Web
