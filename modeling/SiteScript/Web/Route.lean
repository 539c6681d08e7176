import SiteScript.Error
import SiteScript.Script.Directive
import SiteScript.Text.Upper

/-!
# SiteScript.Web.Route

The routes of a web interface.  A `Declaration` binds a method and a route to a data file; the route
is a literal path or ends in the placeholder `$ID`, which stands for one segment.  A request's path
below the interface's own is an `ApiPath`, in the two spellings a route may match: as it is, and with
its last segment replaced by the placeholder.

The `Registry` is the history of declarations, which are looked up server by server.  A request goes
to the earliest declaration of its server that fits.
-/

namespace SiteScript.Web

/-! ## Methods -/

/-- A method of a request. -/
inductive Method where
  | get | post | put | patch | delete | head | options
deriving DecidableEq

namespace Method

/-- How a method is written. -/
def text : Method → String
  | .get => "GET"
  | .post => "POST"
  | .put => "PUT"
  | .patch => "PATCH"
  | .delete => "DELETE"
  | .head => "HEAD"
  | .options => "OPTIONS"

/-- All methods. -/
def all : List Method := [.get, .post, .put, .patch, .delete, .head, .options]

/-- The method a word names, in upper or lower case. -/
def ofText (word : String) : Except Error Method :=
  let word := Text.onString Text.upper word
  match all.find? (·.text == word) with
  | some method => .ok method
  | none => .error (.config ("Unknown HTTP method: " ++ word))

end Method

/-! ## Declarations -/

/-- The segment of a route that stands for any one segment. -/
def placeholder : String := "$ID"

/-- A route and what it serves. -/
structure Declaration where
  name : String
  method : Method
  /-- The data file, with variables still to be substituted. -/
  data : String
  /-- The route, without slashes at its end. -/
  route : String
  /-- Whether only clients who are logged in may use it. -/
  auth : Bool
  /-- The server it belongs to. -/
  server : String
deriving DecidableEq

/-- A text without slashes at its end. -/
def dropSlashes (text : List Char) : List Char :=
  Text.dropEndWhile (· == '/') text

/-- The declaration of a block.  The server and the route have to be given; the method is `get` unless
the block says otherwise. -/
def Declaration.ofBlock (name : String) (config : Block) : Except Error Declaration :=
  match (config.get? "webserverid").filter (!·.isEmpty) with
  | none => .error (.config ("webAPI \"" ++ name ++ "\" has no 'webserverid'"))
  | some server =>
    match config.get? "line" with
    | none => .error (.config ("webAPI \"" ++ name ++ "\" has no 'line'"))
    | some line =>
      (Method.ofText (config.getD "type" "get")).map fun method =>
        { name, method, server
          data := config.getD "data" ""
          route := Text.onString dropSlashes line
          auth := config.get? "user" == some "true" }

/-! ## Paths of requests -/

/-- A request's path below the path of the interface. -/
structure ApiPath where
  path : String
  /-- The path with the placeholder for its last segment. -/
  dynamic : String
  last : String
deriving DecidableEq

namespace ApiPath

/-- The path below `base`, with one slash at its start and none at its end; none when the path does
not begin with `base`. -/
def ofPath? (path base : String) : Option ApiPath :=
  match Text.dropPrefix? base.toList path.toList with
  | none => none
  | some rest =>
    let text := '/' :: dropSlashes (rest.dropWhile (· == '/'))
    let (parent, last) := (Text.cutLast? '/' text).getD ([], text)
    some
      { path := String.ofList text
        dynamic := String.ofList parent ++ "/" ++ placeholder
        last := String.ofList last }

/-- The last segment when it is a number. -/
def recordId? (path : ApiPath) : Option String :=
  if !path.last.isEmpty && path.last.toList.all Char.isDigit then some path.last else none

end ApiPath

/-! ## Matching -/

/-- Whether a declaration answers a request. -/
def Declaration.answers (declaration : Declaration) (method : Method) (path : ApiPath) : Bool :=
  declaration.method == method &&
    (declaration.route == path.path || declaration.route == path.dynamic)

/-- The first declaration that answers a request. -/
def firstMatch? (declarations : List Declaration) (method : Method) (path : ApiPath) :
    Option Declaration :=
  declarations.find? (·.answers method path)

/-- The declarations made so far, the earliest first. -/
structure Registry where
  history : List Declaration := []
deriving DecidableEq

namespace Registry

/-- Add a declaration. -/
def register (registry : Registry) (declaration : Declaration) : Registry :=
  ⟨registry.history ++ [declaration]⟩

/-- Put a declaration behind those of its server. -/
def shelve (shelves : Dictionary (List Declaration)) (declaration : Declaration) :
    Dictionary (List Declaration) :=
  shelves.insert declaration.server (shelves.getD declaration.server [] ++ [declaration])

/-- The declarations by server, each server's in the order they were made. -/
def byServer (registry : Registry) : Dictionary (List Declaration) :=
  registry.history.foldl shelve .empty

/-- The declarations of a server. -/
def forServer (registry : Registry) (server : String) : List Declaration :=
  registry.byServer.getD server []

/-- The declaration of a server that answers a request. -/
def find? (registry : Registry) (server : String) (method : Method) (path : ApiPath) :
    Option Declaration :=
  (registry.byServer.get? server).bind fun declarations => firstMatch? declarations method path

/-- How many declarations were made, counted server by server. -/
def size (registry : Registry) : Nat :=
  registry.byServer.total List.length

/-- A declaration that is added is put on the shelf of its server. -/
theorem byServer_register (registry : Registry) (declaration : Declaration) :
    (registry.register declaration).byServer = shelve registry.byServer declaration := by
  rw [register, byServer, List.foldl_append]
  rfl

/-- A look-up for a server is a look-up among its declarations. -/
theorem find?_eq (registry : Registry) (server : String) (method : Method) (path : ApiPath) :
    registry.find? server method path = firstMatch? (registry.forServer server) method path := by
  rw [find?, forServer, Dictionary.getD]
  cases registry.byServer.get? server <;> rfl

end Registry

end SiteScript.Web
