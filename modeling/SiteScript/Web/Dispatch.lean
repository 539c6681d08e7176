import SiteScript.Context
import SiteScript.Web.DataFile
import SiteScript.Web.Form

/-!
# SiteScript.Web.Dispatch

How a server answers.  A request is, in this order,

1. a login or a registration, on a server with users;
2. a use of the web interface, when its path begins like one: the declaration that fits is looked up,
   then the client has to be logged in if the declaration asks for it, then the data file is read or a
   record is added;
3. a request for a page.
-/

namespace SiteScript.Web

/-- An answer, and the server and the run after it. -/
structure Answer where
  response : Response
  server : Server
  context : Context

namespace Server

variable (server : Server) (context : Context)

/-- An answer that changes nothing. -/
def answer (response : Response) : Answer := ⟨response, server, context⟩

/-! ## Accounts -/

/-- Name and password were not right. -/
def unauthorized : Response :=
  .html 401 "<h1>401 Unauthorized</h1><p>Incorrect username or password. <a href=\"/login.html\">Try again</a>.</p>"

/-- The name is taken. -/
def conflict : Response :=
  .html 409 "<h1>409 Conflict</h1><p>Username already exists. <a href=\"/register.html\">Choose another</a>.</p>"

/-- The name or the password is missing. -/
def badCredentials : Response :=
  .html 400 "<h1>400 Bad Request</h1><p>Invalid username or password.</p>"

/-- The name and the password of a form. -/
def credentials (body : Bytes) : Option String × Option String :=
  let form := Form.parse body
  (Form.filled? form "username", Form.filled? form "password")

/-- Log a client in: open a session and hand its token over. -/
def login (body : Bytes) : Answer :=
  match credentials body with
  | (some username, some password) =>
    match server.accounts.verify? username password with
    | some userId =>
      let (token, sessions, ids) := server.sessions.create ⟨userId, username⟩ context.ids
      let context := { context with ids }.info ("Creating session for user " ++ username)
      ⟨.redirect "/" (some (sessions.cookieText token)), { server with sessions }, context⟩
    | none => server.answer context unauthorized
  | _ => server.answer context unauthorized

/-- Add an account and keep the accounts in the workspace. -/
def addAccount (username password : String) : Answer :=
  let (accounts, ids) := server.accounts.add username password context.ids
  let server := { server with accounts }
  match accounts.save context.box context.files with
  | (.ok (), files) =>
    ⟨.redirect "/login.html" none, server,
      { context with ids, files }.info ("Registered user " ++ username)⟩
  | (.error error, files) =>
    ⟨.ofRefusal (.ofHost error), server,
      { context with ids, files }.error ("Could not persist users: " ++ error.message)⟩

/-- Register a client. -/
def register (body : Bytes) : Answer :=
  let (username, password) := credentials body
  if username.any server.accounts.contains then server.answer context conflict
  else
    match username, password with
    | some username, some password => server.addAccount context username password
    | _, _ => server.answer context badCredentials

/-! ## Web interface -/

/-- The declaration that fits a request. -/
def declaration? (method : String) (path : ApiPath) : Option Declaration :=
  match Method.ofText method with
  | .ok method => context.apis.find? server.decl.id method path
  | .error _ => none

/-- The session a request belongs to. -/
def session? (request : Request) : Option Session :=
  request.cookie.bind server.sessions.ofHeader?

/-- Who a request acts for: nobody when the declaration does not ask. -/
def author (declaration : Declaration) (request : Request) : Except Refusal (Option String) :=
  if declaration.auth then
    match server.session? request with
    | some session => .ok (some session.userId)
    | none => .error .forbidden
  else .ok none

/-- Read a data file: one record when the path ends in a number, all of them otherwise. -/
def readData (data : String) (path : ApiPath) : Except Refusal Json :=
  match path.recordId? with
  | some id =>
    match DataFile.find context.box context.files data id with
    | .error error => .error (.ofError error)
    | .ok none => .error (.notFound "Not found")
    | .ok (some record) => .ok record
  | none =>
    match DataFile.readAll context.box context.files data with
    | .error error => .error (.ofError error)
    | .ok records => .ok (.array records)

/-- Add the record of a request to a data file. -/
def addRecord (data : String) (author : Option String) (body : Bytes) :
    Except Refusal Json × FileSystem :=
  match DataFile.parseRecord body with
  | .error refusal => (.error refusal, context.files)
  | .ok record =>
    match DataFile.append context.box context.files data record author with
    | (.error error, files) => (.error (.ofError error), files)
    | (.ok stored, files) => (.ok stored, files)

/-- Answer with a value, or turn the request down. -/
def respond (status : Nat) : Except Refusal Json → Response
  | .ok value => .json status value
  | .error refusal => .ofRefusal refusal

/-- Use a declaration for an author. -/
def useDeclaration (declaration : Declaration) (author : Option String) (path : ApiPath)
    (body : Bytes) : Answer :=
  let data := context.substitute declaration.data
  match declaration.method with
  | .get => server.answer context (respond 200 (readData context data path))
  | .post =>
    let (stored, files) := addRecord context data author body
    server.answer { context with files } (respond 201 stored)
  | method =>
    server.answer context (.ofRefusal (.notAllowed
      ("Method " ++ method.text ++ " is not supported for API routes")))

/-- Answer a use of the web interface. -/
def handleApi (path : ApiPath) (request : Request) : Answer :=
  match server.declaration? context request.method path with
  | none => server.answer context (.ofRefusal (.notFound "API endpoint not found."))
  | some declaration =>
    match server.author declaration request with
    | .error refusal => server.answer context (.ofRefusal refusal)
    | .ok author => server.useDeclaration context declaration author path request.body

/-! ## Pages -/

/-- The page a path asks for, below the directory of the pages. -/
def requestedPage (path : String) : String :=
  if path == "/" then server.decl.landing
  else String.ofList (path.toList.dropWhile (· == '/'))

/-- Whether a page's name goes up anywhere. -/
def climbs (page : String) : Bool :=
  (Text.split '/' page.toList).contains ['.', '.']

/-- The file to show for a page, and the status: the page itself, or the one for what is missing. -/
def pageFile (page : String) : String × Nat :=
  let file := server.decl.publicDir ++ "/" ++ page
  if !climbs page && context.box.isFile context.files file then (file, 200)
  else (server.decl.publicDir ++ "/" ++ server.decl.notFound, 404)

/-- Answer a request for a page. -/
def showPage (path : String) : Response :=
  let (file, status) := server.pageFile context (server.requestedPage path)
  match context.box.read context.files file with
  | .ok body => { status, contentType := some (mediaType file), body }
  | .error _ => .ofText 404 "text/plain" "Not Found"

/-! ## All together -/

/-- Answer a request. -/
def dispatch (request : Request) : Answer :=
  if server.decl.users && request.method == "POST" && request.path == "/login" then
    server.login context request.body
  else if server.decl.users && request.method == "POST" && request.path == "/register" then
    server.register context request.body
  else
    match ApiPath.ofPath? request.path server.decl.apiBase with
    | some path => server.handleApi context path request
    | none => server.answer context (server.showPage context request.path)

end Server

end SiteScript.Web
