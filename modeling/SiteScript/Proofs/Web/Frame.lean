import SiteScript.Proofs.Footprint
import SiteScript.Proofs.Web.Dispatch
import SiteScript.Proofs.Web.Routes

/-!
# SiteScript.Proofs.Web.Frame

What a request may change.  Of the run only the files, the identifiers and the reports; of the server
only who is logged in and the accounts.  A file is written only by a registration under a new name and
by a record that is posted to a declaration; a session is opened only by a login with the name and the
password of an account; an account is added only by a registration under a new name.  Every other
request leaves everything as it was (`request_frame`). -/

namespace SiteScript.Web

/-- Adding a record touches nothing but the data file. -/
theorem DataFile.touches_append {box : Sandbox} {fs files : FileSystem} {path : String}
    {record : Record} {author : Option String} {result : Except Error Json}
    (h : append box fs path record author = (result, files)) :
    files = fs ∨ ∃ names, Sandbox.resolve path = .ok names ∧ box.Touches names fs files := by
  rw [append] at h
  split at h
  · cases h
    exact .inl rfl
  next records _ =>
  have hfootprint := box.writeFile_footprint fs path
    (text (records ++ [.object (stamp record (nextId records) author)])).toUTF8
  dsimp only at h
  split at h
  all_goals
    next hwrite =>
    cases h
    rwa [hwrite] at hfootprint

namespace Server

variable (server : Server) (context : Context) (request : Request)

/-! ## Requests that change something -/

/-- The request logs a client in, with the name and the password of an account. -/
def LogsIn (session : Session) : Prop :=
  server.IsLogin request ∧ ∃ password,
    credentials request.body = (some session.username, some password) ∧
    server.accounts.verify? session.username password = some session.userId

/-- The request registers a client, under a name that is not taken. -/
def Registers (username : String) : Prop :=
  server.IsRegistration request ∧
    (∃ password, credentials request.body = (some username, some password)) ∧
    server.accounts.contains username = false

/-- The request posts to a declaration that lets it in. -/
def Posts (declaration : Declaration) : Prop :=
  Method.ofText request.method = .ok .post ∧ server.matched? context request = some declaration ∧
    declaration.method = .post ∧ ∃ author, server.author declaration request = .ok author

/-- The request asks for a file of the workspace to be written. -/
def WritesTo (path : String) : Prop :=
  (path = Accounts.fileName ∧ ∃ username, server.Registers request username) ∨
    ∃ declaration, server.Posts context request declaration ∧
      path = context.substitute declaration.data

/-- What a request may change. -/
structure Frame (answer : Answer) : Prop where
  run : answer.context = { context with
    files := answer.context.files, ids := answer.context.ids, log := answer.context.log }
  settings : answer.server = { server with
    sessions := answer.server.sessions, accounts := answer.server.accounts }
  files : answer.context.files = context.files ∨ ∃ path names, server.WritesTo context request path ∧
    Sandbox.resolve path = .ok names ∧
    context.box.Touches names context.files answer.context.files
  filesStay : ∀ location content traits, context.files.get? location = some (.file content traits) →
    ∃ content traits, answer.context.files.get? location = some (.file content traits)
  sessions : answer.server.sessions = server.sessions ∨ ∃ session, server.LogsIn request session ∧
    answer.server.sessions = { server.sessions with
      byToken := server.sessions.byToken.insert context.ids.draw.1 session }
  accounts : answer.server.accounts = server.accounts ∨ ∃ username account,
    server.Registers request username ∧
    answer.server.accounts = server.accounts.insert username account
  others : (∀ session, ¬ server.LogsIn request session) →
    (∀ path, ¬ server.WritesTo context request path) →
    answer.server = server ∧ answer.context = context

variable {server : Server} {context : Context} {request : Request}

/-- A declaration that a request is matched to is declared for the method of the request. -/
theorem method_of_matched {declaration : Declaration}
    (h : server.matched? context request = some declaration) :
    Method.ofText request.method = .ok declaration.method := by
  rw [matched?] at h
  split at h
  · cases h
  obtain ⟨path, -, hfound⟩ := Option.bind_eq_some_iff.1 h
  rw [declaration?] at hfound
  split at hfound
  next method hmethod =>
    rw [hmethod, (Registry.serves_of_find? hfound).2.2.1]
  next => cases hfound

/-- Whatever is answered, if nothing else changes. -/
theorem frame_answer (response : Response) :
    server.Frame context request (server.answer context response) where
  run := rfl
  settings := rfl
  files := .inl rfl
  filesStay := fun _ content traits hfile => ⟨content, traits, hfile⟩
  sessions := .inl rfl
  accounts := .inl rfl
  others := fun _ _ => ⟨rfl, rfl⟩

/-- What stays of the files when no more than the footprint of a path is touched. -/
theorem file_stays {files : FileSystem} {path : String}
    (h : files = context.files ∨ ∃ names, Sandbox.resolve path = .ok names ∧
      context.box.Touches names context.files files)
    {location : Location} {content : ByteArray} {traits : Traits}
    (hfile : context.files.get? location = some (.file content traits)) :
    ∃ content traits, files.get? location = some (.file content traits) := by
  obtain rfl | ⟨names, -, htouches⟩ := h
  · exact ⟨content, traits, hfile⟩
  · exact htouches.file_stays hfile

theorem frame_loggedIn (session : Session) (h : server.LogsIn request session) (response : Response)
    (line : LogLine) :
    server.Frame context request ⟨response,
      { server with sessions := (server.sessions.create session context.ids).2.1 },
      { context with ids := context.ids.draw.2 }.report line⟩ where
  run := rfl
  settings := rfl
  files := .inl rfl
  filesStay := fun _ content traits hfile => ⟨content, traits, hfile⟩
  sessions := .inr ⟨session, h, rfl⟩
  accounts := .inl rfl
  others := fun hlogin _ => absurd h (hlogin session)

theorem frame_registered {username password : String} (h : server.Registers request username) :
    server.Frame context request (server.addAccount context username password) := by
  have hwrites : server.WritesTo context request Accounts.fileName := .inl ⟨rfl, username, h⟩
  have haccounts : (server.accounts.add username password context.ids).1 =
      server.accounts.insert username ⟨Sha256.hexDigest password, context.ids.draw.1⟩ := rfl
  have hfootprint := context.box.writeFile_footprint context.files Accounts.fileName
    (server.accounts.add username password context.ids).1.text.toUTF8
  rw [addAccount_eq]
  split
  all_goals
    next files hsave =>
    rw [show context.box.writeFile context.files Accounts.fileName _ = _ from hsave] at hfootprint
    exact {
      run := rfl
      settings := rfl
      files := hfootprint.imp_right fun ⟨names, hresolve, htouches⟩ =>
        ⟨_, names, hwrites, hresolve, htouches⟩
      filesStay := fun _ _ _ => file_stays hfootprint
      sessions := .inl rfl
      accounts := .inr ⟨username, _, h, haccounts⟩
      others := fun _ hwrite => absurd hwrites (hwrite _) }

theorem frame_appended {declaration : Declaration} (h : server.Posts context request declaration)
    {files : FileSystem}
    (hfootprint : files = context.files ∨ ∃ names,
      Sandbox.resolve (context.substitute declaration.data) = .ok names ∧
        context.box.Touches names context.files files) (response : Response) :
    server.Frame context request (server.answer { context with files } response) where
  run := rfl
  settings := rfl
  files := hfootprint.imp_right fun ⟨names, hresolve, htouches⟩ =>
    ⟨_, names, .inr ⟨declaration, h, rfl⟩, hresolve, htouches⟩
  filesStay := fun _ _ _ => file_stays hfootprint
  sessions := .inl rfl
  accounts := .inl rfl
  others := fun _ hwrite => absurd (.inr ⟨declaration, h, rfl⟩) (hwrite _)

/-- Whatever answering comes to, it changes no more than it may. -/
theorem Outcome.frame {answer : Answer} (h : server.Outcome context request answer) :
    server.Frame context request answer := by
  cases h with
  | @loggedIn username password account hlogin hform haccount hpassword =>
      have hverify : server.accounts.verify? username password = some account.uuid :=
        Accounts.verify?_eq_some.2 ⟨account, haccount, hpassword, rfl⟩
      exact frame_loggedIn ⟨account.uuid, username⟩
        ⟨hlogin, password, hform, hverify⟩ _ _
  | registered hregister hform hnew => exact frame_registered ⟨hregister, ⟨_, hform⟩, hnew⟩
  | appended hmatched hpost hauthor _ happend =>
      have hmethod := (method_of_matched hmatched).trans (congrArg Except.ok hpost)
      exact frame_appended ⟨hmethod, hmatched, hpost, _, hauthor⟩
        (DataFile.touches_append happend) _
  | answered response _ => exact frame_answer response

variable (server context request)

/-- **What a request may change**, whatever it is and however it is answered. -/
theorem request_frame : server.Frame context request (server.dispatch context request) :=
  (server.dispatch_outcome context request).frame

end Server

end SiteScript.Web
