import SiteScript.Web.Dispatch

/-!
# SiteScript.Proofs.Web.Dispatch

What answering a request can come to, said once.  `dispatch_outcome` lists the four things that a
server can do,

1. log a client in,
2. try to add an account,
3. try to add a record to a data file,
4. answer and leave everything as it was,

each with what it does to the server and to the run, so that what holds of every request is proved
case by case.  `matched?` is the declaration that a request goes to, if it goes to one.

What happens to a server at work, one thing after another, is a request, a declaration that a script
adds, or an assignment to a variable; `Serving.run` takes any sequence of these.  Every state of a run
is the state after a beginning of the sequence, so "every step of every run" is "the next request after
every sequence". -/

namespace SiteScript.Web

/-! ## Statuses of refusals -/

@[simp] theorem status_ofRefusal (refusal : Refusal) :
    (Response.ofRefusal refusal).status = refusal.status := rfl

@[simp] theorem status_json (status : Nat) (value : Json) :
    (Response.json status value).status = status := rfl

@[simp] theorem status_ofError (error : Error) : (Refusal.ofError error).status = 500 := rfl

/-- A body that is no record is an internal failure. -/
theorem status_of_parseRecord_error {body : Bytes} {refusal : Refusal}
    (h : DataFile.parseRecord body = .error refusal) : refusal.status = 500 := by
  rw [DataFile.parseRecord] at h
  split at h
  · contradiction
  · injection h with h
    rw [← h]
    rfl
  · injection h with h
    rw [← h]
    rfl

/-- Name and password are verified when the account of that name has the digest of that password. -/
theorem Accounts.verify?_eq_some {accounts : Accounts} {name password userId : String} :
    accounts.verify? name password = some userId ↔
      ∃ account, accounts.get? name = some account ∧
        account.passwordHash = Sha256.hexDigest password ∧ account.uuid = userId := by
  rw [verify?]
  cases accounts.get? name with
  | none => simp
  | some account => by_cases h : account.passwordHash = Sha256.hexDigest password <;> simp [h]

namespace Server

variable (server : Server) (context : Context) (request : Request)

@[simp] theorem context_answer (response : Response) :
    (server.answer context response).context = context := rfl

@[simp] theorem response_answer (response : Response) :
    (server.answer context response).response = response := rfl

/-! ## Adding an account -/

theorem addAccount_eq (username password : String) :
    server.addAccount context username password =
      match (server.accounts.add username password context.ids).1.save context.box
        context.files with
      | (.ok (), files) =>
        ⟨.redirect "/login.html" none,
          { server with accounts := (server.accounts.add username password context.ids).1 },
          { context with ids := context.ids.draw.2, files }.info ("Registered user " ++ username)⟩
      | (.error error, files) =>
        ⟨.ofRefusal (.ofHost error),
          { server with accounts := (server.accounts.add username password context.ids).1 },
          { context with ids := context.ids.draw.2, files }.error
            ("Could not persist users: " ++ error.message)⟩ := by
  rfl

/-- Adding an account logs nobody in. -/
@[simp] theorem sessions_addAccount (username password : String) :
    (server.addAccount context username password).server.sessions = server.sessions := by
  rw [addAccount_eq]
  split <;> rfl

@[simp] theorem setCookie_addAccount (username password : String) :
    (server.addAccount context username password).response.setCookie = none := by
  rw [addAccount_eq]
  split <;> rfl

/-- Adding an account draws one identifier. -/
@[simp] theorem ids_addAccount (username password : String) :
    (server.addAccount context username password).context.ids = context.ids.draw.2 := by
  rw [addAccount_eq]
  split <;> rfl

/-! ## Which way a request goes -/

/-- The request logs a client in or tries to. -/
def IsLogin : Prop :=
  server.decl.users = true ∧ request.method = "POST" ∧ request.path = "/login"

/-- The request registers a client or tries to. -/
def IsRegistration : Prop :=
  server.decl.users = true ∧ request.method = "POST" ∧ request.path = "/register"

instance : Decidable (server.IsLogin request) := inferInstanceAs (Decidable (_ ∧ _ ∧ _))

instance : Decidable (server.IsRegistration request) := inferInstanceAs (Decidable (_ ∧ _ ∧ _))

/-- The declaration that a request is matched to; none for a login, a registration, a request for a
page and a path of the web interface that nothing is declared for. -/
def matched? : Option Declaration :=
  if server.IsLogin request ∨ server.IsRegistration request then none
  else (ApiPath.ofPath? request.path server.decl.apiBase).bind
    (server.declaration? context request.method)

theorem dispatch_login (h : server.IsLogin request) :
    server.dispatch context request = server.login context request.body := by
  obtain ⟨husers, hmethod, hpath⟩ := h
  simp [dispatch, husers, hmethod, hpath]

theorem dispatch_registration (h : server.IsRegistration request) :
    server.dispatch context request = server.register context request.body := by
  obtain ⟨husers, hmethod, hpath⟩ := h
  simp [dispatch, husers, hmethod, hpath]

/-- What is neither a login nor a registration is a use of the web interface or a request for a
page. -/
theorem dispatch_other (hlogin : ¬ server.IsLogin request)
    (hregister : ¬ server.IsRegistration request) :
    server.dispatch context request =
      match ApiPath.ofPath? request.path server.decl.apiBase with
      | some path => server.handleApi context path request
      | none => server.answer context (server.showPage context request.path) := by
  have h1 :
      ¬ (server.decl.users && request.method == "POST" && request.path == "/login") = true := by
    simpa [IsLogin, and_assoc] using hlogin
  have h2 :
      ¬ (server.decl.users && request.method == "POST" && request.path == "/register") = true := by
    simpa [IsRegistration, and_assoc] using hregister
  exact (if_neg h1).trans (if_neg h2)

/-- A request that is matched to a declaration goes through its gate, and if that lets it in, uses
the declaration. -/
theorem dispatch_of_matched {declaration : Declaration}
    (h : server.matched? context request = some declaration) :
    ∃ path, server.dispatch context request =
      match server.author declaration request with
      | .error refusal => server.answer context (.ofRefusal refusal)
      | .ok author => server.useDeclaration context declaration author path request.body := by
  rw [matched?] at h
  split at h
  · contradiction
  · next hother =>
      obtain ⟨path, hpath, hfound⟩ := Option.bind_eq_some_iff.1 h
      refine ⟨path, ?_⟩
      rw [dispatch_other server context request (fun hl => hother (.inl hl)) fun hr =>
        hother (.inr hr), hpath]
      cases hauthor : server.author declaration request <;> simp [handleApi, hfound, hauthor]

/-! ## What a use of a declaration can come to -/

/-- Using a declaration reads, or adds a record, or is not possible; its answer is never that of a
closed gate. -/
theorem status_useDeclaration_ne (declaration : Declaration) (author : Option String)
    (path : ApiPath)
    (body : Bytes) :
    (server.useDeclaration context declaration author path body).response.status ≠ 403 := by
  simp only [useDeclaration]
  split
  · simp only [response_answer, readData]
    split
    · split <;> simp [respond, Refusal.notFound]
    · split <;> simp [respond]
  · simp only [response_answer, addRecord]
    split
    · next refusal hparse => simp [respond, status_of_parseRecord_error hparse]
    · split <;> simp [respond]
  · simp [Refusal.notAllowed]

/-- A use of a declaration that is answered with 201 has stored the record of the request's body, in
the name of the author, and shows it. -/
theorem append_of_status_useDeclaration {declaration : Declaration} {author : Option String}
    {path : ApiPath} {body : Bytes}
    (h : (server.useDeclaration context declaration author path body).response.status = 201) :
    ∃ record stored, DataFile.parseRecord body = .ok record ∧
      DataFile.append context.box context.files
        (context.substitute declaration.data) record author =
        (.ok stored, (server.useDeclaration context declaration author path body).context.files) ∧
      (server.useDeclaration context declaration author path body).response = .json 201 stored := by
  simp only [useDeclaration] at h ⊢
  split at h
  · simp only [response_answer, readData] at h
    split at h
    · split at h <;> simp [respond, Refusal.notFound] at h
    · split at h <;> simp [respond] at h
  · simp only [response_answer, context_answer, addRecord] at h ⊢
    cases hparse : DataFile.parseRecord body with
    | error refusal => simp [hparse, respond, status_of_parseRecord_error hparse] at h
    | ok record =>
        simp only [hparse] at h ⊢
        split at h
        · simp [respond] at h
        · next stored files happend => exact ⟨record, stored, rfl, by simp [happend], rfl⟩
  · simp [Refusal.notAllowed] at h

/-! ## What answering can come to -/

/-- What answering a request can come to. -/
inductive Outcome : Answer → Prop where
  /-- Name and password are those of an account: a session is opened under the next identifier. -/
  | loggedIn {username password : String} {account : Account} (hlogin : server.IsLogin request)
      (hform : credentials request.body = (some username, some password))
      (haccount : server.accounts.get? username = some account)
      (hpassword : account.passwordHash = Sha256.hexDigest password) :
      Outcome ⟨.redirect "/" (some (server.sessions.cookieText context.ids.draw.1)),
        { server with sessions :=
          (server.sessions.create ⟨account.uuid, username⟩ context.ids).2.1 },
        { context with ids := context.ids.draw.2 }.info ("Creating session for user " ++ username)⟩
  /-- The name is not taken: an account is added. -/
  | registered {username password : String} (hregister : server.IsRegistration request)
      (hform : credentials request.body = (some username, some password))
      (hnew : server.accounts.contains username = false) :
      Outcome (server.addAccount context username password)
  /-- The record of the body is handed to the data file of a declaration. -/
  | appended {declaration : Declaration} {author : Option String} {record : DataFile.Record}
      {result : Except Error Json} {files : FileSystem}
      (hmatched : server.matched? context request = some declaration)
      (hpost : declaration.method = .post)
        (hauthor : server.author declaration request = .ok author)
      (hparse : DataFile.parseRecord request.body = .ok record)
      (happend : DataFile.append context.box context.files
        (context.substitute declaration.data) record
        author = (result, files)) :
      Outcome (server.answer { context with files } (respond 201 (result.mapError .ofError)))
  /-- Nothing changes. -/
  | answered (response : Response) (hcookie : response.setCookie = none) :
      Outcome (server.answer context response)

theorem login_outcome (hlogin : server.IsLogin request) :
    server.Outcome context request (server.login context request.body) := by
  rw [login]
  split
  · next username password hform =>
      cases hverify : server.accounts.verify? username password with
      | none => exact .answered _ rfl
      | some userId =>
          obtain ⟨account, haccount, hpassword, rfl⟩ := Accounts.verify?_eq_some.1 hverify
          exact .loggedIn hlogin hform haccount hpassword
  · exact .answered _ rfl

theorem register_outcome (hregister : server.IsRegistration request) :
    server.Outcome context request (server.register context request.body) := by
  rw [register]
  cases hform : credentials request.body with
  | mk username password =>
      simp only
      split
      · exact .answered _ rfl
      · next hnew =>
          split
          · next username password => exact .registered hregister hform (by simpa using hnew)
          · exact .answered _ rfl

theorem useDeclaration_outcome {declaration : Declaration} {author : Option String} (path : ApiPath)
    (hmatched : server.matched? context request = some declaration)
    (hauthor : server.author declaration request = .ok author) :
    server.Outcome context request
      (server.useDeclaration context declaration author path request.body) := by
  simp only [useDeclaration]
  split
  · refine .answered _ ?_
    cases readData context (context.substitute declaration.data) path <;> rfl
  · next hpost =>
      simp only [addRecord]
      cases hparse : DataFile.parseRecord request.body with
      | error refusal => exact .answered _ rfl
      | ok record =>
          simp only
          split
          · next error files happend => exact .appended hmatched hpost hauthor hparse happend
          · next stored files happend => exact .appended hmatched hpost hauthor hparse happend
  · exact .answered _ rfl

theorem handleApi_outcome {path : ApiPath}
    (hmatched : ∀ declaration, server.declaration? context request.method path = some declaration →
      server.matched? context request = some declaration) :
    server.Outcome context request (server.handleApi context path request) := by
  rw [handleApi]
  split
  · exact .answered _ rfl
  · next declaration hfound =>
      split
      · exact .answered _ rfl
      · next author hauthor =>
          exact useDeclaration_outcome server context request path
            (hmatched declaration hfound) hauthor

theorem setCookie_showPage (path : String) : (server.showPage context path).setCookie = none := by
  delta showPage
  generalize server.pageFile context (server.requestedPage path) = page
  obtain ⟨file, status⟩ := page
  dsimp only
  split <;> rfl

/-- **One request**: whatever a server does about it is one of the four outcomes. -/
theorem dispatch_outcome : server.Outcome context request (server.dispatch context request) := by
  by_cases hlogin : server.IsLogin request
  · rw [dispatch_login server context request hlogin]
    exact login_outcome server context request hlogin
  · by_cases hregister : server.IsRegistration request
    · rw [dispatch_registration server context request hregister]
      exact register_outcome server context request hregister
    · rw [dispatch_other server context request hlogin hregister]
      cases hpath : ApiPath.ofPath? request.path server.decl.apiBase with
      | none => exact .answered _ (setCookie_showPage server context request.path)
      | some path =>
          refine handleApi_outcome server context request fun declaration hfound => ?_
          rw [matched?, if_neg (not_or.2 ⟨hlogin, hregister⟩), hpath]
          exact hfound

end Server

/-! ## A server at work -/

/-- Something that happens to a server at work. -/
inductive Event where
  | request (request : Request)
  /-- A script declares one more route. -/
  | declare (declaration : Declaration)
  /-- A script gives a variable a value. -/
  | assign (key value : String)

/-- A server and the run it belongs to. -/
structure Serving where
  server : Server
  context : Context

namespace Serving

/-- A server that has just been started: nobody is logged in. -/
def start (decl : ServerDecl) (accounts : Accounts) (context : Context) : Serving :=
  ⟨{ decl, accounts }, context⟩

variable (state : Serving)

/-- The answer to a request. -/
def answer (request : Request) : Answer := state.server.dispatch state.context request

/-- The declaration that a request is matched to. -/
def matched? (request : Request) : Option Declaration := state.server.matched? state.context request

/-- The state after something happened. -/
def step (state : Serving) : Event → Serving
  | .request request => ⟨(state.answer request).server, (state.answer request).context⟩
  | .declare declaration =>
    { state with context := { state.context with apis := state.context.apis.register declaration } }
  | .assign key value => { state with context := state.context.setVariable key value }

/-- The state after a sequence of events. -/
def run (events : List Event) : Serving := events.foldl step state

@[simp] theorem run_concat (events : List Event) (event : Event) :
    state.run (events ++ [event]) = (state.run events).step event := by
  simp [run]

/-- What holds at the start and is kept by every step holds after every sequence of events. -/
theorem run_induction {state : Serving} {motive : List Event → Serving → Prop}
    (start : motive [] state)
    (step : ∀ events event, motive events (state.run events) →
      motive (events ++ [event]) ((state.run events).step event))
    (events : List Event) : motive events (state.run events) := by
  -- on the reversed sequence, so that the last event is at the head
  have hrev : ∀ reversed : List Event, motive reversed.reverse (state.run reversed.reverse) := by
    intro reversed
    induction reversed with
    | nil => exact start
    | cons event reversed ih =>
        rw [List.reverse_cons, run_concat]
        exact step _ _ ih
  simpa using hrev events.reverse

end Serving

end SiteScript.Web
