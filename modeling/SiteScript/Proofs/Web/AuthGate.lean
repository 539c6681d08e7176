import SiteScript.Proofs.Dictionary
import SiteScript.Proofs.Web.DataFile
import SiteScript.Proofs.Web.Dispatch
import SiteScript.Web.Session

/-!
# SiteScript.Proofs.Web.AuthGate

Who gets in.  A declaration that asks for users lets a request in exactly when its session cookie is
a token that an earlier login of the same run handed out, and what the request adds is signed with
the identifier that the account had at that login.  Everybody else is turned down, and nothing
changes.

The invariant is that the sessions of a server are the logins so far (`Logins`): a token opens a
session of an identifier exactly when some login handed it out for an account with that identifier.

What a header says about a cookie is told without the dictionary that `cookies` makes of it: of the
parts that are written for the cookie, the last one counts (`HasCookie`).
-/

namespace SiteScript.Web

/-! ## Cookies of a header -/

/-- A header gives a cookie a value: one of its parts is the cookie with that value, and no later
part is the cookie again. -/
def HasCookie (header name value : String) : Prop :=
  ∃ before part after, Text.split ';' header.toList = before ++ part :: after ∧
    cookie? part = some (name, value) ∧ ∀ later ∈ after, ∀ other, cookie? later ≠ some (name, other)

/-- Looking a cookie up finds the value that the header gives it. -/
theorem get?_cookies {header name value : String} :
    (cookies header).get? name = some value ↔ HasCookie header name value := by
  rw [cookies, Dictionary.get?_ofList, HasCookie]
  constructor
  · rintro ⟨before, after, heq, hafter⟩
    obtain ⟨beforeParts, rest, hparts, -, hrest⟩ := List.filterMap_eq_append_iff.1 heq
    obtain ⟨skipped, part, afterParts, hsplit, hskipped, hpart, hlater⟩ :=
      List.filterMap_eq_cons_iff.1 hrest
    refine ⟨beforeParts ++ skipped, part, afterParts, by simp [hparts, hsplit], hpart, ?_⟩
    intro later hmem other hother
    have hentry : (name, other) ∈ after := hlater ▸ List.mem_filterMap.2 ⟨later, hmem, hother⟩
    exact hafter (name, other) hentry rfl
  · rintro ⟨before, part, after, hsplit, hpart, hafter⟩
    refine ⟨before.filterMap cookie?, after.filterMap cookie?, ?_, ?_⟩
    · rw [hsplit, List.filterMap_append, List.filterMap_cons_some hpart]
    · rintro ⟨key, other⟩ hentry rfl
      obtain ⟨later, hmem, hother⟩ := List.mem_filterMap.1 hentry
      exact hafter later hmem other hother

/-- The session of a header is the one of the token that the header gives to the session cookie. -/
theorem ofHeader?_eq_some {sessions : Sessions} {header : String} {session : Session} :
    sessions.ofHeader? header = some session ↔
      ∃ token, HasCookie header sessions.config.cookieName token ∧
        sessions.get? token = some session := by
  simp only [Sessions.ofHeader?, Option.bind_eq_some_iff, get?_cookies]

/-! ## Logins -/

/-- A request carries a value for a cookie. -/
def Request.Carries (request : Request) (name value : String) : Prop :=
  ∃ header, request.cookie = some header ∧ HasCookie header name value

namespace Serving

/-- A request logs a client in to an account: it is a login, its name and password are those of the
account, and the answer hands the token over in a cookie. -/
structure LogsIn (state : Serving) (request : Request) (token : String)
    (account : Account) : Prop where
  isLogin : state.server.IsLogin request
  verified : ∃ username password,
    Server.credentials request.body = (some username, some password) ∧
      state.server.accounts.get? username = some account ∧
      account.passwordHash = Sha256.hexDigest password
  handedOver : (state.answer request).response.setCookie =
    some ("sessionId=" ++ token ++ "; HttpOnly; Path=/; Max-Age=86400")

/-- A token that a login of a run handed out, and the account as it was at that login. -/
def Issued (start : Serving) (events : List Event) (token : String) (account : Account) : Prop :=
  ∃ before request after, events = before ++ .request request :: after ∧
    (start.run before).LogsIn request token account

/-- A request stored a record in the data file of a declaration, in the name of an author, and shows
it in the answer. -/
def Stored (state : Serving) (request : Request) (declaration : Declaration)
    (author : Option String)
    (stored : Json) : Prop :=
  ∃ record, DataFile.parseRecord request.body = .ok record ∧
    DataFile.append state.context.box state.context.files
      (state.context.substitute declaration.data) record author =
        (.ok stored, (state.answer request).context.files) ∧
    (state.answer request).response = .json 201 stored

/-! ## Tokens -/

theorem cookieText_default (sessions : Sessions) (h : sessions.config = {}) (token : String) :
    sessions.cookieText token = "sessionId=" ++ token ++ "; HttpOnly; Path=/; Max-Age=86400" := by
  have hage : Decimal.text 86400 = "86400" := by decide +kernel
  apply String.ext
  simp [Sessions.cookieText, h, hage]

/-- A cookie hands one token over. -/
theorem cookieText_inj {a b : String}
    (h : "sessionId=" ++ a ++ "; HttpOnly; Path=/; Max-Age=86400" =
      "sessionId=" ++ b ++ "; HttpOnly; Path=/; Max-Age=86400") : a = b := by
  have hlist := congrArg String.toList h
  simp only [String.toList_append, List.append_cancel_right_eq, List.append_cancel_left_eq] at hlist
  exact String.ext hlist

theorem issued_nil {start : Serving} {token : String} {account : Account} :
    ¬ Issued start [] token account := by
  rintro ⟨before, request, after, heq, -⟩
  simp at heq

/-- A token is handed out by the last request or was before. -/
theorem issued_concat {start : Serving} {events : List Event} {event : Event} {token : String}
    {account : Account} :
    Issued start (events ++ [event]) token account ↔ Issued start events token account ∨
      ∃ request, event = .request request ∧ (start.run events).LogsIn request token account := by
  constructor
  · rintro ⟨before, request, after, heq, hlogin⟩
    rcases List.eq_nil_or_concat after with rfl | ⟨rest, last, rfl⟩
    · obtain ⟨rfl, rfl⟩ : events = before ∧ event = .request request := by simpa using heq
      exact .inr ⟨request, rfl, hlogin⟩
    · rw [List.concat_eq_append, ← List.cons_append, ← List.append_assoc] at heq
      obtain ⟨rfl, -⟩ := List.append_inj' heq rfl
      exact .inl ⟨before, request, rest, rfl, hlogin⟩
  · rintro (⟨before, request, after, rfl, hlogin⟩ | ⟨request, rfl, hlogin⟩)
    · exact ⟨before, request, after ++ [event], by simp, hlogin⟩
    · exact ⟨events, request, [], rfl, hlogin⟩

/-! ## Sessions are logins -/

/-- The token that the next login hands out. -/
def nextToken (state : Serving) : String := state.context.ids.draw.1

/-- A request that logs a client in hands the next token out and opens a session under it, and it
logs the client in to no other account; a request that does not leaves the sessions alone. -/
theorem step_request_sessions (state : Serving) (request : Request)
    (hconfig : state.server.sessions.config = {}) :
    (∃ account username,
      (∀ token other,
        state.LogsIn request token other ↔ token = state.nextToken ∧ other = account) ∧
      (state.answer request).server.sessions = { state.server.sessions with
        byToken := state.server.sessions.byToken.insert state.nextToken ⟨account.uuid, username⟩ } ∧
      (state.answer request).context.ids = state.context.ids.draw.2) ∨
    ((∀ token account, ¬ state.LogsIn request token account) ∧
      (state.answer request).server.sessions = state.server.sessions ∧
      (state.answer request).context.ids.id = state.context.ids.id ∧
      state.context.ids.drawn ≤ (state.answer request).context.ids.drawn) := by
  have hnone : (state.answer request).response.setCookie = none →
      ∀ token account, ¬ state.LogsIn request token account := by
    intro hcookie token account hlogin
    have := hlogin.handedOver
    rw [hcookie] at this
    contradiction
  have houtcome := state.server.dispatch_outcome state.context request
  rw [← answer] at houtcome
  generalize hanswer : state.answer request = answer at houtcome hnone
  cases houtcome with
  | @loggedIn username password account hlogin hform haccount hpassword =>
      refine .inl ⟨account, username, fun token other => ⟨fun h => ?_, ?_⟩, rfl, rfl⟩
      · obtain ⟨username', password', hform', haccount', -⟩ := h.verified
        have hcookie := h.handedOver
        rw [hanswer] at hcookie
        rw [hform] at hform'
        cases hform'
        rw [haccount] at haccount'
        refine ⟨?_, (Option.some.inj haccount').symm⟩
        have htext : state.server.sessions.cookieText state.nextToken =
          "sessionId=" ++ token ++ "; HttpOnly; Path=/; Max-Age=86400" := Option.some.inj hcookie
        rw [cookieText_default _ hconfig] at htext
        exact (cookieText_inj htext).symm
      · rintro ⟨rfl, rfl⟩
        refine ⟨hlogin, ⟨username, password, hform, haccount, hpassword⟩, ?_⟩
        rw [hanswer, ← cookieText_default state.server.sessions hconfig]
        rfl
  | registered =>
      exact .inr ⟨hnone (by simp), by simp, by simp [IdSupply.draw], by simp [IdSupply.draw]⟩
  | @appended _ _ _ result =>
      refine .inr ⟨hnone ?_, rfl, rfl, Nat.le_refl _⟩
      cases result <;> rfl
  | answered response hcookie => exact .inr ⟨hnone hcookie, rfl, rfl, Nat.le_refl _⟩

/-- The invariant: tokens come from the supply, in order, and a token opens a session of an
identifier exactly when a login handed it out for an account with that identifier. -/
structure Logins (start : Serving) (events : List Event) (state : Serving) : Prop where
  config : state.server.sessions.config = {}
  supply : state.context.ids.id = start.context.ids.id
  drawn : ∀ token account, Issued start events token account →
    ∃ i < state.context.ids.drawn, token = start.context.ids.id i
  sessions : ∀ token userId,
    (∃ username, state.server.sessions.get? token = some ⟨userId, username⟩) ↔
      ∃ account, Issued start events token account ∧ account.uuid = userId

theorem logins_start (decl : ServerDecl) (accounts : Accounts) (context : Context) :
    Logins (start decl accounts context) [] (start decl accounts context) where
  config := rfl
  supply := rfl
  drawn := fun _ _ h => absurd h issued_nil
  sessions := by
    intro token userId
    constructor
    · rintro ⟨username, h⟩
      contradiction
    · rintro ⟨account, h, -⟩
      exact absurd h issued_nil

/-- What is no login leaves the invariant as it is. -/
theorem Logins.step_quiet {start : Serving} {events : List Event} {event : Event}
    {state next : Serving}
    (h : Logins start events state)
    (hissued : ∀ token account,
      Issued start (events ++ [event]) token account ↔ Issued start events token account)
    (hsessions : next.server.sessions = state.server.sessions)
    (hids : next.context.ids.id = state.context.ids.id)
    (hdrawn : state.context.ids.drawn ≤ next.context.ids.drawn) :
    Logins start (events ++ [event]) next where
  config := by rw [hsessions, h.config]
  supply := by rw [hids, h.supply]
  drawn := by
    intro token account hnew
    obtain ⟨i, hi, htoken⟩ := h.drawn token account ((hissued token account).1 hnew)
    exact ⟨i, Nat.lt_of_lt_of_le hi hdrawn, htoken⟩
  sessions := by
    intro token userId
    simp only [hsessions, hissued]
    exact h.sessions token userId

/-- One event keeps the invariant. -/
theorem Logins.step {start : Serving} (hfresh : start.context.ids.Fresh) {events : List Event}
    (event : Event) (h : Logins start events (start.run events)) :
    Logins start (events ++ [event]) ((start.run events).step event) := by
  cases event with
  | declare declaration => exact h.step_quiet (by simp [issued_concat]) rfl rfl (Nat.le_refl _)
  | assign key value => exact h.step_quiet (by simp [issued_concat]) rfl rfl (Nat.le_refl _)
  | request request =>
      rcases step_request_sessions (start.run events) request h.config with
        ⟨account, username, hlogin, hsessions, hids⟩ | ⟨hlogin, hsessions, hids, hdrawn⟩
      · have hissued : ∀ token other, Issued start (events ++ [.request request]) token other ↔
            Issued start events token other ∨
              token = (start.run events).nextToken ∧ other = account := by
          intro token other
          simp only [issued_concat, Event.request.injEq, exists_eq_left', hlogin]
        have hnext : (start.run events).nextToken =
            start.context.ids.id (start.run events).context.ids.drawn := by
          rw [← h.supply]
          rfl
        -- the supply never repeats, so the next token was not handed out before
        have hunused : ∀ other, ¬ Issued start events (start.run events).nextToken other := by
          intro other hold
          obtain ⟨i, hi, htoken⟩ := h.drawn _ _ hold
          rw [hnext] at htoken
          exact absurd (hfresh _ _ htoken) (by omega)
        refine ⟨?_, ?_, ?_, ?_⟩
        · exact congrArg Sessions.config hsessions |>.trans h.config
        · exact congrArg IdSupply.id hids |>.trans h.supply
        · intro token other hnew
          have hdrawn : ((start.run events).step (.request request)).context.ids.drawn =
            (start.run events).context.ids.drawn + 1 := congrArg IdSupply.drawn hids
          rcases (hissued token other).1 hnew with hold | ⟨rfl, -⟩
          · obtain ⟨i, hi, htoken⟩ := h.drawn token other hold
            exact ⟨i, by omega, htoken⟩
          · exact ⟨_, by omega, hnext⟩
        · intro token userId
          have hget : ((start.run events).step (.request request)).server.sessions.get? token =
              if token = (start.run events).nextToken then some ⟨account.uuid, username⟩
              else (start.run events).server.sessions.get? token := by
            show ((start.run events).answer request).server.sessions.byToken.get? token = _
            rw [hsessions]
            exact Dictionary.get?_insert _ _ _ _
          simp only [hget, hissued]
          by_cases htoken : token = (start.run events).nextToken
          · subst htoken
            simp [hunused]
          · simp only [htoken, if_false, false_and, or_false]
            exact h.sessions token userId
      · exact h.step_quiet (by simp [issued_concat, hlogin]) hsessions hids hdrawn

/-- The invariant holds in every state of every run. -/
theorem logins_run (decl : ServerDecl) (accounts : Accounts) (context : Context)
    (hfresh : context.ids.Fresh) (events : List Event) :
    Logins (start decl accounts context) events ((start decl accounts context).run events) :=
  run_induction (logins_start decl accounts context) (fun _ event h => h.step hfresh event) events

/-! ## The gate -/

/-- The gate of a declaration that asks for users: it lets a request act for an identifier exactly
when the request carries a token handed out for an account with that identifier. -/
theorem Logins.author_eq_ok {start state : Serving} {events : List Event}
    (h : Logins start events state) {declaration : Declaration} (hauth : declaration.auth = true)
    (request : Request) (author : Option String) :
    state.server.author declaration request = .ok author ↔
      ∃ token account, request.Carries "sessionId" token ∧ Issued start events token account ∧
        author = some account.uuid := by
  have hsession : ∀ session, state.server.session? request = some session ↔
      ∃ token, request.Carries "sessionId" token ∧
        state.server.sessions.get? token = some session := by
    intro session
    simp only [Server.session?, Option.bind_eq_some_iff, ofHeader?_eq_some, h.config,
      Request.Carries]
    constructor
    · rintro ⟨header, hheader, token, hcookie, hget⟩
      exact ⟨token, ⟨header, hheader, hcookie⟩, hget⟩
    · rintro ⟨token, ⟨header, hheader, hcookie⟩, hget⟩
      exact ⟨header, hheader, token, hcookie, hget⟩
  rw [Server.author, if_pos hauth]
  constructor
  · intro hok
    cases hfound : state.server.session? request with
    | none => simp [hfound] at hok
    | some session =>
        simp only [hfound, Except.ok.injEq] at hok
        obtain ⟨token, hcarries, hget⟩ := (hsession session).1 hfound
        obtain ⟨account, hissued, huuid⟩ :=
          (h.sessions token session.userId).1 ⟨session.username, hget⟩
        exact ⟨token, account, hcarries, hissued, by rw [← hok, huuid]⟩
  · rintro ⟨token, account, hcarries, hissued, rfl⟩
    obtain ⟨username, hget⟩ := (h.sessions token account.uuid).2 ⟨account, hissued, rfl⟩
    simp [(hsession _).2 ⟨token, hcarries, hget⟩]

/-- A gate that does not let a request in turns it down as forbidden. -/
theorem author_eq_error {server : Server} {declaration : Declaration} {request : Request}
    {refusal : Refusal} (h : server.author declaration request = .error refusal) :
    refusal = .forbidden := by
  rw [Server.author] at h
  split at h
  · split at h
    · contradiction
    · exact (Except.error.inj h).symm
  · contradiction

/-- **Auth gate**: after every run of a server whose identifiers never repeat, a request that is
matched to a declaration for users is turned down with 403 unless it carries, in the session cookie,
a token that an earlier login of the run handed out after verifying name and password.  If it
carries one, then whichever login handed it out, a record that the request adds is signed with the
identifier that the account had at that login.  If it carries none, accounts, sessions and files
stay exactly as they were. -/
theorem auth_gate (decl : ServerDecl) (accounts : Accounts) (context : Context)
    (hfresh : context.ids.Fresh) (events : List Event) (request : Request)
    (declaration : Declaration)
    (hmatched : ((start decl accounts context).run events).matched? request = some declaration)
    (hauth : declaration.auth = true) :
    let first := start decl accounts context
    let state := first.run events
    let answer := state.answer request
    (answer.response.status ≠ 403 ↔
      ∃ token account, request.Carries "sessionId" token ∧ Issued first events token account) ∧
    (∀ token account, request.Carries "sessionId" token → Issued first events token account →
      answer.response.status = 201 →
        ∃ stored, Stored state request declaration (some account.uuid) stored ∧
          stored.member? "author" = some (.string account.uuid)) ∧
    ((¬ ∃ token account, request.Carries "sessionId" token ∧ Issued first events token account) →
      answer.response.status = 403 ∧ answer.server.accounts = state.server.accounts ∧
        answer.server.sessions = state.server.sessions ∧
        answer.context.files = state.context.files) := by
  intro first state answer
  have hlogins : Logins first events state := logins_run decl accounts context hfresh events
  have hgate := hlogins.author_eq_ok hauth request
  obtain ⟨path, hdispatch⟩ := state.server.dispatch_of_matched state.context request hmatched
  have hanswer : answer = _ := hdispatch
  have hclosed : (¬ ∃ token account, request.Carries "sessionId" token ∧
      Issued first events token account) →
      answer = state.server.answer state.context (.ofRefusal .forbidden) := by
    intro hno
    cases hauthor : state.server.author declaration request with
    | error refusal => simp [hanswer, hauthor, author_eq_error hauthor]
    | ok author =>
        obtain ⟨token, account, hcarries, hissued, -⟩ := (hgate author).1 hauthor
        exact absurd ⟨token, account, hcarries, hissued⟩ hno
  have hopen : ∀ token account, request.Carries "sessionId" token →
      Issued first events token account →
      answer = state.server.useDeclaration state.context declaration (some account.uuid) path
        request.body := by
    intro token account hcarries hissued
    rw [hanswer, (hgate (some account.uuid)).2 ⟨token, account, hcarries, hissued, rfl⟩]
  refine ⟨⟨?_, ?_⟩, ?_, ?_⟩
  · intro hstatus
    exact Classical.byContradiction fun hno => hstatus (by rw [hclosed hno]; rfl)
  · rintro ⟨token, account, hcarries, hissued⟩
    rw [hopen token account hcarries hissued]
    exact state.server.status_useDeclaration_ne _ _ _ _ _
  · intro token account hcarries hissued hstatus
    have huse := hopen token account hcarries hissued
    rw [huse] at hstatus
    obtain ⟨record, stored, hparse, happend, hresponse⟩ :=
      state.server.append_of_status_useDeclaration state.context hstatus
    rw [← huse] at happend hresponse
    exact ⟨stored, ⟨record, hparse, happend, hresponse⟩, DataFile.member?_author_of_append happend⟩
  · intro hno
    rw [hclosed hno]
    exact ⟨rfl, rfl, rfl, rfl⟩

/-! ### A board of notes -/

/-- Notes can be added by users. -/
def notes : Declaration :=
  { name := "notes", method := .post, data := "notes.json", route := "/notes", auth := true
    server := "board" }

def boardDecl : ServerDecl := { id := "board", users := true }

def boardAccounts : Accounts :=
  Dictionary.empty.insert "ada" ⟨Sha256.hexDigest "secret", "identifier of ada"⟩

/-- An empty workspace; identifiers are told apart by their length. -/
def boardContext : Context :=
  { machine := .bare, config := {}, sources := .empty, box := ⟨[]⟩, files := .empty
    ids := ⟨fun n => String.ofList (List.replicate n 'x'), 1⟩ }

theorem fresh_boardContext : boardContext.ids.Fresh := by
  intro i j h
  have hlength := congrArg (fun s => s.toList.length) h
  simpa [boardContext] using hlength

def adaLogin : Request :=
  { method := "POST", path := "/login", body := Bytes.ofText "username=ada&password=secret" }

def adaNote : Request :=
  { method := "POST", path := "/api/notes",
    cookie := some "sessionId=y; theme=dark; sessionId=\"x\""
    body := Bytes.ofText "\x7b\"text\":\"hello\",\"author\":\"somebody else\"\x7d" }

/-- Ada logs in and adds a note: it is stored under her identifier, whatever the note says. -/
theorem auth_gate_board :
    let first := start boardDecl boardAccounts boardContext
    let events := [.declare notes, .request adaLogin]
    let state := first.run events
    (state.answer adaNote).response.status = 201 ∧
      ∃ token account stored, adaNote.Carries "sessionId" token ∧
        Issued first events token account ∧
        Stored state adaNote notes (some account.uuid) stored ∧
        stored.member? "author" = some (.string account.uuid) := by
  intro first events state
  have hstatus : (state.answer adaNote).response.status = 201 := by decide +kernel
  obtain ⟨hopen, hsigned, -⟩ :=
    auth_gate boardDecl boardAccounts boardContext fresh_boardContext events
    adaNote notes (by decide +kernel) rfl
  obtain ⟨token, account, hcarries, hissued⟩ := hopen.1 (by rw [hstatus]; decide)
  obtain ⟨stored, hstored, hauthor⟩ := hsigned token account hcarries hissued hstatus
  exact ⟨hstatus, token, account, stored, hcarries, hissued, hstored, hauthor⟩

end Serving

end SiteScript.Web
