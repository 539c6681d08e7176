import SiteScript.Proofs.Web.UserStore

/-!
# SiteScript.Proofs.Web.RefusedRegistrations

What a registration leaves behind that is not answered by sending the client on to the login page.

1. One that is turned down for its form or for its name changes nothing (`register_turned_down`).
2. One that is in order adds the account first and writes the file of the accounts then.  When the
   file cannot be written, the client is told of a failure, and the account stays
   (`addAccount_unwritten`): it is good for logins, and its name is taken, for as long as the server
   runs (`refused_registration`, `account_of_failed_registration`). -/

namespace SiteScript.Web

namespace Server

variable (server : Server) (context : Context) {body : Bytes}

/-- A registration without a name and a password for a free name is turned down, and nothing else
happens. -/
theorem register_turned_down
    (h : ∀ username password, Given body "username" username → Given body "password" password →
      server.accounts.contains username = true) :
    ∃ response, server.register context body = server.answer context response := by
  cases huser : Form.filled? (Form.parse body) "username" with
  | none =>
      refine ⟨badCredentials, ?_⟩
      rw [register, credentials, huser]
      rfl
  | some username =>
      have hgiven := filled?_eq_some.1 huser
      cases htaken : server.accounts.contains username with
      | true => exact ⟨conflict, register_taken server context hgiven htaken⟩
      | false =>
          have hmissing : ∀ password, ¬ Given body "password" password := by
            intro password hpassword
            rw [h username password hgiven hpassword] at htaken
            cases htaken
          exact ⟨badCredentials, register_incomplete server context hgiven htaken hmissing⟩

/-- The accounts with a new one cannot be written to the workspace. -/
def CannotKeep (username password : String) (error : HostError) : Prop :=
  ((server.accounts.add username password context.ids).1.save context.box context.files).1 =
    .error error

/-- An account that is added without sending the client on was not written, and is there. -/
theorem addAccount_unwritten {username password : String}
    (h : (server.addAccount context username password).response.location ≠ some "/login.html") :
    ∃ error, server.CannotKeep context username password error ∧
      (server.addAccount context username password).response = .ofRefusal (.ofHost error) ∧
      (server.addAccount context username password).server.accounts =
        server.accounts.insert username ⟨Sha256.hexDigest password, context.ids.draw.1⟩ := by
  simp only [CannotKeep]
  rw [addAccount_eq] at h ⊢
  split at h
  next => exact absurd rfl h
  next error files hsave => exact ⟨error, by rw [hsave], rfl, rfl⟩

end Server

namespace Serving

variable (state : Serving)

/-- **What a refused registration leaves behind.**  If it had no name and password for a free name,
it changes nothing at all.  Otherwise the file of the accounts could not be written, as the answer
says, and the account is there nevertheless: whatever happens later, a login with this name and
password succeeds, and the name is taken. -/
theorem refused_registration {request : Request} (hasked : state.server.IsRegistration request)
    (hrefused : (state.answer request).response.location ≠ some "/login.html") :
    ((∀ username password, Given request.body "username" username →
        Given request.body "password" password →
        state.server.accounts.contains username = true) →
      state.step (.request request) = state) ∧
    ∀ username password, Given request.body "username" username →
      Given request.body "password" password → state.server.accounts.contains username = false →
      (∃ error, state.server.CannotKeep state.context username password error ∧
        (state.answer request).response = .ofRefusal (.ofHost error)) ∧
      (state.step (.request request)).server.accounts = state.server.accounts.insert username
        ⟨Sha256.hexDigest password, state.context.ids.draw.1⟩ ∧
      ∀ events, let later := (state.step (.request request)).run events
        (∀ login, later.server.IsLogin login → Given login.body "username" username →
          Given login.body "password" password →
          ∃ cookie, (later.answer login).response = .redirect "/" (some cookie)) ∧
        (∀ again, later.server.IsRegistration again → Given again.body "username" username →
          (later.answer again).response = Server.conflict) := by
  have hanswer : state.answer request = state.server.register state.context request.body :=
    state.server.dispatch_registration state.context request hasked
  constructor
  · intro hnone
    obtain ⟨response, hquiet⟩ := state.server.register_turned_down state.context hnone
    rw [step, hanswer, hquiet]
    rfl
  · intro username password huser hpassword hfree
    rw [Server.register_complete _ _ huser hfree hpassword] at hanswer
    rw [hanswer] at hrefused
    obtain ⟨error, hkept, hresponse, haccounts⟩ :=
      state.server.addAccount_unwritten state.context hrefused
    have hstep : (state.step (.request request)).server.accounts = state.server.accounts.insert
        username ⟨Sha256.hexDigest password, state.context.ids.draw.1⟩ := by
      rw [step, hanswer, haccounts]
    refine ⟨⟨error, hkept, hanswer ▸ hresponse⟩, hstep, ?_⟩
    intro events later
    -- nothing that happens later takes the account away
    have haccount : later.server.accounts.get? username =
        some ⟨Sha256.hexDigest password, state.context.ids.draw.1⟩ := by
      refine get?_run _ events ?_
      rw [hstep, Dictionary.get?_insert, if_pos rfl]
    constructor
    · intro login hlogin huser' hpassword'
      obtain ⟨hright, -⟩ := later.server.login_response later.context huser' hpassword'
      rw [answer, later.server.dispatch_login later.context login hlogin]
      exact ⟨_, hright ⟨_, haccount, rfl⟩⟩
    · intro again hagain huser'
      have htaken : later.server.accounts.contains username = true := by
        rw [Dictionary.contains, haccount]
        rfl
      rw [answer, later.server.dispatch_registration later.context again hagain,
        Server.register_taken _ _ huser' htaken]
      rfl

/-! ### A board that cannot keep accounts -/

/-- The board with a directory in the place of the file of the accounts. -/
def blockedBoard : Serving :=
  start boardDecl .empty
    { boardContext with files := FileSystem.empty.put [Accounts.fileName] .directory }

/-- What happened on the board: Ada's registration failed, and she logged in. -/
def afterFailure : Serving :=
  (blockedBoard.step (.request adaRegistration)).run [.request adaLogin]

/-- Ada can log in once more, and her name is taken. -/
theorem refused_registration_board :
    (∃ cookie, (afterFailure.answer adaLogin).response = .redirect "/" (some cookie)) ∧
      (afterFailure.answer adaRegistration).response = Server.conflict := by
  have hrefused : (blockedBoard.answer adaRegistration).response.location ≠ some "/login.html" := by
    decide +kernel
  have hdecl : afterFailure.server.decl = blockedBoard.server.decl := by
    rw [afterFailure, decl_run]
    exact blockedBoard.decl_run [.request adaRegistration]
  have husers : afterFailure.server.decl.users = true := by
    rw [hdecl]
    rfl
  obtain ⟨-, hleft⟩ := blockedBoard.refused_registration ⟨rfl, rfl, rfl⟩ hrefused
  obtain ⟨-, -, hlater⟩ := hleft "ada" "secret" given_ada.1 given_ada.2 rfl
  obtain ⟨hlogin, htaken⟩ := hlater [.request adaLogin]
  rw [← afterFailure] at hlogin htaken
  exact ⟨hlogin adaLogin ⟨husers, rfl, rfl⟩ given_ada.1 given_ada.2,
    htaken adaRegistration ⟨husers, rfl, rfl⟩ given_ada.1⟩

/-- A registration is answered as a failure, and then a login with its name and password succeeds
and the name is taken. -/
theorem account_of_failed_registration :
    let state := blockedBoard
    let next := state.step (.request adaRegistration)
    (state.answer adaRegistration).response.status = 500 ∧
      state.server.accounts.get? "ada" = none ∧
      next.server.accounts.get? "ada" = some ⟨Sha256.hexDigest "secret", "x"⟩ ∧
      (state.answer adaLogin).response.status = 401 ∧
      (next.answer adaLogin).response.location = some "/" ∧
      (next.answer adaRegistration).response.status = 409 := by
  decide +kernel

end Serving

end SiteScript.Web
