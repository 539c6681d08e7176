import Mathlib.Control.Monad.Basic
import SiteScript.Proofs.Web.Accounts
import SiteScript.Proofs.Web.AuthGate
import SiteScript.Proofs.Web.Frame

/-!
# SiteScript.Proofs.Web.UserStore

The accounts of one server, over whole runs in which only the server writes their file.

1. What a form gives is a field that is there and not empty (`Given`); the answers to a registration
   and to a login depend on that and on the accounts alone (`register_status`, `login_response`).
2. Whatever happens, the accounts stay as they are or get a new one, under a name that was not taken
   and with an identifier that was not handed out before; they are kept in the file from then on
   (`StoreEffect`, `store_step`).
3. So accounts are never changed and never lost, no two that were registered share an identifier, and
   what is loaded from the workspace after a registration is what the server knows
   (`accounts_of_run`). -/

namespace SiteScript.Web

/-! ## Forms -/

/-- A form gives a field a value: the field is there and not empty. -/
def Given (body : Bytes) (field value : String) : Prop :=
  (Form.parse body).get? field = some value ∧ value ≠ ""

theorem filled?_eq_some {body : Bytes} {field value : String} :
    Form.filled? (Form.parse body) field = some value ↔ Given body field value := by
  simp [Form.filled?, Given, Option.filter_eq_some_iff]

theorem filled?_eq_none {body : Bytes} {field : String} :
    Form.filled? (Form.parse body) field = none ↔ ∀ value, ¬ Given body field value := by
  simp only [← filled?_eq_some, Option.eq_none_iff_forall_ne_some, ne_eq]

theorem Given.unique {body : Bytes} {field value other : String} (h : Given body field value)
    (hother : Given body field other) : other = value :=
  Option.some.inj (hother.1.symm.trans h.1)

namespace Server

variable (server : Server) (context : Context) {body : Bytes} {username password : String}

/-! ## Registrations and logins -/

theorem register_taken (huser : Given body "username" username)
    (htaken : server.accounts.contains username = true) :
    server.register context body = server.answer context conflict := by
  rw [register, credentials, filled?_eq_some.2 huser]
  exact if_pos htaken

theorem register_incomplete (huser : Given body "username" username)
    (hfree : server.accounts.contains username = false)
    (hpassword : ∀ password, ¬ Given body "password" password) :
    server.register context body = server.answer context badCredentials := by
  rw [register, credentials, filled?_eq_some.2 huser, filled?_eq_none.2 hpassword]
  exact if_neg (by simp [hfree])

theorem register_complete (huser : Given body "username" username)
    (hfree : server.accounts.contains username = false)
    (hpassword : Given body "password" password) :
    server.register context body = server.addAccount context username password := by
  rw [register, credentials, filled?_eq_some.2 huser, filled?_eq_some.2 hpassword]
  exact if_neg (by simp [hfree])

/-- Adding an account succeeds, or fails as what goes wrong inside does. -/
theorem status_addAccount (username password : String) :
    (server.addAccount context username password).response.status = 302 ∨
      (server.addAccount context username password).response.status = 500 := by
  rw [addAccount_eq]
  split
  · exact .inl rfl
  · exact .inr rfl

/-- **A registration is turned down** for a name that is taken, and else for a missing password. -/
theorem register_status (huser : Given body "username" username) :
    ((server.register context body).response.status = 409 ↔
      server.accounts.contains username = true) ∧
    ((server.register context body).response.status = 400 ↔
      server.accounts.contains username = false ∧ ∀ password, ¬ Given body "password" password) := by
  cases htaken : server.accounts.contains username with
  | true =>
      rw [register_taken server context huser htaken]
      simp [conflict, Response.html, Response.ofText]
  | false =>
      by_cases hpassword : ∀ password, ¬ Given body "password" password
      · rw [register_incomplete server context huser htaken hpassword]
        simp [badCredentials, Response.html, Response.ofText, hpassword]
      · obtain ⟨password, hgiven⟩ := Classical.not_forall_not.1 hpassword
        rw [register_complete server context huser htaken hgiven]
        rcases server.status_addAccount context username password with hstatus | hstatus <;>
          simp [hstatus, hpassword]

/-- **A login succeeds** exactly with the password of an account; otherwise it is turned down. -/
theorem login_response (huser : Given body "username" username)
    (hpassword : Given body "password" password) :
    ((∃ account, server.accounts.get? username = some account ∧
        account.passwordHash = Sha256.hexDigest password) →
      (server.login context body).response =
        .redirect "/" (some (server.sessions.cookieText context.ids.draw.1))) ∧
    ((¬ ∃ account, server.accounts.get? username = some account ∧
        account.passwordHash = Sha256.hexDigest password) →
      server.login context body = server.answer context unauthorized) := by
  rw [login, credentials, filled?_eq_some.2 huser, filled?_eq_some.2 hpassword]
  dsimp only
  cases hverify : server.accounts.verify? username password with
  | some userId =>
      obtain ⟨account, haccount, hhash, -⟩ := Accounts.verify?_eq_some.1 hverify
      exact ⟨fun _ => rfl, fun hno => absurd ⟨account, haccount, hhash⟩ hno⟩
  | none =>
      refine ⟨?_, fun _ => rfl⟩
      rintro ⟨account, haccount, hhash⟩
      rw [Accounts.verify?_eq_some.2 ⟨account, haccount, hhash, rfl⟩] at hverify
      cases hverify

end Server

namespace Serving

variable (state : Serving)

/-! ## The file of the accounts -/

/-- The accounts that the workspace keeps. -/
def stored : Except Error (Option Accounts) :=
  Accounts.load state.context.box state.context.files

/-- Nothing disturbs the file of the accounts: a registration that adds an account can write it, and
any other request leaves what it holds alone. -/
def KeepsStore : Event → Prop
  | .request request =>
    (state.server.IsRegistration request → ∀ username password,
      Given request.body "username" username → Given request.body "password" password →
      state.server.accounts.contains username = false →
      ((state.server.accounts.add username password state.context.ids).1.save state.context.box
        state.context.files).1 = .ok ()) ∧
    (¬ state.server.IsRegistration request →
      (state.step (.request request)).stored = state.stored)
  | .declare _ | .assign _ _ => True

/-- None of some events disturbs the file of the accounts. -/
def Undisturbed (state : Serving) : List Event → Prop
  | [] => True
  | event :: events => state.KeepsStore event ∧ Undisturbed (state.step event) events

theorem undisturbed_append {state : Serving} {events more : List Event} :
    state.Undisturbed (events ++ more) ↔
      state.Undisturbed events ∧ (state.run events).Undisturbed more := by
  induction events generalizing state with
  | nil => simp [Undisturbed, run]
  | cons event events ih =>
      rw [List.cons_append, Undisturbed, Undisturbed, ih, and_assoc]
      rfl

/-- What an event does to the accounts: to those the server knows, and to those in the workspace. -/
inductive StoreEffect (next : Serving) : Prop where
  /-- They stay as they are. -/
  | quiet (haccounts : next.server.accounts = state.server.accounts)
      (hstored : next.stored = state.stored)
  /-- There is a new one, and all are written to the workspace. -/
  | added {username password : String} (hnew : state.server.accounts.contains username = false)
      (haccounts : next.server.accounts = state.server.accounts.insert username
        ⟨Sha256.hexDigest password, state.context.ids.draw.1⟩)
      (hids : next.context.ids = state.context.ids.draw.2)
      (hstored : next.stored = .ok (some next.server.accounts))

/-- An account that is added and written. -/
theorem addAccount_of_save {username password : String}
    (hsave : ((state.server.accounts.add username password state.context.ids).1.save
      state.context.box state.context.files).1 = .ok ()) :
    let answer := state.server.addAccount state.context username password
    answer.response = .redirect "/login.html" none ∧
    answer.server.accounts = state.server.accounts.insert username
      ⟨Sha256.hexDigest password, state.context.ids.draw.1⟩ ∧
    answer.context.ids = state.context.ids.draw.2 ∧
    stored ⟨answer.server, answer.context⟩ = .ok (some answer.server.accounts) := by
  rw [Server.addAccount_eq]
  rcases hwritten : (state.server.accounts.add username password state.context.ids).1.save
    state.context.box state.context.files with ⟨result, files⟩
  rw [hwritten] at hsave
  obtain rfl : result = .ok () := hsave
  exact ⟨rfl, rfl, rfl, Accounts.load_of_save hwritten⟩

/-- A registration leaves the accounts alone, or adds the one it asks for. -/
theorem register_effect {request : Request} (hasked : state.server.IsRegistration request)
    (hkeeps : state.KeepsStore (.request request)) :
    state.StoreEffect (state.step (.request request)) := by
  have hanswer : state.answer request = state.server.register state.context request.body :=
    state.server.dispatch_registration state.context request hasked
  rw [step, hanswer]
  cases huser : Form.filled? (Form.parse request.body) "username" with
  | none =>
      have hnobody : state.server.register state.context request.body =
          state.server.answer state.context Server.badCredentials := by
        rw [Server.register, Server.credentials, huser]
        rfl
      rw [hnobody]
      exact .quiet rfl rfl
  | some username =>
      have hgiven := filled?_eq_some.1 huser
      cases htaken : state.server.accounts.contains username with
      | true =>
          rw [Server.register_taken _ _ hgiven htaken]
          exact .quiet rfl rfl
      | false =>
          cases hpassword : Form.filled? (Form.parse request.body) "password" with
          | none =>
              rw [Server.register_incomplete _ _ hgiven htaken (filled?_eq_none.1 hpassword)]
              exact .quiet rfl rfl
          | some password =>
              have hgiven' := filled?_eq_some.1 hpassword
              obtain ⟨-, haccounts, hids, hstored⟩ := state.addAccount_of_save
                (hkeeps.1 hasked username password hgiven hgiven' htaken)
              rw [Server.register_complete _ _ hgiven htaken hgiven']
              exact .added htaken haccounts hids hstored

/-- **One event**: the accounts stay as they are or get a new one, and so does the workspace. -/
theorem store_step {event : Event} (hkeeps : state.KeepsStore event) :
    state.StoreEffect (state.step event) := by
  cases event with
  | declare declaration => exact .quiet rfl rfl
  | assign key value => exact .quiet rfl rfl
  | request request =>
      by_cases hasked : state.server.IsRegistration request
      · exact state.register_effect hasked hkeeps
      · refine .quiet ?_ (hkeeps.2 hasked)
        rcases (state.server.dispatch_outcome state.context request).frame.accounts with
          hsame | ⟨_, _, hregisters, -⟩
        · exact hsame
        · exact absurd hregisters.1 hasked

/-- The settings of the server stay as they are. -/
theorem decl_run (events : List Event) : (state.run events).server.decl = state.server.decl := by
  induction events generalizing state with
  | nil => rfl
  | cons event events ih =>
      refine (ih (state.step event)).trans ?_
      cases event with
      | declare | assign => rfl
      | request request =>
          have hsettings :=
            (state.server.dispatch_outcome state.context request).frame.settings
          exact (congrArg Server.decl hsettings).trans rfl

/-- Identifiers are handed out in the order of the supply. -/
theorem ids_step (event : Event) :
    (state.step event).context.ids.id = state.context.ids.id ∧
      state.context.ids.drawn ≤ (state.step event).context.ids.drawn := by
  cases event with
  | declare | assign => exact ⟨rfl, Nat.le_refl _⟩
  | request request =>
      have houtcome := state.server.dispatch_outcome state.context request
      rw [step, answer]
      generalize state.server.dispatch state.context request = answer at houtcome
      cases houtcome with
      | loggedIn => exact ⟨rfl, Nat.le_succ _⟩
      | registered => simp [IdSupply.draw]
      | appended => exact ⟨rfl, Nat.le_refl _⟩
      | answered => exact ⟨rfl, Nat.le_refl _⟩

/-! ## Whole runs -/

/-- An account that is there stays as it is, whatever happens. -/
theorem get?_step (event : Event) {name : String} {account : Account}
    (h : state.server.accounts.get? name = some account) :
    (state.step event).server.accounts.get? name = some account := by
  cases event with
  | declare | assign => exact h
  | request request =>
      have hframe := (state.server.dispatch_outcome state.context request).frame.accounts
      rw [step, answer]
      rcases hframe with hsame | ⟨username, _, ⟨-, -, hnew⟩, hadded⟩
      · rw [hsame, h]
      · rw [hadded, Dictionary.get?_insert, if_neg, h]
        rintro rfl
        simp [Dictionary.contains, h] at hnew

theorem get?_run (events : List Event) {name : String} {account : Account}
    (h : state.server.accounts.get? name = some account) :
    (state.run events).server.accounts.get? name = some account := by
  induction events generalizing state with
  | nil => exact h
  | cons event events ih => exact ih (state.step event) (state.get?_step event h)

/-- Once the workspace keeps the accounts that the server knows, it goes on doing so. -/
theorem stored_run {state : Serving} {events : List Event} (hkept : state.Undisturbed events)
    (h : state.stored = .ok (some state.server.accounts)) :
    (state.run events).stored = .ok (some (state.run events).server.accounts) := by
  induction events generalizing state with
  | nil => exact h
  | cons event events ih =>
      refine ih hkept.2 ?_
      cases state.store_step hkept.1 with
      | quiet haccounts hstored => rw [haccounts, hstored, h]
      | added _ _ _ hstored => exact hstored

/-- The invariant: every account was there at the start, or has an identifier that was handed out
by now. -/
structure Registered (first state : Serving) : Prop where
  supply : state.context.ids.id = first.context.ids.id
  drawn : ∀ name account, state.server.accounts.get? name = some account →
    first.server.accounts.get? name = some account ∨
      ∃ n < state.context.ids.drawn, account.uuid = first.context.ids.id n

theorem registered_step {first state : Serving} {event : Event} (hkeeps : state.KeepsStore event)
    (h : Registered first state) : Registered first (state.step event) := by
  obtain ⟨hid, hdrawn⟩ := state.ids_step event
  refine ⟨hid.trans h.supply, ?_⟩
  have hold : ∀ name account, state.server.accounts.get? name = some account →
      first.server.accounts.get? name = some account ∨
        ∃ n < (state.step event).context.ids.drawn, account.uuid = first.context.ids.id n := by
    intro name account hget
    rcases h.drawn name account hget with hfirst | ⟨n, hn, huuid⟩
    · exact .inl hfirst
    · exact .inr ⟨n, Nat.lt_of_lt_of_le hn hdrawn, huuid⟩
  cases state.store_step hkeeps with
  | quiet haccounts =>
      rw [haccounts]
      exact hold
  | @added username password _ haccounts hids =>
      intro name account hget
      rw [haccounts, Dictionary.get?_insert] at hget
      split at hget
      · cases hget
        refine .inr ⟨state.context.ids.drawn, ?_, congrFun h.supply _⟩
        rw [hids]
        exact Nat.lt_succ_self _
      · exact hold name account hget

theorem registered_run {first : Serving} {events : List Event} (hkept : first.Undisturbed events) :
    Registered first (first.run events) := by
  have hgeneral : ∀ {state : Serving} {events : List Event}, state.Undisturbed events →
      Registered first state → Registered first (state.run events) := by
    intro state events hkept h
    induction events generalizing state with
    | nil => exact h
    | cons event events ih => exact ih hkept.2 (registered_step hkept.1 h)
  exact hgeneral hkept ⟨rfl, fun _ _ h => .inl h⟩

/-- **A complete registration with a free name** adds just the account of that name, under an
identifier that was never handed out before, and the workspace keeps it. -/
theorem Registered.register {first state : Serving} (h : Registered first state)
    (hfresh : first.context.ids.Fresh) {request : Request} {username password : String}
    (hasked : state.server.IsRegistration request)
    (huser : Given request.body "username" username)
    (hpassword : Given request.body "password" password)
    (hfree : state.server.accounts.contains username = false)
    (hkeeps : state.KeepsStore (.request request)) :
    ∃ uuid, (state.answer request).response = .redirect "/login.html" none ∧
      (state.answer request).server.accounts =
        state.server.accounts.insert username ⟨Sha256.hexDigest password, uuid⟩ ∧
      (∀ n < state.context.ids.drawn, state.context.ids.id n ≠ uuid) ∧
      (∀ name account, state.server.accounts.get? name = some account →
        account.uuid = uuid → first.server.accounts.get? name = some account) ∧
      (state.step (.request request)).stored = .ok (some (state.answer request).server.accounts) := by
  obtain ⟨hresponse, haccounts, -, hstored⟩ := state.addAccount_of_save
    (hkeeps.1 hasked username password huser hpassword hfree)
  have hadded : state.server.addAccount state.context username password = state.answer request := by
    rw [answer, state.server.dispatch_registration state.context request hasked,
      Server.register_complete _ _ huser hfree hpassword]
  rw [hadded] at hresponse haccounts hstored
  -- the identifier has the next number, and no number is handed out twice
  have hunused : ∀ n < state.context.ids.drawn,
      state.context.ids.id n ≠ state.context.ids.draw.1 := by
    intro n hn heq
    rw [IdSupply.draw, h.supply] at heq
    exact absurd (hfresh _ _ heq) (Nat.ne_of_lt hn)
  refine ⟨state.context.ids.draw.1, hresponse, haccounts, hunused, ?_, hstored⟩
  intro name account hget huuid
  rcases h.drawn name account hget with hfirst | ⟨n, hn, hn'⟩
  · exact hfirst
  · rw [huuid, ← h.supply] at hn'
    exact absurd hn'.symm (hunused n hn)

/-- A registration that is redirected has left the workspace with the accounts of the server. -/
theorem stored_of_redirect {request : Request} (hasked : state.server.IsRegistration request)
    (hkeeps : state.KeepsStore (.request request))
    (hlocation : (state.answer request).response.location = some "/login.html") :
    (state.step (.request request)).stored =
      .ok (some (state.step (.request request)).server.accounts) := by
  have hanswer : state.answer request = state.server.register state.context request.body :=
    state.server.dispatch_registration state.context request hasked
  rw [hanswer, Server.register] at hlocation
  rcases hform : Server.credentials request.body with ⟨username, password⟩
  rw [hform] at hlocation
  dsimp only at hlocation
  split at hlocation
  · cases hlocation
  next hfree =>
    split at hlocation
    next username password =>
      obtain ⟨huser, hpassword⟩ := Prod.mk.inj hform
      have hgiven := filled?_eq_some.1 huser
      have hgiven' := filled?_eq_some.1 hpassword
      have hnew : state.server.accounts.contains username = false := by simpa using hfree
      rw [step, hanswer, Server.register_complete _ _ hgiven hnew hgiven']
      exact (state.addAccount_of_save
        (hkeeps.1 hasked username password hgiven hgiven' hnew)).2.2.2
    next => cases hlocation

/-- **The accounts of one server, over whole runs** in which every write of their file succeeds and
nothing else writes it.  At any time of a run:

* an account that was there at some time before is still there, unchanged;
* a registration with a name is turned down with 409 exactly when the name is taken, and else with
  400 exactly when it has no password; else it is redirected and adds just the one account of that
  name, with the digest of the password and an identifier that was never handed out before, so that
  no account registered in the run has it, and the workspace keeps just these accounts;
* a login with name and password succeeds exactly when there is an account of that name with the
  digest of that password, and is turned down otherwise;
* when the accounts were loaded from the workspace at the start, or somebody has registered since,
  what can be loaded from it is exactly what the server knows. -/
theorem accounts_of_run (decl : ServerDecl) (husers : decl.users = true) (accounts : Accounts)
    (context : Context) (hfresh : context.ids.Fresh) (events : List Event)
    (hkept : (start decl accounts context).Undisturbed events) :
    let first := start decl accounts context
    let state := first.run events
    (∀ before after, events = before ++ after → ∀ name account,
      (first.run before).server.accounts.get? name = some account →
        state.server.accounts.get? name = some account) ∧
    (∀ request username, request.method = "POST" → request.path = "/register" →
      Given request.body "username" username →
      let answer := state.answer request
      (answer.response.status = 409 ↔ state.server.accounts.contains username = true) ∧
      (answer.response.status = 400 ↔ state.server.accounts.contains username = false ∧
        ∀ password, ¬ Given request.body "password" password) ∧
      ∀ password, Given request.body "password" password →
        state.server.accounts.contains username = false → state.KeepsStore (.request request) →
        ∃ uuid, answer.response = .redirect "/login.html" none ∧
          answer.server.accounts =
            state.server.accounts.insert username ⟨Sha256.hexDigest password, uuid⟩ ∧
          (∀ n < state.context.ids.drawn, state.context.ids.id n ≠ uuid) ∧
          (∀ name account, state.server.accounts.get? name = some account →
            account.uuid = uuid → accounts.get? name = some account) ∧
          (state.step (.request request)).stored = .ok (some answer.server.accounts)) ∧
    (∀ request username password, request.method = "POST" → request.path = "/login" →
      Given request.body "username" username → Given request.body "password" password →
      let answer := state.answer request
      let right := ∃ account, state.server.accounts.get? username = some account ∧
        account.passwordHash = Sha256.hexDigest password
      (right → ∃ cookie, answer.response = .redirect "/" (some cookie)) ∧
      (¬ right → answer.response = Server.unauthorized)) ∧
    ((first.stored = .ok (some accounts) ∨ ∃ before request after,
        events = before ++ .request request :: after ∧
        request.method = "POST" ∧ request.path = "/register" ∧
        ((first.run before).answer request).response.location = some "/login.html") →
      state.stored = .ok (some state.server.accounts)) := by
  intro first state
  have husers' : ∀ events, (first.run events).server.decl.users = true := by
    intro events
    rw [decl_run]
    exact husers
  have hregistered := registered_run hkept
  refine ⟨?_, ?_, ?_, ?_⟩
  · rintro before after rfl name account hget
    have hrun : state = (first.run before).run after := List.foldl_append
    rw [hrun]
    exact get?_run _ after hget
  · intro request username hmethod hpath huser answer
    have hasked : state.server.IsRegistration request := ⟨husers' events, hmethod, hpath⟩
    have hanswer : answer = state.server.register state.context request.body :=
      state.server.dispatch_registration state.context request hasked
    obtain ⟨htaken, hincomplete⟩ := state.server.register_status state.context huser
    rw [← hanswer] at htaken hincomplete
    refine ⟨htaken, hincomplete, ?_⟩
    exact fun password hpassword hfree hkeeps =>
      hregistered.register hfresh hasked huser hpassword hfree hkeeps
  · intro request username password hmethod hpath huser hpassword answer right
    have hasked : state.server.IsLogin request := ⟨husers' events, hmethod, hpath⟩
    have hanswer : answer = state.server.login state.context request.body :=
      state.server.dispatch_login state.context request hasked
    obtain ⟨hright, hwrong⟩ := state.server.login_response state.context huser hpassword
    rw [hanswer]
    refine ⟨fun h => ⟨_, hright h⟩, ?_⟩
    intro h
    rw [hwrong h]
    rfl
  · rintro (hstored | ⟨before, request, after, rfl, hmethod, hpath, hlocation⟩)
    · exact stored_run hkept hstored
    · have hrun : state = ((first.run before).step (.request request)).run after :=
        List.foldl_append
      obtain ⟨-, hkeeps, hafter⟩ := undisturbed_append.1 hkept
      rw [hrun]
      exact stored_run hafter
        ((first.run before).stored_of_redirect ⟨husers' before, hmethod, hpath⟩ hkeeps hlocation)

/-! ### A board without accounts -/

def adaRegistration : Request :=
  { method := "POST", path := "/register", body := Bytes.ofText "username=ada&password=secret" }

theorem given_ada : Given adaRegistration.body "username" "ada" ∧
    Given adaRegistration.body "password" "secret" :=
  ⟨⟨by decide +kernel, by decide⟩, by decide +kernel, by decide⟩

/-- Ada's registration can write the file of the accounts. -/
theorem undisturbed_adaRegistration :
    (start boardDecl .empty boardContext).Undisturbed [.request adaRegistration] := by
  refine ⟨⟨?_, fun hother => absurd ⟨rfl, rfl, rfl⟩ hother⟩, trivial⟩
  intro _ username password huser hpassword _
  obtain rfl := given_ada.1.unique huser
  obtain rfl := given_ada.2.unique hpassword
  decide +kernel

/-- The board after Ada's registration. -/
def adaRegistered : Serving :=
  (start boardDecl .empty boardContext).run [.request adaRegistration]

/-- Ada registers; then her name is taken, she can log in, and the workspace keeps her account. -/
theorem accounts_of_run_board :
    (adaRegistered.answer adaRegistration).response.status = 409 ∧
      (∃ cookie, (adaRegistered.answer adaLogin).response = .redirect "/" (some cookie)) ∧
      adaRegistered.stored = .ok (some adaRegistered.server.accounts) := by
  have hada : adaRegistered.server.accounts.get? "ada" =
      some ⟨Sha256.hexDigest "secret", "x"⟩ := by decide +kernel
  have hlocation : (((start boardDecl .empty boardContext).run []).answer
      adaRegistration).response.location = some "/login.html" := by decide +kernel
  obtain ⟨-, hregistration, hlogin, hstored⟩ := accounts_of_run boardDecl rfl .empty boardContext
    fresh_boardContext [.request adaRegistration] undisturbed_adaRegistration
  rw [adaRegistered] at *
  refine ⟨?_, ?_, ?_⟩
  · refine (hregistration adaRegistration "ada" rfl rfl given_ada.1).1.2 ?_
    rw [Dictionary.contains, hada]
    rfl
  · exact (hlogin adaLogin "ada" "secret" rfl rfl given_ada.1 given_ada.2).1 ⟨_, hada, rfl⟩
  · exact hstored (.inr ⟨[], adaRegistration, [], rfl, rfl, rfl, hlocation⟩)

end Serving

end SiteScript.Web
