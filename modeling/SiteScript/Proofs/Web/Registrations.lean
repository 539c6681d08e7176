import SiteScript.Proofs.Program
import SiteScript.Proofs.Web.Accounts
import SiteScript.Proofs.Web.Dispatch

/-!
# SiteScript.Proofs.Web.Registrations

The accounts of a run with several servers.  Each server loads a copy of the accounts when it is
started, and each registration writes the copy of its server over the one file that all of them
share.  So

1. after a registration the file holds the copy of the server that answered it, and nothing else
   (`Registers.stored_step`);
2. an account stays in the file as long as no other server registers anybody that was running
   before, because later ones have it in their copies (`registered_accounts_kept`);
3. a server that was running before knows nothing of the account, and the next registration on it
   takes the account out of the file (`account_lost`). -/

namespace SiteScript.Web

/-! ## Servers of a run -/

/-- The server that a task answers requests with. -/
def listening? : Task → Option Server
  | .listener server => some server
  | _ => none

/-- Put a server in the place of the one with this number, counted from zero. -/
def setListener (server : Server) : Nat → List Task → List Task
  | _, [] => []
  | 0, .listener _ :: tasks => .listener server :: tasks
  | n + 1, .listener other :: tasks => .listener other :: setListener server n tasks
  | n, task :: tasks => task :: setListener server n tasks

theorem filterMap_setListener (server : Server) (n : Nat) (tasks : List Task) :
    (setListener server n tasks).filterMap listening? =
      (tasks.filterMap listening?).set n server := by
  fun_induction setListener server n tasks with
  | case1 => rfl
  | case2 => rfl
  | case3 n other tasks ih => simp [listening?, ih]
  | case4 n task tasks hzero hsucc ih =>
      have hnone : listening? task = none := by
        cases task with
        | listener other =>
            cases n with
            | zero => exact absurd rfl (hzero other rfl)
            | succ n => exact absurd rfl (hsucc n other rfl)
        | schedule | secureListener => rfl
      simp [hnone, ih]

namespace Site

/-- The servers of a run, in the order they were started. -/
def servers (context : Context) : List Server := context.tasks.filterMap listening?

/-- The accounts that the workspace of a run keeps. -/
def stored (context : Context) : Except Error (Option Accounts) :=
  Accounts.load context.box context.files

/-- The workspace keeps an account under a name. -/
def Holds (context : Context) (username : String) (account : Account) : Prop :=
  ∃ accounts, stored context = .ok (some accounts) ∧ accounts.get? username = some account

/-! ## Events -/

/-- Something that happens in a run. -/
inductive Event where
  /-- A server is started. -/
  | start (decl : ServerDecl)
  /-- A server, given by its number, gets a request. -/
  | request (n : Nat) (request : Request)
  /-- Anything else, after which the run is in another state. -/
  | other (next : Context)

/-- The state of a run after something happened. -/
def step (context : Context) : Event → Context
  | .start decl => context.startServer decl
  | .request n request =>
    match (servers context)[n]? with
    | none => context
    | some server =>
      let answer := server.dispatch context request
      { answer.context with tasks := setListener answer.server n answer.context.tasks }
  | .other next => next

/-- The state of a run after a sequence of events. -/
def run (context : Context) (events : List Event) : Context := events.foldl step context

@[simp] theorem run_nil (context : Context) : run context [] = context := rfl

@[simp] theorem run_cons (context : Context) (event : Event) (events : List Event) :
    run context (event :: events) = run (step context event) events := rfl

/-- An event writes the file of the accounts only by a registration: other requests leave it as it
is, as does everything else that happens, which does not change the servers either.  A server without
encryption is started without writing files; for encryption, a program may be run that makes the
certificate, which is not to write the accounts. -/
def LeavesAccounts (context : Context) : Event → Prop
  | .start decl => decl.ssl = true → stored (context.startServer decl) = stored context
  | .request n request =>
    (∃ server, (servers context)[n]? = some server ∧ server.IsRegistration request) ∨
      stored (step context (.request n request)) = stored context
  | .other next => servers next = servers context ∧ stored next = stored context

/-- All events of a sequence leave the accounts to registrations. -/
def Undisturbed (context : Context) : List Event → Prop
  | [] => True
  | event :: events => LeavesAccounts context event ∧ Undisturbed (step context event) events

/-- The server with a number answers a request to register with the redirection that tells success;
the account is the one that it has under the name of the request from then on. -/
structure Registers (context : Context) (n : Nat) (server : Server) (request : Request)
    (username : String) (account : Account) : Prop where
  runs : (servers context)[n]? = some server
  asked : server.IsRegistration request
  redirected : (server.dispatch context request).response = .redirect "/login.html" none
  name : (Server.credentials request.body).1 = some username
  account : (server.dispatch context request).server.accounts.get? username = some account

/-! ## Starting a server -/

section Start

variable (context : Context) (decl : ServerDecl)

variable {context} in
/-- What is quiet leaves the servers and the root of the workspace. -/
theorem servers_of_quietly {last : Context} (h : context.Quietly last) :
    servers last = servers context ∧ last.box = context.box := by
  induction h with
  | refl => exact ⟨rfl, rfl⟩
  | tail _ hlast ih =>
      cases hlast with
      | keepAlive task htask =>
          refine ⟨Eq.trans ?_ ih.1, ih.2⟩
          rw [Context.keepAlive, servers, servers, List.filterMap_append]
          cases task with
          | listener server => exact absurd rfl (htask server)
          | schedule | secureListener => exact List.append_nil _
      | _ => exact ih

/-- The accounts that a server is started with. -/
def firstCopy : Accounts := (context.firstAccounts decl).1

variable {context decl} in
theorem firstCopy_of_stored {accounts : Accounts} (h : stored context = .ok (some accounts))
    (husers : decl.users = true) : firstCopy context decl = accounts := by
  rw [stored] at h
  simp only [firstCopy, Context.firstAccounts, husers, if_true, Context.loadAccounts, h]

/-- The server that a start adds, if it can be bound to its address. -/
def added : List Server :=
  match context.binding decl.host decl.port with
  | .bound _ => [{ decl, accounts := firstCopy context decl }]
  | .refused _ | .unnamed _ => []

variable {context decl} in
theorem eq_of_mem_added {server : Server} (h : server ∈ added context decl) :
    server = { decl, accounts := firstCopy context decl } := by
  rw [added] at h
  split at h
  · exact List.mem_singleton.1 h
  all_goals cases h

/-- A server that can be bound to its address is the last one from its start on, with the accounts that
the workspace keeps. -/
theorem servers_startServer :
    servers (context.startServer decl) = servers context ++ added context decl ∧
      (context.startServer decl).box = context.box := by
  have hstarting := context.starting_startServer decl
  generalize context.startServer decl = last at hstarting ⊢
  cases hstarting with
  | listening hbound hready hlast =>
      obtain ⟨hservers, hbox⟩ := servers_of_quietly hready
      obtain ⟨hservers', hbox'⟩ := servers_of_quietly hlast
      refine ⟨hservers'.trans ?_, hbox'.trans hbox⟩
      rw [added, hbound, ← hservers]
      exact List.filterMap_append
  | @failed ready hrefused hready =>
      obtain ⟨hservers, hbox⟩ := servers_of_quietly hready
      have hadded : added context decl = [] := by
        rw [added]
        split
        next address heq => exact absurd heq (hrefused address)
        all_goals rfl
      rw [hadded, List.append_nil]
      exact ⟨hservers, hbox⟩

variable {decl} in
/-- Starting a server without encryption leaves the files. -/
theorem files_startServer (h : decl.ssl = false) :
    (context.startServer decl).files = context.files := by
  have hfirst : (context.firstAccounts decl).2.files = context.files := by
    rw [Context.firstAccounts]
    split
    · rw [Context.loadAccounts]
      split <;> rfl
    · rfl
  have hlistening : ∀ (ready : Context) accounts address,
      (ready.startListening decl accounts address).files = ready.files := by
    intro ready accounts address
    simp only [Context.startListening, h]
    rfl
  rw [Context.startServer]
  generalize context.firstAccounts decl = first at hfirst ⊢
  obtain ⟨accounts, ready⟩ := first
  dsimp only at hfirst ⊢
  split
  · exact (hlistening _ accounts _).trans hfirst
  · exact hfirst
  · exact hfirst

variable {context decl} in
/-- What leaves the accounts to registrations leaves them when it starts a server. -/
theorem stored_startServer (h : LeavesAccounts context (.start decl)) :
    stored (context.startServer decl) = stored context := by
  cases hssl : decl.ssl with
  | true => exact h hssl
  | false => rw [stored, stored, (servers_startServer context decl).2, files_startServer context hssl]

end Start

/-! ## Answering a request -/

/-- What a request does to the accounts: to the copy of its server, and to those that the workspace
keeps. -/
inductive Effect (server : Server) (context : Context) (request : Request) (answer : Answer) :
    Prop where
  /-- The copy stays as it is. -/
  | quiet (hcopy : answer.server.accounts = server.accounts)
      (hregistration : server.IsRegistration request →
        answer.context.files = context.files ∧ answer.response.location = none)
  /-- The copy gets a new account and is written over the file. -/
  | saved {username : String} {account : Account} (hasked : server.IsRegistration request)
      (hname : (Server.credentials request.body).1 = some username)
      (hnew : server.accounts.contains username = false)
      (hcopy : answer.server.accounts = server.accounts.insert username account)
      (hsave : Accounts.save (server.accounts.insert username account) context.box context.files =
        (.ok (), answer.context.files))
      (hredirected : answer.response = .redirect "/login.html" none)
  /-- The copy gets a new account, but the file cannot be written. -/
  | unsaved {username : String} {account : Account}
      (hnew : server.accounts.contains username = false)
      (hcopy : answer.server.accounts = server.accounts.insert username account)
      (hfiles : FileSystem.Extends context.files answer.context.files)
      (hrefused : answer.response.location = none)

theorem addAccount_effect {server : Server} (context : Context) {request : Request}
    {username : String} (password : String) (hasked : server.IsRegistration request)
    (hname : (Server.credentials request.body).1 = some username)
    (hnew : server.accounts.contains username = false) :
    Effect server context request (server.addAccount context username password) := by
  rw [Server.addAccount_eq]
  split
  next files hsave => exact .saved hasked hname hnew rfl hsave rfl
  next error files hsave =>
    exact .unsaved hnew rfl (Sandbox.extends_of_writeFile_error hsave) rfl

theorem dispatch_effect (server : Server) (context : Context) (request : Request) :
    Effect server context request (server.dispatch context request) := by
  by_cases hasked : server.IsRegistration request
  · rw [server.dispatch_registration context request hasked, Server.register]
    rcases hform : Server.credentials request.body with ⟨username, password⟩
    dsimp only
    split
    · exact .quiet rfl fun _ => ⟨rfl, rfl⟩
    next hnew =>
    split
    next username password =>
      exact addAccount_effect context password hasked (by rw [hform]) (by simpa using hnew)
    next => exact .quiet rfl fun _ => ⟨rfl, rfl⟩
  · have houtcome := server.dispatch_outcome context request
    generalize server.dispatch context request = answer at houtcome
    refine .quiet ?_ fun h => absurd h hasked
    cases houtcome with
    | loggedIn => rfl
    | registered h => exact absurd h hasked
    | appended => rfl
    | answered => rfl

/-- A registration that is redirected has saved the copy of its server with a new account. -/
theorem saved_of_location {server : Server} {context : Context} {request : Request}
    (hasked : server.IsRegistration request)
    (hlocation : (server.dispatch context request).response.location = some "/login.html") :
    ∃ username account, (Server.credentials request.body).1 = some username ∧
      (server.dispatch context request).server.accounts = server.accounts.insert username account ∧
      Accounts.save (server.accounts.insert username account) context.box context.files =
        (.ok (), (server.dispatch context request).context.files) ∧
      (server.dispatch context request).response = .redirect "/login.html" none := by
  cases dispatch_effect server context request with
  | quiet _ hregistration =>
      rw [(hregistration hasked).2] at hlocation
      cases hlocation
  | unsaved _ _ _ hrefused =>
      rw [hrefused] at hlocation
      cases hlocation
  | saved _ hname _ hcopy hsave hredirected => exact ⟨_, _, hname, hcopy, hsave, hredirected⟩

/-- A request changes neither the settings of its server nor the tasks and the root of its run. -/
theorem dispatch_frame (server : Server) (context : Context) (request : Request) :
    (server.dispatch context request).server.decl = server.decl ∧
      (server.dispatch context request).context.tasks = context.tasks ∧
      (server.dispatch context request).context.box = context.box := by
  have houtcome := server.dispatch_outcome context request
  generalize server.dispatch context request = answer at houtcome
  cases houtcome with
  | loggedIn => exact ⟨rfl, rfl, rfl⟩
  | registered =>
      rw [Server.addAccount_eq]
      split <;> exact ⟨rfl, rfl, rfl⟩
  | appended => exact ⟨rfl, rfl, rfl⟩
  | answered => exact ⟨rfl, rfl, rfl⟩

/-- A request to a server that is not there has no effect. -/
theorem step_request_none {context : Context} {n : Nat} (h : (servers context)[n]? = none)
    (request : Request) : step context (.request n request) = context := by
  simp only [step, h]

section Request

variable {context : Context} {n : Nat} {server : Server} (hruns : (servers context)[n]? = some server)
  (request : Request)

include hruns

theorem step_request :
    step context (.request n request) =
      { (server.dispatch context request).context with
        tasks := setListener (server.dispatch context request).server n
          (server.dispatch context request).context.tasks } := by
  simp only [step, hruns]

/-- A request to a server replaces that server and no other. -/
theorem servers_step_request :
    servers (step context (.request n request)) =
      (servers context).set n (server.dispatch context request).server := by
  rw [step_request hruns, servers, filterMap_setListener,
    (dispatch_frame server context request).2.1, servers]

theorem stored_step_request :
    stored (step context (.request n request)) =
      Accounts.load context.box (server.dispatch context request).context.files := by
  rw [step_request hruns, stored, (dispatch_frame server context request).2.2]

end Request

/-! ## Registrations -/

section Registers

variable {context : Context} {n : Nat} {server : Server} {request : Request} {username : String}
  {account : Account} (h : Registers context n server request username account)

include h

/-- A registration that succeeds has saved the copy of its server with the new account. -/
theorem Registers.saved :
    (server.dispatch context request).server.accounts = server.accounts.insert username account ∧
      Accounts.save (server.accounts.insert username account) context.box context.files =
        (.ok (), (server.dispatch context request).context.files) := by
  obtain ⟨name, added, hname, hcopy, hsave, -⟩ :=
    saved_of_location h.asked (congrArg Response.location h.redirected)
  obtain rfl : name = username := Option.some.inj (hname.symm.trans h.name)
  obtain rfl : added = account := by
    have haccount := h.account
    rw [hcopy, Dictionary.get?_insert, if_pos rfl] at haccount
    exact Option.some.inj haccount
  exact ⟨hcopy, hsave⟩

/-- **After a registration** the workspace keeps the copy of the server that answered it, with the
new account. -/
theorem Registers.stored_step :
    stored (step context (.request n request)) =
      .ok (some (server.accounts.insert username account)) := by
  rw [stored_step_request h.runs]
  exact Accounts.load_of_save h.saved.2

end Registers

/-! ## Accounts that are kept -/

/-- The registrations of a sequence of events are answered by servers with certain numbers only. -/
def RegistersOn (allowed : Nat → Prop) (context : Context) : List Event → Prop
  | [] => True
  | event :: events =>
    (∀ n request server username account, event = .request n request →
      Registers context n server request username account → allowed n) ∧
    RegistersOn allowed (step context event) events

/-- The invariant: the workspace keeps the account, and it is in the copies of the server that
registered it and of all servers with users from some number on. -/
structure Kept (context : Context) (owner newest : Nat) (username : String) (account : Account) :
    Prop where
  holds : Holds context username account
  copies : ∀ n server, n = owner ∨ newest ≤ n → (servers context)[n]? = some server →
    server.decl.users = true → server.accounts.get? username = some account
  started : newest ≤ (servers context).length

section Kept

variable {context : Context} {owner newest : Nat} {username : String} {account : Account}

/-- A server that is started has the account in its copy. -/
theorem Kept.start (h : Kept context owner newest username account) {decl : ServerDecl}
    (hleaves : LeavesAccounts context (.start decl)) :
    Kept (step context (.start decl)) owner newest username account := by
  obtain ⟨accounts, hstored, hget⟩ := h.holds
  have hservers := (servers_startServer context decl).1
  rw [step]
  refine ⟨⟨accounts, (stored_startServer hleaves).trans hstored, hget⟩, ?_, ?_⟩
  · intro n server hn hserver husers
    rw [hservers, List.getElem?_append] at hserver
    split at hserver
    · exact h.copies n server hn hserver husers
    · obtain rfl := eq_of_mem_added (List.mem_of_getElem? hserver)
      rw [firstCopy_of_stored hstored husers]
      exact hget
  · rw [hservers, List.length_append]
    exact Nat.le_trans h.started (Nat.le_add_right _ _)

/-- A registration on a server that knows the account, and any other request, keeps it. -/
theorem Kept.request (h : Kept context owner newest username account) {n : Nat} {request : Request}
    (hleaves : LeavesAccounts context (.request n request))
    (hregisters : ∀ server name added, Registers context n server request name added →
      n = owner ∨ newest ≤ n) :
    Kept (step context (.request n request)) owner newest username account := by
  match hruns : (servers context)[n]? with
  | none => rwa [step_request_none hruns]
  | some server =>
      have heffect := dispatch_effect server context request
      have hdecl := (dispatch_frame server context request).1
      have hstored := stored_step_request hruns request
      obtain ⟨accounts, hload, hget⟩ := h.holds
      -- a name that is new in a copy with the account is another name
      have hinsert : ∀ {name : String} {added : Account} {copy : Accounts},
          copy.contains name = false → copy.get? username = some account →
          (copy.insert name added).get? username = some account := by
        intro name added copy hnew hcopy
        rw [Dictionary.get?_insert, if_neg, hcopy]
        rintro rfl
        simp [Dictionary.contains, hcopy] at hnew
      refine ⟨?_, ?_, ?_⟩
      · cases heffect with
        | quiet _ hregistration =>
            refine ⟨accounts, ?_, hget⟩
            rcases hleaves with ⟨other, hother, hasked⟩ | hsame
            · obtain rfl : server = other := Option.some.inj (hruns.symm.trans hother)
              rw [hstored, (hregistration hasked).1]
              exact hload
            · rw [hsame, hload]
        | @saved name added hasked hname hnew hcopy hsave hredirected =>
            have hregistered : Registers context n server request name added :=
              ⟨hruns, hasked, hredirected, hname, by rw [hcopy, Dictionary.get?_insert, if_pos rfl]⟩
            have hknown := h.copies n server (hregisters server name added hregistered) hruns
              hasked.1
            exact ⟨_, hregistered.stored_step, hinsert hnew hknown⟩
        | unsaved _ _ hfiles _ =>
            refine ⟨accounts, ?_, hget⟩
            rw [hstored]
            exact Accounts.load_of_extends hfiles hload
      · intro m other hm hother husers
        rw [servers_step_request hruns, List.getElem?_set] at hother
        split at hother
        · next heq =>
            subst heq
            split at hother
            · obtain rfl := Option.some.inj hother
              rw [hdecl] at husers
              have hknown := h.copies n server hm hruns husers
              cases heffect with
              | quiet hcopy _ => rwa [hcopy]
              | saved _ _ hnew hcopy _ _ => rw [hcopy]; exact hinsert hnew hknown
              | unsaved hnew hcopy _ _ => rw [hcopy]; exact hinsert hnew hknown
            · cases hother
        · exact h.copies m other hm hother husers
      · rw [servers_step_request hruns, List.length_set]
        exact h.started

/-- One event keeps the account. -/
theorem Kept.step (h : Kept context owner newest username account) {event : Event}
    (hleaves : LeavesAccounts context event)
    (hregisters : ∀ n request server name added, event = .request n request →
      Registers context n server request name added → n = owner ∨ newest ≤ n) :
    Kept (step context event) owner newest username account := by
  cases event with
  | start decl => exact h.start hleaves
  | request n request =>
      exact h.request hleaves fun server name added =>
        hregisters n request server name added rfl
  | other next =>
      obtain ⟨hservers, hstored⟩ := hleaves
      obtain ⟨accounts, hload, hget⟩ := h.holds
      refine ⟨⟨accounts, hstored.trans hload, hget⟩, ?_, ?_⟩
      · intro n server hn hserver
        rw [Site.step, hservers] at hserver
        exact h.copies n server hn hserver
      · rw [Site.step, hservers]
        exact h.started

/-- A sequence of events keeps the account. -/
theorem Kept.run (h : Kept context owner newest username account) {events : List Event}
    (hleaves : Undisturbed context events)
    (hregisters : RegistersOn (fun n => n = owner ∨ newest ≤ n) context events) :
    Kept (run context events) owner newest username account := by
  induction events generalizing context with
  | nil => exact h
  | cons event events ih => exact ih (h.step hleaves.1 hregisters.1) hleaves.2 hregisters.2

end Kept

/-- The account is kept from its registration on: no other server knows it yet. -/
theorem Registers.kept {context : Context} {n : Nat} {server : Server} {request : Request}
    {username : String} {account : Account}
    (h : Registers context n server request username account) :
    Kept (Site.step context (.request n request)) n (servers context).length username account := by
  have hcopy := h.saved.1
  have hservers := servers_step_request h.runs request
  refine ⟨⟨_, h.stored_step, by rw [Dictionary.get?_insert, if_pos rfl]⟩, ?_, ?_⟩
  · intro m other hm hother _
    rw [hservers, List.getElem?_set] at hother
    split at hother
    · split at hother
      · obtain rfl := Option.some.inj hother
        rw [hcopy, Dictionary.get?_insert, if_pos rfl]
      · cases hother
    · next hne =>
        rcases hm with rfl | hm
        · exact absurd rfl hne
        · rw [List.getElem?_eq_none hm] at hother
          cases hother
  · exact Nat.le_of_eq (by rw [hservers, List.length_set])

/-- **An account that was registered** stays in the workspace, with its hash and its identifier,
through every sequence of events that leaves the accounts to registrations, as long as all of these
are answered by the server that registered the account or by servers that were started later.  When
any server registers somebody, the account is there afterwards exactly if it was in the copy of that
server. -/
theorem registered_accounts_kept {context : Context} {n : Nat} {server : Server} {request : Request}
    {username : String} {account : Account}
    (h : Registers context n server request username account) (later : List Event) :
    let registered := step context (.request n request)
    (Undisturbed registered later →
      RegistersOn (fun m => m = n ∨ (servers context).length ≤ m) registered later →
      Holds (run registered later) username account) ∧
    ∀ m other request' name added, Registers (run registered later) m other request' name added →
      (Holds (step (run registered later) (.request m request')) username account ↔
        (other.accounts.insert name added).get? username = some account) := by
  intro registered
  refine ⟨fun hleaves hregisters => (h.kept.run hleaves hregisters).holds, ?_⟩
  intro m other request' name added hregisters
  rw [Holds, hregisters.stored_step]
  constructor
  · rintro ⟨accounts, heq, hget⟩
    obtain rfl := Option.some.inj (Except.ok.inj heq)
    exact hget
  · exact fun hget => ⟨_, rfl, hget⟩

/-! ### Two servers -/

/-- A run that nothing has happened in yet. -/
def emptySite : Context :=
  { machine := .bare, config := {}, sources := .empty, box := ⟨[]⟩, files := .empty, ids := .ofSeed 1 }

/-- A server with users, on a port of its own. -/
def withUsers (id : String) (port : Nat) : ServerDecl := { id, port, users := true }

/-- A request to register. -/
def registration (username : String) : Request :=
  { method := "POST", path := "/register"
    body := Bytes.ofText ("username=" ++ username ++ "&password=secret") }

/-- Two servers that were started one after another. -/
def twoServers : Context := run emptySite [.start (withUsers "shop" 8080), .start (withUsers "forum" 8081)]

theorem servers_twoServers :
    servers twoServers = [{ decl := withUsers "shop" 8080 }, { decl := withUsers "forum" 8081 }] := by
  decide +kernel

theorem isRegistration_registration (server : Server) (husers : server.decl.users = true)
    (username : String) : server.IsRegistration (registration username) := ⟨husers, rfl, rfl⟩

/-- A request to register writes the accounts by registering, or not at all. -/
theorem leavesAccounts_registration {context : Context} {n : Nat} {username : String}
    (h : ∀ server, (servers context)[n]? = some server → server.decl.users = true) :
    LeavesAccounts context (.request n (registration username)) := by
  match hruns : (servers context)[n]? with
  | none => exact .inr (congrArg stored (step_request_none hruns _))
  | some server => exact .inl ⟨server, hruns, isRegistration_registration server (h server hruns) _⟩

/-- A registration that is redirected is one that succeeds. -/
theorem registers_of_location {context : Context} {n : Nat} {server : Server} {request : Request}
    (hruns : (servers context)[n]? = some server) (hasked : server.IsRegistration request)
    (hlocation : (server.dispatch context request).response.location = some "/login.html")
    {username : String} (hname : (Server.credentials request.body).1 = some username) :
    ∃ account, Registers context n server request username account := by
  obtain ⟨name, account, hname', hcopy, -, hredirected⟩ := saved_of_location hasked hlocation
  obtain rfl : name = username := Option.some.inj (hname'.symm.trans hname)
  exact ⟨account, hruns, hasked, hredirected, hname, by
    rw [hcopy, Dictionary.get?_insert, if_pos rfl]⟩

/-- Ada registers on the first server. -/
theorem ada_registers : ∃ account,
    Registers twoServers 0 { decl := withUsers "shop" 8080 } (registration "ada") "ada" account :=
  registers_of_location (by rw [servers_twoServers]; rfl) (isRegistration_registration _ rfl _)
    (by decide +kernel) (by decide +kernel)

/-- The run after Ada registered. -/
abbrev adaRegistered : Context := step twoServers (.request 0 (registration "ada"))

/-- Bob registers on the second server, which knows nothing of Ada. -/
theorem bob_registers : ∃ account,
    Registers adaRegistered 1 { decl := withUsers "forum" 8081 } (registration "bob") "bob" account := by
  obtain ⟨_, hada⟩ := ada_registers
  refine registers_of_location ?_ (isRegistration_registration _ rfl _) (by decide +kernel)
    (by decide +kernel)
  rw [adaRegistered, servers_step_request hada.runs, servers_twoServers]
  rfl

/-- Servers that are started after Ada registered may register others: her account stays. -/
theorem registered_accounts_kept_ada :
    let later := [.start (withUsers "blog" 8082), .request 2 (registration "bob")]
    ∃ account,
      Registers twoServers 0 { decl := withUsers "shop" 8080 } (registration "ada") "ada" account ∧
      Undisturbed adaRegistered later ∧ Holds (run adaRegistered later) "ada" account := by
  intro later
  obtain ⟨account, hada⟩ := ada_registers
  have hlength : (servers adaRegistered).length = 2 := by
    rw [servers_step_request hada.runs, List.length_set, servers_twoServers]
    rfl
  -- the third server has users
  have hblog : LeavesAccounts (step adaRegistered (.start (withUsers "blog" 8082)))
      (.request 2 (registration "bob")) := by
    refine leavesAccounts_registration fun server hruns => ?_
    rw [step, (servers_startServer _ _).1,
      List.getElem?_append_right (Nat.le_of_eq hlength)] at hruns
    rw [eq_of_mem_added (List.mem_of_getElem? hruns)]
    rfl
  have hundisturbed : Undisturbed adaRegistered later := ⟨nofun, hblog, trivial⟩
  refine ⟨account, hada, hundisturbed, (registered_accounts_kept hada later).1 hundisturbed ?_⟩
  refine ⟨nofun, fun n request _ _ _ heq _ => .inr ?_, trivial⟩
  cases heq
  rw [servers_twoServers]
  exact Nat.le_refl 2

/-- Bob's registration on the other server takes Ada's account out of the workspace, though nothing
but the two registrations writes the accounts. -/
theorem account_lost :
    ∃ account added,
      Registers twoServers 0 { decl := withUsers "shop" 8080 } (registration "ada") "ada" account ∧
      Registers adaRegistered 1 { decl := withUsers "forum" 8081 } (registration "bob") "bob" added ∧
      Undisturbed adaRegistered [.request 1 (registration "bob")] ∧
      ¬ Holds (run adaRegistered [.request 1 (registration "bob")]) "ada" account := by
  obtain ⟨account, hada⟩ := ada_registers
  obtain ⟨added, hbob⟩ := bob_registers
  refine ⟨account, added, hada, hbob, ⟨.inl ⟨_, hbob.runs, hbob.asked⟩, trivial⟩, ?_⟩
  rw [run_cons, run_nil, Holds, hbob.stored_step]
  rintro ⟨accounts, heq, hget⟩
  obtain rfl := Option.some.inj (Except.ok.inj heq)
  rw [Dictionary.get?_insert, if_neg (by decide)] at hget
  cases hget

end Site

end SiteScript.Web
