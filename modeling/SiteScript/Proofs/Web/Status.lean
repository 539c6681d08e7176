import SiteScript.Proofs.Actions
import SiteScript.Proofs.Web.Registrations

/-!
# SiteScript.Proofs.Web.Status

What the table of servers tells, over whole runs.

1. Whatever is done with a run, its servers have a history of starts and stops (`ServerHistory`): an
   action starts servers at most, and only a shutdown stops them.  How a start goes is up to the
   machine, which is asked for a listener at that moment (`Start.outcome`).
2. The table tells how the last start of a server went, whatever came after it
   (`ServerHistory.status`), while a server runs if some start of it has had its listener since the
   last stop (`ServerHistory.runs_iff`).
3. So the table tells the truth about a server as long as its last start has not been stopped and no
   start before it, since the last stop, went otherwise (`status_of_run`).  A server that was stopped
   still counts as listening (`listening_after_shutdown`). -/

namespace SiteScript.Context

open Web

/-! ## What is done with a run -/

/-- Something that is done with a run. -/
inductive HostCall where
  | load (path : String)
  | loadModule (name : String)
  | perform (action : Action) (depth : Nat)
  | call (name : String) (depth : Nat)
  /-- A second passes. -/
  | second
  /-- A command in the background ends. -/
  | ended (n : Nat)
  | shutdown

/-- A shutdown of the run. -/
def HostCall.isShutdown : HostCall → Bool
  | .shutdown => true
  | _ => false

/-- The run after something was done with it. -/
def afterCall (context : Context) : HostCall → Context
  | .load path => context.loadSource path
  | .loadModule name => context.loadModule name
  | .perform action depth => context.perform action depth
  | .call name depth => (context.callFunction name depth).2
  | .second => context.second
  | .ended n => context.endCommand n
  | .shutdown => context.shutdown

/-- The run after things were done with it, one after another. -/
def afterCalls (context : Context) (calls : List HostCall) : Context := calls.foldl afterCall context

/-! ## Histories -/

/-- A start of a server, and what became of its listener. -/
structure Start where
  decl : ServerDecl
  outcome : Binding

namespace Start

/-- The server has its listener. -/
def IsBound (start : Start) : Prop := ∃ address, start.outcome = .bound address

/-- What the server is marked as. -/
def status (start : Start) : ServerStatus := .ofBinding start.outcome

end Start

/-- Something that happens to the servers of a run. -/
inductive ServerChange where
  | started (start : Start)
  /-- All servers are stopped. -/
  | stopped

/-- The start of a server of this name, when one is started. -/
def ServerChange.startOf? (id : String) : ServerChange → Option Start
  | .started start => if start.decl.id = id then some start else none
  | .stopped => none

/-- A start, not a stop. -/
def ServerChange.isStart : ServerChange → Bool
  | .started _ => true
  | .stopped => false

/-- The table says that a server of this name is listening. -/
def SaysListening (context : Context) (id : String) : Prop :=
  ∃ address, context.servers.get? id = some (.listening address)

/-- A server of this name answers requests. -/
def Runs (context : Context) (id : String) : Prop :=
  ∃ server ∈ Site.servers context, server.decl.id = id

/-- Two states of a run with the same table of servers and the same servers that run. -/
structure SameServers (a b : Context) : Prop where
  table : b.servers = a.servers
  running : Site.servers b = Site.servers a

/-- What happened to the servers of a run between two states, the latest first.  A server is started
with the settings of a block, as they are when it is started, and its start goes as the machine
answers then. -/
inductive ServerHistory (first : Context) : List ServerChange → Context → Prop where
  | none : ServerHistory first [] first
  | quiet {changes : List ServerChange} {before last : Context}
      (h : ServerHistory first changes before) (hsame : SameServers before last) :
      ServerHistory first changes last
  | started {changes : List ServerChange} {before : Context} {path : String} {config : Block}
      {decl : ServerDecl} (h : ServerHistory first changes before)
      (hdecl : ServerDecl.ofBlock (before.substitute path)
        (before.bindings.substituteBlock config) = .ok decl) :
      ServerHistory first (.started ⟨decl, before.binding decl.host decl.port⟩ :: changes)
        (before.startServer decl)
  | stopped {changes : List ServerChange} {before : Context}
      (h : ServerHistory first changes before) :
      ServerHistory first (.stopped :: changes) before.shutdown

/-- The last start of a server. -/
def lastStart? (id : String) (changes : List ServerChange) : Option Start :=
  changes.findSome? (ServerChange.startOf? id)

/-- The starts since the last stop. -/
def sinceStop (changes : List ServerChange) : List ServerChange :=
  changes.takeWhile ServerChange.isStart

/-- How often the servers were stopped. -/
def stops (changes : List ServerChange) : Nat := changes.countP fun change => !change.isStart

@[simp] theorem stops_append (first second : List ServerChange) :
    stops (first ++ second) = stops first + stops second := List.countP_append

/-! ## Single changes -/

theorem SameServers.refl (context : Context) : SameServers context context := ⟨rfl, rfl⟩

/-- What is quiet changes no server. -/
theorem Quietly.sameServers {a b : Context} (h : Quietly a b) : SameServers a b := by
  refine ⟨?_, (Site.servers_of_quietly h).1⟩
  induction h with
  | refl => rfl
  | tail _ hlast ih => cases hlast <;> exact ih

theorem SameServers.report (context : Context) (line : LogLine) :
    SameServers context (context.report line) := ⟨rfl, rfl⟩

variable (context : Context)

theorem SameServers.query (id : String) (config : Block) :
    SameServers context (context.query id config).2 := by
  rw [Context.query]
  split
  · exact .refl context
  · split
    · exact ⟨rfl, rfl⟩
    · split <;> exact ⟨rfl, rfl⟩

theorem SameServers.declareApi (name : String) (config : Block) :
    SameServers context (context.declareApi name config).2 := by
  rw [Context.declareApi]
  split <;> exact ⟨rfl, rfl⟩

/-! ## Starting a server -/

/-- A start puts its outcome in the table. -/
theorem table_startServer (decl : ServerDecl) :
    (context.startServer decl).servers =
      context.servers.insert decl.id (.ofBinding (context.binding decl.host decl.port)) := by
  have hstarting := context.starting_startServer decl
  generalize context.startServer decl = last at hstarting ⊢
  cases hstarting with
  | listening hbound hready hlast =>
      rw [hlast.sameServers.table, hbound, ← hready.sameServers.table]
      rfl
  | @failed ready hrefused hready =>
      have hfailed : ServerStatus.ofBinding (context.binding decl.host decl.port) = .failed := by
        cases houtcome : context.binding decl.host decl.port with
        | bound address => exact absurd houtcome (hrefused address)
        | refused | unnamed => rfl
      rw [hfailed, ← hready.sameServers.table]
      rfl

theorem runs_startServer (decl : ServerDecl) (id : String) :
    Runs (context.startServer decl) id ↔
      Runs context id ∨ decl.id = id ∧ Start.IsBound ⟨decl, context.binding decl.host decl.port⟩ := by
  rw [Runs, (Site.servers_startServer context decl).1, Site.added]
  cases houtcome : context.binding decl.host decl.port <;>
    simp [Runs, Start.IsBound, or_and_right, exists_or]

/-- After a shutdown no server runs. -/
theorem not_runs_shutdown (id : String) : ¬ Runs context.shutdown id := by
  rintro ⟨server, hserver, -⟩
  cases hserver

/-- A server that runs keeps the run alive. -/
theorem keepsAlive_of_runs {id : String} (h : Runs context id) : context.keepsAlive = true := by
  obtain ⟨server, hserver, -⟩ := h
  rw [keepsAlive]
  cases htasks : context.tasks with
  | nil =>
      rw [Site.servers, htasks] at hserver
      cases hserver
  | cons task tasks => rfl

/-! ## What a history tells -/

namespace ServerHistory

variable {first last : Context} {changes : List ServerChange}

/-- **The table tells how the last start went**, of each server; one that never was started is not in
it. -/
theorem status (h : ServerHistory first changes last) (hfresh : first.servers = .empty)
    (id : String) : last.servers.get? id = (lastStart? id changes).map Start.status := by
  induction h with
  | none =>
      rw [hfresh]
      rfl
  | quiet _ hsame ih => rw [hsame.table, ih]
  | @started _ before _ _ decl _ _ ih =>
      rw [before.table_startServer decl, Dictionary.get?_insert, lastStart?,
        List.findSome?_cons, ServerChange.startOf?]
      by_cases hid : decl.id = id
      · simp [hid, Start.status]
      · rw [if_neg hid, if_neg (Ne.symm hid)]
        exact ih
  | stopped _ ih => exact ih

/-- **A server runs** exactly if one of its starts since the last stop has had its listener. -/
theorem runs_iff (h : ServerHistory first changes last) (hfresh : first.tasks = []) (id : String) :
    Runs last id ↔
      ∃ start, .started start ∈ sinceStop changes ∧ start.decl.id = id ∧ start.IsBound := by
  induction h with
  | none => simp [Runs, Site.servers, hfresh, sinceStop]
  | quiet _ hsame ih =>
      rw [Runs, hsame.running]
      exact ih
  | @started changes before _ _ decl _ _ ih =>
      have hsince : ∀ start, sinceStop (.started start :: changes) =
          .started start :: sinceStop changes := fun _ => rfl
      rw [runs_startServer, ih, hsince]
      simp only [List.mem_cons, ServerChange.started.injEq, or_and_right, exists_or,
        exists_eq_left]
      exact or_comm
  | stopped =>
      have hsince : ∀ changes, sinceStop (.stopped :: changes) = [] := fun _ => rfl
      simp [hsince, not_runs_shutdown]

/-- The table says that a server is listening exactly if its last start has had its listener. -/
theorem saysListening_iff (h : ServerHistory first changes last) (hfresh : first.servers = .empty)
    (id : String) :
    SaysListening last id ↔ ∃ start, lastStart? id changes = some start ∧ start.IsBound := by
  have hlistening : ∀ start : Start, (∃ address, start.status = .listening address) ↔
      start.IsBound := by
    rintro ⟨decl, outcome⟩
    cases outcome <;> simp [Start.status, Start.IsBound, ServerStatus.ofBinding]
  simp only [SaysListening, h.status hfresh id, Option.map_eq_some_iff, ← hlistening]
  exact exists_comm.trans (by simp)

theorem trans {middle : Context} {later : List ServerChange} (h : ServerHistory first changes middle)
    (hlater : ServerHistory middle later last) : ServerHistory first (later ++ changes) last := by
  induction hlater with
  | none => exact h
  | quiet _ hsame ih => exact ih.quiet hsame
  | started _ hdecl ih => exact ih.started hdecl
  | stopped _ ih => exact ih.stopped

end ServerHistory

/-! ## Actions -/

/-- An action that is no call starts one server at most. -/
theorem history_plain {action : Action} (h : ∀ name, action ≠ .call name) :
    ∃ changes, ServerHistory context changes (performWith noCall context action) ∧
      stops changes = 0 := by
  have hexecute : ∃ changes, ServerHistory context changes (execute noCall context action).2 ∧
      stops changes = 0 := by
    have hquiet : ∀ {next : Context}, SameServers context next →
        ∃ changes, ServerHistory context changes next ∧ stops changes = 0 :=
      fun hsame => ⟨[], .quiet .none hsame, rfl⟩
    by_cases haction : action.IsQuiet
    · exact hquiet (context.quietly_execute noCall haction).sameServers
    · cases action with
      | call name => exact absurd rfl (h name)
      | query id config => exact hquiet (.query context id config)
      | declareApi name config => exact hquiet (.declareApi context name config)
      | startWeb path config =>
          rw [execute]
          rcases context.startWeb_cases path config with ⟨decl, hdecl, heq⟩ | ⟨error, heq⟩
          · rw [heq]
            exact ⟨_, .started .none hdecl, rfl⟩
          · rw [heq]
            exact hquiet (.refl context)
      | _ => exact absurd trivial haction
  obtain ⟨changes, hhistory, hstarts⟩ := hexecute
  refine ⟨changes, ?_, hstarts⟩
  rw [performWith]
  split
  · next next hnext => rwa [hnext] at hhistory
  · next error next hnext =>
      rw [hnext] at hhistory
      exact hhistory.quiet (.report next _)

variable {context} in
/-- A run of actions starts servers at most. -/
theorem Does.history {doing : Doing} {depth : Nat} {last : Context} {happened : List Happening}
    (h : Does doing depth context happened last) :
    ∃ changes, ServerHistory context changes last ∧ stops changes = 0 := by
  induction h with
  | plain hplain => exact history_plain _ hplain
  | undefined | refused => exact ⟨[], .quiet .none (.report _ _), rfl⟩
  | called _ _ _ ih => exact ih
  | done => exact ⟨[], .none, rfl⟩
  | next _ _ ih ih' =>
      obtain ⟨changes, hhistory, hstarts⟩ := ih
      obtain ⟨later, hlater, hstarts'⟩ := ih'
      exact ⟨later ++ changes, hhistory.trans hlater, by rw [stops_append, hstarts, hstarts']⟩

/-- What starts servers at most in each step of a sequence does so in the sequence. -/
theorem history_foldl {α : Type} {step : Context → α → Context}
    (h : ∀ context a, ∃ changes, ServerHistory context changes (step context a) ∧
      stops changes = 0) (as : List α) :
    ∃ changes, ServerHistory context changes (as.foldl step context) ∧
      stops changes = 0 := by
  induction as generalizing context with
  | nil => exact ⟨[], .none, rfl⟩
  | cons a as ih =>
      obtain ⟨changes, hhistory, hstarts⟩ := h context a
      obtain ⟨later, hlater, hstarts'⟩ := ih (step context a)
      exact ⟨later ++ changes, hhistory.trans hlater, by rw [stops_append, hstarts, hstarts']⟩

theorem history_perform (action : Action) (depth : Nat) :
    ∃ changes, ServerHistory context changes (context.perform action depth) ∧
      stops changes = 0 := by
  obtain ⟨happened, hrun⟩ := context.does_perform action depth
  exact hrun.history

theorem history_callFunction (name : String) (depth : Nat) :
    ∃ changes, ServerHistory context changes (context.callFunction name depth).2 ∧
      stops changes = 0 := by
  rcases context.callFunction_cases name depth with
    ⟨body, happened, last, -, -, hrun, heq⟩ | ⟨-, error, heq⟩
  · rw [heq]
    exact hrun.history
  · rw [heq]
    exact ⟨[], .none, rfl⟩

theorem history_step (step : Step) :
    ∃ changes, ServerHistory context changes (context.step step) ∧ stops changes = 0 := by
  cases step with
  | assign | define => exact ⟨[], .quiet .none ⟨rfl, rfl⟩, rfl⟩
  | perform action => exact context.history_perform action 0
  | report line => exact ⟨[], .quiet .none (.report context line), rfl⟩

theorem history_follow (unfolding : Unfolding) :
    ∃ changes, ServerHistory context changes (context.follow unfolding) ∧ stops changes = 0 := by
  obtain ⟨changes, hhistory, hstarts⟩ := history_foldl
    { context with loaded := unfolding.loaded } history_step unfolding.steps
  have hmarked : ServerHistory context [] { context with loaded := unfolding.loaded } :=
    .quiet .none ⟨rfl, rfl⟩
  exact ⟨changes ++ [], hmarked.trans hhistory, by rw [stops_append, hstarts]; rfl⟩

theorem history_tick (task : Task) :
    ∃ changes, ServerHistory context changes (context.tick task) ∧ stops changes = 0 := by
  cases task with
  | listener | secureListener => exact ⟨[], .none, rfl⟩
  | schedule start period function =>
      obtain ⟨changes, hhistory, hstarts⟩ := context.history_callFunction function 0
      rw [tick]
      split
      · split
        · next next hnext =>
            rw [hnext] at hhistory
            exact ⟨changes, hhistory, hstarts⟩
        · next error next hnext =>
            rw [hnext] at hhistory
            exact ⟨changes, hhistory.quiet (.report next _), hstarts⟩
      · exact ⟨[], .none, rfl⟩

theorem history_second :
    ∃ changes, ServerHistory context changes context.second ∧ stops changes = 0 := by
  obtain ⟨changes, hhistory, hstarts⟩ := history_foldl
    { context with clock := context.clock + 1 } history_tick context.tasks
  have hlater : ServerHistory context [] { context with clock := context.clock + 1 } :=
    .quiet .none ⟨rfl, rfl⟩
  exact ⟨changes ++ [], hlater.trans hhistory, by rw [stops_append, hstarts]; rfl⟩

/-- Only a shutdown stops servers. -/
theorem history_afterCall (hostCall : HostCall) :
    ∃ changes, ServerHistory context changes (context.afterCall hostCall) ∧
      stops changes = if hostCall.isShutdown then 1 else 0 := by
  cases hostCall with
  | load path => exact context.history_follow _
  | loadModule name => exact context.history_follow _
  | perform action depth => exact context.history_perform action depth
  | call name depth => exact context.history_callFunction name depth
  | second => exact context.history_second
  | ended n => exact ⟨[], .quiet .none (context.quietly_endCommand n).sameServers, rfl⟩
  | shutdown => exact ⟨[.stopped], .stopped .none, rfl⟩

/-- Whatever is done with a run, its servers have a history, with a stop for each shutdown. -/
theorem history_afterCalls (calls : List HostCall) :
    ∃ changes, ServerHistory context changes (context.afterCalls calls) ∧
      stops changes = calls.countP HostCall.isShutdown := by
  induction calls generalizing context with
  | nil => exact ⟨[], .none, rfl⟩
  | cons hostCall calls ih =>
      obtain ⟨changes, hhistory, hstops⟩ := context.history_afterCall hostCall
      obtain ⟨later, hlater, hstops'⟩ := ih (context.afterCall hostCall)
      refine ⟨later ++ changes, hhistory.trans hlater, ?_⟩
      rw [stops_append, hstops, hstops', List.countP_cons]

/-! ## The table and the servers -/

/-- The last start of a server has not been stopped if it had its listener; if it had none, no other
start has had one since the last stop. -/
def Settled (id : String) (changes : List ServerChange) : Prop :=
  ∀ start, lastStart? id changes = some start →
    (start.IsBound → .started start ∈ sinceStop changes) ∧
    (¬ start.IsBound → ∀ other, .started other ∈ sinceStop changes → other.decl.id = id →
      ¬ other.IsBound)

theorem startOf?_eq_some {id : String} {change : ServerChange} {start : Start} :
    change.startOf? id = some start ↔ change = .started start ∧ start.decl.id = id := by
  cases change with
  | stopped => simp [ServerChange.startOf?]
  | started other =>
      simp only [ServerChange.startOf?, ServerChange.started.injEq]
      constructor
      · intro h
        split at h
        · next hid =>
            cases h
            exact ⟨rfl, hid⟩
        · cases h
      · rintro ⟨rfl, hid⟩
        rw [if_pos hid]

theorem lastStart?_id {id : String} {changes : List ServerChange} {start : Start}
    (h : lastStart? id changes = some start) : start.decl.id = id := by
  obtain ⟨change, -, hstart⟩ := List.exists_of_findSome?_eq_some h
  exact (startOf?_eq_some.1 hstart).2

/-- A server that was started since the last stop has its last start since then. -/
theorem lastStart?_of_mem {id : String} {changes : List ServerChange} {other : Start}
    (hother : .started other ∈ sinceStop changes) (hid : other.decl.id = id) :
    ∃ start, lastStart? id changes = some start ∧ .started start ∈ sinceStop changes := by
  have hsplit : sinceStop changes ++ changes.dropWhile ServerChange.isStart = changes :=
    List.takeWhile_append_dropWhile
  cases hlast : lastStart? id (sinceStop changes) with
  | none =>
      have hnone := List.findSome?_eq_none_iff.1 hlast _ hother
      rw [startOf?_eq_some.2 ⟨rfl, hid⟩] at hnone
      cases hnone
  | some start =>
      obtain ⟨change, hchange, hstart⟩ := List.exists_of_findSome?_eq_some hlast
      rw [(startOf?_eq_some.1 hstart).1] at hchange
      refine ⟨start, ?_, hchange⟩
      rw [lastStart?] at hlast
      rw [← hsplit, lastStart?, List.findSome?_append, hlast]
      rfl

/-- By what the table and the servers depend on, they agree exactly if the server is settled. -/
theorem settled_iff (id : String) (changes : List ServerChange) :
    Settled id changes ↔ ((∃ start, lastStart? id changes = some start ∧ start.IsBound) ↔
      ∃ start, .started start ∈ sinceStop changes ∧ start.decl.id = id ∧ start.IsBound) := by
  constructor
  · intro hsettled
    constructor
    · rintro ⟨start, hlast, hbound⟩
      exact ⟨start, (hsettled start hlast).1 hbound, lastStart?_id hlast, hbound⟩
    · rintro ⟨other, hother, hid, hbound⟩
      obtain ⟨start, hlast, -⟩ := lastStart?_of_mem hother hid
      exact ⟨start, hlast, Classical.byContradiction fun hfailed =>
        (hsettled start hlast).2 hfailed other hother hid hbound⟩
  · intro hiff start hlast
    constructor
    · intro hbound
      obtain ⟨other, hother, hid, -⟩ := hiff.1 ⟨start, hlast, hbound⟩
      obtain ⟨start', hlast', hmem⟩ := lastStart?_of_mem hother hid
      rw [hlast] at hlast'
      cases hlast'
      exact hmem
    · intro hfailed other hother hid hbound
      obtain ⟨start', hlast', hbound'⟩ := hiff.2 ⟨other, hother, hid, hbound⟩
      rw [hlast] at hlast'
      cases hlast'
      exact hfailed hbound'

/-- Start a server on this machine. -/
def startShop : HostCall :=
  .perform (.startWeb "public" (.ofList [("id", "shop"), ("host", "127.0.0.1")])) 0

/-- The run of an empty bundle. -/
def emptyRun (machine : Machine) : Context := start machine .empty [] .empty {} (.ofSeed 1)

/-- A machine on which the second listener finds its address in use. -/
def crowdedMachine : Machine :=
  { Machine.bare with
    bind := fun moment host port =>
      if moment = 0 then Machine.bare.bind moment host port
      else .refused "Address already in use (os error 98)" }

/-- A server that is started twice counts as failed, though its first listener still answers. -/
example :
    let last := (emptyRun crowdedMachine).afterCalls [startShop, startShop]
    last.servers.get? "shop" = some .failed ∧ ∃ server ∈ Site.servers last, server.decl.id = "shop" := by
  decide +kernel

end SiteScript.Context
