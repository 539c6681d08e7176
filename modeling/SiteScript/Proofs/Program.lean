import Mathlib.Logic.Relation
import SiteScript.Execution

/-!
# SiteScript.Proofs.Program

What actions leave alone.

1. Most actions are quiet (`Quietly`): they print, report, change files, ask the machine, leave
   commands in the background, keep the run alive or open connections, and that is all.
2. Starting a server is quiet but for the server itself, which is marked as listening and answers
   requests from then on, or is marked as failed (`Starting`).
3. So these actions are turned to the outside (`Outward`): they leave the variables and the routes
   alone, which only a query and a declaration change.
4. Scripts can be loaded and functions defined only by loading a script; whatever an action does, the
   program that is being run stays the same: the settings, the scripts, the functions and the scripts
   that count as loaded (`SameProgram`). -/

namespace SiteScript

/-- The actions that can reach further inside than files, servers and connections. -/
def Action.ReachesInside : Action → Prop
  | .call _ | .query _ _ | .declareApi _ _ => True
  | _ => False

/-- The actions that reach neither further inside nor start a server. -/
def Action.IsQuiet : Action → Prop
  | .call _ | .query _ _ | .declareApi _ _ | .startWeb _ _ => False
  | _ => True

namespace Context

/-! ## Quiet changes -/

/-- A single change that concerns neither the program, nor variables, routes and servers. -/
inductive QuietChange (context : Context) : Context → Prop where
  | report (line : LogLine) : QuietChange context (context.report line)
  | print (bytes : Bytes) : QuietChange context (context.print bytes)
  | setFiles (files : FileSystem) : QuietChange context { context with files }
  | asked : QuietChange context context.asked
  | setBackground (background : List String) : QuietChange context { context with background }
  | keepAlive (task : Task) (h : ∀ server, task ≠ .listener server) :
      QuietChange context (context.keepAlive task)
  | addConnection (handle : String) (connection : Connection) :
      QuietChange context (context.addConnection handle connection)

/-- Quiet changes, one after another. -/
abbrev Quietly : Context → Context → Prop := Relation.ReflTransGen QuietChange

variable (context : Context)

theorem quietly_launch (launch : Launch) : Quietly context (context.launch launch).2 := by
  simp only [Context.launch]
  split
  · exact .refl
  · split
    · exact .refl
    · exact .single .asked
    · exact .refl

theorem quietly_await (launch : Launch) : Quietly context (context.await launch).2 :=
  ((Relation.ReflTransGen.single .asked).tail (.setFiles _)).tail (.print _)

theorem quietly_complete (launch : Launch) : Quietly context (context.complete launch).2 := by
  have hlaunch := context.quietly_launch launch
  rw [complete]
  generalize context.launch launch = launched at hlaunch ⊢
  obtain ⟨fault | _, started⟩ := launched
  · exact hlaunch
  · exact hlaunch.trans (started.quietly_await launch)

theorem quietly_runAwaited (command : String) : Quietly context (context.runAwaited command).2 := by
  have hcomplete := context.quietly_complete (context.shell command)
  rw [runAwaited]
  generalize context.complete (context.shell command) = completed at hcomplete ⊢
  obtain ⟨fault | ending, ended⟩ := completed
  · exact hcomplete
  · dsimp only
    split <;> exact hcomplete

theorem quietly_runInBackground (command : String) :
    Quietly context (context.runInBackground command).2 := by
  have hlaunch := context.quietly_launch (context.shell command)
  rw [runInBackground]
  generalize context.launch (context.shell command) = launched at hlaunch ⊢
  obtain ⟨fault | _, started⟩ := launched
  · exact hlaunch
  · exact hlaunch.tail (.setBackground _)

theorem quietly_endCommand (n : Nat) : Quietly context (context.endCommand n) := by
  rw [endCommand]
  split
  · exact .refl
  · have hended : ∀ files background,
        Quietly context { context.asked with files, background } := fun files background =>
      ((Relation.ReflTransGen.single .asked).tail (.setFiles files)).tail (.setBackground background)
    dsimp only
    split
    · exact (hended _ _).tail (.report _)
    · split
      · exact hended _ _
      · exact (hended _ _).tail (.report _)

theorem quietly_changeFiles (change : Sandbox.Change) (told : HostError → Error) :
    Quietly context (context.changeFiles change told).2 := by
  obtain ⟨result, files⟩ := change
  cases result <;> exact .single (.setFiles files)

theorem quietly_runCommand (command : String) (wait : Bool) :
    Quietly context (context.runCommand command wait).2 := by
  rw [runCommand]
  cases wait with
  | true => exact context.quietly_runAwaited command
  | false => exact context.quietly_runInBackground command

theorem quietly_scheduleCall (seconds : Nat) (function : String) :
    Quietly context (context.scheduleCall seconds function) :=
  (Relation.ReflTransGen.single (.report _)).tail (.keepAlive _ nofun)

theorem quietly_connect (id : String) (config : Block) :
    Quietly context (context.connect id config).2 := by
  have hopen : ∀ config, Quietly context (context.openConnection config).2 := by
    intro config
    rw [openConnection]
    split
    · exact .single .asked
    · exact .refl
  rw [connect]
  split
  · exact .refl
  next config _ =>
    have hopened := hopen config
    generalize context.openConnection config = opened at hopened ⊢
    obtain ⟨message | connection, ready⟩ := opened
    · exact hopened
    · exact (hopened.tail (.report _)).tail (.addConnection _ _)

/-! ## Servers -/

theorem quietly_firstAccounts (decl : Web.ServerDecl) :
    Quietly context (context.firstAccounts decl).2 := by
  rw [firstAccounts]
  split
  · rw [loadAccounts]
    split
    · exact .refl
    · exact .single (.report _)
    · exact .single (.report _)
  · exact .refl

theorem quietly_makeCertificate (bits : Nat) : Quietly context (context.makeCertificate bits).2 := by
  rw [makeCertificate]
  generalize htold : context.info _ = told
  have hcomplete : Quietly context (told.complete (told.certificateTool bits)).2 := by
    rw [← htold]
    exact (Relation.ReflTransGen.single (.report _)).trans (quietly_complete _ _)
  generalize told.complete (told.certificateTool bits) = completed at hcomplete ⊢
  obtain ⟨fault | ending, ended⟩ := completed
  · exact hcomplete
  · dsimp only
    split
    · exact hcomplete.tail (.report _)
    · exact hcomplete

theorem quietly_ensureCertificate (bits : Nat) :
    Quietly context (context.ensureCertificate bits).2 := by
  rw [ensureCertificate]
  split
  · exact .single (.setFiles _)
  · exact .single (.setFiles _)
  · dsimp only
    split
    · exact (Relation.ReflTransGen.single (.setFiles _)).tail (.report _)
    · exact (Relation.ReflTransGen.single (.setFiles _)).trans (quietly_makeCertificate _ bits)

theorem quietly_startSecure (decl : Web.ServerDecl) :
    Quietly context (context.startSecure decl) := by
  have hmade := context.quietly_ensureCertificate decl.sslBits
  rw [startSecure]
  generalize context.ensureCertificate decl.sslBits = ensured at hmade
  obtain ⟨made, ready⟩ := ensured
  dsimp only at hmade ⊢
  split
  · exact hmade.tail (.report _)
  · split
    · exact (hmade.tail .asked).tail (.report _)
    · exact ((hmade.tail .asked).tail (.report _)).tail (.keepAlive _ nofun)
    · exact ((hmade.tail .asked).tail (.report _)).tail (.keepAlive _ nofun)

/-- How the start of a server goes, by what becomes of its listener. -/
inductive Starting (decl : Web.ServerDecl) : Context → Prop where
  /-- The server answers requests from now on. -/
  | listening {address : String} {ready last : Context}
      (hbound : context.binding decl.host decl.port = .bound address)
      (hready : Quietly context ready)
      (hlast : Quietly ((ready.setStatus decl.id (.listening address)).keepAlive
        (.listener { decl := decl, accounts := (context.firstAccounts decl).1 })) last) :
      Starting decl last
  | failed {ready : Context}
      (hrefused : ∀ address, context.binding decl.host decl.port ≠ .bound address)
      (hready : Quietly context ready) : Starting decl (ready.setStatus decl.id .failed)

theorem starting_startServer (decl : Web.ServerDecl) :
    context.Starting decl (context.startServer decl) := by
  have hbinding : (context.firstAccounts decl).2.binding = context.binding := by
    rw [firstAccounts]
    split
    · rw [loadAccounts]
      split <;> rfl
    · rfl
  have hready := context.quietly_firstAccounts decl
  rw [startServer]
  generalize htold : (context.firstAccounts decl).2.info _ = told
  have htold' : Quietly context told := htold ▸ hready.tail (.report _)
  have hsame : told.binding = context.binding := htold ▸ hbinding
  dsimp only
  rw [htold, hsame]
  cases hbound : context.binding decl.host decl.port with
  | bound address =>
      have hsecure : ∀ ready : Context,
          Quietly ready (if decl.ssl then ready.startSecure decl else ready) := by
        intro ready
        split
        · exact ready.quietly_startSecure decl
        · exact .refl
      exact .listening hbound ((htold'.tail .asked).tail (.report _)) (hsecure _)
  | refused fault | unnamed fault =>
      exact .failed (by simp [hbound]) ((htold'.tail .asked).tail (.report _))

/-! ## What stays -/

/-- Two states of a run with one program. -/
structure SameProgram (a b : Context) : Prop where
  config : b.config = a.config
  sources : b.sources = a.sources
  functions : b.functions = a.functions
  loaded : b.loaded = a.loaded

namespace SameProgram

theorem refl (a : Context) : SameProgram a a := ⟨rfl, rfl, rfl, rfl⟩

theorem trans {a b c : Context} (hab : SameProgram a b) (hbc : SameProgram b c) : SameProgram a c :=
  ⟨hbc.config.trans hab.config, hbc.sources.trans hab.sources, hbc.functions.trans hab.functions,
    hbc.loaded.trans hab.loaded⟩

/-- What every step of a sequence leaves alone, the sequence does. -/
theorem foldl {α : Type} {step : Context → α → Context}
    (h : ∀ context a, SameProgram context (step context a)) (as : List α) (context : Context) :
    SameProgram context (as.foldl step context) := by
  induction as generalizing context with
  | nil => exact refl context
  | cons a as ih => exact (h context a).trans (ih (step context a))

end SameProgram

/-- Two states of a run with one program, the same variables and the same routes: what lies between
them concerns files, output, reports, servers, tasks and connections at most. -/
structure Outward (a b : Context) : Prop extends SameProgram a b where
  bindings : b.bindings = a.bindings
  apis : b.apis = a.apis

theorem Outward.refl (a : Context) : Outward a a := ⟨.refl a, rfl, rfl⟩

theorem Outward.trans {a b c : Context} (hab : Outward a b) (hbc : Outward b c) : Outward a c :=
  ⟨hab.toSameProgram.trans hbc.toSameProgram, hbc.bindings.trans hab.bindings,
    hbc.apis.trans hab.apis⟩

variable {context} in
/-- What is quiet is turned to the outside. -/
theorem Quietly.outward {last : Context} (h : Quietly context last) : Outward context last := by
  induction h with
  | refl => exact .refl context
  | tail _ hlast ih =>
      refine ih.trans ?_
      cases hlast <;> exact ⟨⟨rfl, rfl, rfl, rfl⟩, rfl, rfl⟩

theorem outward_report (line : LogLine) : Outward context (context.report line) :=
  Quietly.outward (.single (.report line))

theorem outward_startServer (decl : Web.ServerDecl) :
    Outward context (context.startServer decl) := by
  have hstarting := context.starting_startServer decl
  generalize context.startServer decl = last at hstarting ⊢
  cases hstarting with
  | listening _ hready hlast =>
      refine hready.outward.trans (Outward.trans ?_ hlast.outward)
      exact ⟨⟨rfl, rfl, rfl, rfl⟩, rfl, rfl⟩
  | failed _ hready => exact hready.outward.trans ⟨⟨rfl, rfl, rfl, rfl⟩, rfl, rfl⟩

/-! ## Actions -/

theorem quietly_execute (call : String → Context → Outcome) {action : Action} (h : action.IsQuiet) :
    Quietly context (execute call context action).2 := by
  cases action <;> simp only [execute]
  case log message => exact .single (.print _)
  case run command wait => exact context.quietly_runCommand _ _
  case schedule seconds function => exact context.quietly_scheduleCall seconds function
  case connect id config => exact context.quietly_connect id config
  case call | query | declareApi | startWeb => exact h.elim
  all_goals exact context.quietly_changeFiles _ _

/-- A block that can be understood starts a server, with its settings as they are now. -/
theorem startWeb_cases (path : String) (config : Block) :
    (∃ decl, Web.ServerDecl.ofBlock (context.substitute path)
        (context.bindings.substituteBlock config) = .ok decl ∧
      context.startWeb path config = (.ok (), context.startServer decl)) ∨
    ∃ error, context.startWeb path config = (.error error, context) := by
  simp only [startWeb]
  split
  next error _ => exact .inr ⟨error, rfl⟩
  next decl heq => exact .inl ⟨decl, heq, rfl⟩

/-- All actions but calls, queries and declarations are turned to the outside. -/
theorem outward_execute (call : String → Context → Outcome) {action : Action}
    (h : ¬ action.ReachesInside) : Outward context (execute call context action).2 := by
  by_cases hquiet : action.IsQuiet
  · exact (context.quietly_execute call hquiet).outward
  · cases action with
    | startWeb path config =>
        rw [execute]
        rcases context.startWeb_cases path config with ⟨decl, -, heq⟩ | ⟨error, heq⟩ <;> rw [heq]
        · exact context.outward_startServer decl
        · exact .refl context
    | call | query | declareApi => exact absurd trivial h
    | _ => exact absurd trivial hquiet

theorem sameProgram_query (id : String) (config : Block) :
    SameProgram context (context.query id config).2 := by
  rw [query]
  split
  · exact .refl context
  · split
    · exact ⟨rfl, rfl, rfl, rfl⟩
    · split <;> exact ⟨rfl, rfl, rfl, rfl⟩

theorem sameProgram_declareApi (name : String) (config : Block) :
    SameProgram context (context.declareApi name config).2 := by
  rw [declareApi]
  split
  · exact .refl context
  · exact ⟨rfl, rfl, rfl, rfl⟩

/-- An action leaves the program alone if the calls of functions do. -/
theorem sameProgram_execute {call : String → Context → Outcome}
    (hcall : ∀ name context, SameProgram context (call name context).2) (action : Action) :
    SameProgram context (execute call context action).2 := by
  by_cases hinside : action.ReachesInside
  · cases action with
    | call name => exact hcall name context
    | query id config => exact context.sameProgram_query id config
    | declareApi name config => exact context.sameProgram_declareApi name config
    | _ => exact absurd hinside id
  · exact (context.outward_execute call hinside).toSameProgram

theorem sameProgram_performWith {call : String → Context → Outcome}
    (hcall : ∀ name context, SameProgram context (call name context).2) (action : Action) :
    SameProgram context (performWith call context action) := by
  have hexecute := context.sameProgram_execute hcall action
  rw [performWith]
  split
  · next next hnext => rwa [hnext] at hexecute
  · next error next hnext =>
      rw [hnext] at hexecute
      exact hexecute.trans ⟨rfl, rfl, rfl, rfl⟩

/-- A call of a function leaves the program alone, however many levels are left. -/
theorem sameProgram_callWithin (levels : Nat) (name : String) (context : Context) :
    SameProgram context (callWithin levels name context).2 := by
  induction levels generalizing name context with
  | zero =>
      rw [callWithin]
      split <;> exact .refl context
  | succ levels ih =>
      rw [callWithin]
      split
      · exact .refl context
      · exact .foldl (fun context action => context.sameProgram_performWith ih action) _ context

/-- Doing an action leaves the program alone. -/
theorem sameProgram_perform (action : Action) (depth : Nat) :
    SameProgram context (context.perform action depth) :=
  context.sameProgram_performWith (sameProgram_callWithin _) action

end Context

end SiteScript
