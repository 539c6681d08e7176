import SiteScript.Proofs.Loading

/-!
# SiteScript.Proofs.Interleaving

Reading and doing at once.  A script is not unfolded first and done afterwards: each directive is done
as soon as it is read, on one state of the run, with the scripts marked as loaded on the way.

1. `Interprets` says how, directive by directive, whatever doing an action may come to.
2. Actions do not look at which scripts are loaded (`step_withLoaded`), so marking a script can be put
   before the actions that come first.
3. Loading a script is such a run (`interprets_loadSource`). -/

namespace SiteScript

namespace Context

open Unfolding (Job OpenBody)

/-! ## Interpreting -/

/-- What doing an action at top level may come to: the state before and the state after. -/
abbrev Deed := Context → Action → Context → Prop

/-- Actions are done as they are. -/
def Performs : Deed := fun context action next => next = context.perform action 0

/-- A run, and the body that is open in the script that is being read. -/
abbrev Reading := Context × OpenBody

/-- Announce a script that is not loaded yet. -/
def announce (kind : String) (context : Context) (path : String) : Context :=
  if context.isLoaded path then context
  else context.info ("Loading " ++ kind ++ " file: " ++ path)

/-- Leave a script; of a body that is still open nothing remains. -/
def leave (path : String) (reading : Reading) : Context :=
  match reading.2 with
  | some (name, _) =>
    reading.1.warn (path ++ ": function '" ++ name ++ "' is missing ':end:' and was discarded")
  | none => reading.1

/-- Open a body; of one that is still open nothing remains. -/
def openBody (name : String) (reading : Reading) : Reading :=
  match reading.2 with
  | some (unclosed, _) =>
    (reading.1.warn ("':start: " ++ name ++ "' inside unclosed function '" ++ unclosed ++
      "', which is discarded"), some (name, []))
  | none => (reading.1, some (name, []))

/-- A finite run of loading that does what it reads: what it is busy with, the reading before, the
actions that are executed at top level, in order, and the reading after. -/
inductive Interprets (deed : Deed) : Job → Reading → List Action → Reading → Prop where
  | again {path : String} {context : Context} {body : OpenBody}
      (h : context.isLoaded path = true) :
      Interprets deed (.file path) (context, body) [] (context, body)
  | absent {path : String} {context : Context} {body : OpenBody}
      (h : context.isLoaded path = false) (htext : context.sources.get? path = none) :
      Interprets deed (.file path) (context, body) []
        ((context.markLoaded path).2.error ("Source file " ++ path ++ " is not in the bundle"), body)
  | read {path text : String} {context : Context} {body : OpenBody} {executed : List Action}
      {reading : Reading} (h : context.isLoaded path = false)
      (htext : context.sources.get? path = some text)
      (hresults : Interprets deed (.results (Script.parse path text))
        ((context.markLoaded path).2, none) executed reading) :
      Interprets deed (.file path) (context, body) executed (leave path reading, body)
  | noFiles {kind : String} {reading : Reading} :
      Interprets deed (.files kind []) reading [] reading
  | nextFile {kind path : String} {paths : List String} {context : Context} {body : OpenBody}
      {first rest : List Action} {middle last : Reading}
      (hfile : Interprets deed (.file path) (context.announce kind path, body) first middle)
      (hfiles : Interprets deed (.files kind paths) middle rest last) :
      Interprets deed (.files kind (path :: paths)) (context, body) (first ++ rest) last
  | noModules {reading : Reading} : Interprets deed (.modules []) reading [] reading
  | package {name : String} {names files : List String} {context : Context} {body : OpenBody}
      {first rest : List Action} {middle last : Reading}
      (h : context.resolve name = .package files)
      (hfiles : Interprets deed (.files "package" files) (context, body) first middle)
      (hmodules : Interprets deed (.modules names) middle rest last) :
      Interprets deed (.modules (name :: names)) (context, body) (first ++ rest) last
  | single {name path : String} {names : List String} {context : Context} {body : OpenBody}
      {first rest : List Action} {middle last : Reading} (h : context.resolve name = .file path)
      (hfiles : Interprets deed (.files "single" [path]) (context, body) first middle)
      (hmodules : Interprets deed (.modules names) middle rest last) :
      Interprets deed (.modules (name :: names)) (context, body) (first ++ rest) last
  | missing {name : String} {names : List String} {context : Context} {body : OpenBody}
      {executed : List Action} {last : Reading} (h : context.resolve name = .missing)
      (hmodules : Interprets deed (.modules names)
        (context.error ("Could not find file or package \"" ++ name ++ "\"."), body)
        executed last) :
      Interprets deed (.modules (name :: names)) (context, body) executed last
  | noResults {reading : Reading} : Interprets deed (.results []) reading [] reading
  | malformed {error : Script.ParseError} {rest : List (Except Script.ParseError Directive)}
      {context : Context} {body : OpenBody} {executed : List Action} {last : Reading}
      (hrest : Interprets deed (.results rest)
        (context.error (Error.ofParse error).message, body) executed last) :
      Interprets deed (.results (.error error :: rest)) (context, body) executed last
  /-- An assignment is done at once, also inside a body. -/
  | assign {key value : String} {rest : List (Except Script.ParseError Directive)}
      {context : Context} {body : OpenBody} {executed : List Action} {last : Reading}
      (hrest : Interprets deed (.results rest) (context.setVariable key value, body)
        executed last) :
      Interprets deed (.results (.ok (.assign key value) :: rest)) (context, body) executed last
  | beginFunction {name : String} {rest : List (Except Script.ParseError Directive)}
      {reading last : Reading} {executed : List Action}
      (hrest : Interprets deed (.results rest) (openBody name reading) executed last) :
      Interprets deed (.results (.ok (.beginFunction name) :: rest)) reading executed last
  | endFunction {name : String} {body : List Action}
      {rest : List (Except Script.ParseError Directive)} {context : Context}
      {executed : List Action} {last : Reading}
      (hrest : Interprets deed (.results rest) (context.define name body, none) executed last) :
      Interprets deed (.results (.ok .endFunction :: rest)) (context, some (name, body))
        executed last
  /-- Outside a body there is nothing to end. -/
  | nothingEnds {rest : List (Except Script.ParseError Directive)} {context : Context}
      {executed : List Action} {last : Reading}
      (hrest : Interprets deed (.results rest) (context, none) executed last) :
      Interprets deed (.results (.ok .endFunction :: rest)) (context, none) executed last
  /-- A load is done at once, also inside a body. -/
  | load {names : List String} {rest : List (Except Script.ParseError Directive)}
      {reading middle last : Reading} {first second : List Action}
      (hmodules : Interprets deed (.modules names) reading first middle)
      (hrest : Interprets deed (.results rest) middle second last) :
      Interprets deed (.results (.ok (.load names) :: rest)) reading (first ++ second) last
  /-- Inside a body an action is kept for the function. -/
  | keep {action : Action} {name : String} {body : List Action}
      {rest : List (Except Script.ParseError Directive)} {context : Context}
      {executed : List Action} {last : Reading}
      (hrest : Interprets deed (.results rest) (context, some (name, body ++ [action]))
        executed last) :
      Interprets deed (.results (.ok (.act action) :: rest)) (context, some (name, body))
        executed last
  /-- At top level an action is done at once. -/
  | perform {action : Action} {rest : List (Except Script.ParseError Directive)}
      {context next : Context} {executed : List Action} {last : Reading}
      (hdeed : deed context action next)
      (hrest : Interprets deed (.results rest) (next, none) executed last) :
      Interprets deed (.results (.ok (.act action) :: rest)) (context, none)
        (action :: executed) last

/-! ## Actions do not look at which scripts are loaded -/

/-- The state with other scripts loaded. -/
abbrev withLoaded (context : Context) (loaded : List String) : Context := { context with loaded }

section WithLoaded

variable (context : Context) (loaded : List String)

theorem info_withLoaded (message : String) :
    (context.withLoaded loaded).info message = (context.info message).withLoaded loaded := rfl

theorem asked_withLoaded : (context.withLoaded loaded).asked = context.asked.withLoaded loaded := rfl

theorem setStatus_withLoaded (id : String) (status : ServerStatus) :
    (context.withLoaded loaded).setStatus id status =
      (context.setStatus id status).withLoaded loaded := rfl

theorem keepAlive_withLoaded (task : Task) :
    (context.withLoaded loaded).keepAlive task = (context.keepAlive task).withLoaded loaded := rfl

theorem launch_withLoaded (launch : Launch) :
    (context.withLoaded loaded).launch launch =
      ((context.launch launch).1, (context.launch launch).2.withLoaded loaded) := by
  simp only [Context.launch]
  split
  · rfl
  · split <;> rfl

theorem complete_withLoaded (launch : Launch) :
    (context.withLoaded loaded).complete launch =
      ((context.complete launch).1, (context.complete launch).2.withLoaded loaded) := by
  rw [complete, complete, launch_withLoaded]
  generalize context.launch launch = launched
  obtain ⟨fault | _, started⟩ := launched <;> rfl

theorem firstAccounts_withLoaded (decl : Web.ServerDecl) :
    (context.withLoaded loaded).firstAccounts decl =
      ((context.firstAccounts decl).1, (context.firstAccounts decl).2.withLoaded loaded) := by
  simp only [firstAccounts, loadAccounts]
  split
  · split <;> rfl
  · rfl

theorem makeCertificate_withLoaded (bits : Nat) :
    (context.withLoaded loaded).makeCertificate bits =
      ((context.makeCertificate bits).1, (context.makeCertificate bits).2.withLoaded loaded) := by
  have htool : ∀ told : Context, (told.withLoaded loaded).certificateTool bits =
      told.certificateTool bits := fun _ => rfl
  simp only [makeCertificate, info_withLoaded, htool, complete_withLoaded]
  generalize (context.info _).complete _ = completed
  obtain ⟨fault | ending, ended⟩ := completed
  · rfl
  · dsimp only
    split <;> rfl

theorem ensureCertificate_withLoaded (bits : Nat) :
    (context.withLoaded loaded).ensureCertificate bits =
      ((context.ensureCertificate bits).1,
        (context.ensureCertificate bits).2.withLoaded loaded) := by
  simp only [ensureCertificate]
  split
  · rfl
  · rfl
  next files _ =>
    split
    · rfl
    · exact makeCertificate_withLoaded { context with files } loaded bits

theorem startSecure_withLoaded (decl : Web.ServerDecl) :
    (context.withLoaded loaded).startSecure decl = (context.startSecure decl).withLoaded loaded := by
  rw [startSecure, startSecure, ensureCertificate_withLoaded]
  generalize context.ensureCertificate decl.sslBits = made
  obtain ⟨made, next⟩ := made
  have hcertificate : (next.withLoaded loaded).loadCertificate = next.loadCertificate := rfl
  have hbinding : (next.withLoaded loaded).binding = next.binding := rfl
  dsimp only
  rw [hcertificate, hbinding]
  split
  · rfl
  · split <;> rfl

theorem startListening_withLoaded (decl : Web.ServerDecl) (accounts : Web.Accounts)
    (address : String) :
    (context.withLoaded loaded).startListening decl accounts address =
      (context.startListening decl accounts address).withLoaded loaded := by
  simp only [startListening, info_withLoaded, setStatus_withLoaded, keepAlive_withLoaded]
  split
  · exact startSecure_withLoaded _ loaded decl
  · rfl

theorem startServer_withLoaded (decl : Web.ServerDecl) :
    (context.withLoaded loaded).startServer decl = (context.startServer decl).withLoaded loaded := by
  rw [startServer, startServer, firstAccounts_withLoaded]
  generalize context.firstAccounts decl = first
  obtain ⟨accounts, ready⟩ := first
  simp only [info_withLoaded, asked_withLoaded]
  generalize ready.info _ = told
  have hbinding : (told.withLoaded loaded).binding = told.binding := rfl
  rw [hbinding]
  split
  · exact startListening_withLoaded told.asked loaded decl accounts _
  · rfl
  · rfl

theorem changeFiles_withLoaded (change : Sandbox.Change) (told : HostError → Error) :
    (context.withLoaded loaded).changeFiles change told =
      ((context.changeFiles change told).1, (context.changeFiles change told).2.withLoaded loaded) := by
  obtain ⟨result, files⟩ := change
  cases result <;> rfl

theorem runAwaited_withLoaded (command : String) :
    (context.withLoaded loaded).runAwaited command =
      ((context.runAwaited command).1, (context.runAwaited command).2.withLoaded loaded) := by
  have hshell : (context.withLoaded loaded).shell = context.shell := rfl
  rw [runAwaited, runAwaited, hshell, complete_withLoaded]
  generalize context.complete (context.shell command) = completed
  obtain ⟨fault | ending, ended⟩ := completed
  · rfl
  · dsimp only
    split <;> rfl

theorem runInBackground_withLoaded (command : String) :
    (context.withLoaded loaded).runInBackground command =
      ((context.runInBackground command).1,
        (context.runInBackground command).2.withLoaded loaded) := by
  have hshell : (context.withLoaded loaded).shell = context.shell := rfl
  rw [runInBackground, runInBackground, hshell, launch_withLoaded]
  generalize context.launch (context.shell command) = launched
  obtain ⟨fault | _, started⟩ := launched <;> rfl

theorem runCommand_withLoaded (command : String) (wait : Bool) :
    (context.withLoaded loaded).runCommand command wait =
      ((context.runCommand command wait).1, (context.runCommand command wait).2.withLoaded loaded) := by
  rw [runCommand, runCommand, runAwaited_withLoaded, runInBackground_withLoaded]
  cases wait <;> rfl

theorem connect_withLoaded (id : String) (config : Block) :
    (context.withLoaded loaded).connect id config =
      ((context.connect id config).1, (context.connect id config).2.withLoaded loaded) := by
  have hopen : ∀ config, (context.withLoaded loaded).openConnection config =
      ((context.openConnection config).1, (context.openConnection config).2.withLoaded loaded) := by
    intro config
    rw [openConnection, openConnection]
    split <;> rfl
  simp only [connect, hopen]
  split
  · rfl
  next config _ =>
    generalize context.openConnection config = opened
    obtain ⟨message | connection, ready⟩ := opened <;> rfl

theorem query_withLoaded (id : String) (config : Block) :
    (context.withLoaded loaded).query id config =
      ((context.query id config).1, (context.query id config).2.withLoaded loaded) := by
  simp only [query, substitute]
  split
  · rfl
  · split
    · rfl
    · split <;> rfl

theorem declareApi_withLoaded (name : String) (config : Block) :
    (context.withLoaded loaded).declareApi name config =
      ((context.declareApi name config).1, (context.declareApi name config).2.withLoaded loaded) := by
  simp only [declareApi]
  split <;> rfl

theorem startWeb_withLoaded (path : String) (config : Block) :
    (context.withLoaded loaded).startWeb path config =
      ((context.startWeb path config).1, (context.startWeb path config).2.withLoaded loaded) := by
  simp only [startWeb, substitute]
  split
  · rfl
  · exact Prod.ext rfl (context.startServer_withLoaded loaded _)

/-- Calls that do not look at which scripts are loaded. -/
def Regardless (call : String → Context → Outcome) : Prop :=
  ∀ name context loaded,
    call name (context.withLoaded loaded) = ((call name context).1, (call name context).2.withLoaded loaded)

variable {call : String → Context → Outcome}

theorem execute_withLoaded (hcall : Regardless call) (action : Action) :
    execute call (context.withLoaded loaded) action =
      ((execute call context action).1, (execute call context action).2.withLoaded loaded) := by
  cases action <;> simp only [execute, substitute]
  case log message => rfl
  case run command wait => exact context.runCommand_withLoaded loaded _ _
  case call name => exact hcall name context loaded
  case schedule seconds function => rfl
  case connect id config => exact context.connect_withLoaded loaded id config
  case query id config => exact context.query_withLoaded loaded id config
  case declareApi name config => exact context.declareApi_withLoaded loaded name config
  case startWeb path config => exact context.startWeb_withLoaded loaded path config
  all_goals exact context.changeFiles_withLoaded loaded _ _

theorem performWith_withLoaded (hcall : Regardless call) (action : Action) :
    performWith call (context.withLoaded loaded) action =
      (performWith call context action).withLoaded loaded := by
  rw [performWith, performWith, context.execute_withLoaded loaded hcall]
  generalize execute call context action = outcome
  obtain ⟨result, next⟩ := outcome
  cases result <;> rfl

/-- What every step of a sequence does not look at, the sequence does not. -/
theorem foldl_withLoaded {α : Type} {step : Context → α → Context} {loaded : List String}
    (h : ∀ context a, step (context.withLoaded loaded) a = (step context a).withLoaded loaded)
    (as : List α) (context : Context) :
    as.foldl step (context.withLoaded loaded) = (as.foldl step context).withLoaded loaded := by
  induction as generalizing context with
  | nil => rfl
  | cons a as ih => rw [List.foldl_cons, h, ih, List.foldl_cons]

theorem regardless_callWithin (levels : Nat) : Regardless (callWithin levels) := by
  induction levels with
  | zero =>
      intro name context loaded
      simp only [callWithin]
      split <;> rfl
  | succ levels ih =>
      intro name context loaded
      simp only [callWithin]
      split
      · rfl
      next body _ =>
        exact Prod.ext rfl (foldl_withLoaded (fun context action =>
          performWith_withLoaded context loaded ih action) body context)

/-- Steps do not look at which scripts are loaded. -/
theorem step_withLoaded (step : Step) :
    (context.withLoaded loaded).step step = (context.step step).withLoaded loaded := by
  cases step with
  | perform action => exact context.performWith_withLoaded loaded (regardless_callWithin _) action
  | _ => rfl

end WithLoaded

/-! ## Bundles -/

/-- Two states of a run of one bundle. -/
structure SameBundle (a b : Context) : Prop where
  config : b.config = a.config
  sources : b.sources = a.sources

/-- A state of a run of a certain bundle. -/
structure Within (sources : FileMap) (packagesDir : String) (context : Context) : Prop where
  sources : context.sources = sources
  packagesDir : context.config.packagesDir = packagesDir

theorem SameBundle.trans {a b c : Context} (hab : SameBundle a b) (hbc : SameBundle b c) :
    SameBundle a c :=
  ⟨hbc.config.trans hab.config, hbc.sources.trans hab.sources⟩

theorem SameBundle.foldl {α : Type} {step : Context → α → Context}
    (h : ∀ context a, SameBundle context (step context a)) (as : List α) (context : Context) :
    SameBundle context (as.foldl step context) := by
  induction as generalizing context with
  | nil => exact ⟨rfl, rfl⟩
  | cons a as ih => exact (h context a).trans (ih (step context a))

theorem SameProgram.sameBundle {a b : Context} (h : SameProgram a b) : SameBundle a b :=
  ⟨h.config, h.sources⟩

theorem sameBundle_step (context : Context) (step : Step) :
    SameBundle context (context.step step) := by
  cases step with
  | perform action => exact (context.sameProgram_perform action 0).sameBundle
  | assign | define | report => exact ⟨rfl, rfl⟩

theorem SameBundle.within {sources : FileMap} {packagesDir : String} {a b : Context}
    (h : SameBundle a b) (ha : Within sources packagesDir a) : Within sources packagesDir b :=
  ⟨h.sources.trans ha.sources, (congrArg RunConfig.packagesDir h.config).trans ha.packagesDir⟩

theorem Within.resolve {sources : FileMap} {packagesDir : String} {context : Context}
    (h : Within sources packagesDir context) (name : String) :
    context.resolve name = Resolution.find sources packagesDir name := by
  rw [Context.resolve, h.sources, h.packagesDir]

/-! ## Loading is interpreting -/

/-- The state after some steps, with scripts loaded. -/
def after (context : Context) (steps : List Step) (loaded : List String) : Context :=
  (steps.foldl step context).withLoaded loaded

/-- More steps after some. -/
theorem after_after (context : Context) (first second : List Step) (loaded loaded' : List String) :
    (context.after first loaded).after second loaded' = context.after (first ++ second) loaded' := by
  rw [after, after, foldl_withLoaded fun context step => context.step_withLoaded loaded step,
    ← List.foldl_append]
  rfl

/-- A state with certain scripts, of which certain ones are loaded. -/
structure Fits (sources : FileMap) (packagesDir : String) (loaded : List String)
    (context : Context) : Prop extends Within sources packagesDir context where
  loaded : context.loaded = loaded

variable {sources : FileMap} {packagesDir : String} {loaded : List String} {context : Context}

theorem Fits.after (h : Fits sources packagesDir loaded context) (steps : List Step)
    (loaded' : List String) : Fits sources packagesDir loaded' (context.after steps loaded') where
  toWithin := by
    have hsteps : SameBundle context (steps.foldl step context) :=
      SameBundle.foldl (fun context step => context.sameBundle_step step) steps context
    exact SameBundle.within ⟨hsteps.config, hsteps.sources⟩ h.toWithin
  loaded := rfl

/-- The state itself. -/
theorem Fits.after_nil (h : Fits sources packagesDir loaded context) :
    context.after [] loaded = context := by
  rw [Context.after, ← h.loaded]
  rfl

theorem Fits.isLoaded (h : Fits sources packagesDir loaded context) (path : String) :
    context.isLoaded path = loaded.contains path := by
  rw [Context.isLoaded, h.loaded]

theorem Fits.markLoaded (h : Fits sources packagesDir loaded context) {path : String}
    (hpath : path ∉ loaded) : (context.markLoaded path).2 = context.after [] (path :: loaded) := by
  have hnew : context.isLoaded path = false := by simpa [h.isLoaded] using hpath
  rw [Context.markLoaded, hnew, ← h.loaded]
  rfl

end Context

namespace Unfolding

open Context

variable {sources : FileMap} {packagesDir : String}

/-- How readings are gone through: the reading before, the actions that are executed, and the
reading after. -/
abbrev Interpretation := Reading → List Action → Reading → Prop

/-- The actions that steps do at top level, in order. -/
def performed (steps : List Step) : List Action :=
  steps.filterMap fun step => match step with
    | .perform action => some action
    | _ => none

theorem performed_append (first second : List Step) :
    performed (first ++ second) = performed first ++ performed second :=
  List.filterMap_append

/-- A run of loading is interpreted: the steps that it adds are taken one after another, as they
come, in every state with its scripts. -/
def Interpreted (sources : FileMap) (packagesDir : String) (run : Interpretation)
    (state last : State) : Prop :=
  ∃ steps, last.1.steps = state.1.steps ++ steps ∧
    ∀ context : Context, Fits sources packagesDir state.1.loaded context →
      run (context, state.2) (performed steps) (context.after steps last.1.loaded, last.2)

/-- Steps that are taken before a run, without loading anything. -/
theorem Interpreted.of_steps {run whole : Interpretation} {state state' last : State}
    (h : Interpreted sources packagesDir run state' last) (steps : List Step)
    (hsteps : state'.1.steps = state.1.steps ++ steps) (hloaded : state'.1.loaded = state.1.loaded)
    (hwhole : ∀ context executed reading, Fits sources packagesDir state.1.loaded context →
      run (context.after steps state.1.loaded, state'.2) executed reading →
      whole (context, state.2) (performed steps ++ executed) reading) :
    Interpreted sources packagesDir whole state last := by
  obtain ⟨more, hmore, hrun⟩ := h
  rw [hloaded] at hrun
  refine ⟨steps ++ more, by rw [hmore, hsteps, List.append_assoc], fun context hfits => ?_⟩
  have hrest := hrun _ (hfits.after steps state.1.loaded)
  rw [after_after] at hrest
  rw [performed_append]
  exact hwhole context _ _ hfits hrest

/-- One run after another. -/
theorem Interpreted.seq {run run' whole : Interpretation} {state middle last : State}
    (h : Interpreted sources packagesDir run state middle)
    (h' : Interpreted sources packagesDir run' middle last)
    (hwhole : ∀ context first between rest reading, Fits sources packagesDir state.1.loaded context →
      run (context, state.2) first between →
      run' between rest reading →
      whole (context, state.2) (first ++ rest) reading) :
    Interpreted sources packagesDir whole state last := by
  obtain ⟨steps, hsteps, hrun⟩ := h
  obtain ⟨more, hmore, hrun'⟩ := h'
  refine ⟨steps ++ more, by rw [hmore, hsteps, List.append_assoc], fun context hfits => ?_⟩
  have hrest := hrun' _ (hfits.after steps middle.1.loaded)
  rw [after_after] at hrest
  rw [performed_append]
  exact hwhole context _ _ _ _ hfits (hrun context hfits) hrest

/-- Nothing to do. -/
theorem Interpreted.refl {run : Interpretation} {state : State}
    (h : ∀ context, Fits sources packagesDir state.1.loaded context →
      run (context, state.2) [] (context, state.2)) :
    Interpreted sources packagesDir run state state :=
  ⟨[], (List.append_nil _).symm, fun context hfits => by
    rw [hfits.after_nil]
    exact h context hfits⟩

/-- A single report that is made before a run. -/
theorem Interpreted.of_report {run whole : Interpretation} {unfolding : Unfolding} {body : OpenBody}
    {last : State} (line : LogLine)
    (h : Interpreted sources packagesDir run (unfolding.add (.report line), body) last)
    (hwhole : ∀ context executed reading,
      Fits sources packagesDir unfolding.loaded context →
      run (context.report line, body) executed reading →
      whole (context, body) executed reading) :
    Interpreted sources packagesDir whole (unfolding, body) last := by
  refine h.of_steps [.report line] rfl rfl fun context executed reading hfits hrun => ?_
  have hreport : context.after [.report line] unfolding.loaded = context.report line := by
    rw [Context.after, ← hfits.loaded]
    rfl
  exact hwhole context executed reading hfits (hreport ▸ hrun)

/-- Announcing a script is a report, or nothing. -/
theorem Interpreted.of_announce {job : Job} {kind path : String} {unfolding : Unfolding}
    {body : OpenBody} {last : State}
    (h : Interpreted sources packagesDir (Interprets Performs job)
      (announce kind unfolding path, body) last) :
    Interpreted sources packagesDir
      (fun reading => Interprets Performs job (reading.1.announce kind path, reading.2))
      (unfolding, body) last := by
  rw [announce] at h
  split at h
  next hloaded =>
    refine h.of_steps [] (List.append_nil _).symm rfl fun context executed reading hfits hrun => ?_
    rw [hfits.after_nil] at hrun
    rwa [Context.announce, hfits.isLoaded, if_pos hloaded]
  next hnew =>
    refine h.of_report _ fun context executed reading hfits hrun => ?_
    rwa [Context.announce, hfits.isLoaded, if_neg hnew]

/-- A directive that is no load, before what is left of a script. -/
theorem Interpreted.of_directive {directive : Directive}
    {rest : List (Except Script.ParseError Directive)} {state last : State}
    (hother : ∀ names, directive ≠ .load names)
    (h : Interpreted sources packagesDir (Interprets Performs (.results rest))
      (follow (fun unfolding _ => unfolding) state directive) last) :
    Interpreted sources packagesDir (Interprets Performs (.results (.ok directive :: rest)))
      state last := by
  obtain ⟨unfolding, body⟩ := state
  -- a step is what the directive does to the run, and the body is what it does to the scope
  have htake : ∀ (steps : List Step) (next : Context) (context : Context),
      Fits sources packagesDir unfolding.loaded context →
      (steps.foldl Context.step context).withLoaded context.loaded = next →
      context.after steps unfolding.loaded = next := by
    intro steps next context hfits hnext
    rw [Context.after, ← hfits.loaded, hnext]
  cases directive with
  | load names => exact absurd rfl (hother names)
  | assign key value =>
      refine h.of_steps [.assign key value] rfl rfl fun context executed reading hfits hrun => ?_
      rw [htake _ (context.setVariable key value) context hfits rfl] at hrun
      exact .assign hrun
  | beginFunction name =>
      cases body with
      | none =>
          refine h.of_steps [] (List.append_nil _).symm rfl
            fun context executed reading hfits hrun => ?_
          rw [hfits.after_nil] at hrun
          exact .beginFunction hrun
      | some unclosed =>
          refine h.of_steps _ rfl rfl fun context executed reading hfits hrun => ?_
          rw [htake _ (openBody name (context, some unclosed)).1 context hfits rfl] at hrun
          exact .beginFunction hrun
  | endFunction =>
      cases body with
      | none =>
          refine h.of_steps [] (List.append_nil _).symm rfl
            fun context executed reading hfits hrun => ?_
          rw [hfits.after_nil] at hrun
          exact .nothingEnds hrun
      | some closed =>
          refine h.of_steps _ rfl rfl fun context executed reading hfits hrun => ?_
          rw [htake _ (context.define closed.1 closed.2) context hfits rfl] at hrun
          exact .endFunction hrun
  | act action =>
      cases body with
      | none =>
          refine h.of_steps [.perform action] rfl rfl fun context executed reading hfits hrun => ?_
          have hloaded := (context.sameProgram_perform action 0).loaded
          rw [htake _ (context.perform action 0) context hfits
            (by rw [← hloaded]; rfl)] at hrun
          exact .perform rfl hrun
      | some kept =>
          refine h.of_steps [] (List.append_nil _).symm rfl
            fun context executed reading hfits hrun => ?_
          rw [hfits.after_nil] at hrun
          exact .keep hrun

/-- Leaving a script is a report, or nothing. -/
theorem leave_after (path : String) (state : State) :
    ∃ more, (leave path state).steps = state.1.steps ++ more ∧ performed more = [] ∧
      ∀ (context : Context) steps, Context.leave path (context.after steps state.1.loaded, state.2) =
        context.after (steps ++ more) state.1.loaded := by
  obtain ⟨unfolding, body⟩ := state
  cases body with
  | none =>
      refine ⟨[], (List.append_nil _).symm, rfl, fun context steps => ?_⟩
      rw [List.append_nil]
      rfl
  | some unclosed =>
      refine ⟨[_], rfl, rfl, fun context steps => ?_⟩
      rw [Context.after, Context.after, List.foldl_append]
      rfl

/-- **Every run of loading is interpreted.** -/
theorem Runs.interpreted {job : Job} {state last : State} {parsed : List String}
    (h : Runs sources packagesDir job state parsed last) :
    Interpreted sources packagesDir (Interprets Performs job) state last := by
  induction h with
  | @again path unfolding body hloaded =>
      exact .refl fun context hfits => .again (by simpa [hfits.isLoaded] using hloaded)
  | @absent path unfolding body hnew htext =>
      refine ⟨[_], rfl, fun context hfits => ?_⟩
      have hrun : Interprets Performs (.file path) (context, body) [] (_, body) :=
        .absent (by simpa [hfits.isLoaded] using hnew) (by rw [hfits.sources, htext])
      rw [hfits.markLoaded hnew] at hrun
      exact hrun
  | @read path text unfolding body _ state hnew htext _ ih =>
      obtain ⟨steps, hsteps, hrun⟩ := ih
      obtain ⟨more, hmore, hnone, hleave⟩ := leave_after path state
      refine ⟨steps ++ more, by rw [hmore, hsteps, List.append_assoc]; rfl, fun context hfits => ?_⟩
      have hresults := hrun (context.after [] (path :: unfolding.loaded)) (hfits.after _ _)
      rw [← hfits.markLoaded hnew] at hresults
      have hread : Interprets Performs (.file path) (context, body) (performed steps) (_, body) :=
        .read (by simpa [hfits.isLoaded] using hnew) (by rw [hfits.sources, htext]) hresults
      rw [hfits.markLoaded hnew, after_after, List.nil_append, hleave] at hread
      rwa [performed_append, hnone, List.append_nil, loaded_leave]
  | noFiles => exact .refl fun context _ => .noFiles
  | noModules => exact .refl fun context _ => .noModules
  | noResults => exact .refl fun context _ => .noResults
  | nextFile _ _ ih ih' =>
      exact ih.of_announce.seq ih' fun context first between rest reading _ hfile hfiles =>
        .nextFile hfile hfiles
  | package hfind _ _ ih ih' =>
      exact ih.seq ih' fun context first between rest reading hfits hfiles hmodules =>
        .package (by rw [hfits.resolve, hfind]) hfiles hmodules
  | single hfind _ _ ih ih' =>
      exact ih.seq ih' fun context first between rest reading hfits hfiles hmodules =>
        .single (by rw [hfits.resolve, hfind]) hfiles hmodules
  | missing hfind _ ih =>
      exact ih.of_report _ fun context executed reading hfits hrun =>
        .missing (by rw [hfits.resolve, hfind]) hrun
  | malformed _ ih => exact ih.of_report _ fun context executed reading _ hrun => .malformed hrun
  | load _ _ ih ih' =>
      exact ih.seq ih' fun context first between rest reading _ hmodules hrest =>
        .load hmodules hrest
  | other hother _ ih => exact .of_directive hother ih

end Unfolding

open Unfolding in
/-- **Loading is interpreting**: loading a script leads to the state that reading its directives and
doing each of them at once leads to, and the actions that are executed on the way are those of the
steps it amounts to. -/
theorem Context.interprets_loadSource (context : Context) (path : String) :
    Interprets Performs (.file path) (context, none)
      (performed (ofFile context.sources context.config.packagesDir context.loaded path).steps)
      (context.loadSource path, none) := by
  have hbound : unloaded context.sources context.loaded < fuelFor context.sources :=
    Nat.lt_succ_of_le (unloaded_le_size _ _)
  obtain ⟨parsed, hrun⟩ := loadFile_runs context.sources context.config.packagesDir
    (fuelFor context.sources) { loaded := context.loaded } path none hbound
  obtain ⟨steps, hsteps, hinterpreted⟩ := hrun.interpreted
  have hall : (ofFile context.sources context.config.packagesDir context.loaded path).steps =
    steps := hsteps
  have hlast : context.loadSource path = context.after steps
      (ofFile context.sources context.config.packagesDir context.loaded path).loaded := by
    rw [loadSource, follow, hall]
    exact foldl_withLoaded (fun context step => context.step_withLoaded _ step) steps context
  rw [hlast, hall]
  exact hinterpreted context ⟨⟨rfl, rfl⟩, rfl⟩

end SiteScript
