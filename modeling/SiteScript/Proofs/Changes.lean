import SiteScript.Proofs.Actions

/-!
# SiteScript.Proofs.Changes

What actions are made of.  Whatever an action does to a run, it does by single changes (`Change`),
one after another (`Changes`): it makes quiet changes, marks a server, lets it answer requests, gives
a variable a value or declares a route.  So what each of these keeps, every action keeps, and the
functions it calls do (`changes_perform`).

What was reported or printed stays: an action only adds to it (`log_prefix_perform`). -/

namespace SiteScript.Context

/-- A single change that an action can make to a run. -/
inductive Change (context : Context) : Context → Prop where
  | quiet {next : Context} (h : QuietChange context next) : Change context next
  | setStatus (id : String) (status : ServerStatus) : Change context (context.setStatus id status)
  | listen (server : Web.Server) : Change context (context.keepAlive (.listener server))
  | setVariable (key value : String) : Change context (context.setVariable key value)
  | register (declaration : Web.Declaration) :
      Change context { context with apis := context.apis.register declaration }

/-- Single changes, one after another. -/
abbrev Changes : Context → Context → Prop := Relation.ReflTransGen Change

/-- What each step of a sequence does by changes, the sequence does. -/
theorem Changes.foldl {α : Type} {step : Context → α → Context}
    (h : ∀ context a, Changes context (step context a)) (as : List α) (context : Context) :
    Changes context (as.foldl step context) := by
  induction as generalizing context with
  | nil => exact .refl
  | cons a as ih => exact (h context a).trans (ih (step context a))

variable (context : Context)

variable {context} in
theorem Quietly.changes {last : Context} (h : Quietly context last) : Changes context last :=
  Relation.ReflTransGen.mono (fun _ _ => Change.quiet) _ _ h

/-! ## Actions -/

theorem changes_startServer (decl : Web.ServerDecl) :
    Changes context (context.startServer decl) := by
  have hstarting := context.starting_startServer decl
  generalize context.startServer decl = last at hstarting ⊢
  cases hstarting with
  | listening _ hready hlast =>
      exact ((hready.changes.tail (.setStatus _ _)).tail (.listen _)).trans hlast.changes
  | failed _ hready => exact hready.changes.tail (.setStatus _ _)

theorem changes_query (id : String) (config : Block) :
    Changes context (context.query id config).2 := by
  have hasked : Changes context context.asked := .single (.quiet .asked)
  rw [query]
  split
  · exact .refl
  · split
    · exact hasked
    · split
      · exact hasked.tail (.setVariable _ _)
      · exact hasked

theorem changes_declareApi (name : String) (config : Block) :
    Changes context (context.declareApi name config).2 := by
  rw [declareApi]
  split
  · exact .refl
  · exact .single (.register _)

/-- An action is made of changes if the calls of functions are. -/
theorem changes_execute {call : String → Context → Outcome}
    (hcall : ∀ name context, Changes context (call name context).2) (action : Action) :
    Changes context (execute call context action).2 := by
  by_cases hquiet : action.IsQuiet
  · exact (context.quietly_execute call hquiet).changes
  · cases action with
    | call name => exact hcall name context
    | query id config => exact context.changes_query id config
    | declareApi name config => exact context.changes_declareApi name config
    | startWeb path config =>
        rw [execute]
        rcases context.startWeb_cases path config with ⟨decl, -, heq⟩ | ⟨error, heq⟩
        · rw [heq]
          exact context.changes_startServer decl
        · rw [heq]
    | _ => exact absurd trivial hquiet

theorem changes_performWith {call : String → Context → Outcome}
    (hcall : ∀ name context, Changes context (call name context).2) (action : Action) :
    Changes context (performWith call context action) := by
  have hexecute := context.changes_execute hcall action
  rw [performWith]
  split
  · next next hnext => rwa [hnext] at hexecute
  · next error next hnext =>
      rw [hnext] at hexecute
      exact hexecute.tail (.quiet (.report _))

/-- A call of a function is made of changes, however many levels are left. -/
theorem changes_callWithin (levels : Nat) (name : String) (context : Context) :
    Changes context (callWithin levels name context).2 := by
  induction levels generalizing name context with
  | zero =>
      rw [callWithin]
      split <;> exact .refl
  | succ levels ih =>
      rw [callWithin]
      split
      · exact .refl
      · exact .foldl (fun context action => context.changes_performWith ih action) _ context

/-- **Every action is made of single changes.** -/
theorem changes_perform (action : Action) (depth : Nat) :
    Changes context (context.perform action depth) :=
  context.changes_performWith (changes_callWithin _) action

/-! ## Reports and output -/

variable {context} in
/-- What was reported and printed before changes comes first afterwards. -/
theorem Changes.told {last : Context} (h : Changes context last) :
    context.log <+: last.log ∧ context.output <+: last.output := by
  induction h with
  | refl => exact ⟨List.prefix_rfl, List.prefix_rfl⟩
  | tail _ hlast ih =>
      obtain ⟨hlog, houtput⟩ := ih
      cases hlast with
      | quiet hquiet =>
          cases hquiet with
          | report line => exact ⟨hlog.trans (List.prefix_append _ _), houtput⟩
          | print bytes => exact ⟨hlog, houtput.trans (List.prefix_append _ _)⟩
          | _ => exact ⟨hlog, houtput⟩
      | _ => exact ⟨hlog, houtput⟩

theorem log_prefix_perform (action : Action) (depth : Nat) :
    context.log <+: (context.perform action depth).log :=
  (context.changes_perform action depth).told.1

end SiteScript.Context
