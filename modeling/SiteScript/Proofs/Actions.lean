import SiteScript.Proofs.Dictionary
import SiteScript.Proofs.Program

/-!
# SiteScript.Proofs.Actions

Every action comes to an end, whatever functions call each other, and leaves the program as it is.

1. `Does` says what doing an action amounts to without a bound on the recursion: calls go one level
   deeper each, and one that is too deep is refused.  It is a judgement about finite runs, and it
   keeps what happened, in order: the actions that were executed and the bodies that were entered.
2. The bounded recursion of `perform` is such a run, as the levels that are left and the depth make up
   the greatest depth together (`does_performWith`); and there is no other (`Does.unique`).
3. What happened tells all that can have changed inside the run: variables by queries, routes by
   declarations, and nothing else (`Does.effect`). -/

namespace SiteScript

namespace Action

/-- The variable that an action can set: the one that a query is to keep its rows in. -/
def target? : Action → Option String
  | .query _ config => (config.get? "into").filter (!·.isEmpty)
  | _ => none

/-- The declaration that an action makes. -/
def declaration? : Action → Option Web.Declaration
  | .declareApi name config => (Web.Declaration.ofBlock name config).toOption
  | _ => none

/-- What is turned to the outside sets no variable and declares nothing. -/
theorem outward_silent {action : Action} (h : ¬ action.ReachesInside) :
    action.target? = none ∧ action.declaration? = none := by
  cases action with
  | call | query | declareApi => exact absurd trivial h
  | _ => exact ⟨rfl, rfl⟩

end Action

namespace Context

/-! ## Runs of actions -/

/-- Something that happens while an action is done. -/
inductive Happening where
  | executed (action : Action)
  /-- The body of a function is entered by a call at a depth. -/
  | entered (name : String) (depth : Nat)

/-- The action that was executed. -/
def Happening.action? : Happening → Option Action
  | .executed action => some action
  | .entered _ _ => none

/-- What is to be done. -/
inductive Doing where
  | action (action : Action)
  /-- What is left of a body. -/
  | rest (actions : List Action)

/-- How functions are called by actions that call none. -/
def noCall (_ : String) (context : Context) : Outcome := (.ok (), context)

/-- A finite run of actions: what is to be done, the depth, the state before, what happens, and the
state after.  A call that fails is reported, like every action that fails. -/
inductive Does : Doing → Nat → Context → List Happening → Context → Prop where
  | plain {action : Action} {depth : Nat} {context : Context} (h : ∀ name, action ≠ .call name) :
      Does (.action action) depth context [.executed action] (performWith noCall context action)
  | undefined {name : String} {depth : Nat} {context : Context}
      (h : context.functions.get? name = none) :
      Does (.action (.call name)) depth context [.executed (.call name)]
        (context.error (functionMissing name).message)
  | refused {name : String} {depth : Nat} {context : Context} {body : List Action}
      (h : context.functions.get? name = some body) (hdepth : maxDepth ≤ depth) :
      Does (.action (.call name)) depth context [.executed (.call name)]
        (context.error (tooDeep name).message)
  | called {name : String} {depth : Nat} {context last : Context} {body : List Action}
      {happened : List Happening} (h : context.functions.get? name = some body)
      (hdepth : depth < maxDepth) (hbody : Does (.rest body) (depth + 1) context happened last) :
      Does (.action (.call name)) depth context
        (.executed (.call name) :: .entered name depth :: happened) last
  | done {depth : Nat} {context : Context} : Does (.rest []) depth context [] context
  | next {action : Action} {actions : List Action} {depth : Nat} {context middle last : Context}
      {first second : List Happening} (hfirst : Does (.action action) depth context first middle)
      (hrest : Does (.rest actions) depth middle second last) :
      Does (.rest (action :: actions)) depth context (first ++ second) last

/-- A run is determined by its beginning. -/
theorem Does.unique {doing : Doing} {depth : Nat} {context last : Context}
    {happened : List Happening} (h : Does doing depth context happened last)
    {happened' : List Happening} {last' : Context}
    (h' : Does doing depth context happened' last') : happened' = happened ∧ last' = last := by
  induction h generalizing happened' last' with
  | plain hplain =>
      cases h' with
      | plain => exact ⟨rfl, rfl⟩
      | undefined | refused | called => exact absurd rfl (hplain _)
  | undefined hnone =>
      cases h' with
      | plain hplain => exact absurd rfl (hplain _)
      | undefined => exact ⟨rfl, rfl⟩
      | refused hsome | called hsome => rw [hnone] at hsome; cases hsome
  | refused hsome hdepth =>
      cases h' with
      | plain hplain => exact absurd rfl (hplain _)
      | undefined hnone => rw [hsome] at hnone; cases hnone
      | refused => exact ⟨rfl, rfl⟩
      | called _ hdepth' => exact absurd hdepth' (Nat.not_lt.2 hdepth)
  | called hsome hdepth _ ih =>
      cases h' with
      | plain hplain => exact absurd rfl (hplain _)
      | undefined hnone => rw [hsome] at hnone; cases hnone
      | refused _ hdepth' => exact absurd hdepth (Nat.not_lt.2 hdepth')
      | called hsome' _ hbody =>
          rw [hsome, Option.some.injEq] at hsome'
          subst hsome'
          obtain ⟨rfl, rfl⟩ := ih hbody
          exact ⟨rfl, rfl⟩
  | done =>
      cases h'
      exact ⟨rfl, rfl⟩
  | next _ _ ih ih' =>
      cases h' with
      | next hfirst hrest =>
          obtain ⟨rfl, rfl⟩ := ih hfirst
          obtain ⟨rfl, rfl⟩ := ih' hrest
          exact ⟨rfl, rfl⟩

/-! ## The bounded recursion is a run -/

/-- How functions are called does not matter to an action that calls none. -/
theorem performWith_plain {action : Action} (h : ∀ name, action ≠ .call name)
    (call call' : String → Context → Outcome) (context : Context) :
    performWith call context action = performWith call' context action := by
  have hexecute : execute call context action = execute call' context action := by
    cases action with
    | call name => exact absurd rfl (h name)
    | _ => simp only [execute]
  rw [performWith, performWith, hexecute]

/-- The actions of a body are a run if each of them is, wherever it stands. -/
theorem does_foldl {act : Context → Action → Context} {depth : Nat}
    (h : ∀ action context, ∃ happened,
      Does (.action action) depth context happened (act context action))
    (actions : List Action) (context : Context) :
    ∃ happened, Does (.rest actions) depth context happened (actions.foldl act context) := by
  induction actions generalizing context with
  | nil => exact ⟨[], .done⟩
  | cons action actions ih =>
      obtain ⟨first, hfirst⟩ := h action context
      obtain ⟨second, hrest⟩ := ih (act context action)
      exact ⟨first ++ second, .next hfirst hrest⟩

/-- **Bounded recursion is a run**: with as many levels left as the depth leaves. -/
theorem does_performWith (levels depth : Nat) (hlevels : maxDepth - depth = levels)
    (action : Action) (context : Context) :
    ∃ happened, Does (.action action) depth context happened
      (performWith (callWithin levels) context action) := by
  induction levels generalizing depth action context with
  | zero =>
      by_cases hcall : ∃ name, action = .call name
      · obtain ⟨name, rfl⟩ := hcall
        rw [performWith, execute, callWithin]
        cases hbody : context.functions.get? name with
        | none => exact ⟨_, .undefined hbody⟩
        | some body => exact ⟨_, .refused hbody (Nat.le_of_sub_eq_zero hlevels)⟩
      · have hplain : ∀ name, action ≠ .call name := fun name heq => hcall ⟨name, heq⟩
        rw [performWith_plain hplain _ noCall]
        exact ⟨_, .plain hplain⟩
  | succ levels ih =>
      by_cases hcall : ∃ name, action = .call name
      · obtain ⟨name, rfl⟩ := hcall
        rw [performWith, execute, callWithin]
        cases hbody : context.functions.get? name with
        | none => exact ⟨_, .undefined hbody⟩
        | some body =>
            -- the body is one level deeper and has one level fewer left
            obtain ⟨happened, hrun⟩ := does_foldl (ih (depth + 1) (by omega)) body context
            exact ⟨_, .called hbody (by omega) hrun⟩
      · have hplain : ∀ name, action ≠ .call name := fun name heq => hcall ⟨name, heq⟩
        rw [performWith_plain hplain _ noCall]
        exact ⟨_, .plain hplain⟩

/-- Doing an action is a run. -/
theorem does_perform (context : Context) (action : Action) (depth : Nat) :
    ∃ happened, Does (.action action) depth context happened (context.perform action depth) :=
  does_performWith _ depth rfl action context

/-- Calling a function is a run of its body if there is such a function and the call is not too
deep; otherwise it fails and does nothing. -/
theorem callFunction_cases (context : Context) (name : String) (depth : Nat) :
    (∃ body happened last, context.functions.get? name = some body ∧ depth < maxDepth ∧
      Does (.rest body) (depth + 1) context happened last ∧
      context.callFunction name depth = (.ok (), last)) ∨
    ((context.functions.get? name = none ∨ maxDepth ≤ depth) ∧
      ∃ error, context.callFunction name depth = (.error error, context)) := by
  rw [callFunction, callWithin]
  cases hbody : context.functions.get? name with
  | none => exact .inr ⟨.inl rfl, _, rfl⟩
  | some body =>
      cases hlevels : maxDepth - depth with
      | zero => exact .inr ⟨.inr (Nat.le_of_sub_eq_zero hlevels), _, rfl⟩
      | succ levels =>
          obtain ⟨happened, hrun⟩ :=
            does_foldl (does_performWith levels (depth + 1) (by omega)) body context
          exact .inl ⟨body, happened, _, rfl, by omega, hrun, rfl⟩

/-! ## Depth -/

/-- Bodies are entered at the depth of the run or deeper, and never too deep. -/
theorem Does.entered {doing : Doing} {depth : Nat} {context last : Context}
    {happened : List Happening} (h : Does doing depth context happened last) {name : String}
    {entry : Nat} (hentered : .entered name entry ∈ happened) :
    depth ≤ entry ∧ entry < maxDepth := by
  induction h with
  | plain | undefined | refused => simp at hentered
  | done => cases hentered
  | called _ hdepth _ ih =>
      simp only [List.mem_cons, reduceCtorEq, false_or, Happening.entered.injEq] at hentered
      rcases hentered with ⟨-, rfl⟩ | hentered
      · exact ⟨Nat.le_refl _, hdepth⟩
      · exact ⟨Nat.le_of_succ_le (ih hentered).1, (ih hentered).2⟩
  | next _ _ ih ih' => exact (List.mem_append.1 hentered).elim ih ih'

/-! ## Effects -/

/-- The variables that what happened can have set, in order. -/
def targets (happened : List Happening) : List String :=
  (happened.filterMap Happening.action?).filterMap Action.target?

/-- The declarations that what happened has made, in order. -/
def declarations (happened : List Happening) : List Web.Declaration :=
  (happened.filterMap Happening.action?).filterMap Action.declaration?

@[simp] theorem targets_append (first second : List Happening) :
    targets (first ++ second) = targets first ++ targets second := by
  simp [targets]

@[simp] theorem declarations_append (first second : List Happening) :
    declarations (first ++ second) = declarations first ++ declarations second := by
  simp [declarations]

/-- Variables are given values one after another. -/
def setAll (bindings : Variables) (sets : List (String × String)) : Variables :=
  sets.foldl (fun bindings (key, value) => bindings.insert key value) bindings

/-- What a run changes inside: the program stays; variables are only set by some of the executed
queries, each the one that it keeps its rows in; and the routes that were declared come after those
that were there. -/
structure Effect (context : Context) (happened : List Happening) (last : Context) : Prop where
  program : SameProgram context last
  bindings : ∃ sets : List (String × String),
    last.bindings = setAll context.bindings sets ∧ (sets.map (·.1)).Sublist (targets happened)
  routes : last.apis.history = context.apis.history ++ declarations happened

namespace Effect

/-- What is turned to the outside has no effect inside. -/
theorem of_outward {context last : Context} {happened : List Happening}
    (h : Outward context last) (htargets : targets happened = [])
    (hdeclarations : declarations happened = []) : Effect context happened last where
  program := h.toSameProgram
  bindings := ⟨[], h.bindings, by rw [htargets]; exact .slnil⟩
  routes := by rw [h.apis, hdeclarations, List.append_nil]

theorem trans {context middle last : Context} {first second : List Happening}
    (h : Effect context first middle) (h' : Effect middle second last) :
    Effect context (first ++ second) last where
  program := h.program.trans h'.program
  bindings := by
    obtain ⟨sets, hsets, hsub⟩ := h.bindings
    obtain ⟨sets', hsets', hsub'⟩ := h'.bindings
    refine ⟨sets ++ sets', ?_, ?_⟩
    · rw [hsets', hsets, setAll, setAll, setAll, List.foldl_append]
    · rw [List.map_append, targets_append]
      exact hsub.append hsub'
  routes := by rw [h'.routes, h.routes, declarations_append, List.append_assoc]

/-- Only the reports of the last state may be others. -/
theorem report {context last : Context} {happened : List Happening}
    (h : Effect context happened last) (line : LogLine) :
    Effect context happened (last.report line) :=
  ⟨h.program.trans ⟨rfl, rfl, rfl, rfl⟩, h.bindings, h.routes⟩

end Effect

variable (context : Context)

theorem effect_query (id : String) (config : Block) :
    Effect context [.executed (.query id config)] (context.query id config).2 := by
  have hquiet : ∀ {last : Context}, Outward context last →
      Effect context [.executed (.query id config)] last := fun h =>
    ⟨h.toSameProgram, ⟨[], h.bindings, List.nil_sublist _⟩,
      by rw [h.apis]; exact (List.append_nil _).symm⟩
  have hasked : Outward context context.asked := Quietly.outward (.single .asked)
  rw [query]
  split
  · exact hquiet (.refl context)
  · split
    · exact hquiet hasked
    · next rows _ =>
        split
        · next into hinto =>
            have htargets : targets [.executed (.query id config)] = [into] := by
              simp [targets, Happening.action?, Action.target?, hinto]
            refine ⟨⟨rfl, rfl, rfl, rfl⟩, ⟨[(into, (Json.array rows).compact)], rfl, ?_⟩, ?_⟩
            · rw [htargets]
              exact List.Sublist.refl _
            · exact (List.append_nil _).symm
        · exact hquiet hasked

theorem effect_declareApi (name : String) (config : Block) :
    Effect context [.executed (.declareApi name config)] (context.declareApi name config).2 := by
  have hmade : declarations [.executed (.declareApi name config)] =
      (Web.Declaration.ofBlock name config).toOption.toList := by
    cases h : Web.Declaration.ofBlock name config <;>
      simp [declarations, Happening.action?, Action.declaration?, h, Except.toOption]
  rw [declareApi]
  cases h : Web.Declaration.ofBlock name config with
  | error error =>
      rw [h] at hmade
      exact .of_outward (.refl context) rfl hmade
  | ok declaration =>
      rw [h] at hmade
      exact ⟨⟨rfl, rfl, rfl, rfl⟩, ⟨[], rfl, .slnil⟩, by rw [hmade]; rfl⟩

/-- An action that is no call. -/
theorem effect_plain {action : Action} (h : ∀ name, action ≠ .call name) :
    Effect context [.executed action] (performWith noCall context action) := by
  have hexecute : Effect context [.executed action] (execute noCall context action).2 := by
    by_cases hinside : action.ReachesInside
    · cases action with
      | call name => exact absurd rfl (h name)
      | query id config => exact context.effect_query id config
      | declareApi name config => exact context.effect_declareApi name config
      | _ => exact absurd hinside id
    · obtain ⟨htarget, hdeclaration⟩ := Action.outward_silent hinside
      exact .of_outward (context.outward_execute noCall hinside)
        (by simp [targets, Happening.action?, htarget])
        (by simp [declarations, Happening.action?, hdeclaration])
  rw [performWith]
  split
  · next next hnext => rwa [hnext] at hexecute
  · next error next hnext =>
      rw [hnext] at hexecute
      exact hexecute.report _

/-- A report of a call that failed is all that it leaves. -/
theorem effect_failed (name message : String) :
    Effect context [.executed (.call name)] (context.error message) :=
  .of_outward (context.outward_report _) rfl rfl

variable {context} in
/-- What happened in a run tells what the run has changed inside. -/
theorem Does.effect {doing : Doing} {depth : Nat} {last : Context} {happened : List Happening}
    (h : Does doing depth context happened last) : Effect context happened last := by
  induction h with
  | plain hplain => exact effect_plain _ hplain
  | undefined | refused => exact effect_failed _ _ _
  | @called name depth context _ _ _ _ _ _ ih =>
      have hbefore : Effect context [.executed (.call name), .entered name depth] context :=
        .of_outward (.refl context) rfl rfl
      exact hbefore.trans ih
  | done => exact .of_outward (.refl _) rfl rfl
  | next _ _ ih ih' => exact ih.trans ih'

/-- **Every action comes to an end**: doing an action at a depth has exactly one run, a finite one,
whatever functions there are; no body is entered too deep in it; and it leaves the program as it is,
sets variables by executed queries only and adds the routes of executed declarations only.  Calling
a function does its whole body and succeeds, whatever becomes of the actions, if there is such a
function and the call is not too deep; otherwise it fails and nothing happens. -/
theorem action_terminates (action : Action) (depth : Nat) :
    (∃ happened,
      (∀ happened' last, Does (.action action) depth context happened' last ↔
        happened' = happened ∧ last = context.perform action depth) ∧
      (∀ name entry, .entered name entry ∈ happened → entry < maxDepth) ∧
      Effect context happened (context.perform action depth)) ∧
    ∀ name,
      (∃ body happened last, context.functions.get? name = some body ∧ depth < maxDepth ∧
        Does (.rest body) (depth + 1) context happened last ∧
        context.callFunction name depth = (.ok (), last)) ∨
      ((context.functions.get? name = none ∨ maxDepth ≤ depth) ∧
        ∃ error, context.callFunction name depth = (.error error, context)) := by
  obtain ⟨happened, hrun⟩ := context.does_perform action depth
  refine ⟨⟨happened, fun happened' last => ⟨hrun.unique, ?_⟩,
    fun name entry hentered => (hrun.entered hentered).2, hrun.effect⟩,
    fun name => context.callFunction_cases name depth⟩
  rintro ⟨rfl, rfl⟩
  exact hrun

end Context

end SiteScript
