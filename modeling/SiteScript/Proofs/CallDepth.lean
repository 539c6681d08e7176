import SiteScript.Proofs.Changes

/-!
# SiteScript.Proofs.CallDepth

The depth of a call matters only to calls that are refused for it.

1. A call that is refused for its depth is reported, and reports stay; so whether one was is told by
   what a run has reported (`ReportsTooDeep`).
2. With more levels left an action does the same, unless one of the calls in it was refused
   (`performWith_more`).  This is by induction on the levels; a body is compared action by action,
   each from the state that the ones before it have left in both (`foldl_unless_tooDeep`).
3. So an action does at any smaller depth what it does at a depth where nothing is refused, and a
   call does what the actions of the body do in its place (`perform_regardless_of_depth`). -/

namespace SiteScript.Context

/-- Between two states of a run a call was reported to be too deep. -/
def ReportsTooDeep (before after : Context) : Prop :=
  ∃ name, .error (tooDeep name).message ∈ after.log.drop before.log.length

/-- What a part of a run reports, the whole run does. -/
theorem ReportsTooDeep.widen {first before after last : Context}
    (h : ReportsTooDeep before after) (hfirst : first.log <+: before.log)
    (hbefore : before.log <+: after.log) (hlast : after.log <+: last.log) :
    ReportsTooDeep first last := by
  obtain ⟨name, hname⟩ := h
  obtain ⟨earlier, hearlier⟩ := hfirst
  obtain ⟨reported, hreported⟩ := hbefore
  obtain ⟨later, hlater⟩ := hlast
  refine ⟨name, ?_⟩
  rw [← hreported, List.drop_left] at hname
  rw [← hlater, ← hreported, ← hearlier, List.append_assoc, List.append_assoc, List.drop_left]
  exact List.mem_append_right _ (List.mem_append_left _ hname)

/-- A call that is refused for its depth is reported. -/
theorem reportsTooDeep_error (context : Context) (name : String) :
    ReportsTooDeep context (context.error (tooDeep name).message) := by
  refine ⟨name, ?_⟩
  rw [error, report, List.drop_left]
  exact List.mem_singleton_self _

/-- Sequences of steps do the same if each step does, unless a call is reported to be too deep. -/
theorem foldl_unless_tooDeep {act act' : Context → Action → Context}
    (hlog : ∀ context action, context.log <+: (act context action).log)
    (hact : ∀ context action,
      act' context action = act context action ∨ ReportsTooDeep context (act context action))
    (actions : List Action) (context : Context) :
    actions.foldl act' context = actions.foldl act context ∨
      ReportsTooDeep context (actions.foldl act context) := by
  have hkept : ∀ (actions : List Action) context, context.log <+: (actions.foldl act context).log := by
    intro actions
    induction actions with
    | nil => exact fun context => List.prefix_rfl
    | cons action actions ih => exact fun context => (hlog context action).trans (ih _)
  induction actions generalizing context with
  | nil => exact .inl rfl
  | cons action actions ih =>
      rw [List.foldl_cons, List.foldl_cons]
      rcases hact context action with hsame | hreports
      · rw [hsame]
        refine (ih (act context action)).imp_right fun hreports => ?_
        exact hreports.widen (hlog context action) (hkept actions _) List.prefix_rfl
      · exact .inr (hreports.widen List.prefix_rfl (hlog context action) (hkept actions _))

section Call

variable {context : Context} {name : String} {body : List Action}

theorem performWith_call_missing (levels : Nat) (h : context.functions.get? name = none) :
    performWith (callWithin levels) context (.call name) =
      context.error (functionMissing name).message := by
  simp only [performWith, execute, callWithin.eq_def, h]

theorem performWith_call_refused (h : context.functions.get? name = some body) :
    performWith (callWithin 0) context (.call name) = context.error (tooDeep name).message := by
  simp only [performWith, execute, callWithin, h]

theorem performWith_call_entered (levels : Nat) (h : context.functions.get? name = some body) :
    performWith (callWithin (levels + 1)) context (.call name) =
      body.foldl (performWith (callWithin levels)) context := by
  simp only [performWith, execute, callWithin, h]

end Call

/-- **With more levels left an action does the same**, unless a call in it was too deep for the
fewer ones. -/
theorem performWith_more {levels more : Nat} (hmore : levels ≤ more) (action : Action)
    (context : Context) :
    performWith (callWithin more) context action = performWith (callWithin levels) context action ∨
      ReportsTooDeep context (performWith (callWithin levels) context action) := by
  induction levels generalizing more action context with
  | zero =>
      by_cases hcall : ∃ name, action = .call name
      · obtain ⟨name, rfl⟩ := hcall
        cases hbody : context.functions.get? name with
        | none =>
            left
            rw [performWith_call_missing _ hbody, performWith_call_missing _ hbody]
        | some body =>
            right
            rw [performWith_call_refused hbody]
            exact context.reportsTooDeep_error name
      · exact .inl (performWith_plain (fun name heq => hcall ⟨name, heq⟩) _ _ context)
  | succ levels ih =>
      by_cases hcall : ∃ name, action = .call name
      · obtain ⟨name, rfl⟩ := hcall
        cases hbody : context.functions.get? name with
        | none =>
            left
            rw [performWith_call_missing _ hbody, performWith_call_missing _ hbody]
        | some body =>
            -- the body has one level fewer left in both
            obtain ⟨more, rfl⟩ : ∃ fewer, more = fewer + 1 := ⟨more - 1, by omega⟩
            rw [performWith_call_entered _ hbody, performWith_call_entered _ hbody]
            exact foldl_unless_tooDeep
              (fun context action => (context.changes_performWith (changes_callWithin _) action).told.1)
              (fun context action => ih (by omega) action context) body context
      · exact .inl (performWith_plain (fun name heq => hcall ⟨name, heq⟩) _ _ context)

/-- **Calling a function is doing its actions in place, at any depth.**  What an action reports is
added to what was reported before.  If no call is reported to be too deep when a function is called
at a depth, the call leaves the run as the actions of its body do when they are done one after
another at that depth: the same files, variables, servers and connections, the same output and the
same reports, and the same commands in the background.  And if an action at some depth reports no call
to be too deep, it leaves the run at any smaller depth as it does there.  All of this is so on every
machine, whatever its programs do and its databases answer. -/
theorem perform_regardless_of_depth (context : Context) :
    (∀ action depth, context.log <+: (context.perform action depth).log) ∧
    (∀ name body depth, context.functions.get? name = some body →
      ¬ ReportsTooDeep context (context.perform (.call name) depth) →
      context.perform (.call name) depth =
        body.foldl (fun context action => context.perform action depth) context) ∧
    ∀ action depth deeper, depth ≤ deeper →
      ¬ ReportsTooDeep context (context.perform action deeper) →
      context.perform action depth = context.perform action deeper := by
  have hregardless : ∀ {depth deeper : Nat}, depth ≤ deeper → ∀ context action,
      context.perform action depth = context.perform action deeper ∨
        ReportsTooDeep context (context.perform action deeper) :=
    fun hdeeper context action => performWith_more (by omega) action context
  refine ⟨context.log_prefix_perform, ?_, ?_⟩
  · intro name body depth hbody hquiet
    cases hlevels : maxDepth - depth with
    | zero =>
        rw [perform, hlevels, performWith_call_refused hbody] at hquiet
        exact absurd (context.reportsTooDeep_error name) hquiet
    | succ levels =>
        have hdeeper : maxDepth - (depth + 1) = levels := by omega
        have hcall : context.perform (.call name) depth =
            body.foldl (fun context action => context.perform action (depth + 1)) context := by
          simp only [perform, hlevels, performWith_call_entered _ hbody, hdeeper]
        rw [hcall] at hquiet ⊢
        exact ((foldl_unless_tooDeep (fun context action => context.log_prefix_perform action _)
          (hregardless (Nat.le_succ depth)) body context).resolve_right hquiet).symm
  · intro action depth deeper hdeeper hquiet
    exact (hregardless hdeeper context action).resolve_right hquiet

/-- A machine on which every program can be started and fails. -/
def failingMachine : Machine :=
  { Machine.bare with
    start := fun _ _ => .ok ()
    finish := fun _ _ files => { ending := .ok (.status 1), files } }

/-- A run with two functions, one of which calls the other.  What the inner one removes is not there,
and it leaves a command in the background. -/
def letterRun : Context :=
  (((start failingMachine .empty [] .empty {} (.ofSeed 1)).define "letter"
    [.log "hello", .call "sign"]).define "sign"
    [.deleteFile "draft.txt", .run "post" false, .log "bye"])

/-- The report of a call that is too deep ends in the digit that the limit ends in. -/
theorem getLast?_tooDeep (name : String) : (tooDeep name).message.toList.getLast? = some '4' := by
  have hmessage : (tooDeep name).message = "Directive error: " ++
      ("Function " ++ inQuotes name ++ " exceeded the call depth of " ++ Decimal.text maxDepth) := rfl
  have hlimit : (Decimal.text maxDepth).toList.getLast? = some '4' := by decide +kernel
  rw [hmessage]
  generalize Decimal.text maxDepth = limit at hlimit ⊢
  simp only [String.toList_append, List.getLast?_append, hlimit, Option.some_or]

/-- At depth 62 the inner call is just not too deep. -/
theorem perform_regardless_of_depth_letter :
    letterRun.perform (.call "letter") 62 =
        (letterRun.perform (.log "hello") 62).perform (.call "sign") 62 ∧
      letterRun.perform (.call "letter") 0 = letterRun.perform (.call "letter") 62 ∧
      (letterRun.perform (.call "letter") 62).output = Bytes.ofText "hello\nbye\n" ∧
      (letterRun.perform (.call "letter") 62).background = ["post"] := by
  have hlog : (letterRun.perform (.call "letter") 62).log =
      [.error ("Directive error: Could not delete \"draft.txt\": IO error: " ++
        "No such file or directory (os error 2)")] := by
    decide +kernel
  have hquiet : ¬ ReportsTooDeep letterRun (letterRun.perform (.call "letter") 62) := by
    rintro ⟨name, hname⟩
    have hnothing : letterRun.log.length = 0 := rfl
    rw [hlog, hnothing, List.drop_zero, List.mem_singleton] at hname
    have hlast := getLast?_tooDeep name
    rw [(LogLine.mk.inj hname).2] at hlast
    revert hlast
    decide +kernel
  obtain ⟨-, hinline, hshallow⟩ := letterRun.perform_regardless_of_depth
  have hbody : letterRun.functions.get? "letter" = some [.log "hello", .call "sign"] := rfl
  have hcall := hinline "letter" _ 62 hbody hquiet
  rw [List.foldl_cons, List.foldl_cons, List.foldl_nil] at hcall
  exact ⟨hcall, hshallow _ 0 62 (by decide) hquiet, by decide +kernel, by decide +kernel⟩

end SiteScript.Context
