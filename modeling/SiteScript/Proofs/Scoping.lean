import SiteScript.Proofs.Interleaving

/-!
# SiteScript.Proofs.Scoping

What a script fixes by itself.  Which actions are executed at top level and which functions are
defined can be read off the scripts, before anything is done.

1. `Tour` goes through the scripts alone, directive by directive and into each script that is not
   loaded yet where it is named.  There is exactly one tour of a script (`Tour.unique`).
2. Whether a directive stands outside every body, and which body an `:end:` closes, depends on what
   was read of the same script before it (`openAfter`).
3. Whatever doing an action comes to, as long as it leaves the program alone, a run executes the
   actions of the tour that stand outside every body and defines the functions of the bodies that
   the tour closes (`Interprets.follows`). -/

namespace SiteScript

open Unfolding (Job OpenBody performed)

/-- What is read at one place of a script. -/
abbrev ReadResult := Except Script.ParseError Directive

/-! ## Bodies -/

/-- What a result does to the body that is open. -/
def scope (body : OpenBody) : ReadResult → OpenBody
  | .ok (.beginFunction name) => some (name, [])
  | .ok .endFunction => none
  | .ok (.act action) => body.map fun (name, kept) => (name, kept ++ [action])
  | _ => body

/-- The body that is open after what was read of a script. -/
def openAfter (before : List ReadResult) : OpenBody := before.foldl scope none

theorem openAfter_append_singleton (before : List ReadResult) (result : ReadResult) :
    openAfter (before ++ [result]) = scope (openAfter before) result := by
  rw [openAfter, List.foldl_append]
  rfl

/-! ## Tours -/

/-- A result that is met on the way: the script, what was read of it before, and the result. -/
structure Visit where
  path : String
  before : List ReadResult
  result : ReadResult

namespace Visit

/-- The action that is met outside every body. -/
def executed? (visit : Visit) : Option Action :=
  match visit.result, openAfter visit.before with
  | .ok (.act action), none => some action
  | _, _ => none

/-- The function whose body is closed. -/
def closed? (visit : Visit) : OpenBody :=
  match visit.result with
  | .ok .endFunction => openAfter visit.before
  | _ => none

end Visit

/-- Define functions one after another. -/
def defineAll (functions : Dictionary (List Action)) (closed : List (String × List Action)) :
    Dictionary (List Action) :=
  closed.foldl (fun functions (name, body) => functions.insert name body) functions

theorem defineAll_append (functions : Dictionary (List Action))
    (first second : List (String × List Action)) :
    defineAll functions (first ++ second) = defineAll (defineAll functions first) second :=
  List.foldl_append

/-- A part of the scripts to go through. -/
inductive Part where
  | file (path : String)
  | files (paths : List String)
  | modules (names : List String)
  /-- What is left of a script after something of it was read. -/
  | rest (path : String) (before rest : List ReadResult)

/-- Going through a part of the scripts: the part, the scripts that are loaded, what is met in
order, and the scripts that are loaded afterwards. -/
inductive Tour (sources : FileMap) (packagesDir : String) :
    Part → List String → List Visit → List String → Prop where
  | again {path : String} {loaded : List String} (h : path ∈ loaded) :
      Tour sources packagesDir (.file path) loaded [] loaded
  | absent {path : String} {loaded : List String} (h : path ∉ loaded)
      (htext : sources.get? path = none) :
      Tour sources packagesDir (.file path) loaded [] (path :: loaded)
  | read {path text : String} {loaded after : List String} {visits : List Visit} (h : path ∉ loaded)
      (htext : sources.get? path = some text)
      (hrest : Tour sources packagesDir (.rest path [] (Script.parse path text)) (path :: loaded)
        visits after) :
      Tour sources packagesDir (.file path) loaded visits after
  | noFiles {loaded : List String} : Tour sources packagesDir (.files []) loaded [] loaded
  | nextFile {path : String} {paths loaded middle after : List String} {first second : List Visit}
      (hfile : Tour sources packagesDir (.file path) loaded first middle)
      (hfiles : Tour sources packagesDir (.files paths) middle second after) :
      Tour sources packagesDir (.files (path :: paths)) loaded (first ++ second) after
  | noModules {loaded : List String} : Tour sources packagesDir (.modules []) loaded [] loaded
  | nextModule {name : String} {names loaded middle after : List String} {first second : List Visit}
      (hfiles : Tour sources packagesDir (.files (Resolution.find sources packagesDir name).files)
        loaded first middle)
      (hmodules : Tour sources packagesDir (.modules names) middle second after) :
      Tour sources packagesDir (.modules (name :: names)) loaded (first ++ second) after
  | atEnd {path : String} {before : List ReadResult} {loaded : List String} :
      Tour sources packagesDir (.rest path before []) loaded [] loaded
  | load {path : String} {before rest : List ReadResult} {names loaded middle after : List String}
      {first second : List Visit}
      (hmodules : Tour sources packagesDir (.modules names) loaded first middle)
      (hrest : Tour sources packagesDir (.rest path (before ++ [.ok (.load names)]) rest) middle second
        after) :
      Tour sources packagesDir (.rest path before (.ok (.load names) :: rest)) loaded
        (⟨path, before, .ok (.load names)⟩ :: (first ++ second)) after
  | other {path : String} {before rest : List ReadResult} {result : ReadResult}
      {loaded after : List String} {visits : List Visit} (h : ∀ names, result ≠ .ok (.load names))
      (hrest : Tour sources packagesDir (.rest path (before ++ [result]) rest) loaded visits after) :
      Tour sources packagesDir (.rest path before (result :: rest)) loaded
        (⟨path, before, result⟩ :: visits) after

variable {sources : FileMap} {packagesDir : String}

/-- The scripts leave no choice: there is one tour. -/
theorem Tour.unique {part : Part} {loaded after after' : List String} {visits visits' : List Visit}
    (h : Tour sources packagesDir part loaded visits after)
    (h' : Tour sources packagesDir part loaded visits' after') :
    visits' = visits ∧ after' = after := by
  induction h generalizing visits' after' with
  | again hloaded =>
      cases h' with
      | again => exact ⟨rfl, rfl⟩
      | absent hnew | read hnew => exact absurd hloaded hnew
  | absent hnew htext =>
      cases h' with
      | again hloaded => exact absurd hloaded hnew
      | absent => exact ⟨rfl, rfl⟩
      | read _ htext' => rw [htext] at htext'; cases htext'
  | read hnew htext _ ih =>
      cases h' with
      | again hloaded => exact absurd hloaded hnew
      | absent _ htext' => rw [htext] at htext'; cases htext'
      | read _ htext' hrest' =>
          rw [htext] at htext'
          cases htext'
          exact ih hrest'
  | noFiles | noModules | atEnd =>
      cases h'
      exact ⟨rfl, rfl⟩
  | nextFile _ _ ih ih' =>
      cases h' with
      | nextFile hfile' hfiles' =>
          obtain ⟨rfl, rfl⟩ := ih hfile'
          obtain ⟨rfl, rfl⟩ := ih' hfiles'
          exact ⟨rfl, rfl⟩
  | nextModule _ _ ih ih' =>
      cases h' with
      | nextModule hfiles' hmodules' =>
          obtain ⟨rfl, rfl⟩ := ih hfiles'
          obtain ⟨rfl, rfl⟩ := ih' hmodules'
          exact ⟨rfl, rfl⟩
  | load _ _ ih ih' =>
      cases h' with
      | load hmodules' hrest' =>
          obtain ⟨rfl, rfl⟩ := ih hmodules'
          obtain ⟨rfl, rfl⟩ := ih' hrest'
          exact ⟨rfl, rfl⟩
      | other hother => exact absurd rfl (hother _)
  | other hother _ ih =>
      cases h' with
      | load => exact absurd rfl (hother _)
      | other _ hrest' =>
          obtain ⟨rfl, rfl⟩ := ih hrest'
          exact ⟨rfl, rfl⟩

namespace Context

/-! ## Runs follow the tour -/

/-- The part of the scripts that a run is busy with, at a place of a script. -/
def partOf (path : String) (before : List ReadResult) : Job → Part
  | .file path => .file path
  | .files _ paths => .files paths
  | .modules names => .modules names
  | .results rest => .rest path before rest

/-- A deed that leaves the program alone. -/
def KeepsProgram (deed : Deed) : Prop :=
  ∀ context action next, deed context action next → SameProgram context next

/-- Only what is read of the same script changes the body that is open. -/
theorem Interprets.body {deed : Deed} {job : Job} {reading last : Reading} {executed : List Action}
    (h : Interprets deed job reading executed last) (hjob : ∀ rest, job ≠ .results rest) :
    last.2 = reading.2 := by
  induction h with
  | again | absent | read | noFiles | noModules => rfl
  | nextFile _ _ ih ih' => exact (ih' nofun).trans (ih nofun)
  | package _ _ _ ih ih' => exact (ih' nofun).trans (ih nofun)
  | single _ _ _ ih ih' => exact (ih' nofun).trans (ih nofun)
  | missing _ _ ih => exact ih nofun
  | noResults | malformed | assign | beginFunction | endFunction | nothingEnds | load | keep | perform =>
      exact absurd rfl (hjob _)

section SmallSteps

variable (context : Context)

theorem sameProgram_announce (kind path : String) :
    SameProgram context (context.announce kind path) := by
  rw [announce]
  split
  · exact .refl context
  · exact (context.outward_report _).toSameProgram

theorem sameProgram_leave (path : String) (body : OpenBody) :
    SameProgram context (leave path (context, body)) := by
  cases body with
  | none => exact .refl context
  | some unclosed => exact (context.outward_report _).toSameProgram

theorem sameProgram_openBody (name : String) (body : OpenBody) :
    SameProgram context (openBody name (context, body)).1 := by
  cases body with
  | none => exact .refl context
  | some unclosed => exact (context.outward_report _).toSameProgram

/-- Of a body that was open nothing remains. -/
theorem body_openBody (name : String) (body : OpenBody) :
    (openBody name (context, body)).2 = some (name, []) := by
  cases body <;> rfl

theorem isLoaded_iff {path : String} : context.isLoaded path = true ↔ path ∈ context.loaded := by
  simp [isLoaded]

theorem not_mem_of_not_isLoaded {path : String} (h : context.isLoaded path = false) :
    path ∉ context.loaded := by
  simpa [isLoaded] using h

theorem sources_markLoaded (path : String) : (context.markLoaded path).2.sources = context.sources := by
  rw [markLoaded]
  split <;> rfl

theorem config_markLoaded (path : String) : (context.markLoaded path).2.config = context.config := by
  rw [markLoaded]
  split <;> rfl

theorem functions_markLoaded (path : String) :
    (context.markLoaded path).2.functions = context.functions := by
  rw [markLoaded]
  split <;> rfl

theorem loaded_markLoaded {path : String} (h : context.isLoaded path = false) :
    (context.markLoaded path).2.loaded = path :: context.loaded := by
  rw [markLoaded, h]
  rfl

end SmallSteps

theorem sameBundle_markLoaded (context : Context) (path : String) :
    SameBundle context (context.markLoaded path).2 :=
  ⟨context.config_markLoaded path, context.sources_markLoaded path⟩

/-- A run leaves the bundle alone. -/
theorem Interprets.sameBundle {deed : Deed} (hdeed : KeepsProgram deed) {job : Job}
    {reading last : Reading} {executed : List Action}
    (h : Interprets deed job reading executed last) : SameBundle reading.1 last.1 := by
  induction h with
  | again | noFiles | noModules | noResults => exact ⟨rfl, rfl⟩
  | @absent path context =>
      exact (context.sameBundle_markLoaded path).trans (outward_report _ _).sameBundle
  | @read path _ context _ _ reading _ _ _ ih =>
      exact (context.sameBundle_markLoaded path).trans
        (ih.trans (reading.1.sameProgram_leave path reading.2).sameBundle)
  | @nextFile kind path _ context _ _ _ _ _ _ _ ih ih' =>
      exact (context.sameProgram_announce kind path).sameBundle.trans (ih.trans ih')
  | package _ _ _ ih ih' => exact ih.trans ih'
  | single _ _ _ ih ih' => exact ih.trans ih'
  | load _ _ ih ih' => exact ih.trans ih'
  | missing _ _ ih => exact ⟨ih.config, ih.sources⟩
  | malformed _ ih => exact ⟨ih.config, ih.sources⟩
  | assign _ ih => exact ⟨ih.config, ih.sources⟩
  | @beginFunction name _ reading _ _ _ ih =>
      exact (reading.1.sameProgram_openBody name reading.2).sameBundle.trans ih
  | endFunction _ ih => exact ⟨ih.config, ih.sources⟩
  | nothingEnds _ ih => exact ih
  | keep _ ih => exact ih
  | perform hperformed _ ih => exact (hdeed _ _ _ hperformed).sameBundle.trans ih

/-- How scripts are gone through: the scripts that are loaded, what is met, and the scripts that are
loaded afterwards. -/
abbrev Way := List String → List Visit → List String → Prop

/-- What a run comes to is fixed by the way through the scripts: it executes the actions that are
met outside every body and defines the functions whose bodies are closed. -/
def Follows (way : Way) (context : Context) (executed : List Action) (last : Context) : Prop :=
  ∃ visits, way context.loaded visits last.loaded ∧
    executed = visits.filterMap Visit.executed? ∧
    last.functions = defineAll context.functions (visits.filterMap Visit.closed?)

namespace Follows

variable {way way' whole : Way} {context middle last : Context} {first second : List Action}

/-- On the way nothing is met. -/
theorem nothing (hfunctions : last.functions = context.functions)
    (h : way context.loaded [] last.loaded) : Follows way context [] last :=
  ⟨[], h, rfl, hfunctions⟩

/-- A step before, or after, that leaves the functions and the scripts alone. -/
theorem of_sameProgram {context' last' : Context} {executed : List Action}
    (h : Follows way context' executed last') (hbefore : SameProgram context context')
    (hafter : SameProgram last' last) : Follows way context executed last := by
  obtain ⟨visits, htour, hexecuted, hfunctions⟩ := h
  exact ⟨visits, by rwa [← hbefore.loaded, hafter.loaded], hexecuted,
    by rw [hafter.functions, hfunctions, hbefore.functions]⟩

/-- One part of the scripts after another. -/
theorem seq (h : Follows way context first middle) (h' : Follows way' middle second last)
    (hwhole : ∀ visits visits', way context.loaded visits middle.loaded →
      way' middle.loaded visits' last.loaded → whole context.loaded (visits ++ visits') last.loaded) :
    Follows whole context (first ++ second) last := by
  obtain ⟨visits, htour, hexecuted, hfunctions⟩ := h
  obtain ⟨visits', htour', hexecuted', hfunctions'⟩ := h'
  refine ⟨visits ++ visits', hwhole visits visits' htour htour', ?_, ?_⟩
  · rw [hexecuted, hexecuted', List.filterMap_append]
  · rw [hfunctions', hfunctions, List.filterMap_append, defineAll_append]

/-- Something is met, and then the rest is gone through. -/
theorem meet (visit : Visit) {executed rest : List Action} {next : Context}
    (h : Follows way next rest last) (hloaded : next.loaded = context.loaded)
    (hexecuted : executed = visit.executed?.toList ++ rest)
    (hfunctions : next.functions = defineAll context.functions visit.closed?.toList)
    (hwhole : ∀ visits, way context.loaded visits last.loaded →
      whole context.loaded (visit :: visits) last.loaded) :
    Follows whole context executed last := by
  have hcons : ∀ {α : Type} (f : Visit → Option α) (visits : List Visit),
      (visit :: visits).filterMap f = (f visit).toList ++ visits.filterMap f := by
    intro α f visits
    cases hvisit : f visit <;> simp [hvisit]
  obtain ⟨visits, htour, hrest, hlast⟩ := h
  refine ⟨visit :: visits, hwhole visits (hloaded ▸ htour), by rw [hexecuted, hrest, hcons], ?_⟩
  rw [hlast, hfunctions, hcons, defineAll_append]

end Follows

/-- **Every run follows the tour.**  What doing an action comes to does not matter, as long as it
leaves the program alone. -/
theorem Interprets.follows {deed : Deed} (hdeed : KeepsProgram deed) {job : Job}
    {reading last : Reading} {executed : List Action}
    (h : Interprets deed job reading executed last) (hwithin : Within sources packagesDir reading.1)
    (path : String) {before : List ReadResult} (hscope : openAfter before = reading.2) :
    Follows (Tour sources packagesDir (partOf path before job)) reading.1 executed last.1 := by
  have hafter : ∀ {before : List ReadResult} {body : OpenBody} (result : ReadResult),
      openAfter before = body → openAfter (before ++ [result]) = scope body result := by
    rintro before body result rfl
    exact openAfter_append_singleton before result
  induction h generalizing path before with
  | again hloaded => exact .nothing rfl (.again ((isLoaded_iff _).1 hloaded))
  | @absent file context _ hnew htext =>
      rw [hwithin.sources] at htext
      refine .nothing (context.functions_markLoaded file) ?_
      have hloaded : ((context.markLoaded file).2.error
          ("Source file " ++ file ++ " is not in the bundle")).loaded = file :: context.loaded :=
        context.loaded_markLoaded hnew
      rw [hloaded]
      exact .absent (context.not_mem_of_not_isLoaded hnew) htext
  | @read file text context _ executed reading hnew htext _ ih =>
      rw [hwithin.sources] at htext
      have hread := ih ((context.sameBundle_markLoaded file).within hwithin) file
        (show openAfter [] = none from rfl)
      obtain ⟨visits, htour, hexecuted, hfunctions⟩ :=
        hread.of_sameProgram (.refl _) (reading.1.sameProgram_leave file reading.2)
      rw [context.functions_markLoaded] at hfunctions
      rw [context.loaded_markLoaded hnew] at htour
      exact ⟨visits, .read (context.not_mem_of_not_isLoaded hnew) htext htour, hexecuted,
        hfunctions⟩
  | noFiles => exact .nothing rfl .noFiles
  | noModules => exact .nothing rfl .noModules
  | noResults => exact .nothing rfl .atEnd
  | @nextFile kind file _ context _ _ _ _ _ hfile hfiles ih ih' =>
      have hannounced := context.sameProgram_announce kind file
      have hfirst := ih (hannounced.sameBundle.within hwithin) path hscope
      have hmiddle := (hannounced.sameBundle.trans (hfile.sameBundle hdeed)).within hwithin
      exact (hfirst.of_sameProgram hannounced (.refl _)).seq
        (ih' hmiddle path (hscope.trans (hfile.body nofun).symm)) fun _ _ => .nextFile
  | package hfind hfiles _ ih ih' =>
      rw [hwithin.resolve] at hfind
      have hmiddle := (hfiles.sameBundle hdeed).within hwithin
      exact (ih hwithin path hscope).seq (ih' hmiddle path (hscope.trans (hfiles.body nofun).symm))
        fun _ _ hfirst => .nextModule (by rwa [hfind])
  | single hfind hfiles _ ih ih' =>
      rw [hwithin.resolve] at hfind
      have hmiddle := (hfiles.sameBundle hdeed).within hwithin
      exact (ih hwithin path hscope).seq (ih' hmiddle path (hscope.trans (hfiles.body nofun).symm))
        fun _ _ hfirst => .nextModule (by rwa [hfind])
  | @missing name names context _ _ _ hfind _ ih =>
      rw [hwithin.resolve] at hfind
      have hreport := (context.outward_report
        (.error ("Could not find file or package \"" ++ name ++ "\"."))).toSameProgram
      have hrest := ih (hreport.sameBundle.within hwithin) path hscope
      have hnone : Follows (Tour sources packagesDir
          (.files (Resolution.find sources packagesDir name).files)) context [] context :=
        .nothing rfl (hfind ▸ .noFiles)
      exact hnone.seq (hrest.of_sameProgram hreport (.refl _)) fun _ _ => .nextModule
  | @malformed error rest context _ _ _ _ ih =>
      have hreport := (context.outward_report (.error (Error.ofParse error).message)).toSameProgram
      exact (ih (hreport.sameBundle.within hwithin) path (hafter (.error error) hscope)).meet
        ⟨path, before, .error error⟩ hreport.loaded rfl hreport.functions fun _ => .other nofun
  | @assign key value rest context _ _ _ _ ih =>
      exact (ih ⟨hwithin.sources, hwithin.packagesDir⟩ path
        (hafter (.ok (.assign key value)) hscope)).meet
        ⟨path, before, .ok (.assign key value)⟩ rfl rfl rfl fun _ => .other nofun
  | @beginFunction name _ reading _ _ _ ih =>
      have hopen := reading.1.sameProgram_openBody name reading.2
      have hbody := reading.1.body_openBody name reading.2
      exact (ih (hopen.sameBundle.within hwithin) path
        ((hafter (.ok (.beginFunction name)) hscope).trans hbody.symm)).meet
        ⟨path, before, .ok (.beginFunction name)⟩ hopen.loaded rfl hopen.functions
        fun _ => .other nofun
  | @endFunction name body _ context _ _ _ ih =>
      have hclosed : (⟨path, before, .ok .endFunction⟩ : Visit).closed? = some (name, body) := hscope
      exact (ih ⟨hwithin.sources, hwithin.packagesDir⟩ path (hafter (.ok .endFunction) hscope)).meet
        ⟨path, before, .ok .endFunction⟩ rfl rfl (by rw [hclosed]; rfl) fun _ => .other nofun
  | @nothingEnds _ context _ _ _ ih =>
      have hclosed : (⟨path, before, .ok .endFunction⟩ : Visit).closed? = none := hscope
      exact (ih hwithin path (hafter (.ok .endFunction) hscope)).meet
        ⟨path, before, .ok .endFunction⟩ rfl rfl (by rw [hclosed]; rfl) fun _ => .other nofun
  | @load names rest reading middle last first second hmodules _ ih ih' =>
      have hmiddle := (hmodules.sameBundle hdeed).within hwithin
      have hbody := hscope.trans (hmodules.body nofun).symm
      have hboth : Follows (fun loaded visits after =>
          Tour sources packagesDir (.rest path before (.ok (.load names) :: rest)) loaded
            (⟨path, before, .ok (.load names)⟩ :: visits) after) reading.1 (first ++ second) last.1 :=
        (ih hwithin path hscope).seq (ih' hmiddle path (hafter (.ok (.load names)) hbody))
          fun _ _ => .load
      exact hboth.meet ⟨path, before, .ok (.load names)⟩ rfl rfl rfl fun _ htour => htour
  | @keep action name body _ context _ _ _ ih =>
      have hkept : (⟨path, before, .ok (.act action)⟩ : Visit).executed? = none := by
        rw [Visit.executed?, show openAfter before = some (name, body) from hscope]
      exact (ih hwithin path (hafter (.ok (.act action)) hscope)).meet
        ⟨path, before, .ok (.act action)⟩ rfl (by rw [hkept]; rfl) rfl fun _ => .other nofun
  | @perform action _ context next _ _ hperformed _ ih =>
      have hexecuted : (⟨path, before, .ok (.act action)⟩ : Visit).executed? = some action := by
        rw [Visit.executed?, show openAfter before = none from hscope]
      have hsame := hdeed _ _ _ hperformed
      exact (ih (hsame.sameBundle.within hwithin) path (hafter (.ok (.act action)) hscope)).meet
        ⟨path, before, .ok (.act action)⟩ hsame.loaded (by rw [hexecuted]; rfl) hsame.functions
        fun _ => .other nofun

/-- Deeds as they are leave the program alone. -/
theorem keepsProgram_performs : KeepsProgram Performs := by
  rintro context action next rfl
  exact context.sameProgram_perform action 0

end Context

open Context

/-- **What a script fixes by itself**: whatever functions there are and whichever scripts are
loaded, there is exactly one tour of a script.  In every state with these scripts, functions and
loaded scripts, loading the script executes at top level the actions that the tour meets outside
every body, defines the functions whose bodies it closes, in this order, and loads the scripts that
it loads; and so does every run that reads the script and does what it reads, whatever its actions
come to. -/
theorem Context.loadSource_fixed_by_source (sources : FileMap) (packagesDir : String)
    (functions : Dictionary (List Action)) (loaded : List String) (path : String) :
    ∃ visits after,
      (∀ visits' after', Tour sources packagesDir (.file path) loaded visits' after' ↔
        visits' = visits ∧ after' = after) ∧
      performed (Unfolding.ofFile sources packagesDir loaded path).steps =
        visits.filterMap Visit.executed? ∧
      ∀ context : Context, context.sources = sources → context.config.packagesDir = packagesDir →
        context.functions = functions → context.loaded = loaded →
        (context.loadSource path).functions =
          defineAll functions (visits.filterMap Visit.closed?) ∧
        (context.loadSource path).loaded = after ∧
        Interprets Performs (.file path) (context, none) (visits.filterMap Visit.executed?)
          (context.loadSource path, none) ∧
        ∀ deed, KeepsProgram deed → ∀ executed last,
          Interprets deed (.file path) (context, none) executed last →
            executed = visits.filterMap Visit.executed? ∧
            last.1.functions = defineAll functions (visits.filterMap Visit.closed?) ∧
            last.1.loaded = after := by
  -- the tour is that of any state with these scripts
  let first : Context :=
    { machine := .bare, config := { packagesDir }, sources, functions, loaded, box := ⟨[]⟩
      files := .empty, ids := .ofSeed 0 }
  have hnothing : openAfter [] = none := rfl
  have hfirst : Within sources packagesDir first := ⟨rfl, rfl⟩
  obtain ⟨visits, htour, hperformed, -⟩ :=
    (first.interprets_loadSource path).follows keepsProgram_performs hfirst path hnothing
  refine ⟨visits, _, fun visits' after' => ⟨htour.unique, ?_⟩, hperformed, ?_⟩
  · rintro ⟨rfl, rfl⟩
    exact htour
  rintro context rfl rfl rfl rfl
  have hevery : ∀ deed, KeepsProgram deed → ∀ executed last,
      Interprets deed (.file path) (context, none) executed last →
        executed = visits.filterMap Visit.executed? ∧
        last.1.functions = defineAll context.functions (visits.filterMap Visit.closed?) ∧
        last.1.loaded = (first.loadSource path).loaded := by
    intro deed hdeed executed last hrun
    obtain ⟨visits', htour', hexecuted, hfunctions⟩ :=
      hrun.follows hdeed ⟨rfl, rfl⟩ path hnothing
    obtain ⟨rfl, hloaded⟩ := htour.unique htour'
    exact ⟨hexecuted, hfunctions, hloaded⟩
  have hrun := context.interprets_loadSource path
  obtain ⟨hexecuted, hfunctions, hloaded⟩ := hevery Performs keepsProgram_performs _ _ hrun
  exact ⟨hfunctions, hloaded, hexecuted ▸ hrun, hevery⟩

end SiteScript
