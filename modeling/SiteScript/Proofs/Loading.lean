import SiteScript.Proofs.Dictionary
import SiteScript.Proofs.Program

/-!
# SiteScript.Proofs.Loading

Loading is reachability.  A script *imports* the scripts of the modules that its `load` directives
name; loading a script marks exactly the scripts that can be reached from it along imports without
passing through scripts that were loaded before.

1. `Runs` says what loading does without a bound on its depth, together with the list of the
   scripts whose text is read on the way, in order.  It is a judgement about finite runs: a load
   that went on for ever would have none.
2. Every run only adds to the loaded scripts, reads no script twice, and marks only what can be
   reached (`Runs.grows`, `Runs.sound`).  A script that a run marked has all its imports marked at
   the end (`Runs.closed`), because it is marked before its own loads are followed.
3. The bounded recursion of `loadFile` is such a run, as the bound is above the number of scripts
   that are not loaded yet (`loadFile_runs`). -/

namespace SiteScript.Unfolding

/-! ## Imports -/

/-- The scripts that the modules of a `load` stand for. -/
def Names (sources : FileMap) (packagesDir : String) (modules : List String)
    (file : String) : Prop :=
  ∃ name ∈ modules, file ∈ (Resolution.find sources packagesDir name).files

/-- A script imports another: one of the directives that are read from its text is a `load` of a
module that stands for the other. -/
def Imports (sources : FileMap) (packagesDir : String) (file other : String) : Prop :=
  ∃ text modules, sources.get? file = some text ∧ .ok (.load modules) ∈ Script.parse file text ∧
    Names sources packagesDir modules other

/-- A script can be reached from another along imports, without passing through scripts of a list.
-/
inductive Reaches (sources : FileMap) (packagesDir : String) (closed : List String) :
    String → String → Prop where
  | here {file : String} (h : file ∉ closed) : Reaches sources packagesDir closed file file
  | step {file next last : String} (h : file ∉ closed)
    (himports : Imports sources packagesDir file next)
      (hreaches : Reaches sources packagesDir closed next last) :
      Reaches sources packagesDir closed file last

/-! ## Runs -/

/-- What loading is busy with. -/
inductive Job where
  /-- One script. -/
  | file (path : String)
  /-- The scripts of a module, each announced as being of a kind. -/
  | files (kind : String) (paths : List String)
  | modules (names : List String)
  /-- What is left of a script. -/
  | results (rest : List (Except Script.ParseError Directive))

/-- The steps so far, the scripts loaded by then, and the body that is open. -/
abbrev State := Unfolding × OpenBody

/-- Announce a script that is not loaded yet. -/
def announce (kind : String) (unfolding : Unfolding) (path : String) : Unfolding :=
  if unfolding.loaded.contains path then unfolding
  else unfolding.add (.report (.info ("Loading " ++ kind ++ " file: " ++ path)))

/-- Leave a script; of a body that is still open nothing remains. -/
def leave (path : String) (state : State) : Unfolding :=
  match state.2 with
  | some (name, _) =>
    state.1.add (.report (.warn (path ++ ": function '" ++ name ++
      "' is missing ':end:' and was discarded")))
  | none => state.1

/-- A finite run of loading: what it is busy with, the state before, the scripts whose text is read,
in order, and the state after. -/
inductive Runs (sources : FileMap) (packagesDir : String) :
    Job → State → List String → State → Prop where
  | again {path : String} {unfolding : Unfolding} {body : OpenBody} (h : path ∈ unfolding.loaded) :
      Runs sources packagesDir (.file path) (unfolding, body) [] (unfolding, body)
  | absent {path : String} {unfolding : Unfolding} {body : OpenBody} (h : path ∉ unfolding.loaded)
      (htext : sources.get? path = none) :
      Runs sources packagesDir (.file path) (unfolding, body) []
        ((unfolding.mark path).add
          (.report (.error ("Source file " ++ path ++ " is not in the bundle"))),
          body)
  | read {path text : String} {unfolding : Unfolding} {body : OpenBody} {parsed : List String}
      {state : State} (h : path ∉ unfolding.loaded) (htext : sources.get? path = some text)
      (hresults : Runs sources packagesDir (.results (Script.parse path text))
        (unfolding.mark path, none) parsed state) :
      Runs sources packagesDir (.file path) (unfolding, body) (path :: parsed)
        (leave path state, body)
  | noFiles {kind : String} {state : State} :
    Runs sources packagesDir (.files kind []) state [] state
  | nextFile {kind path : String} {paths first rest : List String} {unfolding : Unfolding}
      {body : OpenBody} {middle last : State}
      (hfile : Runs sources packagesDir (.file path)
        (announce kind unfolding path, body) first middle)
      (hfiles : Runs sources packagesDir (.files kind paths) middle rest last) :
      Runs sources packagesDir (.files kind (path :: paths)) (unfolding, body) (first ++ rest) last
  | noModules {state : State} : Runs sources packagesDir (.modules []) state [] state
  | package {name : String} {names files first rest : List String} {state middle last : State}
      (h : Resolution.find sources packagesDir name = .package files)
      (hfiles : Runs sources packagesDir (.files "package" files) state first middle)
      (hmodules : Runs sources packagesDir (.modules names) middle rest last) :
      Runs sources packagesDir (.modules (name :: names)) state (first ++ rest) last
  | single {name path : String} {names first rest : List String} {state middle last : State}
      (h : Resolution.find sources packagesDir name = .file path)
      (hfiles : Runs sources packagesDir (.files "single" [path]) state first middle)
      (hmodules : Runs sources packagesDir (.modules names) middle rest last) :
      Runs sources packagesDir (.modules (name :: names)) state (first ++ rest) last
  | missing {name : String} {names parsed : List String} {unfolding : Unfolding} {body : OpenBody}
      {last : State} (h : Resolution.find sources packagesDir name = .missing)
      (hmodules : Runs sources packagesDir (.modules names)
        (unfolding.add (.report
          (.error ("Could not find file or package \"" ++ name ++ "\"."))), body)
        parsed last) :
      Runs sources packagesDir (.modules (name :: names)) (unfolding, body) parsed last
  | noResults {state : State} : Runs sources packagesDir (.results []) state [] state
  | malformed {error : Script.ParseError} {rest : List (Except Script.ParseError Directive)}
      {parsed : List String} {unfolding : Unfolding} {body : OpenBody} {last : State}
      (hrest : Runs sources packagesDir (.results rest)
        (unfolding.add (.report (.error (Error.ofParse error).message)), body) parsed last) :
      Runs sources packagesDir (.results (.error error :: rest)) (unfolding, body) parsed last
  | load {names first second : List String} {rest : List (Except Script.ParseError Directive)}
      {state middle last : State}
      (hmodules : Runs sources packagesDir (.modules names) state first middle)
      (hrest : Runs sources packagesDir (.results rest) middle second last) :
      Runs sources packagesDir (.results (.ok (.load names) :: rest)) state (first ++ second) last
  | other {directive : Directive} {rest : List (Except Script.ParseError Directive)}
      {parsed : List String} {state last : State} (h : ∀ names, directive ≠ .load names)
      (hrest : Runs sources packagesDir (.results rest)
        (follow (fun unfolding _ => unfolding) state directive) parsed last) :
      Runs sources packagesDir (.results (.ok directive :: rest)) state parsed last

variable {sources : FileMap} {packagesDir : String}

/-! ## What the small steps do to the loaded scripts -/

@[simp] theorem loaded_mark (unfolding : Unfolding) (path : String) :
    (unfolding.mark path).loaded = path :: unfolding.loaded := rfl

@[simp] theorem loaded_announce (kind : String) (unfolding : Unfolding) (path : String) :
    (announce kind unfolding path).loaded = unfolding.loaded := by
  rw [announce]
  split <;> rfl

@[simp] theorem loaded_leave (path : String) (state : State) :
    (leave path state).loaded = state.1.loaded := by
  rw [leave]
  split <;> rfl

/-- A directive that is no `load` loads nothing. -/
theorem loaded_follow {loadModules : Unfolding → List String → Unfolding} {directive : Directive}
    (h : ∀ names, directive ≠ .load names) (state : State) :
    (follow loadModules state directive).1.loaded = state.1.loaded := by
  cases directive with
  | load names => exact absurd rfl (h names)
  | assign key value => rfl
  | beginFunction name =>
      rw [follow]
      split <;> rfl
  | endFunction =>
      rw [follow]
      split <;> rfl
  | act action =>
      rw [follow]
      split <;> rfl

/-- How modules are loaded does not matter to a directive that is no `load`. -/
theorem follow_other {directive : Directive} (h : ∀ names, directive ≠ .load names)
    (loadModules loadModules' : Unfolding → List String → Unfolding) (state : State) :
    follow loadModules state directive = follow loadModules' state directive := by
  cases directive with
  | load names => exact absurd rfl (h names)
  | assign | beginFunction | endFunction | act => rfl

/-! ## Runs grow -/

/-- What was loaded stays loaded, and the scripts that are read are new and different from each
other. -/
structure Grows (state : State) (parsed : List String) (last : State) : Prop where
  kept : ∀ file ∈ state.1.loaded, file ∈ last.1.loaded
  nodup : parsed.Nodup
  added : ∀ file ∈ parsed, file ∉ state.1.loaded ∧ file ∈ last.1.loaded

/-- One run after another: what the second reads was not loaded, so the first did not read it. -/
theorem Grows.seq {state middle last : State} {first rest : List String}
    (h : Grows state first middle) (h' : Grows middle rest last) :
    Grows state (first ++ rest) last where
  kept := fun file hfile => h'.kept file (h.kept file hfile)
  nodup := by
    refine List.nodup_append.2 ⟨h.nodup, h'.nodup, fun file hfile other hother heq => ?_⟩
    exact (h'.added other hother).1 (heq ▸ (h.added file hfile).2)
  added := by
    intro file hfile
    rcases List.mem_append.1 hfile with hfile | hfile
    · exact ⟨(h.added file hfile).1, h'.kept file (h.added file hfile).2⟩
    · exact ⟨fun hold => (h'.added file hfile).1 (h.kept file hold), (h'.added file hfile).2⟩

theorem Grows.refl (state : State) : Grows state [] state :=
  ⟨fun _ hfile => hfile, List.nodup_nil, fun _ hfile => absurd hfile List.not_mem_nil⟩

/-- Only the loaded scripts of the first state matter. -/
theorem Grows.of_loaded {state state' last : State} {parsed : List String}
    (h : Grows state' parsed last)
    (hloaded : state'.1.loaded = state.1.loaded) : Grows state parsed last :=
  ⟨hloaded ▸ h.kept, h.nodup, hloaded ▸ h.added⟩

/-- Every run grows. -/
theorem Runs.grows {job : Job} {state last : State} {parsed : List String}
    (h : Runs sources packagesDir job state parsed last) : Grows state parsed last := by
  induction h with
  | again | noFiles | noModules | noResults => exact .refl _
  | absent hnew =>
      exact ⟨fun file hfile => List.mem_cons_of_mem _ hfile, List.nodup_nil,
        fun file hfile => absurd hfile List.not_mem_nil⟩
  | @read path _ unfolding _ _ _ hnew _ _ ih =>
      have hmarked : path ∈ (unfolding.mark path).loaded := List.mem_cons_self
      refine ⟨?_, List.nodup_cons.2 ⟨fun hpath => (ih.added path hpath).1 hmarked, ih.nodup⟩, ?_⟩
      · intro file hfile
        rw [loaded_leave]
        exact ih.kept file (List.mem_cons_of_mem _ hfile)
      · intro file hfile
        rw [loaded_leave]
        rcases List.mem_cons.1 hfile with rfl | hfile
        · exact ⟨hnew, ih.kept file hmarked⟩
        · exact ⟨fun hold => (ih.added file hfile).1 (List.mem_cons_of_mem _ hold),
            (ih.added file hfile).2⟩
  | nextFile _ _ ih ih' => exact (ih.of_loaded (loaded_announce _ _ _)).seq ih'
  | package _ _ _ ih ih' => exact ih.seq ih'
  | single _ _ _ ih ih' => exact ih.seq ih'
  | load _ _ ih ih' => exact ih.seq ih'
  | missing _ _ ih => exact ih.of_loaded rfl
  | malformed _ ih => exact ih.of_loaded rfl
  | other hother _ ih => exact ih.of_loaded (loaded_follow hother _)

/-! ## Runs mark what can be reached, and all of it -/

/-- The scripts that a job asks for. -/
def Job.Asks (sources : FileMap) (packagesDir : String) : Job → String → Prop
  | .file path, asked => asked = path
  | .files _ paths, asked => asked ∈ paths
  | .modules names, asked => Names sources packagesDir names asked
  | .results rest, asked => ∃ names, .ok (.load names) ∈ rest ∧
    Names sources packagesDir names asked

/-- With fewer scripts in the way as much can be reached. -/
theorem Reaches.mono {closed closed' : List String} {file last : String}
    (h : Reaches sources packagesDir closed' file last) (hsub : ∀ f ∈ closed, f ∈ closed') :
    Reaches sources packagesDir closed file last := by
  induction h with
  | here hopen => exact .here fun hclosed => hopen (hsub _ hclosed)
  | step hopen himports _ ih => exact .step (fun hclosed => hopen (hsub _ hclosed)) himports ih

/-- Names of a list of modules are names of the first or of the others. -/
theorem names_cons {name : String} {names : List String} {file : String} :
    Names sources packagesDir (name :: names) file ↔
      file ∈ (Resolution.find sources packagesDir name).files ∨
        Names sources packagesDir names file := by
  simp [Names]

/-- Every new script can be reached from one that the job asks for, through scripts that were not
loaded. -/
def Sound (sources : FileMap) (packagesDir : String) (job : Job) (state last : State) : Prop :=
  ∀ file ∈ last.1.loaded, file ∉ state.1.loaded →
    ∃ asked, job.Asks sources packagesDir asked ∧
      Reaches sources packagesDir state.1.loaded asked file

/-- A job that adds nothing. -/
theorem Sound.refl (job : Job) (state : State) : Sound sources packagesDir job state state :=
  fun _ hfile hnew => absurd hfile hnew

/-- One run after another, for a job that asks for what the two ask for: a new script comes from
the first or from the second. -/
theorem Sound.seq {job job' whole : Job} {state middle last : State} {first : List String}
    (h : Sound sources packagesDir job state middle)
    (h' : Sound sources packagesDir job' middle last) (hgrows : Grows state first middle)
    (hwhole : ∀ file, job.Asks sources packagesDir file ∨ job'.Asks sources packagesDir file →
      whole.Asks sources packagesDir file) :
    Sound sources packagesDir whole state last := by
  intro file hfile hnew
  by_cases hmiddle : file ∈ middle.1.loaded
  · obtain ⟨asked, hasks, hreaches⟩ := h file hmiddle hnew
    exact ⟨asked, hwhole asked (.inl hasks), hreaches⟩
  · obtain ⟨asked, hasks, hreaches⟩ := h' file hfile hmiddle
    exact ⟨asked, hwhole asked (.inr hasks), hreaches.mono hgrows.kept⟩

/-- A step that loads nothing, before a run for a job that asks for no more. -/
theorem Sound.of_loaded {job whole : Job} {state state' last : State}
    (h : Sound sources packagesDir job state' last) (hloaded : state'.1.loaded = state.1.loaded)
    (hwhole : ∀ file, job.Asks sources packagesDir file → whole.Asks sources packagesDir file) :
    Sound sources packagesDir whole state last := by
  intro file hfile hnew
  obtain ⟨asked, hasks, hreaches⟩ := h file hfile (hloaded ▸ hnew)
  exact ⟨asked, hwhole asked hasks, hloaded ▸ hreaches⟩

/-- Every run is sound: a script that is met on the way was named by one that was just marked. -/
theorem Runs.sound {job : Job} {state last : State} {parsed : List String}
    (h : Runs sources packagesDir job state parsed last) :
    Sound sources packagesDir job state last := by
  induction h with
  | again | noFiles | noModules | noResults => exact .refl _ _
  | @absent path _ _ hpath _ =>
      intro file hfile hnew
      rcases List.mem_cons.1 hfile with rfl | hfile
      · exact ⟨file, rfl, .here hnew⟩
      · exact absurd hfile hnew
  | @read path text _ _ _ _ hpath htext _ ih =>
      intro file hfile hnew
      refine ⟨path, rfl, ?_⟩
      by_cases hfirst : file = path
      · subst hfirst
        exact .here hpath
      · rw [loaded_leave] at hfile
        obtain ⟨asked, ⟨names, hload, hnames⟩, hreaches⟩ :=
          ih file hfile (by simpa [hfirst] using hnew)
        exact .step hpath ⟨text, names, htext, hload, hnames⟩
          (hreaches.mono fun f hf => List.mem_cons_of_mem _ hf)
  | @nextFile kind path _ _ _ unfolding body middle _ hfile _ ih ih' =>
      have hfirst : Sound sources packagesDir (.file path) (unfolding, body) middle :=
        ih.of_loaded (loaded_announce _ _ _) fun _ hasks => hasks
      have hgrows : Grows (unfolding, body) _ middle :=
        hfile.grows.of_loaded (loaded_announce _ _ _)
      exact hfirst.seq ih' hgrows fun file hasks => List.mem_cons.2 hasks
  | package hfind hfiles _ ih ih' =>
      refine ih.seq ih' hfiles.grows fun file hasks => ?_
      rwa [Job.Asks, names_cons, hfind]
  | single hfind hfiles _ ih ih' =>
      refine ih.seq ih' hfiles.grows fun file hasks => ?_
      rwa [Job.Asks, names_cons, hfind]
  | missing _ _ ih => exact ih.of_loaded rfl fun file hasks => names_cons.2 (.inr hasks)
  | malformed _ ih =>
      refine ih.of_loaded rfl ?_
      rintro file ⟨names, hload, hnames⟩
      exact ⟨names, List.mem_cons_of_mem _ hload, hnames⟩
  | load hmodules _ ih ih' =>
      refine ih.seq ih' hmodules.grows ?_
      rintro file (hnames | ⟨names, hload, hnames⟩)
      · exact ⟨_, List.mem_cons_self, hnames⟩
      · exact ⟨names, List.mem_cons_of_mem _ hload, hnames⟩
  | other hother _ ih =>
      refine ih.of_loaded (loaded_follow hother _) ?_
      rintro file ⟨names, hload, hnames⟩
      exact ⟨names, List.mem_cons_of_mem _ hload, hnames⟩

/-- At the end of a run every script that was asked for is loaded, and so are the imports of every
new script. -/
structure Closed (sources : FileMap) (packagesDir : String) (job : Job)
    (state last : State) : Prop where
  asked : ∀ file, job.Asks sources packagesDir file → file ∈ last.1.loaded
  imports : ∀ file ∈ last.1.loaded, file ∉ state.1.loaded →
    ∀ other, Imports sources packagesDir file other → other ∈ last.1.loaded

/-- One run after another, for a job that asks for what the two ask for. -/
theorem Closed.seq {job job' whole : Job} {state middle last : State} {rest : List String}
    (h : Closed sources packagesDir job state middle)
    (h' : Closed sources packagesDir job' middle last) (hgrows : Grows middle rest last)
    (hwhole : ∀ file, whole.Asks sources packagesDir file →
      job.Asks sources packagesDir file ∨ job'.Asks sources packagesDir file) :
    Closed sources packagesDir whole state last where
  asked := by
    intro file hasks
    rcases hwhole file hasks with hasks | hasks
    · exact hgrows.kept file (h.asked file hasks)
    · exact h'.asked file hasks
  imports := by
    intro file hfile hnew other himports
    by_cases hmiddle : file ∈ middle.1.loaded
    · exact hgrows.kept other (h.imports file hmiddle hnew other himports)
    · exact h'.imports file hfile hmiddle other himports

/-- A step that loads nothing, before a run for a job that asks for as much. -/
theorem Closed.of_loaded {job whole : Job} {state state' last : State}
    (h : Closed sources packagesDir job state' last) (hloaded : state'.1.loaded = state.1.loaded)
    (hwhole : ∀ file, whole.Asks sources packagesDir file → job.Asks sources packagesDir file) :
    Closed sources packagesDir whole state last :=
  ⟨fun file hasks => h.asked file (hwhole file hasks), hloaded ▸ h.imports⟩

/-- Every run is closed under imports: a script is marked before its own loads are followed, so
whatever they meet again is loaded already. -/
theorem Runs.closed {job : Job} {state last : State} {parsed : List String}
    (h : Runs sources packagesDir job state parsed last) :
    Closed sources packagesDir job state last := by
  induction h with
  | again hloaded =>
    exact ⟨fun file hasks => hasks ▸ hloaded, fun file hfile hnew => absurd hfile hnew⟩
  | noFiles | noModules | noResults =>
      exact ⟨by simp [Job.Asks, Names], fun file hfile hnew => absurd hfile hnew⟩
  | @absent path _ _ hpath htext =>
      refine ⟨fun file hasks => hasks ▸ List.mem_cons_self, ?_⟩
      rintro file hfile hnew other ⟨text, modules, htext', -, -⟩
      rcases List.mem_cons.1 hfile with rfl | hfile
      · rw [htext] at htext'
        cases htext'
      · exact absurd hfile hnew
  | @read path text unfolding _ _ state hpath htext hresults ih =>
      have hmarked : path ∈ (unfolding.mark path).loaded := List.mem_cons_self
      refine ⟨fun file hasks => ?_, fun file hfile hnew other himports => ?_⟩
      · rw [loaded_leave, show file = path from hasks]
        exact hresults.grows.kept path hmarked
      · rw [loaded_leave] at hfile ⊢
        by_cases hfirst : file = path
        · obtain ⟨text', modules, htext', hload, hnames⟩ := himports
          rw [hfirst, htext, Option.some.injEq] at htext'
          subst hfirst htext'
          exact ih.asked other ⟨modules, hload, hnames⟩
        · exact ih.imports file hfile (by simpa [hfirst] using hnew) other himports
  | @nextFile kind path _ _ _ unfolding body middle _ _ hfiles ih ih' =>
      have hfile : Closed sources packagesDir (.file path) (unfolding, body) middle :=
        ih.of_loaded (loaded_announce _ _ _) fun _ hasks => hasks
      exact hfile.seq ih' hfiles.grows fun file hasks => List.mem_cons.1 hasks
  | package hfind _ hmodules ih ih' =>
      refine ih.seq ih' hmodules.grows fun file hasks => ?_
      rwa [Job.Asks, names_cons, hfind] at hasks
  | single hfind _ hmodules ih ih' =>
      refine ih.seq ih' hmodules.grows fun file hasks => ?_
      rwa [Job.Asks, names_cons, hfind] at hasks
  | missing hfind _ ih =>
      refine ih.of_loaded rfl fun file hasks => ?_
      rw [Job.Asks, names_cons, hfind] at hasks
      exact hasks.resolve_left List.not_mem_nil
  | malformed _ ih =>
      refine ih.of_loaded rfl ?_
      rintro file ⟨names, hload, hnames⟩
      exact ⟨names, by simpa using hload, hnames⟩
  | load _ hrest ih ih' =>
      refine ih.seq ih' hrest.grows ?_
      rintro file ⟨names, hload, hnames⟩
      rcases List.mem_cons.1 hload with hfirst | hload
      · cases hfirst
        exact .inl hnames
      · exact .inr ⟨names, hload, hnames⟩
  | other hother _ ih =>
      refine ih.of_loaded (loaded_follow hother _) ?_
      rintro file ⟨names, hload, hnames⟩
      rcases List.mem_cons.1 hload with hfirst | hload
      · cases hfirst
        exact absurd rfl (hother names)
      · exact ⟨names, hload, hnames⟩

/-- From a loaded script, what can be reached is loaded too. -/
theorem Closed.reaches {job : Job} {state last : State}
    (h : Closed sources packagesDir job state last)
    {file reached : String} (hreaches : Reaches sources packagesDir state.1.loaded file reached)
    (hfile : file ∈ last.1.loaded) : reached ∈ last.1.loaded := by
  induction hreaches with
  | here => exact hfile
  | step hopen himports _ ih => exact ih (h.imports _ hfile hopen _ himports)

/-- **A run for a script loads what can be reached from it**, and nothing else. -/
theorem Runs.loaded_iff {path : String} {state last : State} {parsed : List String}
    (h : Runs sources packagesDir (.file path) state parsed last) (file : String) :
    file ∈ last.1.loaded ↔
      file ∈ state.1.loaded ∨ Reaches sources packagesDir state.1.loaded path file := by
  constructor
  · intro hfile
    by_cases hold : file ∈ state.1.loaded
    · exact .inl hold
    · obtain ⟨asked, hasks, hreaches⟩ := h.sound file hfile hold
      exact .inr ((show asked = path from hasks) ▸ hreaches)
  · rintro (hold | hreaches)
    · exact h.grows.kept file hold
    · exact h.closed.reaches hreaches (h.closed.asked path rfl)

/-! ## There is one run -/

/-- A job has at most one run from a state. -/
theorem Runs.unique {job : Job} {state last : State} {parsed : List String}
    (h : Runs sources packagesDir job state parsed last) {parsed' : List String} {last' : State}
    (h' : Runs sources packagesDir job state parsed' last') : parsed' = parsed ∧ last' = last := by
  induction h generalizing parsed' last' with
  | again hloaded =>
      cases h' with
      | again => exact ⟨rfl, rfl⟩
      | absent hnew => exact absurd hloaded hnew
      | read hnew => exact absurd hloaded hnew
  | absent hnew htext =>
      cases h' with
      | again hloaded => exact absurd hloaded hnew
      | absent => exact ⟨rfl, rfl⟩
      | read _ htext' => rw [htext] at htext'; cases htext'
  | read hnew htext _ ih =>
      cases h' with
      | again hloaded => exact absurd hloaded hnew
      | absent _ htext' => rw [htext] at htext'; cases htext'
      | read _ htext' hresults' =>
          rw [htext, Option.some.injEq] at htext'
          subst htext'
          obtain ⟨rfl, rfl⟩ := ih hresults'
          exact ⟨rfl, rfl⟩
  | noFiles | noModules | noResults =>
      cases h'
      exact ⟨rfl, rfl⟩
  | nextFile _ _ ih ih' =>
      cases h' with
      | nextFile hfile hfiles =>
          obtain ⟨rfl, rfl⟩ := ih hfile
          obtain ⟨rfl, rfl⟩ := ih' hfiles
          exact ⟨rfl, rfl⟩
  | package hfind _ _ ih ih' =>
      cases h' with
      | package hfind' hfiles hmodules =>
          rw [hfind, Resolution.package.injEq] at hfind'
          subst hfind'
          obtain ⟨rfl, rfl⟩ := ih hfiles
          obtain ⟨rfl, rfl⟩ := ih' hmodules
          exact ⟨rfl, rfl⟩
      | single hfind' => rw [hfind] at hfind'; cases hfind'
      | missing hfind' => rw [hfind] at hfind'; cases hfind'
  | single hfind _ _ ih ih' =>
      cases h' with
      | package hfind' => rw [hfind] at hfind'; cases hfind'
      | single hfind' hfiles hmodules =>
          rw [hfind, Resolution.file.injEq] at hfind'
          subst hfind'
          obtain ⟨rfl, rfl⟩ := ih hfiles
          obtain ⟨rfl, rfl⟩ := ih' hmodules
          exact ⟨rfl, rfl⟩
      | missing hfind' => rw [hfind] at hfind'; cases hfind'
  | missing hfind _ ih =>
      cases h' with
      | package hfind' => rw [hfind] at hfind'; cases hfind'
      | single hfind' => rw [hfind] at hfind'; cases hfind'
      | missing _ hmodules => exact ih hmodules
  | malformed _ ih =>
      cases h' with
      | malformed hrest => exact ih hrest
  | load _ _ ih ih' =>
      cases h' with
      | load hmodules hrest =>
          obtain ⟨rfl, rfl⟩ := ih hmodules
          obtain ⟨rfl, rfl⟩ := ih' hrest
          exact ⟨rfl, rfl⟩
      | other hother => exact absurd rfl (hother _)
  | other hother _ ih =>
      cases h' with
      | load => exact absurd rfl (hother _)
      | other _ hrest => exact ih hrest

/-! ## The bounded recursion is a run -/

/-- How many scripts are not loaded. -/
def unloaded (sources : FileMap) (loaded : List String) : Nat :=
  (sources.keys.filter fun path => !loaded.contains path).length

theorem unloaded_le_size (sources : FileMap) (loaded : List String) :
    unloaded sources loaded ≤ sources.size := by
  have hsize : sources.keys.length = sources.size := List.length_map _
  exact hsize ▸ List.length_filter_le _ _

/-- When more scripts are loaded, those that are not are some of those that were not. -/
theorem filter_unloaded {loaded loaded' : List String} (h : ∀ file ∈ loaded, file ∈ loaded')
    (sources : FileMap) :
    (sources.keys.filter fun path => !loaded'.contains path) =
      (sources.keys.filter fun path => !loaded.contains path).filter
        fun path => !loaded'.contains path := by
  rw [List.filter_filter]
  refine List.filter_congr fun path _ => ?_
  by_cases hpath : path ∈ loaded
  · simp [hpath, h path hpath]
  · simp [hpath]

theorem Grows.unloaded_le {state last : State} {parsed : List String}
    (h : Grows state parsed last) :
    unloaded sources last.1.loaded ≤ unloaded sources state.1.loaded := by
  rw [unloaded, filter_unloaded h.kept]
  exact List.length_filter_le _ _

/-- Marking a new script leaves one fewer. -/
theorem unloaded_mark {unfolding : Unfolding} {path text : String} (h : path ∉ unfolding.loaded)
    (htext : sources.get? path = some text) :
    unloaded sources (unfolding.mark path).loaded < unloaded sources unfolding.loaded := by
  have hkept : ∀ file ∈ unfolding.loaded, file ∈ (unfolding.mark path).loaded :=
    fun file hfile => List.mem_cons_of_mem path hfile
  have hkey : path ∈ sources.keys := Dictionary.mem_keys.2 (by simp [Dictionary.contains, htext])
  rw [unloaded, filter_unloaded hkept, unloaded, List.length_filter_lt_length_iff_exists]
  exact ⟨path, by simp [h, hkey], by simp⟩

section Bounded

variable {load : Loader} {bound : Nat}

/-- A way to load scripts that is a run as long as few scripts are not loaded. -/
def RunsBelow (sources : FileMap) (packagesDir : String) (load : Loader) (bound : Nat) : Prop :=
  ∀ unfolding path body, unloaded sources unfolding.loaded < bound →
    ∃ parsed, Runs sources packagesDir (.file path) (unfolding, body) parsed
      (load unfolding path, body)

/-- Loading some scripts one after another is a run. -/
theorem RunsBelow.files (h : RunsBelow sources packagesDir load bound) (kind : String)
    (paths : List String) (unfolding : Unfolding) (body : OpenBody)
    (hbound : unloaded sources unfolding.loaded < bound) :
    ∃ parsed, Runs sources packagesDir (.files kind paths) (unfolding, body) parsed
      (paths.foldl (fun unfolding path => load (announce kind unfolding path) path)
        unfolding, body) := by
  induction paths generalizing unfolding with
  | nil => exact ⟨[], .noFiles⟩
  | cons path paths ih =>
      obtain ⟨first, hfile⟩ := h (announce kind unfolding path) path body (by rwa [loaded_announce])
      have hgrows : Grows (unfolding, body) first
          (load (announce kind unfolding path) path, body) :=
        hfile.grows.of_loaded (loaded_announce _ _ _)
      obtain ⟨rest, hfiles⟩ := ih _ (Nat.lt_of_le_of_lt hgrows.unloaded_le hbound)
      exact ⟨first ++ rest, .nextFile hfile hfiles⟩

/-- Loading a module and then others is a run if loading the others is. -/
theorem RunsBelow.module (h : RunsBelow sources packagesDir load bound) (name : String)
    (names : List String) (unfolding : Unfolding) (body : OpenBody) (last : State)
    (hbound : unloaded sources unfolding.loaded < bound)
    (hmodules : unloaded sources
      (loadModule load sources packagesDir unfolding name).loaded < bound →
      ∃ parsed, Runs sources packagesDir (.modules names)
        (loadModule load sources packagesDir unfolding name, body) parsed last) :
    ∃ parsed, Runs sources packagesDir (.modules (name :: names))
      (unfolding, body) parsed last := by
  rw [loadModule] at hmodules
  cases hfind : Resolution.find sources packagesDir name with
  | package files =>
      rw [hfind] at hmodules
      obtain ⟨first, hfiles⟩ := h.files "package" files unfolding body hbound
      obtain ⟨rest, hrest⟩ := hmodules (Nat.lt_of_le_of_lt hfiles.grows.unloaded_le hbound)
      exact ⟨first ++ rest, .package hfind hfiles hrest⟩
  | file path =>
      rw [hfind] at hmodules
      obtain ⟨first, hfiles⟩ := h.files "single" [path] unfolding body hbound
      obtain ⟨rest, hrest⟩ := hmodules (Nat.lt_of_le_of_lt hfiles.grows.unloaded_le hbound)
      exact ⟨first ++ rest, .single hfind hfiles hrest⟩
  | missing =>
      rw [hfind] at hmodules
      obtain ⟨parsed, hrest⟩ := hmodules hbound
      exact ⟨parsed, .missing hfind hrest⟩

/-- Loading modules one after another is a run. -/
theorem RunsBelow.modules (h : RunsBelow sources packagesDir load bound) (names : List String)
    (unfolding : Unfolding) (body : OpenBody) (hbound : unloaded sources unfolding.loaded < bound) :
    ∃ parsed, Runs sources packagesDir (.modules names) (unfolding, body) parsed
      (names.foldl (loadModule load sources packagesDir) unfolding, body) := by
  induction names generalizing unfolding with
  | nil => exact ⟨[], .noModules⟩
  | cons name names ih =>
      exact h.module name names unfolding body _ hbound (ih _)

/-- Follow one result of reading a script. -/
def followResult (loadModules : Unfolding → List String → Unfolding) (state : State) :
    Except Script.ParseError Directive → State
  | .ok directive => follow loadModules state directive
  | .error error => (state.1.add (.report (.error (Error.ofParse error).message)), state.2)

/-- Following what is left of a script is a run. -/
theorem RunsBelow.results (h : RunsBelow sources packagesDir load bound)
    (results : List (Except Script.ParseError Directive)) (state : State)
    (hbound : unloaded sources state.1.loaded < bound) :
    ∃ parsed, Runs sources packagesDir (.results results) state parsed
      (results.foldl (followResult fun unfolding modules =>
        modules.foldl (loadModule load sources packagesDir) unfolding) state) := by
  induction results generalizing state with
  | nil => exact ⟨[], .noResults⟩
  | cons result rest ih =>
      rw [List.foldl_cons]
      cases result with
      | error error =>
          obtain ⟨parsed, hrest⟩ := ih (followResult _ state (.error error)) hbound
          exact ⟨parsed, .malformed hrest⟩
      | ok directive =>
          by_cases hload : ∃ names, directive = .load names
          · obtain ⟨names, rfl⟩ := hload
            obtain ⟨first, hmodules⟩ := h.modules names state.1 state.2 hbound
            obtain ⟨second, hrest⟩ := ih _ (Nat.lt_of_le_of_lt hmodules.grows.unloaded_le hbound)
            exact ⟨first ++ second, .load hmodules hrest⟩
          · have hother : ∀ names, directive ≠ .load names := fun names heq => hload ⟨names, heq⟩
            rw [followResult, follow_other hother _ fun unfolding _ => unfolding]
            obtain ⟨parsed, hrest⟩ := ih (follow (fun unfolding _ => unfolding) state directive)
              (by rwa [loaded_follow hother])
            exact ⟨parsed, .other hother hrest⟩

end Bounded

/-- **Bounded loading is a run** while the bound is above the number of scripts that are not loaded.
-/
theorem loadFile_runs (sources : FileMap) (packagesDir : String) (fuel : Nat) :
    RunsBelow sources packagesDir (loadFile sources packagesDir fuel) fuel := by
  induction fuel with
  | zero => exact fun unfolding path body hbound => absurd hbound (Nat.not_lt_zero _)
  | succ fuel ih =>
      intro unfolding path body hbound
      rw [loadFile]
      by_cases hloaded : path ∈ unfolding.loaded
      · rw [if_pos (by simpa using hloaded)]
        exact ⟨[], .again hloaded⟩
      · rw [if_neg (by simpa using hloaded)]
        cases htext : sources.get? path with
        | none => exact ⟨[], .absent hloaded htext⟩
        | some text =>
            -- the loads inside the script have one script fewer before them, and a bound one lower
            have hless : unloaded sources (unfolding.mark path).loaded < fuel :=
              Nat.lt_of_lt_of_le (unloaded_mark hloaded htext) (Nat.le_of_lt_succ hbound)
            obtain ⟨parsed, hresults⟩ :=
              ih.results (Script.parse path text) (unfolding.mark path, none) hless
            exact ⟨path :: parsed, .read hloaded htext hresults⟩

/-! ## Scripts of the bundle -/

/-- A module stands only for scripts that exist. -/
theorem contains_of_mem_find {name file : String}
    (h : file ∈ (Resolution.find sources packagesDir name).files) :
    sources.contains file = true := by
  simp only [Resolution.find] at h
  split at h
  · split at h
    next hcontains =>
      rw [Resolution.files, List.mem_singleton] at h
      rwa [h]
    next => exact absurd h List.not_mem_nil
  · exact Dictionary.mem_keys.1 (List.mem_filter.1 h).1

/-- From a script that exists only scripts that exist can be reached. -/
theorem Reaches.contains {closed : List String} {file last : String}
    (h : Reaches sources packagesDir closed file last) (hfile : sources.contains file = true) :
    sources.contains last = true := by
  induction h with
  | here => exact hfile
  | step _ himports _ ih =>
      obtain ⟨_, _, _, _, _, _, hfound⟩ := himports
      exact ih (contains_of_mem_find hfound)

end SiteScript.Unfolding

namespace SiteScript.Context

open Unfolding

/-- A step leaves the loaded scripts alone. -/
theorem loaded_step (context : Context) (step : Step) :
    (context.step step).loaded = context.loaded := by
  cases step with
  | assign key value => rfl
  | define name body => rfl
  | perform action => exact (context.sameProgram_perform action 0).loaded
  | report line => rfl

/-- After an unfolding the loaded scripts are those of the unfolding. -/
theorem loaded_follow (context : Context) (unfolding : Unfolding) :
    (context.follow unfolding).loaded = unfolding.loaded := by
  have hsteps : ∀ (steps : List Step) (context : Context),
      (steps.foldl step context).loaded = context.loaded := by
    intro steps
    induction steps with
    | nil => exact fun context => rfl
    | cons first rest ih => exact fun context => (ih _).trans (context.loaded_step first)
  exact hsteps unfolding.steps _

/-- **Loading is reachability**: loading a script has exactly one run, a finite one; the run reads
no script twice and none that was loaded before; and the scripts that are loaded afterwards are
those that were and those that can be reached from it through scripts that were not.  For a script
of the bundle these are scripts of the bundle, and loading a script again changes nothing. -/
theorem loadSource_loads_reachable (context : Context) (path : String) :
    let reaches := Reaches context.sources context.config.packagesDir context.loaded path
    (∃ parsed : List String,
      (∀ parsed' last,
        Runs context.sources context.config.packagesDir (.file path)
          ({ loaded := context.loaded }, none)
          parsed' last ↔
        parsed' = parsed ∧
          last = (.ofFile context.sources context.config.packagesDir context.loaded path, none)) ∧
      parsed.Nodup ∧ (∀ file ∈ parsed, file ∉ context.loaded)) ∧
    (∀ file, file ∈ (context.loadSource path).loaded ↔ file ∈ context.loaded ∨ reaches file) ∧
    (context.hasSource path = true → ∀ file, reaches file → context.hasSource file = true) ∧
    (path ∈ context.loaded → context.loadSource path = context) := by
  have hbound : unloaded context.sources context.loaded < fuelFor context.sources :=
    Nat.lt_succ_of_le (unloaded_le_size _ _)
  obtain ⟨parsed, hrun⟩ := loadFile_runs context.sources context.config.packagesDir
    (fuelFor context.sources) { loaded := context.loaded } path none hbound
  refine ⟨⟨parsed, fun parsed' last => ⟨hrun.unique, ?_⟩, hrun.grows.nodup,
    fun file hfile => (hrun.grows.added file hfile).1⟩, fun file => ?_,
    fun hpath file hreaches => hreaches.contains hpath, fun hloaded => ?_⟩
  · rintro ⟨rfl, rfl⟩
    exact hrun
  · rw [loadSource, loaded_follow]
    exact hrun.loaded_iff file
  · have hsame : ofFile context.sources context.config.packagesDir context.loaded path =
        { loaded := context.loaded } := by
      rw [ofFile, fuelFor, loadFile, if_pos (by simpa using hloaded)]
    rw [loadSource, hsame]
    rfl

end SiteScript.Context
