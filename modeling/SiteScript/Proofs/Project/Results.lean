import SiteScript.Proofs.Project.Building

/-!
# SiteScript.Proofs.Project.Results

What a build changes, whether it succeeds or fails.

1. A project that does not pass the checks is not built, and nothing is changed.
2. Otherwise the directory of results is made if nothing stands there (`createDirAll_results`), and
   one result after another is written until one cannot be (`writeAll_stops`).  A result is written
   where its path leads (`writesAll_of_writeAll`): the name of the project is taken as it is, and
   links are followed.
3. So with a name that has no slash, and where no link leads away, only the directory of results and
   three files in it can change (`build_footprint`); another name leads elsewhere
   (`build_of_slashed_name`). -/

namespace SiteScript

namespace FileSystem

/-! ## Writing files -/

/-- Between two states of a file system files were written where some paths lead, and nothing else
was changed. -/
structure WritesAll (paths : List Path) (a b : FileSystem) : Prop where
  ways : SameWays a b
  names : SameNames a b
  writes : ∀ location, b.get? location = a.get? location ∨
    ∃ path ∈ paths, ∃ target, b.LeadsTo path target ∧ a.IsNameOf target location ∧
      (a.get? location = none ∨ ∃ content traits, a.get? location = some (.file content traits)) ∧
      ∃ content traits, b.get? location = some (.file content traits)

namespace WritesAll

variable {paths : List Path} {path : Path} {a b c : FileSystem}

theorem refl (a : FileSystem) : WritesAll [] a a := ⟨.refl a, .refl a, fun _ => .inl rfl⟩

/-- A file is written, then others are. -/
theorem of_write {content : ByteArray} (hwrite : a.write path content = .ok b)
    (h : WritesAll paths b c) : WritesAll (path :: paths) a c := by
  obtain ⟨-, parent, name, traits, hdestination, -, hfirst⟩ := overwrites_of_write hwrite
  refine ⟨hfirst.sameWays.trans h.ways, hfirst.sameNames.trans h.names, fun location => ?_⟩
  have hleads : c.LeadsTo path (parent ++ [name]) :=
    (hfirst.sameWays.trans h.ways).leadsTo ⟨_, hdestination, rfl⟩
  obtain hkept | ⟨hname, hold, hnew⟩ := hfirst.writes location
  · obtain hsame | ⟨path', hmem, target, hleads', hname', hold', hnew'⟩ := h.writes location
    · exact .inl (hsame.trans hkept)
    · exact .inr ⟨path', List.mem_cons_of_mem _ hmem, target, hleads',
        hfirst.sameNames.isNameOf_iff.1 hname', hkept ▸ hold', hnew'⟩
  · refine .inr ⟨path, List.mem_cons_self, _, hleads, hname, hold, ?_⟩
    -- a file that was written is a file whatever is written later
    obtain hsame | ⟨-, -, -, -, -, -, hnew'⟩ := h.writes location
    · rw [hsame]
      exact hnew
    · exact hnew'

end WritesAll

/-! ## Making a directory -/

/-- In a directory that is there a directory is made if nothing has the name, and no call says that
something is missing. -/
theorem makeDirectory_in {fs : FileSystem} {path : Path} {home : Target}
    (hhome : fs.destination path = .ok home) (hstat : fs.stat path = .ok .directory) {name : String}
    (hname : IsPlain name) :
    (fs.get? (home.location ++ [name]) = none ∧
      fs.makeDirectory (.ofLocation (path.segments ++ [name])) =
        .ok (fs.put (home.location ++ [name]) .directory)) ∨
    ∃ fault, fs.makeDirectory (.ofLocation (path.segments ++ [name])) = .error fault ∧
      fault ≠ .notFound := by
  have hdirectory := fun parent last => @get?_of_stat_directory _ _ _ hhome hstat parent last
  rw [FileSystem.destination, followPath] at hhome
  split at hhome
  · cases hhome
  obtain ⟨jump, hrest⟩ := follow_append hhome hdirectory false
  have hfollow := hrest [name] (by simp)
  rw [followWith_cons, if_neg hname.ne_dot, if_neg hname.ne_up, if_pos (by rfl)] at hfollow
  rw [makeDirectory, make, target, followPath]
  cases hrefused : (Path.ofLocation (path.segments ++ [name])).refused? with
  | some fault =>
      refine .inr ⟨fault, rfl, ?_⟩
      rintro rfl
      rw [Path.refused?] at hrefused
      split at hrefused
      · cases hrefused
      · split at hrefused <;> cases hrefused
  | none =>
      have hsegments : (Path.ofLocation (path.segments ++ [name])).segments = path.segments ++ [name] :=
        rfl
      simp only [hsegments, hfollow]
      split
      · exact .inr ⟨_, rfl, by simp⟩
      · cases hget : fs.get? (home.location ++ [name]) with
        | none => exact .inl ⟨rfl, by simp [Entry.isDirectory]⟩
        | some entry => exact .inr ⟨_, rfl, by simp⟩

end FileSystem

namespace Project

open FileSystem

variable {project : Project} {fs fs' : FileSystem} {place : Location} {checked : Checked}
  {vectors : Bytes × Bytes}

theorem writesAll_of_writeAll {files : List (String × Bytes)}
    (h : project.writeAll fs files = (.ok (), fs')) :
    WritesAll (files.map fun (text, _) => project.path text) fs fs' := by
  induction files generalizing fs with
  | nil =>
      cases h
      exact .refl _
  | cons file files ih =>
      rw [writeAll] at h
      split at h
      next between hfirst => exact .of_write hfirst (ih h)
      next => cases h

/-- Writing files stops before the first that cannot be written. -/
theorem writeAll_stops (project : Project) (fs : FileSystem) (files : List (String × Bytes)) :
    ∃ count, project.writeAll fs (files.take count) = (.ok (), (project.writeAll fs files).2) ∧
      ((project.writeAll fs files).1 = .ok () → files.length ≤ count) := by
  induction files generalizing fs with
  | nil => exact ⟨0, rfl, fun _ => Nat.le_refl 0⟩
  | cons file files ih =>
      cases hfirst : fs.write (project.path file.1) (Bytes.toArray file.2) with
      | error fault =>
          refine ⟨0, ?_, ?_⟩
          · simp [writeAll, hfirst]
          · simp [writeAll, hfirst]
      | ok between =>
          obtain ⟨count, hwrite, hall⟩ := ih between
          refine ⟨count + 1, ?_, ?_⟩
          · simpa [writeAll, hfirst] using hwrite
          · simpa [writeAll, hfirst] using hall

/-! ## The directory of results -/

/-- The directory of results is made in the directory of the project, unless something is there. -/
theorem createDirAll_results (hplace : project.directory? fs = .ok place) :
    (fs.createDirAll (project.path (joinPath project.root buildDir)).segments).2 = fs ∨
      (fs.get? (place ++ [buildDir]) = none ∧
        (fs.createDirAll (project.path (joinPath project.root buildDir)).segments).2 =
          fs.put (place ++ [buildDir]) .directory) := by
  obtain ⟨hroot, hstat, home, hhome, hlocation⟩ := directory?_iff.1 hplace
  have hsegments : (project.path (joinPath project.root buildDir)).segments =
      (project.path project.root).segments ++ [buildDir] := segments_joinPath hroot rfl
  have hmake := makeDirectory_in hhome hstat plain_buildDir
  rw [hlocation] at hmake
  rw [hsegments, createDirAll, List.reverse_append, List.reverse_singleton, List.singleton_append,
    createDirAllUp]
  simp only [List.reverse_cons, List.reverse_reverse]
  obtain ⟨hnone, hmade⟩ | ⟨fault, hfault, hne⟩ := hmake
  · rw [hmade]
    exact .inr ⟨hnone, rfl⟩
  · refine .inl ?_
    rw [hfault]
    split
    next heq => cases heq
    next heq => exact absurd (Except.error.inj heq) hne
    next => split <;> rfl

/-! ## Whole builds -/

/-- The directory of results is made first, then results are written, all of them if the build is to
succeed. -/
theorem write_stops (project : Project) (fs : FileSystem) (vectors : Bytes × Bytes) (checked : Checked) :
    ∃ done, done <+: project.results fs vectors checked ∧
      project.writeAll (fs.createDirAll (project.path (joinPath project.root buildDir)).segments).2
        (done.map fun (name, content) => (project.resultText name, content)) =
          (.ok (), (project.write fs vectors checked).2) ∧
      ∀ output, (project.write fs vectors checked).1 = .ok output →
        done = project.results fs vectors checked := by
  unfold Project.write
  dsimp only
  split
  next fault made hmade => exact ⟨[], List.nil_prefix, by rw [hmade]; rfl, nofun⟩
  next made hmade =>
    rw [hmade]
    obtain ⟨count, hall, hfull⟩ := project.writeAll_stops made
      ((project.results fs vectors checked).map fun (name, content) => (project.resultText name, content))
    rw [← List.map_take] at hall
    rw [List.length_map] at hfull
    refine ⟨_, List.take_prefix count _, ?_⟩
    split
    next fault last hlast =>
      change project.writeAll made ((project.results fs vectors checked).map fun (name, content) =>
        (project.resultText name, content)) = _ at hlast
      rw [hlast] at hall
      exact ⟨hall, nofun⟩
    next last hlast =>
      change project.writeAll made ((project.results fs vectors checked).map fun (name, content) =>
        (project.resultText name, content)) = _ at hlast
      rw [hlast] at hall hfull
      exact ⟨hall, fun _ _ => List.take_of_length_le (hfull rfl)⟩

/-- What can become of a location when results are written at some paths. -/
inductive Affected (project : Project) (place : Location) (texts : List String) (a b : FileSystem)
    (location : Location) : Prop where
  | same (h : b.get? location = a.get? location)
  /-- The directory of results, if nothing stood there. -/
  | directory (hlocation : location = place ++ [buildDir]) (hnone : a.get? location = none)
      (hmade : b.get? location = some .directory)
  /-- A name of the file that the path of a result leads to, which was not there or a file before.
  -/
  | result {text : String} {target : Location} (hmem : text ∈ texts)
      (hleads : b.LeadsTo (project.path text) target) (hname : a.IsNameOf target location)
      (hold : a.get? location = none ∨ ∃ content traits, a.get? location = some (.file content traits))
      (hnew : ∃ content traits, b.get? location = some (.file content traits))

/-- Files are written after the directory of results was made. -/
theorem affected_of_writesAll (hplace : project.directory? fs = .ok place) {texts all : List String}
    (htexts : texts <+: all)
    (h : WritesAll (texts.map project.path)
      (fs.createDirAll (project.path (joinPath project.root buildDir)).segments).2 fs')
    (location : Location) : project.Affected place all fs fs' location := by
  have hmakes := fs.makesWay_createDirAll (project.path (joinPath project.root buildDir)).segments
  have hresults := createDirAll_results hplace
  generalize (fs.createDirAll _).2 = made at hmakes hresults h
  obtain hwritten | ⟨path, hmem, target, hleads, hname, hold, hnew⟩ := h.writes location
  · obtain hsame | ⟨hnone, hmade⟩ := hresults
    · exact .same (hwritten.trans (congrArg (·.get? location) hsame))
    · rw [hmade, get?_put fs _ _ (by simp)] at hwritten
      split at hwritten
      next heq => exact .directory heq (heq ▸ hnone) hwritten
      next => exact .same hwritten
  · obtain ⟨text, htext, rfl⟩ := List.mem_map.1 hmem
    have hkept : made.get? location = fs.get? location := by
      refine hmakes.get?_eq fun hmade => ?_
      rw [hmade] at hold
      simp at hold
    exact .result (htexts.subset htext) hleads (hmakes.sameNames.isNameOf_iff.1 hname) (hkept ▸ hold)
      hnew

theorem build_of_check_error {error : Error} (h : (project.check fs).1 = .error error) :
    ∃ log, project.build fs vectors = (.error error, log, fs) := by
  obtain ⟨log, hlog⟩ : ∃ log, project.check fs = (.error error, log) :=
    ⟨(project.check fs).2, Prod.ext h rfl⟩
  unfold build
  simp only [hlog]
  exact ⟨_, rfl⟩

theorem build_of_check_ok (h : (project.check fs).1 = .ok checked) :
    ∃ log, project.build fs vectors =
      ((project.write fs vectors checked).1, log, (project.write fs vectors checked).2) := by
  obtain ⟨log, hlog⟩ : ∃ log, project.check fs = (.ok checked, log) :=
    ⟨(project.check fs).2, Prod.ext h rfl⟩
  unfold build
  simp only [hlog]
  cases hwrite : project.write fs vectors checked with
  | mk result last => cases result <;> exact ⟨_, rfl⟩

/-- A project that passes the checks has a place. -/
theorem directory?_of_check (h : (project.check fs).1 = .ok checked) :
    ∃ place, project.directory? fs = .ok place := by
  obtain ⟨-, ⟨collection, hcollect, -⟩, -⟩ := check_iff.1 h
  rw [collect] at hcollect
  split at hcollect
  · cases hcollect
  next place hplace => exact ⟨place, hplace⟩

/-- **What a build changes.**  If the project does not pass the checks, that is the error, and
nothing is changed.  Otherwise, whether the build succeeds or fails, a location that is affected is
the directory of results, or a name of a file that the path of a result leads to.

If the name of the project has no slash, no links stand below the project, and none of its results
is also a file elsewhere, everything but the directory of results and three files in it stays, and
after a successful build these hold the results. -/
theorem build_footprint (project : Project) (fs : FileSystem) (vectors : Bytes × Bytes) :
    let built := project.build fs vectors
    (∀ error, (project.check fs).1 = .error error → built.1 = .error error ∧ built.2.2 = fs) ∧
    ∀ checked, (project.check fs).1 = .ok checked →
      let files := project.results fs vectors checked
      ∃ place, project.directory? fs = .ok place ∧
        (∀ location,
          project.Affected place (files.map fun file => project.resultText file.1) fs built.2.2 location) ∧
        (Ready project place fs → '/' ∉ (project.name fs checked.manifest).toList →
          (∀ location, location ≠ place ++ [buildDir] →
            (∀ file ∈ files, location ≠ place ++ [buildDir, file.1]) →
            built.2.2.get? location = fs.get? location) ∧
          ∀ output, built.1 = .ok output → ∀ file ∈ files,
            built.2.2.read (project.path (project.resultText file.1)) = .ok (Bytes.toArray file.2)) := by
  intro built
  refine ⟨fun error herror => ?_, fun checked hchecked => ?_⟩
  · obtain ⟨log, hbuild⟩ := @build_of_check_error project fs vectors error herror
    simp only [built, hbuild]
    exact ⟨trivial, trivial⟩
  intro files
  obtain ⟨log, hbuild⟩ := @build_of_check_ok project fs checked vectors hchecked
  obtain ⟨place, hplace⟩ := directory?_of_check hchecked
  obtain ⟨done, hdone, hwrite, hall⟩ := project.write_stops fs vectors checked
  simp only [built, hbuild]
  refine ⟨place, hplace, fun location => ?_, fun hready hname => ?_⟩
  · have hwritten := writesAll_of_writeAll hwrite
    rw [List.map_map] at hwritten
    have htexts := hdone.map fun file => project.resultText file.1
    exact affected_of_writesAll hplace htexts (by rw [List.map_map]; exact hwritten) location
  · have hresults := createDirAll_results hplace
    have hmade := hready.createDirAll (project.path (joinPath project.root buildDir)).segments
    generalize (fs.createDirAll _).2 = made at hwrite hresults hmade
    obtain ⟨hplain, hdistinct⟩ := plain_results vectors hname
    have hwritten := written_of_writeAll hmade (fun file hfile => hplain file (hdone.subset hfile))
      (hdistinct.sublist (hdone.sublist.map Prod.fst)) hwrite
    refine ⟨fun location hother hothers => ?_, fun output hok file hfile => ?_⟩
    · rw [hwritten.others location fun file hfile => hothers file (hdone.subset hfile)]
      obtain hsame | ⟨-, hput⟩ := hresults
      · rw [hsame]
      · rw [hput, get?_put fs _ _ (by simp), if_neg hother]
    · exact hwritten.read file (hall output hok ▸ hfile)

/-- A project with one script and the name that is given to it. -/
def namedHost (name : String) : FileSystem :=
  ⟨[(["board"], .directory), (["board", "Main.tont"], .plain "log: \"hello\"".toUTF8),
    (["board", "tontoo.json"], .plain ("\x7b\"name\": \"" ++ name ++ "\"\x7d").toUTF8)]⟩

def namedChecked (name : String) : Checked :=
  ⟨{ name := some name },
    .ofList [("Main.tont", "log: \"hello\""), ("tontoo.json", "\x7b\"name\": \"" ++ name ++ "\"\x7d")]⟩

theorem check_named {name : String} (h : name ∈ ["site", "../site", "site/site"]) :
    (boardProject.check (namedHost name)).1 = .ok (namedChecked name) := by
  have hplace : boardProject.directory? (namedHost name) = .ok ["board"] := rfl
  refine check_iff.2 ⟨?_, ⟨_, by rw [collect, hplace], ?_⟩, ?_, ?_⟩
  all_goals simp only [List.mem_cons, List.not_mem_nil, or_false] at h
  · rcases h with rfl | rfl | rfl <;> decide +kernel
  · -- the files stand in their order already
    rcases h with rfl | rfl | rfl
    all_goals
      rw [filesBelow, List.mergeSort_of_pairwise (by decide +kernel)]
      exact Dictionary.ext_entries (by decide +kernel)
  all_goals rcases h with rfl | rfl | rfl <;> decide +kernel

theorem ready_named (name : String) : Ready boardProject ["board"] (namedHost name) where
  unique := by
    have hnodup : [["board"], ["board", "Main.tont"], ["board", "tontoo.json"]].Nodup := by decide
    exact hnodup
  directory := rfl
  links := by
    intro names path hlink
    have hmem := mem_entries_of_get? hlink (by simp)
    simp [namedHost, Entry.plain] at hmem
  single := by
    intro names content traits hfile
    have hmem := mem_entries_of_get? hfile (by simp)
    simp [namedHost, buildDir] at hmem

/-- A name without a slash: nothing is affected but the directory of results and three files in it.
-/
theorem build_footprint_site :
    ∃ output log built, boardProject.build (namedHost "site") boardVectors = (.ok output, log, built) ∧
      ∀ location, location ≠ ["board", "build"] →
        (∀ name ∈ ["site.tontoo", "site_no_comments.tontoo", "site_source.zip"],
          location ≠ ["board", "build", name]) →
        built.get? location = (namedHost "site").get? location := by
  have hchecked := check_named (show "site" ∈ ["site", "../site", "site/site"] by decide)
  obtain ⟨log, hbuild⟩ := @build_of_check_ok boardProject (namedHost "site") (namedChecked "site")
    boardVectors hchecked
  obtain ⟨-, hfootprint⟩ := build_footprint boardProject (namedHost "site") boardVectors
  obtain ⟨place, hplace, -, hconfined⟩ := hfootprint (namedChecked "site") hchecked
  obtain rfl : ["board"] = place := Except.ok.inj ((ready_named "site").directory.symm.trans hplace)
  obtain ⟨hothers, -⟩ := hconfined (ready_named "site") (by decide +kernel)
  have hresults : ∀ file ∈ boardProject.results (namedHost "site") boardVectors (namedChecked "site"),
      file.1 ∈ ["site.tontoo", "site_no_comments.tontoo", "site_source.zip"] := by
    simp only [results, List.forall_mem_cons]
    decide +kernel
  have hwrite : (boardProject.write (namedHost "site") boardVectors (namedChecked "site")).1.toBool =
      true := by decide +kernel
  rw [hbuild] at hothers ⊢
  dsimp only at hothers
  generalize boardProject.write (namedHost "site") boardVectors (namedChecked "site") = result
    at hothers hwrite ⊢
  obtain ⟨⟨error⟩ | ⟨output⟩, built⟩ := result
  · cases hwrite
  · refine ⟨output, log, built, rfl, fun location hdirectory hnames => ?_⟩
    exact hothers location hdirectory fun file hfile => hnames file.1 (hresults file hfile)

/-- With a slash in its name a project is built beside the directory of results, or the build fails
when something was changed. -/
theorem build_of_slashed_name :
    (∃ output log built,
      boardProject.build (namedHost "../site") boardVectors = (.ok output, log, built) ∧
      (namedHost "../site").get? ["board", "site.tontoo"] = none ∧
      (built.get? ["board", "site.tontoo"]).isSome = true) ∧
    ∃ error log built,
      boardProject.build (namedHost "site/site") boardVectors = (.error error, log, built) ∧
      (namedHost "site/site").get? ["board", "build"] = none ∧
      (built.get? ["board", "build"]).isSome = true := by
  constructor
  · obtain ⟨log, hbuild⟩ := @build_of_check_ok boardProject (namedHost "../site")
      (namedChecked "../site") boardVectors (check_named (by decide))
    have hwrite : (boardProject.write (namedHost "../site") boardVectors
          (namedChecked "../site")).1.toBool = true ∧
        ((boardProject.write (namedHost "../site") boardVectors
          (namedChecked "../site")).2.get? ["board", "site.tontoo"]).isSome = true := by
      decide +kernel
    rw [hbuild]
    generalize boardProject.write (namedHost "../site") boardVectors (namedChecked "../site") = result
      at hwrite ⊢
    obtain ⟨⟨error⟩ | ⟨output⟩, built⟩ := result
    · cases hwrite.1
    · exact ⟨output, log, built, rfl, rfl, hwrite.2⟩
  · obtain ⟨log, hbuild⟩ := @build_of_check_ok boardProject (namedHost "site/site")
      (namedChecked "site/site") boardVectors (check_named (by decide))
    have hwrite : (boardProject.write (namedHost "site/site") boardVectors
          (namedChecked "site/site")).1.toBool = false ∧
        ((boardProject.write (namedHost "site/site") boardVectors
          (namedChecked "site/site")).2.get? ["board", "build"]).isSome = true := by
      decide +kernel
    rw [hbuild]
    generalize boardProject.write (namedHost "site/site") boardVectors (namedChecked "site/site") =
      result at hwrite ⊢
    obtain ⟨⟨error⟩ | ⟨output⟩, built⟩ := result
    · exact ⟨error, log, built, rfl, rfl, hwrite.2⟩
    · cases hwrite.1

end Project

end SiteScript
