import Mathlib.Control.Monad.Basic
import SiteScript.Proofs.Bundle
import SiteScript.Proofs.Project.Collecting
import SiteScript.Proofs.Sandbox

/-!
# SiteScript.Proofs.Project.Building

Building a project, and unpacking and building again what was built.

1. The paths of results lead into the directory of results below the project's place
   (`Placed.destination`), and it stays so when directories are made and files written
   (`Placed.keep`).
2. One result after another is written, under all names that its file has, and no other file is changed
   (`replaced_result`, `replaced_of_writeAll`).  So if no result is also another file that counts
   (`Separate`), the texts and the manifest are those there were (`hasText_rebuilt`,
   `manifest_rebuilt`).
3. If the project has no links and a plain name (`Orderly`), the bundle that was written opens as its
   texts, these unpack into the same tree again unless a path is too long, and a further build collects
   the same texts (`build_reproduces`).  A text that is also a result is lost for the further build
   (`build_not_reproduced`). -/

namespace SiteScript

open FileSystem

namespace Project

/-! ## Paths of results -/

/-- A path that is joined to another one leads on from it. -/
theorem segments_joinPath {project : Project} {base text : String} (hbase : base ≠ "")
    (htext : Text.startsWithChar '/' text.toList = false) :
    (project.path (joinPath base text)).segments =
      (project.path base).segments ++ segmentsOf text := by
  have hjoined : segmentsOf (joinPath base text) = segmentsOf base ++ segmentsOf text ∧
      Text.startsWithChar '/' (joinPath base text).toList =
        Text.startsWithChar '/' base.toList := by
    have hstart : ∀ more : String, Text.startsWithChar '/' (base ++ more).toList =
        Text.startsWithChar '/' base.toList := by
      intro more
      obtain ⟨c, rest, hrest⟩ := List.exists_cons_of_ne_nil
        (show base.toList ≠ [] by simpa using hbase)
      rw [String.toList_append, hrest]
      rfl
    rw [joinPath, htext, if_neg (by simp)]
    split
    next hslash =>
      refine ⟨?_, hstart text⟩
      have hlast : Text.endsWith ['/'] base.toList = true := by simpa [hbase] using hslash
      obtain ⟨init, hinit⟩ := List.getLast?_eq_some_iff.1 (endsWith_iff.1 hlast)
      have hsplit : base = String.ofList init ++ "/" := by
        apply String.toList_injective
        simp [hinit]
      have hbelow := Sandbox.segmentsOf_below (String.ofList init)
      have hempty := hbelow ""
      rw [String.append_empty] at hempty
      rw [hsplit, hbelow text, hempty]
      have hnothing : segmentsOf "" = [] := rfl
      rw [hnothing, List.append_nil]
    next =>
      rw [String.append_assoc]
      exact ⟨by rw [← String.append_assoc, Sandbox.segmentsOf_below], hstart _⟩
  rw [path, path, Path.ofText, Path.ofText, hjoined.1, hjoined.2, List.append_assoc]

/-- The text of the path of a file in the directory of results. -/
def resultText (project : Project) (name : String) : String :=
  joinPath (joinPath project.root buildDir) name

theorem plain_buildDir : IsPlain buildDir := ⟨by decide, by decide, by decide, by decide⟩

theorem plain_result {name : String} (hname : IsPlain name) :
    ∀ segment ∈ [buildDir, name], IsPlain segment := by
  intro segment hsegment
  obtain rfl | rfl : segment = buildDir ∨ segment = name := by simpa using hsegment
  · exact plain_buildDir
  · exact hname

theorem segments_resultText {project : Project} (hroot : project.root ≠ "") {name : String}
    (hname : IsPlain name) :
    (project.path (project.resultText name)).segments =
      (project.path project.root).segments ++ [buildDir, name] := by
  have hbuild : joinPath project.root buildDir ≠ "" := by
    rw [joinPath]
    split
    · decide
    · split <;> simp [hroot]
  have hstart : Text.startsWithChar '/' name.toList = false := by
    rw [Bool.eq_false_iff, ne_eq, Text.startsWithChar_iff]
    exact fun hhead => hname.slash (List.mem_of_head? hhead)
  have hsegments : segmentsOf buildDir = [buildDir] := by decide
  rw [resultText, segments_joinPath hbuild hstart, segments_joinPath hroot rfl, hname.segmentsOf,
    hsegments, List.append_assoc]
  rfl

/-- Where a project is. -/
theorem directory?_iff {project : Project} {fs : FileSystem} {place : Location} :
    project.directory? fs = .ok place ↔ project.root ≠ "" ∧
      fs.stat (project.path project.root) = .ok .directory ∧
      ∃ target, fs.destination (project.path project.root) = .ok target ∧
        target.location = place := by
  rw [directory?, locate?]
  by_cases hroot : project.root = ""
  · simp [hroot]
  · have hempty : project.root.isEmpty = false := by simpa using hroot
    cases hdestination : fs.destination (project.path project.root) with
    | error fault => simp [stat, hdestination, hempty]
    | ok target =>
        rcases fs.stat (project.path project.root) with fault | ⟨content, traits⟩ | _ | path <;>
          simp [hempty, hroot]

/-- A project stays where it is when its ways do. -/
theorem directory?_of_sameWays {project : Project} {fs fs' : FileSystem} {place : Location}
    (h : project.directory? fs = .ok place) (hways : SameWays fs fs') :
    project.directory? fs' = .ok place := by
  obtain ⟨hroot, hstat, target, hdestination, hplace⟩ := directory?_iff.1 h
  exact directory?_iff.2 ⟨hroot, hways.stat_directory hdestination hstat, target,
    hways.destination hdestination, hplace⟩

/-! ## Writing results -/

/-- A file system where a project has a place, and no links below it. -/
structure Placed (project : Project) (place : Location) (fs : FileSystem) : Prop where
  unique : fs.Unique
  directory : project.directory? fs = .ok place
  links : ∀ names path, fs.get? (place ++ names) ≠ some (.link path)

/-- A file system where a project has a place, no links below it, and no results that are also files
elsewhere. -/
structure Ready (project : Project) (place : Location) (fs : FileSystem) : Prop
    extends Placed project place fs where
  single : ∀ names content traits,
    fs.get? (place ++ buildDir :: names) = some (.file content traits) → traits.shared = none

/-- A project in a sound file system, without links below it, and with a name that is one segment. -/
structure Orderly (project : Project) (place : Location) (fs : FileSystem) : Prop where
  sound : fs.Sound
  directory : project.directory? fs = .ok place
  links : ∀ names path, fs.get? (place ++ names) ≠ some (.link path)
  name : ∀ manifest name, project.manifest fs = .ok manifest → manifest.name = some name →
    '/' ∉ name.toList

theorem Orderly.placed {project : Project} {place : Location} {fs : FileSystem}
    (h : Orderly project place fs) : Placed project place fs :=
  ⟨h.sound.unique, h.directory, h.links⟩

section Placed

variable {project : Project} {place : Location} {fs fs' : FileSystem} (h : Placed project place fs)

include h

/-- Paths below that of the project lead below its place. -/
theorem Placed.destination {path : Path} {names : Location} {target : Target} (hne : names ≠ [])
    (hplain : ∀ name ∈ names, IsPlain name)
    (hsegments : path.segments = (project.path project.root).segments ++ names)
    (htarget : fs.destination path = .ok target) :
    ∃ parent name, target = .name parent name ∧ parent ++ [name] = place ++ names := by
  obtain ⟨-, hstat, home, hhome, hplace⟩ := directory?_iff.1 h.directory
  have hdirectory := fun parent name => @get?_of_stat_directory _ _ _ hhome hstat parent name
  rw [FileSystem.destination, followPath] at hhome htarget
  split at hhome
  next => cases hhome
  split at htarget
  next => cases htarget
  obtain ⟨jump, hrest⟩ := follow_append hhome hdirectory true
  rw [hsegments, hrest names hne, hplace] at htarget
  exact location_of_followWith hne hplain h.links htarget

/-- What keeps the ways keeps this. -/
theorem Placed.keep (hunique : fs'.Unique) (hways : SameWays fs fs') : Placed project place fs' where
  unique := hunique
  directory := directory?_of_sameWays h.directory hways
  links := fun names path hlink => h.links names path ((hways.link _ path).2 hlink)

theorem Placed.createDirAll (segments : List String) :
    Placed project place (fs.createDirAll segments).2 :=
  h.keep (unique_createDirAll h.unique segments)
    (fs.makesWay_createDirAll segments).toExtends.sameWays

end Placed

section Ready

variable {project : Project} {place : Location} {fs fs' : FileSystem} (h : Ready project place fs)

include h

/-- No file gets another name when files are written, so results get none. -/
theorem Ready.keep (hplaced : Placed project place fs') (hnames : SameNames fs fs') :
    Ready project place fs' where
  toPlaced := hplaced
  single := by
    intro names content traits hget
    have hshared := hnames (place ++ buildDir :: names)
    rw [hget] at hshared
    refine Eq.trans hshared ?_
    rcases hfile : fs.get? (place ++ buildDir :: names) with _ | ⟨old, traits'⟩ | _ | path
    case some.file => exact h.single names old traits' hfile
    all_goals rfl

theorem Ready.createDirAll (segments : List String) :
    Ready project place (fs.createDirAll segments).2 :=
  h.keep (h.toPlaced.createDirAll segments) (fs.makesWay_createDirAll segments).sameNames

end Ready

/-- Where a result is to stand. -/
def resultPlace (place : Location) (name : String) : Location := place ++ [buildDir, name]

/-- Results were written, under all names of their files, and nothing else was changed. -/
structure Replaced (project : Project) (place : Location) (results : List (String × Bytes))
    (fs fs' : FileSystem) : Prop where
  placed : Placed project place fs'
  ways : SameWays fs fs'
  names : SameNames fs fs'
  read : ∀ result ∈ results,
    fs'.read (project.path (project.resultText result.1)) = .ok (Bytes.toArray result.2)
  new : ∀ result ∈ results, ∀ location, fs.IsNameOf (resultPlace place result.1) location →
    ∃ traits, fs'.get? location = some (.file (Bytes.toArray result.2) traits)
  others : ∀ location, (∀ result ∈ results, ¬ fs.IsNameOf (resultPlace place result.1) location) →
    fs'.get? location = fs.get? location

/-- Results that are not also each other. -/
def ApartIn (fs : FileSystem) (place : Location) (results : List String) : Prop :=
  results.Pairwise fun name other => ¬ fs.IsNameOf (resultPlace place name) (resultPlace place other)

instance (fs : FileSystem) (place : Location) (results : List String) :
    Decidable (ApartIn fs place results) :=
  inferInstanceAs (Decidable (List.Pairwise _ _))

section Replaced

variable {project : Project} {place : Location} {fs between fs' : FileSystem}
  {results : List (String × Bytes)}

/-- What is no name of a result is read as before. -/
theorem Replaced.read_other (h : Replaced project place results fs fs')
    (hplaced : Placed project place fs) {path : Path} {names : Location} (hne : names ≠ [])
    (hplain : ∀ name ∈ names, IsPlain name)
    (hsegments : path.segments = (project.path project.root).segments ++ names)
    (hother : ∀ result ∈ results, ¬ fs.IsNameOf (resultPlace place result.1) (place ++ names))
    {content : ByteArray} (hread : fs.read path = .ok content) : fs'.read path = .ok content := by
  cases hdestination : fs.destination path with
  | error fault =>
      rw [FileSystem.read, stat, hdestination] at hread
      cases hread
  | ok target =>
      obtain ⟨parent, name, rfl, hlocation⟩ :=
        hplaced.destination hne hplain hsegments hdestination
      have hstat : fs'.stat path = fs.stat path := by
        refine h.ways.stat_eq hdestination fun parent' name' htarget => ?_
        cases htarget
        rw [hlocation]
        exact h.others _ hother
      rw [FileSystem.read, hstat]
      exact hread

theorem replaced_nil (h : Placed project place fs) : Replaced project place [] fs fs :=
  ⟨h, .refl fs, .refl fs, nofun, nofun, fun _ _ => rfl⟩

/-- **One result is written**: its file has the content then, under all its names, and no other one is
changed. -/
theorem replaced_result (h : Placed project place fs) {name : String} (hname : IsPlain name)
    {content : Bytes}
    (hwrite : fs.write (project.path (project.resultText name)) (Bytes.toArray content) = .ok fs') :
    Replaced project place [(name, content)] fs fs' := by
  obtain ⟨-, parent, last, traits, hdestination, -, hoverwrites⟩ := overwrites_of_write hwrite
  obtain ⟨parent', last', heq, hlocation⟩ := h.destination (by simp) (plain_result hname)
    (segments_resultText (directory?_iff.1 h.directory).1 hname) hdestination
  cases heq
  rw [hlocation] at hoverwrites
  refine ⟨h.keep (unique_write h.unique hwrite) hoverwrites.sameWays, hoverwrites.sameWays,
    hoverwrites.sameNames, ?_, ?_, ?_⟩
  · rintro result hresult
    obtain rfl := List.mem_singleton.1 hresult
    obtain ⟨traits, hstat⟩ := stat_write hwrite
    rw [FileSystem.read, hstat]
  · rintro result hresult location hlocation
    obtain rfl := List.mem_singleton.1 hresult
    exact ⟨traits, hoverwrites.new location hlocation⟩
  · exact fun location hother => hoverwrites.others location (hother _ List.mem_cons_self)

/-- Results are written one after another. -/
theorem replaced_of_writeAll (h : Placed project place fs)
    (hplain : ∀ result ∈ results, IsPlain result.1) (hapart : ApartIn fs place (results.map Prod.fst))
    (hwrite : project.writeAll fs (results.map fun (name, content) =>
      (project.resultText name, content)) = (.ok (), fs')) :
    Replaced project place results fs fs' := by
  induction results generalizing fs with
  | nil =>
      cases hwrite
      exact replaced_nil h
  | cons result results ih =>
      obtain ⟨name, content⟩ := result
      obtain ⟨hname, hplain⟩ := List.forall_mem_cons.1 hplain
      obtain ⟨hnew, hapart⟩ := List.pairwise_cons.1 hapart
      rw [List.map_cons, writeAll] at hwrite
      split at hwrite
      next between hfirst =>
        have first := replaced_result h hname hfirst
        have hnames : ∀ {location other}, between.IsNameOf location other ↔
            fs.IsNameOf location other := first.names.isNameOf_iff
        have rest := ih first.placed hplain (hapart.imp fun hne => mt hnames.1 hne) hwrite
        -- no later result is written over a name of the first one
        have hkept : ∀ result ∈ results, ∀ location, fs.IsNameOf (resultPlace place name) location →
            ¬ between.IsNameOf (resultPlace place result.1) location := by
          intro result hresult location hlocation hother
          refine hnew result.1 (List.mem_map_of_mem hresult) ?_
          exact hlocation.trans (hnames.1 hother).symm
        refine ⟨rest.placed, first.ways.trans rest.ways, first.names.trans rest.names, ?_, ?_, ?_⟩
        · refine List.forall_mem_cons.2 ⟨?_, rest.read⟩
          refine rest.read_other first.placed (by simp) (plain_result hname)
            (segments_resultText (directory?_iff.1 h.directory).1 hname) (fun result hresult => ?_)
            (first.read _ List.mem_cons_self)
          exact hkept result hresult _ (.inl rfl)
        · refine List.forall_mem_cons.2 ⟨fun location hlocation => ?_, fun result hresult location
            hlocation => rest.new result hresult location (hnames.2 hlocation)⟩
          rw [rest.others location fun result hresult => hkept result hresult location hlocation]
          exact first.new _ List.mem_cons_self location hlocation
        · intro location hother
          obtain ⟨hfirst, hrest⟩ := List.forall_mem_cons.1 hother
          rw [rest.others location fun result hresult => mt hnames.1 (hrest result hresult),
            first.others location (by simpa using hfirst)]
      next => cases hwrite

/-- Results with single names are written at their places, and nothing else is changed. -/
structure Written (project : Project) (place : Location) (results : List (String × Bytes))
    (fs fs' : FileSystem) : Prop where
  ready : Ready project place fs'
  ways : SameWays fs fs'
  read : ∀ result ∈ results,
    fs'.read (project.path (project.resultText result.1)) = .ok (Bytes.toArray result.2)
  others : ∀ location, (∀ result ∈ results, location ≠ place ++ [buildDir, result.1]) →
    fs'.get? location = fs.get? location

theorem written_of_writeAll (h : Ready project place fs)
    (hplain : ∀ result ∈ results, IsPlain result.1) (hdistinct : (results.map Prod.fst).Nodup)
    (hwrite : project.writeAll fs (results.map fun (name, content) =>
      (project.resultText name, content)) = (.ok (), fs')) :
    Written project place results fs fs' := by
  have hsingle : ∀ name location, fs.IsNameOf (resultPlace place name) location ↔
      location = resultPlace place name := by
    intro name location
    refine isNameOf_of_single ?_
    rcases hfile : fs.get? (resultPlace place name) with _ | ⟨content, traits⟩ | _ | path
    case some.file => exact h.single [name] content traits hfile
    all_goals rfl
  have hapart : ApartIn fs place (results.map Prod.fst) := by
    refine hdistinct.imp fun {name other} hne hname => hne ?_
    have hsame := (hsingle name _).1 hname
    simpa [resultPlace] using hsame.symm
  have hreplaced := replaced_of_writeAll h.toPlaced hplain hapart hwrite
  refine ⟨h.keep hreplaced.placed hreplaced.names, hreplaced.ways, hreplaced.read,
    fun location hother => hreplaced.others location fun result hresult hname => ?_⟩
  exact hother result hresult ((hsingle result.1 location).1 hname)

end Replaced

/-! ## Whole builds -/

section Build

variable {project : Project} {fs fs' : FileSystem} {checked : Checked} {place : Location}

/-- What passes every check. -/
theorem check_iff : (project.check fs).1 = .ok checked ↔
    project.manifest fs = .ok checked.manifest ∧
      (∃ collection, project.collect fs = .ok collection ∧ collection.files = checked.files) ∧
      checked.files.size ≠ 0 ∧ checkScripts checked.files = .ok () := by
  obtain ⟨manifest, files⟩ := checked
  unfold check
  cases project.manifest fs with
  | error error => simp
  | ok manifest =>
      cases project.collect fs with
      | error error => simp
      | ok collection =>
          by_cases hempty : collection.files.size = 0
          · simp only [hempty, if_true]
            constructor
            · exact nofun
            · rintro ⟨-, ⟨_, heq, rfl⟩, hsize, -⟩
              cases heq
              exact absurd hempty hsize
          · cases hscripts : checkScripts collection.files with
            | error error =>
                simp only [hempty, hscripts, if_false]
                constructor
                · exact nofun
                · rintro ⟨-, ⟨_, heq, rfl⟩, -, hpassed⟩
                  cases heq
                  rw [hscripts] at hpassed
                  cases hpassed
            | ok passed =>
                simp only [hempty, hscripts, if_false]
                constructor
                · intro heq
                  cases heq
                  exact ⟨rfl, ⟨collection, rfl, rfl⟩, hempty, hscripts⟩
                · rintro ⟨hmanifest, ⟨_, heq, rfl⟩, -, -⟩
                  cases heq
                  cases hmanifest
                  rfl

/-- The names of the results of a build. -/
def resultNames (project : Project) (fs : FileSystem) (manifest : Manifest) : List String :=
  let name := project.name fs manifest
  [name ++ ".tontoo", name ++ "_no_comments.tontoo", name ++ "_source.zip"]

/-- The names and contents of the results of a build. -/
def results (project : Project) (fs : FileSystem) (vectors : Bytes × Bytes) (checked : Checked) :
    List (String × Bytes) :=
  let name := project.name fs checked.manifest
  [(name ++ ".tontoo", Bundle.encode vectors.1 checked.files),
    (name ++ "_no_comments.tontoo", Bundle.encodeDistributable vectors.2 checked.files),
    (name ++ "_source.zip", archive checked.files)]

theorem names_results (vectors : Bytes × Bytes) :
    (project.results fs vectors checked).map Prod.fst = project.resultNames fs checked.manifest := rfl

theorem bundle_mem_results (vectors : Bytes × Bytes) :
    (project.name fs checked.manifest ++ ".tontoo", Bundle.encode vectors.1 checked.files) ∈
      project.results fs vectors checked := by
  unfold results
  exact List.mem_cons_self

/-- What writing the results does. -/
theorem written_of_write {vectors : Bytes × Bytes} {output : Output}
    (h : project.write fs vectors checked = (.ok output, fs')) :
    ∃ made,
      fs.createDirAll (project.path (joinPath project.root buildDir)).segments = (.ok (), made) ∧
      project.writeAll made ((project.results fs vectors checked).map fun (name, content) =>
        (project.resultText name, content)) = (.ok (), fs') ∧
      output.bundle = project.resultText (project.name fs checked.manifest ++ ".tontoo") := by
  simp only [results, List.map_cons, List.map_nil]
  unfold Project.write at h
  dsimp only at h
  split at h
  next => cases h
  next made hmade =>
    split at h
    next => cases h
    next last hlast =>
      obtain ⟨houtput, rfl⟩ := Prod.mk.inj h
      exact ⟨made, hmade, hlast, by rw [← Except.ok.inj houtput, resultText]⟩

/-- What a build does: it checks the project, and writes its results. -/
theorem build_iff {vectors : Bytes × Bytes} {output : Output} :
    (∃ log, project.build fs vectors = (.ok output, log, fs')) ↔
      ∃ checked, (project.check fs).1 = .ok checked ∧
        project.write fs vectors checked = (.ok output, fs') := by
  unfold build
  constructor
  · rintro ⟨log, h⟩
    split at h
    next => cases (Prod.mk.inj h).1
    next checked log' hcheck =>
      split at h
      next => cases (Prod.mk.inj h).1
      next output' last hwrite =>
        obtain ⟨houtput, hrest⟩ := Prod.mk.inj h
        rw [← Except.ok.inj houtput, ← (Prod.mk.inj hrest).2]
        exact ⟨checked, by rw [hcheck], hwrite⟩
  · rintro ⟨checked, hcheck, hwrite⟩
    obtain ⟨log, hlog⟩ : ∃ log, project.check fs = (.ok checked, log) :=
      ⟨(project.check fs).2, Prod.ext hcheck rfl⟩
    simp only [hlog, hwrite]
    exact ⟨_, rfl⟩

theorem plain_append {name suffix : String} (hname : '/' ∉ name.toList)
    (hsuffix : '/' ∉ suffix.toList) (hlong : 2 < suffix.length) : IsPlain (name ++ suffix) := by
  have hlonger : 2 < (name ++ suffix).length := by
    rw [String.length_append]
    exact Nat.lt_of_lt_of_le hlong (Nat.le_add_left _ _)
  have hne : ∀ short : String, short.length ≤ 2 → name ++ suffix ≠ short := by
    rintro short hshort rfl
    exact Nat.not_lt.2 hshort hlonger
  exact ⟨hne "" (by decide), by simp [hname, hsuffix], hne "." (by decide), hne ".." (by decide)⟩

/-- The names of results are plain, and three. -/
theorem plain_results (vectors : Bytes × Bytes)
    (hname : '/' ∉ (project.name fs checked.manifest).toList) :
    (∀ result ∈ project.results fs vectors checked, IsPlain result.1) ∧
      ((project.results fs vectors checked).map Prod.fst).Nodup := by
  constructor
  · simp only [results, List.forall_mem_cons, List.not_mem_nil, false_imp_iff, implies_true, and_true]
    exact ⟨plain_append hname (by decide) (by decide), plain_append hname (by decide) (by decide),
      plain_append hname (by decide) (by decide)⟩
  · simp [results, String.ext_iff]

/-- The name of a project is one segment, if that in its manifest is. -/
theorem slash_name (hplace : project.directory? fs = .ok place)
    (hnames : ∀ name ∈ place, IsName name) {manifest : Manifest}
    (hname : ∀ name, manifest.name = some name → '/' ∉ name.toList) :
    '/' ∉ (project.name fs manifest).toList := by
  obtain ⟨hroot, hstat, target, hdestination, htarget⟩ := directory?_iff.1 hplace
  have hlocate : fs.locate? (project.path project.root) = some place := by
    rw [locate?, hstat, hdestination]
    exact congrArg some htarget
  unfold Project.name
  split
  next name hfilter => exact hname name (Option.filter_eq_some_iff.1 hfilter).1
  next =>
    have hempty : project.root.isEmpty = false := by simpa using hroot
    simp only [hempty, hlocate]
    cases hlast : place.getLast? with
    | none => simp [hlast]
    | some name =>
        simpa [hlast] using (hnames name (List.mem_of_getLast? hlast)).slash

/-- No result of a build is also another one, or also a file of the project that is not left out. -/
structure Separate (fs : FileSystem) (place : Location) (results : List String) : Prop where
  apart : ApartIn fs place results
  files : ∀ name ∈ results, ∀ names, ¬ LeftOut names →
    ¬ fs.IsNameOf (resultPlace place name) (place ++ names)

/-- **What a build leaves**: directories on the way to the results, and the results, if these are not
also each other; the bundle opens as the files that were checked. -/
theorem replaced_of_write {vectors : Bytes × Bytes} {output : Output}
    (hplaced : Placed project place fs) (hapart : ApartIn fs place (project.resultNames fs checked.manifest))
    (hname : '/' ∉ (project.name fs checked.manifest).toList)
    (hvector : vectors.1.length = Bundle.vectorSize)
    (hwrite : project.write fs vectors checked = (.ok output, fs')) :
    ∃ made, MakesWay (project.path (joinPath project.root buildDir)).segments fs made ∧
      Placed project place made ∧
      Replaced project place (project.results fs vectors checked) made fs' ∧
      ∃ bundle, fs'.read (project.path output.bundle) = .ok bundle ∧
        Bundle.decode (Bytes.ofArray bundle) = .ok checked.files := by
  obtain ⟨made, hmade, hall, hbundle⟩ := written_of_write hwrite
  have hmakes := fs.makesWay_createDirAll (project.path (joinPath project.root buildDir)).segments
  have hhome := hplaced.createDirAll (project.path (joinPath project.root buildDir)).segments
  rw [hmade] at hmakes hhome
  have hreplaced := replaced_of_writeAll hhome (plain_results vectors hname).1
    (hapart.imp fun hne => mt hmakes.sameNames.isNameOf_iff.1 hne) hall
  refine ⟨made, hmakes, hhome, hreplaced, Bytes.toArray (Bundle.encode vectors.1 checked.files), ?_, ?_⟩
  · rw [hbundle]
    have hread := hreplaced.read _ (bundle_mem_results vectors)
    exact hread
  · rw [Bytes.ofArray_toArray]
    exact Bundle.decode_encode hvector checked.files

section Rebuilt

variable {made : FileSystem} {results : List (String × Bytes)}
  (hmakes : MakesWay (project.path (joinPath project.root buildDir)).segments fs made)
  (hreplaced : Replaced project place results made fs')
  (hother : ∀ result ∈ results, ∀ names, ¬ LeftOut names →
    ¬ fs.IsNameOf (resultPlace place result.1) (place ++ names))

include hmakes hreplaced hother

/-- Results are no files that count, so the texts are those there were. -/
theorem hasText_rebuilt (names : Location) (text : String) :
    HasText fs' place names text ↔ HasText fs place names text := by
  refine and_congr_right fun _ => and_congr_right fun hleft => ?_
  have hfile : ∀ content traits, fs'.get? (place ++ names) = some (.file content traits) ↔
      fs.get? (place ++ names) = some (.file content traits) := by
    intro content traits
    rw [hreplaced.others _ fun result hresult =>
      mt hmakes.sameNames.isNameOf_iff.1 (hother result hresult names hleft)]
    rcases hmakes (place ++ names) with hsame | ⟨hnone, hdirectory, -⟩
    · rw [hsame]
    · simp [hnone, hdirectory]
  simp only [hfile]

/-- The manifest is no result either. -/
theorem manifest_rebuilt (hplaced : Placed project place made) {manifest : Manifest}
    (h : project.manifest fs = .ok manifest) : project.manifest fs' = .ok manifest := by
  have hroot := (directory?_iff.1 hplaced.directory).1
  have hplain : IsPlain Manifest.fileName := ⟨by decide, by decide, by decide, by decide⟩
  have hsegments := @segments_joinPath project _ _ hroot
    (show Text.startsWithChar '/' Manifest.fileName.toList = false from rfl)
  rw [hplain.segmentsOf] at hsegments
  have hcounts : ¬ LeftOut [Manifest.fileName] := by
    rw [← isSkipped_iff]
    decide
  unfold Project.manifest at h ⊢
  split at h
  next => cases h
  next text htext =>
    obtain ⟨content, hread, hcontent⟩ := readText_eq_ok.1 htext
    have hread' := hreplaced.read_other hplaced (by simp) (by simpa using hplain) hsegments
      (fun result hresult =>
        mt hmakes.sameNames.isNameOf_iff.1 (hother result hresult _ hcounts))
      (hmakes.toExtends.read hread)
    rw [readText_eq_ok.2 ⟨content, hread', hcontent⟩]
    exact h

/-- **What is collected again are the same files.** -/
theorem collect_rebuilt
    (hnames : ∀ names text, HasText fs place names text → ∀ name ∈ place ++ names, IsName name)
    {files : FileMap} (hfiles : ∀ path text, files.get? path = some text ↔
      ∃ names, path = joinSegments names ∧ HasText fs place names text) :
    ∃ again, project.collect fs' = .ok again ∧ again.files = files := by
  have hrebuilt := hasText_rebuilt hmakes hreplaced hother
  obtain ⟨again, hcollect, hagain⟩ := get?_collect hreplaced.placed.directory hreplaced.placed.unique
    (fun names text htext => hnames names text ((hrebuilt names text).1 htext))
  refine ⟨again, hcollect, Dictionary.ext_get? fun path => Option.ext fun text => ?_⟩
  rw [hagain, hfiles]
  simp only [hrebuilt]

end Rebuilt

/-- What is checked in a sound file system are the texts below the place, and there is one. -/
theorem texts_of_check (hsound : fs.Sound) (hplace : project.directory? fs = .ok place)
    (hcheck : (project.check fs).1 = .ok checked) :
    (∀ path text, checked.files.get? path = some text ↔
      ∃ names, path = joinSegments names ∧ HasText fs place names text) ∧
      ∀ name ∈ place, IsName name := by
  obtain ⟨-, ⟨collection, hcollect, hcollected⟩, hsize, -⟩ := check_iff.1 hcheck
  have hnames := fun names text => @names_of_hasText fs hsound place names text
  obtain ⟨collection', hcollect', hfiles⟩ := get?_collect hplace hsound.unique hnames
  rw [hcollect] at hcollect'
  cases hcollect'
  rw [hcollected] at hfiles
  refine ⟨hfiles, ?_⟩
  obtain ⟨⟨path, text⟩, hentry⟩ := List.exists_mem_of_length_pos (Nat.pos_of_ne_zero hsize)
  obtain ⟨names, -, htext⟩ := (hfiles path text).1 (Dictionary.mem_entries_iff.1 hentry)
  exact fun name hname => hnames names text htext name (List.mem_append_left names hname)

/-- **A build can be unpacked again.**  When a project is built whose directory has no links below
it, whose manifest has no slash in its name (`Orderly`), and whose results are not also each other or
files of the project that count (`Separate`), the bundle that was written opens as the texts of the
project, each under the path of its names, but for those left out.  Where nothing stands these files unpack
if and only if no path gets too long for the system, and there are then exactly they and the directories
above them.  Built again, with the results of the first build below its directory, the project passes the
checks as before and has the same files. -/
theorem build_reproduces {vectors : Bytes × Bytes} {output : Output} {log : List LogLine}
    (h : Orderly project place fs)
    (hseparate : ∀ manifest, project.manifest fs = .ok manifest →
      Separate fs place (project.resultNames fs manifest))
    (hvector : vectors.1.length = Bundle.vectorSize)
    (hbuild : project.build fs vectors = (.ok output, log, fs')) :
    ∃ bundle files, fs'.read (project.path output.bundle) = .ok bundle ∧
      Bundle.decode (Bytes.ofArray bundle) = .ok files ∧
      (∀ path text, files.get? path = some text ↔
        ∃ names, path = joinSegments names ∧ HasText fs place names text) ∧
      (∀ host root, Workspace.Vacant host root →
        ((Workspace.materialize root host files).1 = .ok () ↔
          ∀ names text, Workspace.HasFile files names text → Fits (root ++ names)) ∧
        ((Workspace.materialize root host files).1 = .ok () →
          Workspace.Unpacked root host files (Workspace.materialize root host files).2)) ∧
      (project.check fs').1 = (project.check fs).1 ∧
      ∃ again, project.collect fs' = .ok again ∧ again.files = files := by
  obtain ⟨checked, hcheck, hwrite⟩ := build_iff.1 ⟨log, hbuild⟩
  obtain ⟨hmanifest, -, hsize, hscripts⟩ := check_iff.1 hcheck
  obtain ⟨hfiles, hhome⟩ := texts_of_check h.sound h.directory hcheck
  obtain ⟨hapart, hother⟩ := hseparate checked.manifest hmanifest
  obtain ⟨made, hmakes, hmade, hreplaced, bundle, hread, hdecode⟩ :=
    replaced_of_write h.placed hapart
      (slash_name h.directory hhome (fun name => h.name _ name hmanifest)) hvector hwrite
  have hresults : ∀ result ∈ project.results fs vectors checked, ∀ names, ¬ LeftOut names →
      ¬ fs.IsNameOf (resultPlace place result.1) (place ++ names) := fun result hresult =>
    hother result.1 (names_results vectors ▸ List.mem_map_of_mem hresult)
  obtain ⟨again, hagain, hsame⟩ := collect_rebuilt hmakes hreplaced hresults
    (fun names text => @names_of_hasText fs h.sound place names text) hfiles
  refine ⟨bundle, checked.files, hread, hdecode, hfiles, fun host root hvacant => ?_, ?_, again, hagain,
    hsame⟩
  · exact (isTreeMap_of_collect h.sound hfiles).materialize_iff hvacant
  · rw [hcheck]
    exact check_iff.2 ⟨manifest_rebuilt hmakes hreplaced hresults hmade hmanifest,
      ⟨again, hagain, hsame⟩, hsize, hscripts⟩

end Build

/-- A project in a directory of its own, with an earlier result, a directory of other tools, a file
that is no text, and a directory that has the name of the results below another one. -/
def boardHost : FileSystem :=
  ⟨[(["board"], .directory),
    (["board", "Main.tont"], .plain "log: \"hello\"".toUTF8),
    (["board", "build"], .directory),
    (["board", "build", "old.txt"], .plain "three".toUTF8),
    (["board", "pages"], .directory),
    (["board", "pages", ".git"], .directory),
    (["board", "pages", ".git", "config"], .plain "two".toUTF8),
    (["board", "pages", "build"], .directory),
    (["board", "pages", "build", "index.html"], .plain "one".toUTF8),
    (["board", "pages", "icon.png"], .plain ⟨#[0x89, 0x50]⟩),
    (["board", "tontoo.json"], .plain "\x7b\"name\": \"board\"\x7d".toUTF8)]⟩

def boardProject : Project := ⟨[], "board"⟩

def boardFiles : FileMap :=
  .ofList [("Main.tont", "log: \"hello\""), ("pages/build/index.html", "one"),
    ("tontoo.json", "\x7b\"name\": \"board\"\x7d")]

def boardVectors : Bytes × Bytes := (List.replicate 16 1, List.replicate 16 2)

theorem vacant_empty {name : String} (hname : IsName name) : Workspace.Vacant .empty [name] := by
  refine ⟨by simp, by simpa using hname, fun above habove hne => ?_, fun names => rfl⟩
  have habove' : above <+: [] := (List.prefix_concat_iff.1 habove).resolve_left hne
  rw [List.prefix_nil.1 habove']
  rfl

/-- A project that is orderly and passes the checks, and whose results are written. -/
structure Builds (project : Project) (place : Location) (fs : FileSystem) (vectors : Bytes × Bytes)
    (checked : Checked) : Prop where
  orderly : Orderly project place fs
  check : (project.check fs).1 = .ok checked
  build : ∃ output log built, project.build fs vectors = (.ok output, log, built) ∧
    project.write fs vectors checked = (.ok output, built)

section Builds

variable {project : Project} {place : Location} {fs : FileSystem} {vectors : Bytes × Bytes}
  {checked : Checked}

/-- A project that passes the checks is built if its results can be written. -/
theorem exists_build (hcheck : (project.check fs).1 = .ok checked)
    (hwrite : (project.write fs vectors checked).1.toBool = true) :
    ∃ output log built, project.build fs vectors = (.ok output, log, built) ∧
      project.write fs vectors checked = (.ok output, built) := by
  cases hwritten : project.write fs vectors checked with
  | mk result built =>
      rw [hwritten] at hwrite
      cases result with
      | error error => cases hwrite
      | ok output =>
          obtain ⟨log, hbuild⟩ := build_iff.2 ⟨checked, hcheck, hwritten⟩
          exact ⟨output, log, built, hbuild, rfl⟩

/-- What there is to be found out about a project, so that it builds. -/
theorem builds_of_entries (hplace : project.directory? fs = .ok place)
    (hmanifest : project.manifest fs = .ok checked.manifest)
    (hname : ∀ name, checked.manifest.name = some name → '/' ∉ name.toList)
    (hsound : fs.Sound) (hlinks : ∀ entry ∈ fs.entries, ∀ path, entry.2 ≠ .link path)
    (hcollect : ∃ collection, project.collect fs = .ok collection ∧ collection.files = checked.files)
    (hsize : checked.files.size ≠ 0) (hscripts : checkScripts checked.files = .ok ())
    (hwrite : (project.write fs vectors checked).1.toBool = true) :
    Builds project place fs vectors checked := by
  have hcheck := check_iff.2 ⟨hmanifest, hcollect, hsize, hscripts⟩
  refine ⟨⟨hsound, hplace, fun names path hget => ?_, fun manifest name h => ?_⟩, hcheck,
    exists_build hcheck hwrite⟩
  · by_cases hne : place ++ names = []
    · rw [hne] at hget
      cases hget
    · exact hlinks _ (mem_entries_of_get? hget hne) path rfl
  · rw [hmanifest] at h
    exact Except.ok.inj h ▸ hname name

end Builds

theorem builds_board : Builds boardProject ["board"] boardHost boardVectors
    ⟨{ name := some "board" }, boardFiles⟩ := by
  have hplace : boardProject.directory? boardHost = .ok ["board"] := by decide +kernel
  refine builds_of_entries hplace (by decide +kernel) (by simp)
    (sound_of_entries (by decide +kernel) (by decide +kernel) (by decide +kernel))
    (by simp [boardHost, Entry.plain]) ⟨_, by rw [collect, hplace], ?_⟩ (by decide +kernel)
    (by decide +kernel) (by decide +kernel)
  -- the files stand in their order already
  rw [filesBelow, List.mergeSort_of_pairwise (by decide +kernel)]
  exact Dictionary.ext_entries (by decide +kernel)

/-- The results of the board are no other files, as no file there has another name. -/
theorem separate_board : Separate boardHost ["board"]
    (boardProject.resultNames boardHost { name := some "board" }) := by
  have hsingle : ∀ name other, boardHost.IsNameOf (resultPlace ["board"] name) other ↔
      other = resultPlace ["board"] name := by
    intro name other
    refine isNameOf_of_single ?_
    have hplain : ∀ entry ∈ boardHost.entries, entry.2.shared? = none := by decide +kernel
    cases hget : boardHost.get? (resultPlace ["board"] name) with
    | none => rfl
    | some entry => exact hplain _ (mem_entries_of_get? hget (by simp [resultPlace]))
  refine ⟨?_, fun name _ names hcounts hsame => ?_⟩
  · have hdistinct : (boardProject.resultNames boardHost { name := some "board" }).Nodup := by
      decide +kernel
    refine hdistinct.imp fun hne hsame => hne ?_
    simpa [resultPlace] using ((hsingle _ _).1 hsame).symm
  · refine hcounts (.inl ⟨[name], by simp, ?_⟩)
    exact List.append_cancel_left ((hsingle _ _).1 hsame)

theorem build_reproduces_board :
    ∃ output log built bundle,
      boardProject.build boardHost boardVectors = (.ok output, log, built) ∧
      built.read (boardProject.path output.bundle) = .ok bundle ∧
      Bundle.decode (Bytes.ofArray bundle) = .ok boardFiles ∧
      Workspace.Unpacked ["run"] .empty boardFiles (Workspace.materialize ["run"] .empty boardFiles).2 ∧
      ∃ again, boardProject.collect built = .ok again ∧ again.files = boardFiles := by
  obtain ⟨output, log, built, hbuild, -⟩ := builds_board.build
  have hseparate : ∀ manifest, boardProject.manifest boardHost = .ok manifest →
      Separate boardHost ["board"] (boardProject.resultNames boardHost manifest) := by
    intro manifest h
    rw [(check_iff.1 builds_board.check).1] at h
    obtain rfl := Except.ok.inj h
    exact separate_board
  obtain ⟨bundle, files, hread, hdecode, -, hunpack, hcheck, again, hagain, hsame⟩ :=
    build_reproduces builds_board.orderly hseparate (by decide) hbuild
  -- the files are those that were checked
  obtain rfl : files = boardFiles := by
    obtain ⟨-, ⟨collection, hcollect, hcollected⟩, -⟩ :=
      check_iff.1 (hcheck.trans builds_board.check)
    rw [hagain] at hcollect
    obtain rfl := Except.ok.inj hcollect
    exact hsame.symm.trans hcollected
  have hfits : ∀ names text, Workspace.HasFile boardFiles names text → Fits (["run"] ++ names) := by
    rintro names text ⟨hnames, hget⟩
    have hpaths : ∀ entry ∈ boardFiles.entries, Fits (["run"] ++ segmentsOf entry.1) := by
      decide +kernel
    have hpath := hpaths _ (Dictionary.mem_entries_iff.2 hget)
    rwa [segmentsOf_joinSegments hnames] at hpath
  obtain ⟨hiff, htree⟩ := hunpack .empty ["run"] (vacant_empty (by decide))
  exact ⟨output, log, built, bundle, hbuild, hread, hdecode, htree (hiff.2 hfits), again, hagain, hsame⟩

/-! ## Builds that are not reproduced -/

/-- A file that is also a result of an earlier build. -/
def linkedEntry : Entry := .file "one".toUTF8 { shared := some 1 }

/-- A project with a file that is also a result of an earlier build. -/
def linkedHost : FileSystem :=
  ⟨[(["board"], .directory), (["board", "build"], .directory),
    (["board", "build", "board.tontoo"], linkedEntry), (["board", "notes.txt"], linkedEntry),
    (["board", "tontoo.json"], .plain "\x7b\"name\": \"board\"\x7d".toUTF8)]⟩

def linkedFiles : FileMap :=
  .ofList [("notes.txt", "one"), ("tontoo.json", "\x7b\"name\": \"board\"\x7d")]

theorem builds_linked : Builds boardProject ["board"] linkedHost boardVectors
    ⟨{ name := some "board" }, linkedFiles⟩ := by
  have hplace : boardProject.directory? linkedHost = .ok ["board"] := by decide +kernel
  refine builds_of_entries hplace (by decide +kernel) (by simp)
    (sound_of_entries (by decide +kernel) (by decide +kernel) (by decide +kernel))
    (by simp [linkedHost, linkedEntry, Entry.plain]) ⟨_, by rw [collect, hplace], ?_⟩ (by decide +kernel)
    (by decide +kernel) (by decide +kernel)
  rw [filesBelow, List.mergeSort_of_pairwise (by decide +kernel)]
  exact Dictionary.ext_entries (by decide +kernel)

/-- So many directories, each in the one before. -/
def nestedHost (depth : Nat) : FileSystem :=
  ⟨(List.range depth).map fun above => (List.replicate (above + 1) "a", .directory)⟩

theorem vacant_nestedHost (depth : Nat) :
    Workspace.Vacant (nestedHost depth) (List.replicate (depth + 1) "a") where
  ne_nil := by simp
  names := by
    intro name hname
    rw [List.eq_of_mem_replicate hname]
    decide
  above := by
    intro above hpre hne
    have hunique : FileSystem.Unique (nestedHost depth) := by
      rw [FileSystem.Unique, nestedHost, List.map_map]
      refine List.nodup_range.map fun first second heq => ?_
      have hlength := congrArg List.length heq
      simpa using hlength
    obtain ⟨hle, heq⟩ := List.prefix_replicate_iff.1 hpre
    generalize above.length = length at hle heq
    subst heq
    cases length with
    | zero => rfl
    | succ n =>
        have hlt : n < depth := Nat.lt_of_le_of_ne (Nat.le_of_succ_le_succ hle) fun heq => hne (by rw [heq])
        exact (hunique.mem_entries_iff (by simp)).1
          (List.mem_map.2 ⟨n, List.mem_range.2 hlt, rfl⟩)
  nothing := by
    intro names
    cases hget : (nestedHost depth).get? (List.replicate (depth + 1) "a" ++ names) with
    | none => rfl
    | some entry =>
        have hmem := mem_entries_of_get? hget (by simp)
        obtain ⟨above, habove, heq⟩ := List.mem_map.1 hmem
        have hlength := congrArg (List.length ∘ Prod.fst) heq
        have hlt := List.mem_range.1 habove
        simp at hlength
        omega

/-- The notes are overwritten with a bundle. -/
theorem collect_linked {output : Output} {built : FileSystem}
    (hwrite : boardProject.write linkedHost boardVectors ⟨{ name := some "board" }, linkedFiles⟩ =
      (.ok output, built)) :
    (∃ bundle, built.read (boardProject.path output.bundle) = .ok bundle ∧
      Bundle.decode (Bytes.ofArray bundle) = .ok linkedFiles) ∧
    ∃ again, boardProject.collect built = .ok again ∧ again.files ≠ linkedFiles := by
  obtain ⟨made, hmakes, -, hreplaced, hbundle⟩ :=
    replaced_of_write builds_linked.orderly.placed (by decide +kernel) (by decide +kernel) (by decide)
      hwrite
  obtain ⟨again, hagain, -⟩ := exists_collect hreplaced.placed.directory
  refine ⟨hbundle, again, hagain, fun hsame => ?_⟩
  obtain ⟨names, hnames, htext⟩ := hasText_of_collect hreplaced.placed.directory
    hreplaced.placed.unique hagain (show again.files.get? "notes.txt" = some "one" by
      rw [hsame]
      decide +kernel)
  -- the path has no slash, so it is one name
  obtain rfl : ["notes.txt"] = names := by
    match names with
    | [] => exact absurd hnames (by decide)
    | [name] => rw [hnames, joinSegments_singleton]
    | first :: second :: rest =>
        have hslash : '/' ∈ (joinSegments (first :: second :: rest)).toList := by
          rw [joinSegments_cons_cons]
          simp
        rw [← hnames] at hslash
        exact absurd hslash (by decide)
  obtain ⟨-, -, content, traits, hget, hcontent⟩ := htext
  obtain ⟨traits', hget'⟩ := hreplaced.new _ (bundle_mem_results boardVectors) ["board", "notes.txt"]
    (hmakes.sameNames.isNameOf_iff.2 (by decide +kernel))
  obtain ⟨rfl, -⟩ := Entry.file.inj (Option.some.inj (hget.symm.trans hget'))
  -- what is in the notes cannot both open as a bundle and be what was noted
  have hopens := @Bundle.decode_encode boardVectors.1 (by decide) linkedFiles
  have hnoted := Bytes.fromUTF8?_eq_some_iff.1 hcontent
  rw [← Bytes.ofArray_toArray (Bundle.encode _ _), hnoted] at hopens
  have hshut : (Bundle.decode (Bytes.ofArray "one".toUTF8)).toBool = false := by decide +kernel
  rw [hopens] at hshut
  cases hshut

theorem fits_nested : Fits (List.replicate 2040 "a") := by
  have hsize := utf8ByteSize_joinSegments_replicate "a" 2039 (show ["a"] ≠ [] by decide)
  rw [← List.replicate_succ'] at hsize
  have hname : ("a" : String).utf8ByteSize = 1 := rfl
  rw [joinSegments_singleton, hname] at hsize
  simp only [Fits, Path.ofLocation, Path.text, String.utf8ByteSize_append, hsize]
  decide

/-- The files of the board do not unpack where their paths get too long. -/
theorem materialize_nested :
    (Workspace.materialize (List.replicate 2040 "a") (nestedHost 2039) boardFiles).1 ≠ .ok () := by
  intro hok
  have hfile : Workspace.HasFile boardFiles ["pages", "build", "index.html"] "one" :=
    ⟨by decide, by decide +kernel⟩
  have hfits := Workspace.fits_of_materialize hok hfile
  have hsize := utf8ByteSize_joinSegments_replicate "a" 2040
    (show ["pages", "build", "index.html"] ≠ [] by decide)
  have hmore : (joinSegments ["pages", "build", "index.html"]).utf8ByteSize = 22 := by decide
  have hname : ("a" : String).utf8ByteSize = 1 := rfl
  rw [hmore, hname] at hsize
  simp only [Fits, Path.ofLocation, Path.text, String.utf8ByteSize_append, hsize] at hfits
  exact absurd hfits (by decide)

/-- **Not every build is reproduced.**  A file of the project that is also a result of an earlier build
is overwritten with that result, so a further build does not collect the same files.  And the files of
a bundle do not unpack where their paths get too long for the system. -/
theorem build_not_reproduced :
    (Orderly boardProject ["board"] linkedHost ∧ ∃ output log built bundle again,
      boardProject.build linkedHost boardVectors = (.ok output, log, built) ∧
      built.read (boardProject.path output.bundle) = .ok bundle ∧
      Bundle.decode (Bytes.ofArray bundle) = .ok linkedFiles ∧
      boardProject.collect built = .ok again ∧ again.files ≠ linkedFiles) ∧
    Orderly boardProject ["board"] boardHost ∧ ∃ output log built bundle,
      boardProject.build boardHost boardVectors = (.ok output, log, built) ∧
      built.read (boardProject.path output.bundle) = .ok bundle ∧
      Bundle.decode (Bytes.ofArray bundle) = .ok boardFiles ∧
      Workspace.Vacant (nestedHost 2039) (List.replicate 2040 "a") ∧
      Fits (List.replicate 2040 "a") ∧
      (Workspace.materialize (List.replicate 2040 "a") (nestedHost 2039) boardFiles).1 ≠ .ok () := by
  constructor
  · obtain ⟨output, log, built, hbuild, hwrite⟩ := builds_linked.build
    obtain ⟨⟨bundle, hread, hdecode⟩, again, hagain, hother⟩ := collect_linked hwrite
    exact ⟨builds_linked.orderly, output, log, built, bundle, again, hbuild, hread, hdecode, hagain, hother⟩
  · obtain ⟨output, log, built, hbuild, hwrite⟩ := builds_board.build
    obtain ⟨-, -, -, -, bundle, hread, hdecode⟩ :=
      replaced_of_write builds_board.orderly.placed separate_board.apart
        (by decide +kernel) (by decide) hwrite
    exact ⟨builds_board.orderly, output, log, built, bundle, hbuild, hread, hdecode,
      vacant_nestedHost 2039, fits_nested, materialize_nested⟩

end Project

end SiteScript
