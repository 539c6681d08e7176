import SiteScript.Project
import SiteScript.Proofs.Unpacking

/-!
# SiteScript.Proofs.Project.Collecting

What a project is made of.

1. What is collected are the texts below the project's directory that are not left out, each under
   the path of its names (`get?_collect`).
2. They are the files of a tree, so they can be unpacked (`isTreeMap_of_collect`). -/

namespace SiteScript

open FileSystem

namespace Project

/-! ## Collecting -/

/-- What is not collected: what is below the directory of results at the top, and what is below a
directory of other tools anywhere. -/
def LeftOut (names : Location) : Prop :=
  (∃ below, below ≠ [] ∧ names = "build" :: below) ∨
    ∃ above directory below, directory ∈ [".git", "node_modules"] ∧ below ≠ [] ∧
      names = above ++ directory :: below

/-- There is a text below a place, at names that are not left out. -/
def HasText (fs : FileSystem) (place names : Location) (text : String) : Prop :=
  names ≠ [] ∧ ¬ LeftOut names ∧ ∃ content traits,
    fs.get? (place ++ names) = some (.file content traits) ∧ String.fromUTF8? content = some text

theorem names_of_hasText {fs : FileSystem} (hsound : fs.Sound) {place names : Location}
    {text : String} (h : HasText fs place names text) : ∀ name ∈ place ++ names, IsName name := by
  obtain ⟨-, -, content, traits, hget, -⟩ := h
  exact hsound.names _ _ hget

theorem isSkipped_iff {names : Location} : isSkipped names = true ↔ LeftOut names := by
  have hskipped : isSkipped names = true ↔ names.dropLast.head? = some "build" ∨
      ∃ directory ∈ names.dropLast, directory ∈ [".git", "node_modules"] := by
    simp [isSkipped, buildDir, skippedDirs]
  rw [hskipped]
  refine or_congr ?_ ?_
  · constructor
    · intro hhead
      obtain ⟨rest, hrest⟩ := List.head?_eq_some_iff.1 hhead
      have hne : names ≠ [] := by
        rintro rfl
        cases hrest
      refine ⟨rest ++ [names.getLast hne], by simp, ?_⟩
      rw [← List.cons_append, ← hrest, List.dropLast_concat_getLast]
    · rintro ⟨below, hne, rfl⟩
      rw [List.dropLast_cons_of_ne_nil hne]
      rfl
  · constructor
    · rintro ⟨directory, hmem, htool⟩
      obtain ⟨above, below, hsplit⟩ := List.append_of_mem hmem
      have hne : names ≠ [] := by
        rintro rfl
        cases hmem
      refine ⟨above, directory, below ++ [names.getLast hne], htool, by simp, ?_⟩
      rw [← List.cons_append, ← List.append_assoc, ← hsplit, List.dropLast_concat_getLast]
    · rintro ⟨above, directory, below, htool, hne, rfl⟩
      refine ⟨directory, ?_, htool⟩
      rw [List.dropLast_append_of_ne_nil (by simp), List.dropLast_cons_of_ne_nil hne]
      simp

/-- What is below a place, under the names from there on. -/
theorem mem_below {fs : FileSystem} (hunique : fs.Unique) {place names : Location} {entry : Entry} :
    (names, entry) ∈ fs.below place ↔ names ≠ [] ∧ fs.get? (place ++ names) = some entry := by
  rw [below, List.mem_filterMap]
  constructor
  · rintro ⟨⟨location, entry'⟩, hmem, h⟩
    dsimp only at h
    split at h
    next hcondition =>
      cases h
      obtain ⟨hpre, hne⟩ : place <+: location ∧ location ≠ place := by simpa using hcondition
      obtain ⟨names, rfl⟩ := hpre
      have hnil : names ≠ [] := by
        rintro rfl
        exact hne (List.append_nil place)
      rw [List.drop_left]
      exact ⟨hnil, (hunique.mem_entries_iff (by simp [hnil])).1 hmem⟩
    next => cases h
  · rintro ⟨hne, hget⟩
    refine ⟨(place ++ names, entry), (hunique.mem_entries_iff (by simp [hne])).2 hget, ?_⟩
    simp [hne]

/-- The files below a place that are not left out. -/
theorem mem_filesBelow {fs : FileSystem} (hunique : fs.Unique) {place names : Location}
    {content : ByteArray} :
    (names, content) ∈ filesBelow fs place ↔ names ≠ [] ∧ ¬ LeftOut names ∧
      ∃ traits, fs.get? (place ++ names) = some (.file content traits) := by
  rw [filesBelow, List.mem_mergeSort, List.mem_filterMap]
  constructor
  · rintro ⟨⟨found, entry⟩, hmem, h⟩
    dsimp only at h
    split at h
    next traits =>
      split at h
      next => cases h
      next hskipped =>
        cases h
        obtain ⟨hne, hget⟩ := (mem_below hunique).1 hmem
        exact ⟨hne, mt isSkipped_iff.2 hskipped, traits, hget⟩
    next => cases h
  · rintro ⟨hne, hleft, traits, hget⟩
    exact ⟨_, (mem_below hunique).2 ⟨hne, hget⟩, by simp [mt isSkipped_iff.1 hleft]⟩

/-- The files that are texts, under the paths of their names. -/
def texts (found : List (Location × ByteArray)) : List (String × String) :=
  found.filterMap fun (names, content) =>
    (String.fromUTF8? content).map fun text => (joinSegments names, text)

/-- The texts of a collection are put in one after another. -/
theorem files_foldl_add (found : List (Location × ByteArray)) (collection : Collection) :
    (found.foldl (fun c (names, content) => c.add names content) collection).files =
      (texts found).foldl (fun files (path, text) => files.insert path text) collection.files := by
  induction found generalizing collection with
  | nil => rfl
  | cons head rest ih =>
      obtain ⟨names, content⟩ := head
      rw [List.foldl_cons, ih, texts, texts, List.filterMap_cons]
      dsimp only
      rw [Collection.add]
      cases String.fromUTF8? content <;> rfl

theorem mem_texts {fs : FileSystem} (hunique : fs.Unique) {place : Location} {path text : String} :
    (path, text) ∈ texts (filesBelow fs place) ↔
      ∃ names, path = joinSegments names ∧ HasText fs place names text := by
  rw [texts, List.mem_filterMap]
  constructor
  · rintro ⟨⟨names, content⟩, hfile, h⟩
    obtain ⟨text', htext, heq⟩ := Option.map_eq_some_iff.1 h
    cases heq
    obtain ⟨hne, hleft, traits, hget⟩ := (mem_filesBelow hunique).1 hfile
    exact ⟨names, rfl, hne, hleft, content, traits, hget, htext⟩
  · rintro ⟨names, rfl, hne, hleft, content, traits, hget, htext⟩
    exact ⟨(names, content), (mem_filesBelow hunique).2 ⟨hne, hleft, traits, hget⟩, by simp [htext]⟩

theorem exists_collect {project : Project} {fs : FileSystem} {place : Location}
    (hplace : project.directory? fs = .ok place) :
    ∃ collection, project.collect fs = .ok collection ∧
      collection.files = .ofList (texts (filesBelow fs place)) :=
  ⟨_, by rw [collect, hplace], files_foldl_add _ _⟩

/-- What is collected is a text below the project. -/
theorem hasText_of_collect {project : Project} {fs : FileSystem} {place : Location}
    (hplace : project.directory? fs = .ok place) (hunique : fs.Unique) {collection : Collection}
    (hcollect : project.collect fs = .ok collection) {path text : String}
    (hget : collection.files.get? path = some text) :
    ∃ names, path = joinSegments names ∧ HasText fs place names text := by
  obtain ⟨collection', hcollect', hfiles⟩ := exists_collect hplace
  rw [hcollect] at hcollect'
  cases hcollect'
  rw [hfiles, Dictionary.get?_ofList] at hget
  obtain ⟨before, after, htexts, -⟩ := hget
  exact (mem_texts hunique).1 (by simp [htexts])

/-- **What is collected**: the texts below the project that are not left out. -/
theorem get?_collect {project : Project} {fs : FileSystem} {place : Location}
    (hplace : project.directory? fs = .ok place) (hunique : fs.Unique)
    (hnames : ∀ names text, HasText fs place names text → ∀ name ∈ place ++ names, IsName name) :
    ∃ collection, project.collect fs = .ok collection ∧ ∀ path text,
      collection.files.get? path = some text ↔
        ∃ names, path = joinSegments names ∧ HasText fs place names text := by
  obtain ⟨collection, hcollect, hfiles⟩ := exists_collect hplace
  refine ⟨collection, hcollect, fun path text => ?_⟩
  rw [hfiles, ← mem_texts hunique]
  refine Dictionary.get?_ofList_of_unique ?_
  intro path text other htext hother
  obtain ⟨names, rfl, hfirst⟩ := (mem_texts hunique).1 htext
  obtain ⟨names', heq, hsecond⟩ := (mem_texts hunique).1 hother
  obtain rfl := joinSegments_inj
    (fun name hname => hnames _ _ hfirst name (List.mem_append_right place hname))
    (fun name hname => hnames _ _ hsecond name (List.mem_append_right place hname)) heq
  obtain ⟨-, -, content, traits, hget, hcontent⟩ := hfirst
  obtain ⟨-, -, content', traits', hget', hcontent'⟩ := hsecond
  rw [hget] at hget'
  cases hget'
  rw [hcontent] at hcontent'
  exact (Option.some.inj hcontent').symm

/-! ## Unpacking -/

/-- What is collected in a sound file system are the files of a tree. -/
theorem isTreeMap_of_collect {fs : FileSystem} (hsound : fs.Sound) {place : Location}
    {files : FileMap} (hfiles : ∀ path text, files.get? path = some text ↔
      ∃ names, path = joinSegments names ∧ HasText fs place names text) :
    Workspace.IsTreeMap files := by
  have hnames : ∀ {names text}, HasText fs place names text → ∀ name ∈ names, IsName name :=
    fun htext name hname => names_of_hasText hsound htext name (List.mem_append_right place hname)
  have hplace : ∀ entry ∈ files.entries,
      HasText fs place (segmentsOf entry.1) entry.2 ∧
        joinSegments (segmentsOf entry.1) = entry.1 := by
    rintro ⟨path, text⟩ hentry
    obtain ⟨names, rfl, htext⟩ := (hfiles path text).1 (Dictionary.mem_entries_iff.1 hentry)
    rw [segmentsOf_joinSegments (hnames htext)]
    exact ⟨htext, rfl⟩
  refine Workspace.isTreeMap_of_places (fun entry hentry => (hplace entry hentry).2)
    (fun entry hentry => (hplace entry hentry).1.1)
    (fun entry hentry => hnames (hplace entry hentry).1) ?_
  -- a file has nothing below it
  intro first hfirst second hsecond more hne hmore
  obtain ⟨-, -, content, traits, hget, -⟩ := (hplace first hfirst).1
  obtain ⟨-, -, content', traits', hget', -⟩ := (hplace second hsecond).1
  rw [hmore, ← List.append_assoc] at hget'
  rw [hsound.above hget' hne] at hget
  cases hget

end Project

end SiteScript
