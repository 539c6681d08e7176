import SiteScript.Proofs.HiddenFile
import SiteScript.Proofs.Unpacking

/-!
# SiteScript.Proofs.Confinement

Unpacking a file map, whatever its paths are.

1. A map with a path that escapes is refused, by the first such path, before anything is done
   (`find?_escaping`).
2. While files are unpacked, nothing but directories and files with a single name comes to stand at and
   below the root, and everything else stays (`Confined`).  No link is there to lead away, so a path that
   does not go up leads to a place at or below the root (`Confined.leadsTo`), and what is made or
   written stands there too (`Confined.makeParents`, `Confined.write`).
3. So of a map without such paths all that is written until unpacking stops, also when it fails, is
   below the root (`confined_writeEntries`, `below_of_fileWritten`), and what a failure leaves there is
   removed (`Confined.discard`).
4. If the paths are those of files of a tree, exactly these files are there in the end
   (`isTreeMap_of_paths`). -/

namespace SiteScript

namespace Workspace

open FileSystem

/-! ## What unpacking can change -/

/-- Nothing but directories and files with a single name stands at and below a root, and everything
else is as in a host. -/
structure Confined (root : Location) (host fs : FileSystem) : Prop where
  outside : ∀ location, ¬ root <+: location → fs.get? location = host.get? location
  directory : fs.get? root = some .directory
  below : ∀ location entry, root <+: location → fs.get? location = some entry →
    entry = .directory ∨ ∃ content, entry = .plain content

theorem Vacant.plain {root : Location} {host : FileSystem} (h : Vacant host root) :
    ∀ name ∈ root, name ≠ "." ∧ name ≠ ".." := fun name hname =>
  ⟨(h.names name hname).ne_dot, (h.names name hname).ne_up⟩

/-- A new directory has nothing below it. -/
theorem confined_start {root : Location} {host : FileSystem} (hvacant : Vacant host root) :
    Confined root host (host.put root .directory) where
  outside := (planted_start hvacant).outside
  directory := by
    rw [get?_put _ _ _ hvacant.ne_nil, if_pos rfl]
  below := by
    rintro location entry ⟨names, rfl⟩ hentry
    rw [get?_put _ _ _ hvacant.ne_nil, hvacant.nothing] at hentry
    split at hentry
    · exact .inl (Option.some.inj hentry).symm
    · cases hentry

namespace Confined

variable {root location : Location} {host a b : FileSystem} {rest segments : List String}
  {path : Path} (hvacant : Vacant host root) (h : Confined root host a)

include hvacant h

theorem above (habove : location <+: root) : a.get? location = some .directory := by
  by_cases heq : location = root
  · rw [heq, h.directory]
  · rw [h.outside location fun hroot => heq (habove.eq_of_length_le hroot.length_le)]
    exact hvacant.above location habove heq

/-- No link is at, above or below the root. -/
theorem ne_link (hon : location <+: root ∨ root <+: location) (path : String) :
    a.get? location ≠ some (.link path) := by
  intro hlink
  rcases hon with habove | hbelow
  · rw [h.above hvacant habove] at hlink
    cases hlink
  · rcases h.below location _ hbelow hlink with heq | ⟨content, heq⟩ <;> cases heq

/-- **A path below the root that does not go up leads to below the root.** -/
theorem leadsTo (hsame : SameLinks a b) (hup : ".." ∉ rest) (hpath : path.segments = root ++ rest)
    (hleads : b.LeadsTo path location) : root <+: location := by
  obtain ⟨target, hdestination, rfl⟩ := hleads
  have hway := hsame.leads hdestination
  rw [hpath] at hway
  exact hway.stays_below_root hvacant.plain (fun _ path hon => h.ne_link hvacant hon path) hup

/-- The path of something above the root leads there. -/
theorem leadsTo_above (hsame : SameLinks a b) (habove : segments <+: root)
    (hleads : b.LeadsTo (.ofLocation segments) location) : location = segments := by
  obtain ⟨target, hdestination, rfl⟩ := hleads
  refine (hsame.leads hdestination).eq_append
    (fun name hname => hvacant.plain name (habove.subset hname)) fun above hpre path => ?_
  exact h.ne_link hvacant (.inl (hpre.trans habove)) path

/-- Directories that are made on the way to a place below the root are made below the root. -/
theorem makesWay (hway : MakesWay segments a b) (hsegments : segments <+: root ++ rest)
    (hup : ".." ∉ rest) : Confined root host b := by
  have hsame := hway.toExtends.sameWays.sameLinks
  -- a directory is new at or below the root only, since those above are there
  have hnew : ∀ location, a.get? location = none →
      (∃ above, above <+: segments ∧ b.LeadsTo (.ofLocation above) location) → root <+: location := by
    rintro location hnone ⟨above, habove, hleads⟩
    rcases prefix_append_cases (habove.trans hsegments) with ⟨hroot, -⟩ | ⟨more, rfl, hmore⟩
    · obtain rfl := h.leadsTo_above hvacant hsame hroot hleads
      rw [h.above hvacant hroot] at hnone
      cases hnone
    · exact h.leadsTo hvacant hsame (fun hmem => hup (hmore.subset hmem)) rfl hleads
  refine ⟨fun location houtside => ?_, hway.toExtends.kept root _ h.directory,
    fun location entry hbelow hentry => ?_⟩
  · rcases hway location with hkept | ⟨hnone, -, hleads⟩
    · exact hkept.trans (h.outside location houtside)
    · exact absurd (hnew location hnone hleads) houtside
  · rcases hway location with hkept | ⟨-, hmade, -⟩
    · exact h.below location entry hbelow (hkept ▸ hentry)
    · rw [hmade] at hentry
      exact .inl (Option.some.inj hentry).symm

/-- The directories for a file whose path does not go up are made below the root. -/
theorem makeParents {file : String} (hup : ".." ∉ segmentsOf file) :
    Confined root host (a.createDirAll (root ++ names file).dropLast).2 :=
  h.makesWay hvacant (a.makesWay_createDirAll _) (List.dropLast_prefix _) fun hmem =>
    hup (List.mem_filter.1 hmem).1

/-- **A file whose path does not go up is written below the root**, and nothing else changes. -/
theorem write {content : ByteArray} (hpath : path.segments = root ++ rest) (hup : ".." ∉ rest)
    (hwrite : a.write path content = .ok b) :
    Confined root host b ∧ ∃ place, a.LeadsTo path place ∧ root <+: place ∧ place ≠ root := by
  obtain ⟨-, parent, name, hdestination, -, hwritten⟩ := write_cases hwrite
  have hleads : a.LeadsTo path (parent ++ [name]) := ⟨_, hdestination, rfl⟩
  have hbelow := h.leadsTo hvacant (SameLinks.refl a) hup hpath hleads
  have hproper : parent ++ [name] ≠ root := by
    intro heq
    rw [heq, h.directory] at hwritten
    rcases hwritten with ⟨hnone, -⟩ | ⟨_, _, hfile, -⟩
    · cases hnone
    · cases hfile
  -- a file that stands there has no other name
  have hput : b = a.put (parent ++ [name]) (.plain content) := by
    rcases hwritten with ⟨-, rfl⟩ | ⟨old, traits, hfile, rfl⟩
    · rfl
    · rcases h.below _ _ hbelow hfile with heq | ⟨old', heq⟩
      · cases heq
      · cases heq
        rfl
  have hget := fun l => a.get?_put (.plain content) l (show parent ++ [name] ≠ [] by simp)
  refine ⟨⟨fun location houtside => ?_, ?_, fun location entry hlocation hentry => ?_⟩, _, hleads,
    hbelow, hproper⟩
  · rw [hput, hget, if_neg, h.outside location houtside]
    rintro rfl
    exact houtside hbelow
  · rw [hput, hget, if_neg (Ne.symm hproper), h.directory]
  · rw [hput, hget] at hentry
    split at hentry
    · exact .inr ⟨content, (Option.some.inj hentry).symm⟩
    · exact h.below location entry hlocation hentry

/-- **Giving the root up leaves nothing there**, unless its path is too long to be handed to the system,
and everything else stays. -/
theorem discard :
    (∀ location, ¬ root <+: location → (discard root a).get? location = host.get? location) ∧
      (Fits root → ∀ location, (Workspace.discard root a).get? location = host.get? location) := by
  have hnothing : ∀ location, root <+: location → host.get? location = none := by
    rintro location ⟨names, rfl⟩
    exact hvacant.nothing names
  have herased : Fits root → Workspace.discard root a = a.eraseTree root := by
    intro hfits
    obtain ⟨parent, name, htarget, hroot, hname⟩ := followPath_plain hvacant.ne_nil hvacant.names
      hfits (fun above hpre _ => h.above hvacant hpre) false nofun
    have hlong := hname.not_tooLong
    rw [Workspace.discard, removeTree, target, htarget]
    simp only [hlong, hroot, h.directory]
    rfl
  by_cases hfits : Fits root
  · rw [herased hfits]
    have hget : ∀ location, (a.eraseTree root).get? location = host.get? location := by
      intro location
      rw [get?_eraseTree a location hvacant.ne_nil]
      split
      next hbelow => exact (hnothing location hbelow).symm
      next houtside => exact h.outside location houtside
    exact ⟨fun location _ => hget location, fun _ => hget⟩
  · have hrefused : ∃ fault, a.removeTree (.ofLocation root) = .error fault := by
      have hsome : (Path.ofLocation root).refused? ≠ none := by
        rw [Path.refused?]
        split
        · exact Option.some_ne_none _
        · rw [if_pos (Nat.not_le.1 hfits)]
          exact Option.some_ne_none _
      obtain ⟨fault, hfault⟩ := Option.ne_none_iff_exists'.1 hsome
      refine ⟨fault, ?_⟩
      rw [removeTree, target, followPath, hfault]
    obtain ⟨fault, hfault⟩ := hrefused
    refine ⟨fun location houtside => ?_, fun hfits' => absurd hfits' hfits⟩
    rw [Workspace.discard, hfault]
    exact h.outside location houtside

end Confined

/-! ## Paths that escape -/

/-- A path that is empty, begins at the top or goes up. -/
def Escapes (path : String) : Prop :=
  path = "" ∨ path.toList.head? = some '/' ∨ ".." ∈ segmentsOf path

instance (path : String) : Decidable (Escapes path) :=
  inferInstanceAs (Decidable (_ ∨ _ ∨ _))

theorem isSafe_iff {path : String} : isSafe path = true ↔ ¬ Escapes path := by
  rw [isSafe, Escapes, ← String.toList_eq_nil_iff]
  cases path.toList with
  | nil => simp
  | cons c rest => simp

/-- **The first path that escapes is found**, if there is one. -/
theorem find?_escaping {files : FileMap} {path : String} (hpath : path ∈ files.keys)
    (hescapes : Escapes path) :
    ∃ first, files.keys.find? (!isSafe ·) = some first ∧ first ∈ files.keys ∧ Escapes first ∧
      ∀ path ∈ files.keys, Escapes path → first ≤ path := by
  have hrefused : ∀ {path}, (!isSafe path) = true ↔ Escapes path := by
    intro path
    rw [Bool.not_eq_true', ← Bool.not_eq_true, isSafe_iff, Classical.not_not]
  cases hfind : files.keys.find? (!isSafe ·) with
  | none => exact absurd (hrefused.2 hescapes) (List.find?_eq_none.1 hfind path hpath)
  | some first =>
      have hfirst : (!isSafe first) = true := List.find?_some (p := (!isSafe ·)) hfind
      exact ⟨first, rfl, List.mem_of_find?_eq_some hfind, hrefused.1 hfirst,
        fun path hpath hescapes => Dictionary.le_of_find?_keys hfind hpath (hrefused.2 hescapes)⟩

/-! ## Files that are written -/

/-- A file is written at a place while files are unpacked one after another. -/
inductive FileWritten (root : Location) : FileSystem → List (String × String) → Location → Prop where
  | here {fs made written : FileSystem} {path content : String} {rest : List (String × String)}
      {place : Location} (hmade : fs.createDirAll (root ++ names path).dropLast = (.ok (), made))
      (hwrite : made.write (joined root path) content.toUTF8 = .ok written)
      (hplace : made.LeadsTo (joined root path) place) :
      FileWritten root fs ((path, content) :: rest) place
  | later {fs written : FileSystem} {path content : String} {rest : List (String × String)}
      {place : Location} (hentry : writeEntry root fs path content = (.ok (), written))
      (h : FileWritten root written rest place) :
      FileWritten root fs ((path, content) :: rest) place

section Unpack

variable {root : Location} {host fs : FileSystem} (hvacant : Vacant host root)

include hvacant

/-- Unpacking one file whose path does not go up stays below the root, whether it succeeds or fails. -/
theorem confined_writeEntry (h : Confined root host fs) {path : String}
    (hup : ".." ∉ segmentsOf path) (content : String) :
    Confined root host (writeEntry root fs path content).2 := by
  have hmade := h.makeParents hvacant hup
  rw [writeEntry]
  generalize fs.createDirAll (root ++ names path).dropLast = outcome at hmade ⊢
  obtain ⟨fault | ⟨⟩, made⟩ := outcome
  · exact hmade
  · dsimp only at hmade ⊢
    cases hwrite : made.write (joined root path) content.toUTF8 with
    | error fault => exact hmade
    | ok written => exact (hmade.write hvacant rfl hup hwrite).1

variable {entries : List (String × String)} (hup : ∀ entry ∈ entries, ".." ∉ segmentsOf entry.1)

include hup

/-- **Unpacking stays below the root**, whether it succeeds or fails. -/
theorem confined_writeEntries (h : Confined root host fs) :
    Confined root host (writeEntries root fs entries).2 := by
  induction entries generalizing fs with
  | nil => exact h
  | cons entry rest ih =>
      obtain ⟨path, content⟩ := entry
      obtain ⟨hpath, hrest⟩ := List.forall_mem_cons.1 hup
      have hentry := confined_writeEntry hvacant h hpath content
      rw [writeEntries]
      generalize writeEntry root fs path content = outcome at hentry ⊢
      obtain ⟨fault | ⟨⟩, written⟩ := outcome
      · exact hentry
      · exact ih hrest hentry

/-- **Every file that is written is below the root.** -/
theorem below_of_fileWritten {place : Location} (h : Confined root host fs)
    (hwritten : FileWritten root fs entries place) : root <+: place ∧ place ≠ root := by
  induction hwritten with
  | here hmade hwrite hplace =>
      have hconfined := h.makeParents hvacant (hup _ List.mem_cons_self)
      rw [hmade] at hconfined
      obtain ⟨-, place', ⟨target, hdestination, rfl⟩, hbelow⟩ :=
        hconfined.write hvacant rfl (hup _ List.mem_cons_self) hwrite
      obtain ⟨target', hdestination', rfl⟩ := hplace
      rw [hdestination] at hdestination'
      cases hdestination'
      exact hbelow
  | @later _ _ _ content _ _ hentry _ ih =>
      obtain ⟨hpath, hrest⟩ := List.forall_mem_cons.1 hup
      have hconfined := confined_writeEntry hvacant h hpath content
      rw [hentry] at hconfined
      exact ih hrest hconfined

end Unpack

/-! ## Trees by their paths -/

/-- A path of names that the system takes for a file below a root. -/
def IsFilePath (root : Location) (path : String) : Prop :=
  ∃ names, names ≠ [] ∧ (∀ name ∈ names, IsName name) ∧ Fits (root ++ names) ∧
    path = joinSegments names

/-- A path names a directory on the way to another one. -/
def IsAbove (path other : String) : Prop :=
  ∃ rest, other = path ++ "/" ++ rest

/-- Files at paths of names, none above another, are those of a tree. -/
theorem isTreeMap_of_paths {root : Location} {files : FileMap}
    (hpaths : ∀ path ∈ files.keys, IsFilePath root path)
    (happart : ∀ path ∈ files.keys, ∀ other ∈ files.keys, ¬ IsAbove path other) :
    IsTreeMap files := by
  have hplace : ∀ entry ∈ files.entries, segmentsOf entry.1 ≠ [] ∧
      (∀ name ∈ segmentsOf entry.1, IsName name) ∧ joinSegments (segmentsOf entry.1) = entry.1 := by
    intro entry hentry
    obtain ⟨names, hne, hnames, -, hpath⟩ := hpaths entry.1 (List.mem_map_of_mem hentry)
    rw [hpath, segmentsOf_joinSegments hnames]
    exact ⟨hne, hnames, rfl⟩
  refine isTreeMap_of_places (fun entry hentry => (hplace entry hentry).2.2)
    (fun entry hentry => (hplace entry hentry).1) (fun entry hentry => (hplace entry hentry).2.1) ?_
  intro first hfirst second hsecond more hmore heq
  obtain ⟨hne, -, hpath⟩ := hplace first hfirst
  refine happart first.1 (List.mem_map_of_mem hfirst) second.1 (List.mem_map_of_mem hsecond)
    ⟨joinSegments more, ?_⟩
  rw [← (hplace second hsecond).2.2, heq, joinSegments_append hne hmore, hpath]

/-! ## Whole bundles -/

/-- **Unpacking is exact and stays below the root**, for every file map.
1. If a path escapes, the first such path is named and nothing is touched.
2. Otherwise every file that is written is below the root, and outside of it nothing changes, by the time
   that unpacking stops and afterwards.  If it fails, nothing is left of it.
3. If the paths are those of files of which none is above another, it succeeds, and below the root there
   are then exactly these files and the directories above them. -/
theorem materialize_exact_and_contained {root : Location} {host : FileSystem}
    (hvacant : Vacant host root) (files : FileMap) :
    ((∃ path ∈ files.keys, Escapes path) → ∃ first ∈ files.keys, Escapes first ∧
      (∀ path ∈ files.keys, Escapes path → first ≤ path) ∧
      materialize root host files =
        (.error (.corruptBundle ("entry '" ++ first ++ "' escapes the workspace")), host)) ∧
    ((∀ path ∈ files.keys, ¬ Escapes path) →
      (∀ place, FileWritten root (host.put root .directory) files.entries place →
        root <+: place ∧ place ≠ root) ∧
      (∀ location, ¬ root <+: location →
        (writeEntries root (host.put root .directory) files.entries).2.get? location =
            host.get? location ∧
          (materialize root host files).2.get? location = host.get? location) ∧
      (Fits root → (materialize root host files).1 ≠ .ok () →
        ∀ location, (materialize root host files).2.get? location = host.get? location)) ∧
    ((∀ path ∈ files.keys, IsFilePath root path) →
      (∀ path ∈ files.keys, ∀ other ∈ files.keys, ¬ IsAbove path other) →
      ∃ made, materialize root host files = (.ok (), made) ∧ Unpacked root host files made) := by
  refine ⟨?_, fun hnone => ?_, fun hpaths happart => ?_⟩
  · rintro ⟨path, hpath, hescapes⟩
    obtain ⟨first, hfind, hfirst, hescapes, hleast⟩ := find?_escaping hpath hescapes
    exact ⟨first, hfirst, hescapes, hleast, by rw [materialize, hfind]⟩
  · have hup : ∀ entry ∈ files.entries, ".." ∉ segmentsOf entry.1 := fun entry hentry hmem =>
      hnone entry.1 (List.mem_map_of_mem hentry) (.inr (.inr hmem))
    have hstart := confined_start hvacant
    have hlast := confined_writeEntries hvacant hup hstart
    have hfind : files.keys.find? (!isSafe ·) = none := by
      refine List.find?_eq_none.2 fun path hpath => ?_
      simp [isSafe_iff.2 (hnone path hpath)]
    refine ⟨fun place => below_of_fileWritten hvacant hup hstart, ?_⟩
    rw [materialize, hfind]
    dsimp only
    generalize writeEntries root (host.put root .directory) files.entries = outcome at hlast ⊢
    obtain ⟨fault | ⟨⟩, last⟩ := outcome
    · obtain ⟨houtside, hgone⟩ := hlast.discard hvacant
      exact ⟨fun location hlocation => ⟨hlast.outside location hlocation, houtside location hlocation⟩,
        fun hfits _ => hgone hfits⟩
    · exact ⟨fun location hlocation =>
        ⟨hlast.outside location hlocation, hlast.outside location hlocation⟩,
        fun _ hfailed => absurd rfl hfailed⟩
  · refine (isTreeMap_of_paths hpaths happart).materialize hvacant ?_
    rintro names text ⟨hnames, hget⟩
    obtain ⟨others, -, hothers, hfits, heq⟩ := hpaths _
      (List.mem_map_of_mem (Dictionary.mem_entries_of_get? hget))
    rwa [joinSegments_inj hnames hothers heq]

/-- A place for a run, next to a file of somebody else. -/
def runHost : FileSystem :=
  ⟨[(["tmp"], .directory), (["tmp", "other.txt"], .plain "kept".toUTF8)]⟩

/-- Files of a tree.  The directory `a-b` comes before what is in `a`. -/
def treeFiles : FileMap :=
  .ofList [("a/b.txt", "two"), ("a-b/c.txt", "one"), ("a/d/e.txt", "three")]

/-- A file that is above another one. -/
def nestedFiles : FileMap := .ofList [("a", "one"), ("a/b", "two")]

def escapingFiles : FileMap := .ofList [("a", "one"), ("/etc", "two"), ("../x", "three")]

theorem materialize_exact_and_contained_run :
    Vacant runHost ["tmp", "run"] ∧
    materialize ["tmp", "run"] runHost escapingFiles =
      (.error (.corruptBundle "entry '../x' escapes the workspace"), runHost) ∧
    (∀ place, FileWritten ["tmp", "run"] (runHost.put ["tmp", "run"] .directory)
        nestedFiles.entries place → ["tmp", "run"] <+: place ∧ place ≠ ["tmp", "run"]) ∧
    (materialize ["tmp", "run"] runHost nestedFiles).2.get? ["tmp", "other.txt"] =
      some (.plain "kept".toUTF8) ∧
    (materialize ["tmp", "run"] runHost nestedFiles).2.get? ["tmp", "run", "a"] = none ∧
    ∃ made, materialize ["tmp", "run"] runHost treeFiles = (.ok (), made) ∧
      Unpacked ["tmp", "run"] runHost treeFiles made := by
  have hvacant : Vacant runHost ["tmp", "run"] := by
    refine ⟨by decide, by decide, fun above habove hne => ?_, fun names => ?_⟩
    · have hway : above <+: ["tmp"] ++ ["run"] := habove
      have hshorter : above <+: [] ++ ["tmp"] := (List.prefix_concat_iff.1 hway).resolve_left hne
      rcases List.prefix_concat_iff.1 hshorter with rfl | hnil
      · rfl
      · rw [List.prefix_nil.1 hnil]
        rfl
    · refine Option.eq_none_iff_forall_ne_some.2 fun entry hentry => ?_
      have hmem := mem_entries_of_get? hentry (by simp)
      simp [runHost] at hmem
  obtain ⟨-, hcontained, -⟩ := materialize_exact_and_contained hvacant nestedFiles
  obtain ⟨hwritten, houtside, hgone⟩ := hcontained (by decide)
  have hfailed : (materialize ["tmp", "run"] runHost nestedFiles).1 ≠ .ok () := by decide +kernel
  refine ⟨hvacant, ?_, hwritten, ?_, ?_, ?_⟩
  · obtain ⟨hescaping, -⟩ := materialize_exact_and_contained hvacant escapingFiles
    obtain ⟨first, hfirst, -, hleast, hunpack⟩ := hescaping ⟨"../x", by decide, by decide⟩
    have hfirst' : first ≤ "../x" := hleast "../x" (by decide) (by decide)
    obtain rfl : first = "../x" := by
      have hkeys : ∀ key ∈ escapingFiles.keys, key ≤ "../x" → key = "../x" := by decide
      exact hkeys first hfirst hfirst'
    exact hunpack
  · exact (houtside ["tmp", "other.txt"] (by decide)).2.trans rfl
  · exact (hgone (by decide) hfailed ["tmp", "run", "a"]).trans rfl
  · obtain ⟨-, -, hexact⟩ := materialize_exact_and_contained hvacant treeFiles
    refine hexact (fun path hpath => ?_) fun path hpath other hother => ?_
    · have hplaces : ∀ path ∈ treeFiles.keys, segmentsOf path ≠ [] ∧
          (∀ name ∈ segmentsOf path, IsName name) ∧
          Fits (["tmp", "run"] ++ segmentsOf path) ∧ path = joinSegments (segmentsOf path) := by
        decide +kernel
      exact ⟨segmentsOf path, hplaces path hpath⟩
    · have hstart : ∀ path ∈ treeFiles.keys, ∀ other ∈ treeFiles.keys,
          ¬ (path ++ "/").toList <+: other.toList := by
        decide +kernel
      rintro ⟨rest, rfl⟩
      exact hstart path hpath _ hother (by simp)

end Workspace

end SiteScript
