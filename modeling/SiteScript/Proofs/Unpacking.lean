import Mathlib.Data.List.Pairwise
import SiteScript.Proofs.Dictionary
import SiteScript.Proofs.FileTree
import SiteScript.Workspace

/-!
# SiteScript.Proofs.Unpacking

Unpacking a file map whose paths are those of a tree.

1. Plain paths in a file system: a directory is made with all that are missing above it, and nothing
   else (`createDirAll_plain`); a file is put where nothing stands (`write_plain`).
2. What stands below a root after some files were unpacked is told file by file (`planted`), and each
   further one keeps that (`plant_step`).
3. So unpacking a tree of files where nothing stands succeeds, and there are then exactly these files
   and the directories above them (`IsTreeMap.materialize`). -/

namespace SiteScript

namespace FileSystem

/-! ## Making directories -/

/-- A location short enough to be handed to the system. -/
def Fits (location : Location) : Prop := (Path.ofLocation location).text.utf8ByteSize ≤ Path.maxPath

instance (location : Location) : Decidable (Fits location) :=
  inferInstanceAs (Decidable (_ ≤ Path.maxPath))

theorem Fits.of_prefix {location longer : Location} (h : Fits longer)
    (hpre : location <+: longer) : Fits location := by
  have hle := utf8ByteSize_joinSegments_le hpre
  simp only [Fits, Path.ofLocation, Path.text, String.utf8ByteSize_append] at h ⊢
  exact Nat.le_trans (Nat.add_le_add_right (Nat.add_le_add_left hle _) _) h

theorem refused?_eq_none {location : Location} (hnames : ∀ name ∈ location, IsName name)
    (hfits : Fits location) : (Path.ofLocation location).refused? = none := by
  have hnul : (Path.ofLocation location).segments.any (·.toList.contains '\x00') = false := by
    refine List.any_eq_false.2 fun name hname => ?_
    simpa using (hnames name hname).nul
  rw [Path.refused?, hnul, if_neg (by simp), if_neg (Nat.not_lt.2 hfits)]

section Plain

variable {fs : FileSystem} {location : Location} (hne : location ≠ [])
  (hnames : ∀ name ∈ location, IsName name) (hfits : Fits location)
  (habove : ∀ above, above <+: location → above ≠ location → fs.get? above = some .directory)

include hne hnames hfits habove

/-- A plain path leads to its location. -/
theorem followPath_plain (last : Bool)
    (hlink : last = true → ∀ path, fs.get? location ≠ some (.link path)) :
    ∃ parent name, fs.followPath last (.ofLocation location) = .ok (.name parent name) ∧
      parent ++ [name] = location ∧ IsName name := by
  rw [followPath, refused?_eq_none hnames hfits]
  exact followWith_names hne hnames (fun above hpre _ hproper => habove above hpre hproper)
    hlink

theorem makeDirectory_plain (hnone : fs.get? location = none) :
    fs.makeDirectory (.ofLocation location) = .ok (fs.put location .directory) := by
  obtain ⟨parent, name, htarget, rfl, hname⟩ :=
    followPath_plain hne hnames hfits habove false nofun
  rw [makeDirectory, make, target, htarget]
  simp [hname.not_tooLong, hnone, Entry.isDirectory]

/-- A directory that is there is not made again, but found. -/
theorem makeDirectory_there (hthere : fs.get? location = some .directory) :
    fs.makeDirectory (.ofLocation location) = .error .alreadyExists ∧
      fs.isDirectory (.ofLocation location) = true := by
  obtain ⟨parent, name, htarget, hlocation, hname⟩ :=
    followPath_plain hne hnames hfits habove false nofun
  obtain ⟨parent', name', hdestination, hlocation', hname'⟩ :=
    followPath_plain hne hnames hfits habove true (by simp [hthere])
  constructor
  · rw [makeDirectory, make, target, htarget]
    simp [hname.not_tooLong, hlocation, hthere]
  · rw [isDirectory, stat, destination, hdestination]
    simp [entryAt, hname'.not_tooLong, hlocation', hthere]

/-- A file is put where nothing stands. -/
theorem write_plain (hnone : fs.get? location = none) (content : ByteArray) :
    fs.write (.ofLocation location) content = .ok (fs.put location (.plain content)) := by
  obtain ⟨parent, name, hdestination, rfl, hname⟩ :=
    followPath_plain hne hnames hfits habove true (by simp [hnone])
  rw [write, destination, hdestination]
  simp [hname.not_tooLong, hnone, Path.ofLocation]

end Plain

/-- A directory and all above it are there, and nothing else is new. -/
def Made (location : Location) (fs made : FileSystem) : Prop :=
  ∀ l, made.get? l = if l <+: location then some .directory else fs.get? l

theorem Made.trans {location longer : Location} {fs between made : FileSystem}
    (h : Made location fs between) (hmore : Made longer between made)
    (hpre : location <+: longer) : Made longer fs made := by
  intro l
  rw [hmore l, h l]
  split
  next => rfl
  next hnot => rw [if_neg fun hl => hnot (hl.trans hpre)]

/-- A directory whose place is free is made, and what is there is left. -/
theorem makeLast_plain {fs : FileSystem} {location : Location} (hne : location ≠ [])
    (hnames : ∀ name ∈ location, IsName name) (hfits : Fits location)
    (habove : ∀ above, above <+: location → above ≠ location → fs.get? above = some .directory)
    (hfree : fs.get? location = none ∨ fs.get? location = some .directory) :
    ∃ made, Made location fs made ∧
      (fs.makeDirectory (.ofLocation location) = .ok made ∨
        fs.makeDirectory (.ofLocation location) = .error .alreadyExists ∧
          fs.isDirectory (.ofLocation location) = true ∧ made = fs) := by
  rcases hfree with hnone | hthere
  · refine ⟨_, fun l => ?_, .inl (makeDirectory_plain hne hnames hfits habove hnone)⟩
    rw [get?_put fs _ l hne]
    by_cases hl : l = location
    · simp [hl]
    · rw [if_neg hl]
      split
      next hpre => exact habove l hpre hl
      next => rfl
  · obtain ⟨hexists, hdirectory⟩ := makeDirectory_there hne hnames hfits habove hthere
    refine ⟨fs, fun l => ?_, .inr ⟨hexists, hdirectory, rfl⟩⟩
    split
    next hpre =>
      by_cases hl : l = location
      · rw [hl, hthere]
      · exact habove l hpre hl
    next => rfl

/-- A directory is not made below one that is missing. -/
theorem makeDirectory_missing {fs : FileSystem} {location : Location}
    (hnames : ∀ name ∈ location, IsName name) (hfits : Fits location)
    (hclear : ∀ above, above <+: location →
      fs.get? above = none ∨ fs.get? above = some .directory)
    {missing : Location} (hmissing : missing <+: location) (hproper : missing ≠ location)
    (hnone : fs.get? missing = none) :
    fs.makeDirectory (.ofLocation location) = .error .notFound := by
  have hmissing' : missing ≠ [] := by
    rintro rfl
    cases hnone
  have hfollow : fs.target (.ofLocation location) = .error .notFound := by
    rw [target, followPath, refused?_eq_none hnames hfits]
    exact followWith_missing hnames (fun l hl _ _ => hclear l hl) hmissing hmissing' hproper hnone
  rw [makeDirectory, make, hfollow]

/-- **A directory is made with all missing ones above it**, and nothing else, if no file and no link
is in the way. -/
theorem createDirAll_plain {fs : FileSystem} {location : Location}
    (hnames : ∀ name ∈ location, IsName name) (hfits : Fits location)
    (hclear : ∀ above, above <+: location →
      fs.get? above = none ∨ fs.get? above = some .directory) :
    ∃ made, fs.createDirAll location = (.ok (), made) ∧ Made location fs made := by
  have hup : ∀ (reversed : List String) (fs : FileSystem),
      (∀ name ∈ reversed.reverse, IsName name) → Fits reversed.reverse →
      (∀ above, above <+: reversed.reverse →
        fs.get? above = none ∨ fs.get? above = some .directory) →
      ∃ made, fs.createDirAllUp reversed = (.ok (), made) ∧ Made reversed.reverse fs made := by
    intro reversed
    induction reversed with
    | nil =>
        intro fs _ _ _
        refine ⟨fs, rfl, fun l => ?_⟩
        split
        next hpre => rw [List.prefix_nil.1 hpre, get?_nil]
        next => rfl
    | cons last above ih =>
        intro fs hnames hfits hclear
        have hne : (last :: above).reverse ≠ [] := by simp
        have hshorter : above.reverse <+: (last :: above).reverse := by simp
        have hproper : ∀ {l}, l <+: (last :: above).reverse → l ≠ (last :: above).reverse →
            l <+: above.reverse := by
          intro l hl hne
          rw [List.reverse_cons] at hl hne
          exact (List.prefix_concat_iff.1 hl).resolve_left hne
        have hself : ¬ (last :: above).reverse <+: above.reverse := by
          intro hpre
          have hlength := hpre.length_le
          simp only [List.length_reverse, List.length_cons] at hlength
          omega
        rw [createDirAllUp]
        by_cases hdirectories : ∀ l, l <+: above.reverse → fs.get? l = some .directory
        · obtain ⟨made, hmade, heq | ⟨hexists, hdirectory, rfl⟩⟩ := makeLast_plain hne hnames hfits
            (fun l hl hne => hdirectories l (hproper hl hne)) (hclear _ List.prefix_rfl)
          · simp only [heq]
            exact ⟨made, rfl, hmade⟩
          · simp only [hexists, hdirectory, if_true]
            exact ⟨made, rfl, hmade⟩
        · -- a directory is missing on the way, so those above are made first
          obtain ⟨missing, hmissing, hnot⟩ : ∃ l, l <+: above.reverse ∧
              fs.get? l ≠ some .directory := by
            simpa using hdirectories
          have hnotFound := makeDirectory_missing hnames hfits hclear
            (hmissing.trans hshorter) (fun heq => hself (heq ▸ hmissing))
            ((hclear missing (hmissing.trans hshorter)).resolve_right hnot)
          obtain ⟨between, hbetween, hget⟩ := ih fs
            (fun name hname => hnames name (hshorter.subset hname)) (hfits.of_prefix hshorter)
            (fun l hl => hclear l (hl.trans hshorter))
          have hfree : between.get? (last :: above).reverse = none ∨
              between.get? (last :: above).reverse = some .directory := by
            rw [hget, if_neg hself]
            exact hclear _ List.prefix_rfl
          obtain ⟨made, hmade, heq | ⟨hexists, hdirectory, rfl⟩⟩ := makeLast_plain hne hnames hfits
            (fun l hl hne => by rw [hget, if_pos (hproper hl hne)]) hfree
          · simp only [hnotFound, hbetween, heq]
            exact ⟨made, rfl, hget.trans hmade hshorter⟩
          · simp only [hnotFound, hbetween, hexists, hdirectory, if_true]
            exact ⟨made, rfl, hget.trans hmade hshorter⟩
  have h := hup location.reverse fs
  rw [List.reverse_reverse] at h
  exact h hnames hfits hclear

end FileSystem

namespace Workspace

open FileSystem

/-! ## Unpacking one file after another -/

/-- What stands below a root, at these names, after files were unpacked there: a file, or a directory
above one. -/
def planted (files : List (Location × String)) (names : Location) : Option Entry :=
  match files.lookup names with
  | some text => some (.plain text.toUTF8)
  | none =>
    if names = [] ∨ ∃ file ∈ files, names <+: file.1 then some .directory else none

/-- Files were unpacked below a root, and everything else is as it was. -/
structure Planted (root : Location) (host : FileSystem) (files : List (Location × String))
    (fs : FileSystem) : Prop where
  below : ∀ names, fs.get? (root ++ names) = planted files names
  outside : ∀ location, ¬ root <+: location → fs.get? location = host.get? location

/-- Nothing stands at a root, below directories. -/
structure Vacant (fs : FileSystem) (root : Location) : Prop where
  ne_nil : root ≠ []
  names : ∀ name ∈ root, IsName name
  above : ∀ above, above <+: root → above ≠ root → fs.get? above = some .directory
  nothing : ∀ names, fs.get? (root ++ names) = none

/-- Files at places of a tree, none of them below another. -/
structure IsTree (files : List (Location × String)) : Prop where
  ne_nil : ∀ file ∈ files, file.1 ≠ []
  names : ∀ file ∈ files, ∀ name ∈ file.1, IsName name
  apart : files.Pairwise fun first second => ¬ first.1 <+: second.1 ∧ ¬ second.1 <+: first.1

/-- The files of a map, at their places. -/
def places (entries : List (String × String)) : List (Location × String) :=
  entries.map fun (path, text) => (segmentsOf path, text)

@[simp] theorem places_nil : places [] = [] := rfl

@[simp] theorem places_cons (path text : String) (entries : List (String × String)) :
    places ((path, text) :: entries) = (segmentsOf path, text) :: places entries := rfl

/-- A place is apart from those of files: neither below one nor above one. -/
def Apart (files : List (Location × String)) (names : Location) : Prop :=
  ∀ file ∈ files, ¬ file.1 <+: names ∧ ¬ names <+: file.1

theorem planted_nil (names : Location) :
    planted [] names = if names = [] then some .directory else none := by
  simp [planted]

section Apart

variable {files : List (Location × String)} {names : Location} (hne : names ≠ [])
  (happart : Apart files names)

include happart

/-- There is no file at or above the place. -/
theorem Apart.lookup {place : Location} (h : place <+: names) : files.lookup place = none := by
  rw [List.lookup_eq_none_iff]
  intro file hfile
  have hne : place ≠ file.1 := fun heq => (happart file hfile).1 (heq ▸ h)
  simpa using hne

/-- No file is in the way. -/
theorem Apart.planted_above {place : Location} (h : place <+: names) :
    planted files place = none ∨ planted files place = some .directory := by
  rw [planted, happart.lookup h]
  dsimp only
  split
  · exact .inr rfl
  · exact .inl rfl

include hne

theorem Apart.planted_self : planted files names = none := by
  rw [planted, happart.lookup List.prefix_rfl]
  refine if_neg ?_
  rintro (hnil | ⟨file, hfile, hpre⟩)
  · exact hne hnil
  · exact (happart file hfile).2 hpre

/-- One more file: it stands at its place, and directories above it. -/
theorem Apart.planted_concat (text : String) (place : Location) :
    planted (files ++ [(names, text)]) place =
      if place = names then some (.plain text.toUTF8)
      else if place <+: names.dropLast then some .directory
      else planted files place := by
  by_cases hplace : place = names
  · subst hplace
    simp [planted, List.lookup_append, happart.lookup List.prefix_rfl]
  have hproper : place <+: names ↔ place <+: names.dropLast := by
    constructor
    · intro hpre
      obtain ⟨init, last, rfl⟩ : ∃ init last, names = init ++ [last] :=
        ⟨_, _, (List.dropLast_concat_getLast hne).symm⟩
      rw [List.dropLast_concat]
      exact (List.prefix_concat_iff.1 hpre).resolve_left hplace
    · exact fun hpre => hpre.trans (List.dropLast_prefix names)
  have hne' : (place == names) = false := by simpa using hplace
  rw [if_neg hplace]
  by_cases hpre : place <+: names.dropLast
  · have hnone := happart.lookup (hproper.2 hpre)
    simp [planted, List.lookup_append, List.lookup_cons, hnone, hne', hpre, hproper]
  · have hcondition : (∃ file ∈ files ++ [(names, text)], place <+: file.1) ↔
        ∃ file ∈ files, place <+: file.1 := by
      simp [or_and_right, exists_or, hproper, hpre]
    simp only [planted, List.lookup_append, List.lookup_cons, hne', List.lookup_nil, Option.or_none,
      hcondition, hpre, if_false]

end Apart

/-- What is above a place below a root is above the root, or below it too. -/
theorem prefix_append_cases {above root names : Location} (h : above <+: root ++ names) :
    (above <+: root ∧ above ≠ root) ∨ ∃ more, above = root ++ more ∧ more <+: names := by
  rcases List.prefix_or_prefix_of_prefix h (List.prefix_append root names) with habove | hroot
  · by_cases heq : above = root
    · exact .inr ⟨[], by simp [heq]⟩
    · exact .inl ⟨habove, heq⟩
  · obtain ⟨more, rfl⟩ := hroot
    exact .inr ⟨more, rfl, (List.prefix_append_right_inj root).1 h⟩

/-- The path of a file is handed to the system as it stands below the root. -/
theorem joined_joinSegments {root names : Location} (hnames : ∀ name ∈ names, IsName name) :
    joined root (joinSegments names) = .ofLocation (root ++ names) := by
  rw [joined, segmentsOf_joinSegments hnames, endsWith_joinSegments hnames]
  rfl

theorem names_joinSegments {names : Location} (hnames : ∀ name ∈ names, IsName name) :
    Workspace.names (joinSegments names) = names := by
  rw [Workspace.names, segmentsOf_joinSegments hnames]
  refine List.filter_eq_self.2 fun name hname => ?_
  simpa using (hnames name hname).ne_dot

section Plant

variable {root : Location} {host fs : FileSystem} {files : List (Location × String)}
  {names : Location} {text : String}

/-- The directories above the place of a further file can be made. -/
theorem createDirAll_planted (hvacant : Vacant host root) (hplanted : Planted root host files fs)
    (hnames : ∀ name ∈ names, IsName name) (happart : Apart files names)
    (hfits : Fits (root ++ names)) :
    ∃ made, fs.createDirAll (root ++ names.dropLast) = (.ok (), made) ∧
      Made (root ++ names.dropLast) fs made := by
  have hshorter : root ++ names.dropLast <+: root ++ names :=
    (List.prefix_append_right_inj root).2 (List.dropLast_prefix names)
  refine createDirAll_plain (fun name hname => ?_) (hfits.of_prefix hshorter) ?_
  · rcases List.mem_append.1 hname with hname | hname
    · exact hvacant.names name hname
    · exact hnames name ((List.dropLast_prefix names).subset hname)
  · intro above habove
    rcases prefix_append_cases habove with ⟨habove, hne⟩ | ⟨more, rfl, hmore⟩
    · rw [hplanted.outside above fun hroot => hne (habove.eq_of_length_le hroot.length_le)]
      exact .inr (hvacant.above above habove hne)
    · rw [hplanted.below]
      exact happart.planted_above (hmore.trans (List.dropLast_prefix names))

/-- **One file is unpacked**: below a root with files of a tree, one more is put at its place. -/
theorem plant_step (hvacant : Vacant host root) (hplanted : Planted root host files fs)
    (hne : names ≠ []) (hnames : ∀ name ∈ names, IsName name) (happart : Apart files names)
    (hfits : Fits (root ++ names)) :
    ∃ fs', writeEntry root fs (joinSegments names) text = (.ok (), fs') ∧
      Planted root host (files ++ [(names, text)]) fs' := by
  obtain ⟨made, hcreated, hmade⟩ :=
    createDirAll_planted hvacant hplanted hnames happart hfits
  have hplace : root ++ names ≠ [] := by simp [hne]
  have hall : ∀ name ∈ root ++ names, IsName name := fun name hname =>
    (List.mem_append.1 hname).elim (hvacant.names name) (hnames name)
  have hsplit : root ++ names.dropLast ++ [names.getLast hne] = root ++ names := by
    rw [List.append_assoc, List.dropLast_concat_getLast]
  have habove : ∀ above, above <+: root ++ names → above ≠ root ++ names →
      made.get? above = some .directory := by
    intro above hpre hproper
    rw [← hsplit] at hpre hproper
    rw [hmade, if_pos ((List.prefix_concat_iff.1 hpre).resolve_left hproper)]
  have hfree : made.get? (root ++ names) = none := by
    have hlonger : ¬ root ++ names <+: root ++ names.dropLast := by
      intro hpre
      have hlength := hpre.length_le
      simp only [← hsplit, List.length_append, List.length_singleton] at hlength
      omega
    rw [hmade, if_neg hlonger, hplanted.below, happart.planted_self hne]
  have hwritten := write_plain hplace hall hfits habove hfree text.toUTF8
  refine ⟨made.put (root ++ names) (.plain text.toUTF8), ?_, ?_, ?_⟩
  · rw [writeEntry, names_joinSegments hnames, List.dropLast_append_of_ne_nil hne, hcreated,
      joined_joinSegments hnames]
    dsimp only
    rw [hwritten]
  · intro place
    rw [get?_put _ _ _ hplace, happart.planted_concat hne, hmade, hplanted.below]
    simp only [List.append_cancel_left_eq, List.prefix_append_right_inj]
  · intro location houtside
    have hother : location ≠ root ++ names := by
      rintro rfl
      exact houtside (List.prefix_append root names)
    rw [get?_put _ _ _ hplace, if_neg hother, hmade]
    split
    next hpre =>
      rcases prefix_append_cases hpre with ⟨habove, hne⟩ | ⟨more, rfl, -⟩
      · exact (hvacant.above location habove hne).symm
      · exact absurd (List.prefix_append root more) houtside
    next => exact hplanted.outside location houtside

/-- A new directory has no files below it. -/
theorem planted_start (hvacant : Vacant host root) :
    Planted root host [] (host.put root .directory) where
  below := by
    intro names
    rw [get?_put _ _ _ hvacant.ne_nil, planted_nil, hvacant.nothing]
    simp
  outside := by
    intro location houtside
    rw [get?_put _ _ _ hvacant.ne_nil, if_neg]
    rintro rfl
    exact houtside List.prefix_rfl

/-- Files of a tree are unpacked one after another. -/
theorem plant_all (hvacant : Vacant host root) {entries : List (String × String)}
    (hplanted : Planted root host files fs)
    (hpaths : ∀ entry ∈ entries, joinSegments (segmentsOf entry.1) = entry.1)
    (htree : IsTree (files ++ places entries))
    (hfits : ∀ entry ∈ entries, Fits (root ++ segmentsOf entry.1)) :
    ∃ fs', writeEntries root fs entries = (.ok (), fs') ∧
      Planted root host (files ++ places entries) fs' := by
  induction entries generalizing files fs with
  | nil => exact ⟨fs, rfl, by rwa [places_nil, List.append_nil]⟩
  | cons entry entries ih =>
      obtain ⟨path, text⟩ := entry
      obtain ⟨hpath, hpaths⟩ := List.forall_mem_cons.1 hpaths
      obtain ⟨hplace, hfits⟩ := List.forall_mem_cons.1 hfits
      rw [places_cons] at htree ⊢
      have hmem : (segmentsOf path, text) ∈ files ++ (segmentsOf path, text) :: places entries := by
        simp
      have happart : Apart files (segmentsOf path) := fun file hfile =>
        (List.pairwise_append.1 htree.apart).2.2 file hfile (segmentsOf path, text)
          List.mem_cons_self
      obtain ⟨fs', hwritten, hplanted'⟩ := @plant_step root host fs files (segmentsOf path) text
        hvacant hplanted (htree.ne_nil _ hmem) (htree.names _ hmem) happart hplace
      rw [hpath] at hwritten
      rw [List.append_cons] at htree ⊢
      obtain ⟨last, hlast, hplanted''⟩ := ih hplanted' hpaths htree hfits
      refine ⟨last, ?_, hplanted''⟩
      rw [writeEntries, hwritten]
      exact hlast

end Plant

/-- A path that is not refused is short enough. -/
theorem fits_of_refused? {location : Location} (h : (Path.ofLocation location).refused? = none) :
    Fits location := by
  rw [Path.refused?] at h
  split at h
  · cases h
  · split at h
    · cases h
    next hfits => exact Nat.not_lt.1 hfits

/-- No path of a file that was written was refused. -/
theorem refused?_of_writeEntries {root : Location} {fs fs' : FileSystem}
    {entries : List (String × String)} (h : writeEntries root fs entries = (.ok (), fs')) :
    ∀ entry ∈ entries, (joined root entry.1).refused? = none := by
  induction entries generalizing fs with
  | nil => exact nofun
  | cons entry entries ih =>
      obtain ⟨path, content⟩ := entry
      rw [writeEntries] at h
      split at h
      · cases h
      next between hentry =>
      refine List.forall_mem_cons.2 ⟨?_, ih h⟩
      rw [writeEntry] at hentry
      split at hentry
      · cases hentry
      · split at hentry
        next written hwrite =>
          obtain ⟨-, parent, name, hdestination, -⟩ := write_cases hwrite
          rw [destination, followPath] at hdestination
          cases hrefused : (joined root path).refused? with
          | none => rfl
          | some fault =>
              rw [hrefused] at hdestination
              cases hdestination
        next => cases hentry

/-! ## Whole file maps -/

/-- A file map has a text at some names. -/
def HasFile (files : FileMap) (names : Location) (text : String) : Prop :=
  (∀ name ∈ names, IsName name) ∧ files.get? (joinSegments names) = some text

/-- Below a root there are exactly the files of a file map and the directories above them, and
everything else is as it was. -/
structure Unpacked (root : Location) (host : FileSystem) (files : FileMap) (made : FileSystem) :
    Prop where
  file : ∀ names content traits, made.get? (root ++ names) = some (.file content traits) ↔
    ∃ text, HasFile files names text ∧ content = text.toUTF8 ∧ traits = {}
  directory : ∀ names, made.get? (root ++ names) = some .directory ↔
    names = [] ∨ ∃ more text, more ≠ [] ∧ HasFile files (names ++ more) text
  link : ∀ names path, made.get? (root ++ names) ≠ some (.link path)
  outside : ∀ location, ¬ root <+: location → made.get? location = host.get? location

/-- A file map with the files of a tree. -/
structure IsTreeMap (files : FileMap) : Prop where
  paths : ∀ path text, files.get? path = some text → joinSegments (segmentsOf path) = path
  tree : IsTree (places files.entries)

/-- The files of a map, none of which has its place below that of another, are at places of a tree. -/
theorem isTree_places {files : FileMap} (hne : ∀ entry ∈ files.entries, segmentsOf entry.1 ≠ [])
    (hnames : ∀ entry ∈ files.entries, ∀ name ∈ segmentsOf entry.1, IsName name)
    (hapart : ∀ first ∈ files.entries, ∀ second ∈ files.entries, first.1 ≠ second.1 →
      ¬ segmentsOf first.1 <+: segmentsOf second.1) : IsTree (places files.entries) where
  ne_nil := by
    intro file hfile
    obtain ⟨entry, hentry, rfl⟩ := List.mem_map.1 hfile
    exact hne entry hentry
  names := by
    intro file hfile
    obtain ⟨entry, hentry, rfl⟩ := List.mem_map.1 hfile
    exact hnames entry hentry
  apart := by
    have hnodup := files.nodup_keys
    rw [List.Nodup, List.pairwise_map] at hnodup
    rw [places, List.pairwise_map]
    refine hnodup.imp_of_mem fun {first second} hfirst hsecond hne => ?_
    exact ⟨hapart first hfirst second hsecond hne, hapart second hsecond first hfirst (Ne.symm hne)⟩

/-- A file map whose paths are those of files, none of which stands below another, has the files of a
tree. -/
theorem isTreeMap_of_places {files : FileMap}
    (hpath : ∀ entry ∈ files.entries, joinSegments (segmentsOf entry.1) = entry.1)
    (hne : ∀ entry ∈ files.entries, segmentsOf entry.1 ≠ [])
    (hnames : ∀ entry ∈ files.entries, ∀ name ∈ segmentsOf entry.1, IsName name)
    (hbelow : ∀ first ∈ files.entries, ∀ second ∈ files.entries, ∀ more ≠ [],
      segmentsOf second.1 ≠ segmentsOf first.1 ++ more) : IsTreeMap files where
  paths := fun path text hget => hpath (path, text) (Dictionary.mem_entries_iff.2 hget)
  tree := by
    refine isTree_places hne hnames ?_
    -- two entries have two paths, so they have two places
    rintro first hfirst second hsecond hother ⟨more, hmore⟩
    refine hbelow first hfirst second hsecond more ?_ hmore.symm
    rintro rfl
    rw [List.append_nil] at hmore
    exact hother (by rw [← hpath first hfirst, hmore, hpath second hsecond])

section Map

variable {root : Location} {host made : FileSystem} {files : FileMap} (htree : IsTreeMap files)

include htree

theorem IsTreeMap.hasFile_iff {names : Location} {text : String} :
    HasFile files names text ↔ (names, text) ∈ places files.entries := by
  rw [places, List.mem_map]
  constructor
  · rintro ⟨hnames, hget⟩
    exact ⟨_, Dictionary.mem_entries_iff.2 hget,
      Prod.ext (segmentsOf_joinSegments hnames) rfl⟩
  · rintro ⟨⟨path, text'⟩, hmem, heq⟩
    obtain ⟨rfl, rfl⟩ := Prod.mk.inj heq
    have hget := Dictionary.mem_entries_iff.1 hmem
    have hplace : (segmentsOf path, text') ∈ places files.entries :=
      List.mem_map.2 ⟨_, hmem, rfl⟩
    exact ⟨htree.tree.names _ hplace, by rwa [htree.paths path text' hget]⟩

/-- No file is above another one. -/
theorem IsTreeMap.eq_of_prefix {names more : Location} {text other : String}
    (h : HasFile files names text) (hother : HasFile files (names ++ more) other) :
    more = [] ∧ other = text := by
  rw [htree.hasFile_iff] at h hother
  have hsymm : Std.Symm fun first second : Location × String =>
      ¬ first.1 <+: second.1 ∧ ¬ second.1 <+: first.1 := ⟨fun _ _ h => ⟨h.2, h.1⟩⟩
  have hsame : (names, text) = (names ++ more, other) := by
    refine Classical.byContradiction fun hne => ?_
    exact (htree.tree.apart.forall h hother hne).1 (List.prefix_append names more)
  obtain ⟨hnames, rfl⟩ := Prod.mk.inj hsame
  exact ⟨List.self_eq_append_right.1 hnames, rfl⟩

theorem IsTreeMap.lookup_iff {names : Location} {text : String} :
    (places files.entries).lookup names = some text ↔ HasFile files names text := by
  constructor
  · intro hlookup
    obtain ⟨before, after, hsplit, -⟩ := List.lookup_eq_some_iff.1 hlookup
    rw [htree.hasFile_iff, hsplit]
    simp
  · intro hfile
    cases hlookup : (places files.entries).lookup names with
    | none =>
        have hnone := List.lookup_eq_none_iff.1 hlookup _ (htree.hasFile_iff.1 hfile)
        simp at hnone
    | some other =>
        obtain ⟨before, after, hsplit, -⟩ := List.lookup_eq_some_iff.1 hlookup
        have hother : HasFile files (names ++ []) other := by
          rw [List.append_nil, htree.hasFile_iff, hsplit]
          simp
        rw [(htree.eq_of_prefix hfile hother).2]

/-- What is planted is what is to be unpacked. -/
theorem IsTreeMap.unpacked (hplanted : Planted root host (places files.entries) made) :
    Unpacked root host files made where
  file := by
    intro names content traits
    rw [hplanted.below, planted]
    constructor
    · intro h
      split at h
      next text hlookup =>
        cases h
        exact ⟨text, htree.lookup_iff.1 hlookup, rfl, rfl⟩
      next => split at h <;> cases h
    · rintro ⟨text, hfile, rfl, rfl⟩
      rw [htree.lookup_iff.2 hfile]
      rfl
  directory := by
    intro names
    rw [hplanted.below, planted]
    constructor
    · intro h
      split at h
      next => cases h
      next hlookup =>
        split at h
        next hcondition =>
          refine hcondition.imp id ?_
          rintro ⟨⟨place, text⟩, hmem, more, rfl⟩
          refine ⟨more, text, ?_, htree.hasFile_iff.2 hmem⟩
          rintro rfl
          rw [List.append_nil] at hmem
          rw [htree.lookup_iff.2 (htree.hasFile_iff.2 hmem)] at hlookup
          cases hlookup
        next => cases h
    · intro h
      have hnone : (places files.entries).lookup names = none := by
        refine Option.eq_none_iff_forall_ne_some.2 fun text hlookup => ?_
        have hfile := htree.lookup_iff.1 hlookup
        rcases h with rfl | ⟨more, other, hne, hother⟩
        · exact htree.tree.ne_nil _ (htree.hasFile_iff.1 hfile) rfl
        · exact hne (htree.eq_of_prefix hfile hother).1
      rw [hnone]
      refine if_pos (h.imp id ?_)
      rintro ⟨more, text, -, hfile⟩
      exact ⟨_, htree.hasFile_iff.1 hfile, List.prefix_append names more⟩
  link := by
    intro names path
    rw [hplanted.below, planted]
    split
    · exact nofun
    · split <;> exact nofun
  outside := hplanted.outside

/-- The paths of a tree stay below the root. -/
theorem IsTreeMap.isSafe {path text : String} (h : files.get? path = some text) :
    isSafe path = true := by
  have hpath := htree.paths path text h
  have hmem : (segmentsOf path, text) ∈ places files.entries :=
    List.mem_map.2 ⟨_, Dictionary.mem_entries_iff.2 h, rfl⟩
  have hnames := htree.tree.names _ hmem
  obtain ⟨c, rest, hfirst, hslash⟩ := head?_joinSegments hnames (htree.tree.ne_nil _ hmem)
  have hup : ".." ∉ segmentsOf path := fun hup => (hnames _ hup).ne_up rfl
  rw [hpath] at hfirst
  simp [Workspace.isSafe, hfirst, hslash, hup]

/-- **A tree of files is unpacked** where nothing stands and its paths are not too long: there are then
exactly its files and the directories above them. -/
theorem IsTreeMap.materialize (hvacant : Vacant host root)
    (hfits : ∀ names text, HasFile files names text → Fits (root ++ names)) :
    ∃ made, materialize root host files = (.ok (), made) ∧ Unpacked root host files made := by
  have hsafe : files.keys.find? (!Workspace.isSafe ·) = none := by
    refine List.find?_eq_none.2 fun path hpath => ?_
    obtain ⟨text, hget⟩ := Option.isSome_iff_exists.1 (Dictionary.mem_keys.1 hpath)
    simp [htree.isSafe hget]
  obtain ⟨made, hmade, hplanted⟩ := plant_all hvacant (planted_start hvacant)
    (fun entry (hentry : entry ∈ files.entries) =>
      htree.paths _ _ (Dictionary.mem_entries_iff.1 hentry))
    htree.tree
    (fun entry hentry => hfits _ entry.2 (htree.hasFile_iff.2 (List.mem_map.2 ⟨_, hentry, rfl⟩)))
  refine ⟨made, ?_, htree.unpacked hplanted⟩
  rw [Workspace.materialize, hsafe]
  simp only [hmade]

omit htree in
/-- What was unpacked is not too long for the system. -/
theorem fits_of_materialize (h : (Workspace.materialize root host files).1 = .ok ())
    {names : Location} {text : String} (hfile : HasFile files names text) : Fits (root ++ names) := by
  obtain ⟨hnames, hget⟩ := hfile
  rw [Workspace.materialize] at h
  split at h
  · cases h
  · split at h
    next last hlast =>
      have hfits := refused?_of_writeEntries hlast _ (Dictionary.mem_entries_of_get? hget)
      rw [joined_joinSegments hnames] at hfits
      exact fits_of_refused? hfits
    next => cases h

/-- **A tree of files is unpacked if and only if no path is too long**, where nothing stands; there are
then exactly its files and the directories above them. -/
theorem IsTreeMap.materialize_iff (hvacant : Vacant host root) :
    ((Workspace.materialize root host files).1 = .ok () ↔
        ∀ names text, HasFile files names text → Fits (root ++ names)) ∧
      ((Workspace.materialize root host files).1 = .ok () →
        Unpacked root host files (Workspace.materialize root host files).2) := by
  have hunpacked := fun hfits => htree.materialize hvacant hfits
  refine ⟨⟨fun h names text => fits_of_materialize h, fun hfits => ?_⟩, fun h => ?_⟩
  · obtain ⟨made, hmade, -⟩ := hunpacked hfits
    rw [hmade]
  · obtain ⟨made, hmade, htree⟩ := hunpacked fun names text => fits_of_materialize h
    rw [hmade]
    exact htree

end Map

end Workspace

end SiteScript
