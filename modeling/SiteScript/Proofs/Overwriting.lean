import SiteScript.Proofs.Ways

/-!
# SiteScript.Proofs.Overwriting

What stands where after a file was written, location by location.

1. Writing a file, or changing its mode, gives it a content and traits under every name that it has,
   and leaves everything else as it is (`Overwrites`).
2. No file gets another name or loses one by this, so the names of a file are the same in all the
   states between such changes (`SameNames`).
3. A path names a file when it leads to the location of one and ends in a name (`stat_eq_file`), so
   what it names afterwards is told by where it leads (`Overwrites.stat_written`,
   `Overwrites.stat_other`); the path that was written names what was written (`stat_write`). -/

namespace SiteScript.FileSystem

/-! ## Names of files -/

/-- The names of the file at a location: the location itself, and the others that share its number.
-/
def IsNameOf (fs : FileSystem) (location other : Location) : Prop :=
  other = location ∨ areOneFile (fs.get? location) (fs.get? other) = true

instance (fs : FileSystem) (location other : Location) : Decidable (fs.IsNameOf location other) :=
  inferInstanceAs (Decidable (_ ∨ _))

/-- In two states of a file system files are also files elsewhere in the same way. -/
def SameNames (a b : FileSystem) : Prop :=
  ∀ location, (b.get? location).bind Entry.shared? = (a.get? location).bind Entry.shared?

namespace SameNames

variable {a b c : FileSystem}

theorem refl (a : FileSystem) : SameNames a a := fun _ => rfl

theorem trans (hab : SameNames a b) (hbc : SameNames b c) : SameNames a c :=
  fun location => (hbc location).trans (hab location)

theorem isNameOf_iff (h : SameNames a b) {location other : Location} :
    b.IsNameOf location other ↔ a.IsNameOf location other := by
  rw [IsNameOf, IsNameOf, areOneFile, areOneFile, h location, h other]

end SameNames

/-- The names of a file with a number are the locations of entries with this number. -/
theorem isNameOf_of_shared {fs : FileSystem} {location other : Location} {number : Nat}
    (h : (fs.get? location).bind Entry.shared? = some number) :
    fs.IsNameOf location other ↔ (fs.get? other).bind Entry.shared? = some number := by
  rw [IsNameOf, areOneFile, h]
  constructor
  · rintro (rfl | hone)
    · exact h
    · split at hone
      next hm hn =>
        cases hm
        rw [hn, of_decide_eq_true hone]
      next => cases hone
  · intro hother
    rw [hother]
    exact .inr (decide_eq_true rfl)

/-- What has no number has no other name. -/
theorem isNameOf_of_single {fs : FileSystem} {location other : Location}
    (h : (fs.get? location).bind Entry.shared? = none) : fs.IsNameOf location other ↔ other = location := by
  simp [IsNameOf, areOneFile, h]

namespace IsNameOf

variable {fs : FileSystem} {location other another : Location}

theorem symm (h : fs.IsNameOf location other) : fs.IsNameOf other location := by
  cases hnumber : (fs.get? location).bind Entry.shared? with
  | none => exact .inl ((isNameOf_of_single hnumber).1 h).symm
  | some number => exact (isNameOf_of_shared ((isNameOf_of_shared hnumber).1 h)).2 hnumber

theorem trans (h : fs.IsNameOf location other) (h' : fs.IsNameOf other another) :
    fs.IsNameOf location another := by
  cases hnumber : (fs.get? location).bind Entry.shared? with
  | none => exact (isNameOf_of_single hnumber).1 h ▸ h'
  | some number =>
      exact (isNameOf_of_shared hnumber).2
        ((isNameOf_of_shared ((isNameOf_of_shared hnumber).1 h)).1 h')

end IsNameOf

/-! ## Overwriting -/

/-- Between two states of a file system the file at a location got a content and traits, under all
its names; it may have been made. -/
structure Overwrites (target : Location) (content : ByteArray) (traits : Traits) (a b : FileSystem) :
    Prop where
  old : (a.get? target = none ∧ traits.shared = none) ∨ ∃ content' traits',
    a.get? target = some (.file content' traits') ∧ traits'.shared = traits.shared
  new : ∀ location, a.IsNameOf target location → b.get? location = some (.file content traits)
  others : ∀ location, ¬ a.IsNameOf target location → b.get? location = a.get? location

namespace Overwrites

variable {target : Location} {content content' : ByteArray} {traits traits' : Traits}
  {a b c : FileSystem}

theorem get?_target (h : Overwrites target content traits a b) :
    b.get? target = some (.file content traits) := h.new target (.inl rfl)

/-- What is overwritten shares what the new file does, and was a file unless nothing was there. -/
theorem old_of_name (h : Overwrites target content traits a b) {location : Location}
    (hname : a.IsNameOf target location) :
    (a.get? location).bind Entry.shared? = traits.shared ∧
      (a.get? location = none ∨ ∃ content' traits', a.get? location = some (.file content' traits')) := by
  cases hshared : traits.shared with
  | none =>
      have htarget : (a.get? target).bind Entry.shared? = none := by
        rcases h.old with ⟨hnone, -⟩ | ⟨_, traits', hfile, heq⟩
        · rw [hnone]
          rfl
        · rw [hfile]
          exact heq.trans hshared
      obtain rfl := (isNameOf_of_single htarget).1 hname
      exact ⟨htarget, h.old.imp And.left fun ⟨content', traits', hfile, _⟩ => ⟨content', traits', hfile⟩⟩
  | some number =>
      have htarget : (a.get? target).bind Entry.shared? = some number := by
        rcases h.old with ⟨-, hsingle⟩ | ⟨_, traits', hfile, heq⟩
        · rw [hshared] at hsingle
          cases hsingle
        · rw [hfile]
          exact heq.trans hshared
      have hnumber := (isNameOf_of_shared htarget).1 hname
      refine ⟨hnumber, .inr ?_⟩
      -- only files share numbers
      match hget : a.get? location with
      | some (.file content' traits') => exact ⟨content', traits', rfl⟩
      | some .directory | some (.link _) | none =>
          rw [hget] at hnumber
          cases hnumber

theorem sameNames (h : Overwrites target content traits a b) : SameNames a b := by
  intro location
  by_cases hname : a.IsNameOf target location
  · rw [h.new location hname]
    exact (h.old_of_name hname).1.symm
  · rw [h.others location hname]

/-- Files are overwritten, so no way changes. -/
theorem sameWays (h : Overwrites target content traits a b) : SameWays a b where
  directory := by
    intro location hdirectory
    rw [h.others location, hdirectory]
    intro hname
    rcases (h.old_of_name hname).2 with hnone | ⟨_, _, hfile⟩
    · rw [hnone] at hdirectory
      cases hdirectory
    · rw [hfile] at hdirectory
      cases hdirectory
  link := by
    intro location path
    by_cases hname : a.IsNameOf target location
    · rw [h.new location hname]
      rcases (h.old_of_name hname).2 with hnone | ⟨_, _, hfile⟩
      · rw [hnone]
        exact ⟨nofun, nofun⟩
      · rw [hfile]
        exact ⟨nofun, nofun⟩
    · rw [h.others location hname]

/-- Of two contents that a file gets the later one stays. -/
theorem trans (h : Overwrites target content traits a b) (h' : Overwrites target content' traits' b c) :
    Overwrites target content' traits' a c where
  old := by
    have hshared : traits.shared = traits'.shared := by
      have hnew := (h'.old_of_name (.inl rfl)).1
      rwa [h.get?_target] at hnew
    rw [← hshared]
    exact h.old
  new := fun location hname => h'.new location (h.sameNames.isNameOf_iff.2 hname)
  others := fun location hname =>
    (h'.others location (mt h.sameNames.isNameOf_iff.1 hname)).trans (h.others location hname)

end Overwrites

/-- Putting a file with a single name in place is overwriting. -/
theorem overwrites_put {fs : FileSystem} {location : Location} (hne : location ≠ [])
    {traits : Traits} (hsingle : traits.shared = none)
    (hold : fs.get? location = none ∨ ∃ content' traits',
      fs.get? location = some (.file content' traits') ∧ traits'.shared = none)
    (content : ByteArray) :
    Overwrites location content traits fs (fs.put location (.file content traits)) := by
  have hshared : (fs.get? location).bind Entry.shared? = none := by
    rcases hold with hnone | ⟨_, _, hfile, hsingle'⟩
    · rw [hnone]
      rfl
    · rw [hfile]
      exact hsingle'
  refine ⟨?_, fun l hname => ?_, fun l hname => ?_⟩
  · rw [hsingle]
    exact hold.imp_left fun hnone => ⟨hnone, rfl⟩
  · rw [isNameOf_of_single hshared] at hname
    rw [get?_put fs _ l hne, if_pos hname]
  · rw [isNameOf_of_single hshared] at hname
    rw [get?_put fs _ l hne, if_neg hname]

/-- What stands somewhere after the file of a number is changed. -/
theorem get?_map_shared (entries : List (Location × Entry)) (number : Nat) (content : ByteArray)
    (traits : Traits) (location : Location) :
    (entries.map fun (l, entry) =>
      (l, if entry.shared? = some number then .file content traits else entry)).lookup location =
      (entries.lookup location).map fun entry =>
        if entry.shared? = some number then .file content traits else entry := by
  induction entries with
  | nil => rfl
  | cons head rest ih =>
      obtain ⟨l, entry⟩ := head
      rw [List.map_cons, List.lookup_cons, List.lookup_cons, ih]
      split <;> rfl

/-- Changing a file that has a number changes all entries with this number. -/
theorem get?_rewrite_of_shared (fs : FileSystem) (location : Location) (content : ByteArray)
    {traits : Traits} {number : Nat} (hshared : traits.shared = some number) (l : Location) :
    (fs.rewrite location content traits).get? l = (fs.get? l).map fun entry =>
      if entry.shared? = some number then .file content traits else entry := by
  by_cases hnil : l = []
  · subst hnil
    simp [Entry.shared?]
  · simp only [rewrite, hshared]
    rw [get?_of_ne_nil _ hnil, get?_map_shared, ← get?_of_ne_nil _ hnil]

/-- Changing a file is overwriting it. -/
theorem overwrites_rewrite {fs : FileSystem} {location : Location} (hne : location ≠ [])
    {old : ByteArray} {traits traits' : Traits}
    (hfile : fs.get? location = some (.file old traits')) (hshared : traits'.shared = traits.shared)
    (content : ByteArray) : Overwrites location content traits fs (fs.rewrite location content traits) := by
  cases hnumber : traits.shared with
  | none =>
      rw [rewrite, hnumber]
      exact overwrites_put hne hnumber (.inr ⟨old, traits', hfile, hshared.trans hnumber⟩) content
  | some number =>
      have hget := fs.get?_rewrite_of_shared location content hnumber
      have hnames : ∀ {l}, fs.IsNameOf location l ↔ (fs.get? l).bind Entry.shared? = some number := by
        refine isNameOf_of_shared ?_
        rw [hfile]
        exact hshared.trans hnumber
      refine ⟨.inr ⟨old, traits', hfile, hshared⟩, fun l hname => ?_, fun l hname => ?_⟩
      · rw [hnames] at hname
        obtain ⟨entry, hentry, hnumber'⟩ := Option.bind_eq_some_iff.1 hname
        rw [hget, hentry, Option.map_some, if_pos hnumber']
      · rw [hnames] at hname
        rw [hget]
        cases hentry : fs.get? l with
        | none => rfl
        | some entry =>
            rw [hentry, Option.bind_some] at hname
            rw [Option.map_some, if_neg hname]

/-! ## Paths of files -/

/-- A path that names a file leads to a name, and the file stands there. -/
theorem stat_eq_file {fs : FileSystem} {path : Path} {content : ByteArray} {traits : Traits} :
    fs.stat path = .ok (.file content traits) ↔ path.slash = false ∧ ∃ parent name,
      fs.destination path = .ok (.name parent name) ∧ tooLong name = false ∧
      fs.get? (parent ++ [name]) = some (.file content traits) := by
  rw [stat]
  rcases fs.destination path with fault | ⟨parent, name⟩ | location
  case error | ok.directory => simp [entryAt]
  case ok.name =>
    have hname : (path.slash = false ∧ ∃ parent' name',
        Except.ok (Target.name parent name) = (.ok (.name parent' name') : Except FileFault Target) ∧
          tooLong name' = false ∧
          fs.get? (parent' ++ [name']) = some (.file content traits)) ↔
        path.slash = false ∧ tooLong name = false ∧
          fs.get? (parent ++ [name]) = some (.file content traits) := by
      refine and_congr_right fun _ => ⟨?_, ?_⟩
      · rintro ⟨_, _, heq, hlong, hget⟩
        cases heq
        exact ⟨hlong, hget⟩
      · rintro ⟨hlong, hget⟩
        exact ⟨parent, name, rfl, hlong, hget⟩
    rw [hname]
    simp only [entryAt]
    cases hlong : tooLong name <;> cases hslash : path.slash <;>
      rcases hget : fs.get? (parent ++ [name]) with _ | ⟨_, _⟩ | _ | _ <;>
      simp

/-- **What a write does.**  Its path leads to a name; a file that stands there is rewritten, and
where nothing stands a file is put. -/
theorem write_cases {fs fs' : FileSystem} {path : Path} {content : ByteArray}
    (h : fs.write path content = .ok fs') :
    path.slash = false ∧ ∃ parent name, fs.destination path = .ok (.name parent name) ∧
      tooLong name = false ∧
      ((fs.get? (parent ++ [name]) = none ∧ fs' = fs.put (parent ++ [name]) (.plain content)) ∨
        ∃ old traits, fs.get? (parent ++ [name]) = some (.file old traits) ∧
          fs' = fs.rewrite (parent ++ [name]) content traits) := by
  rw [write] at h
  rcases hdestination : fs.destination path with fault | ⟨parent, name⟩ | location
  case error | ok.directory =>
    rw [hdestination] at h
    cases h
  case ok.name =>
    simp only [hdestination] at h
    split at h
    · cases h
    next hslash =>
    split at h
    · cases h
    next hlong =>
    refine ⟨by simpa using hslash, parent, name, rfl, by simpa using hlong, ?_⟩
    rcases hget : fs.get? (parent ++ [name]) with _ | ⟨old, traits⟩ | _ | text <;> rw [hget] at h
    case none =>
      cases h
      exact .inl ⟨rfl, rfl⟩
    case some.file =>
      cases h
      exact .inr ⟨old, traits, rfl, rfl⟩
    case some.directory => cases h
    case some.link => exact absurd hget (get?_destination_ne_link hdestination text)

/-- A write overwrites what its path leads to. -/
theorem overwrites_of_write {fs fs' : FileSystem} {path : Path} {content : ByteArray}
    (h : fs.write path content = .ok fs') :
    path.slash = false ∧ ∃ parent name traits, fs.destination path = .ok (.name parent name) ∧
      tooLong name = false ∧ Overwrites (parent ++ [name]) content traits fs fs' := by
  obtain ⟨hslash, parent, name, hdestination, hlong, hwritten⟩ := write_cases h
  have hne : parent ++ [name] ≠ [] := by simp
  obtain ⟨hget, rfl⟩ | ⟨old, traits, hget, rfl⟩ := hwritten
  · exact ⟨hslash, parent, name, {}, hdestination, hlong,
      overwrites_put hne rfl (.inl hget) content⟩
  · exact ⟨hslash, parent, name, traits, hdestination, hlong,
      overwrites_rewrite hne hget rfl content⟩

section Stat

variable {parent target : Location} {name : String} {path : Path} {content content' : ByteArray}
  {traits traits' : Traits} {a b : FileSystem}

/-- A path that leads to a name of the file names what the file became. -/
theorem Overwrites.stat_written (h : Overwrites target content traits a b) (hslash : path.slash = false)
    (hdestination : a.destination path = .ok (.name parent name)) (hlong : tooLong name = false)
    (hname : a.IsNameOf target (parent ++ [name])) : b.stat path = .ok (.file content traits) :=
  stat_eq_file.2 ⟨hslash, parent, name, h.sameWays.destination hdestination, hlong, h.new _ hname⟩

/-- A path that names another file names it still. -/
theorem Overwrites.stat_other (h : Overwrites target content traits a b)
    (hdestination : a.destination path = .ok (.name parent name))
    (hother : ¬ a.IsNameOf target (parent ++ [name])) : b.stat path = a.stat path := by
  refine h.sameWays.stat_eq hdestination fun parent' name' heq => ?_
  cases heq
  exact h.others _ hother

end Stat

/-- **A file that was written is there**: its path names it, with the content that was written. -/
theorem stat_write {fs fs' : FileSystem} {path : Path} {content : ByteArray}
    (h : fs.write path content = .ok fs') :
    ∃ traits, fs'.stat path = .ok (.file content traits) := by
  obtain ⟨hslash, parent, name, traits, hdestination, hlong, hoverwrites⟩ := overwrites_of_write h
  exact ⟨traits, hoverwrites.stat_written hslash hdestination hlong (.inl rfl)⟩

/-- Changing the mode of a file overwrites it with its content. -/
theorem overwrites_setMode {fs : FileSystem} {path : Path} {content : ByteArray} {traits : Traits}
    {parent : Location} {name : String} (hstat : fs.stat path = .ok (.file content traits))
    (hdestination : fs.destination path = .ok (.name parent name)) (mode : Nat) :
    Overwrites (parent ++ [name]) content { traits with mode } fs (fs.setMode path mode) := by
  obtain ⟨-, parent', name', hdestination', -, hget⟩ := stat_eq_file.1 hstat
  rw [hdestination] at hdestination'
  cases hdestination'
  have hshared : traits.shared = { traits with mode }.shared := rfl
  simp only [setMode, locate?, hstat, hdestination, Target.location]
  exact overwrites_rewrite (by simp) hget hshared content

end SiteScript.FileSystem
