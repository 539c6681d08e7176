import SiteScript.Proofs.FileSystem

/-!
# SiteScript.Proofs.Footprint

What a write touches.  Writing a file with everything above it changes the file that the path leads
to, under all names that this file has, and makes the directories that are missing on the way
(`Touches`, `touches_writeFile`).  Everything else stands as before, whether the write succeeds or
fails, so no file goes away. -/

namespace SiteScript

namespace FileSystem

/-- A path leads to a location, links followed, whether anything stands there or not. -/
def LeadsTo (fs : FileSystem) (path : Path) (location : Location) : Prop :=
  ∃ target, fs.destination path = .ok target ∧ target.location = location

theorem SameWays.leadsTo {a b : FileSystem} (h : SameWays a b) {path : Path} {location : Location}
    (hleads : a.LeadsTo path location) : b.LeadsTo path location := by
  obtain ⟨target, hdestination, rfl⟩ := hleads
  exact ⟨target, h.destination hdestination, rfl⟩

/-! ## Directories on the way -/

/-- A path whose last segment is not followed leads to the same place when it is followed and a
directory stands there by then. -/
theorem SameWays.destination_of_target {a b : FileSystem} (h : SameWays a b) {path : Path}
    {parent : Location} {name : String} (htarget : a.target path = .ok (.name parent name))
    (hdirectory : b.get? (parent ++ [name]) = some .directory) :
    b.destination path = .ok (.name parent name) := by
  have hwith : ∀ (jump jump' : List String → Except FileFault Target),
      (∀ segments, jump segments = .ok (.name parent name) →
        jump' segments = .ok (.name parent name)) →
      ∀ segments location, a.followWith jump false location segments = .ok (.name parent name) →
        b.followWith jump' true location segments = .ok (.name parent name) := by
    intro jump jump' hjump segments
    induction segments with
    | nil => exact fun location hfollow => by cases hfollow
    | cons segment rest ih =>
        intro location hfollow
        rw [followWith_cons] at hfollow ⊢
        by_cases hdot : segment = "."
        · rw [if_pos hdot] at hfollow ⊢
          exact ih _ hfollow
        rw [if_neg hdot] at hfollow ⊢
        by_cases hup : segment = ".."
        · rw [if_pos hup] at hfollow ⊢
          exact ih _ hfollow
        rw [if_neg hup] at hfollow ⊢
        match rest with
        | [] =>
            cases hfollow
            rw [hdirectory]
            rfl
        | next :: rest =>
            match hget : a.get? (location ++ [segment]) with
            | some (.link path) =>
                rw [hget] at hfollow
                rw [(h.link _ path).1 hget]
                exact hjump _ hfollow
            | some .directory =>
                rw [hget] at hfollow
                rw [h.directory _ hget]
                exact ih _ hfollow
            | some (.file _ _) | none =>
                rw [hget] at hfollow
                cases hfollow
  have hfollow : ∀ links segments, a.follow false links segments = .ok (.name parent name) →
      b.follow true links segments = .ok (.name parent name) := by
    intro links
    induction links with
    | zero => exact fun segments => hwith _ _ (fun _ hjump => by cases hjump) segments []
    | succ links ih => exact fun segments => hwith _ _ ih segments []
  rw [target, followPath] at htarget
  rw [FileSystem.destination, followPath]
  split at htarget
  · cases htarget
  · exact hfollow _ _ htarget

/-- Between two states of a file system, directories were made on the way of some segments, where
nothing stood. -/
def MakesWay (segments : List String) (a b : FileSystem) : Prop :=
  ∀ location, b.get? location = a.get? location ∨
    (a.get? location = none ∧ b.get? location = some .directory ∧
      ∃ above, above <+: segments ∧ b.LeadsTo (.ofLocation above) location)

namespace MakesWay

theorem refl (segments : List String) (a : FileSystem) : MakesWay segments a a :=
  fun _ => .inl rfl

theorem mono {segments longer : List String} {a b : FileSystem} (h : MakesWay segments a b)
    (hlonger : segments <+: longer) : MakesWay longer a b := by
  intro location
  obtain hsame | ⟨hnone, hmade, above, habove, hleads⟩ := h location
  · exact .inl hsame
  · exact .inr ⟨hnone, hmade, above, habove.trans hlonger, hleads⟩

/-- Directories only are made, so what there was is there still. -/
theorem toExtends {segments : List String} {a b : FileSystem} (h : MakesWay segments a b) :
    Extends a b where
  kept := by
    intro location entry hentry
    obtain hsame | ⟨hnone, -⟩ := h location
    · exact hsame.trans hentry
    · rw [hnone] at hentry
      cases hentry
  link := by
    intro location path hlink
    obtain hsame | ⟨-, hmade, -⟩ := h location
    · exact hsame ▸ hlink
    · rw [hmade] at hlink
      cases hlink

theorem trans {segments : List String} {a b c : FileSystem} (hab : MakesWay segments a b)
    (hbc : MakesWay segments b c) : MakesWay segments a c := by
  intro location
  obtain hsame | ⟨hnone, hmade, hleads⟩ := hbc location
  · obtain hsame' | ⟨hnone', hmade', above, habove, hleads⟩ := hab location
    · exact .inl (hsame.trans hsame')
    · exact .inr ⟨hnone', hsame.trans hmade', above, habove,
        hbc.toExtends.sameWays.leadsTo hleads⟩
  · obtain hsame' | ⟨-, hmade', -⟩ := hab location
    · exact .inr ⟨hsame'.symm.trans hnone, hmade, hleads⟩
    · rw [hmade'] at hnone
      cases hnone

end MakesWay

/-- A directory is made where its path leads. -/
theorem makesWay_makeDirectory {fs fs' : FileSystem} {segments : List String}
    (h : fs.makeDirectory (.ofLocation segments) = .ok fs') : MakesWay segments fs fs' := by
  have hways := (extends_makeDirectory h).sameWays
  obtain ⟨parent, name, htarget, -, hget, -, rfl⟩ := make_cases h
  have hput := fun l => fs.get?_put .directory l (show parent ++ [name] ≠ [] by simp)
  intro location
  by_cases hlocation : location = parent ++ [name]
  · have hmade := (hput location).trans (if_pos hlocation)
    exact .inr ⟨hlocation ▸ hget, hmade, segments, List.prefix_rfl, _,
      hways.destination_of_target htarget (hlocation ▸ hmade), hlocation.symm⟩
  · exact .inl ((hput location).trans (if_neg hlocation))

/-- Making a directory and every missing one above it makes directories on the way to it. -/
theorem makesWay_createDirAll (fs : FileSystem) (segments : List String) :
    MakesWay segments fs (fs.createDirAll segments).2 :=
  createDirAll_relates .refl .trans (fun h => h.mono (List.prefix_append _ _))
    makesWay_makeDirectory fs segments

/-! ## Files -/

/-- Between two states of a file system the file at a location was written, under all its names. -/
def Writes (target : Location) (a b : FileSystem) : Prop :=
  ∀ location, b.get? location = a.get? location ∨
    (a.IsNameOf target location ∧
      (a.get? location = none ∨ ∃ content traits, a.get? location = some (.file content traits)) ∧
      ∃ content traits, b.get? location = some (.file content traits))

/-- What is overwritten is written. -/
theorem Overwrites.writes {target : Location} {content : ByteArray} {traits : Traits}
    {a b : FileSystem} (h : Overwrites target content traits a b) : Writes target a b := by
  intro location
  by_cases hname : a.IsNameOf target location
  · exact .inr ⟨hname, (h.old_of_name hname).2, content, traits, h.new location hname⟩
  · exact .inl (h.others location hname)

/-- A write changes the file that its path leads to, and no way. -/
theorem writes_of_write {fs fs' : FileSystem} {path : Path} {content : ByteArray}
    (h : fs.write path content = .ok fs') :
    SameWays fs fs' ∧ ∃ location, fs.LeadsTo path location ∧ Writes location fs fs' := by
  obtain ⟨-, parent, name, traits, hdestination, -, hoverwrites⟩ := overwrites_of_write h
  exact ⟨hoverwrites.sameWays, _, ⟨_, hdestination, rfl⟩, hoverwrites.writes⟩

/-- Where nothing but a new directory could stand otherwise, what stands is what stood before. -/
theorem MakesWay.get?_eq {segments : List String} {a b : FileSystem} (h : MakesWay segments a b)
    {location : Location} (hnot : b.get? location ≠ some .directory) :
    b.get? location = a.get? location := by
  obtain hsame | ⟨-, hmade, -⟩ := h location
  · exact hsame
  · exact absurd hmade hnot

/-- Making directories gives no file a name. -/
theorem MakesWay.sameNames {segments : List String} {a b : FileSystem} (h : MakesWay segments a b) :
    SameNames a b := by
  intro location
  obtain hsame | ⟨hnone, hmade, -⟩ := h location
  · rw [hsame]
  · rw [hnone, hmade]
    rfl

end FileSystem

namespace Sandbox

open FileSystem

/-- What can become of a location when what some names lead to is touched. -/
inductive Touched (box : Sandbox) (names : List String) (a b : FileSystem) (location : Location) :
    Prop where
  | same (h : b.get? location = a.get? location)
  /-- A name of the file that the names lead to, which was not there or a file before. -/
  | file {target : Location} (hleads : b.LeadsTo (box.path names) target)
      (hname : a.IsNameOf target location)
      (hold : a.get? location = none ∨
        ∃ content traits, a.get? location = some (.file content traits))
      (hnew : ∃ content traits, b.get? location = some (.file content traits))
  /-- A directory on the way that was missing. -/
  | directory {above : List String} (hnone : a.get? location = none)
      (hmade : b.get? location = some .directory) (habove : above <+: box.parent names)
      (hleads : b.LeadsTo (.ofLocation above) location)

/-- Between two states of a file system nothing changed but what some names lead to: the file, under
all its names, and the directories on the way to it that were missing. -/
def Touches (box : Sandbox) (names : List String) (a b : FileSystem) : Prop :=
  ∀ location, box.Touched names a b location

/-- No file goes away. -/
theorem Touches.file_stays {box : Sandbox} {names : List String} {a b : FileSystem}
    (h : box.Touches names a b) {location : Location} {content : ByteArray} {traits : Traits}
    (hfile : a.get? location = some (.file content traits)) :
    ∃ content traits, b.get? location = some (.file content traits) := by
  cases h location with
  | same hsame => exact ⟨content, traits, hsame.trans hfile⟩
  | file _ _ _ hnew => exact hnew
  | directory hnone =>
      rw [hnone] at hfile
      cases hfile

theorem touches_of_makesWay {box : Sandbox} {names : List String} {a b : FileSystem}
    (h : MakesWay (box.parent names) a b) : box.Touches names a b := by
  intro location
  obtain hsame | ⟨hnone, hmade, above, habove, hleads⟩ := h location
  · exact .same hsame
  · exact .directory hnone hmade habove hleads

/-- Directories are made first, then the file is written. -/
theorem touches_of_writes {box : Sandbox} {names : List String} {a made b : FileSystem}
    (hway : MakesWay (box.parent names) a made) (hsame : SameWays made b) {target : Location}
    (hleads : made.LeadsTo (box.path names) target) (hwrites : Writes target made b) :
    box.Touches names a b := by
  intro location
  obtain hwritten | ⟨hname, hold, hnew⟩ := hwrites location
  · obtain hkept | ⟨hnone, hmade, above, habove, hleads'⟩ := hway location
    · exact .same (hwritten.trans hkept)
    · exact .directory hnone (hwritten.trans hmade) habove (hsame.leadsTo hleads')
  · have hkept : made.get? location = a.get? location := by
      refine hway.get?_eq fun hmade => ?_
      rw [hmade] at hold
      simp at hold
    exact .file (hsame.leadsTo hleads) (hway.sameNames.isNameOf_iff.1 hname) (hkept ▸ hold) hnew

/-- **What a write touches.** -/
theorem touches_writeFile {box : Sandbox} {fs : FileSystem} {path : String} {names : List String}
    (hresolve : resolve path = .ok names) (content : ByteArray) :
    box.Touches names fs (box.writeFile fs path content).2 := by
  have hway := fs.makesWay_createDirAll (box.parent names)
  simp only [writeFile, hresolve, withParent]
  split
  next fault made heq =>
    rw [heq] at hway
    exact touches_of_makesWay hway
  next made heq =>
    rw [heq] at hway
    cases hwrite : made.write (box.path names) content with
    | error fault => exact touches_of_makesWay hway
    | ok written =>
        obtain ⟨hsame, target, hleads, hwrites⟩ := writes_of_write hwrite
        exact touches_of_writes hway hsame hleads hwrites

/-- A path that leads out of the sandbox is not written to. -/
theorem writeFile_footprint (box : Sandbox) (fs : FileSystem) (path : String) (content : ByteArray) :
    (box.writeFile fs path content).2 = fs ∨
      ∃ names, resolve path = .ok names ∧ box.Touches names fs (box.writeFile fs path content).2 := by
  match hresolve : resolve path with
  | .error error => exact .inl (by simp only [writeFile, hresolve])
  | .ok names => exact .inr ⟨names, rfl, touches_writeFile hresolve content⟩

end Sandbox

end SiteScript
