import SiteScript.Bytes
import SiteScript.Proofs.Overwriting
import SiteScript.Sandbox

/-!
# SiteScript.Proofs.FileSystem

What is written can be read.  Making directories adds to a file system and takes nothing away
(`Extends`), so what a path names it still names; and a file that a script wrote is read with the text
that was written (`readText_writeFile`). -/

namespace SiteScript

namespace FileSystem

/-! ## Making directories -/

/-- **What making an entry does.**  Its path leads to a name where nothing stands, and the entry is put
there. -/
theorem make_cases {fs fs' : FileSystem} {path : Path} {entry : Entry}
    (h : fs.make path entry = .ok fs') :
    ∃ parent name, fs.target path = .ok (.name parent name) ∧ tooLong name = false ∧
      fs.get? (parent ++ [name]) = none ∧ (path.slash && !entry.isDirectory) = false ∧
      fs' = fs.put (parent ++ [name]) entry := by
  rw [make] at h
  rcases htarget : fs.target path with fault | ⟨parent, name⟩ | location
  case error | ok.directory =>
    rw [htarget] at h
    cases h
  case ok.name =>
    simp only [htarget] at h
    split at h
    · cases h
    next hlong =>
    split at h
    · cases h
    next hget =>
    split at h
    · cases h
    next hslash =>
    cases h
    exact ⟨parent, name, rfl, by simpa using hlong, hget, by simpa using hslash, rfl⟩

/-- Everything that stands in one file system stands in the other, which has no other links. -/
structure Extends (a b : FileSystem) : Prop where
  kept : ∀ location entry, a.get? location = some entry → b.get? location = some entry
  link : ∀ location path, b.get? location = some (.link path) → a.get? location = some (.link path)

namespace Extends

theorem refl (a : FileSystem) : Extends a a := ⟨fun _ _ h => h, fun _ _ h => h⟩

theorem trans {a b c : FileSystem} (hab : Extends a b) (hbc : Extends b c) : Extends a c :=
  ⟨fun l e h => hbc.kept l e (hab.kept l e h), fun l p h => hab.link l p (hbc.link l p h)⟩

theorem sameWays {a b : FileSystem} (h : Extends a b) : SameWays a b where
  directory := fun location hdirectory => h.kept location _ hdirectory
  link := fun location path => ⟨h.kept location _, h.link location path⟩

/-- What a path names it still names. -/
theorem stat {a b : FileSystem} (h : Extends a b) {path : Path} {entry : Entry}
    (hstat : a.stat path = .ok entry) : b.stat path = .ok entry := by
  rw [FileSystem.stat] at hstat ⊢
  rcases hdestination : a.destination path with fault | ⟨parent, name⟩ | location
  case error =>
    rw [hdestination] at hstat
    cases hstat
  case ok.directory =>
    rw [hdestination] at hstat
    rw [h.sameWays.destination hdestination]
    exact hstat
  case ok.name =>
    rw [hdestination] at hstat
    rw [h.sameWays.destination hdestination]
    simp only [entryAt] at hstat ⊢
    cases hget : a.get? (parent ++ [name]) with
    | none =>
        rw [hget] at hstat
        split at hstat <;> cases hstat
    | some found =>
        rw [hget] at hstat
        rw [h.kept _ _ hget]
        exact hstat

end Extends

/-- A directory is made where nothing stands. -/
theorem extends_makeDirectory {fs fs' : FileSystem} {path : Path}
    (h : fs.makeDirectory path = .ok fs') : Extends fs fs' := by
  obtain ⟨parent, name, -, -, hget, -, rfl⟩ := make_cases h
  have hput := fun l => fs.get?_put .directory l (show parent ++ [name] ≠ [] by simp)
  refine ⟨fun l entry hl => ?_, fun l text hl => ?_⟩
  · rw [hput, if_neg, hl]
    rintro rfl
    rw [hget] at hl
    cases hl
  · rw [hput] at hl
    split at hl
    · cases hl
    · exact hl

/-- **What is true of making one directory is true of making it with all that is missing above it.**
The relation may speak of the segments on the way: what holds on the way to a directory has to hold
on the way to what is below it. -/
theorem createDirAll_relates {R : List String → FileSystem → FileSystem → Prop}
    (hrefl : ∀ segments fs, R segments fs fs)
    (htrans : ∀ {segments a b c}, R segments a b → R segments b c → R segments a c)
    (hbelow : ∀ {above last a b}, R above a b → R (above ++ [last]) a b)
    (hmake : ∀ {segments fs fs'}, fs.makeDirectory (.ofLocation segments) = .ok fs' →
      R segments fs fs')
    (fs : FileSystem) (segments : List String) : R segments fs (fs.createDirAll segments).2 := by
  have hup : ∀ (reversed : List String) (fs : FileSystem),
      R reversed.reverse fs (fs.createDirAllUp reversed).2 := by
    intro reversed
    induction reversed with
    | nil => exact fun fs => hrefl _ fs
    | cons last above ih =>
        intro fs
        have habove : R (last :: above).reverse fs (fs.createDirAllUp above).2 := by
          rw [List.reverse_cons]
          exact hbelow (ih fs)
        simp only [createDirAllUp]
        split
        next hmade => exact hmake hmade
        next =>
          split
          next heq => rwa [heq] at habove
          next between heq =>
            rw [heq] at habove
            split
            next hmade => exact htrans habove (hmake hmade)
            next => split <;> exact habove
        next => split <;> exact hrefl _ fs
  have h := hup segments.reverse fs
  rwa [List.reverse_reverse] at h

/-- Making a directory and the missing ones above it leaves everything else as it was. -/
theorem extends_createDirAll (fs : FileSystem) (segments : List String) :
    Extends fs (fs.createDirAll segments).2 :=
  createDirAll_relates (fun _ => .refl) .trans id extends_makeDirectory fs segments

end FileSystem

namespace Sandbox

/-- The text of a file is the same after something else was added. -/
theorem readText_of_extends {box : Sandbox} {fs fs' : FileSystem} (h : FileSystem.Extends fs fs')
    {path text : String} (hfile : box.isFile fs path = true)
    (htext : box.readText fs path = .ok text) :
    box.isFile fs' path = true ∧ box.readText fs' path = .ok text := by
  rw [isFile] at hfile ⊢
  rw [readText] at htext ⊢
  split at hfile
  · cases hfile
  next names hresolve =>
  simp only [hresolve, FileSystem.isFile, FileSystem.readText, FileSystem.read] at hfile htext ⊢
  split at hfile
  next content traits hstat =>
    rw [h.stat hstat]
    rw [hstat] at htext
    exact ⟨rfl, htext⟩
  next => cases hfile

/-- A write that fails may have made directories, and nothing else. -/
theorem extends_of_writeFile_error {box : Sandbox} {fs fs' : FileSystem} {path : String}
    {content : ByteArray} {error : HostError}
    (h : box.writeFile fs path content = (.error error, fs')) : FileSystem.Extends fs fs' := by
  rw [writeFile] at h
  split at h
  · cases h
    exact .refl fs
  next names _ =>
  have hparent := fs.extends_createDirAll (box.parent names)
  rw [withParent] at h
  split at h
  next heq =>
    cases h
    rwa [heq] at hparent
  next made heq =>
    rw [heq] at hparent
    unfold ofCall at h
    split at h
    · cases h
    · cases h
      exact hparent

/-- A file that a script wrote is a regular file, and its text is what was written. -/
theorem readText_writeFile {box : Sandbox} {fs fs' : FileSystem} {path text : String}
    (h : box.writeFile fs path text.toUTF8 = (.ok (), fs')) :
    box.isFile fs' path = true ∧ box.readText fs' path = .ok text := by
  rw [writeFile] at h
  rw [isFile, readText]
  match hresolve : resolve path with
  | .error _ =>
      rw [hresolve] at h
      cases h
  | .ok names =>
      simp only [hresolve, withParent] at h
      split at h
      · cases h
      next made _ =>
      match hwrite : made.write (box.path names) text.toUTF8 with
      | .error _ =>
          rw [hwrite] at h
          cases h
      | .ok written =>
          rw [hwrite] at h
          cases h
          obtain ⟨traits, hstat⟩ := FileSystem.stat_write hwrite
          have htext : String.fromUTF8? text.toUTF8 = some text := Bytes.toText?_ofText text
          simp only [FileSystem.isFile, FileSystem.readText, FileSystem.read, hstat, htext]
          exact ⟨trivial, rfl⟩

end Sandbox

end SiteScript
