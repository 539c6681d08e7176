import SiteScript.Proofs.FileTree
import SiteScript.Proofs.Sandbox

/-!
# SiteScript.Proofs.Copying

What copying a file does.  The target is emptied before what the source holds is read, so

1. a copy to another file holds what the source held, and the source holds it still;
2. a copy of a file onto itself, under whatever names, leaves the file empty;

and in both cases nothing else is touched but directories that were missing on the way to the target
(`copyFile_copies`).  Which of the two it is depends on where the paths lead: their spelling, links
and further names of one file are all seen through. -/

namespace SiteScript

namespace FileSystem

/-- **A copy between paths**: what the target names is overwritten, and both paths name the copy. -/
theorem overwrites_of_copy {fs fs' : FileSystem} {source target : Path}
    (h : fs.copy source target = (.ok (), fs')) :
    ∃ origin place content copied traits, fs.LeadsTo source origin ∧ fs.LeadsTo target place ∧
      fs.read source = .ok content ∧ (∃ traits, fs.get? origin = some (.file content traits)) ∧
      Overwrites place copied traits fs fs' ∧
      fs'.read source = .ok copied ∧ fs'.read target = .ok copied ∧
      (fs.IsNameOf place origin → copied = ByteArray.empty) ∧
      (¬ fs.IsNameOf place origin → copied = content) := by
  rw [copy] at h
  split at h
  · cases h
  · cases h
  · cases h
  next content traits hsource =>
  split at h
  · cases h
  next emptied hemptied =>
  split at h
  · cases h
  next copied hcopied =>
  split at h
  · cases h
  next written hwritten =>
  cases h
  obtain ⟨hslash, parent, name, hdestination, hlong, hget⟩ := stat_eq_file.1 hsource
  obtain ⟨hslash', parent', name', traits', hdestination', hlong', hempty⟩ :=
    overwrites_of_write hemptied
  -- the target is the same place all along, and so is the source
  have hthere := hempty.sameWays.destination hdestination'
  obtain ⟨-, _, _, traits'', hthere', -, hfull⟩ := overwrites_of_write hwritten
  rw [hthere] at hthere'
  cases hthere'
  have hfilled := hfull.stat_written hslash' hthere hlong' (.inl rfl)
  have hmode := overwrites_setMode hfilled (hfull.sameWays.destination hthere) traits.mode
  have hall := (hempty.trans hfull).trans hmode
  -- what was read is what the source held, unless that is what was emptied
  have hread : (fs.IsNameOf (parent' ++ [name']) (parent ++ [name]) → copied = ByteArray.empty) ∧
      (¬ fs.IsNameOf (parent' ++ [name']) (parent ++ [name]) → copied = content) := by
    obtain ⟨_, hstat⟩ := read_eq_ok.1 hcopied
    constructor
    · intro hname
      rw [hempty.stat_written hslash hdestination hlong hname] at hstat
      cases hstat
      rfl
    · intro hname
      rw [hempty.stat_other hdestination hname, hsource] at hstat
      cases hstat
      rfl
  refine ⟨parent ++ [name], parent' ++ [name'], content, copied, _, ⟨_, hdestination, rfl⟩,
    ⟨_, hdestination', rfl⟩, read_eq_ok.2 ⟨traits, hsource⟩, ⟨traits, hget⟩, hall, ?_, ?_, hread⟩
  · by_cases hname : fs.IsNameOf (parent' ++ [name']) (parent ++ [name])
    · exact read_eq_ok.2 ⟨_, hall.stat_written hslash hdestination hlong hname⟩
    · rw [hread.2 hname]
      exact read_eq_ok.2 ⟨traits, (hall.stat_other hdestination hname).trans hsource⟩
  · exact read_eq_ok.2 ⟨_, hall.stat_written hslash' hdestination' hlong' (.inl rfl)⟩

end FileSystem

namespace Sandbox

open FileSystem

/-- **What a successful copy does.**  The source leads to a file that was there before, with a
content, and the target to a place.  Nothing is touched but the file at that place and directories
that were missing on the way to it.  If the place is not a name of the source's file, target and
source hold the content afterwards; if it is one, both are empty. -/
theorem copyFile_copies {box : Sandbox} {fs fs' : FileSystem} {source target : String}
    (h : box.copyFile fs source target = (.ok (), fs')) :
    ∃ names names' origin place content copied,
      resolve source = .ok names ∧ resolve target = .ok names' ∧
      fs'.LeadsTo (box.path names) origin ∧ fs'.LeadsTo (box.path names') place ∧
      (∃ traits, fs.get? origin = some (.file content traits)) ∧
      (∀ held, box.read fs source = .ok held → held = content) ∧
      box.Touches names' fs fs' ∧
      box.read fs' source = .ok copied ∧ box.read fs' target = .ok copied ∧
      (¬ fs.IsNameOf place origin → copied = content) ∧
      (fs.IsNameOf place origin → copied = ByteArray.empty) := by
  rw [copyFile] at h
  cases hsource : resolve source with
  | error error =>
      rw [hsource] at h
      cases h
  | ok names =>
  cases htarget : resolve target with
  | error error =>
      rw [hsource, htarget] at h
      cases h
  | ok names' =>
  simp only [hsource, htarget, withParent] at h
  have hway := fs.makesWay_createDirAll (box.parent names')
  split at h
  · cases h
  next made hmade =>
  rw [hmade] at hway
  dsimp only at hway
  split at h
  next last hcopy =>
    cases h
    obtain ⟨origin, place, content, copied, traits, horigin, hplace, hcontent, ⟨traits', hfile⟩,
      hall, hread, hread', hsame, hapart⟩ := overwrites_of_copy hcopy
    -- what counts as one file is the same before directories were made
    have hnames : made.IsNameOf place origin ↔ fs.IsNameOf place origin :=
      hway.sameNames.isNameOf_iff
    have hfile' : fs.get? origin = some (.file content traits') := by
      rw [← hway.get?_eq (by simp [hfile]), hfile]
    refine ⟨names, names', origin, place, content, copied, rfl, rfl,
      hall.sameWays.leadsTo horigin, hall.sameWays.leadsTo hplace, ⟨traits', hfile'⟩, ?_,
      touches_of_writes hway hall.sameWays hplace hall.writes, (read_of_resolve hsource).2 hread,
      (read_of_resolve htarget).2 hread', fun hother => hapart (mt hnames.1 hother),
      fun hone => hsame (hnames.2 hone)⟩
    intro held hheld
    have hheld' := hway.toExtends.read ((read_of_resolve hsource).1 hheld)
    rw [hcontent] at hheld'
    cases hheld'
    rfl
  · cases h

/-- A workspace that holds a list. -/
def listFiles : FileSystem :=
  ⟨[(["shop"], .directory), (["shop", "list.txt"], .plain "one".toUTF8)]⟩

def listBox : Sandbox := ⟨["shop"]⟩

theorem eq_ok_of_toBool {change : Change} (h : change.1.toBool = true) :
    change = (.ok (), change.2) := by
  rcases change with ⟨⟨error⟩ | ⟨⟩, fs⟩
  · cases h
  · rfl

theorem copyFile_copies_list :
    ∃ copies, listBox.copyFile listFiles "/list.txt" "old/./list.txt" = (.ok (), copies) ∧
      listBox.read copies "/list.txt" = .ok "one".toUTF8 ∧
      listBox.read copies "old/./list.txt" = .ok "one".toUTF8 ∧
      listBox.Touches ["old", "list.txt"] listFiles copies := by
  have hcopy := @eq_ok_of_toBool (listBox.copyFile listFiles "/list.txt" "old/./list.txt")
    (by decide +kernel)
  obtain ⟨names, names', origin, place, content, copied, hnames, hnames', ⟨target, htarget, horigin⟩,
    ⟨target', htarget', hplace⟩, -, hcontent, htouches, hread, hread', hsame, -⟩ :=
    copyFile_copies hcopy
  have hsource : resolve "/list.txt" = .ok ["list.txt"] := by decide +kernel
  have hgoal : resolve "old/./list.txt" = .ok ["old", "list.txt"] := by decide +kernel
  obtain rfl : ["list.txt"] = names := Except.ok.inj (hsource.symm.trans hnames)
  obtain rfl : ["old", "list.txt"] = names' := Except.ok.inj (hgoal.symm.trans hnames')
  have hdestination : (listBox.copyFile listFiles "/list.txt" "old/./list.txt").2.destination
      (listBox.path ["list.txt"]) = .ok (.name ["shop"] "list.txt") := by decide +kernel
  have hdestination' : (listBox.copyFile listFiles "/list.txt" "old/./list.txt").2.destination
      (listBox.path ["old", "list.txt"]) = .ok (.name ["shop", "old"] "list.txt") := by decide +kernel
  obtain rfl : .name ["shop"] "list.txt" = target := Except.ok.inj (hdestination.symm.trans htarget)
  obtain rfl : .name ["shop", "old"] "list.txt" = target' :=
    Except.ok.inj (hdestination'.symm.trans htarget')
  have hother : ¬ listFiles.IsNameOf place origin := by
    rw [← horigin, ← hplace, isNameOf_of_single (by decide +kernel)]
    decide +kernel
  have hone : "one".toUTF8 = content := hcontent _ (by decide +kernel)
  rw [hsame hother, ← hone] at hread hread'
  exact ⟨_, hcopy, hread, hread', htouches⟩

/-- Copying a file onto itself succeeds and empties it. -/
theorem copyFile_onto_itself :
    ∃ emptied, listBox.copyFile listFiles "list.txt" "./list.txt" = (.ok (), emptied) ∧
      listBox.read listFiles "list.txt" = .ok "one".toUTF8 ∧
      listBox.read emptied "list.txt" = .ok ByteArray.empty := by
  refine ⟨_, eq_ok_of_toBool (by decide +kernel), ?_, ?_⟩ <;> decide +kernel

end Sandbox

end SiteScript
