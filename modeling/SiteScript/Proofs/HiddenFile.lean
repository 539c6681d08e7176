import SiteScript.Proofs.Footprint

/-!
# SiteScript.Proofs.HiddenFile

Two file systems that differ in the content of a file.  Paths are followed through directories and
links, so they lead to the same places in both (`AlikeBut.followPath`), and no call that keeps away from
the file tells the two apart: it fails in both or in neither, gives the same, and leaves two file
systems that differ in the content of that file again (`AlikeBut.write`, `AlikeBut.makeDirectory`).

Which places a path can come to lead to is told by the links alone (`Leads`), however many directories
are made on the way to it later on.  Below a root without links, a path that does not go up leads to
below the root (`Leads.stays_below_root`). -/

namespace SiteScript

namespace FileSystem

/-! ## Where links lead -/

/-- Segments lead from a directory to a location when links are followed, if whatever else stands or comes
to stand on the way is a directory. -/
inductive Leads (fs : FileSystem) : Location → List String → Location → Prop where
  | here {location : Location} : Leads fs location [] location
  | dot {location last : Location} {rest : List String} (h : Leads fs location rest last) :
      Leads fs location ("." :: rest) last
  | up {location last : Location} {rest : List String} (h : Leads fs location.dropLast rest last) :
      Leads fs location (".." :: rest) last
  | link {location last : Location} {segment path : String} {rest : List String}
      (hlink : fs.get? (location ++ [segment]) = some (.link path))
      (h : Leads fs [] ((Path.ofText location path).segments ++
        (if (Path.ofText location path).slash then ["."] else []) ++ rest) last) :
      Leads fs location (segment :: rest) last
  | name {location last : Location} {segment : String} {rest : List String}
      (hlink : ∀ path, fs.get? (location ++ [segment]) ≠ some (.link path))
      (h : Leads fs (location ++ [segment]) rest last) :
      Leads fs location (segment :: rest) last

/-- The links of one file system are those of another. -/
def SameLinks (a b : FileSystem) : Prop :=
  ∀ location path, b.get? location = some (.link path) ↔ a.get? location = some (.link path)

theorem SameWays.sameLinks {a b : FileSystem} (h : SameWays a b) : SameLinks a b :=
  fun location path => (h.link location path).symm

theorem SameLinks.refl (a : FileSystem) : SameLinks a a := fun _ _ => .rfl

theorem SameLinks.trans {a b c : FileSystem} (hab : SameLinks a b) (hbc : SameLinks b c) :
    SameLinks a c :=
  fun location path => (hbc location path).trans (hab location path)

/-- A path leads, as long as the links stay the same, only where links lead. -/
theorem SameLinks.leads {a b : FileSystem} (h : SameLinks a b) {path : Path} {target : Target}
    (hpath : b.destination path = .ok target) : a.Leads [] path.segments target.location := by
  have hwith : ∀ (jump : List String → Except FileFault Target),
      (∀ segments, jump segments = .ok target → a.Leads [] segments target.location) →
      ∀ segments location, b.followWith jump true location segments = .ok target →
        a.Leads location segments target.location := by
    intro jump hjump segments
    induction segments with
    | nil =>
        intro location hfollow
        cases hfollow
        exact .here
    | cons segment rest ih =>
        intro location hfollow
        rw [followWith_cons] at hfollow
        split at hfollow
        next hdot => exact hdot ▸ .dot (ih _ hfollow)
        split at hfollow
        next hup => exact hup ▸ .up (ih _ hfollow)
        rw [if_neg (by simp)] at hfollow
        have hname : ∀ entry, b.get? (location ++ [segment]) = entry → (∀ path, entry ≠ some (.link path)) →
            a.Leads (location ++ [segment]) rest target.location →
            a.Leads location (segment :: rest) target.location := by
          rintro _ rfl hlink hleads
          exact .name (fun path hpath => hlink path ((h _ path).2 hpath)) hleads
        match hget : b.get? (location ++ [segment]), rest with
        | some (.link path), rest =>
            rw [hget] at hfollow
            exact .link ((h _ path).1 hget) (hjump _ hfollow)
        | some .directory, next :: rest =>
            rw [hget] at hfollow
            exact hname _ hget nofun (ih _ hfollow)
        | some .directory, [] | some (.file _ _), [] | none, [] =>
            rw [hget] at hfollow
            cases hfollow
            exact hname _ hget nofun .here
        | some (.file _ _), next :: rest | none, next :: rest =>
            rw [hget] at hfollow
            cases hfollow
  have hfollow : ∀ links segments, b.follow true links segments = .ok target →
      a.Leads [] segments target.location := by
    intro links
    induction links with
    | zero => exact fun segments => hwith _ (fun _ hjump => by cases hjump) segments []
    | succ links ih => exact fun segments => hwith _ ih segments []
  rw [destination, followPath] at hpath
  split at hpath
  · cases hpath
  · exact hfollow _ _ hpath

/-- Names lead to the location that they spell when no link stands on the way. -/
theorem Leads.eq_append {fs : FileSystem} {segments : List String} {location last : Location}
    (h : fs.Leads location segments last)
    (hplain : ∀ segment ∈ segments, segment ≠ "." ∧ segment ≠ "..")
    (hlinks : ∀ above, above <+: segments → ∀ path, fs.get? (location ++ above) ≠ some (.link path)) :
    last = location ++ segments := by
  induction h with
  | here => exact (List.append_nil _).symm
  | dot => exact absurd rfl (hplain "." List.mem_cons_self).1
  | up => exact absurd rfl (hplain ".." List.mem_cons_self).2
  | link hlink => exact absurd hlink (hlinks [_] (List.prefix_append [_] _) _)
  | name _ _ ih =>
      rw [ih (fun segment hmem => hplain segment (List.mem_cons_of_mem _ hmem)) fun above habove => ?_,
        List.append_assoc]
      · rfl
      · rw [List.append_assoc]
        exact hlinks (_ :: above) (List.cons_prefix_cons.2 ⟨rfl, habove⟩)

/-- Where there are no links, names lead to the location that they spell. -/
theorem eq_of_leads {fs : FileSystem} (hlinks : ∀ location path, fs.get? location ≠ some (.link path))
    {segments : List String} {location last : Location}
    (hplain : ∀ segment ∈ segments, segment ≠ "." ∧ segment ≠ "..")
    (h : fs.Leads location segments last) : last = location ++ segments :=
  h.eq_append hplain fun _ _ => hlinks _

/-! ### Below a root -/

section Leads

variable {fs : FileSystem} {root location last : Location} {segments : List String}

/-- Segments that do not go up lead from below a root to below it, if no link stands there. -/
theorem Leads.stays_below (h : fs.Leads location segments last)
    (hlinks : ∀ location path, root <+: location → fs.get? location ≠ some (.link path))
    (hroot : root <+: location) (hup : ".." ∉ segments) : root <+: last := by
  induction h with
  | here => exact hroot
  | dot _ ih => exact ih hroot (List.not_mem_of_not_mem_cons hup)
  | up => exact absurd List.mem_cons_self hup
  | link hlink => exact absurd hlink (hlinks _ _ (hroot.trans (List.prefix_append _ _)))
  | name _ _ ih =>
      exact ih (hroot.trans (List.prefix_append _ _)) (List.not_mem_of_not_mem_cons hup)

/-- The path of a root, followed by segments that do not go up, leads to below the root. -/
theorem Leads.stays_below_root (h : fs.Leads [] (root ++ segments) last)
    (hplain : ∀ name ∈ root, name ≠ "." ∧ name ≠ "..")
    (hlinks : ∀ location path, location <+: root ∨ root <+: location →
      fs.get? location ≠ some (.link path))
    (hup : ".." ∉ segments) : root <+: last := by
  have hway : ∀ more done, done ++ more = root → fs.Leads done (more ++ segments) last →
      root <+: last := by
    intro more
    induction more with
    | nil =>
        rintro done rfl hleads
        rw [List.append_nil] at hlinks ⊢
        exact hleads.stays_below (fun location path hbelow => hlinks location path (.inr hbelow))
          List.prefix_rfl hup
    | cons name more ih =>
        intro done hdone hleads
        have hname := hplain name (hdone ▸ by simp)
        rw [List.cons_append] at hleads
        cases hleads with
        | dot => exact absurd rfl hname.1
        | up => exact absurd rfl hname.2
        | link hlink =>
            exact absurd hlink (hlinks _ _ (.inl ⟨more, by rw [← hdone]; simp⟩))
        | name _ hleads => exact ih (done ++ [name]) (by rw [← hdone]; simp) hleads
  exact hway root [] rfl h

end Leads

/-! ## A file apart -/

/-- Two file systems that differ in nothing but what the files at hidden locations hold. -/
structure DifferIn (hidden : Location → Prop) (a b : FileSystem) : Prop where
  same : ∀ location, ¬ hidden location → b.get? location = a.get? location
  files : ∀ location, hidden location → ∃ content content' traits,
    a.get? location = some (.file content traits) ∧ b.get? location = some (.file content' traits)

/-- Two file systems that differ so, where no file has a hidden name and another one. -/
structure AlikeBut (hidden : Location → Prop) (a b : FileSystem) : Prop
    extends DifferIn hidden a b where
  own : ∀ location other number, hidden location →
    (a.get? location).bind Entry.shared? = some number →
    (a.get? other).bind Entry.shared? = some number → hidden other

/-- All names of a file are hidden with it. -/
theorem DifferIn.alikeBut {a b : FileSystem} {location : Location}
    (h : DifferIn (a.IsNameOf location) a b) : AlikeBut (a.IsNameOf location) a b where
  toDifferIn := h
  own := by
    intro l other number hl hnumber hother
    have hlocation : (a.get? location).bind Entry.shared? = some number := by
      obtain rfl | hone := hl
      · exact hnumber
      · rw [areOneFile, hnumber] at hone
        split at hone
        next hm hn =>
          cases hn
          rw [hm, of_decide_eq_true hone]
        next => cases hone
    refine .inr ?_
    rw [areOneFile, hlocation, hother]
    exact decide_eq_true rfl

namespace AlikeBut

variable {hidden : Location → Prop} {a b : FileSystem} (h : AlikeBut hidden a b)

include h

/-- What stands at a location is the same, or it is a file in both. -/
theorem get?_cases (location : Location) :
    b.get? location = a.get? location ∨ ∃ content content' traits,
      a.get? location = some (.file content traits) ∧ b.get? location = some (.file content' traits) := by
  by_cases hlocation : hidden location
  · exact .inr (h.files location hlocation)
  · exact .inl (h.same location hlocation)

/-- Segments lead to the same places. -/
theorem followWith (jump : List String → Except FileFault Target) (last : Bool)
    (location : Location) (segments : List String) :
    b.followWith jump last location segments = a.followWith jump last location segments := by
  induction segments generalizing location with
  | nil => rfl
  | cons segment rest ih =>
      rw [followWith_cons, followWith_cons, ih, ih]
      obtain hsame | ⟨content, content', traits, ha, hb⟩ := h.get?_cases (location ++ [segment])
      · rw [hsame]
        simp only [pass, ih]
      · rw [ha, hb]
        rfl

theorem follow (last : Bool) (links : Nat) : b.follow last links = a.follow last links := by
  induction links with
  | zero => exact funext fun segments => h.followWith _ last [] segments
  | succ links ih =>
      funext segments
      rw [FileSystem.follow, ih, h.followWith]
      rfl

/-- Paths lead to the same places. -/
theorem followPath (last : Bool) (path : Path) : b.followPath last path = a.followPath last path := by
  rw [FileSystem.followPath, FileSystem.followPath, h.follow]

/-- What a path names is the same, or it is a file in both. -/
theorem stat_cases (path : Path) :
    b.stat path = a.stat path ∨ ∃ content content' traits,
      a.stat path = .ok (.file content traits) ∧ b.stat path = .ok (.file content' traits) := by
  have hpath : b.destination path = a.destination path := h.followPath true path
  simp only [FileSystem.stat, hpath]
  rcases a.destination path with fault | ⟨parent, name⟩ | location
  case error | ok.directory => exact .inl rfl
  case ok.name =>
    simp only [entryAt]
    split
    · exact .inl rfl
    obtain hsame | ⟨content, content', traits, ha, hb⟩ := h.get?_cases (parent ++ [name])
    · rw [hsame]
      exact .inl rfl
    · rw [ha, hb]
      dsimp only
      split
      · exact .inl rfl
      · exact .inr ⟨content, content', traits, rfl, rfl⟩

theorem isFile (path : Path) : b.isFile path = a.isFile path := by
  rw [FileSystem.isFile, FileSystem.isFile]
  obtain hsame | ⟨content, content', traits, ha, hb⟩ := h.stat_cases path
  · rw [hsame]
  · rw [ha, hb]

theorem isDirectory (path : Path) : b.isDirectory path = a.isDirectory path := by
  rw [FileSystem.isDirectory, FileSystem.isDirectory]
  obtain hsame | ⟨content, content', traits, ha, hb⟩ := h.stat_cases path
  · rw [hsame]
  · rw [ha, hb]

/-- What is read where the file is not, is the same. -/
theorem read {path : Path}
    (havoids : ∀ target, a.destination path = .ok target → ¬ hidden target.location) :
    b.read path = a.read path := by
  have hpath : b.destination path = a.destination path := h.followPath true path
  have hstat : b.stat path = a.stat path := by
    rw [stat, stat, hpath]
    rcases hdestination : a.destination path with fault | ⟨parent, name⟩ | location
    case error | ok.directory => rfl
    case ok.name =>
      have hsame : b.get? (parent ++ [name]) = a.get? (parent ++ [name]) :=
        h.same _ (havoids _ hdestination)
      simp only [entryAt, hsame]
  rw [FileSystem.read, FileSystem.read, hstat]

/-! ## Changes -/

/-- An entry of its own is put elsewhere. -/
theorem put {location : Location} (hne : location ≠ []) (hvisible : ¬ hidden location) {entry : Entry}
    (hshared : entry.shared? = none) :
    AlikeBut hidden (a.put location entry) (b.put location entry) where
  same := by
    intro l hl
    rw [get?_put a _ l hne, get?_put b _ l hne, h.same l hl]
  files := by
    intro l hl
    have hother : l ≠ location := fun heq => hvisible (heq ▸ hl)
    rw [get?_put a _ l hne, get?_put b _ l hne, if_neg hother, if_neg hother]
    exact h.files l hl
  own := by
    intro l l' number hl hnumber hnumber'
    have hother : l ≠ location := fun heq => hvisible (heq ▸ hl)
    rw [get?_put a _ l hne, if_neg hother] at hnumber
    rw [get?_put a _ l' hne] at hnumber'
    split at hnumber'
    · rw [Option.bind_some, hshared] at hnumber'
      cases hnumber'
    · exact h.own l l' number hl hnumber hnumber'

/-- Another file is changed, under all its names. -/
theorem rewrite {location : Location} (hne : location ≠ []) (hvisible : ¬ hidden location)
    {old : ByteArray} {traits : Traits} (hfile : a.get? location = some (.file old traits))
    (content : ByteArray) :
    AlikeBut hidden (a.rewrite location content traits) (b.rewrite location content traits) := by
  cases hshared : traits.shared with
  | none =>
      have hput : AlikeBut hidden (a.put location (.file content traits))
          (b.put location (.file content traits)) := h.put hne hvisible hshared
      rwa [FileSystem.rewrite, FileSystem.rewrite, hshared]
  | some number =>
      have ha := a.get?_rewrite_of_shared location content hshared
      have hb := b.get?_rewrite_of_shared location content hshared
      -- the number is not that of the file apart
      have hapart : ∀ {l content traits'}, hidden l → a.get? l = some (.file content traits') →
          traits'.shared ≠ some number := by
        intro l content traits' hl hget hnumber
        refine hvisible (h.own l location number hl ?_ ?_)
        · rw [hget]
          exact hnumber
        · rw [hfile]
          exact hshared
      have hkept : ∀ l, ((a.rewrite location content traits).get? l).bind Entry.shared? =
          (a.get? l).bind Entry.shared? := by
        intro l
        rw [ha]
        cases a.get? l with
        | none => rfl
        | some entry =>
            rw [Option.map_some, Option.bind_some, Option.bind_some]
            split
            next hentry => exact hshared.trans hentry.symm
            next => rfl
      refine ⟨⟨fun l hl => by rw [ha, hb, h.same l hl], fun l hl => ?_⟩, fun l l' n hl hn hn' => ?_⟩
      · obtain ⟨old, old', traits', hgeta, hgetb⟩ := h.files l hl
        have hnumber := hapart hl hgeta
        refine ⟨old, old', traits', ?_, ?_⟩
        · rw [ha, hgeta]
          exact congrArg some (if_neg hnumber)
        · rw [hb, hgetb]
          exact congrArg some (if_neg hnumber)
      · rw [hkept] at hn hn'
        exact h.own l l' n hl hn hn'

end AlikeBut

/-- A call fails alike, or leaves two file systems that differ in the content of the file. -/
inductive AlikeResults (hidden : Location → Prop) :
    Except FileFault FileSystem → Except FileFault FileSystem → Prop where
  | error (fault : FileFault) : AlikeResults hidden (.error fault) (.error fault)
  | ok {a b : FileSystem} (h : AlikeBut hidden a b) : AlikeResults hidden (.ok a) (.ok b)

namespace AlikeBut

variable {hidden : Location → Prop} {a b : FileSystem} (h : AlikeBut hidden a b)

include h

/-- Another file is written. -/
theorem write {path : Path}
    (havoids : ∀ target, a.destination path = .ok target → ¬ hidden target.location)
    (content : ByteArray) : AlikeResults hidden (a.write path content) (b.write path content) := by
  have hpath : b.destination path = a.destination path := h.followPath true path
  rw [FileSystem.write, FileSystem.write, hpath]
  rcases hdestination : a.destination path with fault | ⟨parent, name⟩ | location
  case error => exact .error fault
  case ok.directory => exact .error _
  case ok.name =>
    have hvisible : ¬ hidden (parent ++ [name]) := havoids _ hdestination
    have hne : parent ++ [name] ≠ [] := by simp
    dsimp only
    split
    · exact .error _
    split
    · exact .error _
    rw [h.same _ hvisible]
    rcases hget : a.get? (parent ++ [name]) with _ | ⟨old, traits⟩ | _ | text
    case some.directory => exact .error _
    case some.file => exact .ok (h.rewrite hne hvisible hget content)
    case none | some.link => exact .ok (h.put hne hvisible rfl)

/-- A directory is made where nothing stands, and the file stands elsewhere. -/
theorem makeDirectory (path : Path) :
    AlikeResults hidden (a.makeDirectory path) (b.makeDirectory path) := by
  have hpath : b.target path = a.target path := h.followPath false path
  rw [FileSystem.makeDirectory, FileSystem.makeDirectory, make, make, hpath]
  rcases a.target path with fault | ⟨parent, name⟩ | location
  case error => exact .error fault
  case ok.directory => exact .error _
  case ok.name =>
    dsimp only
    split
    · exact .error _
    obtain hsame | ⟨content, content', traits, ha, hb⟩ := h.get?_cases (parent ++ [name])
    · rw [hsame]
      cases hget : a.get? (parent ++ [name]) with
      | some entry => exact .error _
      | none =>
          have hvisible : ¬ hidden (parent ++ [name]) := by
            intro hhidden
            obtain ⟨_, _, _, ha, -⟩ := h.files _ hhidden
            rw [hget] at ha
            cases ha
          simp only [Entry.isDirectory, Bool.not_true, Bool.and_false]
          exact .ok (h.put (by simp) hvisible rfl)
    · rw [ha, hb]
      exact .error _

omit h in
/-- A directory and the missing ones above it are made. -/
theorem createDirAllUp (reversed : List String) {a b : FileSystem} (h : AlikeBut hidden a b) :
    (b.createDirAllUp reversed).1 = (a.createDirAllUp reversed).1 ∧
      AlikeBut hidden (a.createDirAllUp reversed).2 (b.createDirAllUp reversed).2 := by
  induction reversed generalizing a b with
  | nil => exact ⟨rfl, h⟩
  | cons last above ih =>
      -- what is told when the directory cannot be made
      have hthere : ∀ {a b : FileSystem} (fault : FileFault) (path : Path), AlikeBut hidden a b →
          (if b.isDirectory path then (Except.ok (), b) else (.error fault, b)).1 =
            (if a.isDirectory path then (Except.ok (), a) else (.error fault, a)).1 ∧
          AlikeBut hidden (if a.isDirectory path then (Except.ok (), a) else (.error fault, a)).2
            (if b.isDirectory path then (Except.ok (), b) else (.error fault, b)).2 := by
        intro a b fault path h
        rw [h.isDirectory]
        split <;> exact ⟨rfl, h⟩
      have hmade := h.makeDirectory (.ofLocation (last :: above).reverse)
      simp only [FileSystem.createDirAllUp]
      generalize a.makeDirectory (.ofLocation (last :: above).reverse) = resulta,
        b.makeDirectory (.ofLocation (last :: above).reverse) = resultb at hmade ⊢
      cases hmade with
      | ok hmade => exact ⟨rfl, hmade⟩
      | error fault =>
          cases fault
          case notFound =>
            obtain ⟨hresult, habove⟩ := ih h
            generalize a.createDirAllUp above = outcomea, b.createDirAllUp above = outcomeb
              at hresult habove ⊢
            obtain ⟨resulta, a⟩ := outcomea
            obtain ⟨resultb, b⟩ := outcomeb
            cases hresult
            cases resulta with
            | error fault => exact ⟨rfl, habove⟩
            | ok =>
                dsimp only at habove ⊢
                have hmade := habove.makeDirectory (.ofLocation (last :: above).reverse)
                generalize a.makeDirectory (.ofLocation (last :: above).reverse) = resulta,
                  b.makeDirectory (.ofLocation (last :: above).reverse) = resultb at hmade ⊢
                cases hmade with
                | ok hmade => exact ⟨rfl, hmade⟩
                | error fault => exact hthere fault _ habove
          all_goals exact hthere _ _ h

end AlikeBut

end FileSystem

namespace Sandbox

open FileSystem

/-- What names lead to, links followed, is apart from the hidden locations, whatever directories are made
on the way. -/
def Conceals (box : Sandbox) (hidden : Location → Prop) (fs : FileSystem) (names : List String) :
    Prop :=
  ∀ location, hidden location → ¬ fs.Leads [] (box.root ++ names) location

variable {box : Sandbox} {hidden : Location → Prop} {first a b : FileSystem}

/-- As long as the links stay the same, a path keeps away from the hidden locations. -/
theorem Conceals.avoids {names : List String} (h : box.Conceals hidden first names)
    (hlinks : SameLinks first a) (target : Target)
    (htarget : a.destination (box.path names) = .ok target) : ¬ hidden target.location :=
  fun hhidden => h _ hhidden (hlinks.leads htarget)

section Calls

variable (h : AlikeBut hidden a b) (hlinks : SameLinks first a) {path : String}
  (hconceals : ∀ names, resolve path = .ok names → box.Conceals hidden first names)

include h

theorem isFile_alike (path : String) : box.isFile b path = box.isFile a path := by
  rw [isFile, isFile]
  split
  · rfl
  · exact h.isFile _

include hlinks hconceals

theorem read_alike : box.read b path = box.read a path := by
  rw [read, read]
  split
  · rfl
  next names hresolve => rw [h.read ((hconceals names hresolve).avoids hlinks)]

theorem readText_alike : box.readText b path = box.readText a path := by
  rw [readText, readText]
  split
  · rfl
  next names hresolve =>
    rw [FileSystem.readText, FileSystem.readText, h.read ((hconceals names hresolve).avoids hlinks)]

/-- A write gives the same in both, and leaves the links as they are. -/
theorem writeFile_alike (content : ByteArray) :
    (box.writeFile b path content).1 = (box.writeFile a path content).1 ∧
      AlikeBut hidden (box.writeFile a path content).2 (box.writeFile b path content).2 := by
  match hresolve : resolve path with
  | .error error =>
      simp only [writeFile, hresolve]
      exact ⟨trivial, h⟩
  | .ok names =>
      obtain ⟨hresult, hmade⟩ := h.createDirAllUp (box.parent names).reverse
      have hways := (a.extends_createDirAll (box.parent names)).sameWays
      simp only [writeFile, hresolve, withParent, createDirAll] at hways ⊢
      generalize a.createDirAllUp (box.parent names).reverse = outcomea,
        b.createDirAllUp (box.parent names).reverse = outcomeb at hresult hmade hways ⊢
      obtain ⟨resulta, a'⟩ := outcomea
      obtain ⟨resultb, b'⟩ := outcomeb
      cases hresult
      cases resulta with
      | error fault => exact ⟨rfl, hmade⟩
      | ok =>
          dsimp only at hmade hways ⊢
          have hwrite := hmade.write
            ((hconceals names hresolve).avoids (hlinks.trans hways.sameLinks)) content
          generalize a'.write (box.path names) content = resulta,
            b'.write (box.path names) content = resultb at hwrite ⊢
          cases hwrite with
          | error fault => exact ⟨rfl, hmade⟩
          | ok hwritten => exact ⟨rfl, hwritten⟩

end Calls

/-- No link is touched. -/
theorem Touches.sameLinks {names : List String} (h : box.Touches names a b) : SameLinks a b := by
  intro location path
  cases h location with
  | same hsame => rw [hsame]
  | file _ _ hold hnew =>
      obtain ⟨content, traits, hb⟩ := hnew
      obtain ha | ⟨content', traits', ha⟩ := hold
      all_goals
        rw [ha, hb]
        exact ⟨nofun, nofun⟩
  | directory ha hb =>
      rw [ha, hb]
      exact ⟨nofun, nofun⟩

end Sandbox

end SiteScript
