import SiteScript.FileSystem.Calls

/-!
# SiteScript.Proofs.Ways

Paths are followed through directories and links alone.  So a path that leads somewhere in one file
system leads to the same place in another one with the same directories and links
(`SameWays.destination`), and names the same if what stands at its end is the same
(`SameWays.stat_eq`). -/

namespace SiteScript

namespace FileSystem

/-! ## One segment -/

/-- How a name is passed that has been looked up, by what has the name. -/
def pass (fs : FileSystem) (jump : List String → Except FileFault Target) (last : Bool)
    (location : Location) (segment : String) (rest : List String) :
    Option Entry → Except FileFault Target
  | some (.link path) =>
    let start := Path.ofText location path
    jump (start.segments ++ (if start.slash then ["."] else []) ++ rest)
  | some .directory =>
    if rest = [] then .ok (.name location segment)
    else fs.followWith jump last (location ++ [segment]) rest
  | some (.file _ _) => if rest = [] then .ok (.name location segment) else .error .notDirectory
  | none =>
    if rest = [] then .ok (.name location segment)
    else .error (if tooLong segment then .nameTooLong else .notFound)

theorem followWith_cons (fs : FileSystem)
    (jump : List String → Except FileFault Target) (last : Bool)
    (location : Location) (segment : String) (rest : List String) :
    fs.followWith jump last location (segment :: rest) =
      if segment = "." then fs.followWith jump last location rest
      else if segment = ".." then fs.followWith jump last location.dropLast rest
      else if rest.isEmpty && !last then .ok (.name location segment)
      else fs.pass jump last location segment rest (fs.get? (location ++ [segment])) := by
  rw [followWith.eq_def]
  dsimp only
  generalize fs.get? (location ++ [segment]) = entry
  match entry, rest with
  | some (.link _), _ => rfl
  | none, [] | none, _ :: _ => rfl
  | some .directory, [] | some .directory, _ :: _ => rfl
  | some (.file _ _), [] | some (.file _ _), _ :: _ => rfl

/-! ## File systems with the same ways -/

/-- The directories and links of one file system are those of another. -/
structure SameWays (a b : FileSystem) : Prop where
  directory : ∀ location, a.get? location = some .directory → b.get? location = some .directory
  link : ∀ location path, a.get? location = some (.link path) ↔ b.get? location = some (.link path)

theorem SameWays.refl (a : FileSystem) : SameWays a a := ⟨fun _ h => h, fun _ _ => Iff.rfl⟩

theorem SameWays.trans {a b c : FileSystem} (hab : SameWays a b) (hbc : SameWays b c) :
    SameWays a c :=
  ⟨fun l h => hbc.directory l (hab.directory l h),
    fun l path => (hab.link l path).trans (hbc.link l path)⟩

section Follow

variable {a b : FileSystem} (h : SameWays a b)

include h

/-- What is no link in one is none in the other. -/
theorem SameWays.pass_end (jump : List String → Except FileFault Target) (last : Bool)
    {location : Location} {segment : String}
    (hlink : ∀ path, a.get? (location ++ [segment]) ≠ some (.link path)) :
    b.pass jump last location segment [] (b.get? (location ++ [segment])) =
      .ok (.name location segment) := by
  match hb : b.get? (location ++ [segment]) with
  | some (.link path) => exact absurd ((h.link _ path).2 hb) (hlink path)
  | some .directory | some (.file _ _) | none => rfl

/-- Segments that lead somewhere lead to the same place, if jumps do. -/
theorem SameWays.followWith {jump jump' : List String → Except FileFault Target}
    (hjump : ∀ segments target, jump segments = .ok target → jump' segments = .ok target)
    {last : Bool}
    {location : Location} {segments : List String} {target : Target}
    (hfollow : a.followWith jump last location segments = .ok target) :
    b.followWith jump' last location segments = .ok target := by
  induction segments generalizing location with
  | nil => exact hfollow
  | cons segment rest ih =>
      rw [followWith_cons] at hfollow ⊢
      by_cases hdot : segment = "."
      · rw [if_pos hdot] at hfollow ⊢
        exact ih hfollow
      rw [if_neg hdot] at hfollow ⊢
      by_cases hup : segment = ".."
      · rw [if_pos hup] at hfollow ⊢
        exact ih hfollow
      rw [if_neg hup] at hfollow ⊢
      by_cases hlast : (rest.isEmpty && !last) = true
      · rw [if_pos hlast] at hfollow ⊢
        exact hfollow
      rw [if_neg hlast] at hfollow ⊢
      -- links and directories on the way are the same in both, and at the end all but links will do
      match ha : a.get? (location ++ [segment]), rest with
      | some (.link path), rest =>
          rw [ha] at hfollow
          rw [(h.link _ path).1 ha]
          exact hjump _ _ hfollow
      | some .directory, next :: rest =>
          rw [ha] at hfollow
          rw [h.directory _ ha]
          exact ih hfollow
      | some .directory, [] =>
          rw [ha] at hfollow
          exact (h.pass_end jump' last (by simp [ha])).trans hfollow
      | some (.file _ _), [] =>
          rw [ha] at hfollow
          exact (h.pass_end jump' last (by simp [ha])).trans hfollow
      | none, [] =>
          rw [ha] at hfollow
          exact (h.pass_end jump' last (by simp [ha])).trans hfollow
      | some (.file _ _), next :: rest =>
          rw [ha] at hfollow
          cases hfollow
      | none, next :: rest =>
          rw [ha] at hfollow
          cases hfollow

/-- A path that leads somewhere leads to the same place. -/
theorem SameWays.destination {path : Path} {target : Target}
    (hpath : a.destination path = .ok target) :
    b.destination path = .ok target := by
  have hfollow : ∀ links segments target, a.follow true links segments = .ok target →
      b.follow true links segments = .ok target := by
    intro links
    induction links with
    | zero => exact fun segments target => h.followWith fun _ _ hjump => by cases hjump
    | succ links ih => exact fun segments target => h.followWith ih
  rw [FileSystem.destination, followPath] at hpath ⊢
  split at hpath
  · cases hpath
  · exact hfollow _ _ _ hpath

/-- A path whose end is as it was names what it named. -/
theorem SameWays.stat_eq {path : Path} {target : Target}
    (hdestination : a.destination path = .ok target)
    (hend : ∀ parent name, target = .name parent name →
      b.get? (parent ++ [name]) = a.get? (parent ++ [name])) : b.stat path = a.stat path := by
  rw [stat, stat, h.destination hdestination, hdestination]
  cases target with
  | directory location => rfl
  | name parent name => simp only [entryAt, hend parent name rfl]

end Follow

/-! ## The end of a path -/

/-- A path whose last segment is followed too does not lead to a link. -/
theorem get?_destination_ne_link {fs : FileSystem} {path : Path} {parent : Location} {name : String}
    (h : fs.destination path = .ok (.name parent name)) (text : String) :
    fs.get? (parent ++ [name]) ≠ some (.link text) := by
  have hwith : ∀ (jump : List String → Except FileFault Target),
      (∀ segments, jump segments = .ok (.name parent name) →
        fs.get? (parent ++ [name]) ≠ some (.link text)) →
      ∀ segments location, fs.followWith jump true location segments = .ok (.name parent name) →
        fs.get? (parent ++ [name]) ≠ some (.link text) := by
    intro jump hjump segments
    induction segments with
    | nil => exact fun location hfollow => by cases hfollow
    | cons segment rest ih =>
        intro location hfollow
        rw [followWith_cons] at hfollow
        split at hfollow
        · exact ih _ hfollow
        split at hfollow
        · exact ih _ hfollow
        rw [if_neg (by simp)] at hfollow
        match hget : fs.get? (location ++ [segment]), rest with
        | some (.link path), rest =>
            rw [hget] at hfollow
            exact hjump _ hfollow
        | some .directory, next :: rest =>
            rw [hget] at hfollow
            exact ih _ hfollow
        | some .directory, [] | some (.file _ _), [] | none, [] =>
            rw [hget] at hfollow
            cases hfollow
            rw [hget]
            exact nofun
        | some (.file _ _), next :: rest | none, next :: rest =>
            rw [hget] at hfollow
            cases hfollow
  have hfollow : ∀ links segments, fs.follow true links segments = .ok (.name parent name) →
      fs.get? (parent ++ [name]) ≠ some (.link text) := by
    intro links
    induction links with
    | zero => exact fun segments => hwith _ (fun _ hjump => by cases hjump) segments []
    | succ links ih => exact fun segments => hwith _ ih segments []
  rw [destination, followPath] at h
  split at h
  · cases h
  · exact hfollow _ _ h

end FileSystem

end SiteScript
