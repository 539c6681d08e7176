import SiteScript.Proofs.Text
import SiteScript.Sandbox

/-!
# SiteScript.Proofs.Sandbox

Paths of a script.  Resolving a path segment by segment (`normalize_append`) leaves plain names
(`plain_of_resolve`), and what does not go up adds its names to those of the directory that it is taken
from (`resolve_append_iff`).  What stands there is what a script reads (`read_of_resolve`, `isFile_iff`). -/

namespace SiteScript.Sandbox

theorem segmentsOf_below (directory page : String) :
    segmentsOf (directory ++ "/" ++ page) = segmentsOf directory ++ segmentsOf page := by
  have htext : (directory ++ "/" ++ page).toList = directory.toList ++ '/' :: page.toList := by
    simp
  rw [segmentsOf, htext, Text.split_append_sep, List.filter_append, List.map_append]
  rfl

theorem normalize_cons (done : List String) (segment : String) (rest : List String) :
    normalize done (segment :: rest) =
      if segment = "." then normalize done rest
      else if segment = ".." then if done = [] then none else normalize done.dropLast rest
      else normalize (done ++ [segment]) rest := by
  rw [normalize.eq_def]
  cases done <;> rfl

theorem normalize_append (done first second : List String) :
    normalize done (first ++ second) = (normalize done first).bind (normalize · second) := by
  induction first generalizing done with
  | nil => simp [normalize.eq_def done []]
  | cons segment rest ih =>
      rw [List.cons_append, normalize_cons, normalize_cons]
      split
      · exact ih done
      split
      · split
        · rfl
        · exact ih _
      · exact ih _

/-- Names that do not go up are added as they are. -/
theorem normalize_of_not_up {segments : List String} (h : ".." ∉ segments) (done : List String) :
    normalize done segments = some (done ++ segments.filter (· ≠ ".")) := by
  induction segments generalizing done with
  | nil => simp [normalize]
  | cons segment rest ih =>
      have hrest : ".." ∉ rest := fun hmem => h (List.mem_cons_of_mem _ hmem)
      have hup : segment ≠ ".." := fun heq => h (heq ▸ List.mem_cons_self)
      rw [normalize_cons, if_neg hup]
      split
      next hdot => rw [ih hrest, List.filter_cons_of_neg (by simpa using hdot)]
      next hdot => rw [ih hrest, List.filter_cons_of_pos (by simpa using hdot), List.append_assoc]; rfl

theorem resolve_eq_ok {path : String} {names : List String} :
    resolve path = .ok names ↔ normalize [] (segmentsOf path) = some names := by
  rw [resolve]
  cases normalize [] (segmentsOf path) <;> simp

theorem resolve_eq_error {path : String} {error : HostError} :
    resolve path = .error error ↔
      error = .sandbox path ∧ normalize [] (segmentsOf path) = none := by
  rw [resolve]
  cases normalize [] (segmentsOf path) <;> simp [eq_comm]

theorem forall_of_normalize {P : String → Prop} {done segments names : List String}
    (hdone : ∀ name ∈ done, P name)
    (hsegments : ∀ segment ∈ segments, segment ≠ "." → segment ≠ ".." → P segment)
    (h : normalize done segments = some names) : ∀ name ∈ names, P name := by
  induction segments generalizing done with
  | nil =>
      cases h
      exact hdone
  | cons segment rest ih =>
      have hrest : ∀ other ∈ rest, other ≠ "." → other ≠ ".." → P other :=
        fun other hmem => hsegments other (List.mem_cons_of_mem _ hmem)
      rw [normalize_cons] at h
      split at h
      next => exact ih hdone hrest h
      next hdot =>
      split at h
      next =>
        split at h
        · cases h
        · exact ih (fun name hmem => hdone name ((List.dropLast_sublist done).subset hmem)) hrest h
      next hup =>
        refine ih (fun name hmem => ?_) hrest h
        obtain hmem | hmem := List.mem_append.1 hmem
        · exact hdone name hmem
        · exact List.mem_singleton.1 hmem ▸ hsegments segment List.mem_cons_self hdot hup

/-- What holds of the segments of a path that go neither up nor nowhere holds of the names it leads
through. -/
theorem forall_of_resolve {P : String → Prop} {path : String} {names : List String}
    (h : resolve path = .ok names)
    (hsegments : ∀ segment ∈ segmentsOf path, segment ≠ "." → segment ≠ ".." → P segment) :
    ∀ name ∈ names, P name :=
  forall_of_normalize (fun _ hmem => absurd hmem List.not_mem_nil) hsegments (resolve_eq_ok.1 h)

/-- The names that a path leads through go neither up nor nowhere. -/
theorem plain_of_resolve {path : String} {names : List String} (h : resolve path = .ok names) :
    ∀ name ∈ names, name ≠ "." ∧ name ≠ ".." :=
  forall_of_resolve h fun _ _ hdot hup => ⟨hdot, hup⟩

/-- A path that goes on without going up adds its own names to those before. -/
theorem resolve_append_iff {path below : String} {names : List String}
    (hup : ".." ∉ segmentsOf below) :
    resolve (path ++ "/" ++ below) = .ok names ↔
      ∃ root, resolve path = .ok root ∧ root ++ (segmentsOf below).filter (· ≠ ".") = names := by
  simp only [resolve_eq_ok, segmentsOf_below, normalize_append, normalize_of_not_up hup,
    Option.bind_eq_some_iff, Option.some.injEq]

/-- A path below a directory that does not go up leads below that directory. -/
theorem resolve_below {directory page : String} {names : List String}
    (hpage : ['.', '.'] ∉ Text.split '/' page.toList)
    (h : resolve (directory ++ "/" ++ page) = .ok names) :
    ∃ root, resolve directory = .ok root ∧ root <+: names := by
  have hup : ".." ∉ segmentsOf page := by
    intro hmem
    obtain ⟨piece, hpiece, hname⟩ := List.mem_map.1 hmem
    have hdots : piece = ['.', '.'] := by
      rw [← String.toList_ofList (l := piece), hname]
      rfl
    exact hpage (hdots ▸ (List.mem_filter.1 hpiece).1)
  obtain ⟨root, hroot, rfl⟩ := (resolve_append_iff hup).1 h
  exact ⟨root, hroot, List.prefix_append _ _⟩

/-! ## What a path names -/

section Names

variable {box : Sandbox} {fs : FileSystem} {path : String}

/-- What a script reads is what the resolved path names. -/
theorem read_of_resolve {names : List String} (h : resolve path = .ok names)
    {content : ByteArray} :
    box.read fs path = .ok content ↔ fs.read (box.path names) = .ok content := by
  rw [read, h]
  show (fs.read (box.path names)).mapError HostError.io = .ok content ↔ _
  cases fs.read (box.path names) with
  | error => exact ⟨nofun, nofun⟩
  | ok held => exact ⟨fun heq => by cases heq; rfl, fun heq => by cases heq; rfl⟩

theorem isFile_iff : box.isFile fs path = true ↔ ∃ names content traits,
    resolve path = .ok names ∧ fs.stat (box.path names) = .ok (.file content traits) := by
  rw [isFile]
  cases resolve path with
  | error => simp
  | ok names =>
      dsimp only
      rw [FileSystem.isFile]
      rcases hstat : fs.stat (box.path names) with fault | ⟨content, traits⟩ | _ | link <;>
        simp [hstat]

end Names

end SiteScript.Sandbox
