import Mathlib.Data.List.Basic
import SiteScript.Proofs.FileTree
import SiteScript.Proofs.Sandbox

/-!
# SiteScript.Proofs.Resolving

Where the path of a script leads, said without the order in which its segments are read.

1. The segments that are not empty and not `.` say where to go (`steps`).
2. A `..` is cancelled together with the name it goes back from: the one right before it, once all
   that stood between them is cancelled (`Cancels`).  In whatever order this is done, the same names
   are left, and they are what the path resolves to (`resolve_iff_cancels`).
3. There is nothing to cancel a `..` with exactly when some beginning of the path goes up more often
   than down (`Climbs`), wherever the rest of the path leads (`refused_iff_climbs`).

Put together, a path either climbs out and is refused, or leads through plain names below the root,
and what is taken from there without going up is added to them (`resolve_cancels`). -/

namespace SiteScript.Sandbox

/-- The segments of a path that say where to go. -/
def steps (path : String) : List String :=
  (segmentsOf path).filter (· ≠ ".")

/-- Some beginning goes up more often than down. -/
def Climbs (steps : List String) : Prop :=
  ∃ first, first <+: steps ∧ first.countP (· ≠ "..") < first.count ".."

/-- The names that are left when each `..` is cancelled with the nearest name before it that is not
yet cancelled. -/
inductive Cancels : List String → List String → Prop where
  /-- Nothing goes up. -/
  | done {names : List String} (h : ".." ∉ names) : Cancels names names
  /-- A name and the `..` that goes back from it are taken out. -/
  | up {before after names : List String} {name : String} (hname : name ≠ "..")
      (h : Cancels (before ++ after) names) : Cancels (before ++ name :: ".." :: after) names

/-! ## Normalizing -/

/-- Segments that go nowhere can be left out beforehand. -/
theorem normalize_filter (done segments : List String) :
    normalize done (segments.filter (· ≠ ".")) = normalize done segments := by
  induction segments generalizing done with
  | nil => rfl
  | cons segment rest ih =>
      rw [normalize_cons]
      split
      next hdot => rw [List.filter_cons_of_neg (by simpa using hdot), ih]
      next hdot =>
        rw [List.filter_cons_of_pos (by simpa using hdot), normalize_cons, if_neg hdot]
        simp only [ih]

/-- A step up takes the last name away. -/
theorem normalize_up (done : List String) (name : String) (rest : List String) :
    normalize (done ++ [name]) (".." :: rest) = normalize done rest := by
  simp [normalize_cons]

theorem normalize_name {segment : String} (hdot : segment ≠ ".") (hup : segment ≠ "..")
    (done rest : List String) :
    normalize done (segment :: rest) = normalize (done ++ [segment]) rest := by
  rw [normalize_cons, if_neg hdot, if_neg hup]

/-- The names gone through so far stand before the steps that are still to be cancelled. -/
theorem cancels_of_normalize {done rest names : List String} (hdone : ".." ∉ done)
    (hdot : "." ∉ rest) (h : normalize done rest = some names) : Cancels (done ++ rest) names := by
  induction rest generalizing done with
  | nil =>
      obtain rfl : done = names := by simpa [normalize] using h
      simpa using Cancels.done hdone
  | cons segment rest ih =>
      simp only [List.mem_cons, not_or] at hdot
      obtain ⟨hsegment, hdot⟩ := hdot
      by_cases hup : segment = ".."
      · subst hup
        rcases List.eq_nil_or_concat' done with rfl | ⟨above, name, rfl⟩
        · simp [normalize] at h
        · simp only [List.mem_append, List.mem_singleton, not_or] at hdone
          rw [normalize_up] at h
          rw [List.append_assoc]
          exact .up (Ne.symm hdone.2) (ih hdone.1 hdot h)
      · rw [normalize_name (Ne.symm hsegment) hup] at h
        rw [List.append_cons]
        exact ih (by simp [hdone, Ne.symm hup]) hdot h

/-- In whatever order steps up are cancelled, the names that are left are the normal form. -/
theorem normalize_of_cancels {segments names : List String} (h : Cancels segments names)
    (hdot : "." ∉ segments) : normalize [] segments = some names := by
  induction h with
  | @done names hup =>
      have hkept : names.filter (· ≠ ".") = names :=
        List.filter_eq_self.2 fun name hname => by simpa using ne_of_mem_of_not_mem hname hdot
      rw [normalize_of_not_up hup, hkept, List.nil_append]
  | @up before after names name hname _ ih =>
      simp only [List.mem_append, List.mem_cons, not_or] at hdot ih
      obtain ⟨hbefore, hnameDot, -, hafter⟩ := hdot
      rw [← ih ⟨hbefore, hafter⟩, normalize_append, normalize_append]
      congr 1
      funext done
      rw [normalize_name (Ne.symm hnameDot) hname, normalize_up]

/-- After `done` names there is nothing left to go back from exactly when some beginning goes up
more often than those names and its own allow. -/
theorem normalize_eq_none_iff {rest : List String} (hdot : "." ∉ rest) (done : List String) :
    normalize done rest = none ↔
      ∃ first, first <+: rest ∧ done.length + first.countP (· ≠ "..") < first.count ".." := by
  induction rest generalizing done with
  | nil => simp [normalize]
  | cons segment rest ih =>
      simp only [List.mem_cons, not_or] at hdot
      obtain ⟨hsegment, hdot⟩ := hdot
      simp only [List.prefix_cons_iff]
      by_cases hup : segment = ".."
      · subst hup
        rcases List.eq_nil_or_concat' done with rfl | ⟨above, name, rfl⟩
        · simp only [normalize_cons]
          refine ⟨fun _ => ⟨[".."], .inr ⟨[], rfl, List.nil_prefix⟩, by decide⟩, fun _ => by simp⟩
        · rw [normalize_up, ih hdot]
          constructor
          · rintro ⟨first, hfirst, hlt⟩
            exact ⟨".." :: first, .inr ⟨first, rfl, hfirst⟩, by simp at hlt ⊢; omega⟩
          · rintro ⟨_, rfl | ⟨first, rfl, hfirst⟩, hlt⟩
            · simp at hlt
            · exact ⟨first, hfirst, by simp at hlt ⊢; omega⟩
      · rw [normalize_name (Ne.symm hsegment) hup, ih hdot]
        constructor
        · rintro ⟨first, hfirst, hlt⟩
          exact ⟨segment :: first, .inr ⟨first, rfl, hfirst⟩, by simp [hup] at hlt ⊢; omega⟩
        · rintro ⟨_, rfl | ⟨first, rfl, hfirst⟩, hlt⟩
          · simp at hlt
          · exact ⟨first, hfirst, by simp [hup] at hlt ⊢; omega⟩

/-! ## Resolving -/

theorem dot_not_mem_steps (path : String) : "." ∉ steps path := by
  simp [steps]

/-- What a path resolves to are the names that its steps up leave. -/
theorem resolve_iff_cancels {path : String} {names : List String} :
    resolve path = .ok names ↔ Cancels (steps path) names := by
  have hdot := dot_not_mem_steps path
  rw [resolve_eq_ok, ← normalize_filter]
  exact ⟨cancels_of_normalize List.not_mem_nil hdot, fun h => normalize_of_cancels h hdot⟩

/-- A path is refused exactly when it climbs out on its way. -/
theorem refused_iff_climbs {path : String} {error : HostError} :
    resolve path = .error error ↔ error = .sandbox path ∧ Climbs (steps path) := by
  have hnone := normalize_eq_none_iff (dot_not_mem_steps path) []
  simp only [List.length_nil, Nat.zero_add] at hnone
  rw [resolve_eq_error, ← normalize_filter, Climbs, ← hnone, steps]

/-- Names that a path leads through are plain. -/
theorem isPlain_of_resolve {path : String} {names : List String}
    (h : resolve path = .ok names) : ∀ name ∈ names, IsPlain name := by
  refine forall_of_resolve h fun segment hmem hdot hup => ?_
  obtain ⟨piece, hpiece, rfl⟩ := List.mem_map.1 hmem
  obtain ⟨hsplit, hfilled⟩ := List.mem_filter.1 hpiece
  refine ⟨?_, ?_, hdot, hup⟩
  · simpa using hfilled
  · simpa using Text.not_mem_of_mem_split hsplit

/-- **Resolving is cancelling.**  A path is refused exactly when some beginning of it goes up more
often than down; every other path leads to the root followed by the names that are left when each
`..` is cancelled with the nearest uncancelled name before it.  These names are plain, and a path
that goes on from there without going up adds its own names to them. -/
theorem resolve_cancels (box : Sandbox) (path : String) :
    (∀ error, resolve path = .error error ↔ error = .sandbox path ∧ Climbs (steps path)) ∧
      (¬ Climbs (steps path) → ∃ names, resolve path = .ok names) ∧
      ∀ names, (resolve path = .ok names ↔ Cancels (steps path) names) ∧
        (resolve path = .ok names →
          (∀ name ∈ names, IsPlain name) ∧ (box.path names).segments = box.root ++ names ∧
            ∀ below, ".." ∉ segmentsOf below →
              resolve (path ++ "/" ++ below) = .ok (names ++ steps below)) := by
  refine ⟨fun error => refused_iff_climbs, fun hclimbs => ?_, fun names =>
    ⟨resolve_iff_cancels, fun h => ⟨isPlain_of_resolve h, rfl, fun below hup =>
      (resolve_append_iff hup).2 ⟨names, h, rfl⟩⟩⟩⟩
  cases hresolve : resolve path with
  | error error => exact absurd (refused_iff_climbs.1 hresolve).2 hclimbs
  | ok names => exact ⟨names, rfl⟩

/-- A path with segments that go nowhere and one step up, and another path below it. -/
theorem resolve_cancels_notes :
    ¬ Climbs (steps "/a/./b//../notes") ∧
      Cancels (steps "/a/./b//../notes") ["a", "notes"] ∧
      ((Sandbox.mk ["srv"]).path ["a", "notes"]).segments = ["srv", "a", "notes"] ∧
      ".." ∉ segmentsOf "x/./y" ∧
      resolve ("/a/./b//../notes" ++ "/" ++ "x/./y") = .ok ["a", "notes", "x", "y"] := by
  obtain ⟨hrefused, -, hleads⟩ := resolve_cancels ⟨["srv"]⟩ "/a/./b//../notes"
  obtain ⟨hcancels, hnames⟩ := hleads ["a", "notes"]
  have hresolve : resolve "/a/./b//../notes" = .ok ["a", "notes"] := rfl
  have hup : ".." ∉ segmentsOf "x/./y" := by decide
  obtain ⟨-, hsegments, hbelow⟩ := hnames hresolve
  refine ⟨fun hclimbs => ?_, hcancels.1 hresolve, hsegments, hup, hbelow "x/./y" hup⟩
  rw [(hrefused (.sandbox _)).2 ⟨rfl, hclimbs⟩] at hresolve
  cases hresolve

/-- It is the way that must not climb out, not its end. -/
example : resolve "a/../../a/b" = .error (.sandbox "a/../../a/b") := rfl

end SiteScript.Sandbox
