/-!
# SiteScript.FileSystem.Basic

A file system as the list of what stands where.  A location is the list of names from the top down; the
top itself is always a directory.

* **names of one file** — a file may stand at several locations.  Its entries then share a number, and
  `rewrite` changes all of them;
* **links** — a link stands for the path that it holds; it is followed when paths are, not here.

`get?` is the view: every operation of the library says what it does through it, and the laws of the
changes (`put`, `erase`, `eraseTree`) stand here.  `graft` moves a whole tree.
-/

namespace SiteScript

/-- The names from the top of the file system down to a file or directory. -/
abbrev Location := List String

/-- What a file has beside its content. -/
structure Traits where
  /-- Who may read, write and run the file. -/
  mode : Nat := 0o644
  /-- The number that the entries of one file share, if it has several. -/
  shared : Option Nat := none
deriving DecidableEq

/-- What stands at a location. -/
inductive Entry where
  | file (content : ByteArray) (traits : Traits)
  | directory
  /-- Another path. -/
  | link (path : String)

namespace Entry

/-- A file with a single name. -/
def plain (content : ByteArray) : Entry := .file content {}

/-- Whether an entry is a directory. -/
def isDirectory : Entry → Bool
  | .directory => true
  | _ => false

/-- The number that an entry shares with others. -/
def shared? : Entry → Option Nat
  | .file _ traits => traits.shared
  | _ => none

end Entry

/-- What stands where; a location occurs at most once. -/
structure FileSystem where
  entries : List (Location × Entry)

namespace FileSystem

/-- Nothing but the top. -/
def empty : FileSystem := ⟨[]⟩

/-- What stands at a location. -/
def get? (fs : FileSystem) (location : Location) : Option Entry :=
  match location with
  | [] => some .directory
  | location => fs.entries.lookup location

/-- Put an entry at a location, over what was there. -/
def put (fs : FileSystem) (location : Location) (entry : Entry) : FileSystem :=
  ⟨(location, entry) :: fs.entries.filter (·.1 != location)⟩

/-- Change the file at a location, under all its names. -/
def rewrite (fs : FileSystem) (location : Location) (content : ByteArray) (traits : Traits) :
    FileSystem :=
  match traits.shared with
  | none => fs.put location (.file content traits)
  | some number =>
    ⟨fs.entries.map fun (l, entry) =>
      (l, if entry.shared? = some number then .file content traits else entry)⟩

/-- A number that no entries share. -/
def unusedNumber (fs : FileSystem) : Nat :=
  fs.entries.foldl (fun next (_, entry) => max next ((entry.shared?.map (· + 1)).getD 0)) 0

/-- Take the entry of one location away. -/
def erase (fs : FileSystem) (location : Location) : FileSystem :=
  ⟨fs.entries.filter (·.1 != location)⟩

/-- Take a location and everything below it away. -/
def eraseTree (fs : FileSystem) (location : Location) : FileSystem :=
  ⟨fs.entries.filter fun (l, _) => !location.isPrefixOf l⟩

/-- Move everything at and below `source` to the same places at and below `target`, over what was
there. -/
def graft (fs : FileSystem) (source target : Location) : FileSystem :=
  let moved := fs.entries.filterMap fun (l, entry) =>
    if source.isPrefixOf l then some (target ++ l.drop source.length, entry) else none
  ⟨moved ++ ((fs.eraseTree source).eraseTree target).entries⟩

/-- The names in a directory. -/
def children (fs : FileSystem) (location : Location) : List (String × Entry) :=
  fs.entries.filterMap fun (l, entry) =>
    match l.getLast? with
    | some name => if l.dropLast = location then some (name, entry) else none
    | none => none

/-- Everything below a location, with the names from there on. -/
def below (fs : FileSystem) (location : Location) : List (Location × Entry) :=
  fs.entries.filterMap fun (l, entry) =>
    if location.isPrefixOf l && l != location then some (l.drop location.length, entry) else none

/-! ## The view -/

@[simp] theorem get?_nil (fs : FileSystem) : fs.get? [] = some .directory := rfl

theorem get?_of_ne_nil (fs : FileSystem) {location : Location} (h : location ≠ []) :
    fs.get? location = fs.entries.lookup location := by
  cases location with
  | nil => exact absurd rfl h
  | cons name rest => rfl

theorem lookup_filter_ne (entries : List (Location × Entry)) (keep : Location → Bool)
    (location : Location) :
    (entries.filter fun e => keep e.1).lookup location =
      if keep location then entries.lookup location else none := by
  induction entries with
  | nil => simp
  | cons head rest ih =>
    obtain ⟨l, entry⟩ := head
    by_cases hl : location = l
    · subst hl
      by_cases hk : keep location = true <;> simp [hk, ih]
    · have hne : (location == l) = false := by simpa using hl
      by_cases hk : keep l = true <;> simp [hk, ih, List.lookup_cons, hne]

/-- A location holds what was put there last; others are as before. -/
theorem get?_put (fs : FileSystem) {location : Location} (entry : Entry) (l : Location)
    (h : location ≠ []) :
    (fs.put location entry).get? l = if l = location then some entry else fs.get? l := by
  by_cases hl : l = []
  · subst hl
    simp [Ne.symm h]
  · rw [get?_of_ne_nil _ hl, get?_of_ne_nil _ hl, put]
    by_cases heq : l = location
    · simp [heq]
    · have hne : (l == location) = false := by simpa using heq
      simp only [List.lookup_cons, hne, heq, if_false]
      rw [lookup_filter_ne fs.entries (· != location) l]
      simp [heq]

/-- Of a tree that was taken away nothing is left, and everything else is as before. -/
theorem get?_eraseTree (fs : FileSystem) {location : Location} (l : Location) (h : location ≠ []) :
    (fs.eraseTree location).get? l = if location <+: l then none else fs.get? l := by
  by_cases hl : l = []
  · subst hl
    simp [h]
  · rw [get?_of_ne_nil _ hl, get?_of_ne_nil _ hl, eraseTree,
      lookup_filter_ne fs.entries (fun l => !location.isPrefixOf l) l]
    simp only [← List.isPrefixOf_iff_prefix]
    cases location.isPrefixOf l <;> simp

end FileSystem

end SiteScript
