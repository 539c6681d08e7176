/-!
# SiteScript.Dictionary

Finite maps from strings, kept in increasing order of their keys.  The order is part of what the
library shows (files of a bundle, accounts, the members of a record come out sorted), and because the
entries of a `Dictionary` are strictly sorted, two dictionaries with the same look-ups are equal.

* `get?` is the view, and `get?_insert` says what a change does to it;
* `insertEntry` is the insertion on bare entry lists, which the members of JSON objects share.
-/

namespace SiteScript

/-! ## Entry lists -/

variable {α β : Type}

/-- Keys strictly increase along the list. -/
def SortedKeys (entries : List (String × α)) : Prop :=
  entries.Pairwise fun a b => a.1 < b.1

/-- Put an entry at its place, over an entry of the same key. -/
def insertEntry (key : String) (value : α) : List (String × α) → List (String × α)
  | [] => [(key, value)]
  | (k, v) :: rest =>
    if key < k then (key, value) :: (k, v) :: rest
    else if key = k then (key, value) :: rest
    else (k, v) :: insertEntry key value rest

theorem mem_insertEntry {key : String} {value : α} {entries : List (String × α)}
    {entry : String × α} (h : entry ∈ insertEntry key value entries) :
    entry = (key, value) ∨ entry ∈ entries := by
  induction entries with
  | nil => simpa [insertEntry] using h
  | cons head rest ih =>
    obtain ⟨k, v⟩ := head
    rw [insertEntry] at h
    split at h
    · simpa using h
    · split at h
      · simp only [List.mem_cons] at h ⊢
        rcases h with h | h
        · exact .inl h
        · exact .inr (.inr h)
      · simp only [List.mem_cons] at h ⊢
        rcases h with h | h
        · exact .inr (.inl h)
        · rcases ih h with h | h
          · exact .inl h
          · exact .inr (.inr h)

/-- Insertion keeps the keys sorted. -/
theorem SortedKeys.insertEntry {key : String} {value : α} {entries : List (String × α)}
    (h : SortedKeys entries) : SortedKeys (SiteScript.insertEntry key value entries) := by
  induction entries with
  | nil => simp [SiteScript.insertEntry, SortedKeys]
  | cons head rest ih =>
    obtain ⟨k, v⟩ := head
    obtain ⟨hhead, hrest⟩ := List.pairwise_cons.1 h
    rw [SiteScript.insertEntry]
    split
    next hlt =>
      refine List.pairwise_cons.2 ⟨fun e he => ?_, h⟩
      rcases List.mem_cons.1 he with rfl | he
      · exact hlt
      · exact String.lt_trans hlt (hhead e he)
    next hlt =>
      split
      next heq =>
        subst heq
        exact List.pairwise_cons.2 ⟨hhead, hrest⟩
      next hne =>
        refine List.pairwise_cons.2 ⟨fun e he => ?_, ih hrest⟩
        rcases mem_insertEntry he with rfl | he
        · rcases Std.lt_trichotomy key k with h1 | h1 | h1
          · exact absurd h1 hlt
          · exact absurd h1 hne
          · exact h1
        · exact hhead e he

/-! ## Dictionaries -/

/-- A finite map from strings with its entries in strictly increasing order of keys. -/
structure Dictionary (α : Type) where
  /-- The entries, by increasing key. -/
  entries : List (String × α)
  sorted : SortedKeys entries

namespace Dictionary

instance [DecidableEq α] : DecidableEq (Dictionary α) := fun a b =>
  if h : a.entries = b.entries then
    .isTrue (by cases a; cases b; simp_all)
  else
    .isFalse fun heq => h (heq ▸ rfl)

/-- The dictionary without entries. -/
def empty : Dictionary α := ⟨[], List.Pairwise.nil⟩

instance : Inhabited (Dictionary α) := ⟨empty⟩

/-- The value of a key. -/
def get? (d : Dictionary α) (key : String) : Option α :=
  d.entries.lookup key

/-- Whether a key has a value. -/
def contains (d : Dictionary α) (key : String) : Bool :=
  (d.get? key).isSome

/-- Give a key a value, over the value it had. -/
def insert (d : Dictionary α) (key : String) (value : α) : Dictionary α :=
  ⟨insertEntry key value d.entries, d.sorted.insertEntry⟩

/-- The entries one after another; of two with the same key the later one counts. -/
def ofList (entries : List (String × α)) : Dictionary α :=
  entries.foldl (fun d (key, value) => d.insert key value) empty

/-- The entries whose key and value satisfy a test. -/
def filter (p : String → α → Bool) (d : Dictionary α) : Dictionary α :=
  ⟨d.entries.filter fun (key, value) => p key value, d.sorted.filter _⟩

/-- Change every value. -/
def mapValues (f : String → α → β) (d : Dictionary α) : Dictionary β :=
  ⟨d.entries.map fun (key, value) => (key, f key value),
    List.pairwise_map.2 (d.sorted.imp fun h => h)⟩

/-- The keys, in increasing order. -/
def keys (d : Dictionary α) : List String :=
  d.entries.map (·.1)

/-- The number of entries. -/
def size (d : Dictionary α) : Nat :=
  d.entries.length

/-- The weights of all values, added up. -/
def total (weight : α → Nat) (d : Dictionary α) : Nat :=
  d.entries.foldr (fun entry sum => weight entry.2 + sum) 0

/-- The value of a key, or a default. -/
def getD (d : Dictionary α) (key : String) (default : α) : α :=
  (d.get? key).getD default

/-! ## The view -/

theorem lookup_insertEntry (key : String) (value : α) (entries : List (String × α)) (k : String) :
    (insertEntry key value entries).lookup k =
      if k = key then some value else entries.lookup k := by
  induction entries with
  | nil =>
    by_cases h : k = key <;> simp [insertEntry, List.lookup_cons, h]
    split <;> simp_all
  | cons head rest ih =>
    obtain ⟨k', v'⟩ := head
    rw [insertEntry]
    split
    · by_cases h : k = key
      · simp [h]
      · have : (k == key) = false := by simpa using h
        simp [List.lookup_cons, h, this]
    · split
      next heq =>
        subst heq
        by_cases h : k = key
        · simp [h]
        · have : (k == key) = false := by simpa using h
          simp [List.lookup_cons, h, this]
      next hne =>
        by_cases h' : k = k'
        · subst h'
          simp [Ne.symm hne]
        · have : (k == k') = false := by simpa using h'
          simp [List.lookup_cons, this, ih]

/-- After an insertion the key has the new value and every other key its old one. -/
theorem get?_insert (d : Dictionary α) (key : String) (value : α) (k : String) :
    (d.insert key value).get? k = if k = key then some value else d.get? k :=
  lookup_insertEntry key value d.entries k

@[simp] theorem get?_empty (key : String) : (empty : Dictionary α).get? key = none := rfl

end Dictionary

end SiteScript
