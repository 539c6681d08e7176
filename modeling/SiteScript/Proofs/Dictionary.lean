import SiteScript.Dictionary

/-!
# SiteScript.Proofs.Dictionary

Laws of dictionaries: what a dictionary made from a list of entries holds, that the entries of a
dictionary make it again, that dictionaries with the same look-ups are equal, and that changes of
values leave the keys alone.
-/

namespace SiteScript

variable {α β : Type}

namespace Dictionary

/-- A dictionary is its entries. -/
theorem ext_entries {a b : Dictionary α} (h : a.entries = b.entries) : a = b := by
  obtain ⟨as, ha⟩ := a
  obtain ⟨bs, hb⟩ := b
  subst h
  rfl

/-- The keys are those that have a value. -/
theorem mem_keys {d : Dictionary α} {key : String} : key ∈ d.keys ↔ d.contains key = true := by
  rw [keys, contains, get?, List.lookup_isSome_iff]
  constructor
  · intro hkey
    obtain ⟨entry, hentry, rfl⟩ := List.mem_map.1 hkey
    exact ⟨entry, hentry, by simp⟩
  · rintro ⟨entry, hentry, heq⟩
    exact List.mem_map.2 ⟨entry, hentry, (eq_of_beq heq).symm⟩

/-- What is found among the keys stands before everything else that could be found. -/
theorem le_of_find?_keys {d : Dictionary α} {p : String → Bool} {first key : String}
    (h : d.keys.find? p = some first) (hkey : key ∈ d.keys) (hp : p key = true) : first ≤ key := by
  obtain ⟨-, before, after, hkeys, hbefore⟩ := List.find?_eq_some_iff_append.1 h
  have hsorted : d.keys.Pairwise (· < ·) := List.pairwise_map.2 d.sorted
  rw [hkeys] at hkey hsorted
  rcases List.mem_append.1 hkey with hkey | hkey
  · exact absurd hp (by simpa using hbefore key hkey)
  · rcases List.mem_cons.1 hkey with rfl | hkey
    · exact String.le_refl _
    · exact Std.le_of_lt ((List.pairwise_cons.1 (List.pairwise_append.1 hsorted).2.1).1 key hkey)

/-- A value that is found belongs to an entry. -/
theorem mem_entries_of_get? {d : Dictionary α} {key : String} {value : α}
    (h : d.get? key = some value) : (key, value) ∈ d.entries := by
  obtain ⟨before, after, hentries, -⟩ := List.lookup_eq_some_iff.1 h
  simp [hentries]

/-- Changing the values leaves the keys alone. -/
@[simp] theorem keys_mapValues (f : String → α → β) (d : Dictionary α) :
    (d.mapValues f).keys = d.keys := by
  simp [keys, mapValues]

theorem get?_mapValues (f : String → α → β) (d : Dictionary α) (key : String) :
    (d.mapValues f).get? key = (d.get? key).map (f key) := by
  simp only [get?, mapValues]
  induction d.entries with
  | nil => rfl
  | cons entry entries ih =>
      rw [List.map_cons, List.lookup_cons, List.lookup_cons, ih]
      cases heq : key == entry.1 with
      | false => rfl
      | true => rw [eq_of_beq heq]; rfl

/-- The entries of some of the keys. -/
theorem get?_filter_keys (p : String → Bool) (d : Dictionary α) (key : String) :
    (d.filter fun key _ => p key).get? key = if p key then d.get? key else none := by
  simp only [get?, filter]
  induction d.entries with
  | nil => simp
  | cons entry entries ih =>
      obtain ⟨name, value⟩ := entry
      rw [List.filter_cons, List.lookup_cons]
      by_cases heq : key = name
      · subst heq
        cases hp : p key with
        | false => simpa [hp] using ih
        | true => simp
      · have hne : (key == name) = false := by simpa using heq
        cases hp : p name with
        | false => simpa [hne] using ih
        | true => simpa [List.lookup_cons, hne] using ih

theorem keys_filter_keys (p : String → Bool) (d : Dictionary α) :
    (d.filter fun key _ => p key).keys = d.keys.filter p := by
  rw [keys, keys, filter, List.filter_map]
  rfl

/-! ## Sorted entries -/

/-- An entry with the largest key goes to the end. -/
theorem insertEntry_of_lt {key : String} {value : α} {entries : List (String × α)}
    (h : ∀ entry ∈ entries, entry.1 < key) :
    insertEntry key value entries = entries ++ [(key, value)] := by
  induction entries with
  | nil => rfl
  | cons entry rest ih =>
      obtain ⟨k, v⟩ := entry
      have hlt : k < key := h (k, v) List.mem_cons_self
      have hnot : ¬ key < k := String.lt_asymm hlt
      have hne : key ≠ k := fun heq => String.lt_irrefl k (heq ▸ hlt)
      rw [insertEntry, if_neg hnot, if_neg hne, ih fun entry hentry =>
        h entry (List.mem_cons_of_mem _ hentry)]
      rfl

/-- Sorted entries put in one after another stay as they are. -/
theorem foldl_insertEntry {done entries : List (String × α)} (h : SortedKeys (done ++ entries)) :
    entries.foldl (fun sorted (key, value) => insertEntry key value sorted) done =
      done ++ entries := by
  induction entries generalizing done with
  | nil => simp
  | cons entry entries ih =>
      obtain ⟨key, value⟩ := entry
      have hlt : ∀ e ∈ done, e.1 < key := fun e he =>
        (List.pairwise_append.1 h).2.2 e he (key, value) List.mem_cons_self
      rw [List.foldl_cons]
      dsimp only
      rw [insertEntry_of_lt hlt, ih (by simpa using h), List.append_assoc, List.singleton_append]

/-- What an insertion does to the weights of entries: the new value counts, the old one no more. -/
theorem foldr_insertEntry (weight : α → Nat) (key : String) (value : α)
    {entries : List (String × α)} (h : SortedKeys entries) :
    (insertEntry key value entries).foldr (fun entry sum => weight entry.2 + sum) 0 +
        ((entries.lookup key).map weight).getD 0 =
      entries.foldr (fun entry sum => weight entry.2 + sum) 0 + weight value := by
  induction entries with
  | nil => simp [insertEntry]
  | cons entry rest ih =>
      obtain ⟨k, v⟩ := entry
      obtain ⟨hhead, hrest⟩ := List.pairwise_cons.1 h
      rw [insertEntry]
      split
      next hlt =>
        -- the key stands before all others, so it had no value
        have hnew : ((k, v) :: rest).lookup key = none := by
          refine List.lookup_eq_none_iff.2 fun entry hentry => ?_
          have hbefore : key < entry.1 := by
            rcases List.mem_cons.1 hentry with rfl | hentry
            · exact hlt
            · exact String.lt_trans hlt (hhead entry hentry)
          exact bne_iff_ne.2 fun heq => String.lt_irrefl key (heq ▸ hbefore)
        simp only [hnew, List.foldr_cons, Option.map_none, Option.getD_none]
        omega
      next =>
        split
        next heq =>
          simp only [heq, List.lookup_cons_self, List.foldr_cons, Option.map_some,
            Option.getD_some]
          omega
        next hne =>
          have hskip : (key == k) = false := by simpa using hne
          have hsum := ih hrest
          simp only [List.lookup_cons, hskip, List.foldr_cons]
          omega

/-- After an insertion the new value weighs instead of the old one. -/
theorem total_insert (weight : α → Nat) (d : Dictionary α) (key : String) (value : α) :
    (d.insert key value).total weight + ((d.get? key).map weight).getD 0 =
      d.total weight + weight value :=
  foldr_insertEntry weight key value d.sorted

/-! ## Dictionaries from lists -/

/-- The entries of a dictionary make it again. -/
theorem ofList_entries (d : Dictionary α) : ofList d.entries = d := by
  have hentries : ∀ (entries : List (String × α)) (d : Dictionary α),
      (entries.foldl (fun d (key, value) => d.insert key value) d).entries =
        entries.foldl (fun sorted (key, value) => insertEntry key value sorted) d.entries := by
    intro entries
    induction entries with
    | nil => exact fun d => rfl
    | cons entry entries ih => exact fun d => ih _
  refine ext_entries ?_
  rw [ofList, hentries]
  exact @foldl_insertEntry _ [] _ d.sorted

/-- Entries put into a dictionary one after another: a key has the value of the last entry with that
key, or the value it had before. -/
theorem get?_foldl_insert (entries : List (String × α)) (d : Dictionary α)
    (key : String) (value : α) :
    (entries.foldl (fun d (k, v) => d.insert k v) d).get? key = some value ↔
      (∃ before after, entries = before ++ (key, value) :: after ∧ ∀ e ∈ after, e.1 ≠ key) ∨
        (d.get? key = some value ∧ ∀ e ∈ entries, e.1 ≠ key) := by
  induction entries generalizing d with
  | nil => simp
  | cons head rest ih =>
      obtain ⟨k, v⟩ := head
      rw [List.foldl_cons, ih, get?_insert]
      constructor
      · rintro (⟨before, after, rfl, hafter⟩ | ⟨hget, hrest⟩)
        · exact .inl ⟨(k, v) :: before, after, rfl, hafter⟩
        · by_cases hk : key = k
          · subst hk
            rw [if_pos rfl] at hget
            obtain rfl := Option.some.inj hget
            exact .inl ⟨[], rest, rfl, hrest⟩
          · rw [if_neg hk] at hget
            exact .inr ⟨hget, by simpa [Ne.symm hk] using hrest⟩
      · rintro (⟨before, after, heq, hafter⟩ | ⟨hget, hall⟩)
        · cases before with
          | nil =>
              obtain ⟨⟨rfl, rfl⟩, rfl⟩ : (k = key ∧ v = value) ∧ rest = after := by simpa using heq
              exact .inr ⟨if_pos rfl, hafter⟩
          | cons first before =>
              obtain ⟨-, rfl⟩ : (k, v) = first ∧ rest = before ++ (key, value) :: after := by
                simpa using heq
              exact .inl ⟨before, after, rfl, hafter⟩
        · have hk : k ≠ key := hall (k, v) List.mem_cons_self
          refine .inr ⟨?_, fun e he => hall e (List.mem_cons_of_mem _ he)⟩
          rw [if_neg (Ne.symm hk), hget]

/-- A key of a dictionary made from a list has the value of the last entry with that key. -/
theorem get?_ofList {entries : List (String × α)} {key : String} {value : α} :
    (ofList entries).get? key = some value ↔
      ∃ before after, entries = before ++ (key, value) :: after ∧ ∀ e ∈ after, e.1 ≠ key := by
  rw [ofList, get?_foldl_insert]
  simp

/-- A key that stands with one value only has that value. -/
theorem get?_ofList_of_unique {entries : List (String × α)}
    (h : ∀ key value other, (key, value) ∈ entries → (key, other) ∈ entries → other = value)
    {key : String} {value : α} :
    (ofList entries).get? key = some value ↔ (key, value) ∈ entries := by
  constructor
  · intro hget
    obtain ⟨before, after, rfl, -⟩ := get?_ofList.1 hget
    simp
  · intro hmem
    -- the last entry of the key counts, and it has the same value
    have hlast : ∀ last : List (String × α), (∃ entry ∈ last, entry.1 = key) →
        ∃ before other after, last = before ++ (key, other) :: after ∧ ∀ e ∈ after, e.1 ≠ key := by
      intro last hkey
      induction last with
      | nil => simp at hkey
      | cons head rest ih =>
          by_cases hrest : ∃ entry ∈ rest, entry.1 = key
          · obtain ⟨before, other, after, rfl, hafter⟩ := ih hrest
            exact ⟨head :: before, other, after, rfl, hafter⟩
          · obtain ⟨entry, hentry, rfl⟩ := hkey
            rcases List.mem_cons.1 hentry with rfl | hentry
            · exact ⟨[], entry.2, rest, rfl, fun e he heq => hrest ⟨e, he, heq⟩⟩
            · exact absurd ⟨entry, hentry, rfl⟩ hrest
    obtain ⟨before, other, after, rfl, hafter⟩ := hlast entries ⟨_, hmem, rfl⟩
    obtain rfl := h key value other hmem (by simp)
    exact get?_ofList.2 ⟨before, after, rfl, hafter⟩

/-! ## The view -/

theorem nodup_keys (d : Dictionary α) : (d.entries.map Prod.fst).Nodup := by
  rw [List.Nodup, List.pairwise_map]
  refine d.sorted.imp fun {a b} hlt heq => ?_
  rw [heq] at hlt
  exact String.lt_irrefl _ hlt

/-- The entries are what look-ups tell. -/
theorem mem_entries_iff {d : Dictionary α} {key : String} {value : α} :
    (key, value) ∈ d.entries ↔ d.get? key = some value := by
  constructor
  · intro hmem
    obtain ⟨before, after, hsplit⟩ := List.append_of_mem hmem
    have hnodup := d.nodup_keys
    rw [hsplit, List.map_append, List.map_cons] at hnodup
    refine List.lookup_eq_some_iff.2 ⟨before, after, hsplit, fun entry hentry => ?_⟩
    have hne : key ≠ entry.1 := fun heq => (List.nodup_append.1 hnodup).2.2 entry.1
      (List.mem_map_of_mem hentry) key List.mem_cons_self heq.symm
    simpa using hne
  · exact mem_entries_of_get?

/-- Dictionaries with the same look-ups are equal. -/
theorem ext_get? {a b : Dictionary α} (h : ∀ key, a.get? key = b.get? key) : a = b := by
  have hnodup : ∀ d : Dictionary α, d.entries.Nodup := fun d =>
    List.Pairwise.of_map Prod.fst (fun _ _ hne heq => hne (congrArg Prod.fst heq)) d.nodup_keys
  have hperm : a.entries.Perm b.entries := by
    refine (List.perm_ext_iff_of_nodup (hnodup a) (hnodup b)).2 ?_
    rintro ⟨key, value⟩
    rw [mem_entries_iff, mem_entries_iff, h key]
  refine ext_entries (hperm.eq_of_pairwise ?_ a.sorted b.sorted)
  intro x y _ _ hxy hyx
  exact absurd (String.lt_trans hxy hyx) (String.lt_irrefl _)

/-- A dictionary holds the last value that entries give each key, and no other keys. -/
def HoldsLast (d : Dictionary α) (entries : List (String × α)) : Prop :=
  ∀ key value, d.get? key = some value ↔
    ∃ before after, entries = before ++ (key, value) :: after ∧ ∀ e ∈ after, e.1 ≠ key

/-- That is how a dictionary is made from a list. -/
theorem holdsLast_iff {d : Dictionary α} {entries : List (String × α)} :
    d.HoldsLast entries ↔ d = ofList entries := by
  constructor
  · intro h
    refine ext_get? fun key => Option.ext fun value => ?_
    rw [h, get?_ofList]
  · rintro rfl key value
    exact get?_ofList

end Dictionary

end SiteScript
