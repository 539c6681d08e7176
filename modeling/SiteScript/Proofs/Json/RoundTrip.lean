import SiteScript.Json.Fields
import SiteScript.Proofs.Dictionary
import SiteScript.Proofs.Json.Writing

/-!
# SiteScript.Proofs.Json.RoundTrip

Writing a value and reading it again.  The tree of a value means the value, unless the value is
nested deeper than is allowed, and then it means nothing (`value?_ofJson`); so each written form is
read back exactly when the value is not nested too deep.

Records that were written have their fields for members, in whatever order these stand
(`objectFields?_ofJson`), and an object of strings is a value in whatever order its members stand
(`value?_strings`).
-/

namespace SiteScript.Json

/-- Whether arrays and objects are nested at most so deep. -/
def nestedWithin : Nat → Json → Bool
  | 0, .array _ => false
  | 0, .object _ => false
  | depth + 1, .array items => items.all (nestedWithin depth)
  | depth + 1, .object members => members.all fun member => nestedWithin depth member.2
  | _, _ => true

/-- Readers of items that give an item back or fail: together they give all items back or fail. -/
theorem mapM_map_eq {α β : Type} {read : α → Option β} {write : β → α} {p : β → Bool}
    {items : List β}
    (h : ∀ item ∈ items, read (write item) = if p item then some item else none) :
    (items.map write).mapM read = if items.all p then some items else none := by
  induction items with
  | nil => rfl
  | cons item items ih =>
      have hitems := ih fun item hitem => h item (List.mem_cons_of_mem _ hitem)
      rw [List.map_cons, List.mapM_cons, h item List.mem_cons_self, hitems, List.all_cons]
      by_cases hp : p item = true
      · by_cases hall : items.all p = true <;> simp [hp, hall]
      · simp [hp]

/-- A dictionary is read from the tree of its object, if each value is read from its tree. -/
theorem entries?_ofDictionary {α : Type} {write : α → Json} {read? : Raw → Option α}
    (h : ∀ a, read? (.ofJson (write a)) = some a) (d : Dictionary α) :
    Raw.entries? read? (.ofJson (ofDictionary (d.mapValues fun _ a => write a))) = some d := by
  have hmembers : (d.entries.map fun entry => (escape entry.1, Raw.ofJson (write entry.2))).mapM
      (fun (key, raw) => do return (← Raw.text? key, ← read? raw)) = some d.entries := by
    rw [mapM_map_eq (p := fun _ => true)]
    · simp
    · intro entry _
      simp [text?_escape, h]
  have htree : Raw.ofJson (ofDictionary (d.mapValues fun _ a => write a)) =
      .object (d.entries.map fun entry => (escape entry.1, .ofJson (write entry.2))) := by
    simp [ofDictionary, Dictionary.mapValues, Raw.ofJson]
  rw [htree, Raw.entries?, hmembers, Option.map_some, Dictionary.ofList_entries]

/-- **The tree of a value means the value**, if that is not nested too deep. -/
theorem value?_ofJson {value : Json} (h : Regular value) (depth : Nat) :
    (Raw.ofJson value).value? depth = if value.nestedWithin depth then some value else none := by
  induction h generalizing depth with
  | null => rw [Raw.ofJson, Raw.value?]; cases depth <;> rfl
  | bool b => rw [Raw.ofJson, Raw.value?]; cases depth <;> rfl
  | number h => rw [Raw.ofJson, Raw.value?, h.value]; cases depth <;> rfl
  | string s => rw [Raw.ofJson, Raw.value?, text?_escape]; cases depth <;> rfl
  | array _ ih =>
      rw [Raw.ofJson]
      cases depth with
      | zero => rfl
      | succ depth =>
          rw [Raw.value?, mapM_map_eq fun item hitem => ih item hitem depth, nestedWithin]
          split <;> rfl
  | @object members hsorted _ ih =>
      rw [Raw.ofJson]
      cases depth with
      | zero => rfl
      | succ depth =>
          have hmember : ∀ member ∈ members,
              (do
                let name ← Raw.text? (escape member.1)
                let value ← Raw.value? depth (Raw.ofJson member.2)
                return (name, value)) =
              if nestedWithin depth member.2 then some member else none := by
            intro member hmember
            rw [text?_escape, ih member hmember depth]
            split <;> rfl
          have hsame : ofMembers members = .object members := by
            rw [ofMembers]
            exact congrArg Json.object (@Dictionary.foldl_insertEntry _ [] _ hsorted)
          rw [Raw.value?, mapM_map_eq hmember, nestedWithin]
          split
          · exact congrArg some hsame
          · rfl

/-- The form on many lines means what the tree of the value means. -/
theorem parse?_pretty_eq (value : Json) :
    parse? value.pretty = (Raw.ofJson value).value? maxDepth := by
  rw [parse?, pretty, String.toList_ofList, (reads_prettyChars value 0).parse?, Option.bind_some]

/-- **Reading the form on many lines** gives the value back, unless it is nested too deep. -/
theorem parse?_pretty {value : Json} (h : Regular value) :
    parse? value.pretty = if value.nestedWithin maxDepth then some value else none := by
  rw [parse?_pretty_eq, value?_ofJson h]

/-- **Reading the form on one line** gives the value back, unless it is nested too deep. -/
theorem parse?_compact {value : Json} (h : Regular value) :
    parse? value.compact = if value.nestedWithin maxDepth then some value else none := by
  rw [parse?, compact, String.toList_ofList, (reads_compactChars value).parse?, Option.bind_some,
    value?_ofJson h]

end SiteScript.Json

namespace SiteScript.Json.Raw

/-! ## Fields -/

/-- Members whose names are asked for, each once and none of them taken before, are taken in one after
another. -/
theorem foldlM_addField? {names : List String} {members : List (String × Json)}
    {fields : Dictionary Raw} (hnames : ∀ member ∈ members, member.1 ∈ names)
    (hnew : ∀ member ∈ members, fields.contains member.1 = false)
    (hnodup : (members.map Prod.fst).Nodup) :
    (members.map fun member => (escape member.1, Raw.ofJson member.2)).foldlM (addField? names)
        fields =
      some ((members.map fun member => (member.1, Raw.ofJson member.2)).foldl
        (fun fields (name, raw) => fields.insert name raw) fields) := by
  induction members generalizing fields with
  | nil => rfl
  | cons member members ih =>
    obtain ⟨hfirst, hrest⟩ := List.nodup_cons.1 hnodup
    have hadd : addField? names fields (escape member.1, Raw.ofJson member.2) =
        some (fields.insert member.1 (.ofJson member.2)) := by
      rw [addField?, text?_escape]
      simp [hnames member List.mem_cons_self, hnew member List.mem_cons_self]
    rw [List.map_cons, List.foldlM_cons, hadd]
    refine ih (fun other hother => hnames other (List.mem_cons_of_mem _ hother)) ?_ hrest
    intro other hother
    have hne : other.1 ≠ member.1 := fun heq => hfirst (heq ▸ List.mem_map_of_mem hother)
    rw [Dictionary.contains, Dictionary.get?_insert, if_neg hne]
    exact hnew other (List.mem_cons_of_mem _ hother)

/-- The members of a written record are its fields. -/
theorem objectFields?_ofJson {names : List String} {members : List (String × Json)}
    (hnames : ∀ member ∈ members, member.1 ∈ names) (hnodup : (members.map Prod.fst).Nodup) :
    objectFields? names (members.map fun member => (escape member.1, Raw.ofJson member.2)) =
      some (.ofList (members.map fun member => (member.1, Raw.ofJson member.2))) :=
  foldlM_addField? hnames (fun _ _ => rfl) hnodup

/-! ## Strings -/

@[simp] theorem string?_ofJson (s : String) : string? (.ofJson (.string s)) = some s := by
  rw [Raw.ofJson, string?, text?_escape]

@[simp] theorem optionalString?_ofJson (s : String) :
    optionalString? (.ofJson (.string s)) = some (some s) := by
  simp [Raw.ofJson, optionalString?, string?, text?_escape]

/-- An object of strings is a value wherever there may be an object. -/
theorem value?_strings {members : List (String × Json)}
    (h : ∀ member ∈ members, ∃ s, member.2 = .string s) {depth : Nat} (hdepth : depth ≠ 0) :
    (Raw.ofJson (.object members)).value? depth = some (ofMembers members) := by
  obtain ⟨depth, rfl⟩ := Nat.exists_eq_succ_of_ne_zero hdepth
  rw [Raw.ofJson, value?, mapM_map_eq (p := fun _ => true)]
  · simp
  · intro member hmember
    obtain ⟨name, _⟩ := member
    obtain ⟨s, rfl⟩ := h _ hmember
    have hvalue : value? depth (.ofJson (.string s)) = some (.string s) := by
      rw [Raw.ofJson, value?, text?_escape]
      rfl
    simp [text?_escape, hvalue]

end SiteScript.Json.Raw
