import SiteScript.Proofs.Json.Reading

/-!
# SiteScript.Proofs.Json.Rereading

What is read where a value was written (`reread`).  A real may be read as a neighbour of what was
written, so this need not be the value.  But an array is reread item by item and an object member by
member (`reread_array`, `member?_of_reread`), and an integer is read from nothing but itself
(`eq_int_of_reread`). -/

namespace SiteScript.Json

/-- What is read where a value was written, at a place that leaves so much depth. -/
def reread (depth : Nat) (value : Json) : Option Json := (Raw.ofJson value).value? depth

/-- A value with reals that are read back is read as itself. -/
theorem eq_of_reread {value again : Json} {depth : Nat} (h : Kept value)
    (hreals : ∀ x, HasReal x value → ReadsBack (.real x))
    (hread : reread depth value = some again) : again = value := by
  rw [reread, value?_ofJson (h.regular hreals)] at hread
  split at hread
  · exact (Option.some.inj hread).symm
  · cases hread

/-! ## Arrays and objects -/

/-- An array is reread item by item. -/
theorem reread_array (depth : Nat) (items : List Json) :
    reread (depth + 1) (.array items) = (items.mapM (reread depth)).map .array := by
  rw [reread, Raw.ofJson, Raw.value?, List.mapM_map]
  rfl

/-- The names of members stay when their values are reread. -/
def rereadMember (depth : Nat) (member : String × Json) : Option (String × Json) :=
  (reread depth member.2).map fun value => (member.1, value)

/-- An object is reread member by member. -/
theorem reread_object (depth : Nat) (members : List (String × Json)) :
    reread (depth + 1) (.object members) =
      (members.mapM (rereadMember depth)).map ofMembers := by
  have hmember : ∀ member : String × Json,
      (do
        let name ← Raw.text? (escape member.1)
        let value ← Raw.value? depth (Raw.ofJson member.2)
        return (name, value)) = rereadMember depth member := by
    intro member
    rw [text?_escape, rereadMember, reread, Option.map_eq_bind]
    rfl
  rw [reread, Raw.ofJson, Raw.value?, List.mapM_map]
  simp only [Function.comp_def, hmember]

/-- Members are reread under their names. -/
theorem mapM_rereadMember {depth : Nat} {members again : List (String × Json)}
    (h : members.mapM (rereadMember depth) = some again) :
    again.map Prod.fst = members.map Prod.fst ∧
      ∀ name, again.lookup name = (members.lookup name).bind (reread depth) := by
  induction members generalizing again with
  | nil =>
      cases h
      exact ⟨rfl, fun _ => rfl⟩
  | cons member members ih =>
      rw [List.mapM_cons] at h
      simp only [Option.pure_def, Option.bind_eq_bind, Option.bind_eq_some_iff] at h
      obtain ⟨_, hmember, rest, hrest, heq⟩ := h
      cases heq
      obtain ⟨value, hvalue, rfl⟩ := Option.map_eq_some_iff.1 hmember
      obtain ⟨hnames, hlookup⟩ := ih hrest
      refine ⟨by rw [List.map_cons, List.map_cons, hnames], fun name => ?_⟩
      rw [List.lookup_cons, List.lookup_cons]
      split
      · exact hvalue.symm
      · exact hlookup name

theorem sortedKeys_of_map_fst {α β : Type} {a : List (String × α)} {b : List (String × β)}
    (h : a.map Prod.fst = b.map Prod.fst) (hb : SortedKeys b) : SortedKeys a := by
  have hnames := List.pairwise_map.2 hb
  rw [← h] at hnames
  exact List.pairwise_map.1 hnames

/-- The members of a value that was read are such values. -/
theorem Kept.member? {value member : Json} (h : Kept value) {name : String}
    (hmember : value.member? name = some member) : Kept member := by
  cases h with
  | object _ hmembers =>
      obtain ⟨before, after, rfl, -⟩ := List.lookup_eq_some_iff.1 hmember
      exact hmembers (name, member) (List.mem_append_right _ List.mem_cons_self)
  | null | bool _ | int _ | real _ | string _ | array _ => cases hmember

/-- **A member of a reread value is that member, reread.** -/
theorem member?_of_reread {value again : Json} {depth : Nat} (hkept : Kept value)
    (h : reread (depth + 1) value = some again) (name : String) :
    again.member? name = (value.member? name).bind (reread depth) := by
  cases hkept with
  | object hsorted _ =>
      rw [reread_object] at h
      obtain ⟨members, hmembers, rfl⟩ := Option.map_eq_some_iff.1 h
      obtain ⟨hnames, hlookup⟩ := mapM_rereadMember hmembers
      have hsame : ofMembers members = .object members :=
        congrArg Json.object
          (@Dictionary.foldl_insertEntry _ [] members (sortedKeys_of_map_fst hnames hsorted))
      rw [hsame]
      exact hlookup name
  | array _ =>
      rw [reread_array] at h
      obtain ⟨items, -, rfl⟩ := Option.map_eq_some_iff.1 h
      rfl
  | int _ | real _ =>
      rw [reread, Raw.ofJson, Raw.value?] at h
      obtain ⟨n, -, rfl⟩ := Option.map_eq_some_iff.1 h
      rfl
  | string s =>
      rw [reread, Raw.ofJson, Raw.value?] at h
      obtain ⟨s, -, rfl⟩ := Option.map_eq_some_iff.1 h
      rfl
  | null | bool _ =>
      rw [reread, Raw.ofJson, Raw.value?] at h
      cases h
      rfl

/-! ## Numbers -/

/-- A number is read from a number. -/
theorem number_of_reread {value : Json} {depth : Nat} {n : Number}
    (h : reread depth value = some (.number n)) :
    ∃ m, value = .number m ∧ (numeral m).number? = some n := by
  rw [reread] at h
  cases value with
  | number m =>
      rw [Raw.ofJson, Raw.value?] at h
      obtain ⟨_, hnumber, heq⟩ := Option.map_eq_some_iff.1 h
      cases heq
      exact ⟨m, rfl, hnumber⟩
  | null | bool _ =>
      rw [Raw.ofJson, Raw.value?] at h
      cases h
  | string s =>
      rw [Raw.ofJson, Raw.value?] at h
      obtain ⟨_, -, heq⟩ := Option.map_eq_some_iff.1 h
      cases heq
  | array _ | object _ =>
      rw [Raw.ofJson] at h
      cases depth with
      | zero => cases h
      | succ depth =>
          obtain ⟨_, -, heq⟩ := Option.map_eq_some_iff.1 h
          cases heq

/-- The text of a real is not read as an integer. -/
theorem number?_numeral_real (x : Binary64) (n : Int) :
    (numeral (.real x)).number? ≠ some (.int n) := by
  obtain ⟨token, hscan, hreal⟩ := scanNumber_realText x
  have hnumeral : numeral (.real x) = token := by
    rw [numeral, Number.text, hscan]
    rfl
  rw [hnumeral, Number.Token.number?, if_neg (by rw [hreal]; exact Bool.false_ne_true)]
  intro h
  obtain ⟨_, -, heq⟩ := Option.map_eq_some_iff.1 h
  cases heq

theorem reread_int {n : Int} (h : FitsWord n) (depth : Nat) :
    reread depth (.int n) = some (.int n) := by
  rw [reread, Json.int, value?_ofJson (.number (readsBack_int h))]
  cases depth <;> rfl

/-- **An integer is read from nothing but itself.** -/
theorem eq_int_of_reread {value : Json} {depth : Nat} {n : Int} (hkept : Kept value)
    (h : reread depth value = some (.int n)) : value = .int n := by
  obtain ⟨m, rfl, hnumber⟩ := number_of_reread h
  cases hkept with
  | int hfits =>
      rw [(readsBack_int hfits).value] at hnumber
      exact congrArg Json.number (Option.some.inj hnumber)
  | real x => exact absurd hnumber (number?_numeral_real x n)

end SiteScript.Json
