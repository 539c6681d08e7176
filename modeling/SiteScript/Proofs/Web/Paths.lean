import SiteScript.Proofs.Text
import SiteScript.Web.Route

/-!
# SiteScript.Proofs.Web.Paths

The one form in which the paths of requests are read.

```
base ++ slashes ++ core ++ slashes   is read as   "/" ++ core
```

1. Everything that begins with the path of the interface is read, and nothing else
   (`ApiPath.isSome_ofPath?_iff`).  The slashes around what follows do not count
   (`ApiPath.ofPath?_slashes`).
2. What is read begins with one slash, and goes on with something else unless it is a slash alone;
   neither it nor its last segment has a slash at the end (`ApiPath.of_ofPath?`).  With the placeholder
   it always goes on (`ApiPath.dynamic_slash`).

`paths_normalised` puts both together. -/

namespace SiteScript.Web

/-- A text begins with a segment: with something that is no slash. -/
def BeginsSegment (text : List Char) : Prop :=
  ∃ c after, c ≠ '/' ∧ text = c :: after

/-! ## Slashes -/

theorem beginsSegment_append {text : List Char} (h : BeginsSegment text) (after : List Char) :
    BeginsSegment (text ++ after) := by
  obtain ⟨c, rest, hc, rfl⟩ := h
  exact ⟨c, rest ++ after, hc, rfl⟩

theorem dropSlashes_isPrefix (text : List Char) : dropSlashes text <+: text :=
  Text.dropEndWhile_isPrefix _ text

/-- Dropping slashes at the end leaves none there. -/
theorem getLast?_dropSlashes (text : List Char) : (dropSlashes text).getLast? ≠ some '/' := by
  intro h
  cases Text.eq_false_of_mem_getLast?_dropEndWhile (Option.mem_def.2 h)

/-- What begins with a segment is not reached from the end. -/
theorem dropSlashes_append {text : List Char} (h : BeginsSegment text) (before : List Char) :
    dropSlashes (before ++ text) = before ++ dropSlashes text := by
  obtain ⟨c, after, hc, rfl⟩ := h
  have hkept : (c == '/') = false := by simpa using hc
  rw [dropSlashes, dropSlashes, Text.dropEndWhile_append_cons (by exact hkept),
    Text.dropEndWhile_cons (by exact hkept)]

/-- Slashes at both ends make no difference. -/
theorem dropSlashes_dropWhile {before after : List Char} (hbefore : ∀ c ∈ before, c = '/')
    (hafter : ∀ c ∈ after, c = '/') (text : List Char) :
    dropSlashes ((before ++ text ++ after).dropWhile (· == '/')) =
      dropSlashes (text.dropWhile (· == '/')) := by
  have hslash : ∀ {slashes : List Char}, (∀ c ∈ slashes, c = '/') →
      ∀ c ∈ slashes, (c == '/') = true := fun h c hc => beq_iff_eq.2 (h c hc)
  have hend : ∀ text, dropSlashes (text ++ after) = dropSlashes text := fun text => by
    rw [dropSlashes, dropSlashes, Text.dropEndWhile, Text.dropEndWhile, List.reverse_append,
      List.dropWhile_append_of_pos fun c hc => hslash hafter c (List.mem_reverse.1 hc)]
  rw [List.append_assoc, List.dropWhile_append_of_pos (hslash hbefore), List.dropWhile_append]
  split
  next hempty =>
    have hnone : (after ++ []).dropWhile (· == '/') = [] :=
      List.dropWhile_append_of_pos (hslash hafter)
    rw [List.append_nil] at hnone
    rw [List.isEmpty_iff.1 hempty, hnone]
  next => exact hend _

/-- What begins with a segment has no slashes to drop before it. -/
theorem dropWhile_slash {text : List Char} (h : BeginsSegment text) :
    text.dropWhile (· == '/') = text := by
  obtain ⟨c, after, hc, rfl⟩ := h
  exact List.dropWhile_cons_of_neg (by simpa using hc)

/-! ## Paths of requests -/

namespace ApiPath

variable {requested base : String} {path : ApiPath}

/-- A path is read from everything that begins with the path of the interface. -/
theorem ofPath?_append (base rest : String) : ∃ path : ApiPath,
    ofPath? (base ++ rest) base = some path ∧
      path.path.toList = '/' :: dropSlashes (rest.toList.dropWhile (· == '/')) := by
  have hrest : Text.dropPrefix? base.toList (base ++ rest).toList = some rest.toList :=
    Text.dropPrefix?_eq_some.2 String.toList_append
  rw [ofPath?, hrest]
  exact ⟨_, rfl, String.toList_ofList⟩

/-- The slashes around what follows the path of the interface do not count. -/
theorem ofPath?_slashes {before after : String} (hbefore : ∀ c ∈ before.toList, c = '/')
    (hafter : ∀ c ∈ after.toList, c = '/') (base rest : String) :
    ofPath? (base ++ (before ++ rest ++ after)) base = ofPath? (base ++ rest) base := by
  have hdrop : ∀ rest : String,
      Text.dropPrefix? base.toList (base ++ rest).toList = some rest.toList := fun rest =>
    Text.dropPrefix?_eq_some.2 String.toList_append
  rw [ofPath?, ofPath?, hdrop, hdrop]
  simp only [String.toList_append, dropSlashes_dropWhile hbefore hafter]

/-- What is read from a request: one slash and then a text with a slash at neither end.  The
placeholder stands in the place of what follows the last slash. -/
theorem of_ofPath? (h : ofPath? requested base = some path) : ∃ text parent,
    path.path.toList = '/' :: text ∧ text.head? ≠ some '/' ∧
      '/' :: text = parent ++ '/' :: path.last.toList ∧
      path.dynamic.toList = parent ++ '/' :: placeholder.toList ∧ '/' ∉ path.last.toList ∧
        text.getLast? ≠ some '/' := by
  rw [ofPath?] at h
  split at h
  next => cases h
  next rest _ =>
    have hhead : (dropSlashes (rest.dropWhile (· == '/'))).head? ≠ some '/' := by
      intro hslash
      have hfirst := Text.mem_head?_of_dropEndWhile (Option.mem_def.2 hslash)
      cases Text.eq_false_of_mem_head?_dropWhile hfirst
    obtain ⟨parent, last, hcut, htext, hlast⟩ := Text.exists_cutLast?
      (List.mem_cons_self (a := '/') (l := dropSlashes (rest.dropWhile (· == '/'))))
    simp only [hcut, Option.getD_some, Option.some.injEq] at h
    subst h
    simp only [String.toList_ofList]
    exact ⟨_, parent, rfl, hhead, htext, by simp, hlast, getLast?_dropSlashes _⟩

/-- With the placeholder, a path goes on after its first slash with something else. -/
theorem dynamic_slash (h : ofPath? requested base = some path) :
    ∃ text, path.dynamic.toList = '/' :: text ∧ BeginsSegment text := by
  obtain ⟨text, parent, -, hhead, htext, hdynamic, -⟩ := of_ofPath? h
  cases parent with
  | nil => exact ⟨_, hdynamic, '$', _, by decide, rfl⟩
  | cons slash parent =>
      obtain ⟨rfl, rfl⟩ := List.cons.inj htext
      refine ⟨_, hdynamic, beginsSegment_append ?_ _⟩
      cases parent with
      | nil => exact absurd rfl hhead
      | cons c parent => exact ⟨c, parent, fun hc => hhead (by rw [hc]; rfl), rfl⟩

/-- The last segment is empty for the slash alone, and for nothing else. -/
theorem last_eq_empty_iff (h : ofPath? requested base = some path) :
    path.last = "" ↔ path.path = "/" := by
  obtain ⟨text, parent, hpath, -, hcut, -, hlast, hend⟩ := of_ofPath? h
  have hempty : path.last = "" ↔ text = [] := by
    rw [← String.toList_eq_nil_iff]
    constructor
    · intro hnone
      cases text with
      | nil => rfl
      | cons c text =>
          -- the path would end in the slash before the empty segment
          refine absurd ?_ hend
          have hslash := congrArg List.getLast? hcut
          rw [hnone] at hslash
          simpa using hslash
    · rintro rfl
      have hlength := congrArg List.length hcut
      refine List.length_eq_zero_iff.1 ?_
      simp at hlength
      omega
  rw [hempty, ← String.toList_inj, hpath]
  simp

/-- What begins with the path of the interface is read, and nothing else. -/
theorem isSome_ofPath?_iff : (ofPath? requested base).isSome ↔ ∃ rest, requested = base ++ rest := by
  constructor
  · intro h
    obtain ⟨path, hpath⟩ := Option.isSome_iff_exists.1 h
    rw [ofPath?] at hpath
    split at hpath
    next => cases hpath
    next rest hrest =>
      refine ⟨String.ofList rest, ?_⟩
      rw [← String.toList_inj, String.toList_append, String.toList_ofList]
      exact Text.dropPrefix?_eq_some.1 hrest
  · rintro ⟨rest, rfl⟩
    obtain ⟨path, hpath, -⟩ := ofPath?_append base rest
    exact Option.isSome_of_eq_some hpath

/-- A path is what its request says below the path of the interface, without the slashes around it.
-/
theorem exists_core (h : ofPath? requested base = some path) : ∃ before core after : String,
    (∀ c ∈ (before ++ after).toList, c = '/') ∧ requested = base ++ (before ++ core ++ after) ∧
      path.path = "/" ++ core := by
  obtain ⟨rest, rfl⟩ := isSome_ofPath?_iff.1 (Option.isSome_of_eq_some h)
  obtain ⟨read, hread, htext⟩ := ofPath?_append base rest
  obtain rfl : read = path := Option.some.inj (hread.symm.trans h)
  obtain ⟨after, hafter, hslashes⟩ :=
    Text.exists_dropEndWhile (· == '/') (rest.toList.dropWhile (· == '/'))
  have hbefore := List.takeWhile_append_dropWhile (p := (· == '/')) (l := rest.toList)
  refine ⟨String.ofList (rest.toList.takeWhile (· == '/')),
    String.ofList (dropSlashes (rest.toList.dropWhile (· == '/'))), String.ofList after, ?_, ?_, ?_⟩
  · intro c hc
    rw [String.toList_append, String.toList_ofList, String.toList_ofList] at hc
    rcases List.mem_append.1 hc with hc | hc
    · exact beq_iff_eq.1 (List.all_eq_true.1 List.all_takeWhile c hc)
    · exact beq_iff_eq.1 (hslashes c hc)
  · refine congrArg (base ++ ·) (String.toList_inj.1 ?_)
    simp only [String.toList_append, String.toList_ofList, List.append_assoc, dropSlashes, hafter,
      hbefore]
  · rw [← String.toList_inj, htext]
    simp

/-- The form of a path: one slash and a text with a slash at neither end.  The last slash of both
stands before the last segment, which the placeholder replaces. -/
structure Normal (path : ApiPath) : Prop where
  begins : ∃ text, path.path = "/" ++ text ∧ text.toList.head? ≠ some '/'
  ends : path.path.toList.getLast? = some '/' → path.path = "/"
  parts : ∃ parent, path.path = parent ++ "/" ++ path.last ∧
    path.dynamic = parent ++ "/" ++ placeholder
  segment : '/' ∉ path.last.toList
  last_eq_empty_iff : path.last = "" ↔ path.path = "/"

/-- Paths that are read have this form. -/
theorem normal_of_ofPath? (h : ofPath? requested base = some path) : path.Normal := by
  obtain ⟨text, parent, hpath, hhead, hcut, hdynamic, hlast, hend⟩ := of_ofPath? h
  refine ⟨⟨String.ofList text, ?_, by simpa using hhead⟩, fun hslash => ?_,
    ⟨String.ofList parent, ?_, ?_⟩, hlast, last_eq_empty_iff h⟩
  · rw [← String.toList_inj, hpath]
    simp
  · rw [← String.toList_inj, hpath]
    cases text with
    | nil => rfl
    | cons c text =>
        rw [hpath] at hslash
        exact absurd (by simpa using hslash) hend
  · rw [← String.toList_inj, hpath, hcut]
    simp
  · rw [← String.toList_inj, hdynamic]
    simp

end ApiPath

/-- **Requests are read in one form.**  A request is read if and only if it begins with the path of the
interface.  What is read is a slash and what follows in the request, without the slashes around it: it
has no other slash at either end, and it is cut before its last segment, which is empty only for the
slash alone.  So more slashes around what follows make no other path. -/
theorem paths_normalised (requested base : String) :
    ((ApiPath.ofPath? requested base).isSome ↔ ∃ rest, requested = base ++ rest) ∧
    (∀ path, ApiPath.ofPath? requested base = some path → path.Normal ∧
      ∃ before core after, (∀ c ∈ (before ++ after).toList, c = '/') ∧
        requested = base ++ (before ++ core ++ after) ∧ path.path = "/" ++ core) ∧
    ∀ before rest after : String, (∀ c ∈ (before ++ after).toList, c = '/') →
      ApiPath.ofPath? (base ++ (before ++ rest ++ after)) base =
        ApiPath.ofPath? (base ++ rest) base := by
  refine ⟨ApiPath.isSome_ofPath?_iff,
    fun path h => ⟨ApiPath.normal_of_ofPath? h, ApiPath.exists_core h⟩, ?_⟩
  intro before rest after hslashes
  rw [String.toList_append] at hslashes
  exact ApiPath.ofPath?_slashes (fun c hc => hslashes c (List.mem_append_left _ hc))
    (fun c hc => hslashes c (List.mem_append_right _ hc)) base rest

/-- Two spellings of one path. -/
theorem paths_normalised_goods :
    (∀ c ∈ ("//" ++ "/").toList, c = '/') ∧
      ApiPath.ofPath? ("/api/" ++ ("//" ++ "goods/42" ++ "/")) "/api/" =
        ApiPath.ofPath? ("/api/" ++ "goods/42") "/api/" ∧
      ApiPath.ofPath? ("/api/" ++ "goods/42") "/api/" = some ⟨"/goods/42", "/goods/$ID", "42"⟩ := by
  have hslashes : ∀ c ∈ ("//" ++ "/").toList, c = '/' := by simp
  exact ⟨hslashes, (paths_normalised "" "/api/").2.2 "//" "goods/42" "/" hslashes, by decide +kernel⟩

end SiteScript.Web
