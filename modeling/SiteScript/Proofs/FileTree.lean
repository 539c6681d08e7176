import Mathlib.Data.List.Induction
import SiteScript.Proofs.Footprint
import SiteScript.Proofs.Text

/-!
# SiteScript.Proofs.FileTree

File systems as they can be, and plain paths in them.

1. Joined names come apart again (`segmentsOf_joinSegments`), so paths of names tell files apart.
2. In a sound file system every location stands once, below directories, and is made of names
   (`Sound`); making directories and writing files keep the locations apart.
3. Where no links are, plain names lead where they say (`followWith_names`), also from a place that
   some path with links leads to (`follow_append`).
4. What is read stays when something else is added (`Extends.read`). -/

namespace SiteScript

/-! ## Names -/

/-- A segment of a path that stands for a name. -/
structure IsPlain (name : String) : Prop where
  ne_empty : name ≠ ""
  slash : '/' ∉ name.toList
  ne_dot : name ≠ "."
  ne_up : name ≠ ".."

/-- A name that a file or directory can have. -/
structure IsName (name : String) : Prop extends IsPlain name where
  nul : '\x00' ∉ name.toList
  fits : name.utf8ByteSize ≤ Path.maxName

instance (name : String) : Decidable (IsName name) :=
  decidable_of_iff ((name ≠ "" ∧ '/' ∉ name.toList ∧ name ≠ "." ∧ name ≠ "..") ∧
    '\x00' ∉ name.toList ∧ name.utf8ByteSize ≤ Path.maxName)
    ⟨fun ⟨⟨hne, hslash, hdot, hup⟩, hnul, hfits⟩ => ⟨⟨hne, hslash, hdot, hup⟩, hnul, hfits⟩,
      fun h => ⟨⟨h.ne_empty, h.slash, h.ne_dot, h.ne_up⟩, h.nul, h.fits⟩⟩

theorem IsName.not_tooLong {name : String} (h : IsName name) : FileSystem.tooLong name = false :=
  decide_eq_false (Nat.not_lt.2 h.fits)

theorem IsPlain.segmentsOf {name : String} (h : IsPlain name) : segmentsOf name = [name] := by
  have hne : name.toList ≠ [] := by simpa using h.ne_empty
  rw [SiteScript.segmentsOf, Text.split_eq_singleton h.slash]
  simp [hne]

/-- Names that are joined come apart again. -/
theorem segmentsOf_joinSegments {names : List String} (h : ∀ name ∈ names, IsName name) :
    segmentsOf (joinSegments names) = names := by
  cases names with
  | nil => rfl
  | cons first rest =>
      have hsep : ∀ piece ∈ (first :: rest).map String.toList, '/' ∉ piece := by
        intro piece hpiece
        obtain ⟨name, hname, rfl⟩ := List.mem_map.1 hpiece
        exact (h name hname).slash
      have hfilled : ((first :: rest).map String.toList).filter (!·.isEmpty) =
          (first :: rest).map String.toList := by
        refine List.filter_eq_self.2 fun piece hpiece => ?_
        obtain ⟨name, hname, rfl⟩ := List.mem_map.1 hpiece
        simpa using (h name hname).ne_empty
      rw [segmentsOf, joinSegments, String.toList_ofList, Text.split_join (by simp) hsep, hfilled,
        List.map_map]
      simp

/-- Paths of names tell them apart. -/
theorem joinSegments_inj {names others : List String} (h : ∀ name ∈ names, IsName name)
    (hothers : ∀ name ∈ others, IsName name) (heq : joinSegments names = joinSegments others) :
    names = others := by
  rw [← segmentsOf_joinSegments h, heq, segmentsOf_joinSegments hothers]

theorem joinSegments_singleton (name : String) : joinSegments [name] = name := by
  simp [joinSegments, Text.join]

theorem joinSegments_cons_cons (first second : String) (rest : List String) :
    (joinSegments (first :: second :: rest)).toList =
      first.toList ++ '/' :: (joinSegments (second :: rest)).toList := by
  simp [joinSegments, Text.join]

theorem joinSegments_append {names more : List String} (hnames : names ≠ []) (hmore : more ≠ []) :
    joinSegments (names ++ more) = joinSegments names ++ "/" ++ joinSegments more := by
  rw [← String.toList_inj]
  simp only [String.toList_append]
  induction names with
  | nil => exact absurd rfl hnames
  | cons first rest ih =>
      match rest, more with
      | [], next :: more => simp [joinSegments, Text.join]
      | second :: rest, more =>
          have hstep := ih (by simp)
          rw [List.cons_append] at hstep
          rw [List.cons_append, List.cons_append, joinSegments_cons_cons, hstep,
            joinSegments_cons_cons]
          simp

/-- The size of a path that goes on after the same name so many times. -/
theorem utf8ByteSize_joinSegments_replicate (name : String) (n : Nat) {more : List String}
    (hmore : more ≠ []) : (joinSegments (List.replicate n name ++ more)).utf8ByteSize =
      n * (name.utf8ByteSize + 1) + (joinSegments more).utf8ByteSize := by
  induction n with
  | zero => simp
  | succ n ih =>
      have hslash : ("/" : String).utf8ByteSize = 1 := rfl
      rw [List.replicate_succ, List.cons_append, ← List.singleton_append,
        joinSegments_append (by simp) (by simp [hmore]), String.utf8ByteSize_append,
        String.utf8ByteSize_append, ih, joinSegments_singleton, hslash, Nat.succ_mul]
      omega

/-- A path of names begins with a character of the first one. -/
theorem head?_joinSegments {names : List String} (h : ∀ name ∈ names, IsName name)
    (hne : names ≠ []) : ∃ c rest, (joinSegments names).toList = c :: rest ∧ c ≠ '/' := by
  match names with
  | [] => exact absurd rfl hne
  | first :: rest =>
      have hfirst := h first List.mem_cons_self
      obtain ⟨c, more, hmore⟩ : ∃ c more, first.toList = c :: more :=
        List.exists_cons_of_ne_nil (by simpa using hfirst.ne_empty)
      have hc : c ≠ '/' := by
        rintro rfl
        exact hfirst.slash (by simp [hmore])
      cases rest with
      | nil => exact ⟨c, more, by simp [joinSegments, Text.join, hmore], hc⟩
      | cons second rest =>
          refine ⟨c, more ++ '/' :: (joinSegments (second :: rest)).toList, ?_, hc⟩
          rw [joinSegments_cons_cons, hmore, List.cons_append]

theorem endsWith_iff {c : Char} {text : List Char} :
    Text.endsWith [c] text = true ↔ text.getLast? = some c := by
  rw [← List.head?_reverse, Text.endsWith]
  cases text.reverse with
  | nil => simp [Text.startsWith, Text.dropPrefix?]
  | cons d rest => by_cases h : c = d <;> simp [Text.startsWith, Text.dropPrefix?, h, eq_comm]

/-- A path of names ends in a character of the last one. -/
theorem endsWith_joinSegments {names : List String} (h : ∀ name ∈ names, IsName name) :
    Text.endsWith ['/'] (joinSegments names).toList = false := by
  rw [Bool.eq_false_iff, ne_eq, endsWith_iff]
  induction names with
  | nil => exact nofun
  | cons first rest ih =>
      obtain ⟨hfirst, hrest⟩ := List.forall_mem_cons.1 h
      cases rest with
      | nil =>
          intro hlast
          have hmem := List.mem_of_getLast? hlast
          exact hfirst.slash (by simpa [joinSegments, Text.join] using hmem)
      | cons second rest =>
          obtain ⟨c, text, htext, -⟩ := head?_joinSegments hrest (by simp)
          have hlast := ih hrest
          rw [htext] at hlast
          rw [joinSegments_cons_cons, htext]
          simpa [List.getLast?_append, List.getLast?_cons_cons] using hlast

/-- A path that begins with another one is no shorter. -/
theorem utf8ByteSize_joinSegments_le {names longer : List String} (h : names <+: longer) :
    (joinSegments names).utf8ByteSize ≤ (joinSegments longer).utf8ByteSize := by
  have happend : ∀ names more : List String, ∃ rest,
      joinSegments (names ++ more) = joinSegments names ++ String.ofList rest := by
    intro names more
    induction names with
    | nil => exact ⟨(joinSegments more).toList, by simp [joinSegments, Text.join]⟩
    | cons first names ih =>
        cases names with
        | nil =>
            cases more with
            | nil => exact ⟨[], by simp⟩
            | cons next more =>
                refine ⟨'/' :: (joinSegments (next :: more)).toList, ?_⟩
                apply String.toList_injective
                simp [joinSegments, Text.join]
        | cons second names =>
            obtain ⟨rest, hrest⟩ := ih
            refine ⟨rest, ?_⟩
            apply String.toList_injective
            rw [String.toList_append, List.cons_append, List.cons_append, joinSegments_cons_cons,
              ← List.cons_append, hrest, joinSegments_cons_cons]
            simp
  obtain ⟨more, rfl⟩ := h
  obtain ⟨rest, hrest⟩ := happend names more
  rw [hrest, String.utf8ByteSize_append]
  exact Nat.le_add_right _ _

namespace FileSystem

/-! ## Sound file systems -/

/-- No location stands twice. -/
def Unique (fs : FileSystem) : Prop := (fs.entries.map Prod.fst).Nodup

/-- A file system as a host has it: locations are made of names, each stands once, and what is above
one is a directory. -/
structure Sound (fs : FileSystem) : Prop where
  unique : fs.Unique
  names : ∀ location entry, fs.get? location = some entry → ∀ name ∈ location, IsName name
  parents : ∀ location entry, fs.get? location = some entry →
    fs.get? location.dropLast = some .directory

instance (fs : FileSystem) : Decidable fs.Unique :=
  inferInstanceAs (Decidable (fs.entries.map Prod.fst).Nodup)

theorem mem_entries_of_get? {fs : FileSystem} {location : Location} {entry : Entry}
    (h : fs.get? location = some entry) (hne : location ≠ []) : (location, entry) ∈ fs.entries := by
  rw [get?_of_ne_nil fs hne] at h
  obtain ⟨before, after, hsplit, -⟩ := List.lookup_eq_some_iff.1 h
  rw [hsplit]
  simp

/-- A file system is sound if all its entries are. -/
theorem sound_of_entries {fs : FileSystem} (hunique : fs.Unique)
    (hnames : ∀ entry ∈ fs.entries, ∀ name ∈ entry.1, IsName name)
    (hparents : ∀ entry ∈ fs.entries,
      (fs.get? entry.1.dropLast).any Entry.isDirectory = true) : fs.Sound where
  unique := hunique
  names := by
    intro location entry hget
    by_cases hne : location = []
    · simp [hne]
    · exact hnames _ (mem_entries_of_get? hget hne)
  parents := by
    intro location entry hget
    by_cases hne : location = []
    · rw [hne]
      rfl
    · have hparent := hparents _ (mem_entries_of_get? hget hne)
      match hget : fs.get? location.dropLast with
      | some .directory => rfl
      | some (.file _ _) | some (.link _) | none =>
          rw [hget] at hparent
          cases hparent

/-- The entries are what stands somewhere. -/
theorem Unique.mem_entries_iff {fs : FileSystem} (h : fs.Unique) {location : Location}
    {entry : Entry} (hne : location ≠ []) : (location, entry) ∈ fs.entries ↔ fs.get? location = some entry := by
  rw [get?_of_ne_nil fs hne]
  rw [Unique] at h
  generalize fs.entries = entries at h
  induction entries with
  | nil => simp
  | cons head rest ih =>
      obtain ⟨l, e⟩ := head
      obtain ⟨hl, hrest⟩ := List.nodup_cons.1 h
      rw [List.mem_cons, List.lookup_cons, ih hrest]
      by_cases heq : location = l
      · subst heq
        have hnone : rest.lookup location = none := by
          rw [List.lookup_eq_none_iff]
          intro other hother
          have hne : location ≠ other.1 := fun heq => hl (List.mem_map.2 ⟨other, hother, heq.symm⟩)
          simpa using hne
        simp [hnone, eq_comm]
      · have hne : (location == l) = false := by simpa using heq
        simp [heq, hne]

/-- What is above something that stands somewhere is a directory. -/
theorem Sound.above {fs : FileSystem} (h : fs.Sound) {location more : Location} {entry : Entry}
    (hentry : fs.get? (location ++ more) = some entry) (hne : more ≠ []) :
    fs.get? location = some .directory := by
  induction more using List.reverseRecOn generalizing entry with
  | nil => exact absurd rfl hne
  | append_singleton more name ih =>
      have hparent := h.parents _ _ hentry
      rw [← List.append_assoc, List.dropLast_concat] at hparent
      by_cases hmore : more = []
      · simpa [hmore] using hparent
      · exact ih hparent hmore

theorem unique_put {fs : FileSystem} (h : fs.Unique) (location : Location) (entry : Entry) :
    (fs.put location entry).Unique := by
  rw [Unique, put, List.map_cons, List.nodup_cons]
  constructor
  · intro hmem
    obtain ⟨other, hother, heq⟩ := List.mem_map.1 hmem
    have hne := (List.mem_filter.1 hother).2
    simp [heq] at hne
  · exact List.Nodup.sublist (List.Sublist.map _ List.filter_sublist) h

theorem unique_rewrite {fs : FileSystem} (h : fs.Unique) (location : Location) (content : ByteArray)
    (traits : Traits) : (fs.rewrite location content traits).Unique := by
  rw [rewrite]
  split
  · exact unique_put h location _
  · rw [Unique, List.map_map]
    exact h

theorem unique_make {fs fs' : FileSystem} {path : Path} {entry : Entry} (h : fs.Unique)
    (hmake : fs.make path entry = .ok fs') : fs'.Unique := by
  obtain ⟨parent, name, -, -, -, -, rfl⟩ := make_cases hmake
  exact unique_put h _ _

theorem unique_write {fs fs' : FileSystem} {path : Path} {content : ByteArray} (h : fs.Unique)
    (hwrite : fs.write path content = .ok fs') : fs'.Unique := by
  obtain ⟨-, parent, name, -, -, ⟨-, rfl⟩ | ⟨old, traits, -, rfl⟩⟩ := write_cases hwrite
  · exact unique_put h _ _
  · exact unique_rewrite h _ _ _

theorem unique_createDirAll {fs : FileSystem} (h : fs.Unique) (segments : List String) :
    (fs.createDirAll segments).2.Unique :=
  createDirAll_relates (R := fun _ a b => a.Unique → b.Unique) (fun _ _ h => h)
    (fun hab hbc h => hbc (hab h)) id (fun hmake h => unique_make h hmake) fs segments h

/-! ## Plain paths -/

section Plain

variable {fs : FileSystem} {jump : List String → Except FileFault Target} {last : Bool}
  {location : Location} {names : List String}

theorem followWith_name {name : String} (h : IsName name) (rest : List String) :
    fs.followWith jump last location (name :: rest) =
      if rest.isEmpty && !last then .ok (.name location name)
      else fs.pass jump last location name rest (fs.get? (location ++ [name])) := by
  rw [followWith_cons, if_neg h.ne_dot, if_neg h.ne_up]

/-- Names lead where they say if there are directories on the way, and no link at the end that would
be followed. -/
theorem followWith_names (hne : names ≠ []) (hnames : ∀ name ∈ names, IsName name)
    (hdirectory : ∀ above, above <+: names → above ≠ [] → above ≠ names →
      fs.get? (location ++ above) = some .directory)
    (hlink : last = true → ∀ path, fs.get? (location ++ names) ≠ some (.link path)) :
    ∃ parent name, fs.followWith jump last location names = .ok (.name parent name) ∧
      parent ++ [name] = location ++ names ∧ IsName name := by
  induction names generalizing location with
  | nil => exact absurd rfl hne
  | cons name rest ih =>
      obtain ⟨hname, hrest⟩ := List.forall_mem_cons.1 hnames
      rw [followWith_name hname]
      cases rest with
      | nil =>
          refine ⟨location, name, ?_, rfl, hname⟩
          cases last with
          | false => rfl
          | true =>
              rw [if_neg (by simp)]
              match hget : fs.get? (location ++ [name]) with
              | some (.link path) => exact absurd hget (hlink rfl path)
              | some .directory | some (.file _ _) | none => rfl
      | cons next rest =>
          have hfirst := hdirectory [name] (by simp) (by simp) (by simp)
          rw [if_neg (by simp), hfirst, pass, if_neg (by simp)]
          have happend : ∀ above, location ++ [name] ++ above = location ++ name :: above := by simp
          obtain ⟨parent, last', hfollow, hlocation, hlast⟩ :=
            @ih (location ++ [name]) (by simp) hrest
              (fun above habove hne hne' => by
                rw [happend]
                exact hdirectory (name :: above) (List.cons_prefix_cons.2 ⟨rfl, habove⟩) (by simp)
                  (by simpa using hne'))
              (fun hlast path => by
                rw [happend]
                exact hlink hlast path)
          exact ⟨parent, last', hfollow, hlocation.trans (happend _), hlast⟩

/-- Names lead nowhere if a directory on the way is missing. -/
theorem followWith_missing (hnames : ∀ name ∈ names, IsName name)
    (hclear : ∀ above, above <+: names → above ≠ [] → above ≠ names →
      fs.get? (location ++ above) = none ∨ fs.get? (location ++ above) = some .directory)
    {missing : List String} (hmissing : missing <+: names) (hne : missing ≠ [])
    (hproper : missing ≠ names) (hnone : fs.get? (location ++ missing) = none) :
    fs.followWith jump last location names = .error .notFound := by
  induction names generalizing location missing with
  | nil => exact absurd (List.prefix_nil.1 hmissing) hne
  | cons name rest ih =>
      obtain ⟨hname, hrest⟩ := List.forall_mem_cons.1 hnames
      rw [followWith_name hname]
      obtain ⟨first, missing, rfl⟩ := List.exists_cons_of_ne_nil hne
      obtain ⟨rfl, htail⟩ := List.cons_prefix_cons.1 hmissing
      have hmore : rest ≠ [] := by
        rintro rfl
        obtain rfl := List.prefix_nil.1 htail
        exact hproper rfl
      have happend : ∀ above, location ++ [first] ++ above = location ++ first :: above := by simp
      rw [if_neg (by simp [hmore])]
      rcases hclear [first] (by simp) (by simp) (by simpa using Ne.symm hmore) with hget | hget
      · rw [hget, pass, if_neg hmore, hname.not_tooLong]
        rfl
      · rw [hget, pass, if_neg hmore]
        have hne : missing ≠ [] := by
          rintro rfl
          rw [hnone] at hget
          cases hget
        refine ih hrest (fun above habove hne hne' => ?_) htail hne (by simpa using hproper)
          (by rwa [happend])
        rw [happend]
        exact hclear (first :: above) (List.cons_prefix_cons.2 ⟨rfl, habove⟩) (by simp)
          (by simpa using hne')

end Plain

/-- Where no links are, plain segments that lead anywhere lead where they say. -/
theorem location_of_followWith {fs : FileSystem} {jump : List String → Except FileFault Target}
    {location names : Location} {target : Target} (hne : names ≠ [])
    (hplain : ∀ name ∈ names, IsPlain name)
    (hlinks : ∀ names path, fs.get? (location ++ names) ≠ some (.link path))
    (h : fs.followWith jump true location names = .ok target) :
    ∃ parent name, target = .name parent name ∧ parent ++ [name] = location ++ names := by
  induction names generalizing location with
  | nil => exact absurd rfl hne
  | cons name rest ih =>
      obtain ⟨hname, hrest⟩ := List.forall_mem_cons.1 hplain
      rw [followWith_cons, if_neg hname.ne_dot, if_neg hname.ne_up, if_neg (by simp)] at h
      match hget : fs.get? (location ++ [name]), rest with
      | some (.link path), rest => exact absurd hget (hlinks [name] path)
      | some .directory, next :: rest =>
          rw [hget] at h
          obtain ⟨parent, last, htarget, hlocation⟩ := ih (by simp) hrest
            (fun names path => by
              rw [List.append_assoc]
              exact hlinks ([name] ++ names) path) h
          exact ⟨parent, last, htarget, hlocation.trans (by simp)⟩
      | some .directory, [] | some (.file _ _), [] | none, [] =>
          rw [hget] at h
          cases h
          exact ⟨location, name, rfl, rfl⟩
      | some (.file _ _), next :: rest | none, next :: rest =>
          rw [hget] at h
          cases h

/-- Following a path that leads to a directory, and then more segments, is following these from
there. -/
theorem follow_append {fs : FileSystem} {links : Nat} {segments : List String} {target : Target}
    (h : fs.follow true links segments = .ok target)
    (hdirectory : ∀ parent name, target = .name parent name →
      fs.get? (parent ++ [name]) = some .directory) (last : Bool) :
    ∃ jump, ∀ rest, rest ≠ [] → fs.follow last links (segments ++ rest) =
      fs.followWith jump last target.location rest := by
  -- what holds of the jumps holds of the way
  have hwith : ∀ jump jumpOn : List String → Except FileFault Target,
      (∀ segments, jump segments = .ok target → ∃ jump', ∀ rest, rest ≠ [] →
        jumpOn (segments ++ rest) = fs.followWith jump' last target.location rest) →
      ∀ segments location, fs.followWith jump true location segments = .ok target →
        ∃ jump', ∀ rest, rest ≠ [] → fs.followWith jumpOn last location (segments ++ rest) =
          fs.followWith jump' last target.location rest := by
    intro jump jumpOn hjump segments
    induction segments with
    | nil =>
        intro location hfollow
        cases hfollow
        exact ⟨jumpOn, fun rest _ => rfl⟩
    | cons segment more ih =>
        intro location hfollow
        simp only [List.cons_append, followWith_cons] at hfollow ⊢
        by_cases hdot : segment = "."
        · simp only [if_pos hdot] at hfollow ⊢
          exact ih location hfollow
        simp only [if_neg hdot] at hfollow ⊢
        by_cases hup : segment = ".."
        · simp only [if_pos hup] at hfollow ⊢
          exact ih location.dropLast hfollow
        -- with more to come no segment is the last one
        have hmore : ∀ rest : List String, rest ≠ [] →
            ¬ ((more ++ rest).isEmpty && !last) = true := by
          intro rest hne
          simp [hne]
        simp only [if_neg hup, Bool.not_true, Bool.and_false, Bool.false_eq_true, if_false]
          at hfollow ⊢
        match hget : fs.get? (location ++ [segment]), more with
        | some (.link path), more =>
            rw [hget] at hfollow
            obtain ⟨jump', hrest⟩ := hjump _ hfollow
            refine ⟨jump', fun rest hne => ?_⟩
            rw [if_neg (hmore rest hne), ← hrest rest hne, pass, List.append_assoc, List.append_assoc,
              List.append_assoc]
        | some .directory, next :: more =>
            rw [hget] at hfollow
            obtain ⟨jump', hrest⟩ := ih (location ++ [segment]) hfollow
            refine ⟨jump', fun rest hne => ?_⟩
            rw [if_neg (hmore rest hne)]
            exact hrest rest hne
        | some .directory, [] =>
            rw [hget] at hfollow
            cases hfollow
            refine ⟨jumpOn, fun rest hne => ?_⟩
            rw [if_neg (hmore rest hne), List.nil_append, pass, if_neg hne]
            rfl
        | some (.file _ _), [] | none, [] =>
            rw [hget] at hfollow
            cases hfollow
            rw [hdirectory _ _ rfl] at hget
            cases hget
        | some (.file _ _), next :: more | none, next :: more =>
            rw [hget] at hfollow
            cases hfollow
  induction links generalizing segments with
  | zero => exact hwith _ _ (fun _ hjump => by cases hjump) segments [] h
  | succ links ih => exact hwith _ _ (fun segments hjump => ih hjump) segments [] h

/-! ## What stays -/

section Ways

variable {a b : FileSystem} {path : Path} {target : Target}

/-- A path that names a directory leads to one. -/
theorem get?_of_stat_directory (hdestination : a.destination path = .ok target)
    (hstat : a.stat path = .ok .directory) {parent : Location} {name : String}
    (htarget : target = .name parent name) : a.get? (parent ++ [name]) = some .directory := by
  subst htarget
  rw [stat, hdestination] at hstat
  dsimp only [entryAt] at hstat
  split at hstat
  · cases hstat
  · split at hstat
    next => cases hstat
    next hget => exact hget
    next hget =>
      split at hstat
      · cases hstat
      · rw [hget, Except.ok.inj hstat]

/-- A path that names a directory names it still. -/
theorem SameWays.stat_directory (h : SameWays a b) (hdestination : a.destination path = .ok target)
    (hstat : a.stat path = .ok .directory) : b.stat path = .ok .directory := by
  refine (h.stat_eq hdestination fun parent name htarget => ?_).trans hstat
  have hdirectory := get?_of_stat_directory hdestination hstat htarget
  rw [hdirectory, h.directory _ hdirectory]

end Ways

/-- What is read is a file. -/
theorem read_eq_ok {fs : FileSystem} {path : Path} {content : ByteArray} :
    fs.read path = .ok content ↔ ∃ traits, fs.stat path = .ok (.file content traits) := by
  rw [read]
  rcases fs.stat path with fault | ⟨old, traits⟩ | _ | link <;> simp

/-- A text that is read is that of the bytes that are read. -/
theorem readText_eq_ok {fs : FileSystem} {path : Path} {text : String} :
    fs.readText path = .ok text ↔
      ∃ content, fs.read path = .ok content ∧ String.fromUTF8? content = some text := by
  rw [readText]
  cases fs.read path with
  | error fault => simp
  | ok content => cases hcontent : String.fromUTF8? content <;> simp [hcontent]

/-- What is read stays when something else is added. -/
theorem Extends.read {a b : FileSystem} (h : Extends a b) {path : Path} {content : ByteArray}
    (hread : a.read path = .ok content) : b.read path = .ok content := by
  obtain ⟨traits, hstat⟩ := read_eq_ok.1 hread
  exact read_eq_ok.2 ⟨traits, h.stat hstat⟩

end FileSystem

end SiteScript
