import SiteScript.Proofs.Web.Numbering

/-!
# SiteScript.Proofs.Web.Appends

Appends one after another.  Every append reads the whole file and writes it again, so what holds of a
sequence is what one append keeps:

1. the records of the file can be written and read again (`Storable`);
2. the number of the next record is one more than the number of the stored one
   (`nextNumber_concat`), as long as numbers do not run out (`nextId_eq`).

`appends_in_order` puts both together by induction on the sequence.

`new_number_exceeds_iff` says of one append when its number exceeds all integers of the file.  From the
largest number on, an integer is never exceeded (`new_number_left_behind`). -/

namespace SiteScript.Web.DataFile

/-! ## Stored records -/

/-- A record that is sent, and who sends it. -/
structure Post where
  record : Record
  author : Option String := none

/-- What is stored for a post: its record, with `id` replaced by a number and `author` by the author,
if there is one. -/
def Post.StoredAs (post : Post) (number : Int) (stored : Json) : Prop :=
  ∃ members, stored = .object members ∧ SortedKeys members ∧
    ∀ name, members.lookup name =
      if name = "id" then some (.int number)
      else if name = "author" then (post.author.map Json.string).or (post.record.lookup "author")
      else post.record.lookup name

theorem lookup_stamp (record : Record) (id : Int) (author : Option String) (name : String) :
    (stamp record id author).lookup name =
      if name = "id" then some (.int id)
      else if name = "author" then (author.map Json.string).or (record.lookup "author")
      else record.lookup name := by
  cases author with
  | none =>
      rw [stamp, Dictionary.lookup_insertEntry]
      by_cases hid : name = "id"
      · rw [if_pos hid, if_pos hid]
      · rw [if_neg hid, if_neg hid]
        by_cases hauthor : name = "author"
        · rw [if_pos hauthor, hauthor]
          rfl
        · rw [if_neg hauthor]
  | some author =>
      rw [stamp, Dictionary.lookup_insertEntry, Dictionary.lookup_insertEntry]
      by_cases hauthor : name = "author"
      · subst hauthor
        rfl
      · rw [if_neg hauthor, if_neg hauthor]

/-- A stored record has the number that it was stamped with. -/
theorem idNumber?_stamp (record : Record) (id : Int) (author : Option String) :
    idNumber? (.object (stamp record id author)) = some id := by
  rw [idNumber?_eq_some, Json.member?, lookup_stamp, if_pos rfl]

theorem numberOf?_stamp (record : Record) {id : Int} (author : Option String)
    (hlow : Word.minSigned idBits ≤ id) (hhigh : id ≤ Word.maxSigned idBits) :
    numberOf? (.object (stamp record id author)) = some id :=
  numberOf?_eq_some_iff.2 ⟨idNumber?_stamp record id author, hlow, hhigh⟩

/-- A record that the array of a file can hold. -/
def Storable (record : Json) : Prop :=
  Json.Regular record ∧ record.nestedWithin (Json.maxDepth - 1) = true

/-- Records that were read can be stored again, if their reals are read back. -/
theorem storable_of_readAll {box : Sandbox} {fs : FileSystem} {path : String} {records : List Json}
    (h : readAll box fs path = .ok records)
    (hreals : ∀ x, ∀ r ∈ records, Json.HasReal x r → Json.ReadsBack (.real x)) :
    ∀ r ∈ records, Storable r := fun r hr =>
  ⟨(kept_of_readAll h r hr).1.regular fun x hx => hreals x r hr hx, (kept_of_readAll h r hr).2⟩

/-! ## Sequences -/

variable {box : Sandbox} {path : String}

/-- Posts that are appended one after another, what is stored for them, and the files before and
after. -/
inductive Appends (box : Sandbox) (path : String) :
    FileSystem → List Post → List Json → FileSystem → Prop where
  | nil (fs : FileSystem) : Appends box path fs [] [] fs
  | cons {fs between fs' : FileSystem} {post : Post} {posts : List Post} {first : Json}
      {stored : List Json}
      (hfirst : append box fs path post.record post.author = (.ok first, between))
      (hrest : Appends box path between posts stored fs') :
      Appends box path fs (post :: posts) (first :: stored) fs'

/-- One append: the record is stored under the next number, and then the file holds it after the
others. -/
theorem append_storable {fs fs' : FileSystem} {records : List Json} {post : Post} {stored : Json}
    (hread : readAll box fs path = .ok records) (hrecords : ∀ r ∈ records, Storable r)
    (hkept : Json.Kept (.object post.record))
    (hreals : ∀ x, Json.HasReal x (.object post.record) → Json.ReadsBack (.real x))
    (hroom : nextNumber records ≤ Word.maxSigned idBits)
    (happend : append box fs path post.record post.author = (.ok stored, fs'))
    (hdepth : stored.nestedWithin (Json.maxDepth - 1) = true) :
    stored = .object (stamp post.record (nextNumber records) post.author) ∧ Storable stored ∧
      readAll box fs' path = .ok (records ++ [stored]) := by
  obtain ⟨records', hread', hstored, hwrite⟩ := append_eq_ok happend
  obtain rfl : records' = records := Except.ok.inj (hread'.symm.trans hread)
  rw [nextId_eq hroom] at hstored
  have hfits : Json.FitsWord (nextNumber records') := nextId_eq hroom ▸ fitsWord_nextId records'
  have hregular : Json.Regular stored := by
    rw [hstored]
    exact (kept_stamp hkept hfits post.author).regular fun x hx => hreals x (hasReal_of_stamp hx)
  have hall : ∀ r ∈ records' ++ [stored], Storable r := by
    intro r hr
    rcases List.mem_append.1 hr with hr | hr
    · exact hrecords r hr
    · rw [List.mem_singleton.1 hr]
      exact ⟨hregular, hdepth⟩
  refine ⟨hstored, ⟨hregular, hdepth⟩, ?_⟩
  rw [readAll_of_writeFile (fun r hr => (hall r hr).1) hwrite, if_pos]
  exact List.all_eq_true.2 fun r hr => (hall r hr).2

/-- **Appends one after another** to records that could be read, with reals that are read back: if no
stored record is nested too deep and the numbers do not run out, then the stored records have
consecutive numbers, beginning with the one after the largest; each is its post, but for its number
and its author; and the file holds the previous records followed by the stored ones. -/
theorem appends_in_order {fs fs' : FileSystem} {initial stored : List Json} {posts : List Post}
    (hread : readAll box fs path = .ok initial)
    (hposts : ∀ post ∈ posts, Json.Kept (.object post.record))
    (hreals : ∀ x, Json.HasReal x (.array (initial ++ posts.map fun post => .object post.record)) →
      Json.ReadsBack (.real x))
    (hroom : nextNumber initial + posts.length - 1 ≤ Word.maxSigned idBits)
    (happends : Appends box path fs posts stored fs')
    (hdepth : ∀ s ∈ stored, s.nestedWithin (Json.maxDepth - 1) = true) :
    stored.length = posts.length ∧
    (∀ (i : Nat) (post : Post), posts[i]? = some post →
      ∃ s, stored[i]? = some s ∧ post.StoredAs (nextNumber initial + i) s) ∧
    readAll box fs' path = .ok (initial ++ stored) := by
  have hinitial : ∀ r ∈ initial, Storable r := storable_of_readAll hread fun x r hr hx =>
    hreals x (.item (List.mem_append_left _ hr) hx)
  have hposted : ∀ post ∈ posts, ∀ x, Json.HasReal x (.object post.record) →
      Json.ReadsBack (.real x) := fun post hpost x hx =>
    hreals x (.item (List.mem_append_right _ (List.mem_map_of_mem hpost)) hx)
  clear hreals
  -- the records of the file grow along the sequence, and stay storable
  induction happends generalizing initial with
  | nil fs => exact ⟨rfl, by simp, by simpa using hread⟩
  | @cons fs between fs' post posts first stored hfirst hrest ih =>
      rw [List.length_cons, Int.natCast_add, Int.natCast_one] at hroom
      have hnow : nextNumber initial ≤ Word.maxSigned idBits := by omega
      obtain ⟨hstamp, hstorable, hafter⟩ := append_storable hread hinitial
        (hposts post List.mem_cons_self) (hposted post List.mem_cons_self) hnow hfirst
        (hdepth first List.mem_cons_self)
      have hnext : nextNumber (initial ++ [first]) = nextNumber initial + 1 := by
        refine nextNumber_concat ?_
        rw [hstamp]
        exact numberOf?_stamp _ _ (Int.le_of_lt (minSigned_lt_nextNumber initial)) hnow
      have hsorted : SortedKeys (stamp post.record (nextNumber initial) post.author) := by
        have hregular := hstorable.1
        rw [hstamp] at hregular
        cases hregular with
        | object hsorted _ => exact hsorted
      obtain ⟨hlength, hothers, hread'⟩ := ih hafter
        (fun p hp => hposts p (List.mem_cons_of_mem _ hp)) (by rw [hnext]; omega)
        (fun s hs => hdepth s (List.mem_cons_of_mem _ hs))
        (by simpa [or_imp, forall_and] using ⟨hinitial, hstorable⟩)
        (fun p hp => hposted p (List.mem_cons_of_mem _ hp))
      refine ⟨by simp [hlength], ?_, by simpa using hread'⟩
      intro i p hp
      cases i with
      | zero =>
          obtain rfl : post = p := by simpa using hp
          refine ⟨first, rfl, _, hstamp, hsorted, fun name => ?_⟩
          rw [Int.natCast_zero, Int.add_zero]
          exact lookup_stamp _ _ _ name
      | succ i =>
          obtain ⟨s, hs, hstored⟩ := hothers i p (by simpa using hp)
          refine ⟨s, by simpa using hs, ?_⟩
          rw [hnext] at hstored
          rwa [Int.natCast_succ, Int.add_comm (i : Int) 1, ← Int.add_assoc]

/-! ### Two posts -/

/-- The file is written again over itself. -/
theorem writeFile_withNotes (old content : ByteArray) :
    newBox.writeFile (withNotes old) "notes.json" content = (.ok (), withNotes content) := by
  have hrefused : (newBox.path ["notes.json"]).refused? = none := by decide +kernel
  have hpath : (withNotes old).destination (newBox.path ["notes.json"]) =
      .ok (.name [] "notes.json") := by
    rw [FileSystem.destination, FileSystem.followPath, hrefused]
    rfl
  refine writeFile_eq_of_write ?_
  rw [FileSystem.write, hpath]
  rfl

/-- The file with these records. -/
def notesFile (records : List Json) : FileSystem := withNotes (text records).toUTF8

theorem readAll_notesFile {records : List Json} (h : ∀ r ∈ records, Storable r) :
    readAll newBox (notesFile records) "notes.json" = .ok records := by
  rw [notesFile, readAll_of_writeFile (fun r hr => (h r hr).1) (writeFile_notes _), if_pos]
  exact List.all_eq_true.2 fun r hr => (h r hr).2

theorem append_notesFile {records : List Json} (h : ∀ r ∈ records, Storable r) (record : Record)
    (author : Option String) :
    append newBox (notesFile records) "notes.json" record author =
      (.ok (.object (stamp record (nextId records) author)),
        notesFile (records ++ [.object (stamp record (nextId records) author)])) := by
  rw [append, readAll_notesFile h]
  simp only [notesFile, writeFile_withNotes]

/-- A record with nothing but numbers and texts for members. -/
structure Flat (record : Record) : Prop where
  sorted : SortedKeys record
  member : ∀ member ∈ record,
    (∃ n, Json.FitsWord n ∧ member.2 = .int n) ∨ ∃ s, member.2 = .string s

theorem Flat.kept {record : Record} (h : Flat record) : Json.Kept (.object record) := by
  refine .object h.sorted fun member hmember => ?_
  rcases h.member member hmember with ⟨n, hn, heq⟩ | ⟨s, heq⟩
  · exact heq ▸ .int hn
  · exact heq ▸ .string s

theorem Flat.not_hasReal {record : Record} (h : Flat record) (x : Binary64) :
    ¬ Json.HasReal x (.object record) := by
  rintro (_ | _ | @⟨_, member, hmember, hreal⟩)
  rcases h.member member hmember with ⟨n, -, heq⟩ | ⟨s, heq⟩ <;>
  · rw [heq] at hreal
    cases hreal

theorem Flat.storable {record : Record} (h : Flat record) : Storable (.object record) := by
  refine ⟨h.kept.regular fun x hx => absurd hx (h.not_hasReal x), ?_⟩
  refine List.all_eq_true.2 fun member hmember => ?_
  rcases h.member member hmember with ⟨n, -, heq⟩ | ⟨s, heq⟩ <;>
  · rw [heq]
    rfl

/-- A record with nothing but a number. -/
def numbered (n : Int) : Json := .object [("id", .int n)]

theorem flat_numbered {n : Int} (h : Json.FitsWord n) : Flat [("id", .int n)] where
  sorted := List.pairwise_singleton _ _
  member := by simpa using .inl ⟨n, h, rfl⟩

/-- A record with a number, and something that is no record. -/
def oldNotes : List Json := [.object [("id", .int 4)], .string "no record"]

/-- One post brings a number of its own, the other one somebody else's name. -/
def newPosts : List Post :=
  [{ record := [("id", .string "mine"), ("text", .string "a")] },
    { record := [("author", .string "somebody else")], author := some "ada" }]

def newNotes : List Json :=
  [.object [("id", .int 5), ("text", .string "a")],
    .object [("author", .string "ada"), ("id", .int 6)]]

theorem flat_four : Flat [("id", .int 4)] := flat_numbered ⟨by decide, by decide⟩

theorem storable_oldNotes : ∀ r ∈ oldNotes, Storable r := by
  simp only [oldNotes, List.forall_mem_cons]
  exact ⟨flat_four.storable, ⟨.string _, rfl⟩, nofun⟩

theorem storable_newNotes : ∀ r ∈ newNotes, Storable r := by
  have hfirst : Flat [("id", .int 5), ("text", .string "a")] := by
    refine ⟨List.pairwise_pair.2 (by decide), ?_⟩
    simp only [List.forall_mem_cons]
    exact ⟨.inl ⟨5, ⟨by decide, by decide⟩, rfl⟩, .inr ⟨"a", rfl⟩, nofun⟩
  have hsecond : Flat [("author", .string "ada"), ("id", .int 6)] := by
    refine ⟨List.pairwise_pair.2 (by decide), ?_⟩
    simp only [List.forall_mem_cons]
    exact ⟨.inr ⟨"ada", rfl⟩, .inl ⟨6, ⟨by decide, by decide⟩, rfl⟩, nofun⟩
  simp only [newNotes, List.forall_mem_cons]
  exact ⟨hfirst.storable, hsecond.storable, nofun⟩

theorem flat_newPosts : ∀ post ∈ newPosts, Flat post.record := by
  simp only [newPosts, List.forall_mem_cons]
  refine ⟨⟨List.pairwise_pair.2 (by decide), ?_⟩, ⟨List.pairwise_singleton _ _, ?_⟩, nofun⟩
  · simp only [List.forall_mem_cons]
    exact ⟨.inr ⟨"mine", rfl⟩, .inr ⟨"a", rfl⟩, nofun⟩
  · simp only [List.forall_mem_cons]
    exact ⟨.inr ⟨"somebody else", rfl⟩, nofun⟩

theorem appends_newPosts :
    Appends newBox "notes.json" (notesFile oldNotes) newPosts newNotes
      (notesFile (oldNotes ++ newNotes)) := by
  have hfirst := append_notesFile storable_oldNotes
    [("id", .string "mine"), ("text", .string "a")] none
  have hmore : ∀ r ∈ oldNotes ++ [.object [("id", .int 5), ("text", .string "a")]], Storable r := by
    intro r hr
    rcases List.mem_append.1 hr with hr | hr
    · exact storable_oldNotes r hr
    · exact storable_newNotes r (List.mem_cons.2 (.inl (List.mem_singleton.1 hr)))
  have hsecond := append_notesFile hmore [("author", .string "somebody else")] (some "ada")
  exact .cons hfirst (.cons hsecond (.nil _))

/-- Two posts are stored under the numbers after the largest one, whatever they say themselves. -/
theorem appends_in_order_notes :
    readAll newBox (notesFile oldNotes) "notes.json" = .ok oldNotes ∧
    Appends newBox "notes.json" (notesFile oldNotes) newPosts newNotes
      (notesFile (oldNotes ++ newNotes)) ∧
    readAll newBox (notesFile (oldNotes ++ newNotes)) "notes.json" = .ok (oldNotes ++ newNotes) := by
  have hreals : ∀ x, ¬ Json.HasReal x
      (.array (oldNotes ++ newPosts.map fun post => .object post.record)) := by
    rintro x (_ | @⟨_, item, hitem, hreal⟩)
    rcases List.mem_append.1 hitem with hitem | hitem
    · simp only [oldNotes, List.mem_cons, List.not_mem_nil, or_false] at hitem
      rcases hitem with rfl | rfl
      · exact flat_four.not_hasReal x hreal
      · cases hreal
    · obtain ⟨post, hpost, rfl⟩ := List.mem_map.1 hitem
      exact (flat_newPosts post hpost).not_hasReal x hreal
  have hread := readAll_notesFile storable_oldNotes
  refine ⟨hread, appends_newPosts, ?_⟩
  exact (appends_in_order hread (fun post hpost => (flat_newPosts post hpost).kept)
    (fun x hx => absurd hx (hreals x)) (by decide +kernel) appends_newPosts
    fun s hs => (storable_newNotes s hs).2).2.2

/-! ## Numbers that run out -/

/-- **When a new number exceeds all others.**  The integers of a file that can be read have 64 bits,
with or without a sign.  An append assigns the number after the largest one exactly as long as the
largest of all numbers is not taken, and the smallest of all when it is.  Integers beyond the numbers
do not count: so the number that is assigned exceeds all integers of the file exactly when these are
below the largest number. -/
theorem new_number_exceeds_iff {fs : FileSystem} {records : List Json}
    (hread : readAll box fs path = .ok records) :
    (∀ r ∈ records, ∀ k, idNumber? r = some k → Json.FitsWord k) ∧
    (nextId records = nextNumber records ↔
      ∀ r ∈ records, idNumber? r ≠ some (Word.maxSigned idBits)) ∧
    ((∃ r ∈ records, idNumber? r = some (Word.maxSigned idBits)) →
      nextId records = Word.minSigned idBits) ∧
    ((∀ r ∈ records, ∀ k, idNumber? r = some k → k < nextId records) ↔
      ∀ r ∈ records, ∀ k, idNumber? r = some k → k < Word.maxSigned idBits) ∧
    ∀ record author stored fs', append box fs path record author = (.ok stored, fs') →
      idNumber? stored = some (nextId records) := by
  have hfits : ∀ r ∈ records, ∀ k, idNumber? r = some k → Json.FitsWord k := fun r hr _ hid =>
    fitsWord_idNumber? (kept_of_readAll hread r hr).1 hid
  refine ⟨hfits, nextId_eq_iff, nextId_eq_minSigned, lt_nextId_iff hfits, ?_⟩
  intro record author stored fs' happend
  obtain ⟨records', hread', hstored, -⟩ := append_eq_ok happend
  obtain rfl : records' = records := Except.ok.inj (hread'.symm.trans hread)
  rw [hstored, idNumber?_stamp]

/-- The file with these integers for its records. -/
theorem readAll_numbered (numbers : List Int) (h : ∀ n ∈ numbers, Json.FitsWord n) :
    readAll newBox (notesFile (numbers.map numbered)) "notes.json" =
      .ok (numbers.map numbered) := by
  refine readAll_notesFile fun r hr => ?_
  obtain ⟨n, hn, rfl⟩ := List.mem_map.1 hr
  exact (flat_numbered (h n hn)).storable

/-- Records that leave one number above them. -/
def lastNotes : List Json := [2 ^ 63 - 2, -7].map numbered

/-- The last number that exceeds all others. -/
theorem new_number_exceeds_last :
    readAll newBox (notesFile lastNotes) "notes.json" = .ok lastNotes ∧
      (∀ r ∈ lastNotes, ∀ k, idNumber? r = some k → k < Word.maxSigned idBits) ∧
      nextId lastNotes = 2 ^ 63 - 1 ∧
      ∀ r ∈ lastNotes, ∀ k, idNumber? r = some k → k < 2 ^ 63 - 1 := by
  have hread : readAll newBox (notesFile lastNotes) "notes.json" = .ok lastNotes :=
    readAll_numbered [2 ^ 63 - 2, -7] (by decide)
  have hbelow : ∀ r ∈ lastNotes, ∀ k, idNumber? r = some k → k < Word.maxSigned idBits := by
    intro r hr k hid
    obtain ⟨n, hn, rfl⟩ := List.mem_map.1 hr
    obtain rfl : n = k := Option.some.inj hid
    exact (by decide : ∀ n ∈ [2 ^ 63 - 2, -7], n < Word.maxSigned idBits) n hn
  have hnext : nextId lastNotes = 2 ^ 63 - 1 := by decide
  refine ⟨hread, hbelow, hnext, ?_⟩
  rw [← hnext]
  exact (new_number_exceeds_iff hread).2.2.2.1.2 hbelow

/-- No new number exceeds an integer beyond the numbers, nor the largest number itself: the former is
passed over, and after the latter comes the smallest. -/
theorem new_number_left_behind :
    readAll newBox (notesFile ([2 ^ 63].map numbered)) "notes.json" = .ok ([2 ^ 63].map numbered) ∧
      idNumber? (numbered (2 ^ 63)) = some (2 ^ 63) ∧ nextId ([2 ^ 63].map numbered) = 1 ∧
      readAll newBox (notesFile ([2 ^ 63 - 1].map numbered)) "notes.json" =
        .ok ([2 ^ 63 - 1].map numbered) ∧
      nextNumber ([2 ^ 63 - 1].map numbered) = 2 ^ 63 ∧
      nextId ([2 ^ 63 - 1].map numbered) = -2 ^ 63 :=
  ⟨readAll_numbered _ (by decide), rfl, by decide, readAll_numbered _ (by decide), by decide,
    by decide⟩

end SiteScript.Web.DataFile
