import SiteScript.Proofs.FileSystem
import SiteScript.Proofs.Json.Reading
import SiteScript.Web.DataFile

/-!
# SiteScript.Proofs.Web.DataFile

What an append does: the file is read, the record is stamped, and the whole array is written again.

Whether the file can be read afterwards is decided by the depth of the stored record alone
(`readAll_after_append`).  A body may be nested as deep as a file, but in the file it stands inside
the array: one that is nested as deep as is allowed is accepted and stored, and no reader gets past
it (`unreadable_after_append`). -/

namespace SiteScript.Web.DataFile

variable {box : Sandbox} {fs fs' : FileSystem} {path : String} {record : Record}
  {author : Option String} {stored : Json}

/-- An append that succeeds has read the file, stamped the record and written the array with it. -/
theorem append_eq_ok (h : append box fs path record author = (.ok stored, fs')) :
    ∃ records, readAll box fs path = .ok records ∧
      stored = .object (stamp record (nextId records) author) ∧
      box.writeFile fs path (text (records ++ [stored])).toUTF8 = (.ok (), fs') := by
  rw [append] at h
  split at h
  · simp at h
  · next records hread =>
      simp only at h
      split at h
      · next files hwrite =>
          obtain ⟨rfl, rfl⟩ : Json.object (stamp record (nextId records) author) = stored ∧
            files = fs' := by simpa using h
          exact ⟨records, hread, rfl, hwrite⟩
      · simp at h

/-- A record with an author is signed with it, whatever it said before. -/
theorem lookup_author_stamp (id : Int) (author : String) :
    (stamp record id (some author)).lookup "author" = some (.string author) := by
  simp [stamp, Dictionary.lookup_insertEntry]

/-- What an append for an author stores is signed with the author. -/
theorem member?_author_of_append {author : String}
    (h : append box fs path record (some author) = (.ok stored, fs')) :
    stored.member? "author" = some (.string author) := by
  obtain ⟨records, -, rfl, -⟩ := append_eq_ok h
  exact lookup_author_stamp (nextId records) author

/-! ## What is read and stored -/

/-- Numbers of records fit in their word. -/
theorem nextId_bounds (records : List Json) :
    Word.minSigned idBits ≤ nextId records ∧ nextId records ≤ Word.maxSigned idBits := by
  rw [nextId]
  split
  · next largest _ =>
      have hlow : -((Word.values idBits : Int) / 2) ≤ Int.bmod (largest + 1) (Word.values idBits) :=
        Int.le_bmod (by decide)
      have hhigh : Int.bmod (largest + 1) (Word.values idBits) ≤
          ((Word.values idBits : Int) - 1) / 2 :=
        Int.bmod_le (by decide)
      exact ⟨Int.le_trans (by decide) hlow, Int.le_trans hhigh (by decide)⟩
  · exact ⟨by decide, by decide⟩

theorem fitsWord_nextId (records : List Json) : Json.FitsWord (nextId records) :=
  ⟨(nextId_bounds records).1, Int.le_trans (nextId_bounds records).2 (by decide)⟩

/-- A stored record has the members of the record that was sent, but for its number and its author.
-/
theorem kept_stamp (h : Json.Kept (.object record)) {id : Int} (hid : Json.FitsWord id)
    (author : Option String) : Json.Kept (.object (stamp record id author)) := by
  cases h with
  | object hsorted hmembers =>
      have hnumbered : Json.Kept (.object (insertEntry "id" (.int id) record)) := by
        refine .object hsorted.insertEntry fun member hmember => ?_
        rcases mem_insertEntry hmember with rfl | hmember
        · exact .int hid
        · exact hmembers member hmember
      cases author with
      | none => exact hnumbered
      | some author =>
          cases hnumbered with
          | object hsorted hmembers =>
              refine .object hsorted.insertEntry fun member hmember => ?_
              rcases mem_insertEntry hmember with rfl | hmember
              · exact .string author
              · exact hmembers member hmember

/-- The reals of a stored record are those of the record that was sent. -/
theorem hasReal_of_stamp {x : Binary64} {id : Int}
    (h : Json.HasReal x (.object (stamp record id author))) :
    Json.HasReal x (.object record) := by
  cases h with
  | @member _ member hmember hreal =>
      have hnumbered : member ∈ insertEntry "id" (.int id) record ∨ member ∈ record := by
        cases author with
        | none => exact .inl hmember
        | some author =>
            rcases mem_insertEntry hmember with rfl | hmember
            · cases hreal
            · exact .inl hmember
      rcases hnumbered with hmember | hmember
      · rcases mem_insertEntry hmember with rfl | hmember
        · cases hreal
        · exact .member hmember hreal
      · exact .member hmember hreal

/-- The records of a file are values as reading gives them, and nested less deep than a file may be.
-/
theorem kept_of_readAll {records : List Json} (h : readAll box fs path = .ok records) :
    ∀ r ∈ records, Json.Kept r ∧ r.nestedWithin (Json.maxDepth - 1) = true := by
  rw [readAll] at h
  split at h
  · split at h
    · cases h
    · split at h
      next hparse =>
        cases h
        obtain ⟨raw, -, hvalue⟩ := Option.bind_eq_some_iff.1 hparse
        obtain ⟨hkept, hdepth⟩ := Json.kept_of_value? hvalue
        cases hkept with
        | array hitems =>
            rw [show Json.maxDepth = Json.maxDepth - 1 + 1 from rfl, Json.nestedWithin,
              List.all_eq_true] at hdepth
            exact fun r hr => ⟨hitems r hr, hdepth r hr⟩
      next => cases h
  · cases h
    exact fun r hr => absurd hr List.not_mem_nil

/-- The record of a body is a value as reading gives it. -/
theorem kept_of_parseRecord {body : Bytes} (h : parseRecord body = .ok record) :
    Json.Kept (.object record) := by
  rw [parseRecord] at h
  split at h
  next hparse =>
    cases h
    obtain ⟨_, -, hparse⟩ := Option.bind_eq_some_iff.1 hparse
    obtain ⟨raw, -, hvalue⟩ := Option.bind_eq_some_iff.1 hparse
    exact (Json.kept_of_value? hvalue).1
  next => cases h
  next => cases h

/-! ## Reading after an append -/

/-- The failure to read a file that is no array of values. -/
def notArray (path : String) : Error :=
  .config (path ++ " is not a JSON array: not an array of values")

/-- After records were written, the file holds what their text means. -/
theorem readAll_written {records : List Json}
    (hwrite : box.writeFile fs path (text records).toUTF8 = (.ok (), fs')) :
    readAll box fs' path =
      match Json.parse? (text records) with
      | some (.array again) => .ok again
      | _ => .error (notArray path) := by
  obtain ⟨hfile, htext⟩ := Sandbox.readText_writeFile hwrite
  rw [readAll, if_pos hfile, htext]
  rfl

/-- After records were written, the file holds them if none of them is nested too deep in the array,
and cannot be read otherwise. -/
theorem readAll_of_writeFile {records : List Json} (hregular : ∀ r ∈ records, Json.Regular r)
    (hwrite : box.writeFile fs path (text records).toUTF8 = (.ok (), fs')) :
    readAll box fs' path =
      if records.all (Json.nestedWithin (Json.maxDepth - 1)) then .ok records
      else .error (notArray path) := by
  have hparse := Json.parse?_pretty (.array hregular)
  rw [show Json.maxDepth = Json.maxDepth - 1 + 1 from rfl, Json.nestedWithin] at hparse
  rw [readAll_written hwrite, text, hparse]
  by_cases hall : records.all (Json.nestedWithin (Json.maxDepth - 1)) = true
  · rw [if_pos hall, if_pos hall]
  · rw [if_neg hall, if_neg hall]

/-- **A data file after an append** of a record that a body held, to records that could be read,
with reals that are read back: the file holds the previous records and the stored one, unless the
stored record is nested as deep as a body may be; then the file cannot be read any more. -/
theorem readAll_after_append {body : Bytes} {records : List Json}
    (hread : readAll box fs path = .ok records) (hrecord : parseRecord body = .ok record)
    (happend : append box fs path record author = (.ok stored, fs'))
    (hreals : ∀ x, Json.HasReal x (.array (records ++ [stored])) → Json.ReadsBack (.real x)) :
    readAll box fs' path =
      if stored.nestedWithin (Json.maxDepth - 1) then .ok (records ++ [stored])
      else .error (notArray path) := by
  obtain ⟨records', hread', rfl, hwrite⟩ := append_eq_ok happend
  obtain rfl : records' = records := by
    rw [hread, Except.ok.injEq] at hread'
    exact hread'.symm
  have hrecords := kept_of_readAll hread
  have hstored := kept_stamp (kept_of_parseRecord hrecord) (fitsWord_nextId records') author
  have hkept : Json.Kept
      (.array (records' ++ [.object (stamp record (nextId records') author)])) := by
    refine .array fun r hr => ?_
    rcases List.mem_append.1 hr with hr | hr
    · exact (hrecords r hr).1
    · rwa [List.mem_singleton.1 hr]
  have hregular := hkept.regular hreals
  have hall : records'.all (Json.nestedWithin (Json.maxDepth - 1)) = true :=
    List.all_eq_true.2 fun r hr => (hrecords r hr).2
  cases hregular with
  | array hregular =>
      rw [readAll_of_writeFile hregular hwrite, List.all_append, hall]
      simp

/-! ### Records in a new file -/

/-- A body with a record that can be read is accepted. -/
theorem parseRecord_compact (hregular : Json.Regular (.object record))
    (hdepth : (Json.object record).nestedWithin Json.maxDepth = true) :
    parseRecord (Bytes.ofText (Json.object record).compact) = .ok record := by
  rw [parseRecord, Bytes.toText?_ofText, Option.bind_some, Json.parse?_compact hregular,
    if_pos hdepth]

/-- A workspace with nothing in it. -/
def newBox : Sandbox := ⟨[]⟩

/-- The workspace with one file in it. -/
def withNotes (content : ByteArray) : FileSystem :=
  FileSystem.empty.put ["notes.json"] (.plain content)

/-- Writing the file is writing at its place, since the directory that holds it is there. -/
theorem writeFile_eq_of_write {fs fs' : FileSystem} {content : ByteArray}
    (hwrite : fs.write (newBox.path ["notes.json"]) content = .ok fs') :
    newBox.writeFile fs "notes.json" content = (.ok (), fs') := by
  have hnames : Sandbox.normalize [] (segmentsOf "notes.json") =
      some ["notes.json"] := by decide +kernel
  have hresolve : Sandbox.resolve "notes.json" = .ok ["notes.json"] := by
    rw [Sandbox.resolve, hnames]
  rw [Sandbox.writeFile, hresolve]
  simp only [Sandbox.withParent, show newBox.parent ["notes.json"] = [] from rfl,
    show fs.createDirAll [] = (.ok (), fs) from rfl, hwrite]
  rfl

theorem writeFile_notes (content : ByteArray) :
    newBox.writeFile .empty "notes.json" content = (.ok (), withNotes content) := by
  have hrefused : (newBox.path ["notes.json"]).refused? = none := by decide +kernel
  have hpath : FileSystem.empty.destination (newBox.path ["notes.json"]) =
      .ok (.name [] "notes.json") := by
    rw [FileSystem.destination, FileSystem.followPath, hrefused]
    rfl
  refine writeFile_eq_of_write ?_
  rw [FileSystem.write, hpath]
  rfl

/-- The record as it is stored first. -/
def first (record : Record) : Json := .object (stamp record 1 none)

theorem readAll_new : readAll newBox .empty "notes.json" = .ok [] := by
  rw [readAll, if_neg]
  decide +kernel

/-- The first record of a file is stored. -/
theorem append_notes (record : Record) :
    append newBox .empty "notes.json" record none =
      (.ok (first record), withNotes (text [first record]).toUTF8) := by
  rw [append, readAll_new]
  simp only [List.nil_append]
  rw [show nextId [] = 1 from rfl, show Json.object (stamp record 1 none) = first record from rfl,
    writeFile_notes]

/-- Arrays inside each other. -/
def nested : Nat → Json
  | 0 => .array []
  | depth + 1 => .array [nested depth]

theorem kept_nested (depth : Nat) : Json.Kept (nested depth) := by
  induction depth with
  | zero => exact .array nofun
  | succ depth ih =>
      refine .array fun item hitem => ?_
      rwa [List.mem_singleton.1 hitem]

theorem not_hasReal_nested (depth : Nat) (x : Binary64) : ¬ Json.HasReal x (nested depth) := by
  induction depth with
  | zero =>
      rintro (_ | ⟨hitem, _⟩)
      exact absurd hitem List.not_mem_nil
  | succ depth ih =>
      rintro (_ | ⟨hitem, hreal⟩)
      rw [List.mem_singleton.1 hitem] at hreal
      exact ih hreal

/-- A record with arrays inside each other. -/
def nestedRecord (depth : Nat) : Record := [("a", nested depth)]

theorem kept_nestedRecord (depth : Nat) : Json.Kept (.object (nestedRecord depth)) := by
  refine .object (List.pairwise_singleton _ _) fun member hmember => ?_
  rw [List.mem_singleton.1 hmember]
  exact kept_nested depth

theorem not_hasReal_nestedRecord (depth : Nat) (x : Binary64) :
    ¬ Json.HasReal x (.object (nestedRecord depth)) := by
  rintro (_ | _ | ⟨hmember, hreal⟩)
  rw [List.mem_singleton.1 hmember] at hreal
  exact not_hasReal_nested depth x hreal

theorem not_hasReal_first (depth : Nat) (x : Binary64) :
    ¬ Json.HasReal x (first (nestedRecord depth)) :=
  fun hreal => not_hasReal_nestedRecord depth x (hasReal_of_stamp hreal)

/-- A record that may still be one level deeper is read back from a new file. -/
theorem readAll_after_append_nested :
    let record := nestedRecord 124
    parseRecord (Bytes.ofText (Json.object record).compact) = .ok record ∧
      readAll newBox (withNotes (text [first record]).toUTF8) "notes.json" =
        .ok [first record] := by
  intro record
  have hrecord := parseRecord_compact ((kept_nestedRecord 124).regular
    fun x hx => absurd hx (not_hasReal_nestedRecord 124 x)) (by decide +kernel)
  have hreals : ∀ x, Json.HasReal x (.array ([] ++ [first record])) → Json.ReadsBack (.real x) := by
    rintro x (_ | ⟨hitem, hreal⟩)
    rw [List.mem_singleton.1 hitem] at hreal
    exact absurd hreal (not_hasReal_first 124 x)
  have hafter := readAll_after_append readAll_new hrecord (append_notes record) hreals
  rw [if_pos (by decide +kernel)] at hafter
  exact ⟨hrecord, hafter⟩

/-- A record that is nested as deep as a body may be is accepted and stored in a new file, which
cannot be read afterwards. -/
theorem unreadable_after_append :
    let record := nestedRecord 125
    parseRecord (Bytes.ofText (Json.object record).compact) = .ok record ∧
      readAll newBox .empty "notes.json" = .ok [] ∧
      append newBox .empty "notes.json" record none =
        (.ok (first record), withNotes (text [first record]).toUTF8) ∧
      readAll newBox (withNotes (text [first record]).toUTF8) "notes.json" =
        .error (notArray "notes.json") := by
  intro record
  have hrecord := parseRecord_compact ((kept_nestedRecord 125).regular
    fun x hx => absurd hx (not_hasReal_nestedRecord 125 x)) (by decide +kernel)
  have hregular : ∀ r ∈ [first record], Json.Regular r := by
    intro r hr
    rw [List.mem_singleton.1 hr]
    exact (kept_stamp (kept_nestedRecord 125) (fitsWord_nextId []) none).regular
      fun x hx => absurd hx (not_hasReal_first 125 x)
  have hafter := readAll_of_writeFile hregular (writeFile_notes _)
  rw [if_neg (by decide +kernel)] at hafter
  exact ⟨hrecord, readAll_new, append_notes record, hafter⟩

end SiteScript.Web.DataFile
