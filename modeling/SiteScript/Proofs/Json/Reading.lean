import SiteScript.Proofs.Json.RoundTrip

/-!
# SiteScript.Proofs.Json.Reading

What reading gives.

1. A value that was read has sorted members and integers of 64 bits, and is nested no deeper than was
   allowed (`kept_of_value?`).  It can be written and read again if its reals can (`Kept.regular`).
2. Objects whose values are strings are a grammar of their own, `StringObject`: blanks, signs and
   spellings of strings.  Reading takes the texts of that grammar and no others
   (`entries?_eq_some_iff`). -/

namespace SiteScript

/-! ## Members in any order -/

theorem mem_foldl_insertEntry {α : Type} {entries done : List (String × α)} {entry : String × α}
    (h : entry ∈ entries.foldl (fun sorted (key, value) => insertEntry key value sorted) done) :
    entry ∈ done ∨ entry ∈ entries := by
  induction entries generalizing done with
  | nil => exact .inl h
  | cons head entries ih =>
      rcases ih h with hdone | hrest
      · rcases mem_insertEntry hdone with rfl | hdone
        · exact .inr List.mem_cons_self
        · exact .inl hdone
      · exact .inr (List.mem_cons_of_mem _ hrest)

theorem SortedKeys.foldl_insertEntry {α : Type} {entries done : List (String × α)}
    (h : SortedKeys done) :
    SortedKeys (entries.foldl
      (fun sorted (key, value) => SiteScript.insertEntry key value sorted) done) := by
  induction entries generalizing done with
  | nil => exact h
  | cons head entries ih => exact ih h.insertEntry

namespace Json

/-- An object made from members in any order has some of them, sorted. -/
theorem ofMembers_spec (members : List (String × Json)) :
    ∃ sorted, ofMembers members = .object sorted ∧ SortedKeys sorted ∧
      ∀ member ∈ sorted, member ∈ members :=
  ⟨_, rfl, SortedKeys.foldl_insertEntry List.Pairwise.nil,
    fun _ hmember => (mem_foldl_insertEntry hmember).resolve_left List.not_mem_nil⟩

/-! ## Values that were read -/

/-- A value as reading gives it: the members of an object are sorted, and integers have 64 bits. -/
inductive Kept : Json → Prop where
  | null : Kept .null
  | bool (b : Bool) : Kept (.bool b)
  | int {n : Int} (h : FitsWord n) : Kept (.number (.int n))
  | real (x : Binary64) : Kept (.number (.real x))
  | string (s : String) : Kept (.string s)
  | array {items : List Json} (h : ∀ item ∈ items, Kept item) : Kept (.array items)
  | object {members : List (String × Json)} (hsorted : SortedKeys members)
      (h : ∀ member ∈ members, Kept member.2) : Kept (.object members)

/-- A real number occurs in a value. -/
inductive HasReal (x : Binary64) : Json → Prop where
  | here : HasReal x (.number (.real x))
  | item {items : List Json} {item : Json} (hitem : item ∈ items) (h : HasReal x item) :
      HasReal x (.array items)
  | member {members : List (String × Json)} {member : String × Json} (hmember : member ∈ members)
      (h : HasReal x member.2) : HasReal x (.object members)

/-- A value that was read can be written and read again, if its reals can. -/
theorem Kept.regular {value : Json} (h : Kept value)
    (hreals : ∀ x, HasReal x value → ReadsBack (.real x)) :
    Regular value := by
  induction h with
  | null => exact .null
  | bool b => exact .bool b
  | int h => exact .number (readsBack_int h)
  | real x => exact .number (hreals x .here)
  | string s => exact .string s
  | array _ ih => exact .array fun item hitem => ih item hitem fun x hx => hreals x (.item hitem hx)
  | object hsorted _ ih =>
      exact .object hsorted fun member hmember => ih member hmember fun x hx =>
        hreals x (.member hmember hx)

/-! ## Reading -/

/-- An integer that was read has 64 bits. -/
theorem fitsWord_of_number? {token : Number.Token} {n : Int} (h : token.number? = some (.int n)) :
    FitsWord n := by
  have hreal : ∀ {m : Int}, token.real?.map Number.real ≠ some (.int m) := by
    intro m hreal
    obtain ⟨x, -, heq⟩ := Option.map_eq_some_iff.1 hreal
    cases heq
  have hmin : Word.minSigned 64 = -(Word.values 63 : Int) := rfl
  have hmax : Number.maxSignificand = Word.maxUnsigned 64 := rfl
  have hword : Word.values 63 ≤ Word.maxUnsigned 64 := by decide
  simp only [Number.Token.number?] at h
  split at h
  · split at h
    next hrange =>
      simp only [Bool.and_eq_true, decide_eq_true_eq] at hrange
      cases h
      exact ⟨by omega, by omega⟩
    split at h
    next hrange =>
      simp only [Bool.and_eq_true, decide_eq_true_eq] at hrange
      cases h
      exact ⟨by omega, by omega⟩
    next => exact absurd h hreal
  · exact absurd h hreal

/-- What was read one by one was read from something each. -/
theorem exists_of_mem_mapM {α β : Type} {f : α → Option β} {as : List α} {bs : List β}
    (h : as.mapM f = some bs) {b : β} (hb : b ∈ bs) : ∃ a ∈ as, f a = some b := by
  induction as generalizing bs with
  | nil =>
      cases h
      cases hb
  | cons a as ih =>
      rw [List.mapM_cons] at h
      simp only [Option.pure_def, Option.bind_eq_bind, Option.bind_eq_some_iff] at h
      obtain ⟨first, hfirst, rest, hrest, heq⟩ := h
      cases heq
      rcases List.mem_cons.1 hb with rfl | hb
      · exact ⟨a, List.mem_cons_self, hfirst⟩
      · obtain ⟨a', ha', hf⟩ := ih hrest hb
        exact ⟨a', List.mem_cons_of_mem _ ha', hf⟩

/-- Neither an array nor an object. -/
def Raw.isLeaf : Raw → Bool
  | .array _ => false
  | .object _ => false
  | _ => true

theorem kept_of_leaf {depth : Nat} {raw : Raw} (hleaf : raw.isLeaf = true) {value : Json}
    (h : raw.value? depth = some value) : Kept value ∧ value.nestedWithin depth = true := by
  match raw with
  | .null =>
      rw [Raw.value?] at h
      cases h
      exact ⟨.null, by cases depth <;> rfl⟩
  | .bool b =>
      rw [Raw.value?] at h
      cases h
      exact ⟨.bool b, by cases depth <;> rfl⟩
  | .number token =>
      rw [Raw.value?] at h
      obtain ⟨n, hn, rfl⟩ := Option.map_eq_some_iff.1 h
      refine ⟨?_, by cases depth <;> rfl⟩
      cases n with
      | int n => exact .int (fitsWord_of_number? hn)
      | real x => exact .real x
  | .string body =>
      rw [Raw.value?] at h
      obtain ⟨s, -, rfl⟩ := Option.map_eq_some_iff.1 h
      exact ⟨.string s, by cases depth <;> rfl⟩

/-- **What a tree means is a value as reading gives it**, nested no deeper than was allowed. -/
theorem kept_of_value? {depth : Nat} {raw : Raw} {value : Json}
    (h : raw.value? depth = some value) :
    Kept value ∧ value.nestedWithin depth = true := by
  induction depth generalizing raw value with
  | zero =>
      match raw with
      | .array _ | .object _ => cases h
      | .null | .bool _ | .number _ | .string _ => exact kept_of_leaf rfl h
  | succ depth ih =>
      match raw with
      | .array items =>
          rw [Raw.value?] at h
          obtain ⟨values, hvalues, rfl⟩ := Option.map_eq_some_iff.1 h
          have hitems : ∀ item ∈ values, Kept item ∧ item.nestedWithin depth = true := by
            intro item hitem
            obtain ⟨_, -, hread⟩ := exists_of_mem_mapM hvalues hitem
            exact ih hread
          refine ⟨.array fun item hitem => (hitems item hitem).1, ?_⟩
          rw [nestedWithin, List.all_eq_true]
          exact fun item hitem => (hitems item hitem).2
      | .object members =>
          rw [Raw.value?] at h
          obtain ⟨pairs, hpairs, rfl⟩ := Option.map_eq_some_iff.1 h
          have hmembers : ∀ member ∈ pairs, Kept member.2 ∧ member.2.nestedWithin depth = true := by
            intro member hmember
            obtain ⟨_, -, hread⟩ := exists_of_mem_mapM hpairs hmember
            simp only [Option.pure_def, Option.bind_eq_bind, Option.bind_eq_some_iff] at hread
            obtain ⟨_, -, _, hvalue, heq⟩ := hread
            cases heq
            exact ih hvalue
          obtain ⟨sorted, hobject, hsorted, hsource⟩ := ofMembers_spec pairs
          rw [hobject, nestedWithin, List.all_eq_true]
          exact ⟨.object hsorted fun member hmember => (hmembers member (hsource member hmember)).1,
            fun member hmember => (hmembers member (hsource member hmember)).2⟩
      | .null | .bool _ | .number _ | .string _ => exact kept_of_leaf rfl h

/-! ## Objects of strings -/

/-- A member with a string for a value: name and value in quotes, with blanks where they may
stand. -/
inductive StringMember : List Char → String × String → Prop where
  | intro {before name gap gap' value after : List Char} {key content : String}
      (hbefore : Blanks before) (hname : Spells name key.toList) (hgap : Blanks gap)
      (hgap' : Blanks gap') (hvalue : Spells value content.toList) (hafter : Blanks after) :
      StringMember (before ++ '"' :: (name ++ '"' :: (gap ++ ':' ::
        (gap' ++ '"' :: (value ++ '"' :: after))))) (key, content)

/-- Members with strings for values, commas between them, and the closing brace. -/
inductive StringMembers : List Char → List (String × String) → Prop where
  | last {text : List Char} {entry : String × String} (h : StringMember text entry) :
      StringMembers (text ++ ['}']) [entry]
  | cons {text others : List Char} {entry : String × String} {entries : List (String × String)}
      (h : StringMember text entry) (hothers : StringMembers others entries) :
      StringMembers (text ++ ',' :: others) (entry :: entries)

/-- A text is an object of strings, with blanks around it.  Its entries stand in the order written,
names that repeat included. -/
inductive StringObject : List Char → List (String × String) → Prop where
  | empty {before gap after : List Char} (hbefore : Blanks before) (hgap : Blanks gap)
      (hafter : Blanks after) : StringObject (before ++ '{' :: (gap ++ '}' :: after)) []
  | members {before text after : List Char} {entries : List (String × String)}
      (hbefore : Blanks before) (h : StringMembers text entries) (hafter : Blanks after) :
      StringObject (before ++ '{' :: (text ++ after)) entries

/-- What a member means as an entry, if its value is a string. -/
def stringMember? (member : List Char × Raw) : Option (String × String) := do
  return (← Raw.text? member.1, ← member.2.string?)

theorem entries?_object (members : List (List Char × Raw)) :
    Raw.entries? Raw.string? (.object members) =
      (members.mapM stringMember?).map Dictionary.ofList := rfl

/-- A body that spells a string stands for it. -/
theorem text?_eq_some_iff {body : List Char} {s : String} :
    Raw.text? body = some s ↔ unescape body = some s.toList := by
  rw [Raw.text?, Option.map_eq_some_iff]
  constructor
  · rintro ⟨cs, hcs, rfl⟩
    rw [String.toList_ofList, hcs]
  · intro h
    exact ⟨s.toList, h, String.ofList_toList⟩

/-- A member means an entry when its name and its string mean those of the entry. -/
theorem stringMember?_eq_some_iff {name : List Char} {raw : Raw} {entry : String × String} :
    stringMember? (name, raw) = some entry ↔
      ∃ body, raw = .string body ∧ unescape name = some entry.1.toList ∧
        unescape body = some entry.2.toList := by
  simp only [stringMember?, Option.pure_def, Option.bind_eq_bind, Option.bind_eq_some_iff,
    text?_eq_some_iff]
  constructor
  · rintro ⟨key, hkey, content, hcontent, heq⟩
    cases heq
    match raw with
    | .string body => exact ⟨body, rfl, hkey, text?_eq_some_iff.1 hcontent⟩
    | .null | .bool _ | .number _ | .array _ | .object _ => cases hcontent
  · rintro ⟨body, rfl, hkey, hcontent⟩
    exact ⟨entry.1, hkey, entry.2, text?_eq_some_iff.2 hcontent, rfl⟩

/-! ## Reading objects of strings -/

theorem StringMember.reads {text : List Char} {entry : String × String}
    (h : StringMember text entry) :
    ∃ member, ReadsMember text member ∧ stringMember? member = some entry := by
  cases h with
  | @intro before name gap gap' value after key content hbefore hname hgap hgap' hvalue hafter =>
      have hread := (hvalue.reads.1.reads).blanks hgap'
      have hmember := ReadsMember.intro hbefore hname.reads.1 hgap hread hafter
      simp only [List.append_assoc, List.cons_append, List.nil_append] at hmember
      exact ⟨_, hmember, stringMember?_eq_some_iff.2 ⟨value, rfl, hname.reads.2, hvalue.reads.2⟩⟩

theorem StringMembers.reads {text : List Char} {entries : List (String × String)}
    (h : StringMembers text entries) :
    ∃ members, ReadsMembers text members ∧ members.mapM stringMember? = some entries := by
  induction h with
  | last h =>
      obtain ⟨member, hread, hentry⟩ := h.reads
      exact ⟨[member], .last hread, by simp [hentry]⟩
  | cons h _ ih =>
      obtain ⟨member, hread, hentry⟩ := h.reads
      obtain ⟨members, hothers, hentries⟩ := ih
      exact ⟨member :: members, .cons hread hothers, by simp [hentry, hentries]⟩

theorem StringObject.parse? {text : List Char} {entries : List (String × String)}
    (h : StringObject text entries) :
    ∃ members, Raw.parse? text = some (.object members) ∧
      members.mapM stringMember? = some entries := by
  cases h with
  | @empty before gap after hbefore hgap hafter =>
      have hparse := ((reads_object_nil hgap).blanks hbefore).parse?_append hafter
      simp only [List.append_assoc, List.cons_append, List.nil_append] at hparse
      exact ⟨[], hparse, rfl⟩
  | members hbefore h hafter =>
      obtain ⟨members, hread, hentries⟩ := h.reads
      have hparse := ((Reads.object hread).blanks hbefore).parse?_append hafter
      simp only [List.append_assoc, List.cons_append] at hparse
      exact ⟨members, hparse, hentries⟩

/-! ## What is read as an object of strings -/

/-- Where a string or an object is read, its opening sign comes first. -/
theorem scanValue_opening {fuel : Nat} {text rest : List Char} {raw : Raw}
    (h : scanValue fuel text = some (raw, rest)) :
    match raw with
    | .string body => ∃ inner, skipSpace text = '"' :: inner ∧ scanString inner = some (body, rest)
    | .object members => ∃ inner, skipSpace text = '{' :: inner ∧
        ((members = [] ∧ skipSpace inner = '}' :: rest) ∨
          ∃ fuel, scanMembers fuel (skipSpace inner) = some (members, rest))
    | _ => True := by
  match fuel with
  | 0 => cases h
  | fuel + 1 =>
  rw [scanValue] at h
  split at h
  · cases h
  next inner htext =>
    obtain ⟨⟨body, _⟩, hscan, heq⟩ := Option.map_eq_some_iff.1 h
    cases heq
    exact ⟨inner, htext, hscan⟩
  next inner htext =>
    split at h
    · cases h
      trivial
    · obtain ⟨_, -, heq⟩ := Option.map_eq_some_iff.1 h
      cases heq
      trivial
  next inner htext =>
    split at h
    next hbrace =>
      cases h
      exact ⟨inner, htext, .inl ⟨rfl, hbrace⟩⟩
    next =>
      obtain ⟨⟨members, _⟩, hscan, heq⟩ := Option.map_eq_some_iff.1 h
      cases heq
      exact ⟨inner, htext, .inr ⟨fuel, hscan⟩⟩
  next =>
    split at h
    · obtain ⟨_, -, heq⟩ := Option.map_eq_some_iff.1 h
      cases heq
      trivial
    · rw [scanWord.eq_def] at h
      split at h <;> cases h <;> trivial

/-- Where members are read, one of them comes first: a name, a colon and a value, and after it the
closing brace or a comma and the other members. -/
theorem scanMembers_cases {fuel : Nat} {text rest : List Char} {members : List (List Char × Raw)}
    (h : scanMembers (fuel + 1) text = some (members, rest)) :
    ∃ named name colon valued raw after, skipSpace text = '"' :: named ∧
      scanString named = some (name, colon) ∧ skipSpace colon = ':' :: valued ∧
      scanValue fuel valued = some (raw, after) ∧
      ((skipSpace after = '}' :: rest ∧ members = [(name, raw)]) ∨
        ∃ others members', skipSpace after = ',' :: others ∧
          scanMembers fuel others = some (members', rest) ∧ members = (name, raw) :: members') := by
  rw [scanMembers] at h
  split at h
  next named hnamed =>
    split at h
    · cases h
    next name colon hname =>
      split at h
      next valued hcolon =>
        split at h
        · cases h
        next raw after hvalue =>
          refine ⟨named, name, colon, valued, raw, after, hnamed, hname, hcolon, hvalue, ?_⟩
          split at h
          next others hcomma =>
            obtain ⟨⟨members', _⟩, hothers, heq⟩ := Option.map_eq_some_iff.1 h
            cases heq
            exact .inr ⟨others, members', hcomma, hothers, rfl⟩
          next hbrace =>
            cases h
            exact .inl ⟨hbrace, rfl⟩
          next => cases h
      next => cases h
  next => cases h

/-- Members that are read and mean entries of strings are members with strings for values. -/
theorem stringMembers_of_scanMembers {fuel : Nat} {text rest : List Char}
    {members : List (List Char × Raw)} {entries : List (String × String)}
    (h : scanMembers fuel text = some (members, rest))
    (hentries : members.mapM stringMember? = some entries) :
    ∃ inner, text = inner ++ rest ∧ StringMembers inner entries := by
  induction fuel generalizing text members entries with
  | zero => cases h
  | succ fuel ih =>
      obtain ⟨named, name, colon, valued, raw, after, hnamed, hname, hcolon, hvalue, hmore⟩ :=
        scanMembers_cases h
      -- the first entry says that the first value is a string
      obtain ⟨entry, others', hentry, hothers', hlist⟩ : ∃ entry others',
          stringMember? (name, raw) = some entry ∧
          members.tail.mapM stringMember? = some others' ∧ entries = entry :: others' := by
        rcases hmore with ⟨-, rfl⟩ | ⟨_, _, -, -, rfl⟩ <;>
        · rw [List.mapM_cons] at hentries
          simp only [Option.pure_def, Option.bind_eq_bind, Option.bind_eq_some_iff] at hentries
          obtain ⟨entry, hentry, others', hothers', heq⟩ := hentries
          cases heq
          exact ⟨entry, others', hentry, hothers', rfl⟩
      obtain ⟨body, rfl, hkey, hcontent⟩ := stringMember?_eq_some_iff.1 hentry
      obtain ⟨quoted, hquoted, hbody⟩ := scanValue_opening hvalue
      obtain ⟨rfl, hspells⟩ := spells_of_scanString hname hkey
      obtain ⟨rfl, hspells'⟩ := spells_of_scanString hbody hcontent
      obtain ⟨before, hbefore, htext⟩ := exists_blanks text
      obtain ⟨gap, hgap, hcolon'⟩ := exists_blanks colon
      obtain ⟨gap', hgap', hvalued⟩ := exists_blanks valued
      obtain ⟨last, hlast, hafter⟩ := exists_blanks after
      rw [hnamed] at htext
      rw [hcolon] at hcolon'
      rw [hquoted] at hvalued
      have hmember := StringMember.intro hbefore hspells hgap hgap' hspells' hlast
      subst hlist
      rcases hmore with ⟨hbrace, rfl⟩ | ⟨others, members', hcomma, hothers, rfl⟩
      · cases hothers'
        rw [hbrace] at hafter
        refine ⟨_, ?_, .last hmember⟩
        rw [htext, hcolon', hvalued, hafter]
        simp
      · obtain ⟨inner, rfl, hinner⟩ := ih hothers hothers'
        rw [hcomma] at hafter
        refine ⟨_, ?_, .cons hmember hinner⟩
        rw [htext, hcolon', hvalued, hafter]
        simp

/-- A text that is read as an object and means entries of strings is an object of strings. -/
theorem stringObject_of_parse? {text : List Char} {members : List (List Char × Raw)}
    {entries : List (String × String)} (h : Raw.parse? text = some (.object members))
    (hentries : members.mapM stringMember? = some entries) : StringObject text entries := by
  rw [Raw.parse?] at h
  split at h
  next raw rest hscan =>
    split at h
    next hend =>
      cases h
      obtain ⟨inner, htext, hmembers⟩ := scanValue_opening hscan
      obtain ⟨before, hbefore, hsplit⟩ := exists_blanks text
      obtain ⟨after, hafter, hrest⟩ := exists_blanks rest
      obtain ⟨gap, hgap, hinner⟩ := exists_blanks inner
      rw [List.isEmpty_iff.1 hend, List.append_nil] at hrest
      subst hrest
      rw [htext] at hsplit
      rcases hmembers with ⟨rfl, hbrace⟩ | ⟨fuel, hmembers⟩
      · cases hentries
        rw [hsplit, hinner, hbrace]
        exact .empty hbefore hgap hafter
      · rw [scanMembers_congr (skipSpace_skipSpace inner)] at hmembers
        obtain ⟨inner, rfl, hread⟩ := stringMembers_of_scanMembers hmembers hentries
        rw [hsplit]
        exact .members hbefore hread hafter
    next => cases h
  next => cases h

/-- **An object of strings is read as its entries, and nothing else is read as entries of
strings.** -/
theorem entries?_eq_some_iff {text : List Char} {d : Dictionary String} :
    (Raw.parse? text).bind (Raw.entries? Raw.string?) = some d ↔
      ∃ entries, StringObject text entries ∧ d.HoldsLast entries := by
  simp only [Dictionary.holdsLast_iff]
  constructor
  · intro h
    obtain ⟨raw, hparse, hentries⟩ := Option.bind_eq_some_iff.1 h
    match raw with
    | .object members =>
        rw [entries?_object] at hentries
        obtain ⟨entries, hmembers, rfl⟩ := Option.map_eq_some_iff.1 hentries
        exact ⟨entries, stringObject_of_parse? hparse hmembers, rfl⟩
    | .null | .bool _ | .number _ | .string _ | .array _ => cases hentries
  · rintro ⟨entries, hobject, rfl⟩
    obtain ⟨members, hparse, hentries⟩ := hobject.parse?
    rw [hparse, Option.bind_some, entries?_object, hentries, Option.map_some]

end Json

end SiteScript
