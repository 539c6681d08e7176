import SiteScript.Proofs.Json.Reals
import SiteScript.Proofs.Json.Strings

/-!
# SiteScript.Proofs.Json.Writing

Both written forms of a value are read as the tree of the value.

1. `Reads text raw`: the text is read as the tree, wherever it stands.  How values, items and
   members are put together from texts that read is said once, with blanks allowed where the
   grammar allows them (`Reads.array`, `Reads.object`, `ReadsItems.cons`, …).
2. `Raw.ofJson` is the tree of a value, and `reads_compactChars` and `reads_prettyChars` say that
   the two forms read as it. -/

namespace SiteScript

/-! ## Values -/

/-- To prove something of every value, prove it of an array when it holds of the items, and of an
object when it holds of the members. -/
@[elab_as_elim]
theorem Json.recursion {motive : Json → Prop} (null : motive .null) (bool : ∀ b, motive (.bool b))
    (number : ∀ n, motive (.number n)) (string : ∀ s, motive (.string s))
    (array : ∀ items, (∀ item ∈ items, motive item) → motive (.array items))
    (object : ∀ members : List (String × Json), (∀ member ∈ members, motive member.2) →
      motive (.object members)) (value : Json) : motive value := by
  match value with
  | .null => exact null
  | .bool b => exact bool b
  | .number n => exact number n
  | .string s => exact string s
  | .array items =>
      exact array items fun item _ => Json.recursion null bool number string array object item
  | .object members =>
      exact object members fun member _ =>
        Json.recursion null bool number string array object member.2
termination_by value
decreasing_by
  · have := List.sizeOf_lt_of_mem ‹item ∈ items›
    simp only [Json.array.sizeOf_spec]
    omega
  · have := List.sizeOf_lt_of_mem ‹member ∈ members›
    have : sizeOf member.2 < sizeOf member := by
      obtain ⟨name, value⟩ := member
      simp only [Prod.mk.sizeOf_spec]
      omega
    simp only [Json.object.sizeOf_spec]
    omega

namespace Json

/-! ## Blanks -/

/-- A text of blanks. -/
def Blanks (text : List Char) : Prop := ∀ c ∈ text, isSpace c = true

theorem skipSpace_append {blanks : List Char} (h : Blanks blanks) (text : List Char) :
    skipSpace (blanks ++ text) = skipSpace text :=
  List.dropWhile_append_of_pos h

theorem skipSpace_cons {c : Char} (h : isSpace c = false) (text : List Char) :
    skipSpace (c :: text) = c :: text :=
  List.dropWhile_cons_of_neg (by simp [h])

theorem skipSpace_skipSpace (text : List Char) : skipSpace (skipSpace text) = skipSpace text := by
  induction text with
  | nil => rfl
  | cons c text ih =>
      by_cases hc : isSpace c = true
      · rw [show skipSpace (c :: text) = skipSpace text from List.dropWhile_cons_of_pos hc, ih]
      · rw [skipSpace_cons (by simpa using hc), skipSpace_cons (by simpa using hc)]

/-- A text is blanks and what stands after them. -/
theorem exists_blanks (text : List Char) : ∃ blanks, Blanks blanks ∧ text = blanks ++ skipSpace text :=
  ⟨text.takeWhile isSpace, fun _ hc => List.all_eq_true.1 List.all_takeWhile _ hc,
    List.takeWhile_append_dropWhile.symm⟩

/-- Values, items and members are read from the next token on. -/
theorem scanValue_congr {text text' : List Char} (h : skipSpace text = skipSpace text')
    (fuel : Nat) :
    scanValue fuel text = scanValue fuel text' := by
  cases fuel with
  | zero => rfl
  | succ fuel => rw [scanValue, scanValue, h]

theorem scanItems_congr {text text' : List Char} (h : skipSpace text = skipSpace text')
    (fuel : Nat) :
    scanItems fuel text = scanItems fuel text' := by
  cases fuel with
  | zero => rfl
  | succ fuel => rw [scanItems, scanItems, scanValue_congr h]

theorem scanMembers_congr {text text' : List Char} (h : skipSpace text = skipSpace text')
    (fuel : Nat) :
    scanMembers fuel text = scanMembers fuel text' := by
  cases fuel with
  | zero => rfl
  | succ fuel => rw [scanMembers, scanMembers, h]

theorem blanks_newLine (level : Nat) : Blanks (newLine level) := by
  intro c hc
  rcases List.mem_cons.1 hc with rfl | hc
  · rfl
  · rw [List.eq_of_mem_replicate hc]
    rfl

theorem endsNumeral_cons {c : Char} (h : isNumeralChar c = false) (text : List Char) :
    EndsNumeral (c :: text) := by
  intro d hd
  cases hd
  exact h

/-- Blanks and a text that does not go on with a numeral do not either. -/
theorem EndsNumeral.blanks {blanks after : List Char} (h : Blanks blanks)
    (hafter : EndsNumeral after) :
    EndsNumeral (blanks ++ after) := by
  match blanks with
  | [] => exact hafter
  | c :: rest =>
      have hspace := h c List.mem_cons_self
      simp only [isSpace, Bool.or_eq_true, beq_iff_eq] at hspace
      refine endsNumeral_cons ?_ _
      rcases hspace with ((rfl | rfl) | rfl) | rfl <;> decide

/-! ## Texts that read -/

/-- A text is read as a tree, before whatever does not go on with a numeral. -/
def Reads (text : List Char) (raw : Raw) : Prop :=
  ∀ after fuel, EndsNumeral after → 2 * text.length ≤ fuel →
    scanValue fuel (text ++ after) = some (raw, after)

/-- A text is read as the items of an array, with its closing bracket. -/
def ReadsItems (text : List Char) (items : List Raw) : Prop :=
  ∀ after fuel, 2 * text.length ≤ fuel → scanItems fuel (text ++ after) = some (items, after)

/-- A text is read as the members of an object, with its closing brace. -/
def ReadsMembers (text : List Char) (members : List (List Char × Raw)) : Prop :=
  ∀ after fuel, 2 * text.length ≤ fuel → scanMembers fuel (text ++ after) = some (members, after)

theorem Reads.blanks {blanks text : List Char} {raw : Raw} (h : Reads text raw)
    (hblanks : Blanks blanks) :
    Reads (blanks ++ text) raw := by
  intro after fuel hafter hfuel
  rw [List.append_assoc, scanValue_congr (skipSpace_append hblanks _)]
  exact h after fuel hafter (by rw [List.length_append] at hfuel; omega)

/-- A text that is not empty leaves fuel for what follows its first character. -/
theorem reads_cons {c : Char} {text : List Char} {raw : Raw}
    (h : ∀ after fuel, EndsNumeral after → 2 * text.length < fuel →
      scanValue (fuel + 1) (c :: (text ++ after)) = some (raw, after)) :
    Reads (c :: text) raw := by
  intro after fuel hafter hfuel
  rw [List.length_cons] at hfuel
  obtain ⟨fuel, rfl⟩ := Nat.exists_eq_add_one_of_ne_zero (show fuel ≠ 0 by omega)
  exact h after fuel hafter (by omega)

theorem reads_word {text : List Char} {raw : Raw}
    (h : (text, raw) ∈ [("null".toList, Raw.null), ("true".toList, .bool true),
      ("false".toList, .bool false)]) :
    Reads text raw := by
  simp only [List.mem_cons, Prod.mk.injEq, List.not_mem_nil, or_false] at h
  obtain ⟨rfl, rfl⟩ | ⟨rfl, rfl⟩ | ⟨rfl, rfl⟩ := h
  all_goals exact reads_cons fun _ _ _ _ => rfl

/-- What stands between quotes reads as itself. -/
theorem IsBody.reads {body : List Char} (h : IsBody body) :
    Reads ('"' :: (body ++ ['"'])) (.string body) := by
  refine reads_cons fun after fuel _ _ => ?_
  rw [List.append_assoc, List.singleton_append, scanValue, skipSpace_cons (by decide)]
  simp only [h after, Option.map_some]

/-- A string in quotes reads as what stands between them. -/
theorem reads_quote (s : String) : Reads (quote s) (.string (escape s)) :=
  (isBody_escape s).reads

/-- A numeral begins with a digit or a minus sign. -/
theorem numeral_head {text rest : List Char} {token : Number.Token}
    (h : scanNumber text = some (token, rest)) :
    ∃ c digits, text = c :: digits ∧ (c == '-' || c.isDigit) = true := by
  match text with
  | [] => cases h
  | c :: digits =>
      refine ⟨c, digits, rfl, ?_⟩
      by_cases hminus : c = '-'
      · simp [hminus]
      · rw [scanNumber_unsigned hminus, scanUnsigned] at h
        simp only [Option.bind_eq_bind, Option.bind_eq_some_iff] at h
        obtain ⟨⟨whole, _⟩, hwhole, -⟩ := h
        by_cases hzero : c = '0'
        · simp [hzero, Char.isDigit]
        · by_cases hdigit : c.isDigit = true
          · simp [hdigit]
          · simp [scanWhole, hdigit] at hwhole

/-- At a digit or a minus sign a numeral is read. -/
theorem scanValue_numeral {c : Char} (hc : (c == '-' || c.isDigit) = true) (fuel : Nat)
    (text : List Char) :
    scanValue (fuel + 1) (c :: text) =
      (scanNumber (c :: text)).map fun (token, rest) => (.number token, rest) := by
  have hne : ∀ {d : Char}, (d == '-' || d.isDigit) = false → c ≠ d := by
    rintro d hd rfl
    rw [hd] at hc
    cases hc
  have hspace : isSpace c = false := by
    simp [isSpace, hne (show (' ' == '-' || ' '.isDigit) = false by decide),
      hne (show ('\n' == '-' || '\n'.isDigit) = false by decide),
      hne (show ('\t' == '-' || '\t'.isDigit) = false by decide),
      hne (show ('\r' == '-' || '\r'.isDigit) = false by decide)]
  rw [scanValue, skipSpace_cons hspace]
  split
  next hnil => cases hnil
  next hquote => exact absurd (List.cons.inj hquote).1 (hne (by decide))
  next hbracket => exact absurd (List.cons.inj hbracket).1 (hne (by decide))
  next hbrace => exact absurd (List.cons.inj hbrace).1 (hne (by decide))
  next heq =>
    cases heq
    exact if_pos hc

/-- A numeral that is read to its end reads as itself. -/
theorem reads_numeral {text : List Char} {token : Number.Token}
    (h : scanNumber text = some (token, [])) :
    Reads text (.number token) := by
  obtain ⟨c, digits, rfl, hc⟩ := numeral_head h
  refine reads_cons fun after fuel hafter _ => ?_
  have hscan := scanNumber_append hafter h
  rw [List.cons_append, List.nil_append] at hscan
  rw [scanValue_numeral hc, hscan, Option.map_some]

/-! ## Arrays -/

/-- Nothing is read as items where the closing bracket stands. -/
theorem skipSpace_ne_bracket {fuel : Nat} {text rest : List Char} {items : List Raw}
    (h : scanItems fuel text = some (items, rest)) (after : List Char) :
    skipSpace text ≠ ']' :: after := by
  intro hbracket
  match fuel with
  | 0 => cases h
  | 1 => cases h
  | fuel + 2 =>
      rw [scanItems, scanValue, hbracket] at h
      cases h

theorem reads_array_nil : Reads ['[', ']'] (.array []) :=
  reads_cons fun _ _ _ _ => rfl

theorem Reads.array {text : List Char} {items : List Raw} (h : ReadsItems text items) :
    Reads ('[' :: text) (.array items) := by
  refine reads_cons fun after fuel _ hfuel => ?_
  have hitems := h after fuel (Nat.le_of_lt hfuel)
  have hbracket := skipSpace_ne_bracket hitems
  rw [scanValue, skipSpace_cons (by decide)]
  simp only [scanItems_congr (skipSpace_skipSpace _), hitems, Option.map_some]

theorem ReadsItems.last {item gap : List Char} {raw : Raw} (h : Reads item raw)
    (hgap : Blanks gap) :
    ReadsItems (item ++ gap ++ [']']) [raw] := by
  intro after fuel hfuel
  simp only [List.length_append, List.length_singleton] at hfuel
  obtain ⟨fuel, rfl⟩ := Nat.exists_eq_add_one_of_ne_zero (show fuel ≠ 0 by omega)
  have hitem := h (gap ++ ']' :: after) fuel
      (.blanks hgap (endsNumeral_cons (by decide) _)) (by omega)
  rw [List.append_assoc, List.append_assoc, List.singleton_append, scanItems, hitem]
  simp only [skipSpace_append hgap, skipSpace_cons (show isSpace ']' = false by decide)]

theorem ReadsItems.cons {item text : List Char} {raw : Raw} {items : List Raw} (h : Reads item raw)
    (hitems : ReadsItems text items) : ReadsItems (item ++ ',' :: text) (raw :: items) := by
  intro after fuel hfuel
  simp only [List.length_append, List.length_cons] at hfuel
  obtain ⟨fuel, rfl⟩ := Nat.exists_eq_add_one_of_ne_zero (show fuel ≠ 0 by omega)
  have hitem := h (',' :: (text ++ after)) fuel (endsNumeral_cons (by decide) _) (by omega)
  rw [List.append_assoc, List.cons_append, scanItems, hitem]
  simp only [skipSpace_cons (show isSpace ',' = false by decide), hitems after fuel (by omega),
    Option.map_some]

/-! ## Objects -/

/-- Nothing is read as members where the closing brace stands. -/
theorem skipSpace_ne_brace {fuel : Nat} {text rest : List Char} {members : List (List Char × Raw)}
    (h : scanMembers fuel text = some (members, rest)) (after : List Char) :
    skipSpace text ≠ '}' :: after := by
  intro hbrace
  match fuel with
  | 0 => cases h
  | fuel + 1 =>
      rw [scanMembers, hbrace] at h
      cases h

theorem reads_object_nil {gap : List Char} (hgap : Blanks gap) :
    Reads ('{' :: (gap ++ ['}'])) (.object []) := by
  refine reads_cons fun after fuel _ _ => ?_
  rw [scanValue, skipSpace_cons (by decide)]
  simp only [List.append_assoc, List.cons_append, List.nil_append, skipSpace_append hgap,
    skipSpace_cons (show isSpace '}' = false by decide)]

theorem Reads.object {text : List Char} {members : List (List Char × Raw)}
    (h : ReadsMembers text members) :
    Reads ('{' :: text) (.object members) := by
  refine reads_cons fun after fuel _ hfuel => ?_
  have hmembers := h after fuel (Nat.le_of_lt hfuel)
  have hbrace := skipSpace_ne_brace hmembers
  rw [scanValue, skipSpace_cons (by decide)]
  simp only [scanMembers_congr (skipSpace_skipSpace _), hmembers, Option.map_some]

/-- Reading members begins with a name in quotes and a colon. -/
theorem scanMembers_name {before name gap : List Char} (hbefore : Blanks before)
    (hname : IsBody name) (hgap : Blanks gap) (fuel : Nat) (text : List Char) :
    scanMembers (fuel + 1) (before ++ '"' :: (name ++ '"' :: (gap ++ ':' :: text))) =
      match scanValue fuel text with
      | none => none
      | some (value, rest) =>
        match skipSpace rest with
        | ',' :: rest =>
          (scanMembers fuel rest).map fun (members, rest) => ((name, value) :: members, rest)
        | '}' :: rest => some ([(name, value)], rest)
        | _ => none := by
  rw [scanMembers, skipSpace_append hbefore, skipSpace_cons (by decide)]
  simp only [hname (gap ++ ':' :: text)]
  rewrite [skipSpace_append hgap, skipSpace_cons (by decide)]
  rfl

/-- A text is a member of an object: a name and a value, with blanks where they may stand. -/
inductive ReadsMember : List Char → List Char × Raw → Prop where
  | intro {before name gap value after : List Char} {raw : Raw} (hbefore : Blanks before)
      (hname : IsBody name) (hgap : Blanks gap) (hvalue : Reads value raw) (hafter : Blanks after) :
      ReadsMember (before ++ '"' :: (name ++ '"' :: (gap ++ ':' :: (value ++ after)))) (name, raw)

theorem ReadsMembers.last {text : List Char} {member : List Char × Raw}
    (h : ReadsMember text member) : ReadsMembers (text ++ ['}']) [member] := by
  obtain ⟨hbefore, hname, hgap, hvalue, hafter⟩ := h
  intro rest fuel hfuel
  simp only [List.length_append, List.length_cons, List.length_nil] at hfuel
  obtain ⟨fuel, rfl⟩ := Nat.exists_eq_add_one_of_ne_zero (show fuel ≠ 0 by omega)
  have hread := hvalue (_ ++ '}' :: rest) fuel
    (.blanks hafter (endsNumeral_cons (by decide) _)) (by omega)
  simp only [List.append_assoc, List.cons_append, List.nil_append]
  rw [scanMembers_name hbefore hname hgap, hread]
  simp only [skipSpace_append hafter, skipSpace_cons (show isSpace '}' = false by decide)]

theorem ReadsMembers.cons {text others : List Char} {member : List Char × Raw}
    {members : List (List Char × Raw)} (h : ReadsMember text member)
    (hmembers : ReadsMembers others members) :
    ReadsMembers (text ++ ',' :: others) (member :: members) := by
  obtain ⟨hbefore, hname, hgap, hvalue, hafter⟩ := h
  intro rest fuel hfuel
  simp only [List.length_append, List.length_cons] at hfuel
  obtain ⟨fuel, rfl⟩ := Nat.exists_eq_add_one_of_ne_zero (show fuel ≠ 0 by omega)
  have hread := hvalue (_ ++ ',' :: (others ++ rest)) fuel
    (.blanks hafter (endsNumeral_cons (by decide) _)) (by omega)
  simp only [List.append_assoc, List.cons_append]
  rw [scanMembers_name hbefore hname hgap, hread]
  simp only [skipSpace_append hafter, skipSpace_cons (show isSpace ',' = false by decide),
    hmembers rest fuel (by omega), Option.map_some]

/-! ## The tree of a value -/

/-- The numeral that a number is written as. -/
def numeral (n : Number) : Number.Token :=
  ((scanNumber n.text).map (·.1)).getD ⟨false, [], none, none⟩

/-- The text of a number is read to its end. -/
theorem scanNumber_text (n : Number) : scanNumber n.text = some (numeral n, []) := by
  obtain ⟨token, hscan⟩ := exists_scanNumber_text n
  rw [numeral, hscan]
  rfl

/-- A number that is read back from its text. -/
structure ReadsBack (n : Number) : Prop where
  scan : scanNumber n.text = some (numeral n, [])
  value : (numeral n).number? = some n

/-- Integers of 64 bits are read back. -/
theorem readsBack_int {n : Int} (h : FitsWord n) : ReadsBack (.int n) := by
  have hnumeral : numeral (.int n) = intToken n := by
    rw [numeral, Number.text, scanNumber_ofInt]
    rfl
  exact ⟨by rw [hnumeral]; exact scanNumber_ofInt n, by rw [hnumeral]; exact number?_intToken h⟩

/-- A value as records hold them: the members of an object are sorted, and numbers are read back. -/
inductive Regular : Json → Prop where
  | null : Regular .null
  | bool (b : Bool) : Regular (.bool b)
  | number {n : Number} (h : ReadsBack n) : Regular (.number n)
  | string (s : String) : Regular (.string s)
  | array {items : List Json} (h : ∀ item ∈ items, Regular item) : Regular (.array items)
  | object {members : List (String × Json)} (hsorted : SortedKeys members)
      (h : ∀ member ∈ members, Regular member.2) : Regular (.object members)

/-- The tree of a value. -/
def Raw.ofJson : Json → Raw
  | .null => .null
  | .bool b => .bool b
  | .number n => .number (numeral n)
  | .string s => .string (escape s)
  | .array items => .array (items.map ofJson)
  | .object members => .object (members.map fun member => (escape member.1, ofJson member.2))
decreasing_by
  · have := List.sizeOf_lt_of_mem ‹_ ∈ items›
    simp only [Json.array.sizeOf_spec]
    omega
  · have := List.sizeOf_lt_of_mem ‹member ∈ members›
    have : sizeOf member.2 < sizeOf member := by
      obtain ⟨name, value⟩ := member
      simp only [Prod.mk.sizeOf_spec]
      omega
    simp only [Json.object.sizeOf_spec]
    omega

/-! ## On one line -/

theorem readsItems_compactItems {items : List Json}
    (h : ∀ item ∈ items, Reads item.compactChars (.ofJson item)) (hne : items ≠ []) :
    ReadsItems (compactItems items) (items.map .ofJson) := by
  induction items with
  | nil => exact absurd rfl hne
  | cons item items ih =>
      have hitem := h item List.mem_cons_self
      match items with
      | [] => simpa [compactItems] using @ReadsItems.last _ [] _ hitem nofun
      | next :: items =>
          exact ReadsItems.cons hitem
            (ih (fun item hmem => h item (List.mem_cons_of_mem _ hmem)) nofun)

theorem readsMembers_compactMembers {members : List (String × Json)}
    (h : ∀ member ∈ members, Reads member.2.compactChars (.ofJson member.2)) (hne : members ≠ []) :
    ReadsMembers (compactMembers members)
      (members.map fun member => (escape member.1, .ofJson member.2)) := by
  induction members with
  | nil => exact absurd rfl hne
  | cons member members ih =>
      obtain ⟨name, value⟩ := member
      have hmember := @ReadsMember.intro [] _ [] _ [] _ nofun (isBody_escape name) nofun
        (h (name, value) List.mem_cons_self) nofun
      match members with
      | [] => simpa [compactMembers, quote] using ReadsMembers.last hmember
      | next :: members =>
          have hrest := ih (fun member hmem => h member (List.mem_cons_of_mem _ hmem)) nofun
          simpa [compactMembers, quote] using ReadsMembers.cons hmember hrest

/-- **The form on one line reads as the tree of the value.** -/
theorem reads_compactChars (value : Json) : Reads value.compactChars (.ofJson value) := by
  induction value using Json.recursion with
  | null => rw [compactChars, Raw.ofJson]; exact reads_word (by simp)
  | bool b => cases b <;> (rw [compactChars, Raw.ofJson]; exact reads_word (by simp))
  | number n => rw [compactChars, Raw.ofJson]; exact reads_numeral (scanNumber_text n)
  | string s => rw [compactChars, Raw.ofJson]; exact reads_quote s
  | array items ih =>
      rw [compactChars, Raw.ofJson]
      match items with
      | [] => exact reads_array_nil
      | item :: items => exact .array (readsItems_compactItems ih nofun)
  | object members ih =>
      rw [compactChars, Raw.ofJson]
      match members with
      | [] => exact @reads_object_nil [] nofun
      | member :: members => exact .object (readsMembers_compactMembers ih nofun)

/-! ## On many lines -/

theorem readsItems_prettyItems {level : Nat} {items : List Json}
    (h : ∀ item ∈ items, Reads (prettyChars (level + 1) item) (.ofJson item)) (hne : items ≠ []) :
    ReadsItems (prettyItems level items) (items.map .ofJson) := by
  induction items with
  | nil => exact absurd rfl hne
  | cons item items ih =>
      have hitem := (h item List.mem_cons_self).blanks (blanks_newLine (level + 1))
      match items with
      | [] => exact ReadsItems.last hitem (blanks_newLine level)
      | next :: items =>
          exact ReadsItems.cons hitem
            (ih (fun item hmem => h item (List.mem_cons_of_mem _ hmem)) nofun)

theorem readsMembers_prettyMembers {level : Nat} {members : List (String × Json)}
    (h : ∀ member ∈ members, Reads (prettyChars (level + 1) member.2) (.ofJson member.2))
    (hne : members ≠ []) :
    ReadsMembers (prettyMembers level members)
      (members.map fun member => (escape member.1, .ofJson member.2)) := by
  induction members with
  | nil => exact absurd rfl hne
  | cons member members ih =>
      have hblank : Blanks [' '] := by simp [Blanks, isSpace]
      have hvalue := (h member List.mem_cons_self).blanks hblank
      obtain ⟨name, value⟩ := member
      match members with
      | [] =>
          have hmember := @ReadsMember.intro _ _ [] _ _ _ (blanks_newLine (level + 1))
            (isBody_escape name) nofun hvalue (blanks_newLine level)
          simpa [prettyMembers, quote] using ReadsMembers.last hmember
      | next :: members =>
          have hmember := @ReadsMember.intro _ _ [] _ [] _ (blanks_newLine (level + 1))
            (isBody_escape name) nofun hvalue nofun
          have hrest := ih (fun member hmem => h member (List.mem_cons_of_mem _ hmem)) nofun
          simpa [prettyMembers, quote] using ReadsMembers.cons hmember hrest

/-- **The form on many lines reads as the tree of the value**, at every level. -/
theorem reads_prettyChars (value : Json) (level : Nat) :
    Reads (prettyChars level value) (.ofJson value) := by
  induction value using Json.recursion generalizing level with
  | null => rw [prettyChars, Raw.ofJson]; exact reads_word (by simp)
  | bool b => cases b <;> (rw [prettyChars, Raw.ofJson]; exact reads_word (by simp))
  | number n => rw [prettyChars, Raw.ofJson]; exact reads_numeral (scanNumber_text n)
  | string s => rw [prettyChars, Raw.ofJson]; exact reads_quote s
  | array items ih =>
      rw [Raw.ofJson]
      match items with
      | [] => exact reads_array_nil
      | item :: items =>
          exact .array (readsItems_prettyItems (fun item hitem => ih item hitem (level + 1)) nofun)
  | object members ih =>
      rw [Raw.ofJson]
      match members with
      | [] => exact @reads_object_nil [] nofun
      | member :: members =>
          exact .object (readsMembers_prettyMembers
            (fun member hmem => ih member hmem (level + 1)) nofun)

/-- A text that reads as a tree is, before blanks, a text of that tree. -/
theorem Reads.parse?_append {text blanks : List Char} {raw : Raw} (h : Reads text raw)
    (hblanks : Blanks blanks) : Raw.parse? (text ++ blanks) = some raw := by
  have hafter := @EndsNumeral.blanks blanks [] hblanks nofun
  have hskip := skipSpace_append hblanks []
  rw [List.append_nil] at hafter hskip
  rw [Raw.parse?, h blanks _ hafter (by rw [List.length_append]; omega)]
  simp only [hskip]
  rfl

/-- A text that reads as a tree is a text of that tree. -/
theorem Reads.parse? {text : List Char} {raw : Raw} (h : Reads text raw) :
    Raw.parse? text = some raw := by
  have hparse := @Reads.parse?_append text [] raw h nofun
  rwa [List.append_nil] at hparse

end Json

end SiteScript
