import Mathlib.Data.List.Induction
import Mathlib.Data.Nat.Find
import SiteScript.Error
import SiteScript.Proofs.Script.Appending

/-!
# SiteScript.Proofs.Script.Checking

What the check of a script reports, said of the lines as they stand.

1. A line offends when more braces are closed up to it than are opened (`openAfter`), or when it is a
   keyword alone with no block on the line below (`Dangles`).
2. The check passes over lines that do not offend, and only counts their braces
   (`checkLines_append`).  So it stops at the first one that does, if there is any
   (`Verdict`, `verdict_iff`).
3. In a script that passes no line offends and nothing is open at the end (`check_eq_ok_iff`).  So
   scripts that pass can be put one below the other (`check_append`).
4. A comment is to the check as any other line, while reading passes comments over.  It is no keyword
   alone (`bareKeyword?_comment`), so there are two ways for it to make a difference: its braces are
   counted, and it can stand between a keyword and the block below (`cutsOff`).  Both happen
   (`comments_misjudged`).  Where neither does, a script passes exactly if it does without its comments
   (`check_stripComments_iff`). -/

namespace SiteScript

namespace Script

open Text

/-! ## Braces that are open -/

/-- A line with a closing brace somewhere. -/
def closesBrace (line : List Char) : Bool := line.contains '}'

/-- How many braces are open after the first so many lines: the lines with an opening brace, less
those with a closing one. -/
def openAfter (lines : List (List Char)) (count : Nat) : Int :=
  ((lines.take count).countP opensBrace : Int) - (lines.take count).countP closesBrace

/-- Braces are counted once for a line. -/
theorem braces_eq_countP (lines : List (List Char)) :
    braces lines = (lines.countP opensBrace : Int) - lines.countP closesBrace := by
  induction lines with
  | nil => rfl
  | cons line rest ih =>
      rw [braces_cons, ih, List.countP_cons, List.countP_cons, braceChange, opensBrace, closesBrace]
      split <;> split <;> push_cast <;> omega

theorem openAfter_eq_braces (lines : List (List Char)) (count : Nat) :
    openAfter lines count = braces (lines.take count) :=
  (braces_eq_countP _).symm

/-- What is open after a line is what was open above it, changed by the line. -/
theorem openAfter_append_cons (before : List (List Char)) (line : List Char)
    (rest : List (List Char)) :
    openAfter (before ++ line :: rest) (before.length + 1) = braces before + braceChange line := by
  rw [openAfter_eq_braces, List.take_length_add_append, braces_append]
  simp

/-! ## Keywords alone -/

/-- A line is a keyword alone: a word, a colon and nothing but blanks. -/
structure IsBareKeyword (word line : List Char) : Prop where
  ne_nil : word ≠ []
  letters : ∀ c ∈ word, isAlphanumeric c = true ∨ c = '_'
  line_eq : ∃ blanks, (∀ c ∈ blanks, isBlank c = true) ∧ trim line = word ++ ':' :: blanks

theorem bareKeyword?_eq_some_iff {word line : List Char} :
    bareKeyword? line = some word ↔ IsBareKeyword word line := by
  have hcolon : isAlphanumeric ':' = false := by decide +kernel
  rw [bareKeyword?]
  constructor
  · intro h
    split at h
    · cases h
    next keyword value hcut =>
    split at h
    next hword =>
      cases h
      simp only [Bool.and_eq_true, isWord, isBlankText_iff, List.all_eq_true, Bool.or_eq_true,
        beq_iff_eq, Bool.not_eq_true', List.isEmpty_eq_false_iff] at hword
      obtain ⟨⟨hne, hletters⟩, hblank⟩ := hword
      exact ⟨hne, hletters, value, hblank, eq_of_cut? hcut⟩
    next => cases h
  · rintro ⟨hne, hletters, blanks, hblank, hline⟩
    have hnot : ':' ∉ word := by
      intro hmem
      rcases hletters ':' hmem with h | h
      · rw [hcolon] at h
        cases h
      · cases h
    have hword : isWord word = true := by
      simpa [isWord, hne] using hletters
    rw [hline, cut?_append hnot]
    simp [hword, isBlankText_iff.2 hblank]

/-- A line is a keyword alone, and the line below does not begin with an opening brace, or there is
none. -/
structure Dangles (lines : List (List Char)) (i : Nat) (word : List Char) : Prop where
  keyword : ∃ line, lines[i]? = some line ∧ IsBareKeyword word line
  noBlock : ∀ next, lines[i + 1]? = some next → (trim next).head? ≠ some '{'

theorem dangles_append_cons_iff {before rest : List (List Char)} {line word : List Char} :
    Dangles (before ++ line :: rest) before.length word ↔
      bareKeyword? line = some word ∧ opensBlock rest = false := by
  have hline : (before ++ line :: rest)[before.length]? = some line := by simp
  have hnext : (before ++ line :: rest)[before.length + 1]? = rest.head? := by
    rw [List.getElem?_append_right (by omega), List.head?_eq_getElem?]
    simp
  have hopens : opensBlock rest = false ↔
      ∀ next, rest.head? = some next → (trim next).head? ≠ some '{' := by
    cases rest with
    | nil => simp [opensBlock]
    | cons next rest =>
        rw [opensBlock, ← Bool.not_eq_true, startsWithChar_iff]
        simp
  rw [bareKeyword?_eq_some_iff, hopens]
  constructor
  · rintro ⟨⟨line', hget, hkeyword⟩, hblock⟩
    obtain rfl := Option.some.inj (hline.symm.trans hget)
    exact ⟨hkeyword, fun next h => hblock next (hnext.trans h)⟩
  · rintro ⟨hkeyword, hblock⟩
    exact ⟨⟨line, hline, hkeyword⟩, fun next h => hblock next (hnext.symm.trans h)⟩

/-! ## The first line that offends -/

/-- A line offends: it closes more than is open, or it is a keyword alone without a block. -/
inductive Offends (lines : List (List Char)) (i : Nat) : Prop where
  | brace (hline : i < lines.length) (hopen : openAfter lines (i + 1) < 0)
  | keyword {word : List Char} (h : Dangles lines i word)

theorem Offends.lt_length {lines : List (List Char)} {i : Nat} (h : Offends lines i) :
    i < lines.length := by
  cases h with
  | brace hline => exact hline
  | keyword h =>
      obtain ⟨⟨line, hget, -⟩, -⟩ := h
      exact (List.getElem?_eq_some_iff.1 hget).1

/-- What the check says of the first line that is left. -/
theorem offends_append_cons_iff {before rest : List (List Char)} {line : List Char} :
    Offends (before ++ line :: rest) before.length ↔
      braces before + braceChange line < 0 ∨
        ∃ word, bareKeyword? line = some word ∧ opensBlock rest = false := by
  constructor
  · rintro (⟨-, hopen⟩ | hdangles)
    · exact .inl (openAfter_append_cons before line rest ▸ hopen)
    · exact .inr ⟨_, dangles_append_cons_iff.1 hdangles⟩
  · rintro (hopen | ⟨word, hdangles⟩)
    · exact .brace (by simp) (openAfter_append_cons before line rest ▸ hopen)
    · exact .keyword (dangles_append_cons_iff.2 hdangles)

/-- The check passes over a line that does not offend. -/
theorem checkLines_cons {before rest : List (List Char)} {line : List Char}
    (h : ¬ Offends (before ++ line :: rest) before.length) (number : Nat) :
    checkLines number (braces before) (line :: rest) =
      checkLines (number + 1) (braces before + braceChange line) rest := by
  rw [offends_append_cons_iff, not_or, not_exists] at h
  obtain ⟨hopen, hkeyword⟩ := h
  rw [checkLines, if_neg hopen]
  split
  next word hword =>
    have hopens : opensBlock rest = true := by simpa [hword] using hkeyword word
    rw [if_pos hopens]
  next => rfl

/-- **The check passes over lines that do not offend**, and counts their braces. -/
theorem checkLines_append {before rest : List (List Char)}
    (h : ∀ i < before.length, ¬ Offends (before ++ rest) i) :
    checkLines 1 0 (before ++ rest) = checkLines (before.length + 1) (braces before) rest := by
  induction before using List.reverseRecOn generalizing rest with
  | nil => rfl
  | append_singleton before line ih =>
      rw [List.append_assoc, List.singleton_append] at h ⊢
      rw [List.length_append, List.length_singleton] at h ⊢
      rw [ih fun i hi => h i (Nat.lt_succ_of_lt hi), checkLines_cons (h _ (Nat.lt_succ_self _)),
        braces_append]
      simp

/-- What is reported of a script with these lines. -/
inductive Verdict (file : String) (lines : List (List Char)) : Except Error Unit → Prop where
  /-- The first line that offends closes more than is open. -/
  | brace {i : Nat} (hfirst : ∀ j < i, ¬ Offends lines j) (hline : i < lines.length)
      (hopen : openAfter lines (i + 1) < 0) :
      Verdict file lines (.error (.syntaxCheck file (i + 1) "Mismatched curly braces \x7b\x7d."))
  /-- The first line that offends is a keyword alone. -/
  | keyword {i : Nat} {word : List Char} (hfirst : ∀ j < i, ¬ Offends lines j)
      (hopen : 0 ≤ openAfter lines (i + 1)) (h : Dangles lines i word) :
      Verdict file lines (.error (.syntaxCheck file (i + 1)
        ("Keyword '" ++ String.ofList word ++ "' is not followed by a value or a block.")))
  /-- No line offends, but the braces do not come out even. -/
  | uneven (hnone : ∀ i, ¬ Offends lines i) (hopen : openAfter lines lines.length ≠ 0) :
      Verdict file lines
        (.error (.syntaxCheck file lines.length "Mismatched curly braces \x7b\x7d."))
  | passes (hnone : ∀ i, ¬ Offends lines i) (hopen : openAfter lines lines.length = 0) :
      Verdict file lines (.ok ())

/-- The check comes to the first line that offends. -/
theorem checkLines_of_first {lines : List (List Char)} {i : Nat} (hline : i < lines.length)
    (hfirst : ∀ j < i, ¬ Offends lines j) :
    ∃ before line rest, lines = before ++ line :: rest ∧ before.length = i ∧
      checkLines 1 0 lines = checkLines (i + 1) (braces before) (line :: rest) := by
  have hlines : lines = lines.take i ++ lines[i] :: lines.drop (i + 1) := by
    rw [← List.drop_eq_getElem_cons hline, List.take_append_drop]
  have hlength : (lines.take i).length = i := List.length_take_of_le (Nat.le_of_lt hline)
  have happend := @checkLines_append (lines.take i) (lines[i] :: lines.drop (i + 1))
  rw [← hlines, hlength] at happend
  exact ⟨_, _, _, hlines, hlength, happend hfirst⟩

/-- Lines of which none offends are counted to the end. -/
theorem checkLines_of_not_offends {lines : List (List Char)} (h : ∀ i, ¬ Offends lines i) :
    checkLines 1 0 lines = if openAfter lines lines.length = 0 then .ok ()
      else .error ⟨lines.length, .unbalanced⟩ := by
  have happend := @checkLines_append lines [] (by simpa using fun i _ => h i)
  rw [List.append_nil] at happend
  rw [happend, checkLines, openAfter_eq_braces, List.take_length, Nat.add_sub_cancel]

theorem Verdict.eq {file code : String} {result : Except Error Unit}
    (h : Verdict file (lines code) result) : (check code).mapError (.ofCheck file) = result := by
  rw [check]
  generalize lines code = lines at h ⊢
  cases h with
  | brace hfirst hline hopen =>
      obtain ⟨before, line, rest, rfl, rfl, hcheck⟩ := checkLines_of_first hline hfirst
      rw [openAfter_append_cons] at hopen
      rw [hcheck, checkLines, if_pos hopen]
      rfl
  | keyword hfirst hopen hdangles =>
      obtain ⟨before, line, rest, rfl, rfl, hcheck⟩ :=
        checkLines_of_first (Offends.keyword hdangles).lt_length hfirst
      obtain ⟨hword, hblock⟩ := dangles_append_cons_iff.1 hdangles
      rw [openAfter_append_cons] at hopen
      rw [hcheck, checkLines, if_neg (Int.not_lt.2 hopen), hword, hblock]
      rfl
  | uneven hnone hopen =>
      rw [checkLines_of_not_offends hnone, if_neg hopen]
      rfl
  | passes hnone hopen =>
      rw [checkLines_of_not_offends hnone, if_pos hopen]
      rfl

/-- Something is reported of every script. -/
theorem exists_verdict (file : String) (lines : List (List Char)) :
    ∃ result, Verdict file lines result := by
  by_cases hoffends : ∃ i, Offends lines i
  · classical
    have hfirst := fun j => @Nat.find_min _ _ hoffends j
    have hfound := Nat.find_spec hoffends
    by_cases hopen : openAfter lines (Nat.find hoffends + 1) < 0
    · exact ⟨_, .brace hfirst hfound.lt_length hopen⟩
    · obtain ⟨-, hopen'⟩ | hdangles := hfound
      · exact absurd hopen' hopen
      · exact ⟨_, .keyword hfirst (Int.not_lt.1 hopen) hdangles⟩
  · have hnone := not_exists.1 hoffends
    by_cases hopen : openAfter lines lines.length = 0
    · exact ⟨_, .passes hnone hopen⟩
    · exact ⟨_, .uneven hnone hopen⟩

theorem verdict_iff {file code : String} {result : Except Error Unit} :
    Verdict file (lines code) result ↔ (check code).mapError (.ofCheck file) = result := by
  refine ⟨Verdict.eq, ?_⟩
  rintro rfl
  obtain ⟨result, h⟩ := exists_verdict file (lines code)
  rwa [h.eq]

/-! ## Scripts that pass -/

/-- A script passes when no line offends and nothing is open at its end. -/
theorem check_eq_ok_iff {code : String} :
    check code = .ok () ↔
      (∀ i, ¬ Offends (lines code) i) ∧ openAfter (lines code) (lines code).length = 0 := by
  rw [← mapError_eq_ok_iff (Error.ofCheck ""), ← verdict_iff]
  constructor
  · rintro ⟨⟩
    exact ⟨‹_›, ‹_›⟩
  · rintro ⟨hnone, hopen⟩
    exact .passes hnone hopen

section Append

variable {first second : List (List Char)} {i : Nat}

/-- A line that offends with more lines below the script offends without them. -/
theorem Offends.of_append_left (h : Offends (first ++ second) i) (hi : i < first.length) :
    Offends first i := by
  cases h with
  | brace _ hopen =>
      refine .brace hi ?_
      rwa [openAfter, List.take_append_of_le_length hi] at hopen
  | keyword hdangles =>
      obtain ⟨⟨line, hget, hkeyword⟩, hblock⟩ := hdangles
      refine .keyword ⟨⟨line, ?_, hkeyword⟩, fun next hnext => hblock next ?_⟩
      · rwa [List.getElem?_append_left hi] at hget
      · rwa [List.getElem?_append_left (List.getElem?_eq_some_iff.1 hnext).1]

/-- A line that offends below a script with nothing open offends alone. -/
theorem Offends.of_append_right (hfirst : openAfter first first.length = 0)
    (h : Offends (first ++ second) (first.length + i)) : Offends second i := by
  have hget : ∀ j, (first ++ second)[first.length + j]? = second[j]? := by
    intro j
    rw [List.getElem?_append_right (by omega), Nat.add_sub_cancel_left]
  cases h with
  | brace hline hopen =>
      refine .brace (by simpa using hline) ?_
      rw [openAfter_eq_braces, List.take_length] at hfirst
      rw [openAfter_eq_braces, Nat.add_assoc, List.take_length_add_append, braces_append,
        hfirst, Int.zero_add] at hopen
      rwa [openAfter_eq_braces]
  | keyword hdangles =>
      obtain ⟨⟨line, hline, hkeyword⟩, hblock⟩ := hdangles
      exact .keyword ⟨⟨line, (hget i).symm.trans hline, hkeyword⟩,
        fun next hnext => hblock next ((hget (i + 1)).trans hnext)⟩

end Append

/-- Scripts that pass can be put one below the other. -/
theorem check_append {first second : String} (hfirst : check first = .ok ())
    (hsecond : check second = .ok ()) : check (first ++ "\n" ++ second) = .ok () := by
  rw [check_eq_ok_iff] at hfirst hsecond ⊢
  rw [lines_append]
  obtain ⟨hquiet, hopen⟩ := hfirst
  obtain ⟨hquiet', hopen'⟩ := hsecond
  constructor
  · intro i hoffends
    by_cases hi : i < (lines first).length
    · exact hquiet i (hoffends.of_append_left hi)
    · obtain ⟨j, rfl⟩ := Nat.exists_eq_add_of_le (Nat.not_lt.1 hi)
      exact hquiet' j (hoffends.of_append_right hopen)
  · rw [openAfter_eq_braces, List.take_length] at hopen hopen' ⊢
    rw [braces_append, hopen, hopen']
    rfl

/-- **The check reports the first line that offends**: one with which more is closed than open, by its
number and the message about braces, or a keyword alone, by its number and the message that names
the keyword.  If no line offends but the braces do not come out even, it reports the last line,
and otherwise nothing.  A script that passes can be put below another one. -/
theorem check_reports_first_offence (file code : String) :
    (∀ result, (check code).mapError (.ofCheck file) = result ↔
      Verdict file (lines code) result) ∧
    ∀ other, check code = .ok () → check other = .ok () →
      check (code ++ "\n" ++ other) = .ok () :=
  ⟨fun _ => verdict_iff.symm, fun _ => check_append⟩

/-- A keyword on the second line, and a brace too many on the third one. -/
example : check "VB: A: \"1\"\nload: \n\x7d" = .error ⟨2, .dangling "load"⟩ := by decide +kernel

/-! ## Comments among the lines -/

/-- A comment is no keyword alone. -/
theorem bareKeyword?_comment {line : List Char} (h : isComment line = true) :
    bareKeyword? line = none := by
  have hmark : isAlphanumeric '#' = false := by decide +kernel
  obtain ⟨note, htrim⟩ := trim_comment h
  refine Option.eq_none_iff_forall_ne_some.2 fun word hword => ?_
  obtain ⟨hne, hletters, blanks, -, hline⟩ := bareKeyword?_eq_some_iff.1 hword
  obtain ⟨c, rest, rfl⟩ := List.exists_cons_of_ne_nil hne
  obtain rfl : '#' = c := (List.cons.inj (htrim.symm.trans hline)).1
  rcases hletters '#' List.mem_cons_self with hletter | hunderscore
  · rw [hmark] at hletter
    cases hletter
  · cases hunderscore

/-- A comment does not begin a block. -/
theorem opensBlock_comment {line : List Char} (h : isComment line = true)
    (rest : List (List Char)) : opensBlock (line :: rest) = false := by
  obtain ⟨note, htrim⟩ := trim_comment h
  rw [opensBlock, htrim]
  rfl

/-- Whether a comment stands right below a keyword alone, and the block of the keyword below that. -/
def cutsOff : List (List Char) → Bool
  | line :: comment :: below =>
    ((bareKeyword? line).isSome && isComment comment && opensBlock (uncommented below)) ||
      cutsOff (comment :: below)
  | _ => false

theorem cutsOff_of_cons {line : List Char} {rest : List (List Char)}
    (h : cutsOff (line :: rest) = false) : cutsOff rest = false := by
  cases rest with
  | nil => rfl
  | cons next below => exact (Bool.or_eq_false_iff.1 h).2

/-- A keyword that is not cut off finds its block with and without comments, or in neither case. -/
theorem opensBlock_uncommented {line word : List Char} {rest : List (List Char)}
    (hword : bareKeyword? line = some word) (h : cutsOff (line :: rest) = false) :
    opensBlock (uncommented rest) = opensBlock rest := by
  cases rest with
  | nil => rfl
  | cons next below =>
      cases hcomment : isComment next with
      | false =>
          rw [uncommented_cons hcomment]
          rfl
      | true =>
          have hbelow := (Bool.or_eq_false_iff.1 h).1
          rw [hword, hcomment] at hbelow
          rw [uncommented_cons_comment hcomment, opensBlock_comment hcomment]
          simpa using hbelow

/-! ## The check with and without comments -/

/-- Lines pass the check exactly if they do without their comments, when these leave the braces even
and cut no keyword off. -/
theorem checkLines_uncommented_iff {lines : List (List Char)} {depth : Int} (hdepth : 0 ≤ depth)
    (hbraces : ∀ line ∈ lines, isComment line = true → braceChange line = 0)
    (hblocks : cutsOff lines = false) (number number' : Nat) :
    checkLines number depth lines = .ok () ↔
      checkLines number' depth (uncommented lines) = .ok () := by
  induction lines generalizing depth number number' with
  | nil =>
      rw [show uncommented [] = [] from rfl, checkLines, checkLines]
      split <;> simp
  | cons line rest ih =>
      obtain ⟨hline, hrest⟩ := List.forall_mem_cons.1 hbraces
      have hbelow := cutsOff_of_cons hblocks
      cases hcomment : isComment line with
      | true =>
          rw [uncommented_cons_comment hcomment, checkLines, hline hcomment, Int.add_zero,
            if_neg (Int.not_lt.2 hdepth), bareKeyword?_comment hcomment]
          exact ih hdepth hrest hbelow _ _
      | false =>
          rw [uncommented_cons hcomment, checkLines, checkLines]
          by_cases hopen : depth + braceChange line < 0
          · rw [if_pos hopen, if_pos hopen]
            simp
          · rw [if_neg hopen, if_neg hopen]
            have hchecked := ih (Int.not_lt.1 hopen) hrest hbelow (number + 1) (number' + 1)
            split
            next word hword =>
              rw [opensBlock_uncommented hword hblocks]
              split
              · exact hchecked
              · simp
            next => exact hchecked

/-- A comment has both kinds of braces, or none: it leaves the count as it is. -/
theorem braceChange_eq_zero {line : List Char} (h : opensBrace line = closesBrace line) :
    braceChange line = 0 := by
  rw [opensBrace, closesBrace] at h
  rw [braceChange, h]
  exact Int.sub_self _

/-- **Comments make no difference to the check** when each has braces of both kinds or of none, and
none cuts a keyword off from its block: a script passes exactly if it does without its comments. -/
theorem check_stripComments_iff {code : String}
    (hbraces : ∀ line ∈ lines code, isComment line = true → opensBrace line = closesBrace line)
    (hblocks : cutsOff (lines code) = false) :
    check code = .ok () ↔ check (stripComments code) = .ok () := by
  have hstripped := checkLines_uncommented_iff (Int.le_refl 0)
    (fun line hline hcomment => braceChange_eq_zero (hbraces line hline hcomment)) hblocks 1 1
  rw [check, hstripped, check]
  by_cases hnil : uncommented (lines code) = []
  · -- nothing is left, which is one empty line
    have hempty : lines (stripComments code) = [[]] := by
      rw [lines, stripComments, String.toList_ofList, ← uncommented, hnil]
      rfl
    rw [hempty, hnil]
    rfl
  · rw [lines_stripComments hnil]

/-- A script with comments above a keyword, in its block and below it; one has braces. -/
def notedScript : String :=
  "# pages of the \x7bshop\x7d\nstartWEB:\n\x7b\n  # the port\n  \"port\": \"8080\"\n\x7d\n# end"

/-- A script with a comment below a keyword that has no block. -/
def blocklessScript : String := "startWEB:\n# no block\nVB: A: \"1\""

/-- The first script passes with and without its comments, the second one in neither case. -/
theorem check_stripComments_noted :
    (check notedScript = .ok () ∧ check (stripComments notedScript) = .ok ()) ∧
      check blocklessScript ≠ .ok () ∧ check (stripComments blocklessScript) ≠ .ok () := by
  have hnoted := @check_stripComments_iff notedScript (by decide +kernel) (by decide +kernel)
  have hblockless := @check_stripComments_iff blocklessScript (by decide +kernel) (by decide +kernel)
  have hpasses : check notedScript = .ok () := by decide +kernel
  have hfails : check blocklessScript ≠ .ok () := by decide +kernel
  exact ⟨⟨hpasses, hnoted.1 hpasses⟩, hfails, fun h => hfails (hblockless.2 h)⟩

/-- A brace in a comment breaks a script that is right, and so does a comment above a block; and a brace
in a comment hides one that closes nothing. -/
theorem comments_misjudged :
    (check "# \x7b" = .error ⟨1, .unbalanced⟩ ∧ check (stripComments "# \x7b") = .ok ()) ∧
    (check "startWEB:\n# pages\n\x7b\n\x7d" = .error ⟨1, .dangling "startWEB"⟩ ∧
      check (stripComments "startWEB:\n# pages\n\x7b\n\x7d") = .ok ()) ∧
    (check "# \x7b\n\x7d" = .ok () ∧
      check (stripComments "# \x7b\n\x7d") = .error ⟨1, .unbalanced⟩) := by
  decide +kernel

end Script

end SiteScript
