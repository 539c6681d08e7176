import SiteScript.Proofs.Script.Reading
import SiteScript.Script.Comments

/-!
# SiteScript.Proofs.Script.Stripping

Taking the comments out of a script and reading what is left.

1. Inside the braces of a block comments are passed over, so a block is read alike with and without
   them (`readBlockBody_uncommented`, `readModules_uncommented`).
2. `run:` and a `load:` without its brace look at the one line below them, comment or not.  A directive
   is read alike with and without comments exactly when what stands there makes no difference
   (`readKeyword_uncommented_iff`).
3. When that holds of every directive that is read (`Clear`), the whole script says the same
   (`readings_uncommented`).
-/

namespace SiteScript.Script

open Text

/-- The lines that are no comments. -/
def uncommented (lines : List (List Char)) : List (List Char) :=
  lines.filter fun line => !isComment line

theorem uncommented_cons_comment {line : List Char} (h : isComment line = true)
    (rest : List (List Char)) : uncommented (line :: rest) = uncommented rest := by
  simp [uncommented, h]

theorem uncommented_cons {line : List Char} (h : isComment line = false)
    (rest : List (List Char)) : uncommented (line :: rest) = line :: uncommented rest := by
  simp [uncommented, h]

/-- The lines of a stripped script, unless nothing is left of it. -/
theorem lines_stripComments {text : String} (h : uncommented (lines text) ≠ []) :
    lines (stripComments text) = uncommented (lines text) := by
  rw [lines, stripComments, String.toList_ofList]
  refine split_join h fun line hline => ?_
  exact not_mem_of_mem_split (List.mem_filter.1 hline).1

theorem uncommented_uncommented (lines : List (List Char)) :
    uncommented (uncommented lines) = uncommented lines := by
  simp [uncommented, List.filter_filter]

/-- A text none of whose lines is a comment is left as it is. -/
theorem stripComments_eq_self {text : String} (h : uncommented (lines text) = lines text) :
    stripComments text = text := by
  have hlines : ((lines text).filter fun line => !isComment line) = lines text := h
  rw [stripComments, hlines, lines, join_split, String.ofList_toList]

/-- What is left once the comments are taken out has none. -/
theorem uncommented_lines_stripComments (text : String) :
    uncommented (lines (stripComments text)) = lines (stripComments text) := by
  by_cases h : uncommented (lines text) = []
  · have hempty : stripComments text = "" := congrArg (fun kept => String.ofList (join '\n' kept)) h
    rw [hempty]
    rfl
  · rw [lines_stripComments h, uncommented_uncommented]

/-! ## Blocks -/

/-- What a comment line looks like once it is trimmed. -/
theorem trim_comment {line : List Char} (h : isComment line = true) :
    ∃ note, trim line = '#' :: note :=
  List.head?_eq_some_iff.1 (startsWithChar_iff.1 h)

theorem addBlockLine_comment (block : Block) (note : List Char) :
    addBlockLine block ('#' :: note) = block := rfl

theorem moduleName?_comment (note : List Char) : moduleName? ('#' :: note) = none := by
  have hquotes : without '"' ('#' :: note) = '#' :: without '"' note := rfl
  rw [moduleName?, hquotes, dropEndWhile_cons (by decide), trim_cons (by decide)]
  rfl

/-- A block is read alike with and without comments, and so is what follows it. -/
theorem readBlockBody_uncommented (block : Block) (lines : List (List Char)) :
    readBlockBody block (uncommented lines) =
      ((readBlockBody block lines).1, uncommented (readBlockBody block lines).2) := by
  induction lines generalizing block with
  | nil => rfl
  | cons line rest ih =>
    cases hcomment : isComment line with
    | true =>
      obtain ⟨note, htrim⟩ := trim_comment hcomment
      rw [uncommented_cons_comment hcomment, readBlockBody, htrim, addBlockLine_comment]
      exact ih block
    | false =>
      rw [uncommented_cons hcomment, readBlockBody, readBlockBody]
      split
      · rfl
      · exact ih _

theorem readModules_uncommented (modules : List String) (lines : List (List Char)) :
    readModules modules (uncommented lines) =
      ((readModules modules lines).1, uncommented (readModules modules lines).2) := by
  induction lines generalizing modules with
  | nil => rfl
  | cons line rest ih =>
    cases hcomment : isComment line with
    | true =>
      obtain ⟨note, htrim⟩ := trim_comment hcomment
      rw [uncommented_cons_comment hcomment, readModules, htrim, moduleName?_comment,
        Option.toList_none, List.append_nil]
      exact ih modules
    | false =>
      rw [uncommented_cons hcomment, readModules, readModules]
      split
      · rfl
      · exact ih _

theorem withBlock_uncommented (header : List Char) (rest : List (List Char))
    (make : Block → Action) :
    withBlock header (uncommented rest) make =
      ((withBlock header rest make).1, uncommented (withBlock header rest make).2) := by
  have hread : readBlock header (uncommented rest) =
      ((readBlock header rest).1, uncommented (readBlock header rest).2) := by
    rw [readBlock, readBlock]
    split
    · rfl
    · exact readBlockBody_uncommented _ _
  rw [withBlock, withBlock, hread]
  obtain ⟨_ | block, after⟩ := readBlock header rest <;> rfl

/-! ## The line below -/

/-- A line that says whether to wait for a command. -/
def tellsWait (line : List Char) : Bool := contains "\"wait\"".toList line

/-- A line that says `"true"`. -/
def tellsTrue (line : List Char) : Bool := contains "\"true\"".toList line

/-- A line with an opening brace and nothing else. -/
def isOpeningBrace (line : List Char) : Bool := trim line = ['{']

/-- A comment right below a directive makes no difference to it.  Most directives never look there;
below `run:` the comment must not say to wait, and below `run:` and below a `load:` without its brace
the first line that is no comment must not be the one that was looked for. -/
def Unnoticed (keyword : Keyword) (argument : List Char) : List (List Char) → Prop
  | [] => True
  | line :: below =>
    isComment line = true →
      match keyword with
      | .run =>
        (tellsWait line && tellsTrue line) = false ∧
          ∀ next ∈ (uncommented below).head?, tellsWait next = false
      | .load =>
        isOpeningBrace argument = true ∨ ∀ next ∈ (uncommented below).head?, isOpeningBrace next = false
      | _ => True

theorem unnoticed_of_not_comment {keyword : Keyword} {argument line : List Char}
    (h : isComment line = false) (below : List (List Char)) :
    Unnoticed keyword argument (line :: below) := by
  simp [Unnoticed, h]

/-- Only two directives look at the line below them. -/
theorem unnoticed_of_ne {keyword : Keyword} (hrun : keyword ≠ .run) (hload : keyword ≠ .load)
    (argument : List Char) (rest : List (List Char)) : Unnoticed keyword argument rest := by
  cases rest with
  | nil => trivial
  | cons line below => cases keyword <;> first | exact fun _ => trivial | contradiction

theorem readRun_cons (command : String) (line : List Char) (below : List (List Char)) :
    readRun command (line :: below) =
      if tellsWait line then (.act (.run command (tellsTrue line)), below)
      else (.act (.run command false), line :: below) := rfl

theorem readRun_uncommented_iff (command : String) (argument : List Char)
    (rest : List (List Char)) :
    readRun command (uncommented rest) =
        ((readRun command rest).1, uncommented (readRun command rest).2) ↔
      Unnoticed .run argument rest := by
  cases rest with
  | nil => exact iff_of_true rfl trivial
  | cons line below =>
    rw [readRun_cons]
    cases hcomment : isComment line with
    | false =>
      refine iff_of_true ?_ (unnoticed_of_not_comment hcomment below)
      rw [uncommented_cons hcomment, readRun_cons]
      cases tellsWait line <;> simp [uncommented_cons hcomment]
    | true =>
      simp only [Unnoticed, hcomment, forall_const, uncommented_cons_comment hcomment]
      cases hbelow : uncommented below with
      | nil =>
        cases tellsWait line <;> cases tellsTrue line <;>
          simp [readRun, uncommented_cons_comment hcomment, hbelow]
      | cons next after =>
        rw [readRun_cons]
        cases tellsWait line <;> cases tellsTrue line <;> cases hnext : tellsWait next <;>
          simp [uncommented_cons_comment hcomment, hbelow, hnext]

theorem readLoad_cons (argument line : List Char) (below : List (List Char)) :
    readLoad argument (line :: below) =
      if isOpeningBrace argument then readModules [] (line :: below)
      else if isOpeningBrace line then readModules [] below
      else (.error .loadBlockMissing, line :: below) := by
  simp [readLoad, isOpeningBrace]

/-- A block of modules that is open is not missing. -/
theorem readModules_ne_missing (modules : List String) (lines : List (List Char)) :
    (readModules modules lines).1 ≠ .error .loadBlockMissing := by
  induction lines generalizing modules with
  | nil => simp [readModules]
  | cons line rest ih =>
    rw [readModules]
    split
    · simp
    · exact ih _

/-- A comment is no opening brace. -/
theorem isOpeningBrace_comment {line : List Char} (h : isComment line = true) :
    isOpeningBrace line = false := by
  obtain ⟨note, htrim⟩ := trim_comment h
  simp [isOpeningBrace, htrim]

theorem readLoad_uncommented_iff (argument : List Char) (rest : List (List Char)) :
    readLoad argument (uncommented rest) =
        ((readLoad argument rest).1, uncommented (readLoad argument rest).2) ↔
      Unnoticed .load argument rest := by
  cases rest with
  | nil =>
    refine iff_of_true ?_ trivial
    rw [show uncommented [] = [] from rfl, readLoad]
    split <;> rfl
  | cons line below =>
    rw [readLoad_cons]
    cases hcomment : isComment line with
    | false =>
      refine iff_of_true ?_ (unnoticed_of_not_comment hcomment below)
      rw [uncommented_cons hcomment, readLoad_cons, ← uncommented_cons hcomment]
      cases isOpeningBrace argument <;> cases isOpeningBrace line <;>
        simp [readModules_uncommented]
    | true =>
      simp only [Unnoticed, hcomment, forall_const, isOpeningBrace_comment hcomment]
      cases hargument : isOpeningBrace argument with
      | true =>
        have hopen : readLoad argument (uncommented (line :: below)) =
            readModules [] (uncommented (line :: below)) :=
          if_pos (by simpa [isOpeningBrace] using hargument)
        simp [hopen, readModules_uncommented]
      | false =>
        rw [uncommented_cons_comment hcomment]
        cases hbelow : uncommented below with
        | nil =>
          have hmissing : readLoad argument [] = (.error .loadBlockMissing, []) :=
            if_neg (by simpa [isOpeningBrace] using hargument)
          simp [hmissing, uncommented_cons_comment hcomment, hbelow]
        | cons next after =>
          rw [readLoad_cons, hargument]
          cases hnext : isOpeningBrace next with
          | false => simp [uncommented_cons_comment hcomment, hbelow, hnext]
          | true =>
            refine iff_of_false (fun heq => ?_) (by simp [hnext])
            exact readModules_ne_missing [] after (by simpa using congrArg Prod.fst heq)

/-- A directive is read alike with and without comments, and so is what follows it, exactly when a
comment right below it makes no difference to it. -/
theorem readKeyword_uncommented_iff (keyword : Keyword) (line argument : List Char)
    (rest : List (List Char)) :
    readKeyword keyword line argument (uncommented rest) =
        ((readKeyword keyword line argument rest).1,
          uncommented (readKeyword keyword line argument rest).2) ↔
      Unnoticed keyword argument rest := by
  cases keyword
  case run =>
    rw [← readRun_uncommented_iff (textArgument argument)]
    simp [readKeyword, Prod.ext_iff]
  case load => exact readLoad_uncommented_iff argument rest
  all_goals
    exact iff_of_true (by simp only [readKeyword, withBlock_uncommented])
      (unnoticed_of_ne (by simp) (by simp) _ _)

/-! ## Whole scripts -/

/-- No comment makes a difference to any directive that is read from the lines. -/
inductive Clear : List (List Char) → Prop where
  | nil : Clear []
  | skip {line : List Char} {rest : List (List Char)} (hline : keyword? (trim line) = none)
      (hrest : Clear rest) : Clear (line :: rest)
  | directive {line argument : List Char} {keyword : Keyword} {rest : List (List Char)}
      (hline : keyword? (trim line) = some (keyword, argument))
      (hbelow : Unnoticed keyword argument rest)
      (hrest : Clear (readKeyword keyword (trim line) argument rest).2) : Clear (line :: rest)

/-- Whether a line begins a directive that looks at the line below it. -/
def looksBelow (line : List Char) : Bool :=
  match keyword? (trim line) with
  | some (.run, _) | some (.load, _) => true
  | _ => false

/-- Whether no comment stands right below a line that begins with `run:` or `load:`. -/
def commentsApart : List (List Char) → Bool
  | line :: next :: rest =>
    !(looksBelow line && isComment next) && commentsApart (next :: rest)
  | _ => true

theorem commentsApart_of_cons {line : List Char} {rest : List (List Char)}
    (h : commentsApart (line :: rest) = true) : commentsApart rest = true := by
  cases rest with
  | nil => rfl
  | cons next rest => exact (Bool.and_eq_true_iff.1 h).2

theorem commentsApart_of_suffix {lines rest : List (List Char)} (hrest : rest <:+ lines)
    (h : commentsApart lines = true) : commentsApart rest = true := by
  obtain ⟨taken, rfl⟩ := hrest
  induction taken with
  | nil => exact h
  | cons line taken ih => exact ih (commentsApart_of_cons h)

/-- A script is clear when it keeps its comments away from the lines below `run:` and `load:`. -/
theorem clear_of_commentsApart : ∀ {lines : List (List Char)}, commentsApart lines = true →
    Clear lines
  | [], _ => .nil
  | line :: rest, h => by
    match hline : keyword? (trim line) with
    | none => exact .skip hline (clear_of_commentsApart (commentsApart_of_cons h))
    | some (keyword, argument) =>
      have hbelow : Unnoticed keyword argument rest := by
        by_cases hlooks : keyword = .run ∨ keyword = .load
        · have hlooks : looksBelow line = true := by
            rw [looksBelow, hline]
            obtain rfl | rfl := hlooks <;> rfl
          cases rest with
          | nil => trivial
          | cons next rest =>
            refine unnoticed_of_not_comment ?_ rest
            simpa [commentsApart, hlooks] using (Bool.and_eq_true_iff.1 h).1
        · exact unnoticed_of_ne (fun h => hlooks (.inl h)) (fun h => hlooks (.inr h)) _ _
      have hsuffix := readKeyword_suffix keyword (trim line) argument rest
      exact .directive hline hbelow (clear_of_commentsApart
        (commentsApart_of_suffix hsuffix (commentsApart_of_cons h)))
termination_by lines => lines.length
decreasing_by
  · simp
  · exact Nat.lt_succ_of_le hsuffix.length_le

/-- Lines that are clear say the same without their comments. -/
theorem readings_uncommented {lines : List (List Char)} (h : Clear lines) :
    readings (uncommented lines) = readings lines := by
  induction h with
  | nil => rfl
  | @skip line rest hline _ ih =>
    rw [readings_of_keyword?_none hline]
    cases hcomment : isComment line with
    | true => rw [uncommented_cons_comment hcomment, ih]
    | false => rw [uncommented_cons hcomment, readings_of_keyword?_none hline, ih]
  | @directive line argument keyword rest hline hbelow _ ih =>
    have hcomment : isComment line = false := by
      cases hcomment : isComment line with
      | false => rfl
      | true => rw [keyword?_comment hcomment] at hline; cases hline
    rw [uncommented_cons hcomment, readings_of_keyword? hline, readings_of_keyword? hline,
      (readKeyword_uncommented_iff keyword (trim line) argument rest).2 hbelow, ih]

/-- A clear script says the same after its comments are taken out. -/
theorem readings_stripComments {text : String} (h : Clear (lines text)) :
    readings (lines (stripComments text)) = readings (lines text) := by
  rw [← readings_uncommented h]
  by_cases hnil : uncommented (lines text) = []
  · have hempty : lines (stripComments text) = [[]] := by
      rw [lines, stripComments, String.toList_ofList, ← uncommented, hnil]
      rfl
    rw [hempty, hnil, readings_empty_line, readings_nil]
  · rw [lines_stripComments hnil]

end SiteScript.Script
