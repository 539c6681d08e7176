import Mathlib.Data.List.Forall2
import SiteScript.Proofs.Script.Stripping
import SiteScript.Script.Check

/-!
# SiteScript.Proofs.Script.Blanks

Blanks at the ends of lines make no difference.

1. A text has the same parts after trimming, if they neither begin nor end with a blank
   (`Text.contains_trim`).
2. So every reader of lines reads the trimmed lines as it reads the lines themselves, and leaves the
   trimmed rest (`readKeyword_trim`); as many lines are left, and so the places of faults are the same
   (`results_trim`).  The check finds the same in trimmed lines (`checkLines_trim`), and the same ones
   are comments.
3. A script whose line breaks are CRLF is such a script (`map_trim_lines_crlf`).  Two scripts with the
   same trimmed lines are alike in all that is read, reported and stripped
   (`blanks_make_no_difference`). -/

namespace SiteScript

namespace Script

open Text

/-! ## Readers of trimmed lines -/

theorem readBlockBody_trim (block : Block) (lines : List (List Char)) :
    readBlockBody block (lines.map trim) =
      ((readBlockBody block lines).1, (readBlockBody block lines).2.map trim) := by
  induction lines generalizing block with
  | nil => rfl
  | cons line rest ih =>
      rw [List.map_cons, readBlockBody, readBlockBody, trim_trim]
      split
      · rfl
      · exact ih _

theorem readModules_trim (modules : List String) (lines : List (List Char)) :
    readModules modules (lines.map trim) =
      ((readModules modules lines).1, (readModules modules lines).2.map trim) := by
  induction lines generalizing modules with
  | nil => rfl
  | cons line rest ih =>
      rw [List.map_cons, readModules, readModules, trim_trim]
      split
      · rfl
      · exact ih _

theorem withBlock_trim (header : List Char) (rest : List (List Char)) (make : Block → Action) :
    withBlock header (rest.map trim) make =
      ((withBlock header rest make).1, (withBlock header rest make).2.map trim) := by
  have hread : readBlock header (rest.map trim) =
      ((readBlock header rest).1, (readBlock header rest).2.map trim) := by
    rw [readBlock, readBlock]
    split
    · rfl
    · exact readBlockBody_trim _ _
  rw [withBlock, withBlock, hread]
  obtain ⟨_ | block, after⟩ := readBlock header rest <;> rfl

theorem readLoad_trim (argument : List Char) (rest : List (List Char)) :
    readLoad argument (rest.map trim) =
      ((readLoad argument rest).1, (readLoad argument rest).2.map trim) := by
  rw [readLoad.eq_def, readLoad.eq_def]
  split
  · exact readModules_trim _ _
  · cases rest with
    | nil => rfl
    | cons line below =>
        rw [List.map_cons]
        simp only [trim_trim]
        split
        · exact readModules_trim _ _
        · rfl

theorem readRun_trim (command : String) (rest : List (List Char)) :
    readRun command (rest.map trim) =
      ((readRun command rest).1, (readRun command rest).2.map trim) := by
  cases rest with
  | nil => rfl
  | cons line below =>
      have hwait : tellsWait (trim line) = tellsWait line :=
        contains_trim (by decide) (by decide) line
      have htrue : tellsTrue (trim line) = tellsTrue line :=
        contains_trim (by decide) (by decide) line
      rw [List.map_cons, readRun_cons, readRun_cons, hwait, htrue]
      split <;> rfl

/-- A directive is read alike from trimmed lines, and leaves them trimmed. -/
theorem readKeyword_trim (keyword : Keyword) (line argument : List Char)
    (rest : List (List Char)) :
    readKeyword keyword line argument (rest.map trim) =
      ((readKeyword keyword line argument rest).1,
        (readKeyword keyword line argument rest).2.map trim) := by
  cases keyword <;> simp only [readKeyword, withBlock_trim, readLoad_trim, readRun_trim]

/-- **Trimmed lines say the same**, and at the same places. -/
theorem results_trim : ∀ lines : List (List Char), results (lines.map trim) = results lines
  | [] => rfl
  | line :: rest => by
    match hline : keyword? (trim line) with
    | none =>
      rw [List.map_cons, results_of_keyword?_none hline,
        results_of_keyword?_none ((congrArg keyword? (trim_trim line)).trans hline),
        results_trim rest]
    | some (keyword, argument) =>
      have hshorter := length_readKeyword_le keyword (trim line) argument rest
      rw [List.map_cons, results_of_keyword? hline,
        results_of_keyword? ((congrArg keyword? (trim_trim line)).trans hline), trim_trim,
        readKeyword_trim, List.length_map, results_trim (readKeyword keyword (trim line) argument rest).2]
termination_by lines => lines.length
decreasing_by
  · simp
  · exact Nat.lt_succ_of_le hshorter

/-- A script with the same trimmed lines says the same, with its faults at the same places. -/
theorem parse_eq_of_map_trim {a b : String} (h : (lines a).map trim = (lines b).map trim)
    (file : String) : parse file a = parse file b := by
  have hresults : results (lines a) = results (lines b) := by
    rw [← results_trim, h, results_trim]
  have hlength : (lines a).length = (lines b).length := by simpa using congrArg List.length h
  rw [parse, parse, hresults, hlength]

/-! ## The check of trimmed lines -/

theorem braceChange_trim (line : List Char) : braceChange (trim line) = braceChange line := by
  have hbrace : ∀ c, isBlank c = false → (trim line).contains c = line.contains c := by
    intro c hc
    rw [Bool.eq_iff_iff, List.contains_iff_mem, List.contains_iff_mem, mem_trim_iff hc]
  rw [braceChange, braceChange, hbrace _ (by decide), hbrace _ (by decide)]

theorem bareKeyword?_trim (line : List Char) : bareKeyword? (trim line) = bareKeyword? line := by
  rw [bareKeyword?, bareKeyword?, trim_trim]

theorem opensBlock_trim (lines : List (List Char)) :
    opensBlock (lines.map trim) = opensBlock lines := by
  cases lines with
  | nil => rfl
  | cons line below => rw [List.map_cons, opensBlock, opensBlock, trim_trim]

/-- **Trimmed lines are checked alike**, line by line. -/
theorem checkLines_trim (number : Nat) (depth : Int) (lines : List (List Char)) :
    checkLines number depth (lines.map trim) = checkLines number depth lines := by
  induction lines generalizing number depth with
  | nil => rfl
  | cons line rest ih =>
      rw [List.map_cons, checkLines, checkLines, braceChange_trim, bareKeyword?_trim,
        opensBlock_trim, ih]

theorem check_eq_of_map_trim {a b : String} (h : (lines a).map trim = (lines b).map trim) :
    check a = check b := by
  rw [check, check, ← checkLines_trim, h, checkLines_trim]

/-! ## Comments among trimmed lines -/

theorem isComment_trim (line : List Char) : isComment (trim line) = isComment line := by
  rw [isComment, isComment, trim_trim]

/-- The lines of a script that are no comments, with their places. -/
def keptLines (text : String) : List (List Char × Nat) :=
  (lines text).zipIdx.filter fun entry => !isComment entry.1

/-- They are what is left when the comments are taken out. -/
theorem stripComments_eq (text : String) :
    stripComments text = String.ofList (join '\n' ((keptLines text).map Prod.fst)) := by
  have hlines : (lines text).filter (fun line => !isComment line) =
      (keptLines text).map Prod.fst := by
    rw [keptLines]
    nth_rewrite 1 [← List.zipIdx_map_fst 0 (lines text)]
    rw [List.filter_map]
    rfl
  rw [stripComments, hlines]

/-- Scripts with the same trimmed lines keep lines at the same places. -/
theorem keptLines_eq_of_map_trim {a b : String} (h : (lines a).map trim = (lines b).map trim) :
    (keptLines a).map Prod.snd = (keptLines b).map Prod.snd := by
  have htrimmed : ∀ text : String, (keptLines text).map Prod.snd =
      (((lines text).map trim).zipIdx.filter fun entry => !isComment entry.1).map Prod.snd := by
    intro text
    have hcomment : ((fun entry => !isComment entry.1) ∘ Prod.map trim id :
        List Char × Nat → Bool) = fun entry => !isComment entry.1 :=
      funext fun entry => congrArg (!·) (isComment_trim entry.1)
    rw [keptLines, List.zipIdx_map, List.filter_map, hcomment, List.map_map]
    rfl
  rw [htrimmed, htrimmed, h]

/-! ## Line breaks -/

/-- The text with CRLF for every line break. -/
def crlf (text : String) : String :=
  String.ofList (text.toList.flatMap fun c => if c = '\n' then ['\x0d', '\n'] else [c])

/-- A line above a CRLF keeps the first half of it. -/
theorem map_trim_lines_crlf (text : String) :
    (lines (crlf text)).map trim = (lines text).map trim := by
  have hlines : List.Forall₂ (fun line line' => line = line' ∨ line = line' ++ ['\x0d'])
      (lines (crlf text)) (lines text) := by
    rw [lines, lines, crlf, String.toList_ofList]
    induction text.toList with
    | nil => exact .cons (.inl rfl) .nil
    | cons c rest ih =>
        by_cases hc : c = '\n'
        · subst hc
          exact .cons (.inr rfl) ih
        · rw [List.flatMap_cons, if_neg hc, List.singleton_append, split, split, if_neg hc, if_neg hc]
          generalize split '\n' rest = pieces, split '\n' (rest.flatMap _) = pieces' at ih ⊢
          cases ih with
          | nil => exact .cons (.inl rfl) .nil
          | cons hfirst hrest => exact .cons (by simpa using hfirst) hrest
  generalize lines (crlf text) = broken, lines text = unbroken at hlines ⊢
  induction hlines with
  | nil => rfl
  | cons hline _ ih =>
      rw [List.map_cons, List.map_cons, ih]
      rcases hline with rfl | rfl
      · rfl
      · rw [trim_append_blank (by decide)]

/-! ## Scripts alike but for blanks -/

/-- Two scripts are read, checked and stripped alike: they say the same with the same faults at the
same places, nothing or the same is reported of them, and comments are taken out of the same places. -/
structure ReadAlike (a b : String) : Prop where
  parse_eq : ∀ file, parse file a = parse file b
  check_eq : check a = check b
  places_eq : (keptLines a).map Prod.snd = (keptLines b).map Prod.snd

theorem readAlike_of_map_trim {a b : String} (h : (lines a).map trim = (lines b).map trim) :
    ReadAlike a b :=
  ⟨parse_eq_of_map_trim h, check_eq_of_map_trim h, keptLines_eq_of_map_trim h⟩

/-- **Blanks at the ends of lines make no difference**: a script is read, checked and stripped like
every one with the same trimmed lines, and so like itself with CRLF for its line breaks.  What stripping
leaves are the kept lines, as they stand. -/
theorem blanks_make_no_difference (a : String) :
    (∀ b, (lines a).map trim = (lines b).map trim → ReadAlike a b) ∧ ReadAlike a (crlf a) ∧
      stripComments a = String.ofList (join '\n' ((keptLines a).map Prod.fst)) :=
  ⟨fun _ => readAlike_of_map_trim, readAlike_of_map_trim (map_trim_lines_crlf a).symm,
    stripComments_eq a⟩

end Script

end SiteScript
