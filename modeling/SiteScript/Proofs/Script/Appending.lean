import SiteScript.Proofs.Script.Balance
import SiteScript.Proofs.Script.Stripping

/-!
# SiteScript.Proofs.Script.Appending

One script below another.  A directive reaches past its line in two ways: it reads on to the brace
that closes its block, or it looks at the one line below it.

1. A block that is closed is read alike whatever comes after it (`readBlockBody_append`,
   `readModules_append_lines`), and a line to look at is the same one with more lines after it.  So
   a directive with a line below it whose block is not unterminated does not see what is put after
   the script (`readKeyword_append`).
2. A blank last line is below every directive.  So the results of two scripts, one below the other,
   are the results of both (`results_append`), each with as many lines left as the other script has
   more; that is what moves the places of errors (`parse_append`). -/

namespace SiteScript.Script

open Text

/-! ## One directive -/

/-- A block that is closed ends where it did. -/
theorem readBlockBody_append {block closed : Block} {lines : List (List Char)}
    (h : (readBlockBody block lines).1 = some closed) (after : List (List Char)) :
    readBlockBody block (lines ++ after) =
      (some closed, (readBlockBody block lines).2 ++ after) := by
  induction lines generalizing block with
  | nil => cases h
  | cons line rest ih =>
    rw [readBlockBody] at h ⊢
    rw [List.cons_append, readBlockBody]
    split
    next hends => simpa [hends] using h
    next hends => exact ih (by simpa [hends] using h)

/-- The modules of a closed `load:` are the same, with the same end. -/
theorem readModules_append_lines {modules : List String} {lines : List (List Char)}
    (h : (readModules modules lines).1 ≠ .error .loadUnterminated) (after : List (List Char)) :
    readModules modules (lines ++ after) =
      ((readModules modules lines).1, (readModules modules lines).2 ++ after) := by
  induction lines generalizing modules with
  | nil => exact absurd rfl h
  | cons line rest ih =>
    rw [readModules] at h ⊢
    rw [List.cons_append, readModules]
    split
    · rfl
    next hends => exact ih (by simpa [hends] using h)

theorem readLoad_append {argument : List Char} {rest : List (List Char)} (hrest : rest ≠ [])
    (h : (readLoad argument rest).1 ≠ .error .loadUnterminated) (after : List (List Char)) :
    readLoad argument (rest ++ after) =
      ((readLoad argument rest).1, (readLoad argument rest).2 ++ after) := by
  obtain ⟨line, below, rfl⟩ := List.exists_cons_of_ne_nil hrest
  rw [List.cons_append]
  rw [readLoad_cons] at h ⊢
  rw [readLoad_cons]
  cases hargument : isOpeningBrace argument with
  | true => exact readModules_append_lines (by simpa [hargument] using h) after
  | false =>
    cases hline : isOpeningBrace line with
    | true => exact readModules_append_lines (by simpa [hargument, hline] using h) after
    | false => rfl

theorem readRun_append {rest : List (List Char)} (hrest : rest ≠ []) (command : String)
    (after : List (List Char)) :
    readRun command (rest ++ after) =
      ((readRun command rest).1, (readRun command rest).2 ++ after) := by
  obtain ⟨line, below, rfl⟩ := List.exists_cons_of_ne_nil hrest
  rw [List.cons_append, readRun_cons, readRun_cons]
  cases tellsWait line <;> rfl

theorem withBlock_append {header : List Char} {rest : List (List Char)} {make : Block → Action}
    (h : (withBlock header rest make).1 ≠ .error .blockUnterminated) (after : List (List Char)) :
    withBlock header (rest ++ after) make =
      ((withBlock header rest make).1, (withBlock header rest make).2 ++ after) := by
  rw [withBlock, readBlock] at h ⊢
  rw [withBlock, readBlock]
  cases hinline : closesInline header with
  | true => rfl
  | false =>
    simp only [hinline, Bool.false_eq_true, if_false] at h ⊢
    rcases hread : readBlockBody .empty rest with ⟨_ | block, left⟩
    · exact absurd (by rw [hread]) h
    · have hclosed := readBlockBody_append (congrArg Prod.fst hread) after
      rw [hclosed, hread]

/-- **A directive does not see what is put after the script**, if there is a line below it and its
block is not unterminated. -/
theorem readKeyword_append {keyword : Keyword} {line argument : List Char}
    {rest : List (List Char)} (hrest : rest ≠ [])
    (h : ∀ fault, (readKeyword keyword line argument rest).1 = .error fault →
      ¬ fault.IsUnterminated) (after : List (List Char)) :
    readKeyword keyword line argument (rest ++ after) =
      ((readKeyword keyword line argument rest).1,
        (readKeyword keyword line argument rest).2 ++ after) := by
  cases keyword
  case load => exact readLoad_append hrest (fun heq => h _ heq (.inl rfl)) after
  case run =>
    simp only [readKeyword, readRun_append hrest]
  case copyFile | moveFile | editFile | connect | query | api | web =>
    exact withBlock_append (fun heq => h _ heq (.inr rfl)) after
  all_goals rfl

/-! ## Whole scripts -/

/-- **Two scripts, one below the other**, say what both say, if the first one ends with a blank line
and has no unterminated block. -/
theorem results_append {first : List (List Char)} (second : List (List Char))
    (hblank : ∀ last ∈ first.getLast?, trim last = [])
    (hended : ∀ fault, .error fault ∈ readings first → ¬ fault.IsUnterminated) :
    results (first ++ second) =
      (results first).map (fun entry => (entry.1, entry.2 + second.length)) ++ results second := by
  match first with
  | [] => rw [results_nil]; rfl
  | line :: rest =>
    have hbelow : ∀ below, below <:+ rest → ∀ last ∈ below.getLast?, trim last = [] := by
      intro below hsuffix last hlast
      obtain ⟨before, rfl⟩ := hsuffix
      refine hblank last ?_
      rw [← List.cons_append, List.getLast?_append, Option.mem_def.1 hlast]
      rfl
    match hline : keyword? (trim line) with
    | none =>
      rw [List.cons_append, results_of_keyword?_none hline, results_of_keyword?_none hline]
      rw [readings_of_keyword?_none hline] at hended
      exact results_append second (hbelow rest List.suffix_rfl) hended
    | some (keyword, argument) =>
      -- the line of a directive is not blank, so it is not the last one
      have hrest : rest ≠ [] := by
        rintro rfl
        rw [hblank line rfl, keyword?_nil] at hline
        cases hline
      rw [readings_of_keyword? hline] at hended
      have hsuffix := readKeyword_suffix keyword (trim line) argument rest
      have hread := readKeyword_append hrest
        (fun fault heq => hended fault (heq ▸ List.mem_cons_self)) second
      have hshorter := length_readKeyword_le keyword (trim line) argument rest
      rw [List.cons_append, results_of_keyword? hline, results_of_keyword? hline, hread,
        results_append second (hbelow _ hsuffix)
          fun fault hmem => hended fault (List.mem_cons_of_mem _ hmem)]
      simp only [List.map_cons, List.cons_append, List.length_append]
termination_by first.length
decreasing_by
  · simp
  · exact Nat.lt_succ_of_le hshorter

/-- An error in a script that stands below so many lines. -/
def ParseError.below (above : Nat) (error : ParseError) : ParseError :=
  { error with line := error.line + above }

/-- The lines of two texts with a line break between them. -/
theorem lines_append (first second : String) :
    lines (first ++ "\n" ++ second) = lines first ++ lines second := by
  rw [lines, String.toList_append, String.toList_append, List.append_assoc]
  exact split_append_sep '\n' first.toList second.toList

/-- **Reading is compositional**: if the last line of a script is blank and no block of it is
unterminated, then the script with another one below it says what the first one says and then what
the second one says, with errors placed as many lines further down as the first one has. -/
theorem parse_append {file first second : String}
    (hblank : isBlankText ((lines first).getLast (split_ne_nil _ _)) = true)
    (hended : ∀ error, .error error ∈ parse file first → ¬ error.fault.IsUnterminated) :
    parse file (first ++ "\n" ++ second) =
      parse file first ++
        (parse file second).map (Except.mapError (ParseError.below (lines first).length)) := by
  have hlast : ∀ last ∈ (lines first).getLast?, trim last = [] := by
    intro last hlast
    rw [List.getLast?_eq_some_getLast (l := lines first) (split_ne_nil _ _)] at hlast
    cases hlast
    exact List.isEmpty_iff.1 hblank
  have hfaults : ∀ fault, .error fault ∈ readings (lines first) → ¬ fault.IsUnterminated := by
    intro fault hmem
    obtain ⟨⟨_, left⟩, hentry, rfl⟩ := List.mem_map.1 hmem
    exact hended ⟨file, (lines first).length - left, fault⟩ (List.mem_map.2 ⟨_, hentry, rfl⟩)
  simp only [parse, lines_append, results_append (lines second) hlast hfaults, List.map_append,
    List.map_map, List.length_append]
  congr 1
  · -- the second script is below what is left of the first one, too
    refine List.map_congr_left fun entry _ => ?_
    obtain ⟨fault | directive, left⟩ := entry
    · simp only [Function.comp_apply, Nat.add_sub_add_right]
    · rfl
  · refine List.map_congr_left fun entry hentry => ?_
    have hleft := left_lt_of_mem_results hentry
    obtain ⟨fault | directive, left⟩ := entry
    · have hline : (lines first).length + (lines second).length - left =
          (lines second).length - left + (lines first).length := by
        simp only at hleft
        omega
      simp only [Function.comp_apply, Except.mapError, ParseError.below, hline]
    · rfl

/-- A command that could be told to wait on the line below it, and a blank line there. -/
def commandScript : String := "run: \"ls\"\n"

/-- A line that tells a command to wait, and a malformed directive. -/
def waitScript : String := "\"wait\": \"true\"\nVB: KEY"

/-- The command above is not told to wait, and the malformed directive is on the fourth line. -/
theorem parse_append_wait :
    parse "Main.tont" (commandScript ++ "\n" ++ waitScript) =
      [.ok (.act (.run "ls" false)), .error ⟨"Main.tont", 4, .variableShape⟩] := by
  have hfirst : parse "Main.tont" commandScript = [.ok (.act (.run "ls" false))] := by
    decide +kernel
  have hsecond : parse "Main.tont" waitScript = [.error ⟨"Main.tont", 2, .variableShape⟩] := by
    decide +kernel
  have hlines : (lines commandScript).length = 2 := by decide +kernel
  rw [parse_append (by decide +kernel) (by simp [hfirst]), hfirst, hsecond, hlines]
  rfl

end SiteScript.Script
