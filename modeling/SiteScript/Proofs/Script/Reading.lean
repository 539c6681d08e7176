import SiteScript.Proofs.Text
import SiteScript.Script.Parser

/-!
# SiteScript.Proofs.Script.Reading

A script read line by line.  `readings` is what the lines of a script say, wherever they stand; each
line is either passed over (`readings_of_keyword?_none`) or begins a directive, which takes the lines of
its block with it (`readings_of_keyword?`).
-/

namespace SiteScript.Script

open Text

/-! ## Keywords -/

theorem keyword?_nil : keyword? [] = none := rfl

/-- No keyword begins with the mark of a comment. -/
theorem keyword?_comment {line : List Char} (h : startsWithChar '#' line = true) :
    keyword? line = none := by
  obtain ⟨rest, rfl⟩ := List.head?_eq_some_iff.1 (startsWithChar_iff.1 h)
  rfl

/-- A keyword is found at the start of every line that begins with it. -/
theorem keyword?_text (keyword : Keyword) (argument : List Char) :
    keyword? (keyword.text.toList ++ argument) = some (keyword, argument) := by
  cases keyword <;> rfl

/-- A line that begins with no keyword is passed over, whether it is blank, a comment or neither. -/
theorem next?_of_keyword?_none {line : List Char} (h : keyword? (trim line) = none)
    (rest : List (List Char)) : next? (line :: rest) = next? rest := by
  rw [next?]
  split
  · rfl
  · rw [h]

/-- A line that begins with a keyword begins a directive. -/
theorem next?_of_keyword? {line argument : List Char} {keyword : Keyword}
    (h : keyword? (trim line) = some (keyword, argument)) (rest : List (List Char)) :
    next? (line :: rest) = some (readKeyword keyword (trim line) argument rest) := by
  have hline : ¬ ((trim line).isEmpty || startsWithChar '#' (trim line)) = true := by
    intro hskip
    rcases Bool.or_eq_true_iff.1 hskip with hempty | hcomment
    · rw [List.isEmpty_iff.1 hempty, keyword?_nil] at h
      cases h
    · rw [keyword?_comment hcomment] at h
      cases h
  rw [next?, if_neg hline, h]

/-- What is read next is what the first line that begins with a keyword says, with the lines below it.
-/
theorem exists_keyword_of_next? {lines : List (List Char)}
    {reading : Except Fault Directive × List (List Char)} (h : next? lines = some reading) :
    ∃ before line below keyword argument, lines = before ++ line :: below ∧
      keyword? (trim line) = some (keyword, argument) ∧
      readKeyword keyword (trim line) argument below = reading := by
  induction lines with
  | nil => cases h
  | cons line below ih =>
    match hline : keyword? (trim line) with
    | none =>
      obtain ⟨before, first, after, keyword, argument, rfl, hfirst, hread⟩ :=
        ih ((next?_of_keyword?_none hline below).symm.trans h)
      exact ⟨line :: before, first, after, keyword, argument, rfl, hfirst, hread⟩
    | some (keyword, argument) =>
      exact ⟨[], line, below, keyword, argument, rfl, hline,
        Option.some.inj ((next?_of_keyword? hline below).symm.trans h)⟩

/-! ## What is left -/

/-- What is left after a block is the end of the lines. -/
theorem readBlockBody_suffix (block : Block) (lines : List (List Char)) :
    (readBlockBody block lines).2 <:+ lines := by
  induction lines generalizing block with
  | nil => exact List.suffix_rfl
  | cons line rest ih =>
    rw [readBlockBody]
    split
    · exact List.suffix_cons line rest
    · exact (ih _).trans (List.suffix_cons line rest)

theorem readModules_suffix (modules : List String) (lines : List (List Char)) :
    (readModules modules lines).2 <:+ lines := by
  induction lines generalizing modules with
  | nil => exact List.suffix_rfl
  | cons line rest ih =>
    rw [readModules]
    split
    · exact List.suffix_cons line rest
    · exact (ih _).trans (List.suffix_cons line rest)

theorem readLoad_suffix (argument : List Char) (rest : List (List Char)) :
    (readLoad argument rest).2 <:+ rest := by
  rw [readLoad.eq_def]
  split
  · exact readModules_suffix _ _
  · split
    · exact List.suffix_rfl
    next line after =>
      split
      · exact (readModules_suffix _ _).trans (List.suffix_cons line after)
      · exact List.suffix_rfl

theorem readRun_suffix (command : String) (rest : List (List Char)) :
    (readRun command rest).2 <:+ rest := by
  rw [readRun.eq_def]
  split
  · exact List.suffix_rfl
  · split
    · exact List.suffix_cons _ _
    · exact List.suffix_rfl

theorem withBlock_suffix (header : List Char) (rest : List (List Char)) (make : Block → Action) :
    (withBlock header rest make).2 <:+ rest := by
  have hread : (readBlock header rest).2 <:+ rest := by
    rw [readBlock]
    split
    · exact List.suffix_rfl
    · exact readBlockBody_suffix _ _
  rw [withBlock]
  split <;> simp_all

/-- A directive takes lines from the front. -/
theorem readKeyword_suffix (keyword : Keyword) (line argument : List Char)
    (rest : List (List Char)) : (readKeyword keyword line argument rest).2 <:+ rest := by
  cases keyword <;>
    simp only [readKeyword, withBlock_suffix, readLoad_suffix, readRun_suffix, List.suffix_rfl]

/-- What is left after a directive is the end of the lines. -/
theorem next?_suffix {lines rest : List (List Char)} {result : Except Fault Directive}
    (h : next? lines = some (result, rest)) : rest <:+ lines := by
  obtain ⟨before, line, below, keyword, argument, rfl, -, hread⟩ := exists_keyword_of_next? h
  have hsuffix := readKeyword_suffix keyword (trim line) argument below
  rw [hread] at hsuffix
  exact (hsuffix.trans (List.suffix_cons line below)).trans (List.suffix_append before _)

/-! ## Results -/

theorem results_of_next?_none {lines : List (List Char)} (h : next? lines = none) :
    results lines = [] := by
  rw [results]
  split
  · rfl
  next heq => rw [h] at heq; cases heq

theorem results_of_next? {lines rest : List (List Char)} {result : Except Fault Directive}
    (h : next? lines = some (result, rest)) :
    results lines = (result, rest.length) :: results rest := by
  rw [results]
  split
  next heq => rw [h] at heq; cases heq
  next heq =>
    obtain ⟨rfl, rfl⟩ := Prod.mk.inj (Option.some.inj (h.symm.trans heq))
    rfl

@[simp] theorem results_nil : results [] = [] :=
  results_of_next?_none rfl

theorem results_of_keyword?_none {line : List Char} (h : keyword? (trim line) = none)
    (rest : List (List Char)) : results (line :: rest) = results rest := by
  have hnext := next?_of_keyword?_none h rest
  match hrest : next? rest with
  | none => rw [results_of_next?_none hrest, results_of_next?_none (hnext.trans hrest)]
  | some (result, after) =>
    rw [results_of_next? hrest, results_of_next? (hnext.trans hrest)]

theorem results_of_keyword? {line argument : List Char} {keyword : Keyword}
    (h : keyword? (trim line) = some (keyword, argument)) (rest : List (List Char)) :
    results (line :: rest) =
      ((readKeyword keyword (trim line) argument rest).1,
        (readKeyword keyword (trim line) argument rest).2.length) ::
          results (readKeyword keyword (trim line) argument rest).2 :=
  results_of_next? (next?_of_keyword? h rest)

/-- Fewer lines are left after a result than there were. -/
theorem left_lt_of_mem_results {lines : List (List Char)} {entry : Except Fault Directive × Nat}
    (h : entry ∈ results lines) : entry.2 < lines.length := by
  match hnext : next? lines with
  | none =>
    rw [results_of_next?_none hnext] at h
    cases h
  | some (result, rest) =>
    have hshorter := length_next?_lt hnext
    rw [results_of_next? hnext] at h
    rcases List.mem_cons.1 h with rfl | h
    · exact hshorter
    · exact Nat.lt_trans (left_lt_of_mem_results h) hshorter
termination_by lines.length

/-! ## Readings -/

/-- What the lines of a script say, wherever they stand. -/
def readings (lines : List (List Char)) : List (Except Fault Directive) :=
  (results lines).map (·.1)

theorem readings_of_next?_none {lines : List (List Char)} (h : next? lines = none) :
    readings lines = [] := by
  rw [readings, results_of_next?_none h]
  rfl

theorem readings_of_next? {lines rest : List (List Char)} {result : Except Fault Directive}
    (h : next? lines = some (result, rest)) : readings lines = result :: readings rest := by
  rw [readings, results_of_next? h]
  rfl

/-- The first reading is what is read next. -/
theorem next?_of_readings {lines : List (List Char)} {result : Except Fault Directive}
    {results : List (Except Fault Directive)} (h : readings lines = result :: results) :
    ∃ rest, next? lines = some (result, rest) ∧ readings rest = results := by
  match hnext : next? lines with
  | none => rw [readings_of_next?_none hnext] at h; cases h
  | some (first, rest) =>
    rw [readings_of_next? hnext] at h
    obtain ⟨rfl, rfl⟩ := List.cons.inj h
    exact ⟨rest, rfl, rfl⟩

@[simp] theorem readings_nil : readings [] = [] :=
  readings_of_next?_none rfl

theorem readings_of_keyword?_none {line : List Char} (h : keyword? (trim line) = none)
    (rest : List (List Char)) : readings (line :: rest) = readings rest := by
  rw [readings, results_of_keyword?_none h, readings]

/-- The one line of an empty text says nothing. -/
theorem readings_empty_line : readings [[]] = [] :=
  (@readings_of_keyword?_none [] keyword?_nil []).trans readings_nil

theorem readings_of_keyword? {line argument : List Char} {keyword : Keyword}
    (h : keyword? (trim line) = some (keyword, argument)) (rest : List (List Char)) :
    readings (line :: rest) =
      (readKeyword keyword (trim line) argument rest).1 ::
        readings (readKeyword keyword (trim line) argument rest).2 :=
  readings_of_next? (next?_of_keyword? h rest)

/-- An error, wherever it stands. -/
def ParseError.unplaced (error : ParseError) : ParseError := { error with line := 0 }

/-- A parse is the readings of the lines, the places of the errors aside. -/
theorem map_unplaced_parse (file text : String) :
    (parse file text).map (Except.mapError ParseError.unplaced) =
      (readings (lines text)).map (Except.mapError fun fault => ⟨file, 0, fault⟩) := by
  rw [parse, readings, List.map_map, List.map_map]
  refine List.map_congr_left fun entry _ => ?_
  obtain ⟨fault | directive, left⟩ := entry <;> rfl

theorem mapError_eq_ok_iff {ε ε' α : Type} (f : ε → ε') {result : Except ε α} {value : α} :
    result.mapError f = .ok value ↔ result = .ok value := by
  cases result with
  | error fault => exact iff_of_false (fun h => by cases h) (fun h => by cases h)
  | ok value' =>
    constructor
    · rintro ⟨⟩
      rfl
    · rintro ⟨⟩
      rfl

theorem map_mapError_eq_ok_iff {ε ε' : Type} (f : ε → ε') {results : List (Except ε Directive)}
    {directives : List Directive} :
    results.map (Except.mapError f) = directives.map .ok ↔ results = directives.map .ok := by
  induction results generalizing directives with
  | nil => cases directives <;> simp
  | cons result results ih =>
    cases directives with
    | nil => simp
    | cons directive directives => simp [mapError_eq_ok_iff, ih]

/-- A parse without errors is a reading without faults. -/
theorem parse_eq_ok_iff {file text : String} {directives : List Directive} :
    parse file text = directives.map .ok ↔ readings (lines text) = directives.map .ok := by
  rw [← map_mapError_eq_ok_iff ParseError.unplaced, map_unplaced_parse, map_mapError_eq_ok_iff]

end SiteScript.Script
