import Mathlib.Order.Monotone.Basic
import SiteScript.Proofs.Script.Balance
import SiteScript.Script.Cursor

/-!
# SiteScript.Proofs.Script.Progress

A script that is read call by call.  A call takes the lines of one directive and those passed over
before it; when there is no directive left, it takes all the lines (`Cursor.read`).

1. What one call does is said once (`Cursor.read_cases`).  It loses no line (`Cursor.total_read`), and
   leaves the results that come after its own (`Cursor.results_read`).
2. So the calls give what the script says, in its order, and then nothing (`Cursor.answer_ofText`); and
   an error is at the line most recently taken (`Cursor.of_answer_error`).
3. An unterminated block takes all the lines below it (`readKeyword_left_of_unterminated`), and its
   error is the last answer of all.

`calls_make_progress` puts them together. -/

namespace SiteScript.Script

open Text

/-! ## What an unterminated block leaves -/

theorem readBlockBody_left {lines : List (List Char)} (h : ∀ line ∈ lines, endsBlock line = false)
    (block : Block) : (readBlockBody block lines).2 = [] := by
  induction lines generalizing block with
  | nil => rfl
  | cons line rest ih =>
      obtain ⟨hline, hrest⟩ := List.forall_mem_cons.1 h
      rw [endsBlock] at hline
      rw [readBlockBody, hline]
      exact ih hrest _

theorem readModules_left {lines : List (List Char)} (h : ∀ line ∈ lines, endsBlock line = false)
    (modules : List String) : (readModules modules lines).2 = [] := by
  induction lines generalizing modules with
  | nil => rfl
  | cons line rest ih =>
      obtain ⟨hline, hrest⟩ := List.forall_mem_cons.1 h
      rw [endsBlock] at hline
      rw [readModules, hline]
      exact ih hrest _

theorem withBlock_left {header : List Char} {rest : List (List Char)}
    (hopen : closesInline header = false) (h : ∀ line ∈ rest, endsBlock line = false)
    (make : Block → Action) : (withBlock header rest make).2 = [] := by
  have hleft := readBlockBody_left h .empty
  rw [withBlock, readBlock, hopen]
  revert hleft
  obtain ⟨_ | block, left⟩ := readBlockBody .empty rest <;> exact id

theorem readLoad_left {argument : List Char} {rest : List (List Char)}
    (hopen : LeavesOpen .load [] argument rest) (h : ∀ line ∈ rest, endsBlock line = false) :
    (readLoad argument rest).2 = [] := by
  rw [readLoad.eq_def]
  by_cases hargument : trim argument = ['{']
  · rw [if_pos hargument]
    exact readModules_left h _
  · rw [if_neg hargument]
    obtain hargument' | ⟨first, hfirst, hbrace⟩ := hopen
    · exact absurd hargument' hargument
    · cases rest with
      | nil => cases hfirst
      | cons line after =>
          obtain rfl : line = first := Option.some.inj hfirst
          simp only [if_pos hbrace]
          exact readModules_left (List.forall_mem_cons.1 h).2 _

/-- **An unterminated block leaves no lines**: all that are below it were taken in search of its end.
-/
theorem readKeyword_left_of_unterminated {keyword : Keyword} {line argument : List Char}
    {rest : List (List Char)} {fault : Fault}
    (h : (readKeyword keyword line argument rest).1 = .error fault) (hfault : fault.IsUnterminated) :
    (readKeyword keyword line argument rest).2 = [] := by
  obtain ⟨hopen, hnone⟩ := (readKeyword_unterminated_iff _ _ _ _).1 ⟨fault, h, hfault⟩
  match keyword with
  | .load => exact readLoad_left hopen hnone
  | .copyFile | .moveFile | .editFile | .connect | .query | .api | .web =>
      exact withBlock_left hopen hnone _
  | .start | .finish | .variable | .log | .run | .deleteFile | .deleteFolder | .addFolder
  | .addFile | .schedule => exact hopen.elim

/-- After a directive with an unterminated block no lines are left. -/
theorem next?_left_of_unterminated {lines rest : List (List Char)} {fault : Fault}
    (h : next? lines = some (.error fault, rest)) (hfault : fault.IsUnterminated) : rest = [] := by
  obtain ⟨_, _, _, _, _, -, -, hread⟩ := exists_keyword_of_next? h
  have hleft := readKeyword_left_of_unterminated (congrArg Prod.fst hread) hfault
  rwa [hread] at hleft

/-! ## Calls -/

namespace Cursor

/-- The cursor after some more lines are taken. -/
def skip (cursor : Cursor) : Nat → Cursor
  | 0 => cursor
  | count + 1 => cursor.next.2.skip count

/-- Read the next directive, if there is one, and take the lines that were needed for it.  A fault is
at the line most recently taken. -/
def read (file : String) (cursor : Cursor) : Option (Except ParseError Directive) × Cursor :=
  match next? cursor.rest with
  | none => (none, cursor.skip cursor.rest.length)
  | some (result, rest) =>
    let after := cursor.skip (cursor.rest.length - rest.length)
    (some (result.mapError fun fault => ⟨file, after.lineNumber, fault⟩), after)

/-- The cursor after so many calls. -/
def after (file : String) (cursor : Cursor) : Nat → Cursor
  | 0 => cursor
  | calls + 1 => ((cursor.after file calls).read file).2

/-- What a call gives; the first one has the number zero. -/
def answer (file : String) (cursor : Cursor) (call : Nat) : Option (Except ParseError Directive) :=
  ((cursor.after file call).read file).1

/-- The lines taken and the lines left. -/
def total (cursor : Cursor) : Nat := cursor.taken + cursor.rest.length

theorem skip_append (taken : Nat) (lines rest : List (List Char)) :
    skip ⟨taken, lines ++ rest⟩ lines.length = ⟨taken + lines.length, rest⟩ := by
  induction lines generalizing taken with
  | nil => rfl
  | cons line lines ih =>
      rw [List.length_cons, ← Nat.add_assoc, Nat.add_right_comm]
      exact ih (taken + 1)

variable (file : String) (cursor : Cursor)

/-- What a call does: nothing is left to say, and all the lines are taken; or the next directive is
read, with its lines. -/
theorem read_cases :
    (results cursor.rest = [] ∧ cursor.read file = (none, ⟨cursor.total, []⟩)) ∨
      ∃ result after, results cursor.rest = (result, after.rest.length) :: results after.rest ∧
        next? cursor.rest = some (result, after.rest) ∧ cursor.taken < after.taken ∧
        after.total = cursor.total ∧
        cursor.read file =
          (some (result.mapError fun fault => ⟨file, after.taken, fault⟩), after) := by
  obtain ⟨taken, lines⟩ := cursor
  match hnext : next? lines with
  | none =>
      refine .inl ⟨results_of_next?_none hnext, ?_⟩
      have hskip := skip_append taken lines []
      rw [List.append_nil] at hskip
      simp only [read, hnext, hskip, total]
  | some (result, rest) =>
      obtain ⟨before, rfl⟩ := next?_suffix hnext
      have hfewer := length_next?_lt hnext
      rw [List.length_append] at hfewer
      refine .inr ⟨result, ⟨taken + before.length, rest⟩, results_of_next? hnext, rfl,
        Nat.lt_add_of_pos_right (by omega), ?_, ?_⟩
      · simp only [total, List.length_append, Nat.add_assoc]
      · simp only [read, hnext, List.length_append, Nat.add_sub_cancel, skip_append, lineNumber]

/-- No line is lost. -/
theorem total_read : (cursor.read file).2.total = cursor.total := by
  obtain ⟨-, hread⟩ | ⟨_, after, -, -, -, htotal, hread⟩ := cursor.read_cases file
  · rw [hread]
    rfl
  · rw [hread, htotal]

/-- What is left to say after a call is what comes after its answer. -/
theorem results_read : results (cursor.read file).2.rest = (results cursor.rest).tail := by
  obtain ⟨hnone, hread⟩ | ⟨_, after, hresults, -, -, -, hread⟩ := cursor.read_cases file
  · rw [hread, hnone]
    exact results_nil
  · rw [hread, hresults]
    rfl

theorem taken_le_read : cursor.taken ≤ (cursor.read file).2.taken := by
  obtain ⟨-, hread⟩ | ⟨_, after, -, -, hlt, -, hread⟩ := cursor.read_cases file
  · rw [hread]
    exact Nat.le_add_right _ _
  · rw [hread]
    exact Nat.le_of_lt hlt

/-- An answer takes a line at least. -/
theorem taken_lt_read (h : (cursor.read file).1.isSome) :
    cursor.taken < (cursor.read file).2.taken := by
  obtain ⟨-, hread⟩ | ⟨_, after, -, -, hlt, -, hread⟩ := cursor.read_cases file
  · rw [hread] at h
    cases h
  · rw [hread]
    exact hlt

/-! ## One call after another -/

theorem total_after (calls : Nat) : (cursor.after file calls).total = cursor.total := by
  induction calls with
  | zero => rfl
  | succ calls ih => exact (total_read file _).trans ih

/-- What is left to say after some calls are the results behind as many. -/
theorem results_after (calls : Nat) :
    results (cursor.after file calls).rest = (results cursor.rest).drop calls := by
  induction calls with
  | zero => rfl
  | succ calls ih => rw [after, results_read, ih, List.tail_drop]

theorem monotone_taken : Monotone fun calls => (cursor.after file calls).taken :=
  monotone_nat_of_le_succ fun calls => taken_le_read file (cursor.after file calls)

variable {file cursor}

/-- What an error tells: the file, the line most recently taken, and, if it is that of an unterminated
block, that no lines are left. -/
theorem of_answer_error {call : Nat} {error : ParseError}
    (h : cursor.answer file call = some (.error error)) :
    error.file = file ∧ error.line = (cursor.after file (call + 1)).taken ∧
      (error.fault.IsUnterminated → (cursor.after file (call + 1)).rest = []) := by
  rw [answer] at h
  rw [after]
  obtain ⟨-, hread⟩ | ⟨result, _, -, hnext, -, -, hread⟩ := (cursor.after file call).read_cases file
  · rw [hread] at h
    cases h
  · rw [hread] at h ⊢
    cases result with
    | ok directive => cases h
    | error fault =>
        cases h
        exact ⟨rfl, rfl, next?_left_of_unterminated hnext⟩

/-- The calls give what the script says, in its order, and then nothing. -/
theorem answer_ofText (file text : String) (call : Nat) :
    (ofText text).answer file call = (parse file text)[call]? := by
  have htotal : ((ofText text).after file call).total = (lines text).length :=
    ((ofText text).total_after file call).trans (Nat.zero_add _)
  have hresults := (ofText text).results_after file call
  have hentry : (parse file text)[call]? =
      ((results ((ofText text).after file call).rest).head?).map fun entry =>
        entry.1.mapError fun fault => ⟨file, (lines text).length - entry.2, fault⟩ := by
    rw [hresults, List.head?_drop, parse, List.getElem?_map]
    refine congrFun (congrArg Option.map (funext fun entry => ?_)) _
    obtain ⟨_ | _, left⟩ := entry <;> rfl
  rw [hentry, answer]
  obtain ⟨hnone, hread⟩ | ⟨result, after, hsome, -, -, hkept, hread⟩ :=
    ((ofText text).after file call).read_cases file
  · rw [hread, hnone]
    rfl
  · -- the lines taken are all but those left
    have hline : (lines text).length - after.rest.length = after.taken := by
      rw [← htotal, ← hkept, total, Nat.add_sub_cancel]
    rw [hread, hsome]
    simp only [List.head?_cons, Option.map_some, hline]

end Cursor

/-- There are no more results than lines. -/
theorem length_results_le (lines : List (List Char)) : (results lines).length ≤ lines.length := by
  match hnext : next? lines with
  | none =>
    rw [results_of_next?_none hnext]
    exact Nat.zero_le _
  | some (result, rest) =>
    have hfewer := length_next?_lt hnext
    rw [results_of_next? hnext, List.length_cons]
    exact Nat.lt_of_le_of_lt (length_results_le rest) hfewer
termination_by lines.length

/-- **Every call makes progress, and errors tell where they are.**  Of a script with `n` lines, the
calls give at most `n` answers, which are what the script says, and then none any more.  Never are more
lines taken than there are, and every answer takes some.  An error tells its file and the line most
recently taken, between the first and the last; so the lines of errors increase.  The error of an
unterminated block is at the last line, and there is no answer after it. -/
theorem calls_make_progress (file text : String) :
    let start := Cursor.ofText text
    let n := (lines text).length
    let taken := fun calls => (start.after file calls).taken
    ((parse file text).length ≤ n ∧
      ∀ call, start.answer file call = (parse file text)[call]?) ∧
    (∀ call, taken call ≤ n ∧ ((start.answer file call).isSome → taken call < taken (call + 1))) ∧
    (∀ call error, start.answer file call = some (.error error) →
      error.file = file ∧ error.line = taken (call + 1) ∧ 1 ≤ error.line ∧ error.line ≤ n) ∧
    (∀ earlier later error error', earlier < later →
      start.answer file earlier = some (.error error) →
      start.answer file later = some (.error error') → error.line < error'.line) ∧
    ∀ call error, start.answer file call = some (.error error) → error.fault.IsUnterminated →
      error.line = n ∧ ∀ later, call < later → start.answer file later = none := by
  intro start n taken
  have htotal : ∀ calls, taken calls + (start.after file calls).rest.length = n := fun calls =>
    (start.total_after file calls).trans (Nat.zero_add _)
  have htaken : ∀ calls, taken calls ≤ n := fun calls => htotal calls ▸ Nat.le_add_right _ _
  have hmore : ∀ call, (start.answer file call).isSome → taken call < taken (call + 1) :=
    fun call => (start.after file call).taken_lt_read file
  have herror : ∀ {call error}, start.answer file call = some (.error error) →
      taken call < error.line ∧ error.line = taken (call + 1) := fun {call error} h =>
    have hline := (Cursor.of_answer_error h).2.1
    ⟨hline ▸ hmore call (h ▸ rfl), hline⟩
  refine ⟨⟨?_, Cursor.answer_ofText file text⟩, fun call => ⟨htaken call, hmore call⟩, ?_, ?_, ?_⟩
  · rw [parse, List.length_map]
    exact length_results_le _
  · intro call error h
    obtain ⟨hlow, hline⟩ := herror h
    exact ⟨(Cursor.of_answer_error h).1, hline, by omega, hline ▸ htaken _⟩
  · intro earlier later error error' hlt h h'
    calc error.line = taken (earlier + 1) := (herror h).2
      _ ≤ taken later := start.monotone_taken file hlt
      _ < error'.line := (herror h').1
  · intro call error h hunterminated
    have hrest := (Cursor.of_answer_error h).2.2 hunterminated
    have hall := htotal (call + 1)
    rw [hrest] at hall
    refine ⟨(herror h).2.trans hall, fun later hlater => ?_⟩
    -- no results are left, so the answers have come to their end
    have hnone := start.results_after file (call + 1)
    rw [hrest, results_nil, eq_comm, List.drop_eq_nil_iff] at hnone
    rw [Cursor.answer_ofText, List.getElem?_eq_none_iff, parse, List.length_map]
    exact hnone.trans hlater

/-- Three errors, the last of them of a block that nothing ends. -/
def brokenScript : String := "VB: PORT\nschedule: soon\n\nload: \x7b\nshop\n"

/-- After the last error, at the last line, no call gives anything. -/
theorem calls_make_progress_broken :
    let answer := (Cursor.ofText brokenScript).answer "Main.tont"
    answer 0 = some (.error ⟨"Main.tont", 1, .variableShape⟩) ∧
      answer 1 = some (.error ⟨"Main.tont", 2, .scheduleShape⟩) ∧
      answer 2 = some (.error ⟨"Main.tont", 6, .loadUnterminated⟩) ∧
      (lines brokenScript).length = 6 ∧ ∀ later, 2 < later → answer later = none := by
  intro answer
  have hlast : answer 2 = some (.error ⟨"Main.tont", 6, .loadUnterminated⟩) := rfl
  refine ⟨rfl, rfl, hlast, rfl, ?_⟩
  exact ((calls_make_progress "Main.tont" brokenScript).2.2.2.2 2 _ hlast (.inl rfl)).2

end SiteScript.Script
