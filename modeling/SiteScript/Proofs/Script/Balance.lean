import Mathlib.Control.Monad.Basic
import SiteScript.Proofs.Script.Reading
import SiteScript.Script.Check

/-!
# SiteScript.Proofs.Script.Balance

What the check of a script tells about its blocks.

1. Reading comes to one directive after another (`ComesTo`).  A block that the line of its directive
   leaves open is unterminated exactly when no line below begins with a closing brace
   (`unterminated_iff`).
2. The check counts the lines with braces, wherever the braces stand.  In a script that passes it,
   lines with an opening brace and lines with a closing one are equally many, and from no line to the
   end is there one with an opening brace too many (`braces_suffix`).
3. The two do not mean the same by a brace: a directive may have no braces at all, and a closing brace
   behind something else is counted and ends nothing (`unterminated_though_checked`).  Where neither is
   the case, no block of a script that passes the check is unterminated
   (`checked_blocks_terminated`). -/

namespace SiteScript.Script

open Text

/-! ## Directives that are read -/

/-- Reading some lines comes to a line that begins a directive, with these lines below it. -/
inductive ComesTo (keyword : Keyword) (header argument : List Char) (below : List (List Char)) :
    List (List Char) → Prop where
  | here (h : keyword? (trim header) = some (keyword, argument)) :
      ComesTo keyword header argument below (header :: below)
  | skip {line : List Char} {rest : List (List Char)} (hline : keyword? (trim line) = none)
      (h : ComesTo keyword header argument below rest) :
      ComesTo keyword header argument below (line :: rest)
  | after {line before : List Char} {earlier : Keyword} {rest : List (List Char)}
      (hline : keyword? (trim line) = some (earlier, before))
      (h : ComesTo keyword header argument below (readKeyword earlier (trim line) before rest).2) :
      ComesTo keyword header argument below (line :: rest)

namespace ComesTo

variable {keyword : Keyword} {header argument : List Char} {below lines : List (List Char)}

/-- The line that reading comes to begins with the keyword. -/
theorem keyword?_eq (h : ComesTo keyword header argument below lines) :
    keyword? (trim header) = some (keyword, argument) := by
  induction h with
  | here h => exact h
  | skip _ _ ih => exact ih
  | after _ _ ih => exact ih

/-- The directive and what is below it are the end of the lines. -/
theorem suffix (h : ComesTo keyword header argument below lines) : header :: below <:+ lines := by
  induction h with
  | here => exact List.suffix_rfl
  | skip _ _ ih => exact ih.trans (List.suffix_cons _ _)
  | after _ _ ih =>
      exact (ih.trans (readKeyword_suffix _ _ _ _)).trans (List.suffix_cons _ _)

/-- What the directive says is among the readings. -/
theorem mem_readings (h : ComesTo keyword header argument below lines) :
    (readKeyword keyword (trim header) argument below).1 ∈ readings lines := by
  induction h with
  | here h =>
      rw [readings_of_keyword? h]
      exact List.mem_cons_self
  | skip hline _ ih => rwa [readings_of_keyword?_none hline]
  | after hline _ ih =>
      rw [readings_of_keyword? hline]
      exact List.mem_cons_of_mem _ ih

end ComesTo

/-- Every reading is of a directive that reading comes to. -/
theorem exists_comesTo : ∀ {lines : List (List Char)} {result : Except Fault Directive},
    result ∈ readings lines → ∃ keyword header argument below,
      ComesTo keyword header argument below lines ∧
        (readKeyword keyword (trim header) argument below).1 = result
  | [], _, h => by
    rw [readings_nil] at h
    cases h
  | line :: rest, result, h => by
    match hline : keyword? (trim line) with
    | none =>
      rw [readings_of_keyword?_none hline] at h
      obtain ⟨keyword, header, argument, below, hcomes, hresult⟩ := exists_comesTo h
      exact ⟨keyword, header, argument, below, .skip hline hcomes, hresult⟩
    | some (earlier, before) =>
      have hshorter := length_readKeyword_le earlier (trim line) before rest
      rw [readings_of_keyword? hline] at h
      rcases List.mem_cons.1 h with rfl | h
      · exact ⟨earlier, line, before, rest, .here hline, rfl⟩
      · obtain ⟨keyword, header, argument, below, hcomes, hresult⟩ := exists_comesTo h
        exact ⟨keyword, header, argument, below, .after hline hcomes, hresult⟩
termination_by lines => lines.length
decreasing_by
  · simp
  · exact Nat.lt_succ_of_le hshorter

/-! ## Unterminated blocks -/

/-- A fault of a block that no line ends. -/
def Fault.IsUnterminated (fault : Fault) : Prop :=
  fault = .loadUnterminated ∨ fault = .blockUnterminated

/-- A line that ends a block. -/
def endsBlock (line : List Char) : Bool := startsWithChar '}' (trim line)

/-- A directive has a block that is still open below its line: a `load:` with its brace, or another
directive with a block whose braces do not close on its line. -/
def LeavesOpen (keyword : Keyword) (line argument : List Char) (below : List (List Char)) : Prop :=
  match keyword with
  | .load => trim argument = ['{'] ∨ ∃ first ∈ below.head?, trim first = ['{']
  | .copyFile | .moveFile | .editFile | .connect | .query | .api | .web =>
    closesInline line = false
  | _ => False

theorem readBlockBody_eq_none_iff (block : Block) (lines : List (List Char)) :
    (readBlockBody block lines).1 = none ↔ ∀ line ∈ lines, endsBlock line = false := by
  induction lines generalizing block with
  | nil => simp [readBlockBody]
  | cons line rest ih =>
      have hends : startsWithChar '}' (trim line) = endsBlock line := rfl
      rw [readBlockBody, List.forall_mem_cons, hends]
      cases endsBlock line with
      | true => simp
      | false => simpa using ih _

theorem readModules_eq_error_iff (modules : List String) (lines : List (List Char)) (fault : Fault) :
    (readModules modules lines).1 = .error fault ↔
      fault = .loadUnterminated ∧ ∀ line ∈ lines, endsBlock line = false := by
  induction lines generalizing modules with
  | nil =>
      rw [readModules]
      constructor
      · rintro ⟨⟩
        exact ⟨rfl, List.forall_mem_nil _⟩
      · rintro ⟨rfl, -⟩
        rfl
  | cons line rest ih =>
      have hends : startsWithChar '}' (trim line) = endsBlock line := rfl
      rw [readModules, List.forall_mem_cons, hends]
      cases endsBlock line with
      | true => simp
      | false => simpa using ih _

theorem withBlock_eq_error_iff (header : List Char) (rest : List (List Char)) (make : Block → Action)
    (fault : Fault) :
    (withBlock header rest make).1 = .error fault ↔
      fault = .blockUnterminated ∧ closesInline header = false ∧
        ∀ line ∈ rest, endsBlock line = false := by
  have hblock := readBlockBody_eq_none_iff .empty rest
  rw [withBlock, readBlock]
  cases closesInline header with
  | true => simp
  | false =>
      rw [← hblock]
      obtain ⟨_ | block, left⟩ := readBlockBody .empty rest <;> simp [eq_comm]

/-- A line that is nothing but an opening brace ends no block. -/
theorem endsBlock_of_brace {line : List Char} (h : trim line = ['{']) : endsBlock line = false := by
  rw [endsBlock, h]
  rfl

theorem readLoad_unterminated_iff (argument : List Char) (rest : List (List Char)) :
    (readLoad argument rest).1 = .error .loadUnterminated ↔
      LeavesOpen .load [] argument rest ∧ ∀ line ∈ rest, endsBlock line = false := by
  rw [readLoad.eq_def]
  by_cases hargument : trim argument = ['{']
  · simp [LeavesOpen, hargument, readModules_eq_error_iff]
  rw [if_neg hargument]
  cases rest with
  | nil => simp [LeavesOpen, hargument]
  | cons line after =>
      by_cases hline : trim line = ['{']
      · simp [LeavesOpen, hline, readModules_eq_error_iff, endsBlock_of_brace hline]
      · simp [LeavesOpen, hargument, hline]

/-- A `load:` fails for want of its block, or because its block is unterminated. -/
theorem readLoad_ne_blockUnterminated (argument : List Char) (rest : List (List Char)) :
    (readLoad argument rest).1 ≠ .error .blockUnterminated := by
  have hmodules : ∀ lines, (readModules [] lines).1 ≠ .error .blockUnterminated := by
    intro lines h
    cases ((readModules_eq_error_iff [] lines _).1 h).1
  rw [readLoad.eq_def]
  split
  · exact hmodules _
  · split
    · simp
    · split
      · exact hmodules _
      · simp

theorem startDirective_not_unterminated {rest : List Char} {fault : Fault}
    (h : startDirective rest = .error fault) : ¬ fault.IsUnterminated := by
  unfold startDirective at h
  split at h <;> split at h <;> cases h <;> simp [Fault.IsUnterminated]

theorem assignDirective_not_unterminated {rest : List Char} {fault : Fault}
    (h : assignDirective rest = .error fault) : ¬ fault.IsUnterminated := by
  unfold assignDirective at h
  split at h
  · cases h
    simp [Fault.IsUnterminated]
  · split at h <;> cases h
    simp [Fault.IsUnterminated]

theorem scheduleDirective_not_unterminated {rest : List Char} {fault : Fault}
    (h : scheduleDirective rest = .error fault) : ¬ fault.IsUnterminated := by
  unfold scheduleDirective at h
  split at h
  · cases h
    simp [Fault.IsUnterminated]
  · split at h
    · cases h
      simp [Fault.IsUnterminated]
    · cases h
      simp [Fault.IsUnterminated]
    · split at h <;> cases h
      simp [Fault.IsUnterminated]

/-- A directive is unterminated exactly when it leaves a block open that no line below ends. -/
theorem readKeyword_unterminated_iff (keyword : Keyword) (line argument : List Char)
    (rest : List (List Char)) :
    (∃ fault, (readKeyword keyword line argument rest).1 = .error fault ∧ fault.IsUnterminated) ↔
      LeavesOpen keyword line argument rest ∧ ∀ below ∈ rest, endsBlock below = false := by
  have hblock : ∀ make, (∃ fault, (withBlock line rest make).1 = .error fault ∧ fault.IsUnterminated) ↔
      closesInline line = false ∧ ∀ below ∈ rest, endsBlock below = false := by
    intro make
    simp only [withBlock_eq_error_iff, Fault.IsUnterminated]
    constructor
    · rintro ⟨fault, ⟨-, hopen⟩, -⟩
      exact hopen
    · intro hopen
      exact ⟨_, ⟨rfl, hopen⟩, .inr rfl⟩
  have hload : (∃ fault, (readLoad argument rest).1 = .error fault ∧ fault.IsUnterminated) ↔
      LeavesOpen .load line argument rest ∧ ∀ below ∈ rest, endsBlock below = false := by
    have hiff := readLoad_unterminated_iff argument rest
    have hne := readLoad_ne_blockUnterminated argument rest
    simp only [Fault.IsUnterminated, and_or_left, exists_or, exists_eq_right, hne, or_false]
    exact hiff
  have hline : ∀ {result : Except Fault Directive},
      (∀ fault, result = .error fault → ¬ fault.IsUnterminated) →
      ((∃ fault, result = .error fault ∧ fault.IsUnterminated) ↔
        False ∧ ∀ below ∈ rest, endsBlock below = false) := by
    intro result h
    rw [false_and, iff_false]
    rintro ⟨fault, heq, hfault⟩
    exact h fault heq hfault
  match keyword with
  | .load => exact hload
  | .copyFile | .moveFile | .editFile | .connect | .query | .api | .web => exact hblock _
  | .start => exact hline fun _ => startDirective_not_unterminated
  | .variable => exact hline fun _ => assignDirective_not_unterminated
  | .schedule => exact hline fun _ => scheduleDirective_not_unterminated
  | .finish | .log | .run | .deleteFile | .deleteFolder | .addFolder | .addFile =>
      exact hline fun _ h => nomatch h

/-- **A script has an unterminated block** exactly when reading it comes to a directive that leaves a
block open, and no line below that begins with a closing brace. -/
theorem unterminated_iff (file code : String) :
    (∃ error, .error error ∈ parse file code ∧ error.fault.IsUnterminated) ↔
      ∃ keyword header argument below, ComesTo keyword header argument below (lines code) ∧
        LeavesOpen keyword (trim header) argument below ∧ ∀ line ∈ below, endsBlock line = false := by
  have hreadings : (∃ error, .error error ∈ parse file code ∧ error.fault.IsUnterminated) ↔
      ∃ fault, .error fault ∈ readings (lines code) ∧ fault.IsUnterminated := by
    simp only [parse, readings, List.mem_map]
    constructor
    · rintro ⟨error, ⟨⟨result, left⟩, hmem, heq⟩, hfault⟩
      cases result with
      | ok directive => cases heq
      | error fault =>
          cases heq
          exact ⟨fault, ⟨_, hmem, rfl⟩, hfault⟩
    · rintro ⟨fault, ⟨⟨result, left⟩, hmem, heq⟩, hfault⟩
      cases heq
      exact ⟨_, ⟨_, hmem, rfl⟩, hfault⟩
  rw [hreadings]
  constructor
  · rintro ⟨fault, hmem, hfault⟩
    obtain ⟨keyword, header, argument, below, hcomes, hresult⟩ := exists_comesTo hmem
    exact ⟨keyword, header, argument, below, hcomes,
      (readKeyword_unterminated_iff _ _ _ _).1 ⟨fault, hresult, hfault⟩⟩
  · rintro ⟨keyword, header, argument, below, hcomes, hopen⟩
    obtain ⟨fault, hresult, hfault⟩ := (readKeyword_unterminated_iff _ _ _ _).2 hopen
    exact ⟨fault, hresult ▸ hcomes.mem_readings, hfault⟩

/-! ## Counting braces -/

/-- What some lines do to the number of open braces. -/
def braces : List (List Char) → Int
  | [] => 0
  | line :: lines => braceChange line + braces lines

@[simp] theorem braces_nil : braces [] = 0 := rfl

@[simp] theorem braces_cons (line : List Char) (lines : List (List Char)) :
    braces (line :: lines) = braceChange line + braces lines := rfl

@[simp] theorem braces_append (first second : List (List Char)) :
    braces (first ++ second) = braces first + braces second := by
  induction first with
  | nil => simp
  | cons line first ih => rw [List.cons_append, braces_cons, braces_cons, ih, Int.add_assoc]

/-- Lines that pass the check close what is open, and nothing else on the way. -/
theorem braces_of_checkLines {line : Nat} {depth : Int} {lines : List (List Char)}
    (h : checkLines line depth lines = .ok ()) :
    depth + braces lines = 0 ∧ ∀ before after, lines = before ++ after → before ≠ [] →
      0 ≤ depth + braces before := by
  induction lines generalizing line depth with
  | nil =>
      rw [checkLines] at h
      split at h
      next hdepth => simp [hdepth]
      next => cases h
  | cons first rest ih =>
      rw [checkLines] at h
      split at h
      · cases h
      next hdepth =>
      have hrest : checkLines (line + 1) (depth + braceChange first) rest = .ok () := by
        split at h
        · split at h
          · exact h
          · cases h
        · exact h
      obtain ⟨hsum, hpre⟩ := ih hrest
      refine ⟨by rw [braces_cons]; omega, ?_⟩
      intro before after heq hne
      cases before with
      | nil => exact absurd rfl hne
      | cons line' before =>
          obtain ⟨rfl, rfl⟩ := List.cons.inj heq
          rw [braces_cons]
          by_cases hbefore : before = []
          · subst hbefore
            simp only [braces_nil]
            omega
          · have := hpre before after rfl hbefore
            omega

/-- In a script that passes the check, no more braces are opened from some line to the end than are
closed there. -/
theorem braces_suffix {code : String} (h : check code = .ok ()) {after : List (List Char)}
    (hafter : after <:+ lines code) : braces after ≤ 0 := by
  obtain ⟨before, heq⟩ := hafter
  obtain ⟨hsum, hpre⟩ := braces_of_checkLines h
  rw [← heq, braces_append] at hsum
  by_cases hnil : before = []
  · subst hnil
    simp only [braces_nil] at hsum
    omega
  · have := hpre before after heq.symm hnil
    omega

/-- A line with an opening brace somewhere. -/
def opensBrace (line : List Char) : Bool := line.contains '{'

/-- A line with a closing brace behind something else. -/
def closesWithin (line : List Char) : Bool := line.contains '}' && !endsBlock line

/-- Where no line ends a block, all closing braces stand behind something else. -/
theorem braces_eq_of_not_endsBlock {lines : List (List Char)}
    (h : ∀ line ∈ lines, endsBlock line = false) :
    braces lines = (lines.countP opensBrace : Int) - lines.countP closesWithin := by
  induction lines with
  | nil => rfl
  | cons line rest ih =>
      obtain ⟨hline, hrest⟩ := List.forall_mem_cons.1 h
      have hcloses : closesWithin line = line.contains '}' := by simp [closesWithin, hline]
      rw [braces_cons, ih hrest, List.countP_cons, List.countP_cons, hcloses, braceChange, opensBrace]
      split <;> split <;> push_cast <;> omega

/-- No keyword begins with a closing brace. -/
theorem endsBlock_of_keyword? {line argument : List Char} {keyword : Keyword}
    (h : keyword? (trim line) = some (keyword, argument)) : endsBlock line = false := by
  rw [endsBlock]
  cases hends : startsWithChar '}' (trim line) with
  | false => rfl
  | true =>
      obtain ⟨rest, hrest⟩ := List.head?_eq_some_iff.1 (startsWithChar_iff.1 hends)
      rw [hrest] at h
      cases h

/-! ## The check and the blocks -/

/-- **A script that passes the check has no unterminated block** if braces mean the same to its blocks
as to the check: from each directive that leaves a block open to the end of the script, more lines have
an opening brace than have a closing one behind something else.  That is so in particular where a
brace opens the block and closing braces stand first on their lines. -/
theorem checked_blocks_terminated {code : String} (hcheck : check code = .ok ())
    (hbraces : ∀ keyword header argument below, ComesTo keyword header argument below (lines code) →
      LeavesOpen keyword (trim header) argument below →
      (header :: below).countP closesWithin < (header :: below).countP opensBrace)
    (file : String) :
    ∀ error, .error error ∈ parse file code → ¬ error.fault.IsUnterminated := by
  intro error hmem hfault
  obtain ⟨keyword, header, argument, below, hcomes, hopen, hbelow⟩ :=
    (unterminated_iff file code).1 ⟨error, hmem, hfault⟩
  have hnone : ∀ line ∈ header :: below, endsBlock line = false :=
    List.forall_mem_cons.2 ⟨endsBlock_of_keyword? hcomes.keyword?_eq, hbelow⟩
  have hclosed := braces_suffix hcheck hcomes.suffix
  have hmore := hbraces keyword header argument below hcomes hopen
  rw [braces_eq_of_not_endsBlock hnone] at hclosed
  omega

/-- A script with one block, opened on the line below its directive. -/
def blockScript : String := "startWEB: \"public\"\n\x7b\n  \"port\": \"8080\"\n\x7d"

/-- Reading the script comes to its one directive. -/
theorem comesTo_blockScript {keyword : Keyword} {header argument : List Char}
    {below : List (List Char)} (h : ComesTo keyword header argument below (lines blockScript)) :
    header :: below = lines blockScript := by
  have hlines : lines blockScript = ["startWEB: \"public\"".toList, ['{'],
      "  \"port\": \"8080\"".toList, ['}']] := by decide +kernel
  have hfirst : keyword? (trim "startWEB: \"public\"".toList) =
      some (.web, " \"public\"".toList) := by decide +kernel
  rw [hlines] at h ⊢
  cases h with
  | here => rfl
  | skip hline => rw [hfirst] at hline; cases hline
  | after hline h =>
      -- the directive takes all lines of its block
      rw [hfirst] at hline
      cases hline
      have hnothing : (readKeyword .web (trim "startWEB: \"public\"".toList) " \"public\"".toList
          [['{'], "  \"port\": \"8080\"".toList, ['}']]).2 = [] := by decide +kernel
      rw [hnothing] at h
      cases h

theorem checked_blocks_terminated_sample : check blockScript = .ok () ∧
    ∀ error, .error error ∈ parse "Main.tont" blockScript → ¬ error.fault.IsUnterminated := by
  have hcheck : check blockScript = .ok () := by decide +kernel
  refine ⟨hcheck, checked_blocks_terminated hcheck ?_ "Main.tont"⟩
  intro keyword header argument below hcomes _
  rw [comesTo_blockScript hcomes]
  decide +kernel

/-- A directive without its block passes the check, which does not know which directives have one:
this one has a value, as any other line may.  And so does a block whose closing brace stands behind
something else on its line: the check counts it, and to the block it ends nothing. -/
theorem unterminated_though_checked :
    (check "startWEB: \"public\"" = .ok () ∧
      parse "Main.tont" "startWEB: \"public\"" = [.error ⟨"Main.tont", 1, .blockUnterminated⟩]) ∧
    check "startWEB: \"public\"\n\x7b\n\"port\": \"80\" \x7d" = .ok () ∧
      parse "Main.tont" "startWEB: \"public\"\n\x7b\n\"port\": \"80\" \x7d" =
        [.error ⟨"Main.tont", 3, .blockUnterminated⟩] := by
  decide +kernel

end SiteScript.Script
