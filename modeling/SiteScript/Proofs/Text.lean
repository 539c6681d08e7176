import Mathlib.Data.List.Induction
import Mathlib.Data.List.Infix
import Mathlib.Data.List.TakeWhile
import SiteScript.Text.Basic

/-!
# SiteScript.Proofs.Text

Laws of trimming and cutting:

* **trimming** — a text is trimmed when neither of its ends is a blank (`trim_eq_self_iff`), and what
  is left of any text is trimmed (`trim_trim`); what neither begins nor ends with a blank is a part of
  a text after trimming as before (`contains_trim`);
* **cutting** — a cut finds the first separator, and pieces without the separator that are joined by
  it come apart again (`split_join`).
-/

namespace SiteScript.Text

/-! ## The ends of a text -/

theorem dropWhile_eq_self_iff {p : Char → Bool} {text : List Char} :
    text.dropWhile p = text ↔ ∀ c ∈ text.head?, p c = false := by
  cases text with
  | nil => simp
  | cons c text =>
    cases hc : p c with
    | false => simp [hc]
    | true =>
      refine ⟨fun h => ?_, fun h => by simp [hc] at h⟩
      rw [List.dropWhile_cons_of_pos hc] at h
      have hle := (List.dropWhile_suffix p (l := text)).length_le
      rw [h, List.length_cons] at hle
      omega

theorem dropEndWhile_eq_self_iff {p : Char → Bool} {text : List Char} :
    dropEndWhile p text = text ↔ ∀ c ∈ text.getLast?, p c = false := by
  rw [dropEndWhile, List.reverse_eq_iff, dropWhile_eq_self_iff, List.head?_reverse]

/-- What is taken off the end is a tail of such characters. -/
theorem exists_dropEndWhile (p : Char → Bool) (text : List Char) :
    ∃ tail, dropEndWhile p text ++ tail = text ∧ ∀ c ∈ tail, p c = true := by
  refine ⟨(text.reverse.takeWhile p).reverse, ?_, fun c hc => ?_⟩
  · rw [dropEndWhile, ← List.reverse_append, List.takeWhile_append_dropWhile, List.reverse_reverse]
  · exact List.all_eq_true.1 List.all_takeWhile c (List.mem_reverse.1 hc)

/-- Taking characters off the end leaves a beginning of the text. -/
theorem dropEndWhile_isPrefix (p : Char → Bool) (text : List Char) :
    dropEndWhile p text <+: text :=
  (exists_dropEndWhile p text).imp fun _ h => h.1

/-- A character that stays is not reached from the end, nor is what stands before it. -/
theorem dropEndWhile_append_cons {p : Char → Bool} {c : Char} (h : p c = false)
    (before after : List Char) :
    dropEndWhile p (before ++ c :: after) = before ++ c :: dropEndWhile p after := by
  rw [dropEndWhile, dropEndWhile, List.reverse_append, List.reverse_cons, List.append_assoc,
    List.dropWhile_append]
  split
  next hempty => simp [h, List.isEmpty_iff.1 hempty]
  next => simp

theorem dropEndWhile_cons {p : Char → Bool} {c : Char} (h : p c = false) (text : List Char) :
    dropEndWhile p (c :: text) = c :: dropEndWhile p text :=
  dropEndWhile_append_cons h [] text

/-- Taking characters off the end leaves the first one in its place. -/
theorem mem_head?_of_dropEndWhile {p : Char → Bool} {text : List Char} {c : Char}
    (h : c ∈ (dropEndWhile p text).head?) : c ∈ text.head? := by
  obtain ⟨rest, hrest⟩ := List.head?_eq_some_iff.1 h
  obtain ⟨dropped, hdropped⟩ := dropEndWhile_isPrefix p text
  rw [← hdropped, hrest]
  rfl

/-- Where dropping characters stops there is one that stays. -/
theorem eq_false_of_mem_head?_dropWhile {p : Char → Bool} {text : List Char} {c : Char}
    (h : c ∈ (text.dropWhile p).head?) : p c = false := by
  have hnot := List.head?_dropWhile_not p text
  rwa [Option.mem_def.1 h] at hnot

theorem eq_false_of_mem_getLast?_dropEndWhile {p : Char → Bool} {text : List Char} {c : Char}
    (h : c ∈ (dropEndWhile p text).getLast?) : p c = false := by
  rw [dropEndWhile, List.getLast?_reverse] at h
  exact eq_false_of_mem_head?_dropWhile h

theorem startsWithChar_iff {c : Char} {text : List Char} :
    startsWithChar c text = true ↔ text.head? = some c := by
  cases text with
  | nil => simp [startsWithChar]
  | cons d text => rw [startsWithChar, beq_iff_eq, List.head?_cons, Option.some_inj, eq_comm]

theorem startsWith_iff {start text : List Char} : startsWith start text = true ↔ start <+: text := by
  rw [startsWith, Option.isSome_iff_exists]
  simp only [dropPrefix?_eq_some]
  exact ⟨fun ⟨rest, h⟩ => ⟨rest, h.symm⟩, fun ⟨rest, h⟩ => ⟨rest, h.symm⟩⟩

theorem contains_iff {part text : List Char} : contains part text = true ↔ part <:+: text := by
  induction text with
  | nil => simp [contains]
  | cons c text ih => rw [contains, Bool.or_eq_true, startsWith_iff, ih, List.infix_cons_iff]

theorem dropEndWhile_eq_nil_iff {p : Char → Bool} {text : List Char} :
    dropEndWhile p text = [] ↔ ∀ c ∈ text, p c = true := by
  simp [dropEndWhile, List.dropWhile_eq_nil_iff]

/-- What does not begin with a fitting character is not touched when such characters are dropped. -/
theorem infix_dropWhile_iff {p : Char → Bool} {c : Char} (hc : p c = false) (part text : List Char) :
    c :: part <:+: text.dropWhile p ↔ c :: part <:+: text := by
  induction text with
  | nil => rfl
  | cons d text ih =>
      cases hd : p d with
      | false => rw [List.dropWhile_cons_of_neg (by simp [hd])]
      | true =>
          have hne : c ≠ d := by
            rintro rfl
            rw [hc] at hd
            cases hd
          rw [List.dropWhile_cons_of_pos hd, ih, List.infix_cons_iff, List.cons_prefix_cons]
          simp [hne]

/-- What does not end with a fitting character is not touched when such characters are taken off the
end. -/
theorem infix_dropEndWhile_iff {p : Char → Bool} {c : Char} (hc : p c = false)
    (part text : List Char) :
    part ++ [c] <:+: dropEndWhile p text ↔ part ++ [c] <:+: text := by
  rw [← List.reverse_infix, dropEndWhile, List.reverse_reverse,
    ← @List.reverse_infix _ (part ++ [c]) text]
  simpa using infix_dropWhile_iff hc part.reverse text.reverse

/-! ## Trimming -/

/-- A blank text has nothing but blanks. -/
theorem isBlankText_iff {text : List Char} :
    isBlankText text = true ↔ ∀ c ∈ text, isBlank c = true := by
  have hstart : trimStart text = [] ↔ ∀ c ∈ text, isBlank c = true := List.dropWhile_eq_nil_iff
  rw [isBlankText, List.isEmpty_iff, ← hstart, trim, trimEnd, dropEndWhile_eq_nil_iff]
  constructor
  · intro hblank
    -- the first character that is left would be no blank
    match hrest : trimStart text with
    | [] => rfl
    | c :: rest =>
        have hc : isBlank c = false := eq_false_of_mem_head?_dropWhile (by rw [← trimStart, hrest]; rfl)
        rw [hblank c (hrest ▸ List.mem_cons_self)] at hc
        cases hc
  · intro hnil
    simp [hnil]

/-- What is left after trimming is a part of the text. -/
theorem trim_isInfix (text : List Char) : trim text <:+: text :=
  (dropEndWhile_isPrefix _ _).isInfix.trans (List.dropWhile_suffix _).isInfix

theorem mem_of_mem_trim {c : Char} {text : List Char} (h : c ∈ trim text) : c ∈ text :=
  (trim_isInfix text).subset h

/-- A text is trimmed when it neither begins nor ends with a blank. -/
theorem trim_eq_self_iff {text : List Char} :
    trim text = text ↔
      (∀ c ∈ text.head?, isBlank c = false) ∧ ∀ c ∈ text.getLast?, isBlank c = false := by
  rw [← dropWhile_eq_self_iff, ← dropEndWhile_eq_self_iff]
  constructor
  · intro h
    have hstart : trimStart text = text := by
      refine (List.dropWhile_suffix _).eq_of_length_le ?_
      have hle := (dropEndWhile_isPrefix isBlank (trimStart text)).length_le
      rw [← trimEnd, ← trim, h] at hle
      exact hle
    rw [trim, hstart] at h
    exact ⟨hstart, h⟩
  · rintro ⟨hstart, hend⟩
    rw [trim, trimStart, hstart]
    exact hend

theorem trim_between {first last : Char} (hfirst : isBlank first = false)
    (hlast : isBlank last = false) (text : List Char) :
    trim (first :: (text ++ [last])) = first :: (text ++ [last]) := by
  refine trim_eq_self_iff.2 ⟨fun c hc => ?_, fun c hc => ?_⟩
  · obtain rfl : first = c := by simpa using hc
    exact hfirst
  · rw [← List.cons_append, List.getLast?_concat] at hc
    obtain rfl : last = c := by simpa using hc
    exact hlast

/-- A text without blanks has nothing to trim. -/
theorem trim_eq_self {text : List Char} (h : ∀ c ∈ text, isBlank c = false) : trim text = text :=
  trim_eq_self_iff.2 ⟨fun c hc => h c (List.mem_of_mem_head? hc),
    fun c hc => h c (List.mem_of_getLast? hc)⟩

/-- What is left after trimming is trimmed. -/
theorem trim_trim (text : List Char) : trim (trim text) = trim text := by
  refine trim_eq_self_iff.2 ⟨fun c hc => ?_, fun c hc => eq_false_of_mem_getLast?_dropEndWhile hc⟩
  exact eq_false_of_mem_head?_dropWhile (mem_head?_of_dropEndWhile hc)

theorem trim_cons_of_blank {c : Char} (h : isBlank c = true) (text : List Char) :
    trim (c :: text) = trim text := by
  rw [trim, trim, trimStart, trimStart, List.dropWhile_cons_of_pos h]

theorem trim_cons {c : Char} (h : isBlank c = false) (text : List Char) :
    trim (c :: text) = c :: trimEnd text := by
  rw [trim, trimStart, List.dropWhile_cons_of_neg (by simp [h])]
  exact dropEndWhile_cons h text

/-- **Trimming keeps** what neither begins nor ends with a blank. -/
theorem contains_trim {part : List Char} (hne : part ≠ []) (hplain : part.any isBlank = false)
    (text : List Char) : contains part (trim text) = contains part text := by
  have hends : ∀ c ∈ part, isBlank c = false := by simpa using hplain
  rw [Bool.eq_iff_iff, contains_iff, contains_iff, trim, trimEnd, trimStart]
  have hlast : part.dropLast ++ [part.getLast hne] = part := List.dropLast_concat_getLast hne
  have hend := infix_dropEndWhile_iff (hends _ (List.getLast_mem hne)) part.dropLast
    (text.dropWhile isBlank)
  rw [hlast] at hend
  obtain ⟨c, rest, rfl⟩ := List.exists_cons_of_ne_nil hne
  rw [hend, infix_dropWhile_iff (hends c List.mem_cons_self)]

/-- Trimming takes off nothing but blanks. -/
theorem mem_trim_iff {c : Char} (hc : isBlank c = false) {text : List Char} :
    c ∈ trim text ↔ c ∈ text := by
  rw [← List.singleton_infix_iff, ← List.singleton_infix_iff, ← contains_iff, ← contains_iff,
    contains_trim (by simp) (by simpa using hc)]

/-- A blank at the end is trimmed off. -/
theorem trim_append_blank {c : Char} (hc : isBlank c = true) (text : List Char) :
    trim (text ++ [c]) = trim text := by
  have hend : ∀ start : List Char, trimEnd (start ++ [c]) = trimEnd start := by
    intro start
    rw [trimEnd, trimEnd, dropEndWhile, List.reverse_concat, List.dropWhile_cons_of_pos hc,
      dropEndWhile]
  rw [trim, trim, trimStart, trimStart, List.dropWhile_append]
  split
  next hblank =>
    rw [List.isEmpty_iff.1 hblank, List.dropWhile_cons_of_pos hc]
    rfl
  next => exact hend _

/-- Around a character that is no blank, each side is trimmed on its own. -/
theorem trim_append_cons {c : Char} (h : isBlank c = false) (before after : List Char) :
    trim (before ++ c :: after) = trimStart before ++ c :: trimEnd after := by
  have hstart : trimStart (before ++ c :: after) = trimStart before ++ c :: after := by
    rw [trimStart, trimStart, List.dropWhile_append]
    split
    next hempty => simp [h, List.isEmpty_iff.1 hempty]
    next => rfl
  rw [trim, hstart, trimEnd, dropEndWhile_append_cons h, trimEnd]

theorem trim_trimStart (text : List Char) : trim (trimStart text) = trim text := by
  have hstart : trimStart (trimStart text) = trimStart text :=
    dropWhile_eq_self_iff.2 fun c hc => eq_false_of_mem_head?_dropWhile hc
  rw [trim, hstart, trim]

theorem trim_append_blanks {blanks : List Char} (h : ∀ c ∈ blanks, isBlank c = true)
    (text : List Char) : trim (text ++ blanks) = trim text := by
  induction blanks using List.reverseRecOn with
  | nil => rw [List.append_nil]
  | append_singleton blanks c ih =>
    rw [← List.append_assoc, trim_append_blank (h c (by simp)),
      ih fun b hb => h b (List.mem_append_left _ hb)]

theorem trim_trimEnd (text : List Char) : trim (trimEnd text) = trim text := by
  obtain ⟨tail, htext, hblanks⟩ := exists_dropEndWhile isBlank text
  exact (trim_append_blanks hblanks (trimEnd text)).symm.trans (congrArg trim htext)

/-- The outer quotes are all that is taken off. -/
theorem mem_of_mem_dropOuterQuotes {c : Char} {text : List Char} (h : c ∈ dropOuterQuotes text) :
    c ∈ text := by
  unfold dropOuterQuotes at h
  extract_lets opened at h
  have hopened : c ∈ opened → c ∈ text := by
    simp only [opened]
    split
    · exact List.mem_cons_of_mem _
    · exact id
  refine hopened ?_
  split at h
  next rest heq =>
    rw [← List.mem_reverse, heq]
    exact List.mem_cons_of_mem _ (List.mem_reverse.1 h)
  next => exact h

/-! ## Cutting -/

/-- A cut takes the first fitting character out, whatever follows it. -/
theorem cutWhere?_append {p : Char → Bool} {before : List Char} {c : Char}
    (hbefore : ∀ b ∈ before, p b = false) (hc : p c = true) (after : List Char) :
    cutWhere? p (before ++ c :: after) = some (before, after) := by
  induction before with
  | nil => simp [cutWhere?, hc]
  | cons b before ih =>
      obtain ⟨hb, hrest⟩ := List.forall_mem_cons.1 hbefore
      rw [List.cons_append, cutWhere?, hb, ih hrest]
      rfl

/-- A cut takes the first separator out, whatever follows it. -/
theorem cut?_append {sep : Char} {before : List Char} (h : sep ∉ before) (after : List Char) :
    cut? sep (before ++ sep :: after) = some (before, after) :=
  cutWhere?_append (fun b hb => by simpa using ne_of_mem_of_not_mem hb h) (by simp) after

/-- What a cut gives: the text around the first fitting character. -/
theorem eq_of_cutWhere? {p : Char → Bool} {text before after : List Char}
    (h : cutWhere? p text = some (before, after)) :
    (∀ b ∈ before, p b = false) ∧ ∃ c, p c = true ∧ text = before ++ c :: after := by
  induction text generalizing before with
  | nil => cases h
  | cons c text ih =>
    rw [cutWhere?] at h
    cases hc : p c with
    | true =>
      rw [if_pos hc] at h
      obtain ⟨rfl, rfl⟩ := Prod.mk.inj (Option.some.inj h)
      exact ⟨by simp, c, hc, rfl⟩
    | false =>
      rw [if_neg (by simp [hc])] at h
      obtain ⟨⟨before', after'⟩, hcut, heq⟩ := Option.map_eq_some_iff.1 h
      obtain ⟨rfl, rfl⟩ := Prod.mk.inj heq
      obtain ⟨hbefore, sep, hsep, rfl⟩ := ih hcut
      exact ⟨List.forall_mem_cons.2 ⟨hc, hbefore⟩, sep, hsep, rfl⟩

theorem cut?_eq_none {sep : Char} {text : List Char} (h : sep ∉ text) : cut? sep text = none := by
  match hcut : cut? sep text with
  | none => rfl
  | some (before, after) => exact absurd (by simp [eq_of_cut? hcut]) h

/-- A cut at the end takes the last separator out, whatever stands before it. -/
theorem cutLast?_append {sep : Char} {after : List Char} (h : sep ∉ after) (before : List Char) :
    cutLast? sep (before ++ sep :: after) = some (before, after) := by
  have hreverse : (before ++ sep :: after).reverse = after.reverse ++ sep :: before.reverse := by
    simp
  rw [cutLast?, hreverse, cut?_append (by simpa using h)]
  simp

theorem cutLast?_eq_none {sep : Char} {text : List Char} (h : sep ∉ text) :
    cutLast? sep text = none := by
  rw [cutLast?, cut?_eq_none (by simpa using h), Option.map_none]

/-- A cut at the end takes exactly one separator out. -/
theorem eq_of_cutLast? {sep : Char} {text before after : List Char}
    (h : cutLast? sep text = some (before, after)) : text = before ++ sep :: after := by
  obtain ⟨⟨after', before'⟩, hcut, heq⟩ := Option.map_eq_some_iff.1 h
  obtain ⟨rfl, rfl⟩ := Prod.mk.inj heq
  rw [← List.reverse_reverse text, eq_of_cut? hcut]
  simp

/-- A text with the separator is cut at the last one. -/
theorem exists_cutLast? {sep : Char} {text : List Char} (h : sep ∈ text) :
    ∃ before after, cutLast? sep text = some (before, after) ∧ text = before ++ sep :: after ∧
      sep ∉ after := by
  obtain ⟨after, before, hreverse, hsep⟩ := List.eq_append_cons_of_mem (List.mem_reverse.2 h)
  have htext : text = before.reverse ++ sep :: after.reverse := by
    rw [← List.reverse_reverse text, hreverse]
    simp
  have hafter : sep ∉ after.reverse := by simpa using hsep
  refine ⟨before.reverse, after.reverse, ?_, htext, hafter⟩
  rw [htext, cutLast?_append hafter]

theorem takeUntil_append {p : Char → Bool} {text : List Char} (h : ∀ c ∈ text, p c = false)
    (after : List Char) : takeUntil p (text ++ after) = text ++ takeUntil p after :=
  List.takeWhile_append_of_pos fun c hc => by simp [h c hc]

theorem takeUntil_eq_self {p : Char → Bool} {text : List Char} (h : ∀ c ∈ text, p c = false) :
    takeUntil p text = text := by
  simpa [takeUntil] using takeUntil_append h []

theorem without_eq_self {c : Char} {text : List Char} (h : c ∉ text) : without c text = text :=
  List.filter_eq_self.2 fun d hd => by simpa using ne_of_mem_of_not_mem hd h

theorem mem_takeUntil {p : Char → Bool} {text : List Char} {c : Char} (h : c ∈ takeUntil p text) :
    c ∈ text ∧ p c = false := by
  refine ⟨(List.takeWhile_prefix _).subset h, ?_⟩
  simpa using List.all_eq_true.1 List.all_takeWhile c h

theorem mem_without {c d : Char} {text : List Char} : d ∈ without c text ↔ d ∈ text ∧ d ≠ c := by
  simp [without]

/-- A text without the separator is one piece. -/
theorem split_eq_singleton {sep : Char} {text : List Char} (h : sep ∉ text) :
    split sep text = [text] := by
  induction text with
  | nil => rfl
  | cons c text ih =>
    simp only [List.mem_cons, not_or] at h
    rw [split, if_neg (Ne.symm h.1), ih h.2]

/-- No piece has the separator in it. -/
theorem not_mem_of_mem_split {sep : Char} {text piece : List Char} (h : piece ∈ split sep text) :
    sep ∉ piece := by
  induction text generalizing piece with
  | nil => simp_all [split]
  | cons c text ih =>
    rw [split] at h
    split at h
    next =>
      rcases List.mem_cons.1 h with rfl | h
      · simp
      · exact ih h
    next hne =>
      cases hs : split sep text with
      | nil => exact absurd hs (split_ne_nil sep text)
      | cons first pieces =>
        simp only [hs] at h ih
        rcases List.mem_cons.1 h with rfl | h
        · simp [Ne.symm hne, ih List.mem_cons_self]
        · exact ih (List.mem_cons_of_mem _ h)

/-- The pieces of two texts with a separator between them are the pieces of both. -/
theorem split_append_sep (sep : Char) (before after : List Char) :
    split sep (before ++ sep :: after) = split sep before ++ split sep after := by
  induction before with
  | nil => simp [split]
  | cons c before ih =>
    rw [List.cons_append, split, split]
    split
    · rw [ih, List.cons_append]
    · cases hs : split sep before with
      | nil => exact absurd hs (split_ne_nil sep before)
      | cons piece pieces => simp [ih, hs]

/-- Joined texts come apart into the pieces of each of them. -/
theorem split_join_flatMap {sep : Char} {texts : List (List Char)} (h : texts ≠ []) :
    split sep (join sep texts) = texts.flatMap (split sep) := by
  induction texts with
  | nil => exact absurd rfl h
  | cons text texts ih =>
    cases texts with
    | nil => simp [join]
    | cons next texts =>
      have hjoin : join sep (text :: next :: texts) = text ++ sep :: join sep (next :: texts) := rfl
      rw [hjoin, split_append_sep, ih (by simp), ← List.flatMap_cons]

theorem flatMap_split {sep : Char} {pieces : List (List Char)} (h : ∀ piece ∈ pieces, sep ∉ piece) :
    pieces.flatMap (split sep) = pieces := by
  induction pieces with
  | nil => rfl
  | cons piece pieces ih =>
    obtain ⟨hpiece, hpieces⟩ := List.forall_mem_cons.1 h
    rw [List.flatMap_cons, split_eq_singleton hpiece, ih hpieces, List.singleton_append]

/-- Pieces without the separator that are joined by it come apart again. -/
theorem split_join {sep : Char} {pieces : List (List Char)} (h : pieces ≠ [])
    (hsep : ∀ piece ∈ pieces, sep ∉ piece) : split sep (join sep pieces) = pieces := by
  rw [split_join_flatMap h, flatMap_split hsep]

end SiteScript.Text
