import SiteScript.Proofs.Script.Writable

/-!
# SiteScript.Proofs.Script.Values

A value between quotes, and what may stand around it on its line.

1. After the closing quote there may be a `Trailer`: blanks, a comma, blanks, and a comment with any
   text, quotes included.  Every trailer ends a value (`Trailer.isValueEnd_text`), also when the
   line is trimmed first (`Trailer.exists_trimEnd`).
2. A quote inside a value ends it early exactly when a trailer with a comment follows, in the value
   itself (`keepsQuotes_eq_false_iff`): the value's own closing quote stands in the way of
   everything else.

So a value is read as it was written, whatever is around it, unless a comment seems to begin in it
(`blockValue_quoted_iff`). -/

namespace SiteScript.Script

open Text

/-- Nothing but blanks. -/
abbrev Blanks := { text : List Char // ∀ c ∈ text, isBlank c = true }

/-- What may stand after a value on its line. -/
structure Trailer where
  gap : Blanks
  comma : Bool
  space : Blanks
  /-- The text of a comment, if there is one. -/
  comment : Option (List Char)

/-- The text of an optional comma. -/
def commaText (comma : Bool) : List Char :=
  if comma then [','] else []

/-- The text of an optional comment. -/
def commentText : Option (List Char) → List Char
  | none => []
  | some text => '#' :: text

/-- How a trailer is written. -/
def Trailer.text (trailer : Trailer) : List Char :=
  trailer.gap.1 ++ (commaText trailer.comma ++ (trailer.space.1 ++ commentText trailer.comment))

/-! ## Trailers -/

theorem trimStart_blanks (blanks : Blanks) (text : List Char) :
    trimStart (blanks.1 ++ text) = trimStart text :=
  List.dropWhile_append_of_pos blanks.2

theorem trimEnd_blanks (blanks : Blanks) : trimEnd blanks.1 = [] := by
  rw [trimEnd, dropEndWhile, List.reverse_eq_nil_iff, ← List.append_nil blanks.1.reverse,
    List.dropWhile_append_of_pos fun c hc => blanks.2 c (List.mem_reverse.1 hc)]
  rfl

theorem trimStart_commentText (comment : Option (List Char)) :
    trimStart (commentText comment) = commentText comment := by
  cases comment <;> rfl

/-- What is left of a trailer without its blanks and its comma is its comment. -/
theorem Trailer.afterComma_text (trailer : Trailer) :
    trimStart (afterComma (trimStart trailer.text)) = commentText trailer.comment := by
  obtain ⟨gap, comma, space, comment⟩ := trailer
  simp only [text, trimStart_blanks]
  cases comma with
  | true => exact (trimStart_blanks space _).trans (trimStart_commentText comment)
  | false =>
      rw [commaText, if_neg Bool.false_ne_true, List.nil_append, trimStart_blanks,
        trimStart_commentText]
      cases comment <;> rfl

/-- Blanks, a comma and blanks stand before what is left of any text without them. -/
theorem exists_before_afterComma (tail : List Char) :
    ∃ (gap : Blanks) (comma : Bool) (space : Blanks), tail =
      gap.1 ++ (commaText comma ++ (space.1 ++ trimStart (afterComma (trimStart tail)))) := by
  have hblanks : ∀ text, ∃ blanks : Blanks, text = blanks.1 ++ trimStart text := fun text =>
    ⟨⟨text.takeWhile isBlank, List.all_eq_true.1 List.all_takeWhile⟩,
      List.takeWhile_append_dropWhile.symm⟩
  have hcomma : ∀ text, ∃ comma, text = commaText comma ++ afterComma text := by
    intro text
    unfold afterComma
    split
    · exact ⟨true, rfl⟩
    · exact ⟨false, rfl⟩
  obtain ⟨gap, hgap⟩ := hblanks tail
  obtain ⟨comma, hcomma⟩ := hcomma (trimStart tail)
  obtain ⟨space, hspace⟩ := hblanks (afterComma (trimStart tail))
  exact ⟨gap, comma, space, by rw [← hspace, ← hcomma, ← hgap]⟩

/-- A value ends where a trailer follows. -/
theorem Trailer.isValueEnd_text (trailer : Trailer) : isValueEnd trailer.text = true := by
  rw [isValueEnd_eq, trailer.afterComma_text]
  cases trailer.comment <;> rfl

/-- A trailer stays a trailer when the blanks at its end are taken off. -/
theorem Trailer.exists_trimEnd (trailer : Trailer) :
    ∃ trimmed : Trailer, trimEnd trailer.text = trimmed.text := by
  obtain ⟨gap, comma, space, comment⟩ := trailer
  cases comment with
  | some comment =>
      refine ⟨⟨gap, comma, space, some (trimEnd comment)⟩, ?_⟩
      have hkept := dropEndWhile_append_cons (show isBlank '#' = false from rfl)
        (gap.1 ++ (commaText comma ++ space.1)) comment
      simpa [text, commentText, trimEnd] using hkept
  | none =>
      cases comma with
      | true =>
          refine ⟨⟨gap, true, ⟨[], by simp⟩, none⟩, ?_⟩
          have hkept := dropEndWhile_append_cons (show isBlank ',' = false from rfl) gap.1 space.1
          rw [← trimEnd, ← trimEnd, trimEnd_blanks] at hkept
          simpa [text, commentText, commaText] using hkept
      | false =>
          refine ⟨⟨⟨[], by simp⟩, false, ⟨[], by simp⟩, none⟩, ?_⟩
          have hkept := trimEnd_blanks ⟨gap.1 ++ space.1, fun c hc =>
            (List.mem_append.1 hc).elim (gap.2 c) (space.2 c)⟩
          simpa [text, commentText, commaText] using hkept

/-! ## Quotes -/

/-- A comment begins where a trailer with one follows. -/
theorem beginsComment_iff {tail : List Char} :
    beginsComment tail = true ↔ ∃ gap comma space comment,
      tail = Trailer.text ⟨gap, comma, space, some comment⟩ := by
  rw [beginsComment, startsWithChar_iff]
  constructor
  · intro h
    obtain ⟨gap, comma, space, htail⟩ := exists_before_afterComma tail
    obtain ⟨comment, hcomment⟩ := List.head?_eq_some_iff.1 h
    exact ⟨gap, comma, space, comment, by rw [htail, hcomment]; rfl⟩
  · rintro ⟨gap, comma, space, comment, rfl⟩
    rw [Trailer.afterComma_text]
    rfl

/-- A quote of a value ends it when a trailer with a comment follows in the value. -/
theorem keepsQuotes_eq_false_iff {value : List Char} :
    keepsQuotes value = false ↔ ∃ before gap comma space comment,
      value = before ++ '"' :: Trailer.text ⟨gap, comma, space, some comment⟩ := by
  induction value with
  | nil => simp [keepsQuotes]
  | cons c value ih =>
      rw [keepsQuotes]
      split
      next hquote =>
        obtain ⟨hc, hcomment⟩ := Bool.and_eq_true_iff.1 hquote
        obtain rfl : c = '"' := by simpa using hc
        obtain ⟨gap, comma, space, comment, rfl⟩ := beginsComment_iff.1 hcomment
        exact ⟨fun _ => ⟨[], gap, comma, space, comment, rfl⟩, fun _ => rfl⟩
      next hquote =>
        rw [ih]
        constructor
        · rintro ⟨before, gap, comma, space, comment, rfl⟩
          exact ⟨c :: before, gap, comma, space, comment, rfl⟩
        · rintro ⟨before, gap, comma, space, comment, heq⟩
          cases before with
          | nil =>
              obtain ⟨rfl, rfl⟩ := List.cons.inj heq
              have hcomment := beginsComment_iff.2 ⟨gap, comma, space, comment, rfl⟩
              exact absurd (by simp [hcomment]) hquote
          | cons d before =>
              exact ⟨before, gap, comma, space, comment, (List.cons.inj heq).2⟩

/-- A quoted value is read up to one of its quotes, and as a whole if it keeps them. -/
theorem exists_quotedValue? {after : List Char} (hafter : isValueEnd after = true)
    (value : List Char) : ∃ read, quotedValue? (value ++ '"' :: after) = some read ∧
      (read = value ↔ keepsQuotes value = true) := by
  have hread : ∃ read, quotedValue? (value ++ '"' :: after) = some read := by
    induction value with
    | nil => exact ⟨[], by simp [quotedValue?, hafter]⟩
    | cons c value ih =>
        obtain ⟨read, hread⟩ := ih
        rw [List.cons_append, quotedValue?, hread]
        split
        · exact ⟨[], rfl⟩
        · exact ⟨c :: read, rfl⟩
  obtain ⟨read, hread⟩ := hread
  refine ⟨read, hread, fun heq => heq ▸ (quotedValue?_eq_some hread).1, fun hkeeps => ?_⟩
  rw [quotedValue?_append hkeeps hafter] at hread
  exact (Option.some.inj hread).symm

/-- **Quoted values survive.**  Whatever blanks stand before a quoted value and whatever trailer
after it, the value is read as it is between its quotes if and only if no quote in it is followed,
in the value itself, by blanks, perhaps a comma, blanks, and the mark of a comment. -/
theorem blockValue_quoted_iff (indent : Blanks) (value : String) (trailer : Trailer) :
    blockValue (String.ofList (indent.1 ++ '"' :: (value.toList ++ '"' :: trailer.text))) = value ↔
      ¬ ∃ before gap comma space comment,
        value.toList = before ++ '"' :: Trailer.text ⟨gap, comma, space, some comment⟩ := by
  have hquote : isBlank '"' = false := rfl
  obtain ⟨trimmed, htrimmed⟩ := trailer.exists_trimEnd
  have htrim : trim (indent.1 ++ '"' :: (value.toList ++ '"' :: trailer.text)) =
      '"' :: (value.toList ++ '"' :: trimmed.text) := by
    rw [trim, trimStart_blanks, ← trim, trim_cons hquote, trimEnd,
      dropEndWhile_append_cons hquote, ← trimEnd, htrimmed]
  obtain ⟨read, hread, hwhole⟩ := exists_quotedValue? trimmed.isValueEnd_text value.toList
  rw [← keepsQuotes_eq_false_iff, Bool.not_eq_false, ← hwhole, blockValue, onString,
    String.toList_ofList, blockValueChars, htrim]
  simp only [hread]
  constructor
  · intro h
    rw [← h, String.toList_ofList]
  · intro h
    rw [h, String.ofList_toList]

/-- Quotes and commas of a value stay, and those of a comment do not matter. -/
example : blockValue "  \"say \"hi\", you\" , # not \"me\"" = "say \"hi\", you" := by decide +kernel

/-- A comment seems to begin in this value. -/
example : blockValue "\"room \"12\", #2\"," = "room \"12" := by decide +kernel

end SiteScript.Script
