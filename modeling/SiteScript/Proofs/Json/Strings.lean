import SiteScript.Json.Fields
import SiteScript.Json.Printer

/-!
# SiteScript.Proofs.Json.Strings

Strings in quotes.

1. A character is written in one of three ways: after a backslash as a letter, as four hexadecimal
   digits, or as itself (`escapeChar_forms`).  Reading goes over each of them and gives the character
   back, so a quoted string reads as itself whatever follows its closing quote.
2. What may stand between quotes, and the characters it stands for, is `Spells`; reading takes that
   and nothing else (`Spells.reads`, `spells_of_scanString`). -/

namespace SiteScript.Json

/-- The three ways a character is written between quotes. -/
theorem escapeChar_forms (c : Char) :
    (∃ letter, isEscapeLetter letter = true ∧ letterValue letter = c ∧
      escapeChar c = ['\\', letter]) ∨
      (c.toNat < 0x20 ∧ escapeChar c = '\\' :: 'u' :: controlDigits c) ∨
      (c ≠ '"' ∧ c ≠ '\\' ∧ 0x20 ≤ c.toNat ∧ escapeChar c = [c]) := by
  by_cases hletter : c ∈ ['"', '\\', '\x08', '\x0c', '\n', '\r', '\t']
  · left
    simp only [List.mem_cons, List.not_mem_nil, or_false] at hletter
    rcases hletter with rfl | rfl | rfl | rfl | rfl | rfl | rfl
    · exact ⟨'"', by decide⟩
    · exact ⟨'\\', by decide⟩
    · exact ⟨'b', by decide⟩
    · exact ⟨'f', by decide⟩
    · exact ⟨'n', by decide⟩
    · exact ⟨'r', by decide⟩
    · exact ⟨'t', by decide⟩
  · right
    simp only [List.mem_cons, List.not_mem_nil, or_false, not_or] at hletter
    obtain ⟨hquote, hbackslash, hb, hf, hn, hr, ht⟩ := hletter
    simp only [escapeChar, hquote, hbackslash, hb, hf, hn, hr, ht, if_false]
    by_cases hcontrol : c.toNat < 0x20
    · exact .inl ⟨hcontrol, if_pos hcontrol⟩
    · exact .inr ⟨hquote, hbackslash, Nat.le_of_not_lt hcontrol, if_neg hcontrol⟩

/-- The letter `u` is not one of those that stand for a character alone. -/
theorem ne_u_of_isEscapeLetter {letter : Char} (h : isEscapeLetter letter = true) :
    letter ≠ 'u' := by
  rintro rfl
  exact absurd h (by decide)

/-- The digits of a control character are digits, and have its code for a value. -/
theorem controlDigits_value : ∀ n < 0x20,
    ['0', '0', Nat.digitChar (n / 16), Nat.digitChar (n % 16)].all isHexDigit = true ∧
      hexValue4 '0' '0' (Nat.digitChar (n / 16)) (Nat.digitChar (n % 16)) = n := by
  decide

/-! ## Scanning -/

theorem scanString_letter {letter : Char} (h : isEscapeLetter letter = true) (text : List Char) :
    scanString ('\\' :: letter :: text) =
      (scanString text).map fun (body, rest) => ('\\' :: letter :: body, rest) := by
  have hu := ne_u_of_isEscapeLetter h
  rw [scanString, if_pos h]
  exact fun _ _ _ _ _ heq => absurd heq hu

theorem scanString_plain {c : Char}
    (hquote : c ≠ '"') (hbackslash : c ≠ '\\') (hcontrol : 0x20 ≤ c.toNat)
    (text : List Char) :
    scanString (c :: text) = (scanString text).map fun (body, rest) => (c :: body, rest) := by
  have hplain : (c == '\\' || decide (c.toNat < 0x20)) = false := by simp [hbackslash, hcontrol]
  rw [scanString, if_neg (by simp [hplain])]
  · exact fun hc => absurd hc hquote
  · exact fun _ _ _ _ _ hc => absurd hc hbackslash
  · exact fun _ _ hc => absurd hc hbackslash

theorem scanString_code {a b c d : Char} (h : [a, b, c, d].all isHexDigit = true)
    (text : List Char) :
    scanString ('\\' :: 'u' :: a :: b :: c :: d :: text) =
      (scanString text).map fun (body, rest) => ('\\' :: 'u' :: a :: b :: c :: d :: body, rest) :=
  if_pos h

/-- Scanning goes over a written character. -/
theorem scanString_escapeChar (c : Char) (text : List Char) :
    scanString (escapeChar c ++ text) =
      (scanString text).map fun (body, rest) => (escapeChar c ++ body, rest) := by
  rcases escapeChar_forms c with ⟨letter, hletter, -, hform⟩ | ⟨hcontrol, hform⟩ |
    ⟨hquote, hbackslash, hcontrol, hform⟩
  · rw [hform]
    exact scanString_letter hletter text
  · rw [hform]
    exact scanString_code (controlDigits_value c.toNat hcontrol).1 text
  · rw [hform]
    exact scanString_plain hquote hbackslash hcontrol text

/-- Scanning goes over written characters up to the closing quote. -/
theorem scanString_escapeChars (cs text : List Char) :
    scanString (cs.flatMap escapeChar ++ '"' :: text) = some (cs.flatMap escapeChar, text) := by
  induction cs with
  | nil => rfl
  | cons c cs ih => rw [List.flatMap_cons, List.append_assoc, scanString_escapeChar, ih]; rfl

/-- A text that is scanned up to its closing quote, whatever follows that. -/
def IsBody (body : List Char) : Prop :=
  ∀ text, scanString (body ++ '"' :: text) = some (body, text)

/-- What is written between the quotes of a string is scanned. -/
theorem isBody_escape (s : String) : IsBody (escape s) :=
  scanString_escapeChars s.toList

/-- What scanning a string goes over first: the closing quote, or one of three forms. -/
theorem scanString_cases {text body rest : List Char} (h : scanString text = some (body, rest)) :
    (body = [] ∧ text = '"' :: rest) ∨
    (∃ c body' text', c ≠ '"' ∧ c ≠ '\\' ∧ 0x20 ≤ c.toNat ∧ body = c :: body' ∧ text = c :: text' ∧
      scanString text' = some (body', rest)) ∨
    (∃ c body' text', isEscapeLetter c = true ∧ body = '\\' :: c :: body' ∧
      text = '\\' :: c :: text' ∧ scanString text' = some (body', rest)) ∨
    ∃ a b c d body' text', [a, b, c, d].all isHexDigit = true ∧
      body = '\\' :: 'u' :: a :: b :: c :: d :: body' ∧
      text = '\\' :: 'u' :: a :: b :: c :: d :: text' ∧ scanString text' = some (body', rest) := by
  rw [scanString.eq_def] at h
  split at h
  · cases h
  · cases h
    exact .inl ⟨rfl, rfl⟩
  next a b c d text' =>
    split at h
    next hdigits =>
      obtain ⟨⟨body', _⟩, hscan, heq⟩ := Option.map_eq_some_iff.1 h
      cases heq
      exact .inr (.inr (.inr ⟨a, b, c, d, body', text', hdigits, rfl, rfl, hscan⟩))
    next => cases h
  next c text' _ =>
    split at h
    next hletter =>
      obtain ⟨⟨body', _⟩, hscan, heq⟩ := Option.map_eq_some_iff.1 h
      cases heq
      exact .inr (.inr (.inl ⟨c, body', text', hletter, rfl, rfl, hscan⟩))
    next => cases h
  next c text' hquote _ _ =>
    split at h
    next => cases h
    next hplain =>
      obtain ⟨⟨body', _⟩, hscan, heq⟩ := Option.map_eq_some_iff.1 h
      cases heq
      simp only [Bool.or_eq_true, beq_iff_eq, decide_eq_true_eq, not_or, Nat.not_lt] at hplain
      exact .inr (.inl ⟨c, body', text', hquote, hplain.1, hplain.2, rfl, rfl, hscan⟩)

/-! ## Meaning -/

theorem unescape_letter {letter : Char} (h : isEscapeLetter letter = true) (text : List Char) :
    unescape ('\\' :: letter :: text) = (unescape text).map (letterValue letter :: ·) := by
  have hu := ne_u_of_isEscapeLetter h
  rw [unescape]
  exact fun _ _ _ _ _ heq => absurd heq hu

theorem unescape_plain {c : Char} (h : c ≠ '\\') (text : List Char) :
    unescape (c :: text) = (unescape text).map (c :: ·) := by
  rw [unescape]
  · exact fun _ _ _ _ _ hc => absurd hc h
  · exact fun _ _ hc => absurd hc h

/-- The digits of a code are read together with those of a second half, if they are a first one. -/
theorem unescape_digits (a b c d : Char) (text : List Char) :
    unescape ('\\' :: 'u' :: a :: b :: c :: d :: text) =
      if 0xDC00 ≤ hexValue4 a b c d && hexValue4 a b c d ≤ 0xDFFF then none
      else if 0xD800 ≤ hexValue4 a b c d && hexValue4 a b c d ≤ 0xDBFF then
        match text with
        | '\\' :: 'u' :: e :: f :: g :: h :: rest =>
          if 0xDC00 ≤ hexValue4 e f g h && hexValue4 e f g h ≤ 0xDFFF then
            (unescape rest).map (Char.ofNat (0x10000 + (hexValue4 a b c d - 0xD800) * 0x400 +
              (hexValue4 e f g h - 0xDC00)) :: ·)
          else none
        | _ => none
      else (unescape text).map (Char.ofNat (hexValue4 a b c d) :: ·) := by
  rw [unescape.eq_def]
  rfl

theorem unescape_code {a b c d : Char}
    (h : hexValue4 a b c d < 0xD800 ∨ 0xDFFF < hexValue4 a b c d) (text : List Char) :
    unescape ('\\' :: 'u' :: a :: b :: c :: d :: text) =
      (unescape text).map (Char.ofNat (hexValue4 a b c d) :: ·) := by
  rw [unescape_digits, if_neg (by simp; omega), if_neg (by simp; omega)]

theorem unescape_pair {a b c d e f g h : Char}
    (hhigh : 0xD800 ≤ hexValue4 a b c d ∧ hexValue4 a b c d ≤ 0xDBFF)
    (hlow : 0xDC00 ≤ hexValue4 e f g h ∧ hexValue4 e f g h ≤ 0xDFFF) (text : List Char) :
    unescape ('\\' :: 'u' :: a :: b :: c :: d :: '\\' :: 'u' :: e :: f :: g :: h :: text) =
      (unescape text).map (Char.ofNat (0x10000 + (hexValue4 a b c d - 0xD800) * 0x400 +
        (hexValue4 e f g h - 0xDC00)) :: ·) := by
  rw [unescape_digits, if_neg (by simp; omega), if_pos (by simpa using hhigh)]
  exact if_pos (by simpa using hlow)

/-- A written character means the character. -/
theorem unescape_escapeChar (c : Char) (text : List Char) :
    unescape (escapeChar c ++ text) = (unescape text).map (c :: ·) := by
  rcases escapeChar_forms c with ⟨letter, hletter, hvalue, hform⟩ | ⟨hcontrol, hform⟩ |
    ⟨-, hbackslash, -, hform⟩
  · rw [hform, ← hvalue]
    exact unescape_letter hletter text
  · -- a control character is no half of a surrogate pair
    have hvalue := (controlDigits_value c.toNat hcontrol).2
    have hcode := unescape_code (.inl (by rw [hvalue]; omega)) text
    rw [hvalue, Char.ofNat_toNat] at hcode
    rw [hform]
    exact hcode
  · rw [hform]
    exact unescape_plain hbackslash text

/-- What is written between the quotes of a string stands for the string. -/
theorem text?_escape (s : String) : Raw.text? (escape s) = some s := by
  have hchars : ∀ cs : List Char, unescape (cs.flatMap escapeChar) = some cs := by
    intro cs
    induction cs with
    | nil => rfl
    | cons c cs ih => rw [List.flatMap_cons, unescape_escapeChar, ih]; rfl
  rw [Raw.text?, escape, hchars, Option.map_some, String.ofList_toList]

/-- The digits of a code stand for its character, unless it is the first half of a surrogate pair,
where the digits of the second half have to follow. -/
theorem unescape_code_cases {a b c d : Char} {body text : List Char}
    (h : unescape ('\\' :: 'u' :: a :: b :: c :: d :: body) = some text) :
    (∃ text', (hexValue4 a b c d < 0xD800 ∨ 0xDFFF < hexValue4 a b c d) ∧
      unescape body = some text' ∧ text = Char.ofNat (hexValue4 a b c d) :: text') ∨
    ∃ e f g h body' text', body = '\\' :: 'u' :: e :: f :: g :: h :: body' ∧
      (0xD800 ≤ hexValue4 a b c d ∧ hexValue4 a b c d ≤ 0xDBFF) ∧
      (0xDC00 ≤ hexValue4 e f g h ∧ hexValue4 e f g h ≤ 0xDFFF) ∧
      unescape body' = some text' ∧
      text = Char.ofNat (0x10000 + (hexValue4 a b c d - 0xD800) * 0x400 +
        (hexValue4 e f g h - 0xDC00)) :: text' := by
  rw [unescape_digits] at h
  simp only [Bool.and_eq_true, decide_eq_true_eq] at h
  split at h
  · cases h
  next hlow =>
    split at h
    next hhigh =>
      split at h
      next e f g h' body' =>
        split at h
        next hrange =>
          obtain ⟨text', hbody, rfl⟩ := Option.map_eq_some_iff.1 h
          exact .inr ⟨e, f, g, h', body', text', rfl, hhigh, hrange, hbody, rfl⟩
        next => cases h
      next => cases h
    next hhigh =>
      obtain ⟨text', hbody, rfl⟩ := Option.map_eq_some_iff.1 h
      exact .inl ⟨text', by omega, hbody, rfl⟩

/-! ## Spellings -/

/-- The text between two quotes of a string and the characters it stands for: each of them as
itself, as a letter after a backslash, as the four digits of its code, or, beyond the basic plane, as
the digits of a surrogate pair. -/
inductive Spells : List Char → List Char → Prop where
  | nil : Spells [] []
  | plain {c : Char} {body text : List Char} (hquote : c ≠ '"') (hbackslash : c ≠ '\\')
      (hcontrol : 0x20 ≤ c.toNat) (h : Spells body text) : Spells (c :: body) (c :: text)
  | letter {c : Char} {body text : List Char} (hletter : isEscapeLetter c = true)
      (h : Spells body text) : Spells ('\\' :: c :: body) (letterValue c :: text)
  | code {a b c d : Char} {body text : List Char} (hdigits : [a, b, c, d].all isHexDigit = true)
      (hcode : hexValue4 a b c d < 0xD800 ∨ 0xDFFF < hexValue4 a b c d) (h : Spells body text) :
      Spells ('\\' :: 'u' :: a :: b :: c :: d :: body) (Char.ofNat (hexValue4 a b c d) :: text)
  | pair {a b c d e f g h : Char} {body text : List Char}
      (hdigits : [a, b, c, d].all isHexDigit = true) (hdigits' : [e, f, g, h].all isHexDigit = true)
      (hhigh : 0xD800 ≤ hexValue4 a b c d ∧ hexValue4 a b c d ≤ 0xDBFF)
      (hlow : 0xDC00 ≤ hexValue4 e f g h ∧ hexValue4 e f g h ≤ 0xDFFF) (hrest : Spells body text) :
      Spells ('\\' :: 'u' :: a :: b :: c :: d :: '\\' :: 'u' :: e :: f :: g :: h :: body)
        (Char.ofNat (0x10000 + (hexValue4 a b c d - 0xD800) * 0x400 + (hexValue4 e f g h - 0xDC00))
          :: text)

/-- What spells a text is scanned up to its closing quote, and stands for the text. -/
theorem Spells.reads {body text : List Char} (h : Spells body text) :
    IsBody body ∧ unescape body = some text := by
  induction h with
  | nil => exact ⟨fun _ => rfl, rfl⟩
  | plain hquote hbackslash hcontrol _ ih =>
      obtain ⟨hbody, htext⟩ := ih
      refine ⟨fun after => ?_, by rw [unescape_plain hbackslash, htext, Option.map_some]⟩
      rw [List.cons_append, scanString_plain hquote hbackslash hcontrol, hbody, Option.map_some]
  | letter hletter _ ih =>
      obtain ⟨hbody, htext⟩ := ih
      refine ⟨fun after => ?_, by rw [unescape_letter hletter, htext, Option.map_some]⟩
      simp only [List.cons_append]
      rw [scanString_letter hletter, hbody, Option.map_some]
  | code hdigits hcode _ ih =>
      obtain ⟨hbody, htext⟩ := ih
      refine ⟨fun after => ?_, by rw [unescape_code hcode, htext, Option.map_some]⟩
      simp only [List.cons_append]
      rw [scanString_code hdigits, hbody, Option.map_some]
  | pair hdigits hdigits' hhigh hlow _ ih =>
      obtain ⟨hbody, htext⟩ := ih
      refine ⟨fun after => ?_, by rw [unescape_pair hhigh hlow, htext, Option.map_some]⟩
      simp only [List.cons_append]
      rw [scanString_code hdigits, scanString_code hdigits', hbody, Option.map_some, Option.map_some]

/-- **What is scanned as a string and stands for characters is a text of those characters**, before
a closing quote. -/
theorem spells_of_scanString {text body rest cs : List Char}
    (hscan : scanString text = some (body, rest)) (hmeaning : unescape body = some cs) :
    text = body ++ '"' :: rest ∧ Spells body cs := by
  -- a pair takes two codes of the body at once, so the induction is on its length
  induction hlength : body.length using Nat.strongRecOn generalizing text body cs with
  | ind _ ih =>
  subst hlength
  rcases scanString_cases hscan with ⟨rfl, rfl⟩ |
    ⟨c, body', text', hquote, hbackslash, hcontrol, rfl, rfl, hscan'⟩ |
    ⟨c, body', text', hletter, rfl, rfl, hscan'⟩ |
    ⟨a, b, c, d, body', text', hdigits, rfl, rfl, hscan'⟩
  · cases hmeaning
    exact ⟨rfl, .nil⟩
  · rw [unescape_plain hbackslash] at hmeaning
    obtain ⟨cs', hcs, rfl⟩ := Option.map_eq_some_iff.1 hmeaning
    obtain ⟨rfl, hspells⟩ := ih _ (by simp only [List.length_cons]; omega) hscan' hcs rfl
    exact ⟨rfl, .plain hquote hbackslash hcontrol hspells⟩
  · rw [unescape_letter hletter] at hmeaning
    obtain ⟨cs', hcs, rfl⟩ := Option.map_eq_some_iff.1 hmeaning
    obtain ⟨rfl, hspells⟩ := ih _ (by simp only [List.length_cons]; omega) hscan' hcs rfl
    exact ⟨rfl, .letter hletter hspells⟩
  · rcases unescape_code_cases hmeaning with ⟨cs', hcode, hcs, rfl⟩ |
      ⟨e, f, g, h, body'', cs', rfl, hhigh, hlow, hcs, rfl⟩
    · obtain ⟨rfl, hspells⟩ := ih _ (by simp only [List.length_cons]; omega) hscan' hcs rfl
      exact ⟨rfl, .code hdigits hcode hspells⟩
    · -- the second half was scanned as a code of its own
      rcases scanString_cases hscan' with ⟨hnil, -⟩ | ⟨_, _, _, -, hne, -, hbody, -⟩ |
        ⟨_, _, _, hletter, hbody, -⟩ | ⟨_, _, _, _, _, text'', hdigits', hbody, rfl, hscan''⟩
      · cases hnil
      · exact absurd (List.cons.inj hbody).1.symm hne
      · cases hbody
        exact absurd rfl (ne_u_of_isEscapeLetter hletter)
      · cases hbody
        obtain ⟨rfl, hspells⟩ := ih _ (by simp only [List.length_cons]; omega) hscan'' hcs rfl
        exact ⟨rfl, .pair hdigits hdigits' hhigh hlow hspells⟩

end SiteScript.Json
