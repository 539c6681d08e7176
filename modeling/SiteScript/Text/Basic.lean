/-!
# SiteScript.Text.Basic

Text as the rest of the library cuts it up.  A text is handled as its list of characters; strings
appear at the borders only.

* **blanks** — `isBlank` is the `White_Space` property, `trim` drops blanks at both ends;
* **cutting** — `split` cuts at every occurrence of a separator and `cut?` at the first one, so
  `join sep (split sep s) = s` and the piece before the first cut is free of the separator;
* **matching** — `dropPrefix?` is the one way a keyword is recognised.

The small laws of these operations stand beside them, so that later proofs never open them.
-/

namespace SiteScript.Text

/-! ## Blanks -/

/-- A blank: the characters with the `White_Space` property. -/
def isBlank (c : Char) : Bool :=
  let n := c.toNat
  (0x09 ≤ n && n ≤ 0x0D) || n == 0x20 || n == 0x85 || n == 0xA0 || n == 0x1680 ||
    (0x2000 ≤ n && n ≤ 0x200A) || n == 0x2028 || n == 0x2029 || n == 0x202F || n == 0x205F ||
    n == 0x3000

/-- The text without its longest tail of characters satisfying `p`. -/
def dropEndWhile (p : Char → Bool) (text : List Char) : List Char :=
  (text.reverse.dropWhile p).reverse

/-- The text without leading blanks. -/
def trimStart (text : List Char) : List Char :=
  text.dropWhile isBlank

/-- The text without trailing blanks. -/
def trimEnd (text : List Char) : List Char :=
  dropEndWhile isBlank text

/-- The text without blanks at either end. -/
def trim (text : List Char) : List Char :=
  trimEnd (trimStart text)

/-- A text is blank when nothing is left of it after trimming. -/
def isBlankText (text : List Char) : Bool :=
  (trim text).isEmpty

/-! ## Cutting -/

/-- Cut at every occurrence of `sep`; there is always one piece more than there are separators. -/
def split (sep : Char) : List Char → List (List Char)
  | [] => [[]]
  | c :: cs =>
    if c = sep then [] :: split sep cs
    else
      match split sep cs with
      | [] => [[c]]
      | piece :: pieces => (c :: piece) :: pieces

/-- Put the pieces back together with `sep` between them. -/
def join (sep : Char) : List (List Char) → List Char
  | [] => []
  | [piece] => piece
  | piece :: pieces => piece ++ sep :: join sep pieces

/-- Cut at the first character satisfying `p`, which belongs to neither part. -/
def cutWhere? (p : Char → Bool) : List Char → Option (List Char × List Char)
  | [] => none
  | c :: cs =>
    if p c then some ([], cs)
    else (cutWhere? p cs).map fun (before, after) => (c :: before, after)

/-- Cut at the first occurrence of `sep`. -/
def cut? (sep : Char) (text : List Char) : Option (List Char × List Char) :=
  cutWhere? (· == sep) text

/-- Cut at the last occurrence of `sep`. -/
def cutLast? (sep : Char) (text : List Char) : Option (List Char × List Char) :=
  (cut? sep text.reverse).map fun (after, before) => (before.reverse, after.reverse)

/-- The text before the first character satisfying `p`, or all of it. -/
def takeUntil (p : Char → Bool) (text : List Char) : List Char :=
  text.takeWhile fun c => !p c

/-- The first word: the text from the first non-blank up to the next blank, if there is one. -/
def firstWord? (text : List Char) : Option (List Char) :=
  match takeUntil isBlank (trimStart text) with
  | [] => none
  | word => some word

/-! ## Matching -/

/-- The rest of a text that begins with the given start. -/
def dropPrefix? : List Char → List Char → Option (List Char)
  | [], text => some text
  | _ :: _, [] => none
  | p :: ps, c :: cs => if p = c then dropPrefix? ps cs else none

/-- Whether a text begins with the given start. -/
def startsWith (start text : List Char) : Bool :=
  (dropPrefix? start text).isSome

/-- Whether a text ends with the given end. -/
def endsWith (ending text : List Char) : Bool :=
  startsWith ending.reverse text.reverse

/-- Whether a text begins with the character. -/
def startsWithChar (c : Char) : List Char → Bool
  | [] => false
  | d :: _ => c == d

/-- Whether `part` occurs somewhere in the text. -/
def contains (part : List Char) : List Char → Bool
  | [] => part.isEmpty
  | c :: cs => startsWith part (c :: cs) || contains part cs

/-- The text without every occurrence of `c`. -/
def without (c : Char) (text : List Char) : List Char :=
  text.filter (· != c)

/-- A text without one leading double quote and one trailing one. -/
def dropOuterQuotes (text : List Char) : List Char :=
  let text := match text with
    | '"' :: rest => rest
    | _ => text
  match text.reverse with
  | '"' :: rest => rest.reverse
  | _ => text

/-! ## Strings -/

/-- A function of character lists as a function of strings. -/
def onString (f : List Char → List Char) (s : String) : String :=
  String.ofList (f s.toList)

/-- The lines of a string: its pieces between newlines. -/
def lines (s : String) : List (List Char) :=
  split '\n' s.toList

/-! ## Laws -/

theorem split_ne_nil (sep : Char) (text : List Char) : split sep text ≠ [] := by
  cases text with
  | nil => simp [split]
  | cons c cs =>
    rw [split]
    split
    · simp
    · split <;> simp

/-- Cutting and joining at the same separator gives the text back. -/
theorem join_split (sep : Char) (text : List Char) : join sep (split sep text) = text := by
  induction text with
  | nil => rfl
  | cons c cs ih =>
    rw [split]
    split
    next h =>
      subst h
      match hs : split c cs with
      | [] => exact absurd hs (split_ne_nil c cs)
      | piece :: pieces => rw [hs] at ih; simp [join, ih]
    next h =>
      match hs : split sep cs with
      | [] => exact absurd hs (split_ne_nil sep cs)
      | [piece] => rw [hs] at ih; simpa [join] using ih
      | piece :: next :: pieces => rw [hs] at ih; simpa [join] using ih

/-- What begins with `start` is `start` followed by the rest. -/
theorem dropPrefix?_eq_some {start text rest : List Char} :
    dropPrefix? start text = some rest ↔ text = start ++ rest := by
  induction start generalizing text with
  | nil => simp [dropPrefix?]
  | cons p ps ih =>
    cases text with
    | nil => simp [dropPrefix?]
    | cons c cs =>
      by_cases h : p = c
      · simp [dropPrefix?, h, ih]
      · simp [dropPrefix?, h, Ne.symm h]

/-- A cut takes exactly one separator out. -/
theorem eq_of_cut? {sep : Char} {text before after : List Char}
    (h : cut? sep text = some (before, after)) : text = before ++ sep :: after := by
  induction text generalizing before with
  | nil => simp [cut?, cutWhere?] at h
  | cons c cs ih =>
    rw [cut?, cutWhere?] at h
    split at h
    next hc =>
      have hc : c = sep := by simpa using hc
      simp_all
    next =>
      obtain ⟨⟨b, a⟩, hcut, heq⟩ := Option.map_eq_some_iff.1 h
      obtain ⟨rfl, rfl⟩ := Prod.mk.injEq .. ▸ heq
      simp [ih hcut]

end SiteScript.Text
