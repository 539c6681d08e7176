import SiteScript.Text.Basic
import SiteScript.Script.Directive

/-!
# SiteScript.Script.Block

The lines between the braces of a block directive.

A value is read by `blockValue`: its quotes, a comma after it and a `#` comment after that are taken
off.  Which quote closes a quoted value is decided by what follows it — nothing but an optional comma
and an optional comment — so quotes inside a value stay.
-/

namespace SiteScript.Script

open Text

/-! ## Values -/

/-- What may follow the closing quote of a value: an optional comma, then nothing or a comment. -/
def isValueEnd (tail : List Char) : Bool :=
  let tail := trimStart tail
  let tail := match tail with
    | ',' :: rest => rest
    | _ => tail
  match trimStart tail with
  | [] => true
  | c :: _ => c == '#'

/-- The text before the first quote that closes a value. -/
def quotedValue? : List Char → Option (List Char)
  | [] => none
  | c :: cs =>
    if c = '"' && isValueEnd cs then some []
    else (quotedValue? cs).map (c :: ·)

/-- The text before a comment, without blanks and trailing commas. -/
def bareValue (text : List Char) : List Char :=
  trim (dropEndWhile (· == ',') (trim (takeUntil (· == '#') text)))

/-- The value written in `raw`. -/
def blockValueChars (raw : List Char) : List Char :=
  match trim raw with
  | '"' :: body =>
    match quotedValue? body with
    | some value => value
    | none => dropEndWhile (· == '"') (bareValue body)
  | text => bareValue text

/-- The value written after the colon of a block line. -/
def blockValue (raw : String) : String :=
  onString blockValueChars raw

/-! ## Lines -/

/-- The key and value of a trimmed block line, unless it is a comment or has no key. -/
def blockEntry? (line : List Char) : Option (String × String) :=
  if startsWithChar '#' line then none
  else
    match cut? ':' line with
    | none => none
    | some (key, value) =>
      match trim (key.filter fun c => c != '"' && c != ',') with
      | [] => none
      | key => some (String.ofList key, String.ofList (blockValueChars value))

/-- The block with the entry of one more line. -/
def addBlockLine (block : Block) (line : List Char) : Block :=
  match blockEntry? line with
  | none => block
  | some (key, value) => block.insert key value

/-- Read the lines up to the one that begins with a closing brace.  Gives the lines after it, and
no block when there is no such line. -/
def readBlockBody (block : Block) : List (List Char) → Option Block × List (List Char)
  | [] => (none, [])
  | line :: rest =>
    let line := trim line
    if startsWithChar '}' line then (some block, rest)
    else readBlockBody (addBlockLine block line) rest

/-- Whether the braces open and close on the header line itself. -/
def closesInline (header : List Char) : Bool :=
  match cut? '{' header with
  | none => false
  | some (_, inline) => startsWithChar '}' (trimStart inline)

/-- Read the block that belongs to a header line. -/
def readBlock (header : List Char) (rest : List (List Char)) : Option Block × List (List Char) :=
  if closesInline header then (some .empty, rest) else readBlockBody .empty rest

/-- The title of a block: what stands between the colon and the brace, without quotes. -/
def blockTitle (header : List Char) : String :=
  let after := match cut? ':' header with
    | none => []
    | some (_, after) => after
  String.ofList (trim (without '"' (takeUntil (· == '{') after)))

/-- Reading a block never gives lines back. -/
theorem length_readBlockBody_le (block : Block) (rest : List (List Char)) :
    (readBlockBody block rest).2.length ≤ rest.length := by
  induction rest generalizing block with
  | nil => simp [readBlockBody]
  | cons line rest ih =>
    rw [readBlockBody]
    split
    · simp
    · exact Nat.le_succ_of_le (ih _)

theorem length_readBlock_le (header : List Char) (rest : List (List Char)) :
    (readBlock header rest).2.length ≤ rest.length := by
  rw [readBlock]
  split
  · exact Nat.le_refl _
  · exact length_readBlockBody_le _ _

end SiteScript.Script
