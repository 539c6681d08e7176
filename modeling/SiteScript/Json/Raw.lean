import SiteScript.Json.Number

/-!
# SiteScript.Json.Raw

The grammar of JSON.  A `Raw` tree is a text cut along that grammar and nothing more: numerals keep
their digits, strings their escapes, objects every member in the order written.  What a tree means —
and whether it means anything — is a second question (`SiteScript.Json.Reader`), because readers that
skip a value ask only for its form.

The recursion is on `fuel`, which `parse?` computes from the length of the text: every nested call is
for a text that has become shorter, at two calls a character.
-/

namespace SiteScript.Json

/-- A text cut along the grammar. -/
inductive Raw where
  | null
  | bool (value : Bool)
  | number (token : Number.Token)
  /-- The characters between the quotes, escapes and all. -/
  | string (body : List Char)
  | array (items : List Raw)
  | object (members : List (List Char × Raw))

/-- The blanks between tokens. -/
def isSpace (c : Char) : Bool :=
  c == ' ' || c == '\n' || c == '\t' || c == '\r'

/-- The text from the next token on. -/
def skipSpace (text : List Char) : List Char :=
  text.dropWhile isSpace

/-! ## Strings -/

/-- A hexadecimal digit, in either case. -/
def isHexDigit (c : Char) : Bool :=
  c.isDigit || ('a' ≤ c && c ≤ 'f') || ('A' ≤ c && c ≤ 'F')

/-- The letters that stand for themselves or a control character after a backslash. -/
def isEscapeLetter (c : Char) : Bool :=
  ['"', '\\', '/', 'b', 'f', 'n', 'r', 't'].contains c

/-- Read the rest of a string whose opening quote has been read: its body and what follows. -/
def scanString : List Char → Option (List Char × List Char)
  | [] => none
  | '"' :: rest => some ([], rest)
  | '\\' :: 'u' :: a :: b :: c :: d :: rest =>
    if [a, b, c, d].all isHexDigit then
      (scanString rest).map fun (body, rest) => ('\\' :: 'u' :: a :: b :: c :: d :: body, rest)
    else none
  | '\\' :: c :: rest =>
    if isEscapeLetter c then (scanString rest).map fun (body, rest) => ('\\' :: c :: body, rest)
    else none
  | c :: rest =>
    if c == '\\' || c.toNat < 0x20 then none
    else (scanString rest).map fun (body, rest) => (c :: body, rest)

/-! ## Numerals -/

/-- Read the digits before the point: one zero, or digits that do not begin with one. -/
def scanWhole (text : List Char) : Option (List Char × List Char) :=
  match text with
  | '0' :: rest =>
    match rest with
    | d :: _ => if d.isDigit then none else some (['0'], rest)
    | [] => some (['0'], rest)
  | d :: _ =>
    if d.isDigit then some (text.takeWhile Char.isDigit, text.dropWhile Char.isDigit) else none
  | [] => none

/-- Read at least one digit. -/
def scanDigits (text : List Char) : Option (List Char × List Char) :=
  match text.takeWhile Char.isDigit with
  | [] => none
  | digits => some (digits, text.dropWhile Char.isDigit)

/-- Read a point and its digits, if there is a point. -/
def scanFraction (text : List Char) : Option (Option (List Char) × List Char) :=
  match text with
  | '.' :: rest => (scanDigits rest).map fun (digits, rest) => (some digits, rest)
  | _ => some (none, text)

/-- Read an exponent, if there is one. -/
def scanExponent (text : List Char) : Option (Option (Bool × List Char) × List Char) :=
  match text with
  | mark :: rest =>
    if mark == 'e' || mark == 'E' then
      let (negative, rest) := match rest with
        | '-' :: rest => (true, rest)
        | '+' :: rest => (false, rest)
        | _ => (false, rest)
      (scanDigits rest).map fun (digits, rest) => (some (negative, digits), rest)
    else some (none, text)
  | [] => some (none, text)

/-- Read a numeral. -/
def scanNumber (text : List Char) : Option (Number.Token × List Char) := do
  let (negative, text) := match text with
    | '-' :: rest => (true, rest)
    | _ => (false, text)
  let (whole, text) ← scanWhole text
  let (fraction, text) ← scanFraction text
  let (exponent, text) ← scanExponent text
  return (⟨negative, whole, fraction, exponent⟩, text)

/-! ## Values -/

/-- Read one of the words that are values. -/
def scanWord (text : List Char) : Option (Raw × List Char) :=
  match text with
  | 'n' :: 'u' :: 'l' :: 'l' :: rest => some (.null, rest)
  | 't' :: 'r' :: 'u' :: 'e' :: rest => some (.bool true, rest)
  | 'f' :: 'a' :: 'l' :: 's' :: 'e' :: rest => some (.bool false, rest)
  | _ => none

mutual

/-- Read a value and the text after it. -/
def scanValue : Nat → List Char → Option (Raw × List Char)
  | 0, _ => none
  | fuel + 1, text =>
    match skipSpace text with
    | [] => none
    | '"' :: rest => (scanString rest).map fun (body, rest) => (.string body, rest)
    | '[' :: rest =>
      match skipSpace rest with
      | ']' :: rest => some (.array [], rest)
      | rest => (scanItems fuel rest).map fun (items, rest) => (.array items, rest)
    | '{' :: rest =>
      match skipSpace rest with
      | '}' :: rest => some (.object [], rest)
      | rest => (scanMembers fuel rest).map fun (members, rest) => (.object members, rest)
    | c :: rest =>
      if c == '-' || c.isDigit then
        (scanNumber (c :: rest)).map fun (token, rest) => (.number token, rest)
      else scanWord (c :: rest)

/-- Read the items of an array up to its closing bracket. -/
def scanItems : Nat → List Char → Option (List Raw × List Char)
  | 0, _ => none
  | fuel + 1, text =>
    match scanValue fuel text with
    | none => none
    | some (item, rest) =>
      match skipSpace rest with
      | ',' :: rest => (scanItems fuel rest).map fun (items, rest) => (item :: items, rest)
      | ']' :: rest => some ([item], rest)
      | _ => none

/-- Read the members of an object up to its closing brace. -/
def scanMembers : Nat → List Char → Option (List (List Char × Raw) × List Char)
  | 0, _ => none
  | fuel + 1, text =>
    match skipSpace text with
    | '"' :: rest =>
      match scanString rest with
      | none => none
      | some (key, rest) =>
        match skipSpace rest with
        | ':' :: rest =>
          match scanValue fuel rest with
          | none => none
          | some (value, rest) =>
            match skipSpace rest with
            | ',' :: rest =>
              (scanMembers fuel rest).map fun (members, rest) => ((key, value) :: members, rest)
            | '}' :: rest => some ([(key, value)], rest)
            | _ => none
        | _ => none
    | _ => none

end

/-- The tree of a text that is one value, with blanks around it. -/
def Raw.parse? (text : List Char) : Option Raw :=
  match scanValue (2 * text.length + 2) text with
  | some (raw, rest) => if (skipSpace rest).isEmpty then some raw else none
  | none => none

end SiteScript.Json
