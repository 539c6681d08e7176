import SiteScript.Json.Value

/-!
# SiteScript.Json.Printer

The two written forms of a value: `compact` on one line without blanks, as answers and sealed bundles
have it, and `pretty` with one item or member a line and two blanks of indentation a level, as files
have it.

Strings are written with the fewest escapes: quotes, backslashes and control characters.
-/

namespace SiteScript.Json

/-! ## Strings -/

/-- The four hexadecimal digits of a control character. -/
def controlDigits (c : Char) : List Char :=
  ['0', '0', Nat.digitChar (c.toNat / 16), Nat.digitChar (c.toNat % 16)]

/-- One character between quotes. -/
def escapeChar (c : Char) : List Char :=
  if c = '"' then ['\\', '"']
  else if c = '\\' then ['\\', '\\']
  else if c = '\x08' then ['\\', 'b']
  else if c = '\x0c' then ['\\', 'f']
  else if c = '\n' then ['\\', 'n']
  else if c = '\r' then ['\\', 'r']
  else if c = '\t' then ['\\', 't']
  else if c.toNat < 0x20 then '\\' :: 'u' :: controlDigits c
  else [c]

/-- The characters between the quotes of a string. -/
def escape (s : String) : List Char :=
  s.toList.flatMap escapeChar

/-- A string in quotes. -/
def quote (s : String) : List Char :=
  '"' :: (escape s ++ ['"'])

/-! ## On one line -/

mutual

/-- A value on one line. -/
def compactChars : Json → List Char
  | .null => ['n', 'u', 'l', 'l']
  | .bool true => ['t', 'r', 'u', 'e']
  | .bool false => ['f', 'a', 'l', 's', 'e']
  | .number n => n.text
  | .string s => quote s
  | .array items => '[' :: compactItems items
  | .object members => '{' :: compactMembers members

/-- The items of an array and its closing bracket. -/
def compactItems : List Json → List Char
  | [] => [']']
  | [item] => compactChars item ++ [']']
  | item :: items => compactChars item ++ ',' :: compactItems items

/-- The members of an object and its closing brace. -/
def compactMembers : List (String × Json) → List Char
  | [] => ['}']
  | [(name, value)] => quote name ++ ':' :: (compactChars value ++ ['}'])
  | (name, value) :: members =>
    quote name ++ ':' :: (compactChars value ++ ',' :: compactMembers members)

end

/-- A value on one line, as a string. -/
def compact (value : Json) : String :=
  String.ofList value.compactChars

/-! ## On many lines -/

/-- A new line and the blanks of a level. -/
def newLine (level : Nat) : List Char :=
  '\n' :: List.replicate (2 * level) ' '

mutual

/-- A value on many lines, inside the given level. -/
def prettyChars (level : Nat) : Json → List Char
  | .array [] => ['[', ']']
  | .array (item :: items) => '[' :: prettyItems level (item :: items)
  | .object [] => ['{', '}']
  | .object (member :: members) => '{' :: prettyMembers level (member :: members)
  | .null => ['n', 'u', 'l', 'l']
  | .bool true => ['t', 'r', 'u', 'e']
  | .bool false => ['f', 'a', 'l', 's', 'e']
  | .number n => n.text
  | .string s => quote s

/-- The items of an array, each on a line, and its closing bracket. -/
def prettyItems (level : Nat) : List Json → List Char
  | [] => newLine level ++ [']']
  | [item] => newLine (level + 1) ++ prettyChars (level + 1) item ++ newLine level ++ [']']
  | item :: items =>
    newLine (level + 1) ++ prettyChars (level + 1) item ++ ',' :: prettyItems level items

/-- The members of an object, each on a line, and its closing brace. -/
def prettyMembers (level : Nat) : List (String × Json) → List Char
  | [] => newLine level ++ ['}']
  | [(name, value)] =>
    newLine (level + 1) ++ quote name ++ ':' :: ' ' ::
      (prettyChars (level + 1) value ++ newLine level ++ ['}'])
  | (name, value) :: members =>
    newLine (level + 1) ++ quote name ++ ':' :: ' ' ::
      (prettyChars (level + 1) value ++ ',' :: prettyMembers level members)

end

/-- A value on many lines, as a string. -/
def pretty (value : Json) : String :=
  String.ofList (prettyChars 0 value)

end SiteScript.Json
