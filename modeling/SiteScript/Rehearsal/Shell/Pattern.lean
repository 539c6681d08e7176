import SiteScript.FileSystem.Calls
import SiteScript.Rehearsal.Shell.Octets

/-!
# SiteScript.Rehearsal.Shell.Pattern

Patterns for names: `*` fits any text, `?` any character, and brackets fit one of the characters in
them.  A character that was quoted fits itself only, so patterns are made of characters with a mark.

* **fitting** — `fits` keeps the list of what may be left of the text after each part of a pattern;
* **files** — `fileNames` gives the names of the files that a pattern with slashes fits.
-/

namespace SiteScript.Rehearsal.Shell

/-- A character of a pattern, and whether it was quoted. -/
abbrev Marked := Char × Bool

namespace Pattern

/-- A part of a pattern. -/
inductive Part where
  | char (c : Char)
  | any
  | many
  /-- One of the characters between two bounds, or none of them. -/
  | oneOf (negated : Bool) (bounds : List (Char × Char))
deriving DecidableEq

/-- The classes of characters that have a name. -/
def classBounds (name : String) : List (Char × Char) :=
  match name with
  | "alpha" => [('a', 'z'), ('A', 'Z')]
  | "digit" => [('0', '9')]
  | "alnum" => [('a', 'z'), ('A', 'Z'), ('0', '9')]
  | "upper" => [('A', 'Z')]
  | "lower" => [('a', 'z')]
  | "space" => [('\t', '\r'), (' ', ' ')]
  | "blank" => [('\t', '\t'), (' ', ' ')]
  | "punct" => [('!', '/'), (':', '@'), ('[', '\x60'), ('\x7b', '~')]
  | "cntrl" => [('\x00', '\x1f'), ('\x7f', '\x7f')]
  | "print" => [(' ', '~')]
  | "graph" => [('!', '~')]
  | "xdigit" => [('0', '9'), ('a', 'f'), ('A', 'F')]
  | _ => []

/-- The name of a class up to its end, and what follows. -/
def className? (text : List Marked) : Option (String × List Marked) :=
  match text with
  | (':', _) :: rest =>
    let name := (rest.takeWhile fun (c, _) => c.isAlpha).map (·.1)
    match rest.drop name.length with
    | (':', _) :: (']', _) :: after => some (String.ofList name, after)
    | _ => none
  | _ => none

/-- The bounds between brackets, after the opening one, and what follows the closing one. -/
def brackets? : Nat → Bool → List Marked → Option (List (Char × Char) × List Marked)
  | 0, _, _ => none
  | _, _, [] => none
  | fuel + 1, first, (c, quoted) :: rest =>
    if c == ']' && !quoted && !first then some ([], rest)
    else
      let add (bounds : List (Char × Char)) (rest : List Marked) :=
        (brackets? fuel false rest).map fun (more, rest) => (bounds ++ more, rest)
      match if c == '[' && !quoted then className? rest else none with
      | some (name, rest) => add (classBounds name) rest
      | none =>
        match rest with
        | ('-', false) :: (high, highQuoted) :: after =>
          if high == ']' && !highQuoted then add [(c, c)] rest else add [(c, high)] after
        | _ => add [(c, c)] rest

/-- The parts of a pattern.  A bracket that is not closed stands for itself. -/
def ofMarked : Nat → List Marked → List Part
  | 0, _ => []
  | _, [] => []
  | fuel + 1, (c, quoted) :: rest =>
    if quoted then .char c :: ofMarked fuel rest
    else if c == '*' then .many :: ofMarked fuel rest
    else if c == '?' then .any :: ofMarked fuel rest
    else if c == '[' then
      let (negated, inside) := match rest with
        | ('!', false) :: inside => (true, inside)
        | inside => (false, inside)
      match brackets? (inside.length + 1) true inside with
      | some (bounds, rest) => .oneOf negated bounds :: ofMarked fuel rest
      | none => .char c :: ofMarked fuel rest
    else .char c :: ofMarked fuel rest

/-- The pattern that characters make up. -/
def parts (text : List Marked) : List Part := ofMarked (text.length + 1) text

/-- Whether a part fits one character. -/
def Part.fitsChar (part : Part) (c : Char) : Bool :=
  match part with
  | .char d => c == d
  | .oneOf negated bounds => bounds.any (fun (low, high) => low ≤ c && c ≤ high) != negated
  | _ => true

/-- The ends of a text, from all of it to nothing. -/
def tails : Octets → List Octets
  | [] => [[]]
  | c :: rest => (c :: rest) :: tails rest

/-- What may be left of a text after a part. -/
def Part.leave (part : Part) (text : Octets) : List Octets :=
  match part, text with
  | .many, text => tails text
  | _, [] => []
  | part, c :: rest => if part.fitsChar c then [rest] else []

/-- What may be left of a text after a pattern. -/
def leave (pattern : List Part) (text : Octets) : List Octets :=
  pattern.foldl (fun texts part => (texts.flatMap part.leave).eraseDups) [text]

/-- Whether a pattern fits all of a text. -/
def fits (pattern : List Part) (text : Octets) : Bool :=
  (leave pattern text).any List.isEmpty

/-- Whether a text has characters with a meaning in patterns. -/
def isPattern (text : List Marked) : Bool :=
  text.any fun (c, quoted) => !quoted && (c == '*' || c == '?' || c == '[')

/-! ## Cutting off -/

/-- The text without the part at its end that fits. -/
def dropEnd (pattern : List Part) (longest : Bool) (text : Octets) : Octets :=
  let cuts := (List.range (text.length + 1)).filter fun n => fits pattern (text.drop n)
  match if longest then cuts.head? else cuts.getLast? with
  | some n => text.take n
  | none => text

/-- The text without the part at its beginning that fits. -/
def dropStart (pattern : List Part) (longest : Bool) (text : Octets) : Octets :=
  let cuts := (List.range (text.length + 1)).filter fun n => fits pattern (text.take n)
  match if longest then cuts.getLast? else cuts.head? with
  | some n => text.drop n
  | none => text

/-! ## Files -/

/-- Cut marked characters at slashes. -/
def components : List Marked → List (List Marked)
  | [] => [[]]
  | (c, quoted) :: rest =>
    match components rest with
    | [] => [[(c, quoted)]]
    | first :: more => if c == '/' then [] :: first :: more else ((c, quoted) :: first) :: more

/-- The names in a directory that a pattern fits.  A name that begins with a dot is fitted only by a
dot. -/
def namesIn (files : FileSystem) (dir : Location) (component : List Marked) : List Octets :=
  let pattern := parts component
  let names := [".", ".."] ++ (files.children dir).map (·.1)
  let names := names.map octets
  names.filter fun name =>
    fits pattern name && (name.head? != some '.' || component.head?.any (·.1 == '.'))

/-- The texts of the files that components fit, after the text `before`. -/
def expandComponents (files : FileSystem) (dir : Location) (before : Octets) :
    List (List Marked) → List Octets
  | [] => []
  | component :: rest =>
    let path (text : Octets) : Path := .ofText dir text.name
    let names :=
      if isPattern component then
        match files.locate? (path (if before.isEmpty then ['.'] else before)) with
        | some location =>
          if files.isDirectory (.ofLocation location) then namesIn files location component else []
        | none => []
      else [component.map (·.1)]
    names.flatMap fun name =>
      let text := before ++ name
      if rest.isEmpty then
        match files.linkStat (path (if text.isEmpty then ['.'] else text)) with
        | .ok _ => [text]
        | .error _ => []
      else if rest == [[]] then
        -- a slash at the end asks for a directory
        if files.isDirectory (path (text ++ ['/'])) then [text ++ ['/']] else []
      else expandComponents files dir (text ++ ['/']) rest

/-- The names of the files that a word fits, in order; the word itself if there are none. -/
def fileNames (files : FileSystem) (dir : Location) (word : List Marked) : List Octets :=
  if !isPattern word then [word.map (·.1)]
  else
    match expandComponents files dir [] (components word) with
    | [] => [word.map (·.1)]
    | names => Octets.sorted names

end Pattern

end SiteScript.Rehearsal.Shell
