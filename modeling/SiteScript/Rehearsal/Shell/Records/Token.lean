import SiteScript.Rehearsal.Shell.Records.Number
import SiteScript.Rehearsal.Shell.Records.Program

/-!
# SiteScript.Rehearsal.Shell.Records.Token

The tokens of record programs.  A slash begins a pattern, or divides, as the token before it says
(`Token.isOperand`).
-/

namespace SiteScript.Rehearsal.Shell.Records

/-- A token. -/
inductive Token where
  | number (value : Float)
  | literal (value : Octets)
  | pattern (regex : Regex)
  | name (name : Octets)
  /-- A name that a bracket follows directly. -/
  | callee (name : Octets)
  | builtin (function : Builtin)
  | keyword (word : String)
  | mark (text : String)
  | lineEnd

namespace Token

/-- The words that make up programs. -/
def keywords : List String :=
  ["BEGIN", "END", "function", "if", "else", "while", "for", "do", "break", "continue", "next",
    "nextfile", "exit", "return", "delete", "in", "getline", "print", "printf"]

/-- The names of the functions that every program has. -/
def builtins : List (String × Builtin) :=
  [("length", .length), ("substr", .substr), ("index", .index), ("split", .split), ("sub", .sub),
    ("gsub", .gsub), ("match", .occurrence), ("sprintf", .sprintf), ("sin", .sin), ("cos", .cos),
    ("atan2", .atan2), ("exp", .exp), ("log", .log), ("sqrt", .sqrt), ("int", .int), ("rand", .rand),
    ("srand", .srand), ("tolower", .tolower), ("toupper", .toupper), ("system", .system),
    ("close", .close), ("fflush", .fflush), ("systime", .systime)]

/-- The marks, the longer ones first. -/
def marks : List String :=
  ["&&", "||", "++", "--", "+=", "-=", "*=", "/=", "%=", "^=", "==", "<=", ">=", "!=", "!~", ">>",
    "\x7b", "\x7d", "(", ")", "[", "]", ";", ",", "+", "-", "*", "/", "%", "^", "!", ">", "<", "|", "?",
    ":", "~", "$", "="]

/-- Whether a value can end with a token, so that a slash after it divides. -/
def isOperand : Token → Bool
  | .number _ => true
  | .literal _ => true
  | .pattern _ => true
  | .name _ => true
  | .builtin _ => true
  | .mark sign => [")", "]", "$", "++", "--"].contains sign
  | .keyword word => word == "getline"
  | _ => false

/-! ## Texts -/

/-- The characters that a backslash and a letter stand for. -/
def named : List (Char × Char) :=
  [('"', '"'), ('\\', '\\'), ('a', '\x07'), ('b', '\x08'), ('f', '\x0c'), ('n', '\n'), ('r', '\r'),
    ('t', '\t'), ('v', '\x0b')]

/-- A text with its escapes replaced.  A backslash that names nothing stands for itself. -/
def unescape : Nat → Octets → Octets
  | 0, text => text
  | fuel + 1, '\\' :: c :: rest =>
    match named.lookup c with
    | some char => char :: unescape fuel rest
    | none =>
      let octal := (c :: rest).takeWhile isOctal
      let hex := (rest.take 2).takeWhile fun c => (Number.hexValue? c).isSome
      if !octal.isEmpty then
        let (char, rest) := cutOctal 3 (c :: rest)
        char :: unescape fuel rest
      else if c == 'x' && !hex.isEmpty then
        let value := hex.foldl (fun n c => 16 * n + (Number.hexValue? c).getD 0) 0
        Char.ofNat value :: unescape fuel (rest.drop hex.length)
      else if c == '\n' then unescape fuel rest
      else '\\' :: c :: unescape fuel rest
  | fuel + 1, c :: rest => c :: unescape fuel rest
  | _, [] => []

/-- A text up to a mark that no backslash stands before, and what follows the mark.  None if there is
none in the line. -/
def upTo? (mark : Char) : Octets → Option (Octets × Octets)
  | [] => none
  | '\\' :: c :: rest => (upTo? mark rest).map fun (text, rest) => ('\\' :: c :: text, rest)
  | c :: rest =>
    if c == mark then some ([], rest)
    else if c == '\n' then none
    else (upTo? mark rest).map fun (text, rest) => (c :: text, rest)

/-! ## Patterns -/

/-- What a backslash and a character stand for in a pattern. -/
def patternEscape (c : Char) : Char := (named.lookup c).getD c

/-- The dialect of patterns. -/
def dialect : Regex.Dialect :=
  { extended := true
    escape := fun c => Regex.single (patternEscape c)
    bracketEscape := fun c => some (patternEscape c) }

/-- The pattern that a text stands for. -/
def pattern? (text : Octets) : Option Regex := Regex.ofText? dialect text

/-! ## Reading -/

/-- Read a token, with what follows it; `before` is the token before.  An error is a program that cannot
be read. -/
def read (before : Option Token) (text : Octets) : Option (Token × Octets) :=
  match text with
  | [] => none
  | '"' :: rest => (upTo? '"' rest).map fun (body, rest) => (.literal (unescape (body.length + 1) body), rest)
  | c :: rest =>
    if c.isDigit || (c == '.' && rest.head?.any Char.isDigit) then
      match Number.unsignedStart?.decimal text with
      | some (value, n) => if value.isFinite then some (.number value, text.drop n) else none
      | none => none
    else if isNameStart c then
      let word := text.takeWhile isNameChar
      let rest := text.drop word.length
      let key := String.ofList word
      if keywords.contains key then some (.keyword key, rest)
      else
        match builtins.lookup key with
        | some known => some (.builtin known, rest)
        | none => some (if rest.head? == some '(' then .callee word else .name word, rest)
    else if c == '/' && !before.any isOperand then do
      let (body, rest) ← upTo? '/' rest
      return (.pattern (← pattern? body), rest)
    else do
      let mark ← marks.find? fun mark => mark.toList.isPrefixOf text
      return (.mark mark, text.drop mark.length)

/-- The tokens of a text, where those before are given, the last first; none if it cannot be read. -/
def readAll : Nat → List Token → Octets → Option (List Token)
  | 0, _, _ => none
  | _, found, [] => some found.reverse
  | fuel + 1, found, c :: rest =>
    if c == '\n' then readAll fuel (.lineEnd :: found) rest
    else if Octets.isSpace c then readAll fuel found rest
    else if c == '#' then readAll fuel found (rest.dropWhile (· != '\n'))
    else if c == '\\' && rest.head? == some '\n' then readAll fuel found rest.tail
    else
      match read found.head? (c :: rest) with
      | some (token, rest) => readAll fuel (token :: found) rest
      | none => none

/-- The tokens of a program. -/
def ofText? (text : Octets) : Option (List Token) := readAll (text.length + 1) [] text

end Token

end SiteScript.Rehearsal.Shell.Records
