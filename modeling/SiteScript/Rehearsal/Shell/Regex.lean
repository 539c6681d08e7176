import SiteScript.Rehearsal.Shell.Pattern

/-!
# SiteScript.Rehearsal.Shell.Regex

Regular expressions.  `Regex.leave` gives the places that a match can lead to from a place; of the
matches in a text the first counts, and of those that begin at the same place the longest
(`Regex.find?`).

Expressions are read in two dialects.  In the basic one brackets, bars and counts have a backslash
before them.  A mark that has nothing to work on stands for itself.
-/

namespace SiteScript.Rehearsal.Shell

/-- A condition on the characters around a place. -/
inductive Edge where
  /-- A word begins. -/
  | opening
  /-- A word ends. -/
  | closing
  /-- A word begins or ends. -/
  | either
  /-- No word begins or ends. -/
  | neither
  /-- No character of a word stands before. -/
  | clearBefore
  /-- No character of a word follows. -/
  | clearAfter
  /-- A line begins. -/
  | lineStart
  /-- A line ends. -/
  | lineStop
deriving DecidableEq

/-- A regular expression. -/
inductive Regex where
  /-- One character between some bounds, or outside of all of them. -/
  | char (bounds : List (Char × Char)) (negated : Bool)
  | any
  | nothing
  | both (first second : Regex)
  | either (first second : Regex)
  /-- A repetition with a least number and perhaps a greatest. -/
  | times (body : Regex) (least : Nat) (most : Option Nat)
  /-- A part with a number, which can be referred to. -/
  | group (number : Nat) (body : Regex)
  /-- The same text as the part with a number. -/
  | again (number : Nat)
  | start
  | stop
  | edge (kind : Edge)

namespace Regex

/-! ## Matching -/

/-- A place in a text: the character before it, what follows and how much that is, and the parts so
far. -/
structure Place where
  before : Option Char
  rest : Octets
  left : Nat
  groups : List (Nat × Octets) := []

/-- Places in one text are the same if as much follows, and the parts are the same. -/
def Place.same (a b : Place) : Bool := a.left == b.left && a.groups == b.groups

/-- Each of some places once. -/
def distinct (places : List Place) : List Place :=
  places.foldl (fun kept place => if kept.any place.same then kept else kept ++ [place]) []

/-- Go over one character. -/
def Place.next? (place : Place) (fits : Char → Bool) : List Place :=
  match place.rest with
  | c :: rest => if fits c then [{ place with before := some c, rest, left := place.left - 1 }] else []
  | [] => []

/-- Whether a condition holds at a place. -/
def Place.isAt (place : Place) (isWord : Char → Bool) (edge : Edge) : Bool :=
  let inside := place.before.any isWord
  let ahead := place.rest.head?.any isWord
  match edge with
  | .opening => !inside && ahead
  | .closing => inside && !ahead
  | .either => inside != ahead
  | .neither => inside == ahead
  | .clearBefore => !inside
  | .clearAfter => !ahead
  | .lineStart => place.before.all (· == '\n')
  | .lineStop => place.rest.head?.all (· == '\n')

/-- Whether a character belongs to words. -/
def isWordChar (c : Char) : Bool := c.isAlphanum || c == '_'

/-- Go over what a step goes over, again and again; longer ways come first. -/
def repeatStep (step : Place → List Place) : Nat → Nat → Option Nat → Place → List Place
  | 0, least, _, place => if least = 0 then [place] else []
  | fuel + 1, least, most, place =>
    let further := if most == some 0 then []
      else (step place).flatMap fun after =>
        if after.left = place.left && least = 0 then []
        else repeatStep step fuel (least - 1) (most.map (· - 1)) after
    distinct further ++ (if least = 0 then [place] else [])

/-- The places that a match leads to. -/
def leave : Regex → Place → List Place
  | .char bounds negated, place =>
    place.next? fun c => (bounds.any fun (low, high) => low ≤ c && c ≤ high) != negated
  | .any, place => place.next? fun _ => true
  | .nothing, place => [place]
  | .both first second, place => distinct ((leave first place).flatMap (leave second))
  | .either first second, place => distinct (leave first place ++ leave second place)
  | .times body least most, place =>
    repeatStep (leave body) (place.left + least + 1) least most place
  | .group number body, place =>
    (leave body place).map fun after =>
      let text := place.rest.take (place.left - after.left)
      { after with groups := (number, text) :: after.groups.filter (·.1 != number) }
  | .again number, place =>
    match place.groups.lookup number with
    | none => []
    | some text =>
      match Text.dropPrefix? text place.rest with
      | some rest =>
        [{ place with
            before := text.getLast? <|> place.before, rest, left := place.left - text.length }]
      | none => []
  | .start, place => if place.before.isNone then [place] else []
  | .stop, place => if place.rest.isEmpty then [place] else []
  | .edge kind, place => if place.isAt isWordChar kind then [place] else []

/-- The longest of some places. -/
def longest : List Place → Option Place
  | [] => none
  | place :: rest =>
    match longest rest with
    | some other => if other.left < place.left then some other else some place
    | none => some place

/-- A match: what stands before it, the matched text, and the place after it. -/
structure Found where
  skipped : Octets
  text : Octets
  place : Place

/-- The longest match that begins at a place. -/
def matchAt? (regex : Regex) (before : Option Char) (rest : Octets) : Option Found :=
  let left := rest.length
  (longest (leave regex { before, rest, left })).map fun place =>
    { skipped := [], text := rest.take (left - place.left), place }

/-- Find the first match from a place on. -/
def findFrom (regex : Regex) (before : Option Char) : Octets → Option Found
  | [] => regex.matchAt? before []
  | c :: rest =>
    match regex.matchAt? before (c :: rest) with
    | some found => some found
    | none =>
      (findFrom regex (some c) rest).map fun found => { found with skipped := c :: found.skipped }

/-- Find the first match in a text. -/
def find? (regex : Regex) (text : Octets) : Option Found := findFrom regex none text

/-- Whether an expression fits a part of a text. -/
def occurs (regex : Regex) (text : Octets) : Bool := (regex.find? text).isSome

/-! ## Reading -/

/-- The expression of a single character. -/
def single (c : Char) : Regex := .char [(c, c)] false

/-- The bounds of the characters of words. -/
def wordBounds : List (Char × Char) := [('a', 'z'), ('A', 'Z'), ('0', '9'), ('_', '_')]

/-- What a backslash and a letter stand for. -/
def escaped (c : Char) : Regex :=
  match c with
  | 'w' => .char wordBounds false
  | 'W' => .char wordBounds true
  | 's' => .char (Pattern.classBounds "space") false
  | 'S' => .char (Pattern.classBounds "space") true
  | 'b' => .edge .either
  | 'B' => .edge .neither
  | '<' => .edge .opening
  | '>' => .edge .closing
  | '\x60' => .start
  | '\x27' => .stop
  | 'n' => single '\n'
  | 't' => single '\t'
  | 'f' => single '\x0c'
  | 'v' => single '\x0b'
  | 'r' => single '\x0d'
  | 'a' => single '\x07'
  | c => if '1' ≤ c && c ≤ '9' then .again (Decimal.digitValue c) else single c

/-- How expressions are written. -/
structure Dialect where
  /-- Whether brackets, bars and counts stand without a backslash. -/
  extended : Bool
  /-- Whether a bracket that closes nothing stands for itself. -/
  strayClosing : Bool := false
  /-- What a backslash and a character stand for. -/
  escape : Char → Regex := escaped
  /-- What a backslash and a character in square brackets stand for, if the backslash is a mark there. -/
  bracketEscape : Char → Option Char := fun _ => none

/-- What reading gives: an expression, what is left, and how many parts have a number so far. -/
abbrev Read := Option (Regex × Octets × Nat)

/-- Both an expression and another, of which one may be nothing. -/
def followedBy : Regex → Regex → Regex
  | .nothing, second => second
  | first, .nothing => first
  | first, second => .both first second

/-- The bounds in square brackets. -/
def bounds? (escape : Char → Option Char) :
    Nat → Bool → Octets → Option (List (Char × Char) × Octets)
  | 0, _, _ => none
  | _, _, [] => none
  | fuel + 1, first, c :: rest =>
    if c == ']' && !first then some ([], rest)
    else
      match if c == '\\' then rest.head?.bind escape else none with
      | some named =>
        (bounds? escape fuel false rest.tail).map fun (more, rest) => ((named, named) :: more, rest)
      | none =>
        let named? := match c, rest with
          | '[', ':' :: more =>
            let name := more.takeWhile (· != ':')
            match more.drop name.length with
            | ':' :: ']' :: after => some (Pattern.classBounds (String.ofList name), after)
            | _ => none
          | _, _ => none
        match named?, rest with
        | some (bounds, after), _ =>
          (bounds? escape fuel false after).map fun (more, rest) => (bounds ++ more, rest)
        | none, '-' :: high :: after =>
          if high == ']' then
            (bounds? escape fuel false rest).map fun (more, rest) => ((c, c) :: more, rest)
          else (bounds? escape fuel false after).map fun (more, rest) => ((c, high) :: more, rest)
        | none, _ => (bounds? escape fuel false rest).map fun (more, rest) => ((c, c) :: more, rest)

/-- A mark of the dialect: with a backslash before it in the basic one, without in the other. -/
def mark? (extended : Bool) (marks : List Char) (text : Octets) : Option (Char × Octets) :=
  match extended, text with
  | true, c :: rest => if marks.contains c then some (c, rest) else none
  | false, '\\' :: c :: rest => if marks.contains c then some (c, rest) else none
  | _, _ => none

/-- A count in braces: a least number, perhaps a greatest, and what follows. -/
def count? (extended : Bool) (text : Octets) : Option (Nat × Option Nat × Octets) := do
  let least := text.takeWhile Char.isDigit
  let rest := text.drop least.length
  let low := Decimal.value least
  match rest with
  | ',' :: rest =>
    let most := rest.takeWhile Char.isDigit
    let (_, after) ← mark? extended ['\x7d'] (rest.drop most.length)
    return (low, if most.isEmpty then none else some (Decimal.value most), after)
  | rest =>
    if least.isEmpty then none
    else
      let (_, after) ← mark? extended ['\x7d'] rest
      return (low, some low, after)

/-- Read the counts after an expression. -/
def readCounts (extended : Bool) : Nat → Regex → Octets → Regex × Octets
  | 0, regex, text => (regex, text)
  | fuel + 1, regex, text =>
    match text, mark? extended ['+', '?', '\x7b'] text with
    | '*' :: rest, _ => readCounts extended fuel (.times regex 0 none) rest
    | _, some ('+', rest) => readCounts extended fuel (.times regex 1 none) rest
    | _, some ('?', rest) => readCounts extended fuel (.times regex 0 (some 1)) rest
    | _, some (_, rest) =>
      match count? extended rest with
      | some (least, most, after) => readCounts extended fuel (.times regex least most) after
      | none => (regex, text)
    | text, none => (regex, text)

/-- Whether a count in braces begins that cannot be read; one of the extended dialect stands for
itself. -/
def isBrokenCount (extended : Bool) (text : Octets) : Bool :=
  match mark? extended ['\x7b'] text with
  | some (_, rest) => !extended && (count? extended rest).isNone
  | none => false

/-- Whether a text is at the end of an expression or of a part of one. -/
def atEnd (extended : Bool) (text : Octets) : Bool :=
  text.isEmpty || (mark? extended ['|', ')'] text).isSome

/-- Read an expression that stands alone; `first` tells that nothing stands before it. -/
def readAtom (dialect : Dialect) (inner : Nat → Octets → Read) (first : Bool) (groups : Nat)
    (text : Octets) : Read :=
  let extended := dialect.extended
  let brackets (negated : Bool) (rest : Octets) : Read :=
    (bounds? dialect.bracketEscape (rest.length + 1) true rest).map fun (bounds, rest) =>
      (.char bounds negated, rest, groups)
  match mark? extended ['('] text with
  | some (_, rest) => do
    let (body, rest, count) ← inner (groups + 1) rest
    let (_, rest) ← mark? extended [')'] rest
    return (.group (groups + 1) body, rest, count)
  | none =>
    match text with
    | [] => some (.nothing, [], groups)
    | '.' :: rest => some (.any, rest, groups)
    | '[' :: '^' :: rest => brackets true rest
    | '[' :: rest => brackets false rest
    | '^' :: rest => some (if extended || first then .start else single '^', rest, groups)
    | '$' :: rest =>
      some (if extended || atEnd extended rest then .stop else single '$', rest, groups)
    | '\\' :: c :: rest => some (dialect.escape c, rest, groups)
    | ['\\'] => none
    | c :: rest => some (single c, rest, groups)

/-- Read expressions one after another.  `inGroup` tells that a bracket is open. -/
def readSequence (dialect : Dialect) (inner : Nat → Octets → Read) (inGroup : Bool) :
    Nat → Bool → Nat → Octets → Read
  | 0, _, _, _ => none
  | fuel + 1, first, groups, text =>
    let extended := dialect.extended
    let stray := dialect.strayClosing && !inGroup && text.head? == some ')'
    if atEnd extended text && !stray then some (.nothing, text, groups)
    else do
      let (atom, rest, groups) ← readAtom dialect inner first groups text
      let (counted, rest) := match atom with
        | .start => (atom, rest)
        | _ => readCounts extended (rest.length + 1) atom rest
      if isBrokenCount extended rest then none
      else
        let stillFirst := match atom with
          | .start => !extended
          | _ => false
        let (more, rest, groups) ← readSequence dialect inner inGroup fuel stillFirst groups rest
        return (followedBy counted more, rest, groups)

/-- Read an expression with its alternatives, nested so deep at most. -/
def readAll (dialect : Dialect) : Nat → Bool → Nat → Octets → Read
  | 0, _, _, _ => none
  | fuel + 1, inGroup, groups, text => do
    let (first, rest, groups) ←
      readSequence dialect (readAll dialect fuel true) inGroup (text.length + 1) true groups text
    match mark? dialect.extended ['|'] rest with
    | some (_, rest) =>
      let (second, rest, groups) ← readAll dialect fuel inGroup groups rest
      return (.either first second, rest, groups)
    | none => return (first, rest, groups)

/-- The expression that a text stands for in a dialect. -/
def ofText? (dialect : Dialect) (text : Octets) : Option Regex :=
  match readAll dialect (text.length + 1) false 0 text with
  | some (regex, [], _) => some regex
  | _ => none

/-- The expression of a text that stands for itself. -/
def literal (text : Octets) : Regex :=
  text.foldr (fun c regex => followedBy (single c) regex) .nothing

/-- The largest number of a part. -/
def groups : Regex → Nat
  | .both first second => max (groups first) (groups second)
  | .either first second => max (groups first) (groups second)
  | .times body _ _ => groups body
  | .group number body => max number (groups body)
  | _ => 0

/-- An expression for which the ends of lines in a text count as its ends. -/
def byLines : Regex → Regex
  | .start => .edge .lineStart
  | .stop => .edge .lineStop
  | .both first second => .both (byLines first) (byLines second)
  | .either first second => .either (byLines first) (byLines second)
  | .times body least most => .times (byLines body) least most
  | .group number body => .group number (byLines body)
  | regex => regex

/-- An expression that does not distinguish capitals. -/
def ignoringCase : Regex → Regex
  | .char bounds negated =>
    .char (bounds ++ bounds.flatMap fun (low, high) =>
      ((List.range (high.toNat + 1 - low.toNat)).map fun i => Char.ofNat (low.toNat + i)).flatMap
        fun c => [(c.toLower, c.toLower), (c.toUpper, c.toUpper)]) negated
  | .both first second => .both (ignoringCase first) (ignoringCase second)
  | .either first second => .either (ignoringCase first) (ignoringCase second)
  | .times body least most => .times (ignoringCase body) least most
  | .group number body => .group number (ignoringCase body)
  | regex => regex

end Regex

end SiteScript.Rehearsal.Shell
