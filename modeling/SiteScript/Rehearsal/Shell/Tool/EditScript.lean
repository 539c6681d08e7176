import SiteScript.Rehearsal.Shell.Regex
import SiteScript.Rehearsal.Shell.Tool.Print

/-!
# SiteScript.Rehearsal.Shell.Tool.EditScript

Scripts that edit lines.  A script is a list of rules; each has an address, which tells the lines it is
for, and an action.  Braces around rules are rules themselves: the opening one leads behind the closing
one for the lines that it is not for (`Action.enter`), so a script stays a plain list and jumps are
places in it.

`Script.ofText` reads a script; what is wrong with one is told with the place where reading stopped.
-/

namespace SiteScript.Rehearsal.Shell

namespace Edit

/-! ## Rules -/

/-- A line that an address names. -/
inductive Spot where
  | number (n : Nat)
  /-- Every so many lines from one on. -/
  | stepped (first step : Nat)
  | last
  /-- A line that an expression fits; the last expression that was used if none is given. -/
  | fits (regex : Option Regex)

/-- Where lines end that begin with an address. -/
inductive Bound where
  | spot (spot : Spot)
  /-- So many lines further. -/
  | further (n : Nat)
  /-- The next line whose number is a multiple. -/
  | multiple (n : Nat)

/-- The lines that a rule is for: all of them if no address is given. -/
structure Address where
  first : Option Spot := none
  bound : Option Bound := none
  negated : Bool := false

/-- How the letters of a replacement are changed. -/
inductive Shape where
  | asTheyAre
  | upper
  | lower
deriving DecidableEq

/-- A part of a replacement. -/
inductive Piece where
  | char (c : Char)
  /-- The part of the match with a number; zero is for all of it. -/
  | group (number : Nat)
  /-- What follows has its letters changed. -/
  | shape (shape : Shape)
  /-- The next letter is changed. -/
  | next (shape : Shape)

/-- What is put in place of matches. -/
structure Replacement where
  /-- The last expression that was used if none is given. -/
  regex : Option Regex
  pieces : List Piece
  all : Bool := false
  which : Nat := 1
  tell : Bool := false
  target : Option Octets := none

/-- What is done with a line. -/
inductive Action where
  /-- Braces: where to go on with lines that the rule is not for. -/
  | enter (stop : Nat)
  | nothing
  | label (name : Octets)
  /-- Go on elsewhere, or at the end; always, or by whether something was replaced. -/
  | jump (label : Octets) (ifReplaced : Option Bool)
  | replace (replacement : Replacement)
  | translate (table : List (Char × Char))
  | delete
  | deleteFirst
  | tell
  | tellFirst
  | tellClearly (width : Option Nat)
  | tellNumber
  | tellName
  | quit (status : Nat) (quietly : Bool)
  | append (text : Octets)
  | insert (text : Octets)
  | change (text : Octets)
  | readFile (name : Octets)
  | readLine (name : Octets)
  | writeFile (name : Octets)
  | writeFirst (name : Octets)
  | next
  | addNext
  | keep
  | keepMore
  | recall
  | recallMore
  | exchange
  | clear

/-- A rule: the lines it is for, and what is done. -/
structure Rule where
  address : Address
  action : Action

/-! ## Reading -/

/-- What is wrong with a script, and how much of it is left. -/
structure Mistake where
  what : String
  left : Nat

/-- Something is wrong at a place. -/
def wrong {α : Type} (what : String) (rest : Octets) : Except Mistake α := .error ⟨what, rest.length⟩

/-- Whether a character is a blank in a line. -/
def isBlank (c : Char) : Bool := c == ' ' || c == '\t'

/-- What follows the square brackets at the beginning of a text, which are copied; a mark in them is no
end. -/
def cutBrackets : Nat → Bool → Octets → Octets × Octets
  | 0, _, text => ([], text)
  | _, _, [] => ([], [])
  | fuel + 1, first, c :: rest =>
    if c == ']' && !first then ([c], rest)
    else
      match c, rest with
      | '[', ':' :: more =>
        let name := more.takeWhile (· != ':')
        let closing := (more.drop name.length).take 2
        let (text, after) := cutBrackets fuel false (more.drop (name.length + closing.length))
        (c :: ':' :: name ++ closing ++ text, after)
      | _, _ =>
        let (text, after) := cutBrackets fuel (first && c == '^') rest
        (c :: text, after)

/-- The text up to a mark, which a backslash protects, and what follows; in an expression, square
brackets protect it too. -/
def cutAt (mark : Char) (isRegex : Bool) : Nat → Octets → Option (Octets × Octets)
  | 0, _ => none
  | _, [] => none
  | fuel + 1, '\\' :: c :: rest =>
    (cutAt mark isRegex fuel rest).map fun (text, after) =>
      let kept := if c == mark && !(c == '&' && !isRegex) then [c]
        else if c == 'n' && isRegex then ['\n'] else ['\\', c]
      (kept ++ text, after)
  | fuel + 1, c :: rest =>
    if c == mark then some ([], rest)
    else if c == '\n' && isRegex then none
    else if c == '[' && isRegex then
      let (inside, after) := cutBrackets (rest.length + 1) true rest
      if inside.getLast? == some ']' then
        (cutAt mark isRegex fuel after).map fun (text, after) => (c :: inside ++ text, after)
      else (cutAt mark isRegex fuel rest).map fun (text, after) => (c :: text, after)
    else (cutAt mark isRegex fuel rest).map fun (text, after) => (c :: text, after)

/-- The character that a number in some base stands for, and what follows its digits. -/
def numbered? (base digits : Nat) (text : Octets) : Option (Char × Octets) :=
  let value (c : Char) : Nat :=
    if c.isDigit then Decimal.digitValue c
    else if 'a' ≤ c.toLower && c.toLower ≤ 'f' then c.toLower.toNat - 87 else 99
  let read := (text.take digits).takeWhile fun c => value c < base
  if read.isEmpty then none
  else some (Char.ofNat (read.foldl (fun n c => base * n + value c) 0 % 256), text.drop read.length)

/-- The character that the text after a backslash stands for, if it names one by a letter or a number,
and what follows. -/
def namedChar? (text : Octets) : Option (Char × Octets) :=
  match text with
  | 'x' :: rest => numbered? 16 2 rest
  | 'd' :: rest => numbered? 10 3 rest
  | 'o' :: rest => numbered? 8 3 rest
  | 'c' :: c :: rest => some (Char.ofNat (c.toUpper.toNat ^^^ 64), rest)
  | c :: rest =>
    let names := [('a', '\x07'), ('f', '\x0c'), ('n', '\n'), ('r', '\r'), ('t', '\t'), ('v', '\x0b')]
    (names.lookup c).map fun char => (char, rest)
  | [] => none

/-- An expression in which numbered characters stand for themselves. -/
def withoutNumbers : Nat → Octets → Octets
  | 0, text => text
  | _, [] => []
  | fuel + 1, '\\' :: c :: rest =>
    if ['x', 'd', 'o', 'c'].contains c then
      match namedChar? (c :: rest) with
      | some (char, after) =>
        (if char == '^' then ['\\', '^'] else if char.isAlphanum || char.toNat > 127 then [char]
          else ['[', char, ']']) ++ withoutNumbers fuel after
      | none => '\\' :: c :: withoutNumbers fuel rest
    else '\\' :: c :: withoutNumbers fuel rest
  | fuel + 1, c :: rest => c :: withoutNumbers fuel rest

/-- The flags of an expression. -/
structure RegexFlags where
  anyCase : Bool := false
  /-- Whether the ends of lines in the text count as ends. -/
  multiline : Bool := false

/-- The characters that a backslash names in square brackets. -/
def lineEscape (c : Char) : Option Char :=
  if c == 'n' then some '\n' else if c == 't' then some '\t' else none

/-- The expression that a text stands for; an empty one is for the last that was used. -/
def regexOf (extended : Bool) (flags : RegexFlags) (pattern rest : Octets) :
    Except Mistake (Option Regex) :=
  if pattern.isEmpty then .ok none
  else
    match Regex.ofText? { extended, bracketEscape := lineEscape }
      (withoutNumbers (pattern.length + 1) pattern) with
    | none => wrong "Invalid preceding regular expression" rest
    | some regex =>
      let regex := if flags.anyCase then regex.ignoringCase else regex
      .ok (some (if flags.multiline then regex.byLines else regex))

/-- Read the flags of an expression in an address. -/
def regexFlags (flags : RegexFlags) : Octets → RegexFlags × Octets
  | 'I' :: rest => regexFlags { flags with anyCase := true } rest
  | 'M' :: rest => regexFlags { flags with multiline := true } rest
  | rest => (flags, rest)

/-- Read an address, if there is one. -/
def spot (extended : Bool) (text : Octets) : Except Mistake (Option Spot × Octets) :=
  let regex (mark : Char) (rest : Octets) : Except Mistake (Option Spot × Octets) :=
    match cutAt mark true (rest.length + 1) rest with
    | none => wrong "unterminated address regex" []
    | some (pattern, rest) => do
      let (flags, rest) := regexFlags {} rest
      let regex ← regexOf extended flags pattern rest
      return (some (.fits regex), rest)
  match text with
  | '$' :: rest => .ok (some .last, rest)
  | '/' :: rest => regex '/' rest
  | '\\' :: mark :: rest => regex mark rest
  | text =>
    let digits := text.takeWhile Char.isDigit
    let rest := text.drop digits.length
    if digits.isEmpty then .ok (none, text)
    else
      match rest.dropWhile isBlank with
      | '~' :: more =>
        let more := more.dropWhile isBlank
        let step := more.takeWhile Char.isDigit
        .ok (some (.stepped (Decimal.value digits) (Decimal.value step)), more.drop step.length)
      | _ => .ok (some (.number (Decimal.value digits)), rest)

/-- Read where lines end. -/
def bound (extended : Bool) (text : Octets) : Except Mistake (Bound × Octets) :=
  let number (make : Nat → Bound) (rest : Octets) : Except Mistake (Bound × Octets) :=
    let digits := rest.takeWhile Char.isDigit
    if digits.isEmpty then wrong "expected number" rest
    else .ok (make (Decimal.value digits), rest.drop digits.length)
  match text with
  | '+' :: rest => number .further rest
  | '~' :: rest => number .multiple rest
  | text =>
    match spot extended text with
    | .error mistake => .error mistake
    | .ok (some spot, rest) => .ok (.spot spot, rest)
    | .ok (none, rest) => wrong "unexpected \x60,\x27" rest.tail

/-- Read the lines that a rule is for. -/
def address (extended : Bool) (text : Octets) : Except Mistake (Address × Octets) := do
  let (first, rest) ← spot extended text
  let (bound, rest) ← match first, rest.dropWhile isBlank with
    | some _, ',' :: rest => do
      let (bound, rest) ← bound extended (rest.dropWhile isBlank)
      pure (some bound, rest)
    | _, rest => pure (none, rest)
  let isRegexRange := match bound with
    | some (.spot (.fits _)) => true
    | _ => false
  match first, isRegexRange with
  | some (.number 0), false => wrong "invalid usage of line address 0" rest.tail
  | _, _ =>
    match rest.dropWhile isBlank with
    | '!' :: rest =>
      match rest.dropWhile isBlank with
      | '!' :: rest => wrong "multiple \x60!\x27s" rest
      | rest => return ({ first, bound, negated := true }, rest)
    | rest => return ({ first, bound }, rest)

/-- The parts of a replacement. -/
def pieces : Nat → Octets → List Piece
  | 0, _ => []
  | _, [] => []
  | fuel + 1, '&' :: rest => .group 0 :: pieces fuel rest
  | fuel + 1, '\\' :: c :: rest =>
    if c.isDigit then .group (Decimal.digitValue c) :: pieces fuel rest
    else
      let shapes : List (Char × Piece) :=
        [('U', .shape .upper), ('L', .shape .lower), ('E', .shape .asTheyAre), ('u', .next .upper),
          ('l', .next .lower)]
      match shapes.find? (·.1 == c), namedChar? (c :: rest) with
      | some (_, piece), _ => piece :: pieces fuel rest
      | none, some (char, rest) => .char char :: pieces fuel rest
      | none, none => .char c :: pieces fuel rest
  | fuel + 1, c :: rest => .char c :: pieces fuel rest

/-- The flags of a replacement. -/
structure Flags where
  all : Bool := false
  tell : Bool := false
  which : Option Nat := none
  regex : RegexFlags := {}
  target : Option Octets := none

/-- Read the name of a file, which goes on to the end of the line. -/
def fileName (text : Octets) : Except Mistake (Octets × Octets) :=
  let text := text.dropWhile isBlank
  let name := text.takeWhile (· != '\n')
  if name.isEmpty then wrong "missing filename in r/R/w/W commands" text
  else .ok (name, text.drop name.length)

/-- Read the flags of a replacement. -/
def flags : Nat → Flags → Octets → Except Mistake (Flags × Octets)
  | 0, found, text => .ok (found, text)
  | _, found, [] => .ok (found, [])
  | fuel + 1, found, c :: rest =>
    match c with
    | 'g' =>
      if found.all then wrong "multiple \x60g\x27 options to \x60s\x27 command" rest
      else flags fuel { found with all := true } rest
    | 'p' =>
      if found.tell then wrong "multiple \x60p\x27 options to \x60s\x27 command" rest
      else flags fuel { found with tell := true } rest
    | 'i' => flags fuel { found with regex := { found.regex with anyCase := true } } rest
    | 'I' => flags fuel { found with regex := { found.regex with anyCase := true } } rest
    | 'm' => flags fuel { found with regex := { found.regex with multiline := true } } rest
    | 'M' => flags fuel { found with regex := { found.regex with multiline := true } } rest
    | 'w' => do
      let (name, rest) ← fileName rest
      return ({ found with target := some name }, rest)
    | c =>
      if isBlank c then flags fuel found rest
      else if c.isDigit then
        let digits := (c :: rest).takeWhile Char.isDigit
        if Decimal.value digits = 0 then
          wrong "number option to \x60s\x27 command may not be zero" rest
        else if found.which.isSome then wrong "multiple number options to \x60s\x27 command" rest
        else flags fuel { found with which := some (Decimal.value digits) }
          ((c :: rest).drop digits.length)
      else if c == ';' || c == '\n' || c == '\x7d' || c == '#' then .ok (found, c :: rest)
      else wrong "unknown option to \x60s\x27" rest

/-- Read a replacement after its letter. -/
def replacement (extended : Bool) (text : Octets) : Except Mistake (Replacement × Octets) :=
  let unterminated : Except Mistake (Replacement × Octets) := wrong "unterminated \x60s\x27 command" []
  match text with
  | mark :: rest =>
    match cutAt mark true (rest.length + 1) rest with
    | none => unterminated
    | some (pattern, rest) =>
      match cutAt mark false (rest.length + 1) rest with
      | none => unterminated
      | some (shown, rest) => do
        let (found, rest) ← (flags (rest.length + 1) {} rest : Except Mistake (Flags × Octets))
        let regex ← regexOf extended found.regex pattern rest
        let pieces := pieces (shown.length + 1) shown
        let most := pieces.foldl (fun most piece =>
          match piece with
          | .group number => max most number
          | _ => most) 0
        if regex.any fun regex => regex.groups < most then
          wrong ("invalid reference \\" ++ Decimal.text most ++ " on \x60s\x27 command\x27s RHS") rest
        else
          return ({ regex, pieces, all := found.all, which := found.which.getD 1, tell := found.tell
                    target := found.target }, rest)
  | [] => unterminated

/-- The characters of a list to translate. -/
def listed : Octets → Octets
  | '\\' :: '\\' :: rest => '\\' :: listed rest
  | '\\' :: 'n' :: rest => '\n' :: listed rest
  | '\\' :: 't' :: rest => '\t' :: listed rest
  | c :: rest => c :: listed rest
  | [] => []

/-- Read a translation after its letter. -/
def translation (text : Octets) : Except Mistake (Action × Octets) :=
  let unterminated : Except Mistake (Action × Octets) := wrong "unterminated \x60y\x27 command" []
  match text with
  | mark :: rest =>
    match cutAt mark false (rest.length + 1) rest with
    | none => unterminated
    | some (source, rest) =>
      match cutAt mark false (rest.length + 1) rest with
      | none => unterminated
      | some (target, rest) =>
        let source := listed source
        let target := listed target
        if source.length = target.length then .ok (.translate (source.zip target), rest)
        else wrong "strings for \x60y\x27 command are different lengths" rest
  | [] => unterminated

/-- A text up to the end of its line.  A backslash protects what follows it, an end of line too. -/
def givenLine : Nat → Octets → Octets × Octets
  | 0, text => ([], text)
  | _, [] => ([], [])
  | _, ['\\'] => ([], [])
  | fuel + 1, '\\' :: c :: rest =>
    let (char, rest) := (namedChar? (c :: rest)).getD (c, rest)
    let (text, after) := givenLine fuel rest
    (char :: text, after)
  | fuel + 1, c :: rest =>
    if c == '\n' then ([], c :: rest)
    else
      let (text, after) := givenLine fuel rest
      (c :: text, after)

/-- Read the text of an action, with the end of its line.  It may begin on the next line, behind a
backslash; blanks before it do not count unless they come behind one. -/
def givenText (text : Octets) : Except Mistake (Octets × Octets) :=
  let line (text : Octets) : Except Mistake (Octets × Octets) :=
    let (given, rest) := givenLine (text.length + 1) text
    .ok (given ++ ['\n'], rest)
  match text.dropWhile isBlank with
  | [] => wrong "expected \\ after \x60a\x27, \x60c\x27 or \x60i\x27" []
  | '\\' :: rest =>
    match rest.dropWhile isBlank with
    | '\n' :: more => line more
    | [] => if rest.isEmpty then .ok ([], []) else line rest
    | _ =>
      -- the character behind the backslash stands for itself, unless it is one too
      match rest with
      | '\\' :: _ => line rest
      | c :: more => do
        let (given, rest) ← line more
        return (c :: given, rest)
      | [] => line rest
  | rest => line rest

/-- Read a name to jump to, which a blank, a semicolon or a brace ends. -/
def labelName (text : Octets) : Octets × Octets :=
  let text := text.dropWhile isBlank
  let name := text.takeWhile fun c => !(Octets.isSpace c || c == ';' || c == '\x7d')
  (name, text.drop name.length)

/-- Read a number after an action. -/
def optionalNumber (text : Octets) : Option Nat × Octets :=
  let rest := text.dropWhile isBlank
  let digits := rest.takeWhile Char.isDigit
  (if digits.isEmpty then none else some (Decimal.value digits), rest.drop digits.length)

/-- The actions that a letter alone stands for. -/
def plainActions : List (Char × Action) :=
  [('d', .delete), ('D', .deleteFirst), ('p', .tell), ('P', .tellFirst), ('=', .tellNumber),
    ('F', .tellName), ('n', .next), ('N', .addNext), ('h', .keep), ('H', .keepMore), ('g', .recall),
    ('G', .recallMore), ('x', .exchange), ('z', .clear)]

/-- Whether nothing more belongs to a rule. -/
def endsRule (rest : Octets) : Bool :=
  match rest.dropWhile isBlank with
  | [] => true
  | c :: _ => c == ';' || c == '\n' || c == '\x7d' || c == '#'

/-- Read an action; opening braces are read as if they led nowhere. -/
def action (extended : Bool) (address : Address) (text : Octets) : Except Mistake (Action × Octets) :=
  match text with
  | [] => wrong "missing command" []
  | c :: rest =>
    let jump (ifReplaced : Option Bool) : Except Mistake (Action × Octets) :=
      let (name, rest) := labelName rest
      .ok (.jump name ifReplaced, rest)
    let file (make : Octets → Action) : Except Mistake (Action × Octets) := do
      let (name, rest) ← fileName rest
      return (make name, rest)
    let given (make : Octets → Action) : Except Mistake (Action × Octets) := do
      let (text, rest) ← givenText rest
      return (make text, rest)
    let quit (quietly : Bool) : Except Mistake (Action × Octets) :=
      if address.bound.isSome then wrong "command only uses one address" rest
      else
        let (status, rest) := optionalNumber rest
        .ok (.quit (status.getD 0) quietly, rest)
    match plainActions.find? (·.1 == c), c with
    | some (_, action), _ => .ok (action, rest)
    | none, '\x7b' => .ok (.enter 0, rest)
    | none, 's' => do
      let (replacement, rest) ← replacement extended rest
      return (.replace replacement, rest)
    | none, 'y' => translation rest
    | none, 'q' => quit false
    | none, 'Q' => quit true
    | none, 'l' =>
      let (width, rest) := optionalNumber rest
      .ok (.tellClearly width, rest)
    | none, 'a' => given .append
    | none, 'i' => given .insert
    | none, 'c' => given .change
    | none, 'r' => file .readFile
    | none, 'R' => file .readLine
    | none, 'w' => file .writeFile
    | none, 'W' => file .writeFirst
    | none, 'b' => jump none
    | none, 't' => jump (some true)
    | none, 'T' => jump (some false)
    | none, 'v' => .ok (.nothing, rest.dropWhile fun c => c != '\n' && c != ';')
    | none, ':' =>
      let name := (rest.dropWhile isBlank).takeWhile fun c => !(Octets.isSpace c || c == ';')
      if address.first.isSome then wrong ": doesn\x27t want any addresses" rest
      else if name.isEmpty then wrong "\":\" lacks a label" rest
      else .ok (.label name, (rest.dropWhile isBlank).drop name.length)
    | none, c => wrong ("unknown command: \x60" ++ String.ofList [c] ++ "\x27") rest

/-- Read the rules of a script, behind those read before; `opened` are the places of the braces that
are open. -/
def rules (extended : Bool) : Nat → List Nat → Array Rule → Octets → Except Mistake (Array Rule)
  | 0, _, _, rest => wrong "missing command" rest
  | fuel + 1, opened, found, text =>
    match text.dropWhile fun c => Octets.isSpace c || c == ';' with
    | [] =>
      -- told without a place
      if opened.isEmpty then .ok found else .error ⟨"unmatched \x60\x7b\x27", 0⟩
    | '#' :: rest => rules extended fuel opened found (rest.dropWhile (· != '\n'))
    | '\x7d' :: rest =>
      match opened with
      | [] => wrong "unexpected \x60\x7d\x27" rest
      | start :: opened =>
        let found := found.push ⟨{}, .nothing⟩
        let found := found.modify start fun rule => { rule with action := .enter found.size }
        if endsRule rest then rules extended fuel opened found rest
        else wrong "extra characters after command" (rest.dropWhile isBlank).tail
    | text => do
      let (address, rest) ← address extended text
      let (action, rest) ← action extended address (rest.dropWhile isBlank)
      let next := found.push ⟨address, action⟩
      match action with
      | .enter _ => rules extended fuel (found.size :: opened) next rest
      | _ =>
        if endsRule rest then rules extended fuel opened next rest
        else wrong "extra characters after command" (rest.dropWhile isBlank).tail

/-- The labels that rules jump to and that are not there. -/
def missingLabel? (rules : Array Rule) : Option Octets :=
  rules.toList.findSome? fun rule =>
    match rule.action with
    | .jump name _ =>
      let isThere := name.isEmpty || rules.any fun rule =>
        match rule.action with
        | .label other => other == name
        | _ => false
      if isThere then none else some name
    | _ => none

/-- The files that rules write to. -/
def targets (rules : Array Rule) : List Octets :=
  (rules.toList.filterMap fun rule =>
    match rule.action with
    | .writeFile name => some name
    | .writeFirst name => some name
    | .replace replacement => replacement.target
    | _ => none).eraseDups

end Edit

end SiteScript.Rehearsal.Shell
