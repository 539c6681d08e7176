import SiteScript.Rehearsal.Shell.Command

/-!
# SiteScript.Rehearsal.Shell.Reader

Reading command lines.  A program is read line by line (`readLine`), so that lines before a mistake
still run; a list of chains inside a command (`readList`) may go over several lines.

Reading is by recursive descent over the characters.  Where a function needs one that comes later, it
takes it as an argument: `readList` calls itself for the lists inside, one level of nesting less each
time.  A text that is given after the line (`<<`) is read when its redirection is; where the line ends,
reading goes on behind the text (`Source.resume`).
-/

namespace SiteScript.Rehearsal.Shell

/-- What is left to read. -/
structure Source where
  rest : Octets
  /-- Where reading goes on after the line, if not at once. -/
  resume : Option Octets := none
  /-- The number of the line. -/
  line : Nat := 1
  /-- Texts that stand for the names of commands. -/
  aliases : List (Octets × Octets) := []
  /-- The names whose texts are being read, with what is left after each. -/
  replaced : List (Octets × Nat) := []

/-- A reader takes something off a source, or finds that it is not there. -/
abbrev Reader (α : Type) := StateT Source Option α

namespace Reader

/-! ## Marks and blanks -/

/-- What is left to read. -/
def rest : Reader Octets := return (← get).rest

/-- Go on at a later place. -/
def goTo (rest : Octets) : Reader Unit := modify fun source => { source with rest }

/-- Go on after the end of a line. -/
def endLine (after : Octets) : Reader Unit := modify fun source =>
  { source with rest := source.resume.getD after, resume := none, line := source.line + 1 }

/-- What follows blanks.  A line that ends in a backslash goes on in the next. -/
def dropBlanks : Octets → Octets
  | ' ' :: rest => dropBlanks rest
  | '\t' :: rest => dropBlanks rest
  | '\\' :: '\n' :: rest => dropBlanks rest
  | rest => rest

/-- Skip blanks and a remark. -/
def skipBlanks : Reader Unit := do
  match dropBlanks (← rest) with
  | '#' :: remark => goTo (remark.dropWhile (· != '\n'))
  | rest => goTo rest

/-- Skip blanks, remarks and the ends of lines. -/
def skipLines : Nat → Reader Unit
  | 0 => failure
  | fuel + 1 => do
    skipBlanks
    match ← rest with
    | '\n' :: after => endLine after; skipLines fuel
    | _ => return ()

/-- Skip blanks and ends of lines as far as they go. -/
def skipSpace : Reader Unit := do skipLines ((← rest).length + 1)

/-- Take a mark that must come next. -/
def eat (mark : String) : Reader Unit := do
  skipBlanks
  match Text.dropPrefix? mark.toList (← rest) with
  | some after => goTo after
  | none => failure

/-- What ends a word that is not quoted. -/
def endsWord (c : Char) : Bool :=
  [' ', '\t', '\n', ';', '&', '|', '<', '>', '(', ')'].contains c

/-- The next word as it is written. -/
def nextWord : Reader Octets := return (← rest).takeWhile (!endsWord ·)

/-- Take a keyword that must come next. -/
def eatWord (word : String) : Reader Unit := do
  skipBlanks
  let next ← nextWord
  if next == word.toList then goTo ((← rest).drop next.length) else failure

/-- The words that make up commands. -/
def keywords : List String :=
  ["!", "\x7b", "\x7d", "case", "do", "done", "elif", "else", "esac", "fi", "for", "if", "in", "then",
    "until", "while"]

/-- The words that end a list. -/
def closers : List String := ["\x7d", "do", "done", "elif", "else", "esac", "fi", "then"]

/-- Whether a list ends here. -/
def atCloser : Reader Bool := do
  match ← rest with
  | ')' :: _ => return true
  | ';' :: ';' :: _ => return true
  | _ => return closers.contains (String.ofList (← nextWord))

/-! ## Words -/

/-- Where in a word the reader is. -/
inductive Quoting where
  | plain
  | double
  /-- In a text given after the line. -/
  | text
  /-- In the braces of a parameter, which may be quoted as a whole. -/
  | braces (quoted : Bool)
  /-- In a sum, within so many brackets. -/
  | sum (depth : Nat)
deriving DecidableEq

/-- Whether characters stand for themselves. -/
def Quoting.isQuoted : Quoting → Bool
  | .plain => false
  | .braces quoted => quoted
  | _ => true

/-- What a backslash and a character stand for. -/
def escaped (quoting : Quoting) (c : Char) : Octets :=
  let alone := match quoting with
    | .plain => true
    | .braces false => true
    | .braces true => ['$', '\x60', '\\', '"', '}'].contains c
    | .text => ['$', '\x60', '\\'].contains c
    | _ => ['$', '\x60', '\\', '"'].contains c
  if alone then [c] else ['\\', c]

/-- The text up to the closing backquote, and what follows. -/
def cutBackquoted (quoted : Bool) : Octets → Option (Octets × Octets)
  | [] => none
  | '\x60' :: rest => some ([], rest)
  | '\\' :: c :: rest =>
    let alone := ['$', '\x60', '\\'].contains c || (quoted && c == '"')
    (cutBackquoted quoted rest).map fun (text, rest) =>
      (if alone then c :: text else '\\' :: c :: text, rest)
  | c :: rest => (cutBackquoted quoted rest).map fun (text, rest) => (c :: text, rest)

/-- The parameters with a name of one mark. -/
def isMark (c : Char) : Bool := ['?', '$', '#', '@', '*', '!', '-'].contains c

/-- The name of a parameter, and what follows it. -/
def cutName? (text : Octets) : Option (Octets × Octets) :=
  match text with
  | [] => none
  | c :: rest =>
    if isNameStart c then some (text.takeWhile isNameChar, text.dropWhile isNameChar)
    else if c.isDigit then some (text.takeWhile Char.isDigit, text.dropWhile Char.isDigit)
    else if isMark c then some ([c], rest)
    else none

/-- The fallback that a mark stands for. -/
def fallbackOf? (c : Char) : Option Fallback :=
  [('-', .value), ('=', .assign), ('?', .fail), ('+', .alternative)].lookup c

/-- Read the use of a parameter up to the closing brace. -/
def readUse (word : Quoting → Reader Word) (quoted : Bool) : Reader Use := do
  let wrong : Reader Use := do let _ ← word (.braces quoted); return .wrong
  let fallback (orEmpty : Bool) (text : Octets) : Reader Use :=
    match text with
    | c :: after =>
      match fallbackOf? c with
      | some kind => do goTo after; return .fallback kind orEmpty (← word (.braces quoted))
      | none => wrong
    | [] => failure
  let trim (atEnd longest : Bool) (after : Octets) : Reader Use := do
    goTo after
    return .trim atEnd longest (← word (.braces false))
  match ← rest with
  | '}' :: after => goTo after; return .plain
  | ':' :: after => fallback true after
  | '%' :: '%' :: after => trim true true after
  | '%' :: after => trim true false after
  | '#' :: '#' :: after => trim false true after
  | '#' :: after => trim false false after
  | text => fallback false text

/-- Read a parameter after the opening brace. -/
def readBraced (word : Quoting → Reader Word) (quoted : Bool) : Reader Piece := do
  let text ← rest
  let length? := match text with
    | '#' :: after =>
      match cutName? after with
      | some (name, '}' :: after) => some (name, after)
      | _ => none
    | _ => none
  match length?, cutName? text with
  | some (name, after), _ => goTo after; return .parameter name .length
  | none, some (name, after) =>
    goTo after
    return .parameter name (← readUse word quoted)
  | none, none =>
    let _ ← word (.braces quoted)
    return .parameter [] .wrong

/-- Read what a dollar sign begins. -/
def readDollar (list : Reader (List Chain)) (word : Quoting → Reader Word) (quoted : Bool) :
    Reader Piece := do
  match ← rest with
  | '(' :: '(' :: after => goTo after; return .sum (← word (.sum 0))
  | '(' :: after =>
    goTo after
    let body ← list
    eat ")"
    return .command body
  | '{' :: after => goTo after; readBraced word quoted
  | c :: after =>
    if isNameStart c then
      goTo (after.dropWhile isNameChar)
      return .parameter (c :: after.takeWhile isNameChar) .plain
    else if c.isDigit || isMark c then goTo after; return .parameter [c] .plain
    else return .char '$'
  | [] => return .char '$'

/-- Read commands between backquotes. -/
def readBackquoted (list : Reader (List Chain)) (quoted : Bool) (text : Octets) : Reader Piece := do
  match cutBackquoted quoted text with
  | none => failure
  | some (inside, after) =>
    match list.run { rest := inside, line := (← get).line, aliases := (← get).aliases } with
    | some (body, source) =>
      if source.rest.isEmpty then goTo after; return .command body else failure
    | none => failure

/-- Whether a word that is read like this ends with the given text, and what is left then. -/
def wordEnd? (quoting : Quoting) (text : Octets) : Option (Option Octets) :=
  match quoting, text with
  | .plain, [] => some (some [])
  | .text, [] => some (some [])
  | _, [] => some none
  | .plain, c :: _ => if endsWord c then some (some text) else none
  | .double, '"' :: after => some (some after)
  | .braces _, '}' :: after => some (some after)
  | .sum 0, ')' :: ')' :: after => some (some after)
  | .sum 0, ')' :: _ => some none
  | _, _ => none

/-- How reading goes on after a character that stands for itself. -/
def Quoting.after (quoting : Quoting) (c : Char) : Quoting :=
  match quoting with
  | .sum depth =>
    if c == '(' then .sum (depth + 1) else if c == ')' then .sum (depth - 1) else quoting
  | quoting => quoting

/-- Read the pieces of a word up to its end. -/
def readPieces (list : Reader (List Chain)) : Nat → Quoting → Reader Word
  | 0, _ => failure
  | fuel + 1, quoting => do
    let text ← rest
    let add (piece : Piece) : Reader Word := do return piece :: (← readPieces list fuel quoting)
    match wordEnd? quoting text with
    | some (some after) => goTo after; return []
    | some none => failure
    | none =>
      match text with
      | '\\' :: '\n' :: after => goTo after; readPieces list fuel quoting
      | '\\' :: c :: after => goTo after; add (.literal (escaped quoting c))
      | '\\' :: [] => goTo []; add (.literal ['\\'])
      | '\x60' :: after => add (← readBackquoted list quoting.isQuoted after)
      | '$' :: after =>
        goTo after
        add (← readDollar list (readPieces list fuel) quoting.isQuoted)
      | c :: after =>
        if c == '\x27' && !quoting.isQuoted then
          match after.dropWhile (· != '\x27') with
          | _ :: behind => goTo behind; add (.literal (after.takeWhile (· != '\x27')))
          | [] => failure
        else if c == '"' && (quoting matches .plain || quoting matches .braces _) then
          goTo after
          add (.double (← readPieces list fuel .double))
        else
          goTo after
          return .char c :: (← readPieces list fuel (quoting.after c))
      | [] => failure

/-- Read a word, which may turn out empty. -/
def readWord (list : Reader (List Chain)) : Reader Word := do
  skipBlanks
  readPieces list ((← rest).length + 1) .plain

/-! ## Redirections -/

/-- The text that a word is written with, apart from its quotes. -/
def written : Nat → Word → Octets
  | 0, _ => []
  | fuel + 1, word => word.flatMap fun
    | .char c => [c]
    | .literal text => text
    | .double pieces => written fuel pieces
    | .parameter name _ => '$' :: name
    | _ => []

/-- What follows the end of the line, which does not end between quotes. -/
def afterLine : Option Char → Octets → Octets
  | _, [] => []
  | none, '\n' :: rest => rest
  | quote, '\\' :: c :: rest =>
    if quote == some '\x27' then afterLine (if c == '\x27' then none else quote) rest
    else afterLine quote rest
  | none, c :: rest => afterLine (if c == '"' || c == '\x27' then some c else none) rest
  | some quote, c :: rest => afterLine (if c == quote then none else some quote) rest

/-- The lines up to the one that is the delimiter, and what follows that. -/
def cutText (tabs : Bool) (delimiter : Octets) : Nat → Octets → Octets × Octets
  | 0, _ => ([], [])
  | _, [] => ([], [])
  | fuel + 1, text =>
    let line := text.takeWhile (· != '\n')
    let rest := text.drop line.length
    let line := if tabs then line.dropWhile (· == '\t') else line
    if line == delimiter then ([], rest.drop 1)
    else
      let (lines, after) := cutText tabs delimiter fuel (rest.drop 1)
      (line ++ rest.take 1 ++ lines, after)

/-- Read a text that is given after the line. -/
def readText (list : Reader (List Chain)) (stream : Nat) (tabs : Bool) : Reader Redirection := do
  let word ← readWord list
  if word.isEmpty then failure
  else
    let source ← get
    let start := source.resume.getD (afterLine none source.rest)
    let (text, after) := cutText tabs (written (word.length + 2) word) (start.length + 1) start
    set { source with resume := some after }
    if (plainText? word).isNone then return .text stream [.literal text]
    else
      match (readPieces list (text.length + 1) .text).run { rest := text, line := source.line } with
      | some (pieces, _) => return .text stream pieces
      | none => failure

/-- Read a redirection of a stream, if there is one. -/
def readRedirection? (list : Reader (List Chain)) (given : Option Nat) (text : Octets) :
    Reader (Option Redirection) := do
  let named (after : Octets) (make : Word → Redirection) : Reader (Option Redirection) := do
    goTo after
    let word ← readWord list
    if word.isEmpty then failure else return some (make word)
  let out := given.getD 1
  let input := given.getD 0
  match text with
  | '>' :: '>' :: after => named after (.file out .append)
  | '>' :: '&' :: after => named after (.same out)
  | '>' :: '|' :: after => named after (.file out .write)
  | '>' :: after => named after (.file out .write)
  | '<' :: '<' :: '-' :: after => goTo after; return some (← readText list input true)
  | '<' :: '<' :: after => goTo after; return some (← readText list input false)
  | '<' :: '&' :: after => named after (.same input)
  | '<' :: '>' :: after => named after (.file input .both)
  | '<' :: after => named after (.file input .read)
  | _ => return none

/-- Read a redirection, if one comes next.  A digit right before it is the stream. -/
def readRedirection (list : Reader (List Chain)) : Reader (Option Redirection) := do
  skipBlanks
  match ← rest with
  | c :: after =>
    if c.isDigit && after.head?.any fun d => d == '<' || d == '>' then
      readRedirection? list (some (Decimal.digitValue c)) after
    else readRedirection? list none (c :: after)
  | [] => return none

/-- Read redirections as far as they go. -/
def readRedirections (list : Reader (List Chain)) : Nat → Reader (List Redirection)
  | 0 => failure
  | fuel + 1 => do
    match ← readRedirection list with
    | some redirection => return redirection :: (← readRedirections list fuel)
    | none => return []

/-! ## Commands -/

/-- The name and the value of an assignment. -/
def assignment? : Word → Option (Octets × Word)
  | word =>
    let name := word.takeWhile fun
      | .char c => isNameChar c
      | _ => false
    match plainText? name, word.drop name.length with
    | some text, .char '=' :: value => if isName text then some (text, value) else none
    | _, _ => none

/-- What has been read of a simple command. -/
structure Parts where
  assignments : List (Octets × Word) := []
  words : List Word := []
  redirections : List Redirection := []

/-- The name of the function that a command defines, when brackets follow it. -/
def Parts.functionName? (parts : Parts) : Option Octets :=
  match parts.assignments, parts.words, parts.redirections with
  | [], [word], [] =>
    (plainText? word).filter fun name =>
      isName name && !specialNames.contains (String.ofList name)
  | _, _, _ => none

/-- Read a simple command, or the definition of a function. -/
def readSimple (list : Reader (List Chain)) (body : Reader Command) (line : Nat) :
    Nat → Parts → Reader Command
  | 0, _ => failure
  | fuel + 1, parts => do
    match ← readRedirection list with
    | some redirection =>
      readSimple list body line fuel
        { parts with redirections := parts.redirections ++ [redirection] }
    | none =>
      match ← rest with
      | '(' :: after =>
        match parts.functionName? with
        | some name =>
          goTo after
          eat ")"
          skipSpace
          return .define name (← body)
        | none => failure
      | text =>
        if text.head?.any (!endsWord ·) then
          let word ← readWord list
          match parts.words, assignment? word with
          | [], some assignment =>
            readSimple list body line fuel
              { parts with assignments := parts.assignments ++ [assignment] }
          | words, _ => readSimple list body line fuel { parts with words := words ++ [word] }
        else
          match parts with
          | ⟨[], [], []⟩ => failure
          | ⟨assignments, words, redirections⟩ =>
            return .simple line assignments words redirections

/-- Read further conditions of a choice, and what is done otherwise. -/
def readBranches (list : Bool → Reader (List Chain)) :
    Nat → Reader (List (List Chain × List Chain) × List Chain)
  | 0 => failure
  | fuel + 1 => do
    let condition ← list false
    eatWord "then"
    let body ← list false
    skipBlanks
    let next ← nextWord
    if next == "elif".toList then
      eatWord "elif"
      let (branches, otherwise) ← readBranches list fuel
      return ((condition, body) :: branches, otherwise)
    else if next == "else".toList then
      eatWord "else"
      return ([(condition, body)], ← list false)
    else return ([(condition, body)], [])

/-- Read words up to the end of the line or a semicolon. -/
def readWords (list : Reader (List Chain)) : Nat → Reader (List Word)
  | 0 => failure
  | fuel + 1 => do
    skipBlanks
    match ← rest with
    | '\n' :: after => endLine after; return []
    | ';' :: after => if after.head? == some ';' then failure else goTo after; return []
    | _ =>
      let word ← readWord list
      if word.isEmpty then failure else return word :: (← readWords list fuel)

/-- Read a loop over words, after its keyword. -/
def readEach (list : Bool → Reader (List Chain)) : Reader Command := do
  skipBlanks
  let name ← nextWord
  if !isName name then failure
  else
    goTo ((← rest).drop name.length)
    skipSpace
    let words ←
      if (← nextWord) == "in".toList then
        eatWord "in"
        pure (some (← readWords (list true) ((← rest).length + 1)))
      else
        match ← rest with
        | ';' :: after => goTo after; pure none
        | _ => pure none
    skipSpace
    eatWord "do"
    let body ← list false
    eatWord "done"
    return .each name words body

/-- Read the patterns of a case, which stand between bars. -/
def readPatterns (list : Reader (List Chain)) : Nat → Reader (List Word)
  | 0 => failure
  | fuel + 1 => do
    let word ← readWord list
    if word.isEmpty then failure
    else
      skipBlanks
      match ← rest with
      | '|' :: after => goTo after; return word :: (← readPatterns list fuel)
      | ')' :: after => goTo after; return [word]
      | _ => failure

/-- Read the cases of a selection up to its end. -/
def readCases (list : Bool → Reader (List Chain)) :
    Nat → Reader (List (List Word × List Chain))
  | 0 => failure
  | fuel + 1 => do
    skipSpace
    if (← nextWord) == "esac".toList then eatWord "esac"; return []
    else
      match ← rest with
      | '(' :: after => goTo after
      | _ => pure ()
      let patterns ← readPatterns (list true) ((← rest).length + 1)
      let body ← list true
      skipBlanks
      match ← rest with
      | ';' :: ';' :: after => goTo after; return (patterns, body) :: (← readCases list fuel)
      | _ => eatWord "esac"; return [(patterns, body)]

/-- Read the command that a keyword begins. -/
def readCompound (list : Bool → Reader (List Chain)) (keyword : String) : Reader Command := do
  eatWord keyword
  match keyword with
  | "\x7b" =>
    let body ← list false
    eatWord "\x7d"
    return .group body
  | "if" =>
    let (branches, otherwise) ← readBranches list ((← rest).length + 1)
    eatWord "fi"
    return .choice branches otherwise
  | "for" => readEach list
  | "case" =>
    let word ← readWord (list true)
    if word.isEmpty then failure
    else
      skipSpace
      eatWord "in"
      return .select word (← readCases list ((← rest).length + 1))
  | "while" =>
    let condition ← list false
    eatWord "do"
    let body ← list false
    eatWord "done"
    return .loop false condition body
  | "until" =>
    let condition ← list false
    eatWord "do"
    let body ← list false
    eatWord "done"
    return .loop true condition body
  | _ => failure

/-- Put the text of an alias in the place of the name that comes next, if it is one.  A name is not
replaced within its own text. -/
def replaceAlias : Nat → Reader Unit
  | 0 => return ()
  | fuel + 1 => do
    skipBlanks
    let source ← get
    let name ← nextWord
    let after := source.rest.drop name.length
    let inUse := source.replaced.any fun (old, left) => old == name && source.rest.length > left
    match source.aliases.lookup name with
    | some text =>
      if inUse then return ()
      else
        set { source with
          rest := text ++ after, replaced := (name, after.length) :: source.replaced }
        replaceAlias fuel
    | none => return ()

/-- Read a command. -/
def readCommand (list : Bool → Reader (List Chain)) : Nat → Reader Command
  | 0 => failure
  | fuel + 1 => do
    replaceAlias ((← get).aliases.length + 1)
    skipBlanks
    let source ← get
    let redirect (command : Command) : Reader Command := do
      match ← readRedirections (list true) ((← rest).length + 1) with
      | [] => return command
      | redirections => return .redirected command redirections
    match source.rest with
    | '(' :: after =>
      goTo after
      let body ← list false
      eat ")"
      redirect (.subshell body)
    | _ =>
      let word := String.ofList (← nextWord)
      if keywords.contains word then redirect (← readCompound list word)
      else
        readSimple (list true) (readCommand list fuel) source.line (source.rest.length + 1) {}

/-! ## Lists -/

/-- Read commands between bars. -/
def readPiped (command : Reader Command) : Nat → Reader (List Command)
  | 0 => failure
  | fuel + 1 => do
    let first ← command
    skipBlanks
    match ← rest with
    | '|' :: after =>
      if after.head? == some '|' then return [first]
      else
        goTo after
        skipSpace
        return first :: (← readPiped command fuel)
    | _ => return [first]

/-- Read a pipeline. -/
def readPipeline (command : Reader Command) : Reader Pipeline := do
  skipBlanks
  let negated := (← nextWord) == ['!']
  if negated then eatWord "!"
  return .mk negated (← readPiped command ((← rest).length + 1))

/-- Read the pipelines that depend on those before. -/
def readDependent (command : Reader Command) : Nat → Reader (List (Bool × Pipeline))
  | 0 => failure
  | fuel + 1 => do
    let next (onSuccess : Bool) (after : Octets) : Reader (List (Bool × Pipeline)) := do
      goTo after
      skipSpace
      let pipeline ← readPipeline command
      return (onSuccess, pipeline) :: (← readDependent command fuel)
    skipBlanks
    match ← rest with
    | '&' :: '&' :: after => next true after
    | '|' :: '|' :: after => next false after
    | _ => return []

/-- Read chains up to the end of the list: the end of the line, unless the list is `nested`. -/
def readChains (command : Reader Command) (nested : Bool) : Nat → Bool → Reader (List Chain)
  | 0, _ => failure
  | fuel + 1, mayEnd => do
    if nested then skipSpace else skipBlanks
    match ← rest with
    | [] => return []
    | '\n' :: after => endLine after; return []
    | _ =>
      if nested && mayEnd && (← atCloser) then return []
      else
        let first ← readPipeline command
        let dependent ← readDependent command ((← rest).length + 1)
        let chain (background : Bool) : Chain := .mk first dependent background
        skipBlanks
        match ← rest with
        | '&' :: after =>
          goTo after
          return chain true :: (← readChains command nested fuel true)
        | ';' :: after =>
          if after.head? == some ';' then
            if nested then return [chain false] else failure
          else
            goTo after
            return chain false :: (← readChains command nested fuel true)
        | '\n' :: _ => return chain false :: (← readChains command nested fuel true)
        | [] => return [chain false]
        | _ => if nested then return [chain false] else failure

/-- Read a list inside a command, nested so deep at most.  It may be empty only where that is said. -/
def readList : Nat → Bool → Reader (List Chain)
  | 0, _ => failure
  | depth + 1, mayBeEmpty => do
    let fuel := (← rest).length + 1
    readChains (readCommand (readList depth) fuel) true fuel mayBeEmpty

/-- Read a line. -/
def readLine : Reader (List Chain) := do
  let source ← get
  let aliased := source.aliases.foldl (fun total (_, text) => total + text.length) 1
  let fuel := (source.rest.length + 1) * aliased
  readChains (readCommand (readList fuel) fuel) false fuel true

end Reader

end SiteScript.Rehearsal.Shell
