import SiteScript.Hex
import SiteScript.Rehearsal.Shell.Launch
import SiteScript.Rehearsal.Shell.Tool.Ends

/-!
# SiteScript.Rehearsal.Shell.Batch

Running a command with words that are read from a text.  The text is cut into tokens: words, and ends of
lines (`Batch.tokens`, `Batch.items`).  The words are gathered into batches, as many as a limit allows
(`Batch.gather`), and the command is run once with each batch (`Batch.runAll`).
-/

namespace SiteScript.Rehearsal.Shell

namespace Batch

/-! ## Tokens -/

/-- What a text is made of. -/
inductive Token where
  | word (text : Octets)
  | lineEnd
deriving DecidableEq

/-- Where a text is read. -/
inductive Mode where
  /-- Between words. -/
  | outside
  | inside
  | quoted (mark : Char)
  | escaped
  /-- A quote was left open at the end of a line. -/
  | stuck

/-- How far a text has been read: the word that has begun and the tokens before it, the last first. -/
structure Reading where
  mode : Mode := .outside
  current : Option Octets := none
  found : List Token := []

namespace Reading

variable (reading : Reading)

/-- Add a character to the word. -/
def push (mode : Mode) (c : Char) : Reading :=
  { reading with mode, current := some (c :: reading.current.getD []) }

/-- Go on inside of the word. -/
def enter (mode : Mode) : Reading :=
  { reading with mode, current := some (reading.current.getD []) }

/-- End the word, if one has begun. -/
def finish : Reading :=
  { found := (reading.current.map fun text => Token.word text.reverse).toList ++ reading.found }

/-- Read a character that nothing protects. -/
def plain (wholeLines : Bool) (c : Char) : Reading :=
  if c == '\n' then
    let ended := reading.finish
    { ended with found := .lineEnd :: ended.found }
  else if !wholeLines && (c == ' ' || c == '\t') then reading.finish
  else if c == '\\' then reading.enter .escaped
  else if c == '"' || c == '\x27' then reading.enter (.quoted c)
  else reading.push .inside c

/-- Read a character. -/
def next (wholeLines : Bool) (c : Char) : Reading :=
  match reading.mode with
  | .outside => if Octets.isSpace c then reading else reading.plain wholeLines c
  | .inside => reading.plain wholeLines c
  | .escaped => reading.push .inside c
  | .quoted mark =>
    if c == '\n' then { reading with mode := .stuck }
    else if c == mark then { reading with mode := .inside }
    else reading.push (.quoted mark) c
  | .stuck => reading

end Reading

/-- The tokens of a text in which quotes and backslashes protect characters, and whether a quote is left
open; reading ends there.  A word ends at a blank, or only at the end of the line.  Blanks before the end
of a line let it go on. -/
def tokens (wholeLines : Bool) (text : Octets) : List Token × Bool :=
  let reading := text.foldl (Reading.next · wholeLines ·) {}
  match reading.mode with
  | .stuck => (reading.found.reverse, true)
  | .quoted _ => (reading.found.reverse, true)
  | _ => (reading.finish.found.reverse, false)

/-- The items of a text that a character ends, as they are. -/
def items (ending : Char) (text : Octets) : List Token :=
  (Octets.parts ending text).flatMap fun item => [.word item, .lineEnd]

/-- The character that a word names as an end of items. -/
def ending? (word : Octets) : Option Char :=
  let number (base : Nat) (digits : Octets) : Option Char :=
    if digits.isEmpty then none
    else
      (digits.foldlM (fun (n : Nat) (c : Char) => do
        let digit ← Hex.digitValue? (UInt8.ofNat c.toNat)
        if digit < base then some (n * base + digit) else none) 0).bind fun n =>
        if n < 256 then some (Char.ofNat n) else none
  match word with
  | [c] => some c
  | ['\\', c] =>
    match ([('a', '\x07'), ('b', '\x08'), ('f', '\x0c'), ('n', '\n'), ('r', '\r'), ('t', '\t'),
        ('v', '\x0b'), ('\\', '\\')] : List (Char × Char)).lookup c with
    | some named => some named
    | none => number 8 [c]
  | '\\' :: 'x' :: digits => number 16 digits
  | '\\' :: '0' :: digits => if digits.isEmpty then some '\x00' else number 8 digits
  | '\\' :: digits => number 8 digits
  | _ => none

/-! ## Batches -/

/-- How much a batch may hold. -/
structure Limits where
  words : Option Nat := none
  lines : Option Nat := none
  /-- The bytes of the command and of the words, with one more for each. -/
  size : Nat := 131072
  /-- Whether words that do not fit are a mistake. -/
  strict : Bool := false

/-- What has been gathered, the last first. -/
structure Gathered where
  batches : List (List Octets) := []
  current : List Octets := []
  /-- The number and the size of the words, and the number of lines. -/
  words : Nat := 0
  size : Nat := 0
  lines : Nat := 0
  failed : Bool := false

/-- The bytes that words take. -/
def sizeOf (words : List Octets) : Nat := words.foldl (fun n word => n + word.length + 1) 0

namespace Gathered

/-- Close the current batch. -/
def close (gathered : Gathered) : Gathered :=
  { batches := gathered.current.reverse :: gathered.batches, failed := gathered.failed }

/-- Add a token, where the command takes so many bytes. -/
def add (limits : Limits) (base : Nat) (gathered : Gathered) (token : Token) : Gathered :=
  if gathered.failed then gathered
  else
    match token with
    | .lineEnd =>
      let lines := gathered.lines + 1
      if limits.lines.any (· ≤ lines) then gathered.close else { gathered with lines }
    | .word text =>
      let isTooMuch := base + gathered.size + text.length + 1 > limits.size
      let isStuck := gathered.words = 0 ||
        (limits.strict && (limits.words.isSome || limits.lines.isSome))
      if isTooMuch && isStuck then { gathered with current := [], words := 0, failed := true }
      else
        let gathered := if isTooMuch then gathered.close else gathered
        let added :=
          { gathered with
            current := text :: gathered.current
            words := gathered.words + 1
            size := gathered.size + text.length + 1 }
        if limits.words.any (· ≤ added.words) then added.close else added

end Gathered

/-- The batches of tokens, and whether a word did not fit.  If there are no words, there is a batch
without any, if that is wanted. -/
def gather (limits : Limits) (base : Nat) (always : Bool) (tokens : List Token) :
    List (List Octets) × Bool :=
  let gathered := tokens.foldl (Gathered.add limits base) {}
  let isLeft := gathered.words > 0 || (always && !gathered.failed && gathered.batches.isEmpty)
  ((if isLeft then gathered.close else gathered).batches.reverse, gathered.failed)

/-! ## Running -/

/-- Replace a text wherever it stands. -/
def replaceText (old new : Octets) : Nat → Octets → Octets
  | 0, text => text
  | _, [] => []
  | fuel + 1, c :: rest =>
    match Text.dropPrefix? old (c :: rest) with
    | some after => if old.isEmpty then c :: rest else new ++ replaceText old new fuel after
    | none => c :: replaceText old new fuel rest

/-- A word as a shell would read it. -/
def shellWord (word : Octets) : Octets :=
  let isPlain (c : Char) : Bool := c.isAlphanum || "_-./:,+@%]^".toList.contains c
  if !word.isEmpty && word.all isPlain then word
  else if !word.contains '\x27' then '\x27' :: word ++ ['\x27']
  else if word.all fun c => !(['"', '$', '\x60', '\\', '!'].contains c) then '"' :: word ++ ['"']
  else
    '\x27' :: replaceText ['\x27'] ['\x27', '\\', '\x27', '\x27'] (word.length + 1) word ++ ['\x27']

/-- Run commands one after another.  The status tells whether any failed; some failures end it at
once. -/
def runAll (run : List Octets → Step) (traced failed : Bool) : Nat → List (List Octets) → Step
  | status, [] => Step.done (if failed then 1 else status)
  | status, words :: rest => do
    if traced then modify fun state => state.write 2 (Octets.spaced (words.map shellWord) ++ ['\n'])
    let state ← get
    match words.head?.bind (refusal? state ·) with
    | some code => Step.done code
    | none =>
      match ← run words with
      | .next =>
        let last := (← get).status
        if last = 255 then Step.done 124
        else runAll run traced failed (if last = 0 then status else 123) rest
      | .killed shell signal =>
        if shell = state.id then Step.done 125 else return .killed shell signal
      | flow => return flow

/-- The options that are known. -/
def spec : OptionSpec :=
  { flags := "0oprtx", valued := "adEILnPs", optional := "eil", anywhere := false
    long := [("null", '0'), ("arg-file", 'a'), ("delimiter", 'd'), ("eof", 'e'), ("replace", 'i'),
      ("max-lines", 'l'), ("max-args", 'n'), ("open-tty", 'o'), ("interactive", 'p'),
      ("max-procs", 'P'), ("no-run-if-empty", 'r'), ("max-chars", 's'), ("verbose", 't'),
      ("exit", 'x')] }

/-- What is replaced in the command, and how many words and lines are in a batch: an option takes away
what contradicts it before. -/
def choices (options : Options) : Option (Option Octets × Option Nat × Option Nat) :=
  options.given.foldlM (fun (mark?, words?, lines?) (letter, value) =>
    match letter with
    | 'I' => some (some value, none, none)
    | 'i' => some (some (if value.isEmpty then ['\x7b', '\x7d'] else value), none, none)
    | 'L' => do return (none, none, some (← positive? value))
    | 'l' => do return (none, none, some (← if value.isEmpty then some 1 else positive? value))
    | 'n' => do
      let n ← positive? value
      if n = 1 && mark?.isSome then some (mark?, none, none) else some (none, some n, none)
    | _ => some (mark?, words?, lines?)) (none, none, none)
where
  /-- A number that is not zero. -/
  positive? (word : Octets) : Option Nat := (natural? word).filter (· > 0)

/-- Run a command with the words of the input, or of a file. -/
def launch (run : List Octets → Step) (args : List Octets) : Step := do
  let refuse (text : String) : Step := do
    modify fun state => state.write 2 (octets ("xargs: " ++ text ++ "\n"))
    Step.done 1
  match spec.read none args with
  | .error what => refuse what
  | .ok options =>
    let state ← get
    let source : Except FileFault Octets := match options.value? 'a' with
      | none => .ok (state.unread 0)
      | some file => (state.world.files.read (state.path file)).map Octets.ofArray
    let ending? : Option (Option Char) :=
      if options.prevails '0' ['d'] then some (some '\x00')
      else
        match options.value? 'd' with
        | none => some none
        | some word => (ending? word).map some
    let size? := match options.value? 's' with
      | none => some 131072
      | some word => (natural? word).filter (· > 0)
    match source, ending?, choices options, size? with
    | .error _, _, _, _ => refuse "Cannot open input file"
    | _, none, _, _ => refuse "Invalid input delimiter specification"
    | _, _, none, _ => refuse "invalid number"
    | _, _, _, none => refuse "invalid number"
    | .ok text, some ending?, some (mark?, words, lines), some size =>
      if (options.value? 'a').isNone then
        modify fun state => (state.skip 0 text.length).connectNew 0 .nothing
      let (tokens, isOpen) := match ending? with
        | some ending => (items ending text, false)
        | none => tokens mark?.isSome text
      let last? := (options.value? 'E' <|> options.value? 'e').filter (!·.isEmpty)
      let tokens := match last? with
        | some last => if ending?.isSome then tokens else tokens.takeWhile (· != .word last)
        | none => tokens
      let command := if options.operands.isEmpty then ["echo".toList] else options.operands
      if options.has 'p' then refuse "failed to open /dev/tty for reading"
      else
        match mark? with
        | some mark =>
          let lines := tokens.filterMap fun
            | .word text => some text
            | .lineEnd => none
          runAll run (options.has 't') isOpen 0 (lines.map fun line =>
            command.take 1 ++ (command.drop 1).map fun word =>
              replaceText mark line (word.length + 1) word)
        | none =>
          let limits : Limits := { words, lines, size, strict := options.has 'x' }
          let always := !options.has 'r' && !isOpen
          let (batches, failed) := gather limits (sizeOf command) always tokens
          let batches := if isOpen && options.has 'x' then batches.dropLast else batches
          runAll run (options.has 't') (isOpen || failed) 0 (batches.map (command ++ ·))

end Batch

end SiteScript.Rehearsal.Shell
