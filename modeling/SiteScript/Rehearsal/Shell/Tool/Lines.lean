import SiteScript.Rehearsal.Shell.Regex
import SiteScript.Rehearsal.Shell.Tool.Files

/-!
# SiteScript.Rehearsal.Shell.Tool.Lines

The programs that read text and write it in another arrangement, or count what is in it: whole files,
lines that are numbered, reversed, put side by side or folded, and tabs and blanks.
-/

namespace SiteScript.Rehearsal.Shell

/-- The number that a word of digits stands for. -/
def natural? (word : Octets) : Option Nat := Decimal.ofDigits? word

/-- The integer that a word stands for. -/
def integer? (word : Octets) : Option Int :=
  match word with
  | '-' :: digits => (natural? digits).map fun n => -(n : Int)
  | '+' :: digits => (natural? digits).map Int.ofNat
  | digits => (natural? digits).map Int.ofNat

/-- A number brought to a width with blanks. -/
def padLeft (width : Nat) (text : Octets) : Octets :=
  List.replicate (width - text.length) ' ' ++ text

/-! ## Whole files -/

/-- The lines of a text with their ends, as they are. -/
def markedLines (mark : Char) : Nat → Octets → List Octets
  | 0, _ => []
  | _, [] => []
  | fuel + 1, text =>
    let line := text.takeWhile (· != mark)
    (line ++ (text.drop line.length).take 1) :: markedLines mark fuel (text.drop (line.length + 1))

@[inherit_doc markedLines]
def endedLines (fuel : Nat) (text : Octets) : List Octets := markedLines '\n' fuel text

/-- A character that does not show, as marks that do. -/
def visible (tabs : Bool) (c : Char) : Octets :=
  let n := c.toNat
  let low (n : Nat) : Octets :=
    if n < 32 then ['^', Char.ofNat (n + 64)] else if n = 127 then ['^', '?'] else [Char.ofNat n]
  if c == '\n' then [c]
  else if c == '\t' then if tabs then ['^', 'I'] else [c]
  else if n ≥ 128 then 'M' :: '-' :: low (n - 128)
  else low n

/-- Take empty lines after an empty line away. -/
def squeeze : Bool → List Octets → List Octets
  | _, [] => []
  | afterEmpty, line :: rest =>
    let isEmpty := line == ['\n']
    if isEmpty && afterEmpty then squeeze true rest else line :: squeeze isEmpty rest

/-- Number lines from a number on: all of them, or those that are not empty. -/
def numbered (all : Bool) (n : Nat) : List Octets → List Octets
  | [] => []
  | line :: rest =>
    if all || line != ['\n'] then
      (padLeft 6 (Octets.ofNat n) ++ '\t' :: line) :: numbered all (n + 1) rest
    else line :: numbered all n rest

/-- Show text with the marks that are asked for. -/
def display (options : Options) (text : Octets) : Octets :=
  let has (letters : List Char) : Bool := letters.any options.has
  let lines := endedLines (text.length + 1) text
  let lines := if options.has 's' then squeeze false lines else lines
  let showTabs := has ['A', 'T', 't']
  let showOthers := has ['A', 'v', 'e', 't']
  let marked := lines.map fun line => line.flatMap fun c =>
    if c == '\n' then if has ['A', 'E', 'e'] then ['$', '\n'] else [c]
    else if showOthers || (showTabs && c == '\t') then visible showTabs c
    else [c]
  -- what counts as empty is decided before the ends are marked
  let plain := lines.map (· == ['\n'])
  let withNumbers := if options.has 'b' then
      (numberWhere 1 (marked.zip (plain.map (!·))))
    else if options.has 'n' then numbered true 1 marked
    else marked
  withNumbers.flatten
where
  /-- Number the lines that are to be numbered. -/
  numberWhere (n : Nat) : List (Octets × Bool) → List Octets
    | [] => []
    | (line, counts) :: rest =>
      if counts then (padLeft 6 (Octets.ofNat n) ++ '\t' :: line) :: numberWhere (n + 1) rest
      else line :: numberWhere n rest

/-- Write files one after another. -/
def concatenate : Tool := fun call =>
  call.withOptions
    { flags := "nbsETAvetu"
      long := [("number", 'n'), ("number-nonblank", 'b'), ("squeeze-blank", 's'), ("show-ends", 'E'),
        ("show-tabs", 'T'), ("show-all", 'A')] } 1
    fun options =>
      if options.given.all (·.1 == 'u') then
        let start := { call.start with taken := call.inputTaken options.operands }
        (call.contents options.operands).foldl (fun effect (operand, content) =>
          match content with
          | .ok text => effect.say text
          | .error fault => effect.complain (mistake call.name operand fault)) start
      else
        let (text, effect) := call.joined options.operands 1
        effect.say (display options text)

/-! ## Counts -/

/-- How wide a line is shown: a tab goes on to the next multiple of eight. -/
def lineWidth (line : Octets) : Nat :=
  let (longest, width) := line.foldl (fun ((longest, width) : Nat × Nat) c =>
    let width := if c == '\t' then (width / 8 + 1) * 8 else if c == '\r' then 0
      else if c < ' ' || c.toNat ≥ 0x7F then width else width + 1
    (max longest width, width)) (0, 0)
  max longest width

/-- The counts of a text that are asked for: lines, words, characters, bytes and the longest line. -/
def countsOf (options : Options) (text : Octets) : List Nat :=
  let all := options.given.all (·.1 == 'T')
  let counts := [(('l', text.count '\n')), ('w', (Octets.words text).length),
    ('m', (text.filter fun c => c.toNat < 0x80 || c.toNat ≥ 0xC0).length), ('c', text.length),
    ('L', ((Octets.lines text).map lineWidth).foldl max 0)]
  counts.filterMap fun (letter, count) =>
    if options.has letter || (all && ['l', 'w', 'c'].contains letter) then some count else none

/-- Counts in columns. -/
def countLine (width : Nat) (counts : List Nat) (name : Option Octets) : Octets :=
  Octets.spaced (counts.map fun n => padLeft width (Octets.ofNat n)) ++
    ((name.map fun name => ' ' :: name).getD []) ++ ['\n']

/-- Count lines, words and bytes. -/
def count : Tool := fun call =>
  call.withOptions
    { flags := "lwcmL", valued := "T"
      long := [("lines", 'l'), ("words", 'w'), ("bytes", 'c'), ("chars", 'm'),
        ("max-line-length", 'L'), ("total", 'T')] } 1
    fun options =>
      let totals := String.ofList ((options.value? 'T').getD "auto".toList)
      let contents := call.contents options.operands
      let columns := (countsOf options []).length
      let sizes := contents.map fun (operand, content) =>
        if operand == ['-'] then call.inputSize.elim (0, false) fun size => (size, true)
        else
          match content with
          | .ok text => (text.length, true)
          | .error .isDirectory => (0, false)
          | .error _ => (0, true)
      let total := sizes.foldl (fun total (size, _) => total + size) 0
      let width := if contents.length = 1 && columns = 1 then 1
        else max (Octets.ofNat total).length (if sizes.all (·.2) then 1 else 7)
      let start := { call.start with taken := call.inputTaken options.operands }
      let name (operand : Octets) : Option Octets :=
        if options.operands.isEmpty then none else some operand
      let line (found : List Nat) (operand : Octets) : Octets :=
        if totals == "only" then [] else countLine width found (name operand)
      let (effect, counts) := contents.foldl (fun (effect, counts) (operand, content) =>
        match content with
        | .ok text =>
          let found := countsOf options text
          (effect.say (line found operand), counts ++ [found])
        | .error .isDirectory =>
          let effect := effect.complain (mistake call.name operand .isDirectory)
          let found := countsOf options []
          (effect.say (line found operand), counts ++ [found])
        | .error fault => (effect.complain (mistake call.name operand fault), counts))
        (start, ([] : List (List Nat)))
      let wanted := totals == "always" || totals == "only" ||
        (totals != "never" && contents.length > 1)
      if wanted then
        let sums := counts.foldl (List.zipWith (· + ·)) (List.replicate columns 0)
        if totals == "only" then effect.say (countLine 1 sums none)
        else effect.say (countLine width sums (some "total".toList))
      else effect

/-! ## Other arrangements of lines -/

/-- The parts of a text that a separator ends, with their ends; or begins, if it stands before them. -/
def separated (separator : Octets) (before : Bool) : Nat → Octets → Octets → List Octets
  | 0, current, text => [current ++ text]
  | _, current, [] => if current.isEmpty then [] else [current]
  | fuel + 1, current, c :: rest =>
    match Text.dropPrefix? separator (c :: rest) with
    | some after =>
      if before then
        (if current.isEmpty then [] else [current]) ++ separated separator before fuel separator after
      else (current ++ separator) :: separated separator before fuel [] after
    | none => separated separator before fuel (current ++ [c]) rest

/-- Write the last line first.  Ends stay with their lines. -/
def reverseLines : Tool := fun call =>
  call.withOptions
    { flags := "br", valued := "s", long := [("before", 'b'), ("separator", 's'), ("regex", 'r')] } 1
    fun options =>
      let separator := (options.value? 's').getD ['\n']
      let start := { call.start with taken := call.inputTaken options.operands }
      (call.contents options.operands).foldl (fun effect (operand, content) =>
        match content with
        | .ok text =>
          effect.say (separated separator (options.has 'b') (text.length + 1) [] text).reverse.flatten
        | .error .isDirectory =>
          effect.complain (call.name ++ ": " ++ Octets.name operand ++ ": read error: " ++
            faultText .isDirectory)
        | .error fault =>
          effect.complain (call.name ++ ": failed to open " ++ inQuotes operand ++ " for reading: " ++
            faultText fault)) start

/-- Write the last character of each line first. -/
def reverseChars : Tool := fun call =>
  call.withOptions { flags := "" } 1 fun options =>
    let start := { call.start with taken := call.inputTaken options.operands }
    (call.contents options.operands).foldl (fun effect (operand, content) =>
      match content with
      | .ok text =>
        let lines := endedLines (text.length + 1) text
        effect.say (lines.flatMap fun line =>
          let ended := line.getLast? == some '\n'
          (if ended then line.dropLast else line).reverse ++ (if ended then ['\n'] else []))
      | .error fault =>
        effect.complain (call.name ++ ": cannot open " ++ Octets.name operand ++ ": " ++
          faultText fault)) start

namespace Numbering

/-- How lines are numbered. -/
structure Manner where
  width : Nat := 6
  separator : Octets := ['\t']
  step : Int := 1
  format : Octets := "rn".toList
  /-- How many empty lines count as one. -/
  blanks : Nat := 1

/-- Whether a style numbers a line. -/
def isNumbered (style line : Octets) : Bool :=
  match style with
  | ['a'] => true
  | ['n'] => false
  | 'p' :: pattern => ((Regex.ofText? { extended := false } pattern).map (·.occurs line)).getD false
  | _ => !line.isEmpty

/-- A number in its column. -/
def column (manner : Manner) (n : Int) : Octets :=
  let digits := Decimal.ofInt n
  let missing := manner.width - digits.length
  if manner.format == "ln".toList then digits ++ List.replicate missing ' '
  else if manner.format == "rz".toList then
    match digits with
    | '-' :: rest => '-' :: List.replicate missing '0' ++ rest
    | rest => List.replicate missing '0' ++ rest
  else List.replicate missing ' ' ++ digits

/-- Number lines.  The styles are those of the head, the body and the foot of a page, of which one is
in effect; a line of marks begins another part. -/
def lines (manner : Manner) (styles : Octets × Octets × Octets) (start : Int) (restarts : Bool) :
    Octets → Int → Nat → List Octets → List Octets
  | _, _, _, [] => []
  | style, n, blanks, line :: rest =>
    let part (style : Octets) (restart : Bool) : List Octets :=
      [] :: lines manner styles start restarts style (if restart && restarts then start else n) 0 rest
    if line == "\\:\\:\\:".toList then part styles.1 true
    else if line == "\\:\\:".toList then part styles.2.1 true
    else if line == "\\:".toList then part styles.2.2 true
    else
      let blanks := if line.isEmpty then blanks + 1 else 0
      let counts := isNumbered style line && (!line.isEmpty || blanks % manner.blanks = 0)
      if counts then
        (column manner n ++ manner.separator ++ line) ::
          lines manner styles start restarts style (n + manner.step) blanks rest
      else
        (List.replicate (manner.width + manner.separator.length) ' ' ++ line) ::
          lines manner styles start restarts style n blanks rest

end Numbering

/-- Number lines. -/
def numberLines : Tool := fun call =>
  call.withOptions
    { flags := "p", valued := "bswvnihfld"
      long := [("body-numbering", 'b'), ("number-separator", 's'), ("number-width", 'w'),
        ("starting-line-number", 'v'), ("number-format", 'n'), ("line-increment", 'i'),
        ("header-numbering", 'h'), ("footer-numbering", 'f'), ("join-blank-lines", 'l'),
        ("no-renumber", 'p'), ("section-delimiter", 'd')] } 1
    fun options =>
      let (text, effect) := call.joined options.operands 1
      let number (letter : Char) (otherwise : Int) : Int :=
        ((options.value? letter).bind integer?).getD otherwise
      let style (letter : Char) (otherwise : Char) : Octets :=
        (options.value? letter).getD [otherwise]
      let start := number 'v' 1
      let manner : Numbering.Manner :=
        { width := (number 'w' 6).toNat, separator := (options.value? 's').getD ['\t']
          step := number 'i' 1, format := (options.value? 'n').getD "rn".toList
          blanks := max 1 (number 'l' 1).toNat }
      let styles := (style 'h' 'n', style 'b' 't', style 'f' 'n')
      effect.say (Octets.unlines (Numbering.lines manner styles start (!options.has 'p') styles.2.1
        start 0 (Octets.lines text)))

/-- The marks between columns: a backslash and a zero stand for none. -/
def columnMarks : Octets → List Octets
  | '\\' :: c :: rest =>
    (if c == 'n' then ['\n'] else if c == 't' then ['\t'] else if c == '0' then []
      else if c == 'r' then ['\r'] else [c]) :: columnMarks rest
  | c :: rest => [c] :: columnMarks rest
  | [] => []

/-- The lines of columns.  Columns that are read from the input share its lines in turn. -/
def columnLines (call : Call) (mark : Char) (operands : List Octets) :
    List (Octets × Except FileFault (List Octets)) :=
  let operands := if operands.isEmpty then [['-']] else operands
  let dashes := (operands.filter (· == ['-'])).length
  let lines := Octets.parts mark call.input
  (operands.foldl (fun ((found, seen) : List (Octets × Except FileFault (List Octets)) × Nat) operand =>
    if operand == ['-'] then
      let own := (lines.zipIdx.filterMap fun (line, i) =>
        if i % dashes = seen then some line else none)
      (found ++ [(operand, .ok own)], seen + 1)
    else (found ++ [(operand, (call.read call.files operand).map (Octets.parts mark))], seen))
    ([], 0)).1

/-- Put lines of files side by side. -/
def paste : Tool := fun call =>
  call.withOptions
    { flags := "sz", valued := "d"
      long := [("serial", 's'), ("delimiters", 'd'), ("zero-terminated", 'z')] } 1
    fun options =>
      let mark := if options.has 'z' then '\x00' else '\n'
      let marks := ((options.value? 'd').map columnMarks).getD [['\t']]
      let between (i : Nat) : Octets := marks.getD (i % max marks.length 1) []
      let joinLine (parts : List Octets) : Octets :=
        (parts.zipIdx.map fun (part, i) => if i = 0 then part else between (i - 1) ++ part).flatten
      let start := { call.start with taken := call.inputTaken options.operands }
      if options.has 's' then
        (call.contents options.operands).foldl (fun effect (operand, content) =>
          match content with
          | .ok text => effect.say (joinLine (Octets.parts mark text) ++ [mark])
          | .error fault => effect.complain (mistake call.name operand fault)) start
      else
        let contents := columnLines call mark options.operands
        match contents.findSome? fun (operand, content) =>
          match content with
          | .error fault => some (operand, fault)
          | .ok _ => none with
        | some (operand, fault) => start.complain (mistake call.name operand fault)
        | none =>
          let columns := contents.filterMap fun (_, content) => content.toOption
          let height := (columns.map List.length).foldl max 0
          effectOf start mark joinLine columns height
where
  /-- Write rows of columns. -/
  effectOf (start : Effect) (mark : Char) (joinLine : List Octets → Octets)
      (columns : List (List Octets)) (height : Nat) : Effect :=
    let rows := (List.range height).foldl
      (fun ((rows, columns) : List Octets × List (List Octets)) _ =>
        (joinLine (columns.map (·.headD [])) :: rows, columns.map List.tail)) ([], columns)
    start.say (rows.1.reverse.flatMap (· ++ [mark]))

/-- Write the input to files and to the output. -/
def tee : Tool := fun call =>
  call.withOptions { flags := "aip", long := [("append", 'a')] } 1 fun options =>
    let start := { call.start with taken := call.input.length }
    let effect := options.operands.foldl (fun effect file =>
      let kept := if options.has 'a' then
          match call.read effect.files file with
          | .ok content => content
          | .error _ => []
        else []
      if file == "/dev/null".toList then effect
      else if file == "/dev/stdout".toList then effect.say call.input
      else if file == "/dev/stderr".toList then
        { effect with written := effect.written ++ [(2, call.input)] }
      else
        effect.attempt (call.write effect.files file (kept ++ call.input)) fun fault =>
          mistake call.name file fault) start
    effect.say call.input

/-! ## Widths -/

/-- The column after a character. -/
def columnAfter (bytes : Bool) (column : Nat) (c : Char) : Nat :=
  if bytes then column + 1
  else if c == '\t' then (column / 8 + 1) * 8
  else if c == '\x08' then column - 1
  else if c == '\r' then 0
  else column + 1

/-- The column after a text. -/
def columnAfterAll (bytes : Bool) (text : Octets) : Nat := text.foldl (columnAfter bytes) 0

/-- Fold a line to a width; perhaps behind blanks only. -/
def foldLine (bytes atBlanks : Bool) (width : Nat) : Nat → Octets → Octets → List Octets
  | 0, current, rest => [current ++ rest]
  | _, current, [] => if current.isEmpty then [] else [current]
  | fuel + 1, current, c :: rest =>
    let column := columnAfter bytes (columnAfterAll bytes current) c
    if column ≤ width || current.isEmpty then foldLine bytes atBlanks width fuel (current ++ [c]) rest
    else
      let kept := if atBlanks then Text.dropEndWhile (fun c => !(c == ' ' || c == '\t')) current else []
      if kept.isEmpty then current :: foldLine bytes atBlanks width fuel [] (c :: rest)
      else kept :: foldLine bytes atBlanks width fuel (current.drop kept.length) (c :: rest)

/-- Change the lines of files. -/
def eachLine (call : Call) (operands : List Octets) (change : Octets → Octets) : Effect :=
  let (text, effect) := call.joined operands 1
  effect.say ((endedLines (text.length + 1) text).flatMap fun line =>
    let ended := line.getLast? == some '\n'
    change (if ended then line.dropLast else line) ++ (if ended then ['\n'] else []))

/-- Fold long lines. -/
def fold : Tool := fun call =>
  let args := match call.args with
    | ('-' :: digits) :: rest =>
      if !digits.isEmpty && digits.all Char.isDigit then ['-', 'w'] :: digits :: rest else call.args
    | args => args
  { call with args }.withOptions
    { flags := "bs", valued := "w", long := [("bytes", 'b'), ("spaces", 's'), ("width", 'w')] } 1
    fun options =>
      match ((options.value? 'w').getD "80".toList |> natural?).filter (· > 0) with
      | none =>
        call.start.complain (call.name ++ ": invalid number of columns: " ++
          inQuotes ((options.value? 'w').getD []))
      | some width =>
        eachLine call options.operands fun line =>
          let parts := foldLine (options.has 'b') (options.has 's') width (2 * line.length + 2) [] line
          (parts.intersperse ['\n']).flatten

/-- Where tabs lead: the stops in order, and the distance of those that follow. -/
structure Tabs where
  stops : List Nat := []
  distance : Option Nat := some 8

/-- Read where tabs lead. -/
def Tabs.ofText? (text : Octets) : Option Tabs := do
  let numbers ← ((Text.split ',' (text.map fun c => if c == ' ' then ',' else c)).filter
    (!·.isEmpty)).mapM natural?
  match numbers with
  | [] => some {}
  | [n] => if n = 0 then none else some { stops := [], distance := some n }
  | numbers => some { stops := numbers, distance := none }

/-- The next stop behind a column. -/
def Tabs.next (tabs : Tabs) (column : Nat) : Nat :=
  match tabs.stops.find? (column < ·), tabs.distance with
  | some stop, _ => stop
  | none, some n => (column / n + 1) * n
  | none, none => column + 1

/-- Whether a column is a stop. -/
def Tabs.isStop (tabs : Tabs) (column : Nat) : Bool :=
  match tabs.distance with
  | some n => column % n = 0
  | none => tabs.stops.contains column

/-- Replace tabs by blanks; perhaps only before other characters. -/
def expandLine (tabs : Tabs) (initial : Bool) : Nat → Bool → Octets → Octets
  | _, _, [] => []
  | column, leading, c :: rest =>
    if c == '\t' && (leading || !initial) then
      let stop := tabs.next column
      List.replicate (stop - column) ' ' ++ expandLine tabs initial stop leading rest
    else
      let column := if c == '\x08' then column - 1 else column + 1
      c :: expandLine tabs initial column (leading && (c == ' ' || c == '\t')) rest

/-- Replace blanks by tabs: `held` are the blanks since a column.  Perhaps only before other
characters. -/
def unexpandLine (tabs : Tabs) (all : Bool) : Nat → Octets → Bool → Octets → Octets
  | _, held, _, [] => held
  | column, held, active, c :: rest =>
    if active && c == ' ' then
      let column := column + 1
      if tabs.isStop column && (held.length ≥ 1) then
        '\t' :: unexpandLine tabs all column [] active rest
      else unexpandLine tabs all column (held ++ [' ']) active rest
    else if active && c == '\t' then
      '\t' :: unexpandLine tabs all (tabs.next column) [] active rest
    else held ++ c :: unexpandLine tabs all (column + 1) [] (active && all) rest

/-- An option that is written as a number stands for the distance of tabs. -/
def tabOption (args : List Octets) : List Octets :=
  args.map fun arg =>
    match arg with
    | '-' :: c :: rest => if c.isDigit then '-' :: 't' :: c :: rest else arg
    | _ => arg

/-- Replace tabs by blanks. -/
def expand : Tool := fun call =>
  { call with args := tabOption call.args }.withOptions
    { flags := "i", valued := "t", long := [("initial", 'i'), ("tabs", 't')] } 1
    fun options =>
      match Tabs.ofText? ((options.value? 't').getD []) with
      | none => call.start.complain (call.name ++ ": tab size cannot be 0")
      | some tabs =>
        eachLine call options.operands fun line => expandLine tabs (options.has 'i') 0 true line

/-- Replace blanks by tabs. -/
def unexpand : Tool := fun call =>
  { call with args := tabOption call.args }.withOptions
    { flags := "af", valued := "t", long := [("all", 'a'), ("first-only", 'f'), ("tabs", 't')] } 1
    fun options =>
      match Tabs.ofText? ((options.value? 't').getD []) with
      | none => call.start.complain (call.name ++ ": tab size cannot be 0")
      | some tabs =>
        let all := (options.has 'a' || options.has 't') && !options.has 'f'
        eachLine call options.operands fun line => unexpandLine tabs all 0 [] true line

end SiteScript.Rehearsal.Shell
