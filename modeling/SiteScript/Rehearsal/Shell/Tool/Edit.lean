import SiteScript.Rehearsal.Shell.Tool.EditScript
import SiteScript.Rehearsal.Shell.Tool.Lines

/-!
# SiteScript.Rehearsal.Shell.Tool.Edit

Editing lines as they pass.  For each line the rules of a script are applied one after another
(`Passing.run`); what is known while lines pass is the line itself, a second text that is kept from line
to line, and the lines to come.

A last line without an end is written without one, and the end is made up for when something follows
(`Output`).
-/

namespace SiteScript.Rehearsal.Shell

namespace Edit

/-! ## Replacing -/

/-- Write characters with their letters changed: by the shape for all, and the one for the next. -/
def shaped (shape : Shape) (c : Char) : Char :=
  match shape with
  | .asTheyAre => c
  | .upper => c.toUpper
  | .lower => c.toLower

/-- What a replacement stands for, given the match. -/
def fill (found : Regex.Found) (shape next : Shape) : List Piece → Octets
  | [] => []
  | .shape shape :: rest => fill found shape next rest
  | .next next :: rest => fill found shape next rest
  | piece :: rest =>
    let text := match piece with
      | .char c => [c]
      | .group number =>
        if number = 0 then found.text else (found.place.groups.lookup number).getD []
      | _ => []
    match text with
    | [] => fill found shape next rest
    | c :: more =>
      let first := if next == .asTheyAre then shaped shape c else shaped next c
      first :: more.map (shaped shape) ++ fill found shape .asTheyAre rest

/-- Replace matches from a place on; `behind` tells that a match ends there, so that an empty one does
not count.  Gives the text and whether anything was replaced. -/
def replaceFrom (regex : Regex) (replacement : Replacement) :
    Nat → Nat → Bool → Option Char → Octets → Octets × Bool
  | 0, _, _, _, line => (line, false)
  | fuel + 1, which, behind, before, line =>
    match regex.findFrom before line with
    | none => (line, false)
    | some found =>
      let stepOver (shown : Octets) (which : Nat) (any : Bool) : Octets × Bool :=
        match found.place.rest with
        | c :: rest =>
          let (after, more) := replaceFrom regex replacement fuel which false (some c) rest
          (found.skipped ++ shown ++ c :: after, any || more)
        | [] => (found.skipped ++ shown, any)
      if found.text.isEmpty && found.skipped.isEmpty && behind then stepOver [] which false
      else
        let chosen := which ≤ 1
        let shown := if chosen then fill found .asTheyAre .asTheyAre replacement.pieces
          else found.text
        if chosen && !replacement.all then (found.skipped ++ shown ++ found.place.rest, true)
        else if found.text.isEmpty then stepOver shown (which - 1) chosen
        else
          let (after, more) := replaceFrom regex replacement fuel (which - 1) true
            found.place.before found.place.rest
          (found.skipped ++ shown ++ after, chosen || more)

/-! ## Writing -/

/-- What was written, the latest first, and whether it lacks the end of a line. -/
structure Output where
  written : List Octets := []
  lacking : Bool := false

/-- Write a text, behind the end of a line that is lacking. -/
def Output.write (output : Output) (mark : Char) (text : Octets) : Output :=
  { written := (if output.lacking then mark :: text else text) :: output.written }

/-- Write a line, which may have no end. -/
def Output.line (output : Output) (mark : Char) (text : Octets) (ended : Bool) : Output :=
  { output.write mark (if ended then text ++ [mark] else text) with lacking := !ended }

/-- All that was written. -/
def Output.text (output : Output) : Octets := output.written.reverse.flatten

/-- A character as it is shown clearly. -/
def clearly (c : Char) : Octets :=
  let names := [('\\', '\\'), ('\x07', 'a'), ('\x08', 'b'), ('\x0c', 'f'), ('\n', 'n'), ('\r', 'r'),
    ('\t', 't'), ('\x0b', 'v')]
  match names.lookup c with
  | some letter => ['\\', letter]
  | none =>
    if c.toNat < 32 || c.toNat > 126 then
      '\\' :: ([64, 8, 1].map fun unit => Char.ofNat (48 + c.toNat / unit % 8))
    else [c]

/-- A text as it is shown clearly, in lines of a width. -/
def clearLines (width : Nat) (text : Octets) : Octets :=
  let (done, line) := text.foldl (fun ((done, line) : Octets × Octets) c =>
    let shown := clearly c
    if width > 1 && line.length + shown.length > width - 1 then (done ++ line ++ ['\\', '\n'], shown)
    else (done, line ++ shown)) ([], [])
  done ++ line ++ ['$', '\n']

/-! ## Passing lines -/

/-- A line to come. -/
structure Line where
  text : Octets
  /-- Whether its end was there. -/
  ended : Bool
  /-- The name of the file it comes from. -/
  source : Octets

/-- How far the lines of a rule have come. -/
inductive Extent where
  | before
  /-- The rule is for the lines now, perhaps up to one with a number. -/
  | inside (stop : Option Nat)
  | behind
deriving DecidableEq

/-- What is written after a line. -/
inductive Later where
  | text (text : Octets)
  | raw (text : Octets)

/-- The manner of editing. -/
structure Manner where
  rules : Array Rule
  silent : Bool := false
  /-- What ends lines. -/
  mark : Char := '\n'
  /-- The width of lines that are shown clearly. -/
  width : Nat := 70
  /-- The contents of the files that can be read. -/
  read : Octets → Octets

/-- What is known while lines pass. -/
structure Passing where
  line : Octets := []
  ended : Bool := true
  kept : Octets := []
  keptEnded : Bool := true
  number : Nat := 0
  source : Octets := ['-']
  coming : List Line
  replaced : Bool := false
  extents : Array Extent
  later : List Later := []
  recent : Option Regex := none
  output : Output := {}
  /-- What was written to files. -/
  files : List (Octets × Output) := []
  /-- What is left of the files that are read line by line. -/
  partly : List (Octets × List Octets) := []

namespace Passing

variable (passing : Passing)

/-- Write a text of its own. -/
def say (manner : Manner) (text : Octets) : Passing :=
  { passing with output := passing.output.write manner.mark text }

/-- Write the line. -/
def tell (manner : Manner) : Passing :=
  { passing with output := passing.output.line manner.mark passing.line passing.ended }

/-- Write the line unless that is not wanted. -/
def tellUnlessSilent (manner : Manner) : Passing :=
  if manner.silent then passing else passing.tell manner

/-- Write what is to be written after the line. -/
def flush (manner : Manner) : Passing :=
  passing.later.foldl (fun passing later =>
    match later with
    | .text text => passing.say manner text
    | .raw text => if text.isEmpty then passing else passing.say manner text)
    { passing with later := [] }

/-- Write a line to a file, or to the output. -/
def writeTo (manner : Manner) (name text : Octets) (ended : Bool) : Passing :=
  if name == "/dev/stdout".toList then
    { passing with output := passing.output.line manner.mark text ended }
  else
    let old := (passing.files.lookup name).getD {}
    { passing with
      files := (name, old.line manner.mark text ended) :: passing.files.filter (·.1 != name) }

/-- Take the next line, which may be added to the one before. -/
def take (next : Line) (coming : List Line) (added : Option Char) : Passing :=
  let line := match added with
    | some mark => passing.line ++ mark :: next.text
    | none => next.text
  { passing with
    line, coming, ended := next.ended, source := next.source, number := passing.number + 1
    replaced := false }

/-- The expression that is meant, which is then the last one used. -/
def regex? (given : Option Regex) : Option Regex := given <|> passing.recent

/-- Whether the line is one that an address names, and what is known then. -/
def isAt (spot : Spot) : Bool × Passing :=
  match spot with
  | .number n => (n = passing.number, passing)
  | .stepped first step =>
    (if step = 0 then passing.number = first
      else passing.number ≥ first && (passing.number - first) % step = 0, passing)
  | .last => (passing.coming.isEmpty, passing)
  | .fits given =>
    match passing.regex? given with
    | some regex => (regex.occurs passing.line, { passing with recent := some regex })
    | none => (false, passing)

/-- How far lines have come that begin with this one, and end as a bound says. -/
def extentFrom (bound : Bound) : Extent :=
  let upTo (stop : Nat) : Extent := if stop ≤ passing.number then .behind else .inside (some stop)
  match bound with
  | .spot (.number n) => upTo n
  | .spot .last => if passing.coming.isEmpty then .behind else .inside none
  | .spot _ => .inside none
  | .further n => upTo (passing.number + n)
  | .multiple n => if n = 0 then .behind else upTo (passing.number + n - passing.number % n)

/-- Whether the rule at a place is for the line, apart from its negation. -/
def isIn (place : Nat) (address : Address) : Bool × Passing :=
  match address.first, address.bound with
  | none, _ => (true, passing)
  | some spot, none => passing.isAt spot
  | some spot, some bound =>
    let goTo (passing : Passing) (extent : Extent) : Passing :=
      { passing with extents := passing.extents.setIfInBounds place extent }
    match passing.extents.getD place .before with
    | .inside (some stop) =>
      (passing.number ≤ stop, if stop ≤ passing.number then goTo passing .behind else passing)
    | .inside none =>
      match bound with
      | .spot (.number n) =>
        (passing.number ≤ n, if n ≤ passing.number then goTo passing .behind else passing)
      | .spot spot =>
        let (ends, passing) := passing.isAt spot
        (true, if ends then goTo passing .behind else passing)
      | _ => (true, passing)
    | extent =>
      let (begins, passing) := match spot with
        -- lines that were passed without a look count, once
        | .number n => (extent == .before && n ≤ passing.number, passing)
        | spot => passing.isAt spot
      if !begins then (false, passing)
      else
        match spot, bound with
        | .number n, .spot (.number stop) =>
          if stop ≤ passing.number then (n = passing.number || passing.number ≤ stop, goTo passing .behind)
          else (true, goTo passing (passing.extentFrom bound))
        | _, _ => (true, goTo passing (passing.extentFrom bound))

end Passing

/-! ## Applying rules -/

/-- How editing goes on. -/
inductive Turn where
  /-- With the rule at a place. -/
  | rule (place : Nat)
  /-- With the next line; this one is written first if that is wanted. -/
  | done (told : Bool)
  /-- With the first rule and the same line. -/
  | again
  /-- No more. -/
  | quit (status : Nat) (told : Bool)

/-- The place of a label, or the end. -/
def placeOf (manner : Manner) (name : Octets) : Nat :=
  manner.rules.toList.findIdx fun rule =>
    match rule.action with
    | .label other => other == name && !name.isEmpty
    | _ => false

/-- The text up to the first end of line. -/
def firstLine (manner : Manner) (text : Octets) : Octets := text.takeWhile (· != manner.mark)

namespace Passing

variable (passing : Passing)

/-- Replace matches in the line. -/
def replace (manner : Manner) (replacement : Replacement) : Passing :=
  match passing.regex? replacement.regex with
  | none => passing
  | some regex =>
    let (line, any) := replaceFrom regex replacement (passing.line.length + 2) replacement.which
      false none passing.line
    let passing := { passing with line, recent := some regex, replaced := passing.replaced || any }
    if !any then passing
    else
      let passing := if replacement.tell then passing.tell manner else passing
      match replacement.target with
      | some name => passing.writeTo manner name passing.line true
      | none => passing

/-- Do what an action says, at a place.  Gives how editing goes on. -/
def act (manner : Manner) (place : Nat) : Action → Turn × Passing
  | .enter _ => (.rule (place + 1), passing)
  | .nothing => (.rule (place + 1), passing)
  | .label _ => (.rule (place + 1), passing)
  | .jump name ifReplaced =>
    let target := placeOf manner name
    match ifReplaced with
    | none => (.rule target, passing)
    | some wanted =>
      let next := { passing with replaced := false }
      if passing.replaced == wanted then (.rule target, next) else (.rule (place + 1), next)
  | .replace replacement => (.rule (place + 1), passing.replace manner replacement)
  | .translate table =>
    (.rule (place + 1),
      { passing with line := passing.line.map fun c => (table.lookup c).getD c })
  | .delete => (.done false, passing)
  | .deleteFirst =>
    match Text.cut? manner.mark passing.line with
    | some (_, rest) => (.again, { passing with line := rest })
    | none => (.done false, passing)
  | .tell => (.rule (place + 1), passing.tell manner)
  | .tellFirst =>
    (.rule (place + 1), passing.say manner (firstLine manner passing.line ++ [manner.mark]))
  | .tellClearly width =>
    (.rule (place + 1), passing.say manner (clearLines (width.getD manner.width) passing.line))
  | .tellNumber => (.rule (place + 1), passing.say manner (Octets.ofNat passing.number ++ ['\n']))
  | .tellName => (.rule (place + 1), passing.say manner (passing.source ++ ['\n']))
  | .quit status quietly => (.quit status (!quietly), passing)
  | .append text => (.rule (place + 1), { passing with later := passing.later ++ [.text text] })
  | .insert text => (.rule (place + 1), passing.say manner text)
  | .change text =>
    let more := match passing.extents.getD place .before with
      | .inside _ => true
      | _ => false
    let isRange := (manner.rules[place]?.bind (·.address.bound)).isSome
    let negated := (manner.rules[place]?.map (·.address.negated)).getD false
    (.done false, if isRange && more && !negated then passing else passing.say manner text)
  | .readFile name =>
    (.rule (place + 1), { passing with later := passing.later ++ [.raw (manner.read name)] })
  | .readLine name =>
    let lines := (passing.partly.lookup name).getD (endedLines 1000000 (manner.read name))
    let rest := { passing with partly := (name, lines.tail) :: passing.partly.filter (·.1 != name) }
    match lines with
    | line :: _ => (.rule (place + 1), { rest with later := rest.later ++ [.raw line] })
    | [] => (.rule (place + 1), rest)
  | .writeFile name => (.rule (place + 1), passing.writeTo manner name passing.line passing.ended)
  | .writeFirst name =>
    (.rule (place + 1), passing.writeTo manner name (firstLine manner passing.line) true)
  | .next =>
    match passing.coming with
    | [] => (.done true, passing)
    | line :: coming =>
      (.rule (place + 1), ((passing.tellUnlessSilent manner).flush manner).take line coming none)
  | .addNext =>
    match passing.coming with
    | [] => (.done true, passing)
    | line :: coming =>
      (.rule (place + 1), (passing.flush manner).take line coming (some manner.mark))
  | .keep => (.rule (place + 1), { passing with kept := passing.line, keptEnded := passing.ended })
  | .keepMore =>
    (.rule (place + 1),
      { passing with
        kept := passing.kept ++ manner.mark :: passing.line, keptEnded := passing.ended })
  | .recall => (.rule (place + 1), { passing with line := passing.kept, ended := passing.keptEnded })
  | .recallMore =>
    (.rule (place + 1),
      { passing with
        line := passing.line ++ manner.mark :: passing.kept, ended := passing.keptEnded })
  | .exchange =>
    (.rule (place + 1),
      { passing with
        line := passing.kept, ended := passing.keptEnded
        kept := passing.line, keptEnded := passing.ended })
  | .clear => (.rule (place + 1), { passing with line := [] })

/-- Apply the rules from a place on, and then to the lines to come.  Gives a status if editing was
ended.  The first number bounds the steps. -/
def run (manner : Manner) : Nat → Nat → Passing → Option Nat × Passing
  | 0, _, passing => (none, passing)
  | steps + 1, place, passing =>
    let finish (told : Bool) (passing : Passing) : Passing :=
      ((if told then passing.tellUnlessSilent manner else passing)).flush manner
    let (turn, passing) : Turn × Passing := match manner.rules[place]? with
      | none => (.done true, passing)
      | some rule =>
        let (holds, passing) := passing.isIn place rule.address
        if holds != rule.address.negated then passing.act manner place rule.action
        else
          match rule.action with
          | .enter stop => (.rule stop, passing)
          | _ => (.rule (place + 1), passing)
    match turn with
    | .rule place => run manner steps place passing
    | .again => run manner steps 0 (passing.flush manner)
    | .quit status told => (some status, if told then finish true passing else passing)
    | .done told =>
      let passing := finish told passing
      match passing.coming with
      | [] => (none, passing)
      | line :: coming => run manner steps 0 (passing.take line coming none)

end Passing

/-- The most steps of a script. -/
def maxSteps : Nat := 5000000

/-- The lines of a file. -/
def linesOf (mark : Char) (name text : Octets) : List Line :=
  let lines := Octets.parts mark text
  let ended := text.getLast? == some mark
  lines.zipIdx.map fun (text, i) => ⟨text, ended || i + 1 < lines.length, name⟩

/-- How far the lines of rules have come at first.  A rule from line zero on is for the lines at
once. -/
def firstExtents (rules : Array Rule) : Array Extent :=
  rules.map fun rule =>
    match rule.address.first with
    | some (.number 0) => .inside none
    | _ => .before

/-- Edit lines, with a text that is kept and what was written to files before.  Gives a status if
editing was ended. -/
def editLines (manner : Manner) (before : Passing) (lines : List Line) : Option Nat × Passing :=
  match lines with
  | [] => (none, before)
  | line :: coming =>
    Passing.run manner maxSteps 0 (before.take line coming none)

/-! ## Files -/

/-- The name of the file that keeps what a file was: a star in the ending stands for its name. -/
def savedName (ending operand : Octets) : Octets :=
  let base := baseName operand
  let dir := operand.take (operand.length - base.length)
  let name := if ending.contains '*' then
      ending.flatMap fun c => if c == '*' then base else [c]
    else base ++ ending
  if name.contains '/' then name else dir ++ name

/-- Put what was edited in the place of a file, which may be kept under another name. -/
def replaceFile (call : Call) (ending : Octets) (effect : Effect) (operand text : Octets) : Effect :=
  let mode := match call.stat effect.files operand with
    | .ok (.file _ traits) => traits.mode
    | _ => 0o644
  let path := call.path operand
  let moved := if ending.isEmpty then effect.files.unlink path
    else effect.files.rename path (call.path (savedName ending operand))
  let change := do
    let files ← moved
    let files ← call.write files operand text
    return files.setMode path mode
  effect.attempt change fun fault =>
    call.name ++ ": cannot rename " ++ operand.name ++ ": " ++ faultText fault

/-- Edit files in their places. -/
def editInPlace (call : Call) (manner : Manner) (ending : Octets) (start : Passing)
    (operands : List Octets) (effect : Effect) : Effect × Passing :=
  let (effect, passing, _) := operands.foldl
    (fun ((effect, passing, stopped) : Effect × Passing × Bool) operand =>
    if stopped then (effect, passing, true)
    else
      match call.read effect.files operand with
      | .error .isDirectory =>
        (effect.complainWith 4 (call.name ++ ": couldn\x27t edit " ++ operand.name ++
          ": not a regular file"), passing, stopped)
      | .error fault =>
        (effect.complainWith (max 2 effect.status) (call.name ++ ": can\x27t read " ++ operand.name ++
          ": " ++ faultText fault), passing, stopped)
      | .ok text =>
        let lines := linesOf manner.mark operand text
        let (ending?, after) := editLines manner
          { passing with output := {}, number := 0, extents := firstExtents manner.rules } lines
        let effect := replaceFile call ending effect operand after.output.text
        ({ effect with status := ending?.getD effect.status }, after, ending?.isSome))
    (effect, start, false)
  (effect, passing)

/-- Edit the lines of files, as one text or each on its own. -/
def editStream (call : Call) (manner : Manner) (separate : Bool) (start : Passing)
    (operands : List Octets) (effect : Effect) : Effect × Passing :=
  let contents := call.contents operands
  let isBroken (content : Except FileFault Octets) : Bool :=
    match content with
    | .error .isDirectory => true
    | _ => false
  -- nothing is read behind a directory
  let readable := contents.takeWhile fun (_, content) => !isBroken content
  let (effect, parts) := readable.foldl
    (fun ((effect, parts) : Effect × List (List Line)) (operand, content) =>
      match content with
      | .ok text => (effect, parts ++ [linesOf manner.mark operand text])
      | .error fault =>
        (effect.complainWith 2 (call.name ++ ": can\x27t read " ++ Octets.name operand ++ ": " ++
          faultText fault), parts)) (effect, [])
  let effect := match contents.drop readable.length with
    | (operand, _) :: _ =>
      effect.complainWith 4 (call.name ++ ": read error on " ++ operand.name ++ ": Is a directory")
    | [] => effect
  let parts := if separate then parts else [parts.flatten]
  let (ending?, passing) := parts.foldl
    (fun ((ending?, passing) : Option Nat × Passing) lines =>
      if ending?.isSome then (ending?, passing)
      else editLines manner { passing with number := 0, extents := firstExtents manner.rules } lines)
    (none, start)
  let effect := effect.say passing.output.text
  ({ effect with
      status := ending?.getD effect.status
      taken := call.inputTaken operands }, passing)

/-- The options that there are. -/
def spec : OptionSpec :=
  { flags := "nErsuz", valued := "efl", optional := "i"
    long := [("quiet", 'n'), ("silent", 'n'), ("expression", 'e'), ("file", 'f'),
      ("regexp-extended", 'E'), ("in-place", 'i'), ("line-length", 'l'), ("separate", 's'),
      ("null-data", 'z'), ("zero-terminated", 'z'), ("unbuffered", 'u'), ("posix", 'u'),
      ("follow-symlinks", 'u')] }

/-- The script of a call and the operands that are files; none if there is no script. -/
def script? (call : Call) (options : Options) : Option (Octets × List Octets) :=
  let given := options.given.filterMap fun (letter, value) =>
    if letter == 'e' then some value
    else if letter == 'f' then
      let text := if value == ['-'] then call.input else
        (call.read call.files value).toOption.getD []
      some (if text.getLast? == some '\n' then text.dropLast else text)
    else none
  if options.has 'e' || options.has 'f' then some ((given.intersperse ['\n']).flatten, options.operands)
  else
    match options.operands with
    | script :: rest => some (script, rest)
    | [] => none

/-- Whether a script begins with the line that asks for silence. -/
def isSilent (script : Octets) : Bool :=
  match script with
  | '#' :: 'n' :: rest => rest.isEmpty || rest.head? == some '\n'
  | _ => false

end Edit

open Edit in
/-- Edit lines as they pass, or in the files themselves. -/
def edit : Tool := fun call =>
  call.withOptions spec 1 fun options =>
    match script? call options with
    | none => call.lacking "Usage: sed [OPTION]... \x7bscript-only-if-no-other-script\x7d [input-file]..."
    | some (script, operands) =>
      match rules (options.has 'E' || options.has 'r') (script.length + 2) [] #[] script with
      | .error mistake =>
        let place := if mistake.what.startsWith "unmatched" then 0 else script.length - mistake.left
        call.start.complain (call.name ++ ": -e expression #1, char " ++ Decimal.text place ++ ": " ++
          mistake.what)
      | .ok rules =>
        match missingLabel? rules with
        | some name =>
          call.start.complainWith 4 (call.name ++ ": can\x27t find label for jump to \x60" ++ name.name ++
            "\x27")
        | none =>
          let files := (targets rules).filter (· != "/dev/stdout".toList)
          let opened := files.foldl (fun effect name =>
            effect.attempt (call.write effect.files name [])
              (refusal call "couldn\x27t open file" name)) call.start
          let call := { call with files := opened.files }
          let manner : Manner :=
            { rules, silent := options.has 'n' || isSilent script
              mark := if options.has 'z' then '\x00' else '\n'
              width := ((options.value? 'l').bind natural?).getD 70
              read := fun name => (call.read call.files name).toOption.getD [] }
          let start : Passing := { coming := [], extents := firstExtents rules }
          let (effect, passing) := if options.has 'i' then
              editInPlace call manner ((options.value? 'i').getD []) start operands opened
            else editStream call manner (options.has 's') start operands opened
          files.foldl (fun effect name =>
            match passing.files.lookup name with
            | some output =>
              effect.attempt (call.write effect.files name output.text)
                (refusal call "couldn\x27t write" name)
            | none => effect) effect

end SiteScript.Rehearsal.Shell
