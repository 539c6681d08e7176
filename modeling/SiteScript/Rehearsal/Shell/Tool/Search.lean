import SiteScript.Rehearsal.Shell.Regex
import SiteScript.Rehearsal.Shell.Tool.Lines

/-!
# SiteScript.Rehearsal.Shell.Tool.Search

Searching for lines that fit expressions.  What is written about a file is its lines, with those around
them if that is wanted (`shownLines`), the parts that fit (`matchesIn`), a count, or its name.
-/

namespace SiteScript.Rehearsal.Shell

namespace Search

/-- The expression that a pattern stands for, as options say. -/
def regex? (options : Options) (pattern : Octets) : Option Regex := do
  let fixed := options.prevails 'F' ['E', 'G', 'P']
  let extended := options.prevails 'E' ['F', 'G'] || options.has 'P'
  let regex ← if fixed then some (Regex.literal pattern)
    else Regex.ofText? { extended, strayClosing := extended } pattern
  let regex := if options.has 'i' || options.has 'y' then regex.ignoringCase else regex
  let regex := if options.has 'w' then
      .both (.edge .clearBefore) (.both (.group 0 regex) (.edge .clearAfter)) else regex
  return if options.has 'x' then .both .start (.both (.group 0 regex) .stop) else regex

/-- The matches in a line, one after another, each with its place. -/
def matchesIn (regex : Regex) : Nat → Nat → Option Char → Octets → List (Nat × Octets)
  | 0, _, _, _ => []
  | fuel + 1, offset, before, text =>
    match regex.findFrom before text with
    | none => []
    | some found =>
      let place := offset + found.skipped.length
      if found.text.isEmpty then
        match found.place.rest with
        | c :: rest => matchesIn regex fuel (place + 1) (some c) rest
        | [] => []
      else
        (place, found.text) ::
          matchesIn regex fuel (place + found.text.length) found.place.before found.place.rest

/-- A line of a text: its number, where it begins, and whether it is looked for. -/
structure Line where
  number : Nat
  offset : Nat
  text : Octets
  selected : Bool

/-- The lines of a text. -/
def linesOf (options : Options) (regex : Regex) (text : Octets) : List Line :=
  let texts := if options.has 'z' then Octets.parts '\x00' text else Octets.lines text
  let found := texts.foldl (fun ((lines, offset) : List Line × Nat) text =>
    let selected := regex.occurs text != options.has 'v'
    (⟨lines.length + 1, offset, text, selected⟩ :: lines, offset + text.length + 1)) ([], 0)
  found.1.reverse

/-- Lines up to so many that are looked for, and those that follow the last of them. -/
def upTo (most after : Nat) (lines : List Line) : List Line :=
  match most, lines with
  | 0, lines => (lines.take after).map fun line => { line with selected := false }
  | _, [] => []
  | most + 1, line :: rest => line :: upTo (if line.selected then most else most + 1) after rest
termination_by lines.length

/-- How many lines around a line are shown. -/
def context (options : Options) : Nat × Nat :=
  let number (letter : Char) : Option Nat := (options.value? letter).bind natural?
  ((number 'B' <|> number 'C').getD 0, (number 'A' <|> number 'C').getD 0)

/-- The lines that are shown: those that are looked for, and so many before and after them. -/
def shownLines (before after : Nat) (lines : List Line) : List Line :=
  let marks := lines.filterMap fun line => if line.selected then some line.number else none
  lines.filter fun line => marks.any fun mark =>
    mark ≤ line.number + before && line.number ≤ mark + after

/-- What stands before a line or a match. -/
def heading (options : Options) (title : Octets) (line : Line) (offset : Nat) : Octets :=
  let mark := if line.selected then ':' else '-'
  let part (text : Octets) : Octets := text ++ [mark]
  (if title.isEmpty then [] else part title) ++
    (if options.has 'n' then part (Octets.ofNat line.number) else []) ++
    (if options.has 'b' then part (Octets.ofNat offset) else [])

/-- The lines that are shown of a text. -/
def listing (options : Options) (regexes : Regex) (title : Octets) (lines : List Line) : Octets :=
  let ending := if options.has 'z' then '\x00' else '\n'
  if options.has 'o' then
    if options.has 'v' then []
    else
      (lines.filter (·.selected)).flatMap fun line =>
        (matchesIn regexes (line.text.length + 1) 0 none line.text).flatMap fun (place, text) =>
          heading options title line (line.offset + place) ++ text ++ [ending]
  else
    let (before, after) := context options
    let shown := shownLines before after lines
    let groups := shown.splitBy fun a b => a.number + 1 == b.number
    let bodies := if before = 0 && after = 0 then [shown] else groups
    let rendered := bodies.map fun group => group.flatMap fun line =>
      heading options title line line.offset ++ line.text ++ [ending]
    ((rendered.filter (!·.isEmpty)).intersperse ['-', '-', '\n']).flatten

/-- What is written about a text, and whether a line was found. -/
def report (options : Options) (regex : Regex) (title : Octets) (text : Octets) :
    Octets × Bool × Bool :=
  let all := linesOf options regex text
  let after := (context options).2
  let lines := match (options.value? 'm').bind natural? with
    | some most => upTo most (if options.has 'o' || options.has 'c' then 0 else after) all
    | none => all
  let count := (lines.filter (·.selected)).length
  let found := count > 0
  let nameEnd := if options.has 'Z' then '\x00' else '\n'
  let binary := text.contains '\x00' && !options.has 'a' && !options.has 'z'
  let body := if options.has 'q' then []
    else if options.has 'l' then if found then title ++ [nameEnd] else []
    else if options.has 'L' then if found then [] else title ++ [nameEnd]
    else if options.has 'c' then
      (if title.isEmpty then [] else title ++ [':']) ++ Octets.ofNat count ++ ['\n']
    else if binary then []
    else listing options regex title lines
  (body, found, binary && found && !(['q', 'l', 'L', 'c'].any options.has))

/-- Whether a name fits one of some patterns. -/
def fitsOne (patterns : List Octets) (name : Octets) : Bool :=
  patterns.any fun pattern => Pattern.fits (Pattern.parts (pattern.map fun c => (c, false))) name

/-- The files below operands that are directories. -/
def filesBelow (call : Call) (options : Options) (operand : Octets) : List Octets :=
  let values (letter : Char) : List Octets := options.given.filterMap fun (c, value) =>
    if c == letter then some value else none
  let wanted (name : Octets) : Bool :=
    ((values 'J').isEmpty || fitsOne (values 'J') name) && !fitsOne (values 'K') name
  match call.files.locate? (call.path operand), call.isDirectory call.files operand with
  | some location, true =>
    let all := if options.has 'R' then call.files.visible FileSystem.maxLinks location
      else call.files.below location
    let found := all.filterMap fun (names, entry) =>
      let dirs := names.dropLast.map octets
      match entry with
      | .file _ _ =>
        if wanted (octets (names.getLastD "")) && !dirs.any (fitsOne (values 'M')) then
          let text := octets (joinSegments names)
          some (if operand.isEmpty then text else within operand text)
        else none
      | _ => none
    Octets.sorted found
  | _, _ => [operand]

/-- Options that are written as a number alone stand for a number of lines around. -/
def contextOption (args : List Octets) : List Octets :=
  args.map fun arg =>
    match arg with
    | '-' :: digits =>
      if !digits.isEmpty && digits.all Char.isDigit then '-' :: 'C' :: digits else arg
    | _ => arg

/-- The options that there are. -/
def spec : OptionSpec :=
  { flags := "EFGPivwxcnlLqsohHrRayzbUZT", valued := "emABCfDdJKM"
    long := [("extended-regexp", 'E'), ("fixed-strings", 'F'), ("basic-regexp", 'G'),
      ("perl-regexp", 'P'), ("ignore-case", 'i'), ("invert-match", 'v'), ("word-regexp", 'w'),
      ("line-regexp", 'x'), ("count", 'c'), ("line-number", 'n'), ("files-with-matches", 'l'),
      ("files-without-match", 'L'), ("quiet", 'q'), ("silent", 'q'), ("only-matching", 'o'),
      ("recursive", 'r'), ("dereference-recursive", 'R'), ("regexp", 'e'), ("file", 'f'),
      ("no-messages", 's'), ("color", 'U'), ("colour", 'U'), ("max-count", 'm'),
      ("after-context", 'A'), ("before-context", 'B'), ("context", 'C'), ("no-filename", 'h'),
      ("with-filename", 'H'), ("byte-offset", 'b'), ("null", 'Z'), ("null-data", 'z'), ("text", 'a'),
      ("include", 'J'), ("exclude", 'K'), ("exclude-dir", 'M'), ("line-buffered", 'U'),
      ("directories", 'd'), ("initial-tab", 'T')] }

/-- The patterns of a call and the operands that are files; none if there are no patterns. -/
def patterns? (call : Call) (options : Options) : Option (List Octets × List Octets) :=
  let given := options.given.flatMap fun (letter, value) =>
    if letter == 'e' then Text.split '\n' value
    else if letter == 'f' then
      Octets.lines ((call.read call.files value).toOption.getD [])
    else []
  if options.has 'e' || options.has 'f' then some (given, options.operands)
  else
    match options.operands with
    | pattern :: rest => some (Text.split '\n' pattern, rest)
    | [] => none

/-- One expression for any of some. -/
def anyOf : List Regex → Regex
  | [] => .char [] false
  | [regex] => regex
  | regex :: rest => .either regex (anyOf rest)

end Search

open Search in
/-- Write the lines that fit an expression. -/
def search : Tool := fun call =>
  let call := match baseName (octets call.name) with
    | ['e', 'g', 'r', 'e', 'p'] => { call with args := "-E".toList :: call.args }
    | ['f', 'g', 'r', 'e', 'p'] => { call with args := "-F".toList :: call.args }
    | _ => call
  { call with args := contextOption call.args }.withOptions spec 2 fun options =>
    match patterns? call options with
    | none => call.refuse 2 "Usage: grep [OPTION]... PATTERNS [FILE]..."
    | some (patterns, operands) =>
      match patterns.mapM (regex? options) with
      | none => call.start.complainWith 2 (call.name ++ ": invalid regular expression")
      | some regexes =>
        let regex := anyOf regexes
        let recursive := options.has 'r' || options.has 'R' ||
          options.value? 'd' == some "recurse".toList
        let searched : List Octets := if recursive then
            if operands.isEmpty then
              (filesBelow call options ['.']).map fun (name : Octets) => name.drop 2
            else operands.flatMap (filesBelow call options)
          else operands
        let titled := !options.prevails 'h' ['H'] &&
          (operands.length > 1 || recursive || options.prevails 'H' ['h'])
        let named := options.has 'l' || options.has 'L' || titled
        let contents := if recursive && searched.isEmpty then [] else call.contents searched
        let start := { call.start with
          taken := if recursive && searched.isEmpty then 0 else call.inputTaken searched }
        let (effect, any, broken) := contents.foldl
          (fun ((effect, any, broken) : Effect × Bool × Bool)
              ((operand, content) : Octets × Except FileFault Octets) =>
            let title : Octets := if operand == ['-'] then "(standard input)".toList else operand
            if any && options.has 'q' then (effect, any, broken)
            else
              match content with
              | .ok text =>
                let (body, found, binary) := report options regex (if named then title else []) text
                let effect := effect.say body
                let effect := if binary then
                    { effect.complain (call.name ++ ": " ++ title.name ++ ": binary file matches") with
                      status := 0 }
                  else effect
                (effect, any || found, broken)
              | .error fault =>
                if fault == FileFault.isDirectory && options.value? 'd' == some "skip".toList then
                  (effect, any, broken)
                else if options.has 's' then (effect, any, true)
                else (effect.complainWith 2 (mistake call.name title fault), any, true))
          (start, false, false)
        let status := if any && (options.has 'q' || !broken) then 0 else if broken then 2 else 1
        { effect with status }

end SiteScript.Rehearsal.Shell
