import SiteScript.Rehearsal.Shell.Pattern
import SiteScript.Rehearsal.Shell.Regex
import SiteScript.Rehearsal.Shell.Tool.Difference
import SiteScript.Rehearsal.Shell.Tool.Ends

/-!
# SiteScript.Rehearsal.Shell.Tool.Compare

Comparing files: byte by byte (`sameBytes`), or line by line (`differences`).  The changes between the
lines of two files are shown in one of several styles (`Style`); directories are compared name by name.
-/

namespace SiteScript.Rehearsal.Shell

/-! ## Bytes -/

namespace Bytewise

/-- What is compared. -/
structure Request where
  /-- The names of the files, and what of them is compared. -/
  names : Octets × Octets
  texts : Octets × Octets
  /-- Whether nothing is told. -/
  silent : Bool := false
  /-- Whether all differences are told. -/
  all : Bool := false
  /-- Whether the characters are told too. -/
  chars : Bool := false

/-- A number of three places in the base of eight. -/
def octal (c : Char) : Octets := padLeft 3 (Nat.toDigits 8 c.toNat)

/-- A text brought to a width with blanks behind it. -/
def padRight (width : Nat) (text : Octets) : Octets :=
  text ++ List.replicate (width - text.length) ' '

/-- A character that does not show, as marks that do. -/
def shownChar (c : Char) : Octets :=
  let n := c.toNat
  let low (n : Nat) : Octets :=
    if n < 32 then ['^', Char.ofNat (n + 64)] else if n = 127 then ['^', '?'] else [Char.ofNat n]
  if n ≥ 128 then 'M' :: '-' :: low (n - 128) else low n

/-- What is told about two texts, and the status. -/
def compare (request : Request) : Octets × Nat :=
  let (x, y) := request.texts
  let shared := ((x.zip y).takeWhile fun (c, d) => c == d).length
  if x == y then ([], 0)
  else if request.silent then ([], 1)
  else if request.all then
    let width := (Octets.ofNat (min x.length y.length)).length
    let lines := (x.zip y).zipIdx.filterMap fun ((c, d), i) =>
      if c == d then none
      else
        let place := padLeft width (Octets.ofNat (i + 1))
        some (if request.chars then
            place ++ ' ' :: octal c ++ ' ' :: padRight 4 (shownChar c) ++ ' ' :: octal d ++ ' ' ::
              shownChar d
          else place ++ ' ' :: octal c ++ ' ' :: octal d)
    (Octets.unlines lines, 1)
  else if shared = min x.length y.length then ([], 1)
  else
    let (a, b) := request.names
    let place := Octets.ofNat (shared + 1)
    let line := Octets.ofNat ((x.take shared).count '\n' + 1)
    let unit := if request.chars then " differ: byte " else " differ: char "
    let detail := match x[shared]?, y[shared]? with
      | some c, some d =>
        if request.chars then
          " is ".toList ++ octal c ++ ' ' :: shownChar c ++ ' ' :: octal d ++ ' ' :: shownChar d
        else []
      | _, _ => []
    (a ++ ' ' :: b ++ unit.toList ++ place ++ ", line ".toList ++ line ++ detail ++ ['\n'], 1)

end Bytewise

/-- Tell by the status whether two files are the same, and by a line where they differ first. -/
def sameBytes : Tool := fun call =>
  call.withOptions
    { flags := "sblv", valued := "ni"
      long := [("silent", 's'), ("quiet", 's'), ("print-bytes", 'b'), ("verbose", 'l'), ("bytes", 'n'),
        ("ignore-initial", 'i')] } 2
    fun options =>
      let skips? : Option (Nat × Nat) := match options.value? 'i', options.operands.drop 2 with
        | none, [] => some (0, 0)
        | none, [a] => do return (← quantity? a, 0)
        | none, a :: b :: _ => do return (← quantity? a, ← quantity? b)
        | some word, _ =>
          match Text.cut? ':' word with
          | some (a, b) => do return (← quantity? a, ← quantity? b)
          | none => (quantity? word).map fun n => (n, n)
      let most? : Option (Option Nat) := match options.value? 'n' with
        | none => some none
        | some word => (quantity? word).map some
      let operands := match options.operands with
        | [file] => [file, ['-']]
        | operands => operands.take 2
      match operands, skips?, most? with
      | [], _, _ => call.refuse 2 "missing operand after \x27cmp\x27"
      | _, none, _ => call.refuse 2 "invalid --ignore-initial value"
      | _, _, none => call.refuse 2 "invalid --bytes value"
      | operands, some (skip, skip'), some most? =>
        let cut (skip : Nat) (text : Octets) : Octets :=
          (most?.map fun n => (text.drop skip).take n).getD (text.drop skip)
        match call.contents operands with
        | [(a, .ok x), (b, .ok y)] =>
          let (text, status) := Bytewise.compare
            { names := (a, b), texts := (cut skip x, cut skip' y), silent := options.has 's'
              all := options.has 'l', chars := options.has 'b' }
          { { call.start with taken := call.inputTaken operands }.say text with status }
        | [(a, .error fault), _] => call.start.complainWith 2 (mistake call.name a fault)
        | [_, (b, .error fault)] => call.start.complainWith 2 (mistake call.name b fault)
        | _ => call.refuse 2 "missing operand"

/-! ## Lines -/

namespace Linewise

open Difference

/-- How changes are shown. -/
inductive Style where
  | normal
  /-- Both versions of a part together, with so many lines around it. -/
  | unified (around : Nat)
  /-- The versions of a part one after the other, with so many lines around it. -/
  | context (around : Nat)
  /-- Commands of an editor. -/
  | editing
  /-- Counts of lines. -/
  | counts
  /-- Both files side by side, in a width; perhaps without what is the same. -/
  | columns (width : Nat) (onlyChanges : Bool)

/-- Which blanks do not count. -/
inductive Blanks where
  | counted
  | trailing
  | amount
  | all
deriving DecidableEq

/-- How files are compared. -/
structure Manner where
  style : Style := .normal
  anyCase : Bool := false
  blanks : Blanks := .counted
  /-- Whether changes of empty lines do not count. -/
  skipsEmpty : Bool := false
  /-- Changes of lines that fit do not count. -/
  skipped : List Regex := []
  /-- Whether all files are taken for text. -/
  asText : Bool := false
  brief : Bool := false
  /-- Whether it is told that files are the same. -/
  tellsSame : Bool := false
  recursive : Bool := false
  /-- Whether files that are missing count as empty. -/
  missingIsEmpty : Bool := false
  expandsTabs : Bool := false
  /-- Whether a tab stands before lines. -/
  tabbed : Bool := false
  labels : List Octets := []
  /-- Names that are left out of directories. -/
  excluded : List (List Pattern.Part) := []
  /-- The options as they were given. -/
  given : List Octets := []

/-- What decides whether lines are the same. -/
def Manner.key (manner : Manner) (line : Octets) : Octets :=
  let line := if manner.anyCase then line.map Char.toLower else line
  match manner.blanks with
  | .counted => line
  | .trailing => Text.dropEndWhile Octets.isSpace line
  | .all => line.filter (!Octets.isSpace ·)
  | .amount =>
    let line := Text.dropEndWhile Octets.isSpace line
    (line.splitBy fun a b => Octets.isSpace a == Octets.isSpace b).flatMap fun part =>
      if part.head?.any Octets.isSpace then [' '] else part

/-- Two files. -/
structure Pair where
  names : Octets × Octets
  left : List Octets
  right : List Octets

/-- The lines of a change that are taken away and those that are put there. -/
def Pair.lines (pair : Pair) (change : Change) : List Octets × List Octets :=
  ((pair.left.drop change.left).take change.deleted, (pair.right.drop change.right).take change.inserted)

/-- Whether a change counts. -/
def Manner.counts (manner : Manner) (pair : Pair) (change : Change) : Bool :=
  let (deleted, inserted) := pair.lines change
  let isEmpty (line : Octets) : Bool :=
    line == ['\n'] || (manner.blanks != .counted && line.all Octets.isSpace)
  !((deleted ++ inserted).all fun line =>
    (manner.skipsEmpty && isEmpty line) ||
      manner.skipped.any fun regex => regex.occurs (Text.dropEndWhile (· == '\n') line))

/-- A line after its mark; a last line without an end is told. -/
def marked (mark : String) (line : Octets) : Octets :=
  if line.getLast? == some '\n' then mark.toList ++ line
  else mark.toList ++ line ++ "\n\\ No newline at end of file\n".toList

/-- A range of lines: those after so many, so many of them. -/
def range (before count : Nat) : Octets :=
  if count ≤ 1 then Octets.ofNat (before + count)
  else Octets.ofNat (before + 1) ++ ',' :: Octets.ofNat (before + count)

/-- A change in the normal style; a tab may stand after the marks. -/
def normalText (tabbed : Bool) (pair : Pair) (change : Change) : Octets :=
  let (deleted, inserted) := pair.lines change
  let after (mark : String) : String := mark ++ (if tabbed then "\t" else " ")
  let letter := if change.deleted = 0 then 'a' else if change.inserted = 0 then 'd' else 'c'
  range change.left change.deleted ++ letter :: range change.right change.inserted ++ '\n' ::
    deleted.flatMap (marked (after "<")) ++
    (if letter == 'c' then "---\n".toList else []) ++ inserted.flatMap (marked (after ">"))

/-! ### Parts with lines around them -/

/-- Changes that are shown together: those with few lines between them. -/
def parts (around : Nat) : List Change → List (List Change)
  | [] => []
  | change :: rest =>
    match parts around rest with
    | (next :: more) :: others =>
      if next.left - (change.left + change.deleted) ≤ 2 * around then
        (change :: next :: more) :: others
      else [change] :: (next :: more) :: others
    | others => [change] :: others

/-- Where a part begins and ends, in both files. -/
structure Extent where
  left : Nat
  leftEnd : Nat
  right : Nat
  rightEnd : Nat

/-- The extent of a part with lines around it. -/
def Extent.of (pair : Pair) (around : Nat) (part : List Change) : Extent :=
  let first := part.headD ⟨0, 0, 0, 0⟩
  let last := part.getLastD ⟨0, 0, 0, 0⟩
  { left := first.left - around
    leftEnd := min pair.left.length (last.left + last.deleted + around)
    right := first.right - around
    rightEnd := min pair.right.length (last.right + last.inserted + around) }

/-- A range in the unified style. -/
def unifiedRange (start stop : Nat) : Octets :=
  if stop = start then Octets.ofNat start ++ ",0".toList
  else if stop = start + 1 then Octets.ofNat stop
  else Octets.ofNat (start + 1) ++ ',' :: Octets.ofNat (stop - start)

/-- Lines from one place to another. -/
def between (lines : List Octets) (start stop : Nat) : List Octets := (lines.drop start).take (stop - start)

/-- A part in the unified style. -/
def unifiedText (pair : Pair) (around : Nat) (part : List Change) : Octets :=
  let extent := Extent.of pair around part
  let (body, place) := part.foldl (fun ((body, place) : Octets × Nat) change =>
    let (deleted, inserted) := pair.lines change
    (body ++ (between pair.left place change.left).flatMap (marked " ") ++
      deleted.flatMap (marked "-") ++ inserted.flatMap (marked "+"), change.left + change.deleted))
    ([], extent.left)
  "@@ -".toList ++ unifiedRange extent.left extent.leftEnd ++ " +".toList ++
    unifiedRange extent.right extent.rightEnd ++ " @@\n".toList ++ body ++
    (between pair.left place extent.leftEnd).flatMap (marked " ")

/-- One version of a part: its lines, each with its mark. -/
def versionText (lines : List Octets) (start stop : Nat) (changes : List (Nat × Nat × String)) : Octets :=
  let (body, place) := changes.foldl (fun ((body, place) : Octets × Nat) (at', count, mark) =>
    (body ++ (between lines place at').flatMap (marked "  ") ++
      (between lines at' (at' + count)).flatMap (marked mark), at' + count)) ([], start)
  body ++ (between lines place stop).flatMap (marked "  ")

/-- A part in the context style. -/
def contextText (pair : Pair) (around : Nat) (part : List Change) : Octets :=
  let extent := Extent.of pair around part
  let mark (own : String) (change : Change) : String :=
    if change.deleted > 0 && change.inserted > 0 then "! " else own
  let range (start stop : Nat) : Octets :=
    if stop ≤ start + 1 then Octets.ofNat stop
    else Octets.ofNat (start + 1) ++ ',' :: Octets.ofNat stop
  let left := if part.any (·.deleted > 0) then
      versionText pair.left extent.left extent.leftEnd
        (part.map fun change => (change.left, change.deleted, mark "- " change))
    else []
  let right := if part.any (·.inserted > 0) then
      versionText pair.right extent.right extent.rightEnd
        (part.map fun change => (change.right, change.inserted, mark "+ " change))
    else []
  "***************\n*** ".toList ++ range extent.left extent.leftEnd ++ " ****\n".toList ++ left ++
    "--- ".toList ++ range extent.right extent.rightEnd ++ " ----\n".toList ++ right

/-! ### Other styles -/

/-- A change as commands of an editor. -/
def editingText (pair : Pair) (change : Change) : Octets :=
  let (_, inserted) := pair.lines change
  let letter := if change.deleted = 0 then 'a' else if change.inserted = 0 then 'd' else 'c'
  range change.left change.deleted ++ letter :: '\n' ::
    (if letter == 'd' then []
      else inserted.flatMap (fun line => Text.dropEndWhile (· == '\n') line ++ ['\n']) ++ ".\n".toList)

/-- A change as counts of lines. -/
def countsText (pair : Pair) (change : Change) : Octets :=
  let (_, inserted) := pair.lines change
  let command (letter : Char) (place count : Nat) : Octets :=
    letter :: Octets.ofNat place ++ ' ' :: Octets.ofNat count ++ ['\n']
  (if change.deleted = 0 then [] else command 'd' (change.left + 1) change.deleted) ++
    (if change.inserted = 0 then []
      else command 'a' (change.left + change.deleted) change.inserted ++ inserted.flatten)

/-- Blanks, and tabs where they can stand, from one column to another. -/
def gap (tabs : Bool) : Nat → Nat → Nat → Octets
  | 0, _, _ => []
  | fuel + 1, start, stop =>
    let tab := start / 8 * 8 + 8
    if tabs && tab ≤ stop then '\t' :: gap tabs fuel tab stop
    else List.replicate (stop - start) ' '

/-- Where the columns of the style of columns are: the width of each, and where the second begins. -/
def columnPlaces (width : Nat) (tabs : Bool) : Nat × Nat :=
  let tab := if tabs then 8 else 1
  let gutter := tab + 3
  let middle := width / 2 + gutter / 2 + (if width % 2 = 1 && gutter % 2 = 1 then 1 else 0)
  let offset := middle - middle % tab
  let half := min (offset - 3) (width - offset)
  (half, if half = 0 then width else offset)

/-- A row of the style of columns: a line of each file, and a mark between them. -/
def row (width : Nat) (tabs : Bool) (left : Option Octets) (mark : Char) (right : Option Octets) :
    Octets :=
  let (half, offset) := columnPlaces width tabs
  let body (line : Octets) : Octets :=
    let line := Text.dropEndWhile (· == '\n') line
    let line := if tabs then line else expandLine {} false 0 true line
    line.take half
  let isEnded (line : Option Octets) : Bool := line.any fun line => line.getLast? == some '\n'
  let text := (left.map body).getD []
  let column := (expandLine {} false 0 true text).length
  let sign := if mark == '|' && isEnded left != isEnded right then
      if isEnded left then '/' else '\\'
    else mark
  let middle := (half + offset - 1) / 2
  let (marking, column) := if mark == ' ' then ([], column)
    else (gap tabs (width + 1) column middle ++ [sign], middle + 1)
  let second := match right.map body with
    | none => []
    | some [] => []
    | some line => gap tabs (width + 1) column offset ++ line
  text ++ marking ++ second ++ (if isEnded left || isEnded right then ['\n'] else [])

/-- All rows of the style of columns. -/
def columnsText (pair : Pair) (width : Nat) (onlyChanges tabs : Bool) (changes : List Change) : Octets :=
  let common (start stop : Nat) (place : Nat) : Octets :=
    if onlyChanges then []
    else
      ((between pair.left start stop).zip (pair.right.drop place)).flatMap fun (a, b) =>
        row width tabs (some a) ' ' (some b)
  let (body, left, right) := changes.foldl (fun ((body, left, right) : Octets × Nat × Nat) change =>
    let (deleted, inserted) := pair.lines change
    let shared := min deleted.length inserted.length
    let rows := ((deleted.zip inserted).flatMap fun (a, b) => row width tabs (some a) '|' (some b)) ++
      ((deleted.drop shared).flatMap fun a => row width tabs (some a) '<' none) ++
      ((inserted.drop shared).flatMap fun b => row width tabs none '>' (some b))
    (body ++ common left change.left right ++ rows, change.left + change.deleted,
      change.right + change.inserted)) ([], 0, 0)
  body ++ common left pair.left.length right

/-! ### Files -/

/-- The first lines of the styles that name the files. -/
def title (marks : String × String) (manner : Manner) (pair : Pair) : Octets :=
  let stamp := "\t1970-01-01 00:00:00.000000000 +0000".toList
  let line (mark : String) (label? : Option Octets) (name : Octets) : Octets :=
    mark.toList ++ ' ' :: label?.getD (name ++ stamp) ++ ['\n']
  line marks.1 manner.labels[0]? pair.names.1 ++ line marks.2 manner.labels[1]? pair.names.2

/-- How many equal lines next to changes take part in finding them. -/
def Style.around : Style → Nat
  | .unified n => n
  | .context n => n
  | _ => 0

/-- The changes of two files, shown; and whether there are any that count. -/
def changesText (manner : Manner) (pair : Pair) : Octets × Bool :=
  let changes := changes manner.style.around manner.key pair.left pair.right
  let counting := changes.filter (manner.counts pair)
  let inParts (around : Nat) (marks : String × String) (text : List Change → Octets) : Octets :=
    let shown := (parts around changes).filter (·.any (manner.counts pair))
    if shown.isEmpty then [] else title marks manner pair ++ shown.flatMap text
  let text := match manner.style with
    | .normal => counting.flatMap (normalText manner.tabbed pair)
    | .unified n => inParts n ("---", "+++") (unifiedText pair n)
    | .context n => inParts n ("***", "---") (contextText pair n)
    | .editing => counting.reverse.flatMap (editingText pair)
    | .counts => counting.flatMap (countsText pair)
    | .columns width onlyChanges => columnsText pair width onlyChanges (!manner.expandsTabs) counting
  (text, !counting.isEmpty)

/-- Compare the texts of two files.  Gives what is told, and the status.  The commands of an editor cannot
tell whether a last line has an end. -/
def compareTexts (manner : Manner) (names : Octets × Octets) (left right : Octets) : Octets × Nat :=
  let told (before middle after : String) : Octets :=
    before.toList ++ names.1 ++ middle.toList ++ names.2 ++ after.toList
  let same := if manner.tellsSame then told "Files " " and " " are identical\n" else []
  let ended (text : Octets) : Octets := match manner.style with
    | .editing => if text.isEmpty || text.getLast? == some '\n' then text else text ++ ['\n']
    | _ => text
  let lines (text : Octets) : List Octets := markedLines '\n' (text.length + 2) (ended text)
  let isPlain := !manner.anyCase && manner.blanks = .counted && !manner.skipsEmpty &&
    manner.skipped.isEmpty
  let isBinary := !manner.asText && (left.contains '\x00' || right.contains '\x00')
  if left == right then
    match manner.style with
    | .columns _ _ => ((changesText manner ⟨names, lines left, lines right⟩).1 ++ same, 0)
    | _ => (same, 0)
  else if manner.brief && isPlain then (told "Files " " and " " differ\n", 1)
  else if isBinary then (told "Binary files " " and " " differ\n", 1)
  else
    let (text, differ) := changesText manner ⟨names, lines left, lines right⟩
    if !differ then (text ++ same, 0)
    else if manner.brief then (told "Files " " and " " differ\n", 1)
    else (text, 1)

/-- The text of a file that is compared; a missing one may count as empty. -/
def content (call : Call) (manner : Manner) (name : Octets) : Except FileFault Octets :=
  if name == ['-'] then .ok call.input
  else
    match call.read call.files name with
    | .error .notFound => if manner.missingIsEmpty then .ok [] else .error .notFound
    | content => content

/-- Compare two files.  Those in directories have a line that names them before their changes. -/
def compareFiles (call : Call) (manner : Manner) (named : Bool) (effect : Effect) (a b : Octets) :
    Effect :=
  match content call manner a, content call manner b with
  | .ok left, .ok right =>
    let (text, status) := compareTexts manner (a, b) left right
    let isShown := status != 0 && !manner.brief && !("Binary files ".toList.isPrefixOf text)
    let line := if named && isShown then
        Octets.spaced ("diff".toList :: manner.given ++ [a, b]) ++ ['\n']
      else []
    { effect.say (line ++ text) with status := max effect.status status }
  | .error fault, .error _ =>
    effect.complainWith 2 (mistake call.name a fault ++ "\n" ++ mistake call.name b fault)
  | .error fault, _ => effect.complainWith 2 (mistake call.name a fault)
  | _, .error fault => effect.complainWith 2 (mistake call.name b fault)

/-- The names in a directory, in order. -/
def namesIn (call : Call) (manner : Manner) (directory : Octets) : List Octets :=
  match call.files.locate? (call.path directory) with
  | none => []
  | some location =>
    let names := (call.files.children location).map fun (name, _) => octets name
    Octets.sorted (names.filter fun name => !manner.excluded.any (Pattern.fits · name))

/-- Join a directory and a name. -/
def inside (directory name : Octets) : Octets :=
  if directory.getLast? == some '/' then directory ++ name else directory ++ '/' :: name

/-- Compare two directories, at most so deep. -/
def compareDirectories (call : Call) (manner : Manner) : Nat → Effect → Octets → Octets → Effect
  | 0, effect, _, _ => effect
  | fuel + 1, effect, a, b =>
    let left := namesIn call manner a
    let right := namesIn call manner b
    let names := Octets.sorted (left ++ right.filter (!left.contains ·))
    names.foldl (fun effect name =>
      let x := inside a name
      let y := inside b name
      let tell (text : Octets) : Effect :=
        { effect.say (text ++ ['\n']) with status := max effect.status 1 }
      let only (directory : Octets) : Effect :=
        tell ("Only in ".toList ++ directory ++ ": ".toList ++ name)
      let kind (name : Octets) : Octets :=
        if call.isDirectory call.files name then "a directory".toList else "a regular file".toList
      match left.contains name, right.contains name with
      | true, false =>
        if !manner.missingIsEmpty then only a
        else if call.isDirectory call.files x then compareDirectories call manner fuel effect x y
        else compareFiles call manner true effect x y
      | false, _ =>
        if !manner.missingIsEmpty then only b
        else if call.isDirectory call.files y then compareDirectories call manner fuel effect x y
        else compareFiles call manner true effect x y
      | true, true =>
        match call.isDirectory call.files x, call.isDirectory call.files y with
        | true, true =>
          if manner.recursive then compareDirectories call manner fuel effect x y
          else
            effect.say ("Common subdirectories: ".toList ++ x ++ " and ".toList ++ y ++ ['\n'])
        | false, false => compareFiles call manner true effect x y
        | _, _ =>
          tell ("File ".toList ++ x ++ " is ".toList ++ kind x ++ " while file ".toList ++ y ++
            " is ".toList ++ kind y)) effect

/-! ### Options -/

/-- The options that are known. -/
def spec : OptionSpec :=
  { flags := "abBcdeEiHlnNpPqrstTuwyZFS1"
    valued := "CILUWxX", optional := "234"
    long := [("normal", '1'), ("brief", 'q'), ("report-identical-files", 's'), ("context", '3'),
      ("unified", '2'), ("ed", 'e'), ("rcs", 'n'), ("side-by-side", 'y'), ("width", 'W'),
      ("suppress-common-lines", 'S'), ("expand-tabs", 't'), ("recursive", 'r'), ("new-file", 'N'),
      ("exclude", 'x'), ("ignore-case", 'i'), ("ignore-trailing-space", 'Z'),
      ("ignore-tab-expansion", 'E'), ("ignore-space-change", 'b'), ("ignore-all-space", 'w'),
      ("ignore-blank-lines", 'B'), ("ignore-matching-lines", 'I'), ("text", 'a'), ("label", 'L'),
      ("minimal", 'd'), ("speed-large-files", 'H'), ("color", '4'), ("show-c-function", 'p')] }

/-- The style that options ask for. -/
def styleOf (options : Options) : Style :=
  let number (value : Octets) : Nat := (natural? value).getD 3
  let width := ((options.value? 'W').bind natural?).getD 130
  options.given.foldl (fun style (letter, value) =>
    match letter with
    | '1' => .normal
    | 'u' => .unified 3
    | 'U' => .unified (number value)
    | '2' => .unified (number value)
    | 'c' => .context 3
    | 'C' => .context (number value)
    | '3' => .context (number value)
    | 'e' => .editing
    | 'n' => .counts
    | 'y' => .columns width (options.has 'S')
    | _ => style) .normal

/-- The manner that options ask for; none for an expression that cannot be read. -/
def mannerOf? (args : List Octets) (options : Options) : Option Manner := do
  let values (wanted : Char) : List Octets :=
    options.given.filterMap fun (letter, value) => if letter == wanted then some value else none
  let skipped ← (values 'I').mapM (Regex.ofText? { extended := false } ·)
  return {
    style := styleOf options
    anyCase := options.has 'i'
    blanks := if options.has 'w' then .all else if options.has 'b' then .amount
      else if options.has 'Z' then .trailing else .counted
    skipsEmpty := options.has 'B', skipped
    asText := options.has 'a', brief := options.has 'q', tellsSame := options.has 's'
    recursive := options.has 'r', missingIsEmpty := options.has 'N', expandsTabs := options.has 't'
    tabbed := options.has 'T'
    labels := values 'L'
    excluded := (values 'x').map fun word => Pattern.parts (word.map fun c => (c, false))
    given := args.filter fun arg => arg.head? == some '-' && arg.length > 1 }

end Linewise

open Linewise in
/-- Show how the lines of two files differ, or those of the files in two directories. -/
def differences : Tool := fun call =>
  call.withOptions spec 2 fun options =>
    match mannerOf? call.args options, options.operands with
    | none, _ => call.refuse 2 "invalid regular expression"
    | some manner, [a, b] =>
      let start := { call.start with taken := call.inputTaken [a, b] }
      let isDirectory (name : Octets) : Bool := name != ['-'] && call.isDirectory call.files name
      match isDirectory a, isDirectory b with
      | true, true =>
        if call.files.locate? (call.path a) == call.files.locate? (call.path b) then start
        else compareDirectories call manner 100 start a b
      | true, false => compareFiles call manner false start (inside a (lastPart b)) b
      | false, true => compareFiles call manner false start a (inside b (lastPart a))
      | false, false => compareFiles call manner false start a b
    | some _, [] => call.refuse 2 "missing operand after \x27diff\x27"
    | some _, [a] => call.refuse 2 ("missing operand after " ++ inQuotes a)
    | some _, _ :: _ :: extra :: _ => call.refuse 2 ("extra operand " ++ inQuotes extra)
where
  /-- The last part of a path. -/
  lastPart (path : Octets) : Octets := ((Text.cutLast? '/' path).map (·.2)).getD path

end SiteScript.Rehearsal.Shell
