import SiteScript.Decimal
import SiteScript.Script.Block
import SiteScript.Word

/-!
# SiteScript.Script.Parser

From lines to directives.  Reading is line oriented: `next?` skips blanks, comments and lines that are
no directive, and a directive takes the lines of its block with it.  A malformed directive is a
`Fault`, and reading goes on after it.

* `next?` gives a result together with the lines left, which are always fewer
  (`length_next?_lt`) — that is what makes `results` total;
* the line number of a result is the number of lines taken so far, so it can be computed from the
  lines left and never has to be carried along.
-/

namespace SiteScript.Script

open Text

/-! ## Faults -/

/-- Why a directive is malformed. -/
inductive Fault where
  | variableShape
  | variableNameEmpty
  | callNameEmpty
  | functionNameMissing
  | scheduleShape
  | badInterval (text : String)
  | zeroInterval
  | scheduledNameMissing
  | loadBlockMissing
  | loadUnterminated
  | blockUnterminated
deriving DecidableEq

/-- The wording of a fault. -/
def Fault.message : Fault → String
  | .variableShape => "expected `VB: KEY: \"value\"`"
  | .variableNameEmpty => "variable name is empty"
  | .callNameEmpty => "empty function name in call"
  | .functionNameMissing => "`:start:` needs a function name"
  | .scheduleShape => "expected `schedule: SECONDS \"NAME\"`"
  | .badInterval text => "invalid interval `" ++ text ++ "`"
  | .zeroInterval => "schedule interval must be at least one second"
  | .scheduledNameMissing => "schedule needs a function name"
  | .loadBlockMissing => "'load:' must be followed by a block \x7b ... \x7d"
  | .loadUnterminated => "unterminated `load:` block"
  | .blockUnterminated => "block reached end of file before `\x7d`"

/-- The largest interval, in seconds. -/
def maxInterval : Nat := Word.maxUnsigned 64

/-! ## Directives on one line -/

/-- `:start:` opens a body, or calls a function when its name is quoted. -/
def startDirective (rest : List Char) : Except Fault Directive :=
  match rest with
  | '"' :: quoted =>
    match takeUntil (· == '"') quoted with
    | [] => .error .callNameEmpty
    | name => .ok (.act (.call (String.ofList name)))
  | _ =>
    match firstWord? rest with
    | none => .error .functionNameMissing
    | some name => .ok (.beginFunction (String.ofList name))

/-- `VB:` assigns a variable. -/
def assignDirective (rest : List Char) : Except Fault Directive :=
  match cut? ':' (trim rest) with
  | none => .error .variableShape
  | some (key, value) =>
    match trim key with
    | [] => .error .variableNameEmpty
    | key => .ok (.assign (String.ofList key) (String.ofList (dropOuterQuotes (trim value))))

/-- `schedule:` names an interval and a function. -/
def scheduleDirective (rest : List Char) : Except Fault Directive :=
  match cutWhere? isBlank (trim rest) with
  | none => .error .scheduleShape
  | some (seconds, function) =>
    match Decimal.unsigned? maxInterval seconds with
    | none => .error (.badInterval (String.ofList seconds))
    | some 0 => .error .zeroInterval
    | some seconds =>
      match without '"' (trim function) with
      | [] => .error .scheduledNameMissing
      | function => .ok (.act (.schedule seconds (String.ofList function)))

/-- A path argument: trimmed, all quotes taken out. -/
def pathArgument (rest : List Char) : String :=
  String.ofList (without '"' (trim rest))

/-- A text argument: trimmed, the outer quotes taken off. -/
def textArgument (rest : List Char) : String :=
  String.ofList (dropOuterQuotes (trim rest))

/-! ## Directives with a block -/

/-- The module named on a trimmed line of a `load:` block. -/
def moduleName? (line : List Char) : Option String :=
  match trim (dropEndWhile (· == ',') (without '"' line)) with
  | [] => none
  | name => if startsWithChar '#' name then none else some (String.ofList name)

/-- Read module names up to the line that begins with a closing brace. -/
def readModules (modules : List String) :
    List (List Char) → Except Fault Directive × List (List Char)
  | [] => (.error .loadUnterminated, [])
  | line :: rest =>
    let line := trim line
    if startsWithChar '}' line then (.ok (.load modules), rest)
    else readModules (modules ++ (moduleName? line).toList) rest

/-- `load:` with its brace on the same line or alone on the next one. -/
def readLoad (header : List Char) (rest : List (List Char)) :
    Except Fault Directive × List (List Char) :=
  if trim header = ['{'] then readModules [] rest
  else
    match rest with
    | [] => (.error .loadBlockMissing, rest)
    | line :: after =>
      if trim line = ['{'] then readModules [] after else (.error .loadBlockMissing, rest)

/-- `run:` looks at the next line for `"wait"`, and takes that line when it is there. -/
def readRun (command : String) (rest : List (List Char)) : Directive × List (List Char) :=
  match rest with
  | [] => (.act (.run command false), rest)
  | line :: after =>
    if contains "\"wait\"".toList line then
      (.act (.run command (contains "\"true\"".toList line)), after)
    else (.act (.run command false), rest)

/-- A directive made from its block. -/
def withBlock (header : List Char) (rest : List (List Char)) (make : Block → Action) :
    Except Fault Directive × List (List Char) :=
  match readBlock header rest with
  | (some block, rest) => (.ok (.act (make block)), rest)
  | (none, rest) => (.error .blockUnterminated, rest)

/-! ## One directive -/

/-- The directives that are known by the start of their line, in the order they are tried. -/
inductive Keyword where
  | start | finish | variable | load | copyFile | moveFile | editFile | log | run
  | deleteFile | deleteFolder | addFolder | addFile | schedule | connect | query | api | web
deriving DecidableEq

/-- How a keyword is written. -/
def Keyword.text : Keyword → String
  | .start => ":start:"
  | .finish => ":end:"
  | .variable => "VB:"
  | .load => "load:"
  | .copyFile => "copyFile"
  | .moveFile => "moveFile"
  | .editFile => "editFile"
  | .log => "console.log:"
  | .run => "run:"
  | .deleteFile => "deleteFile:"
  | .deleteFolder => "deleteFolder:"
  | .addFolder => "addFolder:"
  | .addFile => "addFile:"
  | .schedule => "schedule:"
  | .connect => "mysql:"
  | .query => "query:"
  | .api => "webAPI:"
  | .web => "startWEB:"

/-- All keywords. No two of them can begin the same line. -/
def Keyword.all : List Keyword :=
  [.start, .finish, .variable, .load, .copyFile, .moveFile, .editFile, .log, .run, .deleteFile,
    .deleteFolder, .addFolder, .addFile, .schedule, .connect, .query, .api, .web]

/-- The keyword a line begins with, and what follows it. -/
def keyword? (line : List Char) : Option (Keyword × List Char) :=
  Keyword.all.findSome? fun keyword =>
    (dropPrefix? keyword.text.toList line).map fun rest => (keyword, rest)

/-- Read the directive of a keyword: `line` is the whole trimmed line, `argument` what follows the
keyword on it, and `rest` the lines below. -/
def readKeyword (keyword : Keyword) (line argument : List Char) (rest : List (List Char)) :
    Except Fault Directive × List (List Char) :=
  match keyword with
  | .start => (startDirective (trim argument), rest)
  | .finish => (.ok .endFunction, rest)
  | .variable => (assignDirective argument, rest)
  | .load => readLoad argument rest
  | .copyFile => withBlock line rest fun b => .copyFile (b.getD "from" "") (b.getD "to" "")
  | .moveFile => withBlock line rest fun b => .moveFile (b.getD "from" "") (b.getD "to" "")
  | .editFile => withBlock line rest fun b => .editFile (b.getD "file" "") (b.getD "content" "")
  | .log => (.ok (.act (.log (textArgument argument))), rest)
  | .run =>
    let (directive, rest) := readRun (textArgument argument) rest
    (.ok directive, rest)
  | .deleteFile => (.ok (.act (.deleteFile (pathArgument argument))), rest)
  | .deleteFolder => (.ok (.act (.deleteFolder (pathArgument argument))), rest)
  | .addFolder => (.ok (.act (.addFolder (pathArgument argument))), rest)
  | .addFile => (.ok (.act (.addFile (pathArgument argument))), rest)
  | .schedule => (scheduleDirective argument, rest)
  | .connect => withBlock line rest (.connect (blockTitle line))
  | .query => withBlock line rest (.query (blockTitle line))
  | .api => withBlock line rest (.declareApi (blockTitle line))
  | .web => withBlock line rest (.startWeb (blockTitle line))

/-- The next directive, well formed or not, and the lines after it. -/
def next? : List (List Char) → Option (Except Fault Directive × List (List Char))
  | [] => none
  | line :: rest =>
    let line := trim line
    if line.isEmpty || startsWithChar '#' line then next? rest
    else
      match keyword? line with
      | some (keyword, argument) => some (readKeyword keyword line argument rest)
      | none => next? rest

/-! ## Progress -/

theorem length_readModules_le (modules : List String) (rest : List (List Char)) :
    (readModules modules rest).2.length ≤ rest.length := by
  induction rest generalizing modules with
  | nil => simp [readModules]
  | cons line rest ih =>
    rw [readModules]
    split
    · simp
    · exact Nat.le_succ_of_le (ih _)

theorem length_readLoad_le (header : List Char) (rest : List (List Char)) :
    (readLoad header rest).2.length ≤ rest.length := by
  unfold readLoad
  split
  · exact length_readModules_le _ _
  · split
    · simp
    · split
      · exact Nat.le_succ_of_le (length_readModules_le _ _)
      · simp

theorem length_readRun_le (command : String) (rest : List (List Char)) :
    (readRun command rest).2.length ≤ rest.length := by
  unfold readRun
  split
  · simp
  · split <;> simp

theorem length_withBlock_le (header : List Char) (rest : List (List Char)) (make : Block → Action) :
    (withBlock header rest make).2.length ≤ rest.length := by
  have h := length_readBlock_le header rest
  rw [withBlock]
  split <;> simp_all

theorem length_readKeyword_le (keyword : Keyword) (line argument : List Char)
    (rest : List (List Char)) :
    (readKeyword keyword line argument rest).2.length ≤ rest.length := by
  cases keyword <;>
    simp only [readKeyword, length_withBlock_le, length_readLoad_le, length_readRun_le,
      Nat.le_refl]

/-- Reading a directive takes at least one line. -/
theorem length_next?_lt {lines rest : List (List Char)} {result : Except Fault Directive}
    (h : next? lines = some (result, rest)) : rest.length < lines.length := by
  induction lines with
  | nil => simp [next?] at h
  | cons line below ih =>
    rw [next?] at h
    split at h
    · exact Nat.lt_succ_of_lt (ih h)
    · split at h
      next keyword argument _ =>
        have hle := length_readKeyword_le keyword (trim line) argument below
        rw [Option.some.inj h] at hle
        exact Nat.lt_succ_of_le hle
      next => exact Nat.lt_succ_of_lt (ih h)

/-! ## Whole scripts -/

/-- The results of reading all lines, each with the number of lines left after it. -/
def results (lines : List (List Char)) : List (Except Fault Directive × Nat) :=
  match _h : next? lines with
  | none => []
  | some (result, rest) => (result, rest.length) :: results rest
termination_by lines.length
decreasing_by exact length_next?_lt _h

/-- A malformed directive and where it is: the line most recently taken, counted from one. -/
structure ParseError where
  file : String
  line : Nat
  fault : Fault
deriving DecidableEq

/-- What a script says, in source order; a malformed directive is reported and reading goes on. -/
def parse (file text : String) : List (Except ParseError Directive) :=
  let lines := Text.lines text
  (results lines).map fun (result, left) =>
    match result with
    | .ok directive => .ok directive
    | .error fault => .error ⟨file, lines.length - left, fault⟩

end SiteScript.Script
