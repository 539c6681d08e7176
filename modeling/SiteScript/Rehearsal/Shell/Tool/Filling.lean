import SiteScript.Rehearsal.Shell.Tool.Ends

/-!
# SiteScript.Rehearsal.Shell.Tool.Filling

Paragraphs whose lines are filled with words.  Of all ways to break a paragraph into lines, the one with the
lowest cost is taken: lines should come close to a length, neighbours should be of about the same length,
and some places to break are better than others (`startCost`, `lineCost`).
-/

namespace SiteScript.Rehearsal.Shell

/-- A word of a paragraph, with the blanks after it. -/
structure FillWord where
  text : Octets
  /-- How many blanks follow it in a line. -/
  space : Nat := 1
  /-- Whether it begins with a bracket or a quote. -/
  opens : Bool := false
  /-- Whether it ends with a mark. -/
  marked : Bool := false
  /-- Whether it ends as a sentence does. -/
  period : Bool := false
  /-- Whether it ends a sentence. -/
  final : Bool := false

namespace FillWord

/-- The length of a word. -/
def length (word : FillWord) : Int := word.text.length

/-- Whether a character is a mark. -/
def isMark (c : Char) : Bool := '!' ≤ c && c ≤ '~' && !c.isAlphanum

/-- A word with what can be seen of it alone. -/
def ofText (text : Octets) : FillWord :=
  let body := match text with
    | [] => []
    | c :: rest => c :: Text.dropEndWhile (fun c => [')', ']', '\x27', '"'].contains c) rest
  { text
    opens := text.head?.any fun c => ['(', '[', '\x27', '\x60', '"'].contains c
    marked := text.getLast?.any isMark
    period := body.getLast?.any fun c => ['.', '?', '!'].contains c }

end FillWord

/-- How lines are filled. -/
structure Filling where
  width : Nat := 75
  goal : Nat := 69
  uniform : Bool := false
  /-- Whether lines are only split. -/
  splitOnly : Bool := false

/-! ## Costs -/

/-- The square of a number. -/
def square (n : Int) : Int := n * n

/-- What it costs to begin a line with a word, by the two words before it in the paragraph. -/
def startCost (before earlier : Option FillWord) (word : FillWord) : Int :=
  let cost := square 70
  let cost := match before with
    | none => cost
    | some last =>
      if last.period then if last.final then cost - square 50 else cost + square 600
      else if last.marked then cost - square 40
      else if earlier.any (·.final) then cost + square 200 / last.length
      else cost
  if word.opens then cost - square 40
  else if word.final then cost + square 150 / word.length
  else cost

/-- The best way to go on from a word: what it costs, how many words the line has, and how long the line
is. -/
structure Break where
  cost : Int
  count : Nat
  length : Int
  /-- Whether the line is the last one. -/
  isLast : Bool

/-- What a line of some length costs, before a line that is known unless it ends the paragraph. -/
def lineCost (filling : Filling) (length : Int) (next : Option Break) : Int :=
  match next with
  | none => 0
  | some next =>
    let cost := square (((filling.goal : Int) - length) * 10)
    if next.isLast then cost else cost + square ((length - next.length) * 10) / 2

/-- The best of the breaks after at least one word.  The words after the first come with the breaks from
each of them on. -/
def bestBreak (filling : Filling) :
    Option Break → Nat → Nat → Int → List (FillWord × Break) → Option Break
  | best, count, space, length, following =>
    let next := following.head?.map (·.2)
    let cost := lineCost filling length next + ((next.map (·.cost)).getD 0)
    let found : Break := { cost, count, length, isLast := next.isNone }
    let best := match best with
      | some old => if cost < old.cost then some found else some old
      | none => some found
    match following with
    | [] => best
    | (word, _) :: rest =>
      let longer := length + space + word.length
      if longer < filling.width then bestBreak filling best (count + 1) word.space longer rest
      else best

/-- The best breaks from each word of a paragraph on.  The words before are given, the last first. -/
def breaksFrom (filling : Filling) (indent : Nat) :
    List FillWord → List FillWord → List (FillWord × Break)
  | _, [] => []
  | before, word :: rest =>
    let following := breaksFrom filling indent (word :: before) rest
    let found := bestBreak filling none 1 word.space (indent + word.length) following
    match found with
    | some best =>
      let cost := best.cost + startCost before.head? before.tail.head? word
      (word, { best with cost }) :: following
    | none => following

/-- The lines of a paragraph. -/
def filledLines (indent : Nat) : Nat → List (FillWord × Break) → List Octets
  | 0, _ => []
  | _, [] => []
  | fuel + 1, (word, best) :: rest =>
    let words := ((word, best) :: rest).take best.count
    let line := words.zipIdx.flatMap fun ((word, _), i) =>
      word.text ++ if i + 1 = words.length then [] else List.replicate word.space ' '
    (List.replicate indent ' ' ++ line) ::
      filledLines indent fuel (((word, best) :: rest).drop best.count)

/-! ## Paragraphs -/

/-- The column after some blanks. -/
def columnPast (start : Nat) (blanks : Octets) : Nat :=
  blanks.foldl (fun column c => if c == '\t' then (column / 8 + 1) * 8 else column + 1) start

/-- The words of a line, which begins at a column.  The last one of a line is followed by one blank, or by
two at the end of a sentence. -/
def fillWords (filling : Filling) : Nat → Nat → Octets → List FillWord
  | 0, _, _ => []
  | fuel + 1, column, text =>
    let isBlank (c : Char) : Bool := c == ' ' || c == '\t'
    let body := text.takeWhile (!isBlank ·)
    let rest := text.drop body.length
    let blanks := rest.takeWhile isBlank
    let rest := rest.drop blanks.length
    if body.isEmpty then []
    else
      let word := FillWord.ofText body
      let after := columnPast (column + body.length) blanks
      let space := after - (column + body.length)
      let final := word.period && (rest.isEmpty || space > 1)
      let space := if rest.isEmpty || filling.uniform then if final then 2 else 1 else space
      { word with space, final } :: fillWords filling fuel after rest

/-- A line of the input: the column at which it begins, and its words. -/
abbrev FillLine := Nat × List FillWord

/-- A line of the input. -/
def fillLine (filling : Filling) (text : Octets) : FillLine :=
  let blanks := text.takeWhile fun c => c == ' ' || c == '\t'
  let column := columnPast 0 blanks
  (column, fillWords filling (text.length + 1) column (text.drop blanks.length))

/-- The words of a paragraph: its last word ends a sentence. -/
def paragraphWords (lines : List FillLine) : List FillWord :=
  let words := lines.flatMap (·.2)
  match words.getLast? with
  | some last => words.dropLast ++ [{ last with period := true, final := true }]
  | none => []

/-- Fill the paragraphs of lines. -/
def fillAll (filling : Filling) : Nat → List FillLine → List Octets
  | 0, _ => []
  | _, [] => []
  | fuel + 1, (indent, words) :: rest =>
    if words.isEmpty then [] :: fillAll filling fuel rest
    else
      let isMore (line : FillLine) : Bool := !filling.splitOnly && line.1 == indent && !line.2.isEmpty
      let more := rest.takeWhile isMore
      let breaks := breaksFrom filling indent [] (paragraphWords ((indent, words) :: more))
      filledLines indent (breaks.length + 1) breaks ++ fillAll filling fuel (rest.drop more.length)

/-- Fill the lines of paragraphs with words. -/
def fill : Tool := fun call =>
  let call := match call.args with
    | ('-' :: digits) :: rest =>
      if (natural? digits).isSome then { call with args := ['-', 'w'] :: digits :: rest } else call
    | _ => call
  call.withOptions
    { flags := "cstu", valued := "wgp"
      long := [("width", 'w'), ("goal", 'g'), ("split-only", 's'), ("uniform-spacing", 'u'),
        ("crown-margin", 'c'), ("tagged-paragraph", 't'), ("prefix", 'p')] } 1 fun options =>
    let number? (letter : Char) : Option (Option Nat) := (options.value? letter).map natural?
    match number? 'w', number? 'g' with
    | some none, _ => call.start.complain (call.name ++ ": invalid width")
    | _, some none => call.start.complain (call.name ++ ": invalid width")
    | width?, goal? =>
      let given := width?.bind id
      let goalGiven := goal?.bind id
      let width := match given, goalGiven with
        | some width, _ => width
        | none, some goal => goal + 10
        | none, none => 75
      let goal := goalGiven.getD (width * 187 / 200)
      if width > 2500 || goal > width then call.start.complain (call.name ++ ": invalid width")
      else
        let filling : Filling :=
          { width, goal, uniform := options.has 'u', splitOnly := options.has 's' }
        let start := { call.start with taken := call.inputTaken options.operands }
        (call.contents options.operands).foldl (fun effect (operand, content) =>
          match content with
          | .error fault => effect.complain (mistake call.name operand fault)
          | .ok text =>
            let lines := (Octets.lines text).map (fillLine filling)
            effect.say (Octets.unlines (fillAll filling (lines.length + 1) lines))) start

end SiteScript.Rehearsal.Shell
