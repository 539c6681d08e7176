import SiteScript.Rehearsal.Shell.Launch
import SiteScript.Rehearsal.Shell.Regex
import SiteScript.Rehearsal.Shell.Tool.Names

/-!
# SiteScript.Rehearsal.Shell.Finding

Walking through directories with a question.  A question (`Question`) is made of tests and deeds by
`and`, `or` and `not`; it is asked at every name on the way (`ask`), and a deed in it is done when the
tests before it hold.  A question without a deed that writes has one added: the names it holds for are
written.

A directory comes before what stands in it, or after it if that is wanted (`walk`).
-/

namespace SiteScript.Rehearsal.Shell

namespace Finding

/-! ## Questions -/

/-- A comparison with a number. -/
inductive Measure where
  | exactly (n : Nat)
  | above (n : Nat)
  | below (n : Nat)

/-- Whether a number is as a comparison says. -/
def Measure.holds (found : Nat) : Measure → Bool
  | .exactly n => found = n
  | .above n => n < found
  | .below n => found < n

/-- Which of some rights a file must have. -/
inductive Rights where
  | exactly (mode : Nat)
  | all (mode : Nat)
  | any (mode : Nat)

/-- Whether a mode has the rights. -/
def Rights.holds (found : Nat) : Rights → Bool
  | .exactly mode => found = mode
  | .all mode => found &&& mode = mode
  | .any mode => mode = 0 || found &&& mode != 0

/-- The text of a file that a pattern is compared with. -/
inductive Subject where
  /-- The last part of the name. -/
  | name
  /-- The whole name. -/
  | path
  /-- What a link says. -/
  | link

/-- Something that holds for a file or not. -/
inductive Test where
  | fits (subject : Subject) (pattern : List Pattern.Part) (anyCase : Bool)
  | matched (regex : Regex)
  /-- The kind is one of some; `other` tells to look at links the other way than the walk does. -/
  | kind (letters : List Char) (other : Bool)
  | empty
  | size (measure : Measure) (unit : Nat)
  | rights (rights : Rights)
  | names (measure : Measure)
  | sameAs (file : Octets)
  | runnable
  | constant (holds : Bool)

/-- Something that is done with a file. -/
inductive Deed where
  | show (ending : Char)
  | format (text : Octets)
  | delete
  /-- Do not go into the directory. -/
  | prune
  | quit
  /-- Run a command, which gets the name in place of a mark; perhaps in the directory of the file. -/
  | run (inPlace : Bool) (command : List Octets)
  /-- Run a command once for all names. -/
  | runOnce (inPlace : Bool) (command : List Octets)

/-- What is asked at every name. -/
inductive Question where
  | test (test : Test)
  | deed (deed : Deed)
  | not (question : Question)
  | and (first second : Question)
  | or (first second : Question)
  /-- Ask both, and only the second counts. -/
  | after (first second : Question)

/-- Whether a question does something that takes the place of writing names. -/
def Question.acts : Question → Bool
  | .test _ => false
  | .deed .prune => false
  | .deed .quit => false
  | .deed _ => true
  | .not question => question.acts
  | .and first second => first.acts || second.acts
  | .or first second => first.acts || second.acts
  | .after first second => first.acts || second.acts

/-! ## Reading -/

/-- How to walk. -/
structure Manner where
  /-- Whether links are followed. -/
  followed : Bool := false
  /-- Whether the links that are named are followed. -/
  followedFirst : Bool := false
  least : Nat := 0
  most : Option Nat := none
  /-- Whether directories come after what stands in them. -/
  deep : Bool := false
  /-- Whether expressions are of the extended dialect. -/
  extended : Option Bool := none

/-- A comparison, as a word says it. -/
def measure? (word : Octets) : Option Measure :=
  match word with
  | '+' :: digits => (natural? digits).map .above
  | '-' :: digits => (natural? digits).map .below
  | digits => (natural? digits).map .exactly

/-- The size in a word: a comparison and a unit. -/
def sizeTest? (word : Octets) : Option Test := do
  let units := [('c', 1), ('w', 2), ('b', 512), ('k', 1024), ('M', 1048576), ('G', 1073741824)]
  match word.getLast?.bind fun c => units.lookup c with
  | some unit => return .size (← measure? word.dropLast) unit
  | none => return .size (← measure? word) 512

/-- The rights in a word. -/
def rights? (word : Octets) : Option Rights :=
  match word with
  | '-' :: mode => (modeAfter? 0 false 0 mode).map .all
  | '/' :: mode => (modeAfter? 0 false 0 mode).map .any
  | mode => (modeAfter? 0 false 0 mode).map .exactly

/-- An expression in which a plus sign and a question mark are counts without a backslash, in the basic
dialect. -/
def plainCounts : Octets → Octets
  | '\\' :: c :: rest =>
    if c == '+' || c == '?' then c :: plainCounts rest else '\\' :: c :: plainCounts rest
  | c :: rest => if c == '+' || c == '?' then '\\' :: c :: plainCounts rest else c :: plainCounts rest
  | [] => []

/-- The expression that fits whole names. -/
def regex? (manner : Manner) (anyCase : Bool) (word : Octets) : Option Regex := do
  let regex ← match manner.extended with
    | some extended => Regex.ofText? { extended } word
    | none => Regex.ofText? { extended := false } (plainCounts word)
  let regex := if anyCase then regex.ignoringCase else regex
  return .both .start (.both (.group 0 regex) .stop)

/-- The words of a command up to its end, which is a semicolon, or a plus sign after the mark of the
names.  Tells which, and gives the words left. -/
def commandWords? : List Octets → Option (List Octets × Bool × List Octets)
  | [] => none
  | [';'] :: rest => some ([], false, rest)
  | ['\x7b', '\x7d'] :: ['+'] :: rest => some ([], true, rest)
  | word :: rest => (commandWords? rest).map fun (words, once, rest) => (word :: words, once, rest)

/-- A question with a way to walk that it asks for, and the words left; or what is wrong. -/
abbrev Part := Except String (Question × Manner × List Octets)

/-- A pattern as a test. -/
def fits (subject : Subject) (anyCase : Bool) (word : Octets) : Test :=
  let word := if anyCase then word.map Char.toLower else word
  .fits subject (Pattern.parts (word.map fun c => (c, false))) anyCase

/-- Read the command of a deed. -/
def readCommand (name : String) (manner : Manner) (rest : List Octets) : Part :=
  match commandWords? rest with
  | none => .error ("missing argument to \x60" ++ name ++ "\x27")
  | some ([], _, _) => .error ("missing argument to \x60" ++ name ++ "\x27")
  | some (command, once, rest) =>
    let inPlace := name == "-execdir"
    if once && command.any (Text.contains "\x7b\x7d".toList) then
      .error ("Only one instance of \x7b\x7d is supported with " ++ name ++ " ... +")
    else .ok (.deed (if once then .runOnce inPlace command else .run inPlace command), manner, rest)

/-- Read a test or a deed that takes a word. -/
def readValued (manner : Manner) (name : String) (value : Octets) (rest : List Octets) :
    Option Part :=
  let invalid : Part :=
    .error ("invalid argument \x60" ++ value.name ++ "\x27 to \x60" ++ name ++ "\x27")
  let found (test : Option Test) : Option Part :=
    match test with
    | some test => some (.ok (.test test, manner, rest))
    | none => some invalid
  let walking (manner? : Option Manner) : Option Part :=
    match manner? with
    | some manner => some (.ok (.test (.constant true), manner, rest))
    | none => some invalid
  match name with
  | "-name" => found (some (fits .name false value))
  | "-iname" => found (some (fits .name true value))
  | "-path" => found (some (fits .path false value))
  | "-wholename" => found (some (fits .path false value))
  | "-ipath" => found (some (fits .path true value))
  | "-iwholename" => found (some (fits .path true value))
  | "-lname" => found (some (fits .link false value))
  | "-ilname" => found (some (fits .link true value))
  | "-regex" => found ((regex? manner false value).map .matched)
  | "-iregex" => found ((regex? manner true value).map .matched)
  | "-type" => found (some (.kind ((Text.split ',' value).filterMap List.head?) false))
  | "-xtype" => found (some (.kind ((Text.split ',' value).filterMap List.head?) true))
  | "-size" => found (sizeTest? value)
  | "-perm" => found ((rights? value).map .rights)
  | "-links" => found ((measure? value).map .names)
  | "-samefile" => found (some (.sameAs value))
  | "-newer" => found (some (.constant false))
  | "-user" => found (some (.constant (value == "root".toList || value == ['0'])))
  | "-group" => found (some (.constant (value == "root".toList || value == ['0'])))
  | "-uid" => found ((measure? value).map fun measure => .constant (measure.holds 0))
  | "-gid" => found ((measure? value).map fun measure => .constant (measure.holds 0))
  -- every file is new
  | "-mtime" => found ((measure? value).map fun measure => .constant (measure.holds 0))
  | "-atime" => found ((measure? value).map fun measure => .constant (measure.holds 0))
  | "-ctime" => found ((measure? value).map fun measure => .constant (measure.holds 0))
  | "-mmin" => found ((measure? value).map fun measure => .constant (measure.holds 1))
  | "-amin" => found ((measure? value).map fun measure => .constant (measure.holds 1))
  | "-cmin" => found ((measure? value).map fun measure => .constant (measure.holds 1))
  | "-maxdepth" => walking ((natural? value).map fun n => { manner with most := some n })
  | "-mindepth" => walking ((natural? value).map fun n => { manner with least := n })
  | "-regextype" =>
    let extended := ["posix-extended", "egrep", "posix-egrep", "awk", "posix-awk", "gnu-awk"]
    walking (some { manner with
      extended := if value == "emacs".toList || value == "findutils-default".toList then none
        else some (extended.contains (String.ofList value)) })
  | "-printf" => some (.ok (.deed (.format value), manner, rest))
  | _ => none

/-- Read a test or a deed. -/
def readPrimary (manner : Manner) (name : String) (rest : List Octets) : Part :=
  let constant (holds : Bool) (manner : Manner) : Part := .ok (.test (.constant holds), manner, rest)
  let deed (deed : Deed) (manner : Manner) : Part := .ok (.deed deed, manner, rest)
  match name with
  | "-print" => deed (.show '\n') manner
  | "-print0" => deed (.show '\x00') manner
  | "-delete" => deed .delete { manner with deep := true }
  | "-prune" => deed .prune manner
  | "-quit" => deed .quit manner
  | "-true" => constant true manner
  | "-false" => constant false manner
  | "-readable" => constant true manner
  | "-writable" => constant true manner
  | "-nouser" => constant false manner
  | "-nogroup" => constant false manner
  | "-depth" => constant true { manner with deep := true }
  | "-d" => constant true { manner with deep := true }
  | "-follow" => constant true { manner with followed := true }
  | "-mount" => constant true manner
  | "-xdev" => constant true manner
  | "-noleaf" => constant true manner
  | "-warn" => constant true manner
  | "-nowarn" => constant true manner
  | "-daystart" => constant true manner
  | "-ignore_readdir_race" => constant true manner
  | "-noignore_readdir_race" => constant true manner
  | "-empty" => .ok (.test .empty, manner, rest)
  | "-executable" => .ok (.test .runnable, manner, rest)
  | "-exec" => readCommand name manner rest
  | "-execdir" => readCommand name manner rest
  | name =>
    match rest with
    | value :: more =>
      (readValued manner name value more).getD (.error ("unknown predicate \x60" ++ name ++ "\x27"))
    | [] =>
      if (readValued manner name [] []).isSome then
        .error ("missing argument to \x60" ++ name ++ "\x27")
      else .error ("unknown predicate \x60" ++ name ++ "\x27")

/-- Whether a word ends a sequence of questions. -/
def endsSequence (word : Octets) : Bool :=
  ["-o", "-or", ",", ")"].contains (String.ofList word)

mutual

/-- Read one question, with what negates it. -/
def readOne : Nat → Manner → List Octets → Part
  | 0, _, _ => .error "invalid expression"
  | _, _, [] => .error "invalid expression; I was expecting to find a test or action"
  | fuel + 1, manner, word :: rest =>
    match String.ofList word with
    | "!" => negated fuel manner rest
    | "-not" => negated fuel manner rest
    | "(" =>
      match readList fuel manner rest with
      | .error what => .error what
      | .ok (question, manner, [')'] :: rest) => .ok (question, manner, rest)
      | .ok _ => .error "invalid expression; I was expecting to find a \x27)\x27 somewhere"
    | ")" => .error "invalid expression; you have too many \x27)\x27"
    | name =>
      if name.startsWith "-" then readPrimary manner name rest
      else .error ("paths must precede expression: \x60" ++ name ++ "\x27")

/-- Read a question that is negated. -/
def negated : Nat → Manner → List Octets → Part
  | 0, _, _ => .error "invalid expression"
  | fuel + 1, manner, rest =>
    match readOne fuel manner rest with
    | .error what => .error what
    | .ok (question, manner, rest) => .ok (.not question, manner, rest)

/-- Read questions that must all hold. -/
def readAll : Nat → Manner → List Octets → Part
  | 0, _, _ => .error "invalid expression"
  | fuel + 1, manner, words =>
    match readOne fuel manner words with
    | .error what => .error what
    | .ok (first, manner, []) => .ok (first, manner, [])
    | .ok (first, manner, word :: rest) =>
      if endsSequence word then .ok (first, manner, word :: rest)
      else
        let rest := if word == "-a".toList || word == "-and".toList then rest else word :: rest
        match readAll fuel manner rest with
        | .error what => .error what
        | .ok (second, manner, rest) => .ok (.and first second, manner, rest)

/-- Read questions of which one must hold. -/
def readAny : Nat → Manner → List Octets → Part
  | 0, _, _ => .error "invalid expression"
  | fuel + 1, manner, words =>
    match readAll fuel manner words with
    | .error what => .error what
    | .ok (first, manner, rest) =>
      match rest with
      | word :: more =>
        if word == "-o".toList || word == "-or".toList then
          match readAny fuel manner more with
          | .error what => .error what
          | .ok (second, manner, rest) => .ok (.or first second, manner, rest)
        else .ok (first, manner, rest)
      | [] => .ok (first, manner, [])

/-- Read questions of which only the last counts. -/
def readList : Nat → Manner → List Octets → Part
  | 0, _, _ => .error "invalid expression"
  | fuel + 1, manner, words =>
    match readAny fuel manner words with
    | .error what => .error what
    | .ok (first, manner, [','] :: rest) =>
      match readList fuel manner rest with
      | .error what => .error what
      | .ok (second, manner, rest) => .ok (.after first second, manner, rest)
    | .ok (first, manner, rest) => .ok (first, manner, rest)

end

/-- What words ask for: where to walk, how, and what to ask there. -/
structure Request where
  starts : List Octets
  manner : Manner
  question : Question

/-- The options before the names, and the words left. -/
def leadingManner (manner : Manner) : List Octets → Manner × List Octets
  | ['-', 'L'] :: rest => leadingManner { manner with followed := true, followedFirst := true } rest
  | ['-', 'H'] :: rest => leadingManner { manner with followed := false, followedFirst := true } rest
  | ['-', 'P'] :: rest => leadingManner { manner with followed := false, followedFirst := false } rest
  | ('-' :: 'O' :: _) :: rest => leadingManner manner rest
  | rest => (manner, rest)

/-- Whether a word begins the question. -/
def beginsQuestion (word : Octets) : Bool :=
  (word.head? == some '-' && word.length > 1) || [['('], ['!'], [','], [')']].contains word

/-- Read the words of a call. -/
def request (words : List Octets) : Except String Request := do
  let (manner, words) := leadingManner {} words
  let starts := words.takeWhile (!beginsQuestion ·)
  let words := words.drop starts.length
  let starts := if starts.isEmpty then [['.']] else starts
  let shown : Question := .deed (.show '\n')
  if words.isEmpty then return ⟨starts, manner, shown⟩
  else
    let (question, manner, rest) ← readList (4 * words.length + 4) manner words
    match rest with
    | [] =>
      return ⟨starts, manner, if question.acts then question else .and question shown⟩
    | word :: _ =>
      .error (if word == [')'] then "invalid expression; you have too many \x27)\x27"
        else "paths must precede expression: \x60" ++ word.name ++ "\x27")

/-! ## Asking -/

/-- A name on the way. -/
structure Item where
  name : Octets
  /-- The name that the walk began with. -/
  start : Octets
  depth : Nat
  /-- Where the name itself stands. -/
  place : Location
  /-- What it names, which is a link unless links are followed. -/
  entry : Entry

/-- A name without the slashes at its end, but for one that is all of it. -/
def trimmed (name : Octets) : Octets :=
  let text := Text.dropEndWhile (· == '/') name
  if text.isEmpty then name.take 1 else text

/-- The last part of a name. -/
def Item.base (item : Item) : Octets :=
  let text := trimmed item.name
  match Text.cutLast? '/' text with
  | some (_, base) => if base.isEmpty then text else base
  | none => text

/-- The name of the directory that a name stands in. -/
def Item.parent (item : Item) : Octets :=
  match Text.cutLast? '/' (trimmed item.name) with
  | some (parent, _) => parent
  | none => ['.']

/-- The part of a name after the one that the walk began with. -/
def Item.below (item : Item) : Octets :=
  let rest := item.name.drop item.start.length
  if rest.head? == some '/' then rest.tail else rest

/-- The letter of a kind. -/
def kindLetter : Entry → Char
  | .directory => 'd'
  | .file _ _ => 'f'
  | .link _ => 'l'

/-- The item as listings show it. -/
def Item.listed (item : Item) : Listing.Item := ⟨item.name, item.entry, item.place⟩

/-- What stands at the place of an item, links followed or not. -/
def Item.entryAs (item : Item) (files : FileSystem) (followed : Bool) : Entry :=
  let found := if followed then files.stat (.ofLocation item.place) else
    files.linkStat (.ofLocation item.place)
  found.toOption.getD ((files.get? item.place).getD item.entry)

/-- Whether a test holds. -/
def Test.holds (files : FileSystem) (dir : Location) (manner : Manner) (item : Item) : Test → Bool
  | .fits subject pattern anyCase =>
    let text := match subject, item.entry with
      | .name, _ => some item.base
      | .path, _ => some item.name
      | .link, .link path => some (octets path)
      | .link, _ => none
    text.any fun text => Pattern.fits pattern (if anyCase then text.map Char.toLower else text)
  | .matched regex => regex.occurs item.name
  | .kind letters other =>
    let entry := if other then item.entryAs files (!manner.followed) else item.entry
    letters.contains (kindLetter entry)
  | .empty =>
    match item.entry with
    | .file content _ => content.size = 0
    | .directory => files.isEmptyAt ((files.locate? (.ofLocation item.place)).getD item.place)
    | .link _ => false
  | .size measure unit => measure.holds ((item.listed.size + unit - 1) / unit)
  | .rights wanted => wanted.holds (modeOf item.entry)
  | .names measure => measure.holds (Listing.linkCount files item.place item.entry)
  | .sameAs file =>
    let path := Path.ofText dir file.name
    let other := if manner.followed then files.locate? path else files.locateLink? path
    other == some item.place || FileSystem.areOneFile (other.bind (files.get? ·)) (files.get? item.place)
  | .runnable =>
    match files.stat (.ofLocation item.place) with
    | .ok .directory => true
    | .ok (.file _ traits) => isExecutable traits.mode
    | _ => false
  | .constant holds => holds

/-- What a letter in a format stands for. -/
def fact (files : FileSystem) (item : Item) (letter : Char) : Octets :=
  match letter with
  | 'p' => item.name
  | 'f' => item.base
  | 'h' => item.parent
  | 'H' => item.start
  | 'P' => item.below
  | 'd' => Octets.ofNat item.depth
  | 'y' => [kindLetter item.entry]
  | 'Y' =>
    match files.stat (.ofLocation item.place) with
    | .ok entry => [kindLetter entry]
    | .error .tooManyLinks => ['L']
    | .error _ => ['N']
  | 's' => Octets.ofNat item.listed.size
  | 'm' => Nat.toDigits 8 (modeOf item.entry)
  | 'M' => Listing.kindLetters item.entry
  | 'n' => Octets.ofNat (Listing.linkCount files item.place item.entry)
  | 'l' =>
    match item.entry with
    | .link path => octets path
    | _ => []
  | 'u' => "root".toList
  | 'g' => "root".toList
  | 'U' => ['0']
  | 'G' => ['0']
  | 'k' => Octets.ofNat item.listed.blocks
  | 'b' => Octets.ofNat (item.listed.blocks * 2)
  | '%' => ['%']
  | letter => ['%', letter]

/-- Put what is known about a file into a format.  Tells whether more may follow. -/
def formatted (files : FileSystem) (item : Item) : Nat → Octets → Octets
  | 0, _ => []
  | _, [] => []
  | fuel + 1, '%' :: rest =>
    let left := rest.head? == some '-'
    let digits := (if left then rest.tail else rest).takeWhile Char.isDigit
    let width := Decimal.value digits
    match (if left then rest.tail else rest).drop digits.length with
    | letter :: rest =>
      let text := fact files item letter
      let padding := List.replicate (width - text.length) ' '
      (if left then text ++ padding else padding ++ text) ++ formatted files item fuel rest
    | [] => ['%']
  | fuel + 1, '\\' :: c :: rest =>
    if c == 'c' then []
    else if isOctal c then
      let (char, rest) := cutOctal 3 (c :: rest)
      char :: formatted files item fuel rest
    else
      let text := match escapeNames.lookup c with
        | some char => [char]
        | none => if c == '\\' then ['\\'] else ['\\', c]
      text ++ formatted files item fuel rest
  | fuel + 1, c :: rest => c :: formatted files item fuel rest

/-- What is known during a walk, beside the state of the shell. -/
structure Progress where
  failed : Bool := false
  pruned : Bool := false
  /-- How the walk ended before its end. -/
  ended : Option Flow := none
  /-- The names for the commands that are run once, by the command and its directory. -/
  waiting : List (List Octets × Location × List Octets) := []

/-- A walk changes the state of the shell. -/
abbrev Walking := StateT Progress (StateM State)

/-- Run something of the shell; a signal ends the walk.  Gives the status. -/
def shellStep (act : Step) : Walking Nat := do
  match ← (liftM act : Walking Flow) with
  | .next => return (← (liftM (get : StateM State State) : Walking State)).status
  | flow =>
    modify fun progress => { progress with ended := some flow }
    return 1

/-- The state of the shell. -/
def shell : Walking State := (liftM (get : StateM State State) : Walking State)

/-- Change the state of the shell. -/
def changeShell (change : State → State) : Walking Unit :=
  (liftM (modify change : StateM State PUnit) : Walking PUnit)

/-- Tell about a mistake. -/
def complain (text : String) : Walking Unit := do
  changeShell fun state => state.write 2 (octets ("find: " ++ text ++ "\n"))
  modify fun progress => { progress with failed := true }

/-- Run something in another directory. -/
def inDirectory (dir : Location) (act : Step) : Step := do
  let state ← get
  set { state with dir }
  let flow ← act
  modify fun after => { after with dir := state.dir }
  return flow

/-- Put a name in place of its mark in a word. -/
def fillMark (name : Octets) : Octets → Octets
  | '\x7b' :: '\x7d' :: rest => name ++ fillMark name rest
  | c :: rest => c :: fillMark name rest
  | [] => []

/-- Do a deed. -/
def Deed.act (run : List Octets → Step) (manner : Manner) (item : Item) : Deed → Walking Bool
  | .show ending => do
    changeShell fun state => state.write 1 (item.name ++ [ending])
    return true
  | .format text => do
    changeShell fun state =>
      state.write 1 (formatted state.world.files item (text.length + 1) text)
    return true
  | .delete => do
    let state ← shell
    if item.base == ['.'] then return true
    else
      let files := state.world.files
      let path := Path.ofLocation item.place
      let change := match files.get? item.place with
        | some .directory =>
          if files.isEmptyAt item.place then files.removeTree path else .error .notEmpty
        | _ => files.unlink path
      match change with
      | .ok files =>
        changeShell fun state => state.withFiles files
        return true
      | .error fault =>
        complain ("cannot delete " ++ inQuotes item.name ++ ": " ++ faultText fault)
        return false
  | .prune => do
    if !manner.deep then modify fun progress => { progress with pruned := true }
    return true
  | .quit => do
    modify fun progress => { progress with ended := some .next }
    return true
  | .run inPlace command => do
    let name := if inPlace then '.' :: '/' :: item.base else item.name
    let act := run (command.map (fillMark name))
    let status ← shellStep (if inPlace then inDirectory item.place.dropLast act else act)
    return status = 0
  | .runOnce inPlace command => do
    let state ← shell
    let dir := if inPlace then item.place.dropLast else state.dir
    let name := if inPlace then '.' :: '/' :: item.base else item.name
    modify fun progress =>
      let isOne (entry : List Octets × Location × List Octets) : Bool :=
        entry.1 == command && entry.2.1 == dir
      let waiting := if progress.waiting.any isOne then
          progress.waiting.map fun entry =>
            if isOne entry then (entry.1, entry.2.1, entry.2.2 ++ [name]) else entry
        else progress.waiting ++ [(command, dir, [name])]
      { progress with waiting }
    return true

/-- Ask a question at a name. -/
def ask (run : List Octets → Step) (manner : Manner) (item : Item) : Question → Walking Bool
  | .test test => do
    let state ← shell
    return test.holds state.world.files state.dir manner item
  | .deed deed => deed.act run manner item
  | .not question => do return !(← ask run manner item question)
  | .and first second => do
    if ← ask run manner item first then
      if (← get).ended.isSome then return false else ask run manner item second
    else return false
  | .or first second => do
    if ← ask run manner item first then return true
    else if (← get).ended.isSome then return false
    else ask run manner item second
  | .after first second => do
    let _ ← ask run manner item first
    if (← get).ended.isSome then return false else ask run manner item second

/-! ## Walking -/

/-- What is at a place, followed if the walk follows links; one that leads nowhere is itself. -/
def entryFor (files : FileSystem) (followed : Bool) (place : Location) : Option Entry :=
  match followed, files.stat (.ofLocation place) with
  | true, .ok entry => some entry
  | _, _ => files.get? place

/-- Ask at a name, unless it is not deep enough. -/
def visit (run : List Octets → Step) (manner : Manner) (question : Question) (item : Item) :
    Walking Unit := do
  if item.depth ≥ manner.least && (← get).ended.isNone then
    let _ ← ask run manner item question

/-- Walk through a name and what stands below it, at most so deep.  `inside` are the directories on the
way, which are not entered again. -/
def walk (run : List Octets → Step) (manner : Manner) (question : Question) :
    Nat → List Location → Item → Walking Unit
  | 0, _, _ => return ()
  | depth + 1, inside, item => do
    if (← get).ended.isSome then return ()
    let files := (← shell).world.files
    let place := (files.locate? (.ofLocation item.place)).getD item.place
    if item.entry.isDirectory && inside.contains place then
      complain ("File system loop detected; " ++ inQuotes item.name)
    else
      modify fun progress => { progress with pruned := false }
      if !manner.deep then visit run manner question item
      let pruned := (← get).pruned
      if item.entry.isDirectory && !pruned && manner.most.all (item.depth < ·) then
        let files := (← shell).world.files
        let names := Octets.sorted ((files.children place).map fun (name, _) => octets name)
        for name in names do
          let files := (← shell).world.files
          let below := place ++ [Octets.name name]
          match entryFor files manner.followed below with
          | some entry =>
            walk run manner question depth (place :: inside)
              ⟨if item.name.getLast? == some '/' then item.name ++ name else item.name ++ '/' :: name,
                item.start, item.depth + 1, below, entry⟩
          | none => pure ()
      if manner.deep then visit run manner question item

/-- The deepest that a walk goes. -/
def maxDepth : Nat := 2000

/-- Walk from a name. -/
def walkFrom (run : List Octets → Step) (request : Request) (start : Octets) : Walking Unit := do
  let state ← shell
  let files := state.world.files
  let path := state.path start
  let followed := request.manner.followed || request.manner.followedFirst
  let found := if start.isEmpty then .error .notFound else files.linkStat path
  match found, files.locateLink? path with
  | .error fault, _ => complain (inQuotes start ++ ": " ++ faultText fault)
  | .ok _, none => return ()
  | .ok entry, some place =>
    let entry := (entryFor files followed place).getD entry
    walk run request.manner request.question maxDepth [] ⟨start, start, 0, place, entry⟩

/-- Run the commands that wait for names. -/
def runWaiting (run : List Octets → Step) : Walking Unit := do
  for (command, dir, names) in (← get).waiting do
    let status ← shellStep (inDirectory dir (run (command ++ names)))
    if status != 0 then modify fun progress => { progress with failed := true }

/-- Walk from all names. -/
def walkAll (run : List Octets → Step) (request : Request) : Walking Unit := do
  for start in request.starts do
    if (← get).ended.isNone then walkFrom run request start
  runWaiting run

end Finding

open Finding in
/-- Walk through directories as words say. -/
def launchFinding (run : List Octets → Step) (args : List Octets) : Step := do
  match request args with
  | .error what =>
    modify fun state => state.write 2 (octets ("find: " ++ what ++ "\n"))
    Step.done 1
  | .ok request =>
    let ((), progress) ← (walkAll run request).run {}
    match progress.ended with
    | none => Step.done (if progress.failed then 1 else 0)
    | some .next => Step.done (if progress.failed then 1 else 0)
    | some flow => return flow

end SiteScript.Rehearsal.Shell
