import SiteScript.Rehearsal.Shell.State
import SiteScript.Rehearsal.Shell.Tool.Test

/-!
# SiteScript.Rehearsal.Shell.Builtin

The commands that change the shell itself: its variables, parameters, options, directory and streams.
Each takes words and the state; `Flow` tells how running goes on afterwards.

A command that refuses its words gives `Flow.refused`.  For most commands that is only a status; one
that is special ends the shell by it.
-/

namespace SiteScript.Rehearsal.Shell

/-- How running goes on after a command. -/
inductive Flow where
  | next
  /-- So many loops are left. -/
  | leaveLoops (levels : Nat)
  /-- So many loops but one are left, and that one goes on. -/
  | nextRound (levels : Nat)
  /-- The function or the file ends. -/
  | leave
  /-- The shell ends. -/
  | exit
  /-- The shell with a number ends by a signal. -/
  | killed (shell signal : Nat)
  /-- The command does not understand its words. -/
  | refused
deriving DecidableEq

/-- A step changes the state of a shell and tells how running goes on. -/
abbrev Step := StateM State Flow

namespace Step

/-- Go on with a status. -/
def done (status : Nat) : Step := do
  modify fun state => { state with status }
  return .next

/-- Refuse the words of a command. -/
def refuse (name : String) (text : String) : Step := do
  modify fun state => { state.complain (octets (name ++ ": " ++ text)) with status := 2 }
  return .refused

/-- Refuse a word that is no number. -/
def badNumber (name : String) (word : Octets) : Step :=
  refuse name ("Illegal number: " ++ word.name)

/-- Refuse an option. -/
def badOption (name : String) (c : Char) : Step :=
  refuse name ("Illegal option -" ++ String.ofList [c])

/-- Write a text to the output. -/
def say (text : Octets) : Step := do
  modify fun state => { state.write 1 text with status := if (state.streams.lookup 1).isSome then 0 else 1 }
  return .next

end Step

namespace Builtin

open Shell.Step

/-- The largest number that a command takes. -/
def maxNumber : Nat := 2147483647

/-- A number that is not negative, which blanks may surround. -/
def number? (word : Octets) : Option Nat := do
  let n ← Condition.number? word
  if 0 ≤ n && n ≤ maxNumber then some n.toNat else none

/-- A text in single quotes that stands for itself. -/
def inSingleQuotes (text : Octets) : Octets :=
  '\x27' :: (text.flatMap fun c => if c == '\x27' then "\x27\"\x27\"\x27".toList else [c]) ++ ['\x27']

/-- The letters of options at the beginning of words, and the words left; or a letter that is not
known. -/
def leadingOptions (known : List Char) : List Octets → Except Char (List Char × List Octets)
  | ['-', '-'] :: rest => .ok ([], rest)
  | ('-' :: c :: letters) :: rest =>
    match (c :: letters).find? fun c => !known.contains c with
    | some c => .error c
    | none => (leadingOptions known rest).map fun (more, rest) => ((c :: letters) ++ more, rest)
  | words => .ok ([], words)

/-- Sort the words of a command, and go on with them. -/
def withOptions (name : String) (known : List Char) (words : List Octets)
    (go : List Char → List Octets → Step) : Step :=
  match leadingOptions known words with
  | .ok (letters, rest) => go letters rest
  | .error c => badOption name c

/-- Do something for each word, up to the first that is refused. -/
def each (words : List Octets) (act : Octets → Step) : Step :=
  match words with
  | [] => done 0
  | word :: rest => do
    match ← act word with
    | .next => each rest act
    | flow => return flow

/-! ## Ending -/

/-- End the shell, with the status before unless one is given. -/
def exit (words : List Octets) : Step :=
  match words with
  | [] => return .exit
  | word :: _ =>
    match number? word with
    | some status => do
      modify fun state => { state with status }
      return .exit
    | none => badNumber "exit" word

/-- End the function or the file. -/
def leave (words : List Octets) : Step :=
  match words with
  | [] => return .leave
  | word :: _ =>
    match number? word with
    | some status => do
      modify fun state => { state with status }
      return .leave
    | none => badNumber "return" word

/-- Leave loops, or go on with the next round of one. -/
def loopJump (name : String) (flow : Nat → Flow) (words : List Octets) : Step := do
  let loops := (← get).loops
  let word := words.headD ['1']
  match (number? word).filter (· > 0) with
  | none => badNumber name word
  | some levels =>
    modify fun state => { state with status := 0 }
    return if loops = 0 then .next else flow (min levels loops)

/-! ## Variables -/

/-- The name and the value in a word such as `a=b`. -/
def binding (word : Octets) : Octets × Option Octets :=
  match Text.cut? '=' word with
  | some (name, value) => (name, some value)
  | none => (word, none)

/-- Give a variable a value and a property, as words say. -/
def declareOne (command : String) (change : Variable → Variable) (word : Octets) : Step := do
  let (name, value?) := binding word
  if !isName name then refuse command (name.name ++ ": bad variable name")
  else if value?.isSome && (← get).isFixed name then refuse name.name "is read only"
  else
    modify fun state =>
      ((value?.map (state.assign name)).getD state).modifyVar name change
    done 0

/-- The lines that would declare variables again, sorted. -/
def declarations (start : String) (keep : Variable → Bool) (state : State) : Octets :=
  let kept := state.vars.filter fun entry => keep entry.2
  let sorted := kept.mergeSort fun a b => !Octets.before b.1 a.1
  Octets.unlines (sorted.map fun (name, held) =>
    start.toList ++ name ++ ((held.value.map fun value => '=' :: inSingleQuotes value).getD []))

/-- Declare variables, or show those that are declared so. -/
def declare (name : String) (keep : Variable → Bool) (change : Variable → Variable)
    (words : List Octets) : Step :=
  withOptions name ['p'] words fun letters words => do
    if words.isEmpty || letters.contains 'p' then say (declarations (name ++ " ") keep (← get))
    else each words (declareOne name change)

/-- Take variables or functions away. -/
def unset (words : List Octets) : Step :=
  withOptions "unset" ['f', 'v'] words fun letters words =>
    each words fun name => do
      if letters.getLast? == some 'f' then
        modify fun state =>
          { state with functions := state.functions.filter (·.1 != name) }
        done 0
      else if !isName name then refuse "unset" (name.name ++ ": bad variable name")
      else if (← get).isFixed name then refuse "unset" (name.name ++ ": is read only")
      else
        modify (·.unset name)
        done 0

/-- Keep what a variable is, to be given back when the function ends. -/
def keepVariable (name : Octets) (state : State) : State :=
  match state.saved with
  | frame :: frames =>
    if frame.any (·.1 == name) then state
    else { state with saved := ((name, state.vars.lookup name) :: frame) :: frames }
  | [] => state

/-- Make variables the function's own. -/
def makeLocal (words : List Octets) : Step := do
  if (← get).saved.isEmpty then refuse "local" "not in a function"
  else
    each words fun word => do
      let (name, value?) := binding word
      if !isName name then refuse "local" (name.name ++ ": bad variable name")
      else if value?.isSome && (← get).isFixed name then refuse name.name "is read only"
      else
        modify fun state =>
          let state := keepVariable name state
          (value?.map (state.assign name)).getD state
        done 0

/-! ## Parameters and options -/

/-- Drop parameters from the beginning. -/
def shift (words : List Octets) : Step := do
  let word := words.headD ['1']
  match number? word with
  | none => badNumber "shift" word
  | some count =>
    if count > (← get).parameters.length then refuse "shift" "can\x27t shift that many"
    else
      modify fun state => { state with parameters := state.parameters.drop count }
      done 0

/-- Switch an option on or off. -/
def setOption (on : Bool) (c : Char) (state : State) : State :=
  let without := state.options.filter (· != c)
  { state with options := if on then c :: without else without }

/-- Set options and parameters as words say. -/
def setFrom : List Octets → Step
  | [] => done 0
  | ['-', '-'] :: rest => do
    modify fun state => { state with parameters := rest }
    done 0
  | ['-'] :: rest => do
    modify fun state =>
      { state with
        options := state.options.filter fun c => c != 'x' && c != 'v'
        parameters := if rest.isEmpty then state.parameters else rest }
    done 0
  | ['-', 'o'] :: name :: rest => long true name rest
  | ['+', 'o'] :: name :: rest => long false name rest
  | (sign :: c :: letters) :: rest => do
    if sign == '-' || sign == '+' then
      match (c :: letters).find? fun c => !(State.optionNames.any (·.1 == c)) with
      | some c => badOption "set" c
      | none =>
        modify fun state => (c :: letters).foldl (fun state c => setOption (sign == '-') c state) state
        setFrom rest
    else
      modify fun state => { state with parameters := (sign :: c :: letters) :: rest }
      done 0
  | words => do
    modify fun state => { state with parameters := words }
    done 0
where
  /-- Switch the option with a long name. -/
  long (on : Bool) (name : Octets) (rest : List Octets) : Step := do
    match State.optionNames.find? (·.2 == name.name) with
    | none => refuse "set" ("Illegal option -o " ++ name.name)
    | some (c, _) =>
      modify (setOption on c)
      setFrom rest

/-- The options and whether they are on. -/
def optionTable (state : State) : Octets :=
  "Current option settings\n".toList ++ Octets.unlines (State.optionNames.map fun (c, name) =>
    let shown := name.toList ++ List.replicate (16 - name.length) ' '
    shown ++ (if state.options.contains c then "on" else "off").toList)

/-- Set options and parameters, or show the variables. -/
def set (words : List Octets) : Step := do
  match words with
  | [] => say (declarations "" (·.value.isSome) (← get))
  | [['-', 'o']] => say (optionTable (← get))
  | [['+', 'o']] =>
    let state ← get
    say (Octets.unlines (State.optionNames.map fun (c, name) =>
      (if state.options.contains c then "set -o " else "set +o ").toList ++ name.toList))
  | words => setFrom words

/-- What `getopts` finds: the letter, its value, and the place to go on at: a word and a letter in
it. -/
structure Found where
  letter : Octets
  value : Option Octets
  word : Nat
  char : Nat
  status : Nat := 0

/-- Find the next option in words.  A colon after a letter stands for a value, and one at the
beginning for silence. -/
def nextOption (known : Octets) (words : List Octets) (word char : Nat) : Found :=
  let silent := known.head? == some ':'
  let text := words.getD (word - 1) []
  let char := if char = 0 then 1 else char
  if char = 1 && (text.head? != some '-' || text == ['-']) then ⟨['?'], none, word, 0, 1⟩
  else if char = 1 && text == ['-', '-'] then ⟨['?'], none, word + 1, 0, 1⟩
  else
    let c := text.getD char '?'
    let last := char + 1 ≥ text.length
    let after := if last then (word + 1, 0) else (word, char + 1)
    match known.dropWhile (fun k => k != c || c == ':') with
    | [] => ⟨['?'], if silent then some [c] else none, after.1, after.2, 0⟩
    | _ :: ':' :: _ =>
      if !last then ⟨[c], some (text.drop (char + 1)), word + 1, 0, 0⟩
      else
        match words[word]? with
        | some value => ⟨[c], some value, word + 2, 0, 0⟩
        | none => if silent then ⟨[':'], some [c], word + 1, 0, 0⟩ else ⟨['?'], none, word + 1, 0, 0⟩
    | _ => ⟨[c], some [], after.1, after.2, 0⟩

/-- Where `getopts` keeps its place in a word. -/
def optionPlace : Octets := "OPTCHAR ".toList

/-- Give the next option of the parameters to a variable. -/
def getopts (words : List Octets) : Step := do
  match words with
  | known :: name :: args =>
    let state ← get
    let args := if args.isEmpty then state.parameters else args
    let place (name : Octets) : Nat := ((state.get? name).bind number?).getD 0
    let index := max 1 (place "OPTIND".toList)
    let char := if (place optionPlace) / 1000 = index then place optionPlace % 1000 else 0
    if !isName name then refuse "getopts" (name.name ++ ": bad variable name")
    else
      let found := nextOption known args index char
      modify fun state =>
        let state := state.assign name found.letter
        let state := match found.value with
          | some value => state.assign "OPTARG".toList value
          | none => state.unset "OPTARG".toList
        let state := state.assign "OPTIND".toList (Octets.ofNat found.word)
        state.assign optionPlace (Octets.ofNat (found.word * 1000 + found.char))
      done found.status
  | _ => refuse "getopts" "Usage: getopts optstring var [arg...]"

/-! ## Signals -/

/-- Set what is done on signals and at the end. -/
def setTraps (action : Option Octets) (words : List Octets) : Step := do
  match words with
  | [] => done 0
  | word :: rest =>
    match signalNumber? word with
    | none =>
      modify fun state => state.write 2 (octets ("trap: " ++ word.name ++ ": bad trap\n"))
      done 1
    | some number =>
      modify fun state =>
        let others := state.traps.filter (·.1 != signalName number)
        { state with
          traps := others ++ (action.map fun action => (signalName number, action)).toList }
      setTraps action rest

/-- Set what is done on signals and at the end, or show it. -/
def trap (words : List Octets) : Step := do
  let words := if words.head? == some ['-', '-'] then words.tail else words
  match words with
  | [] =>
    say ((← get).traps.flatMap fun (name, action) =>
      "trap -- ".toList ++ inSingleQuotes action ++ ' ' :: name.toList ++ ['\n'])
  | ['-'] :: names => setTraps none names
  | [name] => setTraps none [name]
  | action :: names =>
    if (number? action).isSome then setTraps none words else setTraps (some action) names

/-- Send a signal to a shell or to a command that was not waited for. -/
def sendOne (signal : Nat) (target : Octets) : Step := do
  let state ← get
  match number? target with
  | none => badNumber "kill" target
  | some id =>
    let isJob := State.jobId 0 ≤ id && id < State.jobId state.jobs.length
    if id = 0 || (id > state.id && !isJob) then
      modify fun state => { state.complain (octets "kill: No such process\n") with status := 1 }
      return .next
    else if isJob || harmlessSignals.contains signal then done 0
    else if id = state.id && (state.traps.lookup (signalName signal)) == some [] then done 0
    else
      modify fun state => { state with status := 0 }
      return .killed id signal

/-- The signal that is to be sent, and the targets. -/
def kill (words : List Octets) : Step := do
  let usage := refuse "kill" ("Usage: kill [-s sigspec | -signum | -sigspec] [pid | job]... or\n" ++
    "kill -l [exitstatus]")
  match words with
  | [] => usage
  | [['-', 'l']] =>
    say (Octets.unlines (['0'] :: (List.range maxSignal).map fun i => (signalName (i + 1)).toList))
  | ['-', 'l'] :: word :: _ =>
    match number? word with
    | some n => say ((signalName (if n > 128 then n - 128 else n)).toList ++ ['\n'])
    | none => badNumber "kill" word
  | [['-', 's']] => usage
  | ['-', 's'] :: name :: targets =>
    match signalNumber? name with
    | some signal => if targets.isEmpty then usage else each targets (sendOne signal)
    | none => refuse "kill" ("invalid signal number or name: " ++ name.name)
  | ['-', '-'] :: targets => if targets.isEmpty then usage else each targets (sendOne 15)
  | ('-' :: c :: name) :: targets =>
    match signalNumber? (c :: name) with
    | some signal => if targets.isEmpty then usage else each targets (sendOne signal)
    | none => badOption "kill" c
  | targets => each targets (sendOne 15)

/-! ## Directories -/

/-- The text of a location. -/
def locationText (location : Location) : Octets := octets (Path.ofLocation location).text

/-- The way that a path leads from the current directory: each `..` takes the name before it away, as if
there were no links. -/
def routeOf (state : State) (path : Octets) : Octets :=
  let start := if path.head? == some '/' then [] else Text.split '/' state.route
  let names := (start ++ Text.split '/' path).foldl (fun names name =>
    if name.isEmpty || name == ['.'] then names
    else if name == ['.', '.'] then names.dropLast
    else names ++ [name]) []
  '/' :: Text.join '/' names

/-- The path that a directory is looked for at, and whether it is told: a relative path may begin at one
of the directories that were named for that. -/
def searchedPath (state : State) (path : Octets) : Octets × Bool :=
  let first := (Text.split '/' path).headD []
  if path.head? == some '/' || first == ['.'] || first == ['.', '.'] then (path, false)
  else
    let path := if path.isEmpty then ['.'] else path
    let candidates := (Text.split ':' ((state.get? "CDPATH".toList).getD [])).map fun dir =>
      (if dir.isEmpty then path else dir ++ '/' :: path, !dir.isEmpty)
    (candidates.find? fun candidate =>
      state.world.files.isDirectory (state.path candidate.1)).getD (path, false)

/-- Go to a directory. -/
def changeDirectory (words : List Octets) : Step :=
  withOptions "cd" ['L', 'P'] words fun letters words => do
    let state ← get
    let back := words.head? == some ['-']
    let wanted := match words with
      | [] => (state.get? "HOME".toList).getD []
      | word :: _ => if back then (state.get? "OLDPWD".toList).getD [] else word
    let (target, told) := searchedPath state wanted
    let physical := letters.getLast? == some 'P'
    let route := routeOf state target
    let path := if physical then state.path target else state.path route
    match state.world.files.isDirectory path, state.world.files.locate? path with
    | true, some location =>
      let route := if physical then locationText location else route
      modify fun state =>
        let state := state.assign "OLDPWD".toList state.route
        { state.assign "PWD".toList route with dir := location, route }
      if back || told then say (route ++ ['\n']) else done 0
    | _, _ => refuse "cd" ("can\x27t cd to " ++ wanted.name)

/-- Show the directory. -/
def showDirectory (words : List Octets) : Step :=
  withOptions "pwd" ['L', 'P'] words fun letters _ => do
    let state ← get
    say ((if letters.getLast? == some 'P' then locationText state.dir else state.route) ++ ['\n'])

/-! ## Reading -/

/-- The next line of an input, with the characters that a backslash protects marked; how many bytes it
takes, and whether its end was found. -/
def inputLine (raw : Bool) : Octets → List (Char × Bool) × Nat × Bool
  | [] => ([], 0, false)
  | '\n' :: _ => ([], 1, true)
  | '\\' :: '\n' :: rest =>
    if raw then ([('\\', false)], 2, true)
    else
      let (text, size, ended) := inputLine raw rest
      (text, size + 2, ended)
  | '\\' :: c :: rest =>
    if raw then
      let (text, size, ended) := inputLine raw (c :: rest)
      (('\\', false) :: text, size + 1, ended)
    else
      let (text, size, ended) := inputLine raw rest
      ((c, true) :: text, size + 2, ended)
  | c :: rest =>
    let (text, size, ended) := inputLine raw rest
    ((c, false) :: text, size + 1, ended)

/-- Split a line among so many variables; the last one gets what is left. -/
def distribute (marks : Octets) : Nat → List (Char × Bool) → List Octets
  | 0, _ => []
  | count + 1, text =>
    let isMark (c : Char × Bool) : Bool := !c.2 && marks.contains c.1
    let isBlank (c : Char × Bool) : Bool := isMark c && Octets.isSpace c.1
    let text := text.dropWhile isBlank
    let field := text.takeWhile (!isMark ·)
    let after := (text.drop field.length).dropWhile isBlank
    let rest := match after with
      | c :: more => if isMark c then more.dropWhile isBlank else after
      | [] => []
    let plain (text : List (Char × Bool)) : Octets := text.map (·.1)
    if count > 0 then plain field :: distribute marks count rest
    else if rest.isEmpty then [plain field]
    else [plain (text.reverse.dropWhile isBlank).reverse]

/-- Read a line into variables. -/
def read (words : List Octets) : Step := do
  let (raw, names) := options false words
  let state ← get
  match names with
  | [] => refuse "read" "arg count"
  | names =>
    match names.find? (!isName ·) with
    | some name => refuse "read" (name.name ++ ": bad variable name")
    | none =>
      let (text, size, ended) := inputLine raw (state.unread 0)
      let values := distribute state.fieldMarks names.length text
      modify fun state =>
        (names.zip values).foldl (fun state (name, value) => state.assign name value)
          (state.skip 0 size)
      done (if ended then 0 else 1)
where
  /-- Whether backslashes stand for themselves, and the names. -/
  options (raw : Bool) : List Octets → Bool × List Octets
    | ['-', 'r'] :: rest => options true rest
    | ['-', 'p'] :: _ :: rest => options raw rest
    | ['-', '-'] :: rest => (raw, rest)
    | rest => (raw, rest)

/-! ## Others -/

/-- Set aliases, or show them. -/
def setAliases (words : List Octets) : Step := do
  let shown (entry : Octets × Octets) : Octets := entry.1 ++ '=' :: inSingleQuotes entry.2
  if words.isEmpty then
    let sorted := (← get).aliases.mergeSort fun a b => !Octets.before b.1 a.1
    say (Octets.unlines (sorted.map shown))
  else
    let steps ← words.mapM fun word => do
      let state ← get
      match binding word, state.aliases.find? (·.1 == (binding word).1) with
      | (name, some text), _ =>
        modify fun state =>
          { state with aliases := (name, text) :: state.aliases.filter (·.1 != name) }
        pure 0
      | (_, none), some entry =>
        modify (·.write 1 (shown entry ++ ['\n']))
        pure 0
      | (name, none), none =>
        modify (·.write 2 ("alias: ".toList ++ name ++ " not found\n".toList))
        pure 1
    done (steps.foldl max 0)

/-- Take aliases away. -/
def unsetAliases (words : List Octets) : Step := do
  let aliases := (← get).aliases
  let all := words == [['-', 'a']]
  modify fun state =>
    { state with aliases := if all then [] else aliases.filter fun entry => !words.contains entry.1 }
  done (if all || words.all fun word => aliases.any (·.1 == word) then 0 else 1)

/-- Wait for commands, which have ended by now. -/
def wait (words : List Octets) : Step := do
  let state ← get
  match words.getLast? with
  | none => done 0
  | some word =>
    match number? word with
    | none => badNumber "wait" word
    | some id =>
      if id < State.jobId 0 then done 127 else done ((state.jobs[id - State.jobId 0]?).getD 127)

/-- Three digits of eight values each, after a zero. -/
def maskText (mask : Nat) : Octets :=
  '0' :: [mask / 64 % 8, mask / 8 % 8, mask % 8].flatMap Octets.ofNat

/-- Show or set which rights new files lack. -/
def umask (words : List Octets) : Step := do
  match words with
  | [] => say (maskText (← get).mask ++ ['\n'])
  | word :: _ =>
    if word.head?.any Char.isDigit then
      if word.any fun c => !('0' ≤ c && c ≤ '7') then badNumber "umask" word
      else
        let mask := word.foldl (fun n c => 8 * n + Decimal.digitValue c) 0
        modify fun state => { state with mask := mask % 512 }
        done 0
    else if word.all fun c => "ugoa=+-rwxXst,S".contains c then done 0
    else refuse "umask" ("Illegal mode: " ++ word.name)

/-- The commands of the shell that change its state only, by name. -/
def table : List (String × (List Octets → Step)) :=
  [(":", fun _ => done 0), ("true", fun _ => done 0), ("false", fun _ => done 1),
    ("exit", exit), ("return", leave),
    ("break", loopJump "break" .leaveLoops), ("continue", loopJump "continue" .nextRound),
    ("export", declare "export" (·.exported) fun held => { held with exported := true }),
    ("readonly", declare "readonly" (·.fixed) fun held => { held with fixed := true }),
    ("unset", unset), ("local", makeLocal), ("shift", shift), ("set", set), ("getopts", getopts),
    ("trap", trap), ("kill", kill), ("cd", changeDirectory), ("chdir", changeDirectory),
    ("pwd", showDirectory), ("read", read), ("wait", wait), ("umask", umask),
    ("times", fun _ => say "0m0.00s 0m0.00s\n0m0.00s 0m0.00s\n".toList),
    ("alias", setAliases), ("unalias", unsetAliases), 
    ("jobs", fun _ => done 0), ("ulimit", fun _ => say "unlimited\n".toList),
    ("bg", fun _ => refuse "bg" "No current job"), ("fg", fun _ => refuse "fg" "No current job")]

end Builtin

end SiteScript.Rehearsal.Shell
