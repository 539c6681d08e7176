import SiteScript.Rehearsal.Shell.Batch

/-!
# SiteScript.Rehearsal.Shell.Launchers

Programs that run one command in another setting: with other values in its environment, for a limited
time, with another rank or other buffers.  Those that only prepare for the command run it as it is.
-/

namespace SiteScript.Rehearsal.Shell

/-- Refuse the words of a program that runs commands. -/
def refuseLaunch (name what : String) (status : Nat) : Step := do
  modify fun state => state.write 2 (octets (name ++ ": " ++ what ++ "\n"))
  Step.done status

/-! ## Environments -/

/-- A setting for a command. -/
structure Setting where
  ending : Char := '\n'
  cleared : Bool := false
  removed : List Octets := []
  dir : Option Octets := none
  assigned : List (Octets × Octets) := []
  command : List Octets := []

/-- The setting that words describe.  A word that holds words is split first. -/
def Setting.ofArgs? (args : List Octets) : Except String Setting := do
  let spec : OptionSpec :=
    { flags := "i0v", valued := "uCS", anywhere := false
      long := [("ignore-environment", 'i'), ("null", '0'), ("unset", 'u'), ("chdir", 'C'),
        ("split-string", 'S'), ("debug", 'v')] }
  let split (word : Octets) : List Octets := (Batch.tokens false word).1.filterMap fun
    | .word text => some text
    | .lineEnd => none
  let args := match args with
    | ['-', 'S'] :: word :: rest => split word ++ rest
    | ('-' :: 'S' :: word) :: rest => split word ++ rest
    | args => args
  let options ← spec.read none args
  let (cleared, words) := match options.operands with
    | ['-'] :: rest => (true, rest)
    | rest => (options.has 'i', rest)
  let bindings := words.takeWhile (·.contains '=')
  return {
    ending := if options.has '0' then '\x00' else '\n'
    cleared
    removed := options.given.filterMap fun (letter, value) => if letter == 'u' then some value else none
    dir := options.value? 'C'
    assigned := bindings.map fun word =>
      let name := word.takeWhile (· != '=')
      (name, word.drop (name.length + 1))
    command := words.drop bindings.length }

/-- The values of a setting: those there are, less those taken away, with those assigned in their
places or at the end. -/
def Setting.values (setting : Setting) (before : List (Octets × Octets)) : List (Octets × Octets) :=
  let kept := if setting.cleared then [] else before.filter fun (name, _) => !setting.removed.contains name
  setting.assigned.foldl (fun values (name, value) =>
    if values.any (·.1 == name) then
      values.map fun entry => if entry.1 == name then (name, value) else entry
    else values ++ [(name, value)]) kept

/-- Run a command with a changed environment, or show the environment. -/
def launchWith (run : List Octets → Step) (args : List Octets) : Step := do
  match Setting.ofArgs? args with
  | .error what => refuseLaunch "env" what 125
  | .ok setting =>
    let state ← get
    let values := setting.values (environment state)
    let dir? := match setting.dir with
      | none => some state.dir
      | some name =>
        let path := state.path name
        match state.world.files.stat path with
        | .ok .directory => state.world.files.locate? path
        | _ => none
    match dir?, setting.command with
    | none, _ => refuseLaunch "env" "cannot change directory" 125
    | some _, [] =>
      if setting.dir.isSome then refuseLaunch "env" "must specify command with --chdir (-C)" 125
      else
        Step.say (values.flatMap fun (name, value) => name ++ '=' :: value ++ [setting.ending])
    | some dir, command =>
      if setting.ending != '\n' then refuseLaunch "env" "cannot specify --null (-0) with command" 125
      else
        let held : List (Octets × Variable) := values.reverse.map fun (name, value) =>
          (name, { value := some value, exported := true })
        -- the program is looked for with the new values, or with the usual ones if they say nothing
        let searched : List (Octets × Variable) :=
          if values.any (·.1 == "PATH".toList) then []
          else [("PATH".toList, { value := some "/bin:/usr/bin".toList })]
        set { state with vars := held ++ searched, dir }
        let flow ← run command
        modify fun after => { after with vars := state.vars, dir := state.dir }
        return flow

/-! ## Time -/

/-- A time in tenths of milliseconds, which is written in seconds or in the unit of a letter. -/
def duration? (word : Octets) : Option Nat := do
  let (digits, unit) := match word.getLast? with
    | some 's' => (word.dropLast, 1)
    | some 'm' => (word.dropLast, 60)
    | some 'h' => (word.dropLast, 3600)
    | some 'd' => (word.dropLast, 86400)
    | _ => (word, 1)
  let whole := digits.takeWhile Char.isDigit
  let fraction ← match digits.drop whole.length with
    | [] => some []
    | '.' :: rest => some rest
    | _ => none
  if (whole.isEmpty && fraction.isEmpty) || !fraction.all Char.isDigit then none
  else
    let n := ((whole ++ (fraction ++ "0000".toList).take 4).foldl (fun n c =>
      n * 10 + (c.toNat - 48)) 0)
    return n * unit

/-- How long a command runs: only waiting takes time. -/
def waitingTime (command : List Octets) : Nat :=
  match command with
  | name :: times =>
    if baseName name == "sleep".toList then
      (times.filterMap duration?).foldl (· + ·) 0
    else 0
  | [] => 0

/-- Run a command for a limited time. -/
def launchTimed (run : List Octets → Step) (args : List Octets) : Step := do
  let spec : OptionSpec :=
    { flags := "fpv", valued := "ks", anywhere := false
      long := [("foreground", 'f'), ("preserve-status", 'p'), ("verbose", 'v'), ("kill-after", 'k'),
        ("signal", 's')] }
  match spec.read none args with
  | .error what => refuseLaunch "timeout" what 125
  | .ok options =>
    let signal? := match options.value? 's' with
      | none => some 15
      | some word => signalNumber? ((Text.dropPrefix? "SIG".toList word).getD word)
    match options.operands, signal? with
    | _, none => refuseLaunch "timeout" "invalid signal" 125
    | word :: first :: rest, some signal =>
      match duration? word with
      | none => refuseLaunch "timeout" "invalid time interval" 125
      | some limit =>
        if limit != 0 && limit < waitingTime (first :: rest) then
          Step.done (if signal = 9 || options.has 'p' then 128 + signal else 124)
        else run (first :: rest)
    | _, some _ => refuseLaunch "timeout" "missing operand" 125

/-! ## Other settings -/

/-- Run a command as it is; without one, refuse with a status. -/
def launchAlone (status : Nat) (run : List Octets → Step) (args : List Octets) : Step :=
  let spec : OptionSpec := { flags := "cfw", anywhere := false }
  match spec.read none args with
  | .error what => refuseLaunch "launch" what status
  | .ok options =>
    if options.operands.isEmpty then refuseLaunch "launch" "missing operand" status
    else run options.operands

/-- Run a command with another rank, or show the rank. -/
def launchNice (run : List Octets → Step) (args : List Octets) : Step :=
  let args := match args with
    | ('-' :: digits) :: rest =>
      if (integer? digits).isSome then ['-', 'n'] :: digits :: rest else args
    | args => args
  let spec : OptionSpec := { flags := "", valued := "n", anywhere := false, long := [("adjustment", 'n')] }
  match spec.read none args with
  | .error what => refuseLaunch "nice" what 125
  | .ok options =>
    match options.operands, (options.value? 'n').map integer? with
    | _, some none => refuseLaunch "nice" "invalid adjustment" 125
    | [], none => Step.say "0\n".toList
    | [], some (some _) => refuseLaunch "nice" "a command must be given with an adjustment" 125
    | command, _ => run command

/-- Run a command with other buffers. -/
def launchBuffered (run : List Octets → Step) (args : List Octets) : Step :=
  let spec : OptionSpec :=
    { flags := "", valued := "ioe", anywhere := false
      long := [("input", 'i'), ("output", 'o'), ("error", 'e')] }
  match spec.read none args with
  | .error what => refuseLaunch "stdbuf" what 125
  | .ok options =>
    if options.operands.isEmpty then refuseLaunch "stdbuf" "missing operand" 125
    else if options.given.isEmpty then refuseLaunch "stdbuf" "you must specify a buffering mode option" 125
    else run options.operands

/-! ## Places of programs -/

/-- Tell where programs stand; all places if that is wanted. -/
def locatePrograms (args : List Octets) : Step := do
  let state ← get
  let spec : OptionSpec := { flags := "as", anywhere := false }
  match spec.read none args with
  | .error what => refuseLaunch "which" what 2
  | .ok options =>
    let found (name : Octets) : List Octets :=
      if name.contains '/' then
        match targetAt state name with
        | .tool _ => [name]
        | .script _ => [name]
        | _ => if isLauncher state name then [name] else []
      else
        let places := (searchPath state).filterMap fun dir =>
          (lookFor state name [dir]).map (·.1)
        if options.has 'a' then places else places.take 1
    let places := options.operands.map found
    if !options.has 's' then
      modify fun state => state.write 1 (Octets.unlines places.flatten)
    Step.done (if options.operands.isEmpty || places.any List.isEmpty then 1 else 0)

end SiteScript.Rehearsal.Shell
