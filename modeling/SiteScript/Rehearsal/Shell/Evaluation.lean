import SiteScript.Rehearsal.Shell.Finding
import SiteScript.Rehearsal.Shell.Launchers
import SiteScript.Rehearsal.Shell.Records.Evaluation
import SiteScript.Rehearsal.Shell.Reader

/-!
# SiteScript.Rehearsal.Shell.Evaluation

Running commands.  `perform` runs a task; a task that contains others runs them with a depth that is
one less, so that every run ends.  The functions before it say what is done at one depth, with a
runner for what is inside as an argument.

A subshell is a copy of the state of which only the world is kept.  The commands of a pipeline run in
subshells one after another, each with what the one before wrote as its input.
-/

namespace SiteScript.Rehearsal.Shell

/-- Where a command stands. -/
structure Place where
  /-- Whether something looks at the status of the command, so that a failure does not end the
  shell. -/
  tested : Bool := false

/-- What can be run. -/
inductive Task where
  | chains (chains : List Chain)
  | command (command : Command)
  | text (text : Octets)

/-- A runner runs tasks. -/
abbrev Runner := Place → Task → Step

namespace Runner

variable (go : Runner)

/-! ## Endings -/

/-- Run what is to be done at the end of a shell. -/
def finish (flow : Flow) : Step := do
  let state ← get
  match flow, state.traps.lookup "EXIT" with
  | .killed shell signal, _ => return .killed shell signal
  | _, none => return .exit
  | _, some action =>
    set { state with traps := state.traps.filter (·.1 != "EXIT") }
    match ← go {} (.text action) with
    | .next =>
      modify fun after => { after with status := state.status }
      return .exit
    | flow => return flow

/-- Do what is to be done on a signal; one that nothing was said about ends the shell. -/
def receive (flow : Flow) : Step := do
  let state ← get
  match flow with
  | .killed shell signal =>
    let action? := if shell = state.id && signal != 9 then state.traps.lookup (signalName signal)
      else none
    match action? with
    | none => return flow
    | some action =>
      match ← go {} (.text action) with
      | .next =>
        modify fun after => { after with status := state.status }
        return .next
      | flow => return flow
  | flow => return flow

/-- End the shell after a failure that nothing looks at, if it was told to. -/
def checkFailure (place : Place) (act : Step) : Step := do
  match ← act with
  | .next =>
    let state ← get
    return if state.status != 0 && state.options.contains 'e' && !place.tested then .exit else .next
  | flow => return flow

/-! ## Subshells -/

/-- Run something in a copy of the state, changed first.  Gives the copy afterwards. -/
def apart (change : State → State) (act : Step) : StateM State (Flow × State) := do
  let state ← get
  let start := change { state with traps := state.traps.filter (·.2.isEmpty) }
  let (flow, after) := StateT.run (do go.finish (← act) : Step) start
  set { state with world := after.world }
  return (flow, after)

/-- Run something in a copy of the state, and take its status. -/
def inSubshell (change : State → State) (act : Step) : Step := do
  match ← go.apart change act with
  | (.killed shell signal, _) => go.receive (.killed shell signal)
  | (_, after) => Step.done (after.status % 256)

/-- The output of commands, without the ends of lines at its end. -/
def substitute (body : List Chain) : StateM State Octets := do
  let state ← get
  let channel := state.world.channels.size
  let act : Step := if body.isEmpty then Step.done 0 else go {} (.chains body)
  let (flow, after) ← go.apart (·.connectNew 1 (.memory [])) act
  let signal := match flow with
    | .killed shell signal => some (shell, signal)
    | _ => state.signal
  modify fun state => { state with inner := some (after.status % 256), signal }
  let text := after.world.unread channel
  return Text.dropEndWhile (· == '\n') (text.filter (· != '\x00'))

/-- How a new shell reached its directory: as its environment says, if that is right. -/
def startRoute (state : State) : Octets :=
  let told := (state.get? "PWD".toList).getD []
  if state.world.files.locate? (state.path told) == some state.dir && told.head? == some '/' then told
  else Builtin.locationText state.dir

/-- Run a text in a shell of its own, which gets only what programs get.  It may take the place of
this shell, which then ends as it does. -/
def startShell (replacing : Bool) (caller : Octets) (parameters : List Octets) (options : List Char)
    (text : Octets) : Step := do
  let state ← get
  let start : State :=
    { world := state.world
      dir := state.dir
      route := startRoute state
      vars := state.vars.filterMap fun (name, held) =>
        if held.exported || name == "IFS".toList then some (name, { held with fixed := false })
        else none
      caller, parameters, options
      streams := state.streams
      traps := state.traps.filter (·.2.isEmpty)
      id := state.id + 1 }
  let run : Step := do go.finish (← go {} (.text text))
  let (flow, after) := StateT.run run start
  set { state with world := after.world }
  match flow with
  | .killed shell signal =>
    if shell != start.id then return flow
    else if replacing then return .killed state.id signal
    else Step.done (128 + signal)
  | _ => Step.done (after.status % 256)

/-! ## Programs that run commands -/

/-- How a shell is to be started. -/
structure Invocation where
  options : List Char := []
  /-- Whether the first operand is the text. -/
  given : Bool := false
  operands : List Octets := []

/-- Read how a shell is to be started; none for an option that there is not. -/
def invocation? (invocation : Invocation) : List Octets → Option Invocation
  | ['-', '-'] :: rest => some { invocation with operands := rest }
  | ['-'] :: rest => some { invocation with operands := rest }
  | ['-', 'o'] :: name :: rest =>
    match State.optionNames.find? (·.2 == name.name) with
    | some (c, _) => invocation? { invocation with options := c :: invocation.options } rest
    | none => none
  | ('-' :: letters) :: rest =>
    if letters.all fun c => c == 'c' || c == 'l' || State.optionNames.any (·.1 == c) then
      invocation?
        { invocation with
          options := letters.filter (fun c => c != 'c' && c != 'l') ++ invocation.options
          given := invocation.given || letters.contains 'c' } rest
    else none
  | rest => some { invocation with operands := rest }

/-- Start a shell as words say. -/
def launchShell (replacing : Bool) (name : Octets) (args : List Octets) : Step := do
  let refuse (text : String) (status : Nat) : Step := do
    modify fun state => state.write 2 (name ++ octets (": 0: " ++ text ++ "\n"))
    Step.done status
  let state ← get
  match invocation? {} args with
  | none => refuse "Illegal option" 2
  | some ⟨options, true, text :: rest⟩ =>
    go.startShell replacing (rest.headD name) rest.tail options text
  | some ⟨_, true, []⟩ => refuse "-c requires an argument" 2
  | some ⟨options, false, operands⟩ =>
    match operands, options.contains 's' with
    | file :: parameters, false =>
      match if file.isEmpty then .error .notFound else state.world.files.read (state.path file) with
      | .ok content => go.startShell replacing file parameters options (Octets.ofArray content)
      | .error .isDirectory => Step.done 0
      | .error fault =>
        refuse ("cannot open " ++ file.name ++ ": " ++ openingFault .read fault) 2
    | parameters, _ =>
      let text := state.unread 0
      modify (·.skip 0 text.length)
      go.startShell replacing name parameters options text

/-- Run a file as a program: by the program that its first line names, or as commands. -/
def runScript (replacing : Bool) (name : Octets) (location : Location) (args : List Octets) : Step := do
  let text := ((← get).world.content? location).getD []
  match text with
  | '#' :: '!' :: rest =>
    let words := Octets.words (rest.takeWhile (· != '\n'))
    let words := match words with
      | first :: more => if baseName first == "env".toList then more else words
      | [] => words
    match words with
    | [] => go.startShell replacing name args [] text
    | interpreter :: options =>
      let base := String.ofList (baseName interpreter)
      if ["sh", "dash", "bash"].contains base then
        go.launchShell replacing interpreter (options ++ name :: args)
      else
        match outerTools.lookup base with
        | some tool => callTool tool (baseName interpreter) (options ++ name :: args)
        | none =>
          modify fun state => state.complain (name ++ ": not found".toList)
          Step.done 127
  | text => go.startShell replacing name args [] text

/-! ## Commands by name -/

/-- Call a function. -/
def callFunction (place : Place) (body : Command) (args : List Octets) : Step := do
  let state ← get
  set { state with parameters := args, saved := [] :: state.saved, loops := 0 }
  let flow ← go { tested := place.tested } (.command body)
  modify fun after =>
    let restored := (after.saved.headD []).foldl (fun after (name, old) => after.restore name old) after
    { restored with parameters := state.parameters, saved := state.saved, loops := state.loops }
  return if flow == .leave then .next else flow

/-- Run the program that a name leads to, outside of the shell. -/
def runOuter (replacing : Bool) (fuel : Nat) (name : Octets) (args : List Octets) : Step := do
  let state ← get
  match fuel with
  | 0 => Step.done 126
  | fuel + 1 =>
    let run (replacing : Bool) (words : List Octets) : Step :=
      match words with
      | first :: rest => runOuter replacing fuel first rest
      | [] => Step.done 0
    let system (text : Octets) : Step := go.startShell false "sh".toList [] [] text
    if isLauncher state name then
      match String.ofList (baseName name) with
      | "env" => launchWith (run false) args
      | "xargs" => keepingStreams (Batch.launch (run true) args)
      | "find" => launchFinding (run false) args
      | "which" => locatePrograms args
      | "timeout" => launchTimed (run false) args
      | "nice" => launchNice (run false) args
      | "stdbuf" => launchBuffered (run false) args
      | "nohup" => launchAlone 125 (run false) args
      | "setsid" => launchAlone 1 (run false) args
      | "awk" => Records.launch system name args
      | "mawk" => Records.launch system name args
      | _ => go.launchShell replacing name args
    else
      match outerTarget state name with
      | .tool tool => callTool tool name args
      | .script location => go.runScript replacing name location args
      | .forbidden =>
        set (state.complain (name ++ ": Permission denied".toList))
        Step.done 126
      | _ =>
        set (state.complain (name ++ ": not found".toList))
        Step.done 127

/-- Run the commands of a file in this shell. -/
def runFile (args : List Octets) : Step := do
  let state ← get
  match args with
  | [] => Step.done 0
  | file :: _ =>
    let candidates := if file.contains '/' then [file]
      else (searchPath state).map fun dir => if dir.isEmpty then file else dir ++ '/' :: file
    let found := candidates.findSome? fun path =>
      match state.world.files.read (state.path path) with
      | .ok content => some (Octets.ofArray content)
      | .error .isDirectory => if file.contains '/' then some [] else none
      | .error _ => none
    match found with
    | none =>
      if file.contains '/' then Step.refuse "." ("cannot open " ++ file.name ++ ": No such file")
      else Step.refuse "." (file.name ++ ": not found")
    | some text =>
      match ← go {} (.text text) with
      | .leave => return .next
      | flow => return flow

/-- Run a command by its name; functions only if that is wanted. -/
def dispatch (place : Place) (withFunctions : Bool) (fuel : Nat) (name : Octets)
    (args : List Octets) : Step := do
  let state ← get
  match if withFunctions then state.functions.lookup name else none with
  | some body => go.callFunction place body args
  | none =>
    match String.ofList name, fuel with
    | "eval", _ => go place (.text (Octets.spaced args))
    | ".", _ => go.runFile args
    | "exec", _ =>
      match args with
      | [] => Step.done 0
      | first :: rest =>
        match ← go.runOuter true 10 first rest with
        | .next =>
          modify fun state => { state with traps := [] }
          return .exit
        | flow => return flow
    | "type", _ => describeAll true args
    | "hash", _ => checkNames args
    | "command", fuel + 1 =>
      match args with
      | ['-', 'v'] :: names => describeAll false (names.take 1)
      | ['-', 'V'] :: names => describeAll true (names.take 1)
      | ['-', 'p'] :: first :: rest => dispatch place false fuel first rest
      | ['-', '-'] :: first :: rest => dispatch place false fuel first rest
      | ('-' :: c :: _) :: _ => Step.badOption "command" c
      | first :: rest => dispatch place false fuel first rest
      | [] => Step.done 0
    | text, _ =>
      match Builtin.table.lookup text, builtinTools.lookup text with
      | some act, _ => act args
      | none, some tool => callTool tool name args
      | none, none => go.runOuter false 10 name args

/-! ## Simple commands -/

/-- Give variables values, in order. -/
def assignAll (exported : Bool) : List (Octets × Word) → Expander Unit
  | [] => return ()
  | (name, word) :: rest => do
    let value ← Expander.value go.substitute word
    Expander.assign name value
    if exported then modify fun state => state.modifyVar name fun held => { held with exported := true }
    assignAll exported rest

/-- The words that a command stands for.  What some commands assign is not split into fields. -/
def commandWords (words : List Word) : Expander (List Octets) := do
  let run := go.substitute
  match words with
  | [] => return []
  | first :: rest =>
    let head ← Expander.word run first
    let assigning := match head with
      | [name] => ["export", "readonly", "local", "alias"].contains (String.ofList name)
      | _ => false
    let tail ← rest.mapM fun word => do
      match assigning, Reader.assignment? word with
      | true, some (name, value) => return [name ++ '=' :: (← Expander.value run value)]
      | _, _ => Expander.word run word
    return head ++ tail.flatten

/-- Run a command that only assigns. -/
def runAssignments (assignments : List (Octets × Word)) (redirections : List Redirection) : Step := do
  keepingStreams do
    match ← redirect go.substitute redirections with
    | .error .word => return .exit
    | .error .file => return .next
    | .ok () =>
      match ← (go.assignAll false assignments).run with
      | none => return .exit
      | some () =>
        match (← get).signal with
        | some (shell, signal) => return .killed shell signal
        | none => Step.done ((← get).inner.getD 0)

/-- Run a command of the shell that is special: what it assigns lasts, and what it refuses ends the
shell. -/
def runSpecial (place : Place) (assignments : List (Octets × Word)) (name : Octets)
    (args : List Octets) : Step := do
  match ← (go.assignAll false assignments).run with
  | none => return .exit
  | some () =>
    match ← go.dispatch place false 10 name args with
    | .refused => return .exit
    | flow => return flow

/-- Run a command that is not special: what it assigns is for it alone. -/
def runUsual (place : Place) (assignments : List (Octets × Word)) (name : Octets)
    (args : List Octets) : Step := do
  let state ← get
  let kept := assignments.map fun (name, _) => (name, state.vars.lookup name)
  match ← (go.assignAll true assignments).run with
  | none => return .exit
  | some () =>
    let flow ← go.dispatch place true 10 name args
    modify fun after => kept.foldl (fun after (name, old) => after.restore name old) after
    return if flow == .refused then .next else flow

/-- Run a simple command. -/
def runSimple (place : Place) (line : Nat) (assignments : List (Octets × Word))
    (words : List Word) (redirections : List Redirection) : Step := do
  modify fun state => { state with line, inner := none }
  match ← (go.commandWords words).run, (← get).signal with
  | _, some (shell, signal) => return .killed shell signal
  | none, none => return .exit
  | some [], none => go.runAssignments assignments redirections
  | some (name :: args), none =>
    let special := specialNames.contains (String.ofList name)
    let streams := (← get).streams
    let flow ← do
      match ← redirect go.substitute redirections with
      | .error .word => pure Flow.exit
      | .error .file => pure (if special then Flow.exit else .next)
      | .ok () =>
        if special then go.runSpecial place assignments name args
        else go.runUsual place assignments name args
    let lasting := name == "exec".toList && args.isEmpty
    if !lasting then modify fun state => { state with streams }
    go.receive flow

/-! ## Loops and choices -/

/-- How a loop goes on after its body: none when it does. -/
def afterRound : Flow → Option Flow
  | .next => none
  | .nextRound levels => if levels ≤ 1 then none else some (.nextRound (levels - 1))
  | .leaveLoops levels => some (if levels ≤ 1 then .next else .leaveLoops (levels - 1))
  | flow => some flow

/-- Run the rounds of a loop with a condition, at most so many. -/
def runRounds (place : Place) (untilHolds : Bool) (condition body : List Chain) :
    Nat → Nat → Step
  | 0, status => Step.done status
  | rounds + 1, status => do
    match afterRound (← go { tested := true } (.chains condition)) with
    | some flow => return flow
    | none =>
      if ((← get).status == 0) == untilHolds then Step.done status
      else
        match afterRound (← go place (.chains body)) with
        | some flow => return flow
        | none => runRounds place untilHolds condition body rounds (← get).status

/-- Run the rounds of a loop over values. -/
def runEach (place : Place) (name : Octets) (body : List Chain) : List Octets → Step
  | [] => return .next
  | value :: rest => do
    match ← (Expander.assign name value).run with
    | none => return .exit
    | some () =>
      match afterRound (← go place (.chains body)) with
      | some flow => return flow
      | none => runEach place name body rest

/-- Run a loop, one level deeper. -/
def inLoop (act : Step) : Step := do
  let loops := (← get).loops
  modify fun state => { state with loops := loops + 1 }
  let flow ← act
  modify fun state => { state with loops }
  return flow

/-- The most rounds of a loop. -/
def maxRounds : Nat := 1000000

/-- Run the first branch whose condition holds. -/
def runChoice (place : Place) (otherwise : List Chain) : List (List Chain × List Chain) → Step
  | [] => if otherwise.isEmpty then Step.done 0 else go place (.chains otherwise)
  | (condition, body) :: rest => do
    match ← go { tested := true } (.chains condition) with
    | .next => if (← get).status = 0 then go place (.chains body) else runChoice place otherwise rest
    | flow => return flow

/-- Whether a text fits one of some patterns. -/
def fitsAny (text : Octets) : List Word → Expander Bool
  | [] => return false
  | word :: rest => do
    if Pattern.fits (← Expander.pattern go.substitute word) text then return true
    else fitsAny text rest

/-- Run the first case that fits. -/
def runSelect (place : Place) (text : Octets) : List (List Word × List Chain) → Step
  | [] => Step.done 0
  | (patterns, body) :: rest => do
    match ← (go.fitsAny text patterns).run with
    | none => return .exit
    | some false => runSelect place text rest
    | some true => if body.isEmpty then Step.done 0 else go place (.chains body)

/-! ## Commands and chains -/

/-- Run a command. -/
def runCommand (place : Place) : Command → Step
  | .simple line assignments words redirections =>
    checkFailure place (go.runSimple place line assignments words redirections)
  | .group body => go place (.chains body)
  | .subshell body =>
    checkFailure place (go.inSubshell id (go { tested := place.tested } (.chains body)))
  | .choice branches otherwise => go.runChoice place otherwise branches
  | .loop untilHolds condition body =>
    inLoop (go.runRounds { tested := place.tested } untilHolds condition body maxRounds 0)
  | .each name words body => do
    let values? ← match words with
      | none => pure (some (← get).parameters)
      | some words => (Expander.words go.substitute words).run
    match values? with
    | none => return .exit
    | some values =>
      modify fun state => { state with status := 0 }
      inLoop (go.runEach { tested := place.tested } name body values)
  | .select word cases => do
    match ← (Expander.text go.substitute word).run with
    | none => return .exit
    | some text => go.runSelect place text cases
  | .define name body => do
    modify fun state =>
      { state with functions := (name, body) :: state.functions.filter (·.1 != name) }
    Step.done 0
  | .redirected command redirections =>
    keepingStreams do
      match ← redirect go.substitute redirections with
      | .error .word => return .exit
      | .error .file => return .next
      | .ok () => go { tested := place.tested } (.command command)

/-- Run the commands of a longer pipeline; the first reads from a channel if one is given. -/
def runPiped (place : Place) : List Command → Option Nat → Step
  | [], _ => return .next
  | command :: rest, input => do
    let state ← get
    let output := if rest.isEmpty then none else some state.world.channels.size
    if output.isSome then set { state with world := (state.world.add (.memory [])).2 }
    let change (state : State) : State :=
      let state := (input.map (state.connect 0)).getD state
      (output.map (state.connect 1)).getD state
    match ← go.inSubshell change (go { tested := place.tested } (.command command)) with
    | .next => runPiped place rest output
    | flow => return flow

/-- Run a pipeline. -/
def runPipeline (place : Place) : Pipeline → Step
  | .mk negated commands => do
    let inner : Place := if negated then { tested := true } else place
    let flow ← match commands with
      | [command] => go inner (.command command)
      | commands => checkFailure inner (go.runPiped inner commands none)
    if negated && flow == .next then
      Step.done (if (← get).status = 0 then 1 else 0)
    else return flow

/-- Run the pipelines that depend on the one before. -/
def runDependent (place : Place) : List (Bool × Pipeline) → Step
  | [] => return .next
  | (onSuccess, pipeline) :: rest => do
    if ((← get).status == 0) == onSuccess then
      match ← go.runPipeline (if rest.isEmpty then place else { tested := true }) pipeline with
      | .next => runDependent place rest
      | flow => return flow
    else runDependent place rest

/-- Run a chain that is waited for. -/
def runWaited (place : Place) (first : Pipeline) (rest : List (Bool × Pipeline)) : Step := do
  match ← go.runPipeline (if rest.isEmpty then place else { tested := true }) first with
  | .next => go.runDependent place rest
  | flow => return flow

/-- Run a chain. -/
def runChain (place : Place) : Chain → Step
  | .mk first rest background => do
    if !background then go.runWaited place first rest
    else
      match ← go.apart (·.connectNew 0 .nothing) (go.runWaited {} first rest) with
      | (.killed shell signal, _) => go.receive (.killed shell signal)
      | (_, after) =>
        modify fun state => { state with jobs := state.jobs ++ [after.status % 256] }
        Step.done 0

/-- Run chains one after another. -/
def runChains (place : Place) : List Chain → Step
  | [] => return .next
  | chain :: rest => do
    match ← go.runChain place chain with
    | .next => runChains place rest
    | flow => return flow

/-- Run a text line by line; a line that cannot be read ends the shell.  A text without commands
succeeds. -/
def runText (place : Place) : Nat → Bool → Source → Step
  | 0, _, _ => return .next
  | lines + 1, ran, source => do
    if source.rest.isEmpty then
      if ran then return .next else Step.done 0
    else
      let source := { source with aliases := (← get).aliases, replaced := [] }
      match Reader.readLine.run source with
      | none =>
        modify fun state => { state.complain "Syntax error".toList with status := 2 }
        return .exit
      | some (chains, after) =>
        if chains.isEmpty then runText place lines ran after
        else
          match ← go place (.chains chains) with
          | .next => runText place lines true after
          | flow => return flow

/-- Run a task, with a runner for what is inside. -/
def step (place : Place) : Task → Step
  | .chains chains => go.runChains place chains
  | .command command => do
    if (← get).options.contains 'n' then return .next else go.runCommand place command
  | .text text => go.runText place (text.length + 1) false { rest := text }

end Runner

/-- Run a task, at most so deep. -/
def perform : Nat → Runner
  | 0 => fun _ _ => do
    modify fun state => { state with status := 2 }
    return .exit
  | depth + 1 => Runner.step (perform depth)

end SiteScript.Rehearsal.Shell
