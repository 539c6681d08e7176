import SiteScript.Project
import SiteScript.Run

/-!
# SiteScript.CommandLine

The commands of the program and how they are asked for.

```
tontoo [OPTIONS] run BUNDLE
tontoo [OPTIONS] build [--project DIR]
tontoo [OPTIONS] dev [--project DIR]
tontoo [OPTIONS] info
```

`items` takes arguments apart by their shape alone, `parse?` gives them a meaning, and `execute` does
what was asked.  Arguments without a meaning end the program with status 2, a failure ends it with
status 1.
-/

namespace SiteScript.CommandLine

/-! ## Arguments -/

/-- The options, under their long names. -/
inductive Switch where
  | help | version | verbose | logJson | project | unknown
deriving DecidableEq

/-- The option with a long name. -/
def Switch.ofName (name : String) : Switch :=
  match name with
  | "help" => .help
  | "version" => .version
  | "verbose" => .verbose
  | "log-json" => .logJson
  | "project" => .project
  | _ => .unknown

/-- The option with a letter. -/
def Switch.ofLetter (letter : Char) : Switch :=
  match letter with
  | 'h' => .help
  | 'V' => .version
  | 'v' => .verbose
  | 'p' => .project
  | _ => .unknown

/-- An argument by its shape. -/
inductive Item where
  /-- An option, with the value written together with it. -/
  | option (switch : Switch) (value : Option String)
  | word (text : String)
  /-- The mark after which every argument is a word. -/
  | onlyWords
deriving DecidableEq

/-- Letters in one argument: an option with a value takes all that follows it, without an equals
sign. -/
def letterItems : List Char → List Item
  | [] => []
  | letter :: rest =>
    match Switch.ofLetter letter, rest with
    | .project, [] => [.option .project none]
    | .project, '=' :: value => [.option .project (some (String.ofList value))]
    | .project, value => [.option .project (some (String.ofList value))]
    | switch, rest => .option switch none :: letterItems rest

/-- A long option, with or without a value. -/
def longItem (text : List Char) : Item :=
  match Text.cut? '=' text with
  | some (name, value) => .option (.ofName (String.ofList name)) (some (String.ofList value))
  | none => .option (.ofName (String.ofList text)) none

/-- The arguments by their shape.  A single dash is a word. -/
def items : List String → List Item
  | [] => []
  | arg :: args =>
    match arg.toList with
    | ['-', '-'] => .onlyWords :: args.map .word
    | '-' :: '-' :: text => longItem text :: items args
    | ['-'] => .word arg :: items args
    | '-' :: letters => letterItems letters ++ items args
    | _ => .word arg :: items args

/-! ## Meaning -/

/-- The names of the commands. -/
inductive Verb where
  | run | build | dev | info
deriving DecidableEq

/-- The command with a name. -/
def Verb.ofName? (name : String) : Option Verb :=
  match name with
  | "run" => some .run
  | "build" => some .build
  | "dev" => some .dev
  | "info" => some .info
  | _ => none

/-- What is to be done. -/
inductive Command where
  | run (bundle : String)
  | build (project : String)
  /-- Build in memory and run. -/
  | dev (project : String)
  | info
deriving DecidableEq

/-- What help can be asked for. -/
inductive Topic where
  | program
  | command (verb : Verb)
  | help
deriving DecidableEq

/-- What the arguments ask for. -/
inductive Invocation where
  | help (topic : Topic)
  | version
  | command (command : Command)
deriving DecidableEq

/-- The path of what is to be worked on. -/
def Invocation.path? : Invocation → Option String
  | .command (.run bundle) => some bundle
  | .command (.build project) => some project
  | .command (.dev project) => some project
  | _ => none

/-- What was given so far.  Nothing may be given twice at one level. -/
structure Given where
  verbose : Bool := false
  logJson : Bool := false
  project : Option String := none
  bundle : Option String := none
deriving DecidableEq

namespace Given

/-- Take an option without a value. -/
def flag? (given : Given) (switch : Switch) : Option Given :=
  match switch with
  | .verbose => if given.verbose then none else some { given with verbose := true }
  | .logJson => if given.logJson then none else some { given with logJson := true }
  | _ => none

/-- Take the directory of the project; the commands that have one are `build` and `dev`. -/
def project? (given : Given) (verb : Verb) (value : String) : Option Given :=
  if (verb = .build ∨ verb = .dev) ∧ given.project = none ∧ value ≠ "" then
    some { given with project := some value }
  else none

/-- Take a word, which only `run` has a use for. -/
def word? (given : Given) (verb : Verb) (text : String) : Option Given :=
  if verb = .run ∧ given.bundle = none ∧ text ≠ "" then some { given with bundle := some text }
  else none

/-- The command, if nothing is missing. -/
def command? (given : Given) : Verb → Option Command
  | .run => given.bundle.map .run
  | .build => some (.build (given.project.getD "."))
  | .dev => some (.dev (given.project.getD "."))
  | .info => some .info

end Given

/-- The meaning of what follows the name of a command. -/
def parseCommand? (verb : Verb) (given : Given) : List Item → Option Invocation
  | [] => (given.command? verb).map .command
  | .onlyWords :: rest => parseCommand? verb given rest
  | .option .help none :: _ => some (.help (.command verb))
  | .option .project (some value) :: rest =>
    (given.project? verb value).bind fun given => parseCommand? verb given rest
  | .option .project none :: .word value :: rest =>
    (given.project? verb value).bind fun given => parseCommand? verb given rest
  | .option switch none :: rest =>
    (given.flag? switch).bind fun given => parseCommand? verb given rest
  | .option _ (some _) :: _ => none
  | .word text :: rest =>
    (given.word? verb text).bind fun given => parseCommand? verb given rest

/-- What help is asked for by the words after `help`. -/
def topic? : List Item → Option Topic
  | [] => some .program
  | [.word "help"] => some .help
  | [.word name] => (Verb.ofName? name).map .command
  | _ => none

/-- The meaning of items. -/
def parseItems? (given : Given) : List Item → Option Invocation
  | .option .help none :: _ => some (.help .program)
  | .option .version none :: _ => some .version
  | .option switch none :: rest => (given.flag? switch).bind fun given => parseItems? given rest
  | .word "help" :: rest => (topic? rest).map .help
  | .word name :: rest => (Verb.ofName? name).bind fun verb => parseCommand? verb {} rest
  | _ => none

/-- The meaning of the arguments, if they have one. -/
def parse? (args : List String) : Option Invocation := parseItems? {} (items args)

/-! ## Texts -/

/-- The version of the program. -/
def versionNumber : String := "1.9.0"

/-- What the program says about its version. -/
def versionText : String := "tontoo " ++ versionNumber ++ "\n"

/-- What the program says about itself. -/
def infoText : String := "Tontoo v" ++ versionNumber ++ "\n"

/-- What a command is for. -/
def Verb.about : Verb → String
  | .run => "Run a built .tontoo bundle"
  | .build => "Build the project into build/<name>.tontoo"
  | .dev => "Build in memory and run straight away"
  | .info => "Show version information"

/-- The options of a command that has no option of its own. -/
def commonOptions : String :=
  "Options:\n" ++
  "  -v, --verbose   Enable verbose logging\n" ++
  "      --log-json  Emit logs as JSON lines\n" ++
  "  -h, --help      Print help\n"

/-- The options of a command on a project. -/
def projectOptions : String :=
  "Options:\n" ++
  "  -p, --project <PROJECT>  Project directory [default: .]\n" ++
  "  -v, --verbose            Enable verbose logging\n" ++
  "      --log-json           Emit logs as JSON lines\n" ++
  "  -h, --help               Print help\n"

/-- How a command is used. -/
def Verb.usage : Verb → String
  | .run =>
    "Usage: tontoo run [OPTIONS] <BUNDLE>\n\nArguments:\n  <BUNDLE>  Path to the bundle\n\n" ++
      commonOptions
  | .build => "Usage: tontoo build [OPTIONS]\n\n" ++ projectOptions
  | .dev => "Usage: tontoo dev [OPTIONS]\n\n" ++ projectOptions
  | .info => "Usage: tontoo info [OPTIONS]\n\n" ++ commonOptions

/-- The help on a topic. -/
def Topic.text : Topic → String
  | .program =>
    "Build and run Tontoo project bundles\n\nUsage: tontoo [OPTIONS] <COMMAND>\n\nCommands:\n" ++
      "  run    " ++ Verb.run.about ++ "\n" ++
      "  build  " ++ Verb.build.about ++ "\n" ++
      "  dev    " ++ Verb.dev.about ++ "\n" ++
      "  info   " ++ Verb.info.about ++ "\n" ++
      "  help   Print this message or the help of the given subcommand(s)\n\n" ++
      commonOptions ++ "  -V, --version   Print version\n"
  | .command verb => verb.about ++ "\n\n" ++ verb.usage
  | .help =>
    "Print this message or the help of the given subcommand(s)\n\n" ++
      "Usage: tontoo help [COMMAND]...\n\nArguments:\n" ++
      "  [COMMAND]...  Print help for the subcommand(s)\n"

/-! ## Doing it -/

/-- Where the program is started. -/
structure Setting where
  host : Run.Host
  workingDir : Location
  /-- The vectors for the bundles that are sealed. -/
  vectors : Bytes × Bytes

/-- How the program ends. -/
structure Outcome where
  status : Nat
  output : Bytes := []
  log : List LogLine := []
  files : FileSystem

/-- The status of a failure. -/
def failureStatus : Nat := 1

/-- The status of arguments without a meaning. -/
def usageStatus : Nat := 2

variable (setting : Setting)

/-- End well, with a text. -/
def endWith (text : String) : Outcome :=
  { status := 0, output := Bytes.ofText text, files := setting.host.files }

/-- End with a failure, which is reported last. -/
def endFailed (files : FileSystem) (log : List LogLine) (message : String) : Outcome :=
  { status := failureStatus, log := log ++ [.error message], files }

/-- What a build says about its results. -/
def buildText (output : Project.Output) : String :=
  "\nBuild successful: " ++ output.bundle ++ "\nDistributable:    " ++ output.distributable ++
    "\nSource archive:   " ++ output.archive ++ "\n"

/-- Build a project. -/
def build (root : String) : Outcome :=
  match Project.build ⟨setting.workingDir, root⟩ setting.host.files setting.vectors with
  | (.error error, log, files) => endFailed files log error.message
  | (.ok output, log, files) =>
    { status := 0, output := Bytes.ofText (buildText output), log, files }

/-- Run a bundle to its end, after some reports. -/
def runBundle (log : List LogLine) (bundle : Bytes) (config : RunConfig) : Outcome :=
  match Run.toEnd setting.host bundle config with
  | (.error error, none) => endFailed setting.host.files log error.message
  | (.error error, some context) =>
    { endFailed context.files (log ++ context.log) error.message with output := context.output }
  | (.ok (), none) => { status := 0, log, files := setting.host.files }
  | (.ok (), some context) =>
    { status := 0, output := context.output, log := log ++ context.log, files := context.files }

/-- Run the bundle in a file. -/
def run (file : String) : Outcome :=
  match setting.host.files.read (.ofText setting.workingDir file) with
  | .error _ => endFailed setting.host.files [] ("Bundle not found: " ++ Text.quoted file)
  | .ok content =>
    runBundle setting [.info ("Running " ++ Text.quoted file)] (Bytes.ofArray content) {}

/-- Build a project in memory and run it. -/
def dev (root : String) : Outcome :=
  let begun := LogLine.info "Starting Development-Build-process..."
  match Project.check ⟨setting.workingDir, root⟩ setting.host.files with
  | (.error error, log) => endFailed setting.host.files (begun :: log) error.message
  | (.ok checked, log) =>
    let log := begun :: log ++ [.info "Build successfully started in Dev Mode..."]
    runBundle setting log (Bundle.encode setting.vectors.1 checked.files)
      { mainFile := some checked.manifest.main }

/-- Do what is asked for. -/
def Invocation.perform (setting : Setting) : Invocation → Outcome
  | .help topic => endWith setting topic.text
  | .version => endWith setting versionText
  | .command (.run bundle) => CommandLine.run setting bundle
  | .command (.build project) => CommandLine.build setting project
  | .command (.dev project) => CommandLine.dev setting project
  | .command .info => endWith setting infoText

/-- Do what the arguments ask for. -/
def execute (setting : Setting) (args : List String) : Outcome :=
  match parse? args with
  | some invocation => invocation.perform setting
  | none => { status := usageStatus, files := setting.host.files }

end SiteScript.CommandLine
