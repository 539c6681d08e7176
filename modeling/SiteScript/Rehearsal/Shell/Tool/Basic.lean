import SiteScript.FileSystem.Calls
import SiteScript.Rehearsal.Shell.Octets

/-!
# SiteScript.Rehearsal.Shell.Tool.Basic

What programs are given and what they do.  A program gets words and its input (`Call`); it writes,
changes files and leaves a status (`Effect`).  `OptionSpec.read` sorts words into options and operands.
-/

namespace SiteScript.Rehearsal.Shell

/-- What a program is called with. -/
structure Call where
  files : FileSystem
  /-- The directory that relative paths begin at. -/
  dir : Location
  /-- The name that the program was called by. -/
  name : String
  args : List Octets
  /-- What can be read from the standard input. -/
  input : Octets := []
  /-- The size of the file that the input comes from, if it comes from one. -/
  inputSize : Option Nat := none
  /-- Whether the standard input cannot be read, as one that leads to a directory. -/
  inputIsBroken : Bool := false
  environment : List (Octets × Octets) := []
  /-- The rights that new files lack. -/
  mask : Nat := 0o022

/-- What a program does. -/
structure Effect where
  files : FileSystem
  /-- What is written, in order, with the number of the stream. -/
  written : List (Nat × Octets) := []
  status : Nat := 0
  /-- How much of the input was read. -/
  taken : Nat := 0

/-- A program. -/
abbrev Tool := Call → Effect

namespace Effect

variable (effect : Effect)

/-- Write to the output. -/
def say (text : Octets) : Effect :=
  if text.isEmpty then effect else { effect with written := effect.written ++ [(1, text)] }

/-- Tell about a mistake, with a status. -/
def complainWith (status : Nat) (text : String) : Effect :=
  { effect with written := effect.written ++ [(2, octets text ++ ['\n'])], status }

/-- Tell about a mistake. -/
def complain (text : String) : Effect := effect.complainWith 1 text

/-- Change the files, or tell why that cannot be done. -/
def attempt (change : Except FileFault FileSystem) (mistake : FileFault → String) : Effect :=
  match change with
  | .ok files => { effect with files }
  | .error fault => effect.complain (mistake fault)

end Effect

/-- The wording of a fault in what programs tell. -/
def faultText : FileFault → String
  | .notFound => "No such file or directory"
  | .alreadyExists => "File exists"
  | .notDirectory => "Not a directory"
  | .isDirectory => "Is a directory"
  | .invalidArgument => "Invalid argument"
  | .nameTooLong => "File name too long"
  | .notEmpty => "Directory not empty"
  | .tooManyLinks => "Too many levels of symbolic links"
  | .notPermitted => "Operation not permitted"
  | fault => fault.message

namespace Call

variable (call : Call)

/-- The effect of doing nothing. -/
def start : Effect := { files := call.files }

/-- The path that a text names. -/
def path (text : Octets) : Path := .ofText call.dir text.name

/-- What a text names. -/
def stat (files : FileSystem) (text : Octets) : Except FileFault Entry :=
  if text.isEmpty then .error .notFound else files.stat (call.path text)

/-- What a text names, which may be a link. -/
def linkStat (files : FileSystem) (text : Octets) : Except FileFault Entry :=
  if text.isEmpty then .error .notFound else files.linkStat (call.path text)

/-- Whether a text names a directory. -/
def isDirectory (files : FileSystem) (text : Octets) : Bool :=
  match call.stat files text with
  | .ok .directory => true
  | _ => false

/-- The content of the file that a text names. -/
def read (files : FileSystem) (text : Octets) : Except FileFault Octets :=
  if text.isEmpty then .error .notFound else (files.read (call.path text)).map Octets.ofArray

/-- Write the file that a text names. -/
def write (files : FileSystem) (text content : Octets) : Except FileFault FileSystem :=
  if text.isEmpty then .error .notFound else files.write (call.path text) (Octets.toArray content)

end Call

/-- Whether a mode lets anybody run a file as a program. -/
def isExecutable (mode : Nat) : Bool := mode % 2 = 1 || mode / 8 % 2 = 1 || mode / 64 % 2 = 1

/-- A word in quotes, as programs tell about it. -/
def inQuotes (text : Octets) : String := "\x27" ++ text.name ++ "\x27"

/-- Put text into a line about a mistake. -/
def mistake (name : String) (what : Octets) (fault : FileFault) : String :=
  name ++ ": " ++ what.name ++ ": " ++ faultText fault

/-! ## Options -/

/-- The options and the operands of a call. -/
structure Options where
  /-- The letters that were given, each with its value. -/
  given : List (Char × Octets) := []
  operands : List Octets := []

namespace Options

/-- Whether an option was given. -/
def has (options : Options) (letter : Char) : Bool := options.given.any (·.1 == letter)

/-- The last value of an option. -/
def value? (options : Options) (letter : Char) : Option Octets :=
  (options.given.reverse.lookup letter)

/-- Whether an option was given, and none of some others after it. -/
def prevails (options : Options) (letter : Char) (others : List Char) : Bool :=
  (options.given.reverse.find? fun entry => entry.1 == letter || others.contains entry.1).any
    (·.1 == letter)

end Options

/-- Which options a program knows. -/
structure OptionSpec where
  /-- The letters of options without a value. -/
  flags : String
  /-- The letters of options with a value. -/
  valued : String := ""
  /-- The letters of options that may have a value behind them. -/
  optional : String := ""
  /-- Long names of options. -/
  long : List (String × Char) := []
  /-- Whether options may also follow operands. -/
  anywhere : Bool := true

/-- The options that a word gives: letters with their values, and a letter whose value is the next
word.  An error words what is wrong. -/
abbrev Given := Except String (List (Char × Octets) × Option Char)

/-- The options in a word after its dash. -/
def OptionSpec.cluster (spec : OptionSpec) : Octets → Given
  | [] => .ok ([], none)
  | c :: rest =>
    if spec.valued.contains c then
      if rest.isEmpty then .ok ([], some c) else .ok ([(c, rest)], none)
    else if spec.optional.contains c then .ok ([(c, rest)], none)
    else if spec.flags.contains c then
      (spec.cluster rest).map fun (more, waiting) => ((c, []) :: more, waiting)
    else .error ("invalid option -- " ++ inQuotes [c])

/-- The letter that a long name stands for.  The beginning of a name is enough if it can mean nothing
else. -/
def OptionSpec.longLetter? (spec : OptionSpec) (key : Octets) : Option Char :=
  match spec.long.lookup (String.ofList key) with
  | some letter => some letter
  | none =>
    match spec.long.filter fun (name, _) => key.isPrefixOf name.toList with
    | (_, letter) :: rest => if rest.all (·.2 == letter) then some letter else none
    | [] => none

/-- The option that a long name stands for. -/
def OptionSpec.longOption (spec : OptionSpec) (name : Octets) : Given :=
  let key := name.takeWhile (· != '=')
  let value? := (Text.cut? '=' name).map (·.2)
  match spec.longLetter? key with
  | none => .error ("unrecognized option " ++ inQuotes ('-' :: '-' :: name))
  | some letter =>
    match spec.valued.contains letter, value? with
    | true, some value => .ok ([(letter, value)], none)
    | true, none => .ok ([], some letter)
    | false, _ => .ok ([(letter, value?.getD [])], none)

/-- Sort words into options and operands. -/
def OptionSpec.read (spec : OptionSpec) (waiting : Option Char) :
    List Octets → Except String Options
  | [] =>
    match waiting with
    | some letter => .error ("option requires an argument -- " ++ inQuotes [letter])
    | none => .ok {}
  | arg :: rest =>
    let add (found : Given) : Except String Options := do
      let (given, waiting) ← found
      let options ← spec.read waiting rest
      return { options with given := given ++ options.given }
    match waiting with
    | some letter => add (.ok ([(letter, arg)], none))
    | none =>
      match arg with
      | ['-', '-'] => .ok { operands := rest }
      | '-' :: '-' :: name => add (spec.longOption name)
      | '-' :: c :: cs => add (spec.cluster (c :: cs))
      | _ =>
        if spec.anywhere then
          (spec.read none rest).map fun options =>
            { options with operands := arg :: options.operands }
        else .ok { operands := arg :: rest }

/-- Refuse a call, and tell where more is to be read. -/
def Call.refuse (call : Call) (status : Nat) (what : String) : Effect :=
  call.start.complainWith status (call.name ++ ": " ++ what ++ "\nTry \x27" ++ call.name ++
    " --help\x27 for more information.")

/-- Refuse a call for a word that is missing or cannot be understood. -/
def Call.lacking (call : Call) (what : String) : Effect := call.refuse 1 what

/-- Sort the words of a call, and go on with them. -/
def Call.withOptions (call : Call) (spec : OptionSpec) (status : Nat)
    (go : Options → Effect) : Effect :=
  match spec.read none call.args with
  | .ok options => go options
  | .error what => call.refuse status what

/-! ## Inputs -/

/-- Ask a question, and read a line of the input as the answer.  Gives whether it is a yes. -/
def Call.ask (call : Call) (effect : Effect) (question : String) : Bool × Effect :=
  let rest := call.input.drop effect.taken
  let line := rest.takeWhile (· != '\n')
  ((line.head?.any fun c => c == 'y' || c == 'Y'),
    { effect with
      written := effect.written ++ [(2, octets (call.name ++ ": " ++ question ++ "? "))]
      taken := effect.taken + min rest.length (line.length + 1) })

/-- Whether an operand stands for the input. -/
def isInput (operand : Octets) : Bool := operand == ['-'] || operand == "/dev/stdin".toList

/-- The contents of the files that operands name, or of the input if there are none.  A dash stands for
the input, which can be read once. -/
def Call.contents (call : Call) (operands : List Octets) :
    List (Octets × Except FileFault Octets) :=
  let operands := if operands.isEmpty then [['-']] else operands
  let first := operands.findIdx isInput
  operands.zipIdx.map fun (operand, i) =>
    if isInput operand then
      (operand, if call.inputIsBroken then .error .isDirectory
        else .ok (if i = first then call.input else []))
    else (operand, call.read call.files operand)

/-- How much of the input a program takes that reads these operands. -/
def Call.inputTaken (call : Call) (operands : List Octets) : Nat :=
  if operands.isEmpty || operands.any isInput then call.input.length else 0

/-- The joined content of operands, after telling about those that cannot be read. -/
def Call.joined (call : Call) (operands : List Octets) (status : Nat) : Octets × Effect :=
  let start := { call.start with taken := call.inputTaken operands }
  (call.contents operands).foldl (fun (text, effect) (operand, content) =>
    match content with
    | .ok more => (text ++ more, effect)
    | .error fault => (text, effect.complainWith status (mistake call.name operand fault))) ([], start)

end SiteScript.Rehearsal.Shell
