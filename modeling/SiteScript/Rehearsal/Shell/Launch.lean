import SiteScript.Rehearsal.Shell.Builtin
import SiteScript.Rehearsal.Shell.Expansion
import SiteScript.Rehearsal.Shell.Tool.Blocks
import SiteScript.Rehearsal.Shell.Tool.Calculate
import SiteScript.Rehearsal.Shell.Tool.Calendar
import SiteScript.Rehearsal.Shell.Tool.Chars
import SiteScript.Rehearsal.Shell.Tool.Compare
import SiteScript.Rehearsal.Shell.Tool.Digests
import SiteScript.Rehearsal.Shell.Tool.Dump
import SiteScript.Rehearsal.Shell.Tool.Edit
import SiteScript.Rehearsal.Shell.Tool.Ends
import SiteScript.Rehearsal.Shell.Tool.Filling
import SiteScript.Rehearsal.Shell.Tool.Letters
import SiteScript.Rehearsal.Shell.Tool.Lines
import SiteScript.Rehearsal.Shell.Tool.Listing
import SiteScript.Rehearsal.Shell.Tool.Names
import SiteScript.Rehearsal.Shell.Tool.Order
import SiteScript.Rehearsal.Shell.Tool.Copying
import SiteScript.Rehearsal.Shell.Tool.Print
import SiteScript.Rehearsal.Shell.Tool.Search
import SiteScript.Rehearsal.Shell.Tool.Sections
import SiteScript.Rehearsal.Shell.Tool.Sequence
import SiteScript.Rehearsal.Shell.Tool.Sorting
import SiteScript.Rehearsal.Shell.Tool.Test

/-!
# SiteScript.Rehearsal.Shell.Launch

What a command name leads to, how the streams of a command are set, and how a program is called.

The programs are listed by name: some are part of the shell itself (`builtinTools`), and the others stand
in the directories that programs are looked for in (`outerTools`).
-/

namespace SiteScript.Rehearsal.Shell

/-! ## The catalogue -/

/-- The programs that are part of the shell. -/
def builtinTools : List (String × Tool) :=
  [("echo", echo), ("printf", printf), ("test", test), ("[", test)]

/-- The programs that are not part of the shell. -/
def outerTools : List (String × Tool) :=
  [("echo", writeWords)] ++ builtinTools ++
  [("true", idle 0), ("false", idle 1), ("sleep", sleep), ("sync", idle 0),
    ("mkdir", makeDirectories), ("touch", touch), ("rm", remove), ("rmdir", removeDirectories),
    ("cp", copy), ("mv", move), ("ln", makeLinks), ("link", addOneName), ("install", install),
    ("chmod", changeMode), ("ls", list), ("dir", list), ("vdir", list), ("readlink", readLinks),
    ("stat", fileStatus), ("pwd", currentDirectory),
    ("cat", concatenate), ("head", head), ("tail", tail), ("wc", count), ("sort", sort),
    ("uniq", unique), ("tr", translate), ("cut", cut), ("tac", reverseLines), ("rev", reverseChars),
    ("nl", numberLines), ("split", split), ("csplit", writeSections), ("comm", commonLines),
    ("join", join), ("fold", fold), ("expand", expand),
    ("unexpand", unexpand), ("paste", paste), ("tee", tee), ("seq", sequence),
    ("basename", lastNames), ("dirname", parentPaths), ("realpath", realPaths),
    ("printenv", environmentValues), ("whoami", accountName), ("uname", systemName),
    ("unlink", unlink), ("truncate", truncate),
    ("grep", search), ("egrep", search), ("fgrep", search), ("sed", edit),
    ("expr", calculate), ("cmp", sameBytes), ("diff", differences), ("od", dump),
    ("md5sum", digests "MD5"), ("sha1sum", digests "SHA1"), ("sha224sum", digests "SHA224"),
    ("sha256sum", digests "SHA256"), ("sha384sum", digests "SHA384"),
    ("sha512sum", digests "SHA512"), ("cksum", remainders), ("sum", sums),
    ("base64", lettersOf "base64"), ("base32", lettersOf "base32"), ("basenc", lettersOfAny),
    ("id", identity), ("groups", groupNames), ("logname", loginName), ("tty", terminalName),
    ("arch", machineName), ("chown", giveAway), ("chgrp", giveAway), ("tsort", sortNames),
    ("factor", factors), ("shuf", shuffle), ("yes", repeatLine), ("fmt", fill), ("dd", copyBlocks),
    ("date", tellDate)]

/-! ## Streams -/

/-- The wording of a fault when a file is opened. -/
def openingFault (opening : Opening) (fault : FileFault) : String :=
  match opening, fault with
  | .read, .notFound => "No such file"
  | _, .notFound => "Directory nonexistent"
  | _, fault => faultText fault

/-- Why the streams of a command could not be set. -/
inductive Unset where
  /-- A file cannot be opened. -/
  | file
  /-- A word stands for nothing. -/
  | word
deriving DecidableEq

/-- Tell why a stream cannot be set. -/
def refuseStream (text : Octets) : StateM State (Except Unset Unit) := do
  modify fun state => { state.complain text with status := 2 }
  return .error .file

/-- Let a stream lead to the file with a name. -/
def openStream (stream : Nat) (opening : Opening) (name : Octets) :
    StateM State (Except Unset Unit) := do
  let state ← get
  match (State.deviceStream? name).bind (state.streams.lookup ·) with
  | some channel =>
    set (state.connect stream channel)
    return .ok ()
  | none =>
    match state.openFile opening name with
    | .ok (channel, files) =>
      set ((state.withFiles files).connectNew stream channel)
      return .ok ()
    | .error fault =>
      let what := if opening == .read then "cannot open " else "cannot create "
      refuseStream (what.toList ++ name ++ (": " ++ openingFault opening fault).toList)

/-- Let a stream lead to where another one leads, or close it. -/
def copyStream (stream : Nat) (name : Octets) : StateM State (Except Unset Unit) := do
  let state ← get
  match name, Decimal.ofDigits? name with
  | ['-'], _ =>
    set (state.close stream)
    return .ok ()
  | _, some other =>
    match state.streams.lookup other with
    | some channel =>
      set (state.connect stream channel)
      return .ok ()
    | none => refuseStream (name ++ ": Bad file descriptor".toList)
  | _, none =>
    let _ ← refuseStream "Bad fd number".toList
    return .error .word

/-- Set a stream. -/
def redirectOne (run : List Chain → StateM State Octets) :
    Redirection → StateM State (Except Unset Unit)
  | .file stream opening word => do
    match ← (Expander.text run word).run with
    | some name => openStream stream opening name
    | none => return .error .word
  | .same stream word => do
    match ← (Expander.text run word).run with
    | some name => copyStream stream name
    | none => return .error .word
  | .text stream pieces => do
    match ← (Expander.quotedText run pieces).run with
    | some text =>
      modify (·.connectNew stream (.memory text))
      return .ok ()
    | none => return .error .word

/-- Set streams from left to right. -/
def redirect (run : List Chain → StateM State Octets) :
    List Redirection → StateM State (Except Unset Unit)
  | [] => return .ok ()
  | redirection :: rest => do
    match ← redirectOne run redirection with
    | .ok () => redirect run rest
    | .error unset => return .error unset

/-- Do something, and let the streams lead where they led before. -/
def keepingStreams {α : Type} (act : StateM State α) : StateM State α := do
  let streams := (← get).streams
  let result ← act
  modify fun state => { state with streams }
  return result

/-! ## Programs -/

/-- What a command name leads to. -/
inductive Target where
  /-- A command of the shell, which may be special. -/
  | builtin (act : List Octets → Step)
  | function (body : Command)
  | tool (tool : Tool)
  /-- A file with commands. -/
  | script (location : Location)
  /-- A file that cannot be run. -/
  | forbidden
  | missing

/-- The directories in which the programs stand. -/
def programDirectories : List Octets :=
  ["/usr/bin", "/bin"].map String.toList

/-- The programs that run commands themselves. -/
def launcherNames : List String :=
  ["sh", "dash", "bash", "env", "xargs", "find", "nohup", "nice", "setsid", "stdbuf", "timeout",
    "which", "awk", "mawk"]

/-- The commands that the shell itself runs with commands in them. -/
def runningNames : List String := ["eval", ".", "exec", "command", "type", "hash"]

/-- Whether a location holds a file that can be run as a program. -/
def isRunnable (world : World) (location : Location) : Bool :=
  match world.files.get? location with
  | some (.file _ traits) => isExecutable traits.mode
  | _ => false

/-- The program that a path with slashes leads to. -/
def targetAt (state : State) (path : Octets) : Target :=
  let known := match Text.cutLast? '/' path with
    | some (dir, name) =>
      if programDirectories.contains dir then outerTools.lookup (String.ofList name) else none
    | none => none
  match known, state.world.files.locate? (state.path path) with
  | some tool, _ => .tool tool
  | none, some location => if isRunnable state.world location then .script location else .forbidden
  | none, none => .missing

/-- The directories that programs are looked for in. -/
def searchPath (state : State) : List Octets :=
  Text.split ':' ((state.get? "PATH".toList).getD [])

/-- The program with a name, in the first directory that has it, with its path. -/
def lookFor (state : State) (name : Octets) : List Octets → Option (Octets × Target)
  | [] => none
  | dir :: rest =>
    let path := if dir.isEmpty then name else dir ++ '/' :: name
    if programDirectories.contains dir then
      if launcherNames.contains (String.ofList name) then some (path, .missing)
      else
        match outerTools.lookup (String.ofList name) with
        | some tool => some (path, .tool tool)
        | none => lookFor state name rest
    else
      match state.world.files.locate? (state.path path) with
      | some location =>
        if isRunnable state.world location then some (path, .script location)
        else lookFor state name rest
      | none => lookFor state name rest

/-- Whether a name leads to a program that runs commands itself. -/
def isLauncher (state : State) (name : Octets) : Bool :=
  let base := baseName name
  let isKnown := !name.contains '/' ||
    programDirectories.contains (name.take (name.length - base.length - 1))
  isKnown && launcherNames.contains (String.ofList base) && !(searchPath state).isEmpty

/-- The program that a name leads to, outside of the shell. -/
def outerTarget (state : State) (name : Octets) : Target :=
  if name.contains '/' then targetAt state name
  else ((lookFor state name (searchPath state)).map (·.2)).getD .missing

/-- The status of running a name that leads to nothing that can be run. -/
def refusal? (state : State) (name : Octets) : Option Nat :=
  if isLauncher state name then none
  else
    match outerTarget state name with
    | .missing => some 127
    | .forbidden => some 126
    | _ => none

/-- The list that a variable is kept in, of a fixed number of them. -/
def bucket (name : Octets) : Nat :=
  name.foldl (fun n c => n + c.toNat) ((name.headD '\x00').toNat * 16) % 39

/-- The values that programs get, in the order in which the lists of variables hold them. -/
def environment (state : State) : List (Octets × Octets) :=
  let exported := state.vars.reverse.filterMap fun (name, held) =>
    if held.exported then held.value.map fun value => (name, value) else none
  exported.mergeSort fun a b => bucket a.1 ≤ bucket b.1

/-- The file that a stream leads to. -/
def streamLocation? (state : State) (stream : Nat) : Option Location :=
  match (state.streams.lookup stream).bind (state.world.channels[·]?) with
  | some (.file location _ _) => some location
  | _ => none

/-- Call a program. -/
def callTool (tool : Tool) (name : Octets) (args : List Octets) : Step := do
  let state ← get
  let inputEntry := (streamLocation? state 0).bind (state.world.files.get? ·)
  let effect := tool
    { files := state.world.files
      dir := state.dir
      name := name.name
      args
      input := state.unread 0
      inputSize := inputEntry.bind fun
        | .file content _ => some content.size
        | _ => none
      inputIsBroken := inputEntry.any (·.isDirectory) || (state.streams.lookup 0).isNone
      environment := environment state
      mask := state.mask }
  let silenced := (state.streams.lookup 1).isNone && effect.written.any (·.1 == 1)
  let world := { state.world with files := effect.files }
  let after := { state with world, status := if silenced then 1 else effect.status }
  set (effect.written.foldl (fun state (stream, text) => state.write stream text)
    (after.skip 0 effect.taken))
  return .next

/-! ## Kinds of commands -/

/-- The words that make up commands, and the commands of the shell, told by name. -/
def describe (state : State) (name : Octets) : Option Octets :=
  let text := String.ofList name
  let is (what : String) : Option Octets := some (name ++ what.toList)
  if keywordNames.contains text then is " is a shell keyword"
  else if (state.functions.lookup name).isSome then is " is a shell function"
  else if specialNames.contains text then is " is a special shell builtin"
  else if isBuiltin text then is " is a shell builtin"
  else if name.contains '/' then
    match targetAt state name with
    | .missing => none
    | _ => some (name ++ " is ".toList ++ name)
  else
    (lookFor state name (searchPath state)).map fun (path, _) => name ++ " is ".toList ++ path
where
  /-- The words that make up commands. -/
  keywordNames : List String :=
    ["!", "\x7b", "\x7d", "case", "do", "done", "elif", "else", "esac", "fi", "for", "if", "in",
      "then", "until", "while"]
  /-- Whether a name is one of the shell's own commands. -/
  isBuiltin (text : String) : Bool :=
    (Builtin.table.lookup text).isSome || (builtinTools.lookup text).isSome ||
      runningNames.contains text

/-- Check that names stand for commands. -/
def checkNames (names : List Octets) : Step := do
  let state ← get
  Step.done (if names.all fun name => (describe state name).isSome then 0 else 1)

/-- Tell what names stand for, as a sentence or as what would be run. -/
def describeAll (long : Bool) (names : List Octets) : Step := do
  let state ← get
  let told := names.map fun name => (name, describe state name)
  let shown := told.map fun (name, sentence?) =>
    match sentence? with
    | none => if long then name ++ ": not found".toList else []
    | some sentence =>
      if long then sentence
      else
        match Text.dropPrefix? (name ++ " is ".toList) sentence with
        | some ('/' :: path) => '/' :: path
        | _ => name
  let _ ← Step.say (Octets.unlines (shown.filter (!·.isEmpty)))
  Step.done (if told.any (·.2.isNone) then 127 else 0)

end SiteScript.Rehearsal.Shell
