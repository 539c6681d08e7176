import SiteScript.FileSystem.Calls
import SiteScript.Machine
import SiteScript.Rehearsal.Shell.Command

/-!
# SiteScript.Rehearsal.Shell.State

What a shell knows, the world that it shares with the shells it starts, and how it ends: with a status,
or by a signal.

A stream of a shell is a number; it leads to a channel of the world, and several streams may lead to
the same one.  A channel keeps how far it has been read, so commands that read the same file one after
another go on where the one before stopped.
-/

namespace SiteScript.Rehearsal.Shell

/-! ## Endings -/

/-- The largest number of a signal. -/
def maxSignal : Nat := 64

/-- The number of a signal, given as a number or by its name in any case. -/
def signalNumber? (text : List Char) : Option Nat :=
  match Decimal.ofDigits? text with
  | some number => if number ≤ maxSignal then some number else none
  | none =>
    let name := String.ofList (text.map Char.toUpper)
    let index := Ending.signalNames.idxOf name
    if name == "EXIT" then some 0
    else if index < Ending.signalNames.length then some (index + 1)
    else none

/-- The name of a signal; the end of the shell counts as number zero. -/
def signalName (number : Nat) : String :=
  if number = 0 then "EXIT"
  else
    match Ending.signalNames[number - 1]? with
    | some name => name
    | none =>
      if number < 34 then Decimal.text number
      else if number = 34 then "RTMIN"
      else if number < 50 then "RTMIN+" ++ Decimal.text (number - 34)
      else if number < 64 then "RTMAX-" ++ Decimal.text (64 - number)
      else "RTMAX"

/-- The signals that a shell does not end by: those that are ignored, and those that only halt it. -/
def harmlessSignals : List Nat := [0, 17, 18, 19, 20, 21, 22, 23, 28]

/-! ## Channels -/

/-- What a stream leads to. -/
inductive Channel where
  /-- It gives nothing and takes everything. -/
  | nothing
  /-- What was written and not yet read. -/
  | memory (content : Octets)
  /-- A place in a file, or its end. -/
  | file (location : Location) (position : Nat) (atEnd : Bool)

/-- What shells share. -/
structure World where
  files : FileSystem
  channels : Array Channel := #[]

namespace World

/-- The content of a file; none if it is gone. -/
def content? (world : World) (location : Location) : Option Octets :=
  match world.files.get? location with
  | some (.file content _) => some (Octets.ofArray content)
  | _ => none

/-- What can still be read from a channel. -/
def unread (world : World) (channel : Nat) : Octets :=
  match world.channels[channel]? with
  | some (.memory content) => content
  | some (.file location position _) => ((world.content? location).getD []).drop position
  | _ => []

/-- Take so many bytes off a channel. -/
def skip (world : World) (channel count : Nat) : World :=
  match world.channels[channel]? with
  | some (.memory content) =>
    { world with channels := world.channels.setIfInBounds channel (.memory (content.drop count)) }
  | some (.file location position atEnd) =>
    { world with
      channels := world.channels.setIfInBounds channel (.file location (position + count) atEnd) }
  | _ => world

/-- A text with another written over it from a place on. -/
def overwrite (content : Octets) (position : Nat) (text : Octets) : Octets :=
  let padding := List.replicate (position - content.length) '\x00'
  content.take position ++ padding ++ text ++ content.drop (position + text.length)

/-- Write to a channel.  What is written to a file that is gone is lost. -/
def write (world : World) (channel : Nat) (text : Octets) : World :=
  match world.channels[channel]? with
  | some (.memory content) =>
    { world with channels := world.channels.setIfInBounds channel (.memory (content ++ text)) }
  | some (.file location position atEnd) =>
    match world.files.get? location with
    | some (.file content traits) =>
      let content := Octets.ofArray content
      let position := if atEnd then content.length else position
      { world with
        files := world.files.rewrite location (Octets.toArray (overwrite content position text))
          traits
        channels := world.channels.setIfInBounds channel
          (.file location (position + text.length) atEnd) }
    | _ => world
  | _ => world

/-- Add a channel.  Gives its number. -/
def add (world : World) (channel : Channel) : Nat × World :=
  (world.channels.size, { world with channels := world.channels.push channel })

end World

/-! ## The state of a shell -/

/-- A variable, which may have no value yet. -/
structure Variable where
  value : Option Octets := none
  /-- Whether programs get it. -/
  exported : Bool := false
  /-- Whether its value stays. -/
  fixed : Bool := false

/-- The state of a shell. -/
structure State where
  world : World
  dir : Location
  /-- How the directory was reached, if links led to it. -/
  route : Octets
  vars : List (Octets × Variable) := []
  /-- The text that the shell was called by. -/
  caller : Octets := "sh".toList
  parameters : List Octets := []
  functions : List (Octets × Command) := []
  /-- Texts that stand for the names of commands. -/
  aliases : List (Octets × Octets) := []
  /-- Where the streams lead. -/
  streams : List (Nat × Nat) := []
  status : Nat := 0
  options : List Char := []
  /-- What is run on signals and at the end. -/
  traps : List (String × Octets) := []
  /-- What variables were before the functions that run made them their own. -/
  saved : List (List (Octets × Option Variable)) := []
  /-- How many loops the command stands in. -/
  loops : Nat := 0
  /-- The line of the command. -/
  line : Nat := 1
  /-- The status of the commands that the words of the current command contain. -/
  inner : Option Nat := none
  /-- The number of the shell. -/
  id : Nat := 1
  /-- A signal to a shell that came while words were expanded. -/
  signal : Option (Nat × Nat) := none
  /-- The rights that new files lack. -/
  mask : Nat := 18
  /-- The commands that were not waited for: how each of them ended. -/
  jobs : List Nat := []

namespace State

variable (state : State)

/-! ## Variables -/

/-- The value of a variable. -/
def get? (name : Octets) : Option Octets := (state.vars.lookup name).bind (·.value)

/-- Change a variable, or make it. -/
def modifyVar (name : Octets) (change : Variable → Variable) : State :=
  let old := (state.vars.lookup name).getD {}
  { state with vars := (name, change old) :: state.vars.filter (·.1 != name) }

/-- Whether the value of a variable stays. -/
def isFixed (name : Octets) : Bool := (state.vars.lookup name).any (·.fixed)

/-- Give a variable a value. -/
def assign (name value : Octets) : State :=
  let exported := state.options.contains 'a'
  state.modifyVar name fun old =>
    { old with value := some value, exported := old.exported || exported }

/-- Take a variable away. -/
def unset (name : Octets) : State :=
  { state with vars := state.vars.filter (·.1 != name) }

/-- Give a variable back what it was. -/
def restore (name : Octets) (old : Option Variable) : State :=
  let state := state.unset name
  { state with vars := (old.map fun held => (name, held)).toList ++ state.vars }

/-- The marks between fields. -/
def fieldMarks : Octets :=
  match state.vars.lookup "IFS".toList with
  | some held => held.value.getD []
  | none => [' ', '\t', '\n']

/-- The number of a command that was not waited for, in the order they were started. -/
def jobId (index : Nat) : Nat := 1000 + index

/-- The letters of options, each with its long name. -/
def optionNames : List (Char × String) :=
  [('e', "errexit"), ('f', "noglob"), ('I', "ignoreeof"), ('i', "interactive"), ('m', "monitor"),
    ('n', "noexec"), ('s', "stdin"), ('x', "xtrace"), ('v', "verbose"), ('V', "vi"), ('E', "emacs"),
    ('C', "noclobber"), ('a', "allexport"), ('b', "notify"), ('u', "nounset")]

/-- The options in effect, as the letters they are set by. -/
def optionText : Octets := (optionNames.reverse.map (·.1)).filter state.options.contains

/-- The value of a parameter; none if it is not set. -/
def parameter? (name : Octets) : Option Octets :=
  match name with
  | ['?'] => some (Octets.ofNat state.status)
  | ['$'] => some (Octets.ofNat state.id)
  | ['#'] => some (Octets.ofNat state.parameters.length)
  | ['-'] => some state.optionText
  | ['!'] =>
    if state.jobs.isEmpty then none else some (Octets.ofNat (jobId (state.jobs.length - 1)))
  | ['0'] => some state.caller
  | name =>
    match Decimal.ofDigits? name with
    | some n => if n = 0 then some state.caller else state.parameters[n - 1]?
    | none => state.get? name

/-! ## Streams -/

/-- Write to a stream. -/
def write (stream : Nat) (text : Octets) : State :=
  match state.streams.lookup stream with
  | some channel => { state with world := state.world.write channel text }
  | none => state

/-- What can still be read from a stream. -/
def unread (stream : Nat) : Octets :=
  match state.streams.lookup stream with
  | some channel => state.world.unread channel
  | none => []

/-- Take so many bytes off a stream. -/
def skip (stream count : Nat) : State :=
  match state.streams.lookup stream with
  | some channel => { state with world := state.world.skip channel count }
  | none => state

/-- Let a stream lead to a channel. -/
def connect (stream channel : Nat) : State :=
  { state with streams := (stream, channel) :: state.streams.filter (·.1 != stream) }

/-- Close a stream. -/
def close (stream : Nat) : State :=
  { state with streams := state.streams.filter (·.1 != stream) }

/-- Let a stream lead to a new channel. -/
def connectNew (stream : Nat) (channel : Channel) : State :=
  let (number, world) := state.world.add channel
  { state with world }.connect stream number

/-- Tell about a mistake. -/
def complain (text : Octets) : State :=
  state.write 2 (state.caller ++ ": ".toList ++ Octets.ofNat state.line ++ ": ".toList ++ text ++
    ['\n'])

/-- Give the files another content. -/
def withFiles (files : FileSystem) : State :=
  { state with world := { state.world with files } }

/-! ## Files -/

/-- The path that a text names. -/
def path (text : Octets) : Path := .ofText state.dir text.name

/-- The file that takes everything and holds nothing. -/
def nowhere : Octets := "/dev/null".toList

/-- The stream that a text names as a file. -/
def deviceStream? (text : Octets) : Option Nat :=
  match String.ofList text with
  | "/dev/stdin" => some 0
  | "/dev/stdout" => some 1
  | "/dev/stderr" => some 2
  | _ => none

/-- Open a file.  Gives the channel, and the files after it; or what is wrong. -/
def openFile (opening : Opening) (text : Octets) : Except FileFault (Channel × FileSystem) :=
  let files := state.world.files
  let path := state.path text
  let channel (atEnd : Bool) (files : FileSystem) : Except FileFault (Channel × FileSystem) :=
    match files.locate? path with
    | some location => .ok (.file location 0 atEnd, files)
    | none => .error .notFound
  if text == nowhere then .ok (.nothing, files)
  else if text.isEmpty then .error .notFound
  else
    match opening with
    | .read => do
      let _ ← files.stat path
      channel false files
    | .write => do channel false (← files.write path ByteArray.empty)
    | opening => do
      let content ←
        match files.read path with
        | .ok content => .ok content
        | .error .notFound => .ok ByteArray.empty
        | .error fault => .error fault
      channel (opening == .append) (← files.write path content)

end State

end SiteScript.Rehearsal.Shell
