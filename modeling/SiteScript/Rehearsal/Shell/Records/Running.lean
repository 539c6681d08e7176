import SiteScript.Rehearsal.Shell.Launch
import SiteScript.Rehearsal.Shell.Records.Table

/-!
# SiteScript.Rehearsal.Shell.Records.Running

The state of a record program that runs: its variables and tables, the record and its fields, and what it
reads and writes.  What is written to the output waits until a command is started or the program ends
(`flush`).
-/

namespace SiteScript.Rehearsal.Shell.Records

/-! ## Records and fields -/

/-- What stands between fields, or between records. -/
inductive Separator where
  /-- Blanks and the ends of lines. -/
  | blanks
  /-- Nothing: every character is a part. -/
  | nothing
  | char (c : Char)
  | pattern (regex : Regex)

/-- The separator that a text stands for. -/
def Separator.ofText? (text : Octets) : Option Separator :=
  match text with
  | [' '] => some .blanks
  | [] => some .nothing
  | [c] => some (.char c)
  | text => (Token.pattern? text).map .pattern

/-- The parts of a text between the matches of a pattern; `before` is the character before the text. -/
def splitBy (regex : Regex) : Nat → Option Char → Octets → List Octets
  | 0, _, text => [text]
  | fuel + 1, before, text =>
    match regex.findFrom before text with
    | none => [text]
    | some found =>
      if found.text.isEmpty then
        -- an empty match separates nothing
        match splitEmpty regex fuel before text with
        | some (part, rest, last) => part :: splitBy regex fuel last rest
        | none => [text]
      else found.skipped :: splitBy regex fuel found.text.getLast? found.place.rest
where
  /-- The text up to the first match that is not empty, and what follows it. -/
  splitEmpty (regex : Regex) : Nat → Option Char → Octets → Option (Octets × Octets × Option Char)
    | 0, _, _ => none
    | _, _, [] => none
    | fuel + 1, before, c :: rest =>
      match regex.matchAt? before (c :: rest) with
      | some found =>
        if found.text.isEmpty then
          (splitEmpty regex fuel (some c) rest).map fun (part, rest, last) => (c :: part, rest, last)
        else some ([], found.place.rest, found.text.getLast?)
      | none =>
        (splitEmpty regex fuel (some c) rest).map fun (part, rest, last) => (c :: part, rest, last)

/-- The parts of a text. -/
def Separator.split (text : Octets) : Separator → List Octets
  | .blanks => Octets.words text
  | .nothing => text.map fun c => [c]
  | .char c => if text.isEmpty then [] else Text.split c text
  | .pattern regex => if text.isEmpty then [] else splitBy regex (text.length + 1) none text

/-- The next record of a text, and what follows it. -/
def Separator.nextRecord? (text : Octets) : Separator → Option (Octets × Octets)
  | .char c =>
    if text.isEmpty then none
    else
      let record := text.takeWhile (· != c)
      some (record, text.drop (record.length + 1))
  | .blanks =>
    if text.isEmpty then none
    else
      let record := text.takeWhile (· != ' ')
      some (record, text.drop (record.length + 1))
  | .nothing =>
    -- records are separated by empty lines
    let text := text.dropWhile (· == '\n')
    if text.isEmpty then none
    else
      let record := paragraph text
      some (Text.dropEndWhile (· == '\n') record,
        (text.drop record.length).dropWhile (· == '\n'))
  | .pattern regex =>
    if text.isEmpty then none
    else
      match splitBy regex 1 none text with
      | [record, rest] => some (record, rest)
      | _ => some (Text.dropEndWhile (· == '\n') text, [])
where
  /-- The text up to an empty line. -/
  paragraph : Octets → Octets
    | '\n' :: '\n' :: _ => []
    | c :: rest => c :: paragraph rest
    | [] => []

/-! ## The state -/

/-- What a name stands for. -/
inductive Held where
  | value (value : Value)
  | table (number : Nat)
  /-- Nothing yet; but if it becomes a table, then this one. -/
  | unclear (number : Nat)

/-- Where something is written. -/
inductive Writer where
  | output
  | mistakes
  | channel (number : Nat)
  /-- A command, with what it will get, the last first. -/
  | command (texts : List Octets)

/-- The state of a program that runs. -/
structure Running where
  shell : State
  globals : List (Octets × Held) := []
  /-- The names that belong to the function that runs. -/
  locals : List (Octets × Held) := []
  tables : Array Table := #[]
  record : Octets := []
  fields : Array Value := #[]
  /-- Whether the record must be made of the fields again. -/
  isStale : Bool := false
  /-- What waits to be written to the output, the last first. -/
  pending : List Octets := []
  /-- What is left of the current input. -/
  input : Option Octets := none
  /-- The number of the next operand, and whether one was read. -/
  operand : Nat := 1
  anyRead : Bool := false
  /-- What is left of the files, and of what commands wrote, that are read. -/
  files : List (Octets × Octets) := []
  commands : List (Octets × Octets) := []
  writers : List (Octets × Writer) := []
  /-- The numbers of the ranges that have begun. -/
  ranges : List Nat := []
  seed : Nat := 0
  status : Nat := 0

/-- Why statements are left. -/
inductive Leap where
  | leave
  | again
  | next
  | nextFile
  | exit
  | give (value : Value)
  | failed

/-- Something that is done while a program runs. -/
abbrev Act := ExceptT Leap (StateM Running)

/-! ## Names -/

/-- The text of a global name. -/
def Running.textOf (running : Running) (name : String) : Octets :=
  match running.globals.lookup name.toList with
  | some (.value value) => value.toText plainFormat
  | _ => []

/-- The format by which numbers become texts. -/
def Running.form (running : Running) : Octets := running.textOf "CONVFMT"

/-- The record, made of the fields if one of them was changed. -/
def Running.recordText (running : Running) : Octets :=
  if running.isStale then
    ((running.fields.toList.map (·.toText running.form)).intersperse (running.textOf "OFS")).flatten
  else running.record

/-- Give a global name a value. -/
def Running.assign (running : Running) (name : String) (value : Value) : Running :=
  let name := name.toList
  { running with globals := (name, .value value) :: running.globals.filter (·.1 != name) }

/-- The fields of a record.  If empty lines separate records, the ends of lines separate fields too. -/
def Running.fieldsOf (running : Running) (text : Octets) : Array Value :=
  let separator := (Separator.ofText? (running.textOf "FS")).getD .blanks
  let separator := match separator, running.textOf "RS" with
    | .char c, [] => Separator.pattern (.char [(c, c), ('\n', '\n')] false)
    | .pattern regex, [] => Separator.pattern (.either regex (Regex.single '\n'))
    | separator, _ => separator
  ((separator.split text).map Value.ofInput).toArray

/-- Set the record. -/
def Running.setRecord (running : Running) (text : Octets) : Running :=
  { running with record := text, fields := running.fieldsOf text, isStale := false }

/-- Bring the fields to a number. -/
def Running.resize (running : Running) (count : Nat) : Running :=
  let fields := (running.fields.toList.take count).toArray
  let missing := Array.replicate (count - fields.size) (Value.text [])
  { running with fields := fields ++ missing, isStale := true }

/-- The value of a field. -/
def Running.field (running : Running) (place : Nat) : Value :=
  if place = 0 then Value.ofInput running.recordText
  else running.fields.getD (place - 1) .unset

/-- Set a field. -/
def Running.setField (running : Running) (place : Nat) (value : Value) : Running :=
  if place = 0 then running.setRecord (value.toText running.form)
  else
    let running := if running.fields.size < place then running.resize place else running
    { running with fields := running.fields.setIfInBounds (place - 1) value, isStale := true }

namespace Act

/-- What a name stands for. -/
def held? (name : Octets) : Act (Option Held) := do
  let running ← get
  return (running.locals.lookup name <|> running.globals.lookup name)

/-- Let a name stand for something. -/
def hold (name : Octets) (held : Held) : Act Unit :=
  modify fun running =>
    if (running.locals.lookup name).isSome then
      { running with
        locals := running.locals.map fun entry => if entry.1 == name then (name, held) else entry }
    else
      { running with globals := (name, held) :: running.globals.filter (·.1 != name) }

/-- The number of fields has a name. -/
def countName : Octets := "NF".toList

/-- The value of a name. -/
def valueOf (name : Octets) : Act Value := do
  match ← held? name with
  | some (.value value) => return value
  | some (.table _) => throw .failed
  | some (.unclear _) => return .unset
  | none =>
    if name == countName then return .ofNat (← get).fields.size else return .unset

/-- Give a name a value. -/
def assign (name : Octets) (value : Value) : Act Unit := do
  match ← held? name with
  | some (.table _) => throw .failed
  | some _ => hold name (.value value)
  | none =>
    if name == countName then
      modify fun running => running.resize (Number.truncated value.toNumber).toNat
    else hold name (.value value)

/-- Make a table. -/
def newTable : Act Nat := do
  let running ← get
  set { running with tables := running.tables.push {} }
  return running.tables.size

/-- The table that a name stands for from now on. -/
def tableOf (name : Octets) : Act Nat := do
  match ← held? name with
  | some (.table number) => return number
  | some (.unclear number) =>
    hold name (.table number)
    return number
  | some (.value .unset) => create
  | none => create
  | some (.value _) => throw .failed
where
  /-- A new table for the name. -/
  create : Act Nat := do
    let number ← newTable
    hold name (.table number)
    return number

/-- Read a table. -/
def table (number : Nat) : Act Table := do return (← get).tables.getD number {}

/-- Change a table. -/
def setTable (number : Nat) (table : Table) : Act Unit :=
  modify fun running => { running with tables := running.tables.setIfInBounds number table }

/-- The text of a value. -/
def spell (value : Value) : Act Octets := do return value.toText (← get).form

/-! ## Writing -/

/-- Write what waits to the output. -/
def flush : Act Unit :=
  modify fun running =>
    { running with
      shell := running.shell.write 1 running.pending.reverse.flatten
      pending := [] }

/-- Run a command, which may get an input, and of which the output may be taken.  Gives its status and
its output. -/
def runCommand (system : Octets → Step) (command : Octets) (input : Option Octets) (taken : Bool) :
    Act (Nat × Octets) := do
  flush
  let running ← get
  let streams := running.shell.streams
  let shell := match input with
    | some text => running.shell.connectNew 0 (.memory text)
    | none => running.shell
  let channel := shell.world.channels.size
  let shell := if taken then shell.connectNew 1 (.memory []) else shell
  let (flow, after) := StateT.run (system command) shell
  set { running with shell := { after with streams } }
  let status := match flow with
    | .killed _ signal => 256 + signal
    | _ => after.status
  return (status, if taken then after.world.unread channel else [])

/-- Open something to write to. -/
def openWriter (way : Way) (name : Octets) : Act Writer := do
  let running ← get
  let file (opening : Opening) : Act Writer := do
    match running.shell.openFile opening name with
    | .error _ => throw .failed
    | .ok (channel, files) =>
      let (number, world) := (running.shell.withFiles files).world.add channel
      set { running with shell := { running.shell with world } }
      return .channel number
  match way with
  | .command =>
    flush
    return .command []
  | way =>
    match String.ofList name with
    | "/dev/stdout" => return .output
    | "-" => return .output
    | "/dev/stderr" => return .mistakes
    | _ =>
      match way with
      | .append => file .append
      | _ => file .write

/-- Write a text to something that is open. -/
def writeTo (name text : Octets) (writer : Writer) : Act Unit := do
  match writer with
  | .output => modify fun running => { running with pending := text :: running.pending }
  | .mistakes =>
    flush
    modify fun running => { running with shell := running.shell.write 2 text }
  | .channel number =>
    modify fun running =>
      { running with
        shell := { running.shell with world := running.shell.world.write number text } }
  | .command texts =>
    modify fun running =>
      { running with
        writers := running.writers.map fun entry =>
          if entry.1 == name then (name, .command (text :: texts)) else entry }

/-- Write a text, to the output or where it is wanted. -/
def write (target : Option (Way × Octets)) (text : Octets) : Act Unit := do
  match target with
  | none => modify fun running => { running with pending := text :: running.pending }
  | some (way, name) =>
    match (← get).writers.lookup name with
    | some writer => writeTo name text writer
    | none =>
      let writer ← openWriter way name
      modify fun running => { running with writers := (name, writer) :: running.writers }
      writeTo name text writer

/-- Close something that is written to.  A command is run now. -/
def closeWriter (system : Octets → Step) (name : Octets) (writer : Writer) : Act Nat := do
  modify fun running => { running with writers := running.writers.filter (·.1 != name) }
  match writer with
  | .command texts =>
    let running ← get
    -- what waits is written after the output of the command
    set { running with pending := [] }
    let (status, _) ← runCommand system name (some texts.reverse.flatten) false
    modify fun after => { after with pending := running.pending }
    return status
  | _ => return 0

/-- Close what a name stands for.  Gives the status, or none if nothing was open. -/
def close (system : Octets → Step) (name : Octets) : Act (Option Nat) := do
  let running ← get
  let isRead := (running.files.lookup name).isSome || (running.commands.lookup name).isSome
  set { running with
    files := running.files.filter (·.1 != name)
    commands := running.commands.filter (·.1 != name) }
  match running.writers.lookup name with
  | some writer => return some (← closeWriter system name writer)
  | none => return if isRead then some 0 else none

/-- Close everything that is written to. -/
def closeAll (system : Octets → Step) : List (Octets × Writer) → Act Unit
  | [] => return ()
  | (name, _) :: rest => do
    match (← get).writers.lookup name with
    | some writer =>
      let _ ← closeWriter system name writer
    | none => pure ()
    closeAll system rest

/-! ## Reading -/

/-- What separates records. -/
def recordSeparator : Act Separator := do
  match Separator.ofText? ((← get).textOf "RS") with
  | some separator => return separator
  | none => throw .failed

/-- Count a record; `inFile` tells whether it belongs to the current operand. -/
def countRecord (inFile : Bool) : Act Unit := do
  let count (name : String) : Act Unit :=
    modify fun running =>
      let old := match running.globals.lookup name.toList with
        | some (.value value) => value.toNumber
        | _ => 0.0
      running.assign name (.number (old + 1.0))
  count "NR"
  if inFile then count "FNR"

/-- The content of the input. -/
def standardInput : Act Octets := do
  let running ← get
  let text := running.shell.unread 0
  set { running with shell := running.shell.skip 0 text.length }
  return text

/-- The content of a file. -/
def contentOf? (name : Octets) : Act (Option Octets) := do
  let name' := String.ofList name
  if name' == "-" || name' == "/dev/stdin" then return some (← standardInput)
  else
    let shell := (← get).shell
    if name.isEmpty then return none
    else
      match shell.world.files.read (shell.path name) with
      | .ok content => return some (Octets.ofArray content)
      | .error _ => return none

/-- The text of an operand. -/
def operandText (place : Nat) : Act Octets := do
  let table ← table (← tableOf "ARGV".toList)
  spell ((table.values.lookup (Octets.ofNat place)).getD .unset)

/-- Go to the next input: the file of the next operand, or the input if there is none.  Operands that give
names values do so.  Tells whether there is an input. -/
def nextInput : Nat → Act Bool
  | 0 => return false
  | fuel + 1 => do
    let running ← get
    let count := (Number.truncated (← valueOf "ARGC".toList).toNumber).toNat
    if count ≤ running.operand then
      if running.anyRead then return false
      else
        let text ← standardInput
        modify fun running =>
          { running.assign "FNR" (.number 0.0) with input := some text, anyRead := true }
        return true
    else
      let name ← operandText running.operand
      modify fun running => { running with operand := running.operand + 1 }
      match Text.cut? '=' name with
      | some (target, value) =>
        if isName target then
          assign target (Value.ofInput (Token.unescape (value.length + 1) value))
          nextInput fuel
        else openOperand name
      | none => if name.isEmpty then nextInput fuel else openOperand name
where
  /-- Begin to read the file of an operand. -/
  openOperand (name : Octets) : Act Bool := do
    match ← contentOf? name with
    | none => throw .failed
    | some text =>
      modify fun running =>
        { (running.assign "FNR" (.number 0.0)).assign "FILENAME" (.text name) with
          input := some text, anyRead := true }
      return true

/-- The next record of the input; none at its end. -/
def nextRecord? : Nat → Act (Option Octets)
  | 0 => return none
  | fuel + 1 => do
    match (← get).input with
    | none => if ← nextInput 100000 then nextRecord? fuel else return none
    | some text =>
      match (← recordSeparator).nextRecord? text with
      | some (record, rest) =>
        modify fun running => { running with input := some rest }
        countRecord true
        return some record
      | none =>
        modify fun running => { running with input := none }
        nextRecord? fuel

/-- The next record of something that is read by name; none at its end. -/
def nextOf? (text : Octets) : Act (Option (Octets × Octets)) := do
  return (← recordSeparator).nextRecord? text

end Act

end SiteScript.Rehearsal.Shell.Records
