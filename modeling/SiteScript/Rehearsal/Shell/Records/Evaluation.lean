import SiteScript.Rehearsal.Shell.Records.Parser
import SiteScript.Rehearsal.Shell.Records.Running

/-!
# SiteScript.Rehearsal.Shell.Records.Evaluation

What record programs do.  `evaluate` gives the value of an expression and `execute` does what a statement
says; both go one level deeper with each step, and the number of levels is given.  A loop counts as one
level for each time it is gone through.

`Program.run` runs a program: first the rules before all records, then those for each record, and last
those after all records, which are run even if the program was left before.

`launch` runs a program as it is called: the program is the first operand, or stands in files; the other
operands are what it reads.  Names can be given values before it begins.
-/

namespace SiteScript.Rehearsal.Shell.Records

namespace Act

/-- Do something, and give why it was left if it was. -/
def attempt {α : Type} (act : Act α) : Act (Except Leap α) :=
  ExceptT.mk do
    let result ← act.run
    return .ok result

/-! ## Places of values -/

/-- A place that can be given a value. -/
inductive Spot where
  | name (name : Octets)
  | element (table : Nat) (key : Key)
  | field (place : Nat)

/-- The number of a field. -/
def fieldPlace (value : Value) : Act Nat := do
  let n := Number.truncated value.toNumber
  if n < 0 then throw .failed else return n.toNat

namespace Spot

/-- The value in a place. -/
def get : Spot → Act Value
  | .name text => valueOf text
  | .element number key => do
    let (value, table) := (← Act.table number).get key
    setTable number table
    return value
  | .field place => do return (← MonadState.get).field place

/-- Put a value into a place. -/
def set (value : Value) : Spot → Act Unit
  | .name text => assign text value
  | .element number key => do setTable number ((← Act.table number).set key value)
  | .field place => modify fun running => running.setField place value

end Spot

/-- The key that several values make up. -/
def keyOf (values : List Value) : Act Key := do
  let running ← get
  match values with
  | [value] => return .ofValue running.form value
  | values =>
    let texts := values.map (·.toText running.form)
    return .text (texts.intersperse (running.textOf "SUBSEP")).flatten

/-! ## Functions on texts -/

/-- What is put in the place of a match: a mark stands for the matched text, unless a backslash stands
before it. -/
def replacement (found : Octets) : Octets → Octets
  | '\\' :: '&' :: rest => '&' :: replacement found rest
  | '\\' :: '\\' :: rest => '\\' :: replacement found rest
  | '&' :: rest => found ++ replacement found rest
  | c :: rest => c :: replacement found rest
  | [] => []

/-- Replace the matches of a pattern, or only the first.  An empty match directly after another one does
not count.  Gives how many were replaced, and the text. -/
def replaceAll (regex : Regex) (form : Octets) (all : Bool) :
    Nat → Option Char → Bool → Octets → Nat × Octets
  | 0, _, _, text => (0, text)
  | fuel + 1, before, afterMatch, text =>
    match regex.findFrom before text with
    | none => (0, text)
    | some found =>
      let rest := found.place.rest
      let last := (found.text.getLast? <|> found.skipped.getLast?) <|> before
      let isExtra := afterMatch && found.text.isEmpty && found.skipped.isEmpty
      let made := if isExtra then [] else replacement found.text form
      let count := if isExtra then 0 else 1
      if !all then (1, found.skipped ++ made ++ rest)
      else if found.text.isEmpty then
        match rest with
        | [] => (count, found.skipped ++ made)
        | c :: rest =>
          let (more, tail) := replaceAll regex form all fuel (some c) false rest
          (count + more, found.skipped ++ made ++ c :: tail)
      else
        let (more, tail) := replaceAll regex form all fuel last true rest
        (count + more, found.skipped ++ made ++ tail)

/-- The place of a part of a text, counted on from a number; zero if it is not there. -/
def occurrencePlace (part : Octets) : Nat → Octets → Nat
  | n, [] => if part.isEmpty then n else 0
  | n, c :: rest => if part.isPrefixOf (c :: rest) then n else occurrencePlace part (n + 1) rest

/-- The part of a text from a place on, of a length if one is given. -/
def portion (text : Octets) (start : Value) (length : Option Value) : Octets :=
  let first := Number.truncated start.toNumber
  match length.map fun value => Number.truncated value.toNumber with
  | none => text.drop (first - 1).toNat
  | some count =>
    let (first, count) := if first < 1 then (1, count - first) else (first, count)
    (text.drop (first - 1).toNat).take count.toNat

/-- The integer part of a number. -/
def integerPart (x : Float) : Float := if x < 0.0 then -(Float.floor (-x)) else Float.floor x

/-- What a function makes of a number. -/
def ofNumber? : Builtin → Option (Float → Float)
  | .sin => some Float.sin
  | .cos => some Float.cos
  | .exp => some Float.exp
  | .log => some Float.log
  | .sqrt => some Float.sqrt
  | .int => some integerPart
  | _ => none

/-- What a function makes of a text. -/
def ofText? : Builtin → Option (Octets → Octets)
  | .tolower => some (·.map Char.toLower)
  | .toupper => some (·.map Char.toUpper)
  | _ => none

/-- The next number of a sequence that looks like chance, between zero and one. -/
def nextChance : Act Float := do
  let running ← get
  let seed := (running.seed * 1103515245 + 12345) % 2147483648
  set { running with seed }
  return Float.ofNat seed / 2147483648.0

/-- The pattern that a text stands for. -/
def patternOf (text : Octets) : Act Regex := do
  match Token.pattern? text with
  | some regex => return regex
  | none => throw .failed

/-- Write something that was made by a format; what comes before a mistake is written too. -/
def formatted (values : List Value) : Act (Octets × Bool) := do
  let running ← get
  match values with
  | [] => throw .failed
  | form :: values =>
    let text := form.toText running.form
    return format (·.toText running.form) (text.length + 1) text values

/-! ## Reading -/

/-- Bring a record that was read to its place: a target, or the record of the program. -/
def receive (target : Option Spot) (text : Octets) : Act Unit := do
  match target with
  | some spot => spot.set (.ofInput text)
  | none => modify fun running => running.setRecord text

/-- Read the next record of the input. -/
def readNext (target : Option Spot) : Act Value := do
  match ← nextRecord? 100000 with
  | none => return .number 0.0
  | some text =>
    receive target text
    return .number 1.0

/-- Read the next record of a file. -/
def readFile (target : Option Spot) (name : Octets) : Act Value := do
  let content? ← match (← get).files.lookup name with
    | some rest => pure (some rest)
    | none => contentOf? name
  match content? with
  | none => return .number (-1.0)
  | some text =>
    let found ← nextOf? text
    let rest := (found.map (·.2)).getD []
    modify fun running => { running with files := (name, rest) :: running.files.filter (·.1 != name) }
    match found with
    | none => return .number 0.0
    | some (record, _) =>
      receive target record
      return .number 1.0

/-- Read the next record of what a command writes. -/
def readCommand (system : Octets → Step) (target : Option Spot) (command : Octets) : Act Value := do
  let text ← match (← get).commands.lookup command with
    | some rest => pure rest
    | none =>
      let (_, text) ← runCommand system command none true
      pure text
  let found ← nextOf? text
  let rest := (found.map (·.2)).getD []
  modify fun running =>
    { running with commands := (command, rest) :: running.commands.filter (·.1 != command) }
  match found with
  | none => return .number 0.0
  | some (record, _) =>
    receive target record
    countRecord false
    return .number 1.0

/-! ## Keys -/

/-- Do something for each key, as long as it is to go on. -/
def forKeys (step : Octets → Act Bool) : List Octets → Act Unit
  | [] => return ()
  | key :: rest => do
    if ← step key then forKeys step rest

/-- Go through a loop once.  Tells whether it goes on. -/
def oneRound (body : Act Unit) : Act Bool := do
  match ← attempt body with
  | .ok () => return true
  | .error .again => return true
  | .error .leave => return false
  | .error leap => throw leap

end Act

open Act

variable (system : Octets → Step) (program : Program)

mutual

/-- The value of an expression. -/
def evaluate : Nat → Expr → Act Value
  | 0, _ => throw .failed
  | fuel + 1, expr => do
    match expr with
    | .number value => return .number value
    | .text value => return .text value
    | .pattern regex => return .ofBool (regex.occurs (← get).recordText)
    | .name name => valueOf name
    | .element table keys => do
      let spot ← locate fuel (.element table keys)
      spot.get
    | .field place => do
      let spot ← locate fuel (.field place)
      spot.get
    | .assign none target value => do
      let spot ← locate fuel target
      let value ← evaluate fuel value
      spot.set value
      return value
    | .assign (some operator) target value => do
      let spot ← locate fuel target
      let value ← evaluate fuel value
      let result := Value.number (operator.apply (← spot.get).toNumber value.toNumber)
      spot.set result
      return result
    | .count up after target => do
      let spot ← locate fuel target
      let old := (← spot.get).toNumber
      let new := if up then old + 1.0 else old - 1.0
      spot.set (.number new)
      return .number (if after then new else old)
    | .negate value => return .number (-(← evaluate fuel value).toNumber)
    | .numeric value => return .number (← evaluate fuel value).toNumber
    | .not value => return .ofBool !(← evaluate fuel value).isTrue
    | .compute operator left right => do
      let x ← evaluate fuel left
      let y ← evaluate fuel right
      return .number (operator.apply x.toNumber y.toNumber)
    | .joined left right => do
      let first ← spell (← evaluate fuel left)
      let second ← spell (← evaluate fuel right)
      return .text (first ++ second)
    | .compare comparison left right => do
      let x ← evaluate fuel left
      let y ← evaluate fuel right
      return .ofBool (comparison.holds (← get).form x y)
    | .occurs negated text pattern => do
      let body ← spell (← evaluate fuel text)
      let regex ← asPattern fuel pattern
      return .ofBool (regex.occurs body != negated)
    | .both left right => do
      if (← evaluate fuel left).isTrue then return .ofBool (← evaluate fuel right).isTrue
      else return .ofBool false
    | .either left right => do
      if (← evaluate fuel left).isTrue then return .ofBool true
      else return .ofBool (← evaluate fuel right).isTrue
    | .choose condition yes no => do
      if (← evaluate fuel condition).isTrue then evaluate fuel yes else evaluate fuel no
    | .member keys table => do
      let key ← keyOf (← keys.mapM (evaluate fuel))
      return .ofBool ((← Act.table (← tableOf table)).has key)
    | .builtin function args => callBuiltin fuel function args
    | .call function args => callFunction fuel function args
    | .readNext target => do
      let spot ← target.mapM (locate fuel)
      readNext spot
    | .readFile target file => do
      let name ← spell (← evaluate fuel file)
      let spot ← target.mapM (locate fuel)
      readFile spot name
    | .readCommand target command => do
      let text ← spell (← evaluate fuel command)
      let spot ← target.mapM (locate fuel)
      readCommand system spot text
    | .several values => do
      return .text (← keyOf (← values.mapM (evaluate fuel))).name

/-- The place that an expression stands for. -/
def locate : Nat → Expr → Act Spot
  | 0, _ => throw .failed
  | fuel + 1, expr => do
    match expr with
    | .name name => return .name name
    | .element table keys => do
      let key ← keyOf (← keys.mapM (evaluate fuel))
      let number ← tableOf table
      setTable number ((← Act.table number).use true key)
      return .element number key
    | .field place => return .field (← fieldPlace (← evaluate fuel place))
    | _ => throw .failed

/-- The pattern that an expression stands for. -/
def asPattern : Nat → Expr → Act Regex
  | 0, _ => throw .failed
  | fuel + 1, expr => do
    match expr with
    | .pattern regex => return regex
    | expr => patternOf (← spell (← evaluate fuel expr))

/-- Call one of the functions that every program has. -/
def callBuiltin : Nat → Builtin → List Expr → Act Value
  | 0, _, _ => throw .failed
  | fuel + 1, function, args => do
    match function, args with
    | .length, [] => return .ofNat (← get).recordText.length
    | .length, [.name name] => do
      match ← held? name with
      | some (.table number) => return .ofNat (← Act.table number).values.length
      | some (.unclear number) => return .ofNat (← Act.table number).values.length
      | _ => return .ofNat (← spell (← valueOf name)).length
    | .length, expr :: _ => return .ofNat (← spell (← evaluate fuel expr)).length
    | .substr, text :: rest => do
      let body ← spell (← evaluate fuel text)
      match ← rest.mapM (evaluate fuel) with
      | [start] => return .text (portion body start none)
      | [start, length] => return .text (portion body start (some length))
      | _ => throw .failed
    | .index, [text, part] => do
      let body ← spell (← evaluate fuel text)
      let part ← spell (← evaluate fuel part)
      return .ofNat (occurrencePlace part 1 body)
    | .split, text :: .name table :: rest => do
      let body ← spell (← evaluate fuel text)
      let separator ← match rest with
        | [] => pure (Separator.ofText? ((← get).textOf "FS"))
        | .pattern regex :: _ => pure (some (.pattern regex))
        | expr :: _ => do pure (Separator.ofText? (← spell (← evaluate fuel expr)))
      match separator with
      | none => throw .failed
      | some separator =>
        let parts := separator.split body
        setTable (← tableOf table) (.ofParts (parts.map Value.ofInput))
        return .ofNat parts.length
    | .sub, pattern :: form :: rest => replaceIn fuel false pattern form (rest.headD (.field (.number 0.0)))
    | .gsub, pattern :: form :: rest => replaceIn fuel true pattern form (rest.headD (.field (.number 0.0)))
    | .occurrence, [text, pattern] => do
      let body ← spell (← evaluate fuel text)
      let regex ← asPattern fuel pattern
      let (start, length) := match regex.find? body with
        | some found => (Value.ofNat (found.skipped.length + 1), Value.ofNat found.text.length)
        | none => (.number 0.0, .number (-1.0))
      modify fun running => (running.assign "RSTART" start).assign "RLENGTH" length
      return start
    | .sprintf, args => do
      let (text, failed) ← formatted (← args.mapM (evaluate fuel))
      if failed then throw .failed else return .text text
    | .atan2, [y, x] => do
      let y ← evaluate fuel y
      let x ← evaluate fuel x
      return .number (Float.atan2 y.toNumber x.toNumber)
    | .rand, _ => return .number (← nextChance)
    | .srand, args => do
      let running ← get
      let seed ← match args with
        | [] => pure 0
        | expr :: _ => do pure (Number.truncated (← evaluate fuel expr).toNumber).natAbs
      modify fun running => { running with seed }
      return .ofNat running.seed
    | .system, [command] => do
      let text ← spell (← evaluate fuel command)
      return .ofNat (← runCommand system text none false).1
    | .close, [name] => do
      match ← close system (← spell (← evaluate fuel name)) with
      | some status => return .ofNat status
      | none => return .number (-1.0)
    | .fflush, args => do
      let _ ← args.mapM (evaluate fuel)
      flush
      return .number 0.0
    | .systime, _ => return .number 0.0
    | function, [expr] => do
      let value ← evaluate fuel expr
      match ofNumber? function, ofText? function with
      | some f, _ => return .number (f value.toNumber)
      | none, some f => return .text (f (← spell value))
      | none, none => throw .failed
    | .int, [] => throw .failed
    | _, _ => throw .failed

/-- Replace matches in a place. -/
def replaceIn : Nat → Bool → Expr → Expr → Expr → Act Value
  | 0, _, _, _, _ => throw .failed
  | fuel + 1, all, pattern, form, target => do
    let regex ← asPattern fuel pattern
    let form ← spell (← evaluate fuel form)
    let replaced (body : Octets) : Nat × Octets :=
      replaceAll regex form all (body.length + 2) none false body
    match target with
    | .name _ => do
      let spot ← locate fuel target
      change spot replaced
    | .element _ _ => do
      let spot ← locate fuel target
      change spot replaced
    | .field _ => do
      let spot ← locate fuel target
      change spot replaced
    | target => do
      let (count, _) := replaced (← spell (← evaluate fuel target))
      return .ofNat count
where
  /-- Replace matches in a place, which keeps its value if there are none. -/
  change (spot : Spot) (replaced : Octets → Nat × Octets) : Act Value := do
    let (count, text) := replaced (← spell (← spot.get))
    if count != 0 then spot.set (.text text)
    return .ofNat count

/-- Call a function of the program.  A name that stands for nothing yet may become a table there. -/
def callFunction : Nat → Octets → List Expr → Act Value
  | 0, _, _ => throw .failed
  | fuel + 1, name, args => do
    match program.functions.lookup name with
    | none => throw .failed
    | some function =>
      let given ← args.mapM fun arg => do
        match arg with
        | .name name => do
          match ← held? name with
          | some (.value .unset) => share name
          | some held => return held
          | none =>
            if name == countName then return .value (← valueOf name) else share name
        | arg => return .value (← evaluate fuel arg)
      let missing := List.replicate (function.parameters.length - given.length) (Held.value .unset)
      let outer := (← get).locals
      modify fun running => { running with locals := function.parameters.zip (given ++ missing) }
      let result ← attempt (executeAll fuel function.body)
      modify fun running => { running with locals := outer }
      match result with
      | .ok () => return .unset
      | .error (.give value) => return value
      | .error leap => throw leap
where
  /-- Let a name share a table with a parameter, if one of them becomes a table. -/
  share (name : Octets) : Act Held := do
    let number ← newTable
    hold name (.unclear number)
    return .unclear number

/-- Do what statements say, in order. -/
def executeAll : Nat → List Statement → Act Unit
  | 0, _ => throw .failed
  | fuel + 1, statements => statements.forM (execute fuel)

/-- Do what a statement says. -/
def execute : Nat → Statement → Act Unit
  | 0, _ => throw .failed
  | fuel + 1, statement => do
    match statement with
    | .expression value => do
      let _ ← evaluate fuel value
    | .print values target => do
      let values ← values.mapM (evaluate fuel)
      let running ← get
      let texts := if values.isEmpty then [running.recordText]
        else values.map (·.toText (running.textOf "OFMT"))
      let line := (texts.intersperse (running.textOf "OFS")).flatten ++ running.textOf "ORS"
      let target ← aim fuel target
      write target line
    | .printf values target => do
      let (text, failed) ← formatted (← values.mapM (evaluate fuel))
      let target ← aim fuel target
      write target text
      if failed then throw .failed
    | .choose condition yes no => do
      if (← evaluate fuel condition).isTrue then execute fuel yes
      else
        match no with
        | some no => execute fuel no
        | none => return ()
    | .repeatWhile condition body => do
      if (← evaluate fuel condition).isTrue then
        if ← oneRound (execute fuel body) then execute fuel (.repeatWhile condition body)
    | .repeatAfter body condition => do
      if ← oneRound (execute fuel body) then
        if (← evaluate fuel condition).isTrue then execute fuel (.repeatAfter body condition)
    | .loop first condition step body => do
      match first with
      | some first => execute fuel first
      | none => pure ()
      let holds ← match condition with
        | some condition => do pure (← evaluate fuel condition).isTrue
        | none => pure true
      if holds then
        if ← oneRound (execute fuel body) then
          match step with
          | some step => execute fuel step
          | none => pure ()
          execute fuel (.loop none condition step body)
    | .each name table body => do
      let number ← tableOf table
      let (keys, table) := (← Act.table number).keys
      setTable number table
      forKeys (fun key => do
        assign name (.text key)
        oneRound (execute fuel body)) keys
    | .block statements => executeAll fuel statements
    | .delete table keys => do
      let number ← tableOf table
      match keys with
      | none => setTable number {}
      | some keys =>
        let key ← keyOf (← keys.mapM (evaluate fuel))
        setTable number ((← Act.table number).erase key)
    | .leave => throw .leave
    | .again => throw .again
    | .next => throw .next
    | .nextFile => throw .nextFile
    | .exit status => do
      match status with
      | some value =>
        let n := Number.truncated (← evaluate fuel value).toNumber
        modify fun running => { running with status := (n % 256).toNat }
      | none => pure ()
      throw .exit
    | .give value => do
      match value with
      | some value => throw (.give (← evaluate fuel value))
      | none => throw (.give .unset)

/-- Where something is written, with the name of the place. -/
def aim : Nat → Option (Way × Expr) → Act (Option (Way × Octets))
  | 0, _ => throw .failed
  | fuel + 1, target => do
    match target with
    | none => return none
    | some (way, expr) => return some (way, ← spell (← evaluate fuel expr))

end

/-! ## Programs -/

/-- How many levels deep a program can go. -/
def depth : Nat := 2000000

/-- Do what a rule says. -/
def Rule.act (rule : Rule) : Act Unit := do
  match rule.action with
  | some statements => executeAll system program depth statements
  | none => execute system program depth (.print [] none)

/-- Whether a rule is for the current record. -/
def Condition.applies (condition : Condition) : Act Bool := do
  let holds (expr : Expr) : Act Bool := do return (← evaluate system program depth expr).isTrue
  match condition with
  | .always => return true
  | .holds expr => holds expr
  | .range number first last => do
    let begun ← if (← get).ranges.contains number then pure true else holds first
    if begun then
      let ends ← holds last
      modify fun running =>
        let others := running.ranges.filter (· != number)
        { running with ranges := if ends then others else number :: others }
    return begun
  | _ => return false

/-- Do what the rules say for the current record. -/
def applyRules : List Rule → Act Unit
  | [] => return ()
  | rule :: rest => do
    if ← rule.condition.applies system program then rule.act system program
    applyRules rest

/-- Go through the records. -/
def forRecords : Nat → Act Unit
  | 0 => return ()
  | fuel + 1 => do
    match ← nextRecord? 100000 with
    | none => return ()
    | some text =>
      modify fun running => running.setRecord text
      match ← attempt (applyRules system program program.rules) with
      | .ok () => pure ()
      | .error .next => pure ()
      | .error .nextFile => modify fun running => { running with input := none }
      | .error leap => throw leap
      forRecords fuel

/-- Whether a rule is for times before or after all records. -/
def Condition.isBefore : Condition → Bool
  | .before => true
  | _ => false

/-- Whether a rule is for the time after all records. -/
def Condition.isAfter : Condition → Bool
  | .after => true
  | _ => false

/-- Run a program.  A mistake ends it with status 2. -/
def Program.run : Act Unit := do
  let named (isOne : Condition → Bool) : List Rule := program.rules.filter fun rule => isOne rule.condition
  let actAll (rules : List Rule) : Act Unit := rules.forM fun rule => rule.act system program
  let first ← attempt do
    actAll (named Condition.isBefore)
    if (program.rules.any fun rule => !rule.condition.isBefore) then
      forRecords system program 10000000
  let last ← match first with
    | .error .failed => pure first
    | _ => attempt (actAll (named Condition.isAfter))
  match last with
  | .error .failed => modify fun running => { running with status := 2 }
  | _ => pure ()
  closeAll system (← get).writers.reverse
  flush

/-! ## How a program is called -/

/-- What a call asks for. -/
structure Request where
  /-- The files of the program. -/
  files : List Octets := []
  /-- The names that are given values. -/
  assigned : List (Octets × Octets) := []
  separator : Option Octets := none
  operands : List Octets := []

/-- The request that words stand for; none if they cannot be understood.  The words after the first
operand are operands too. -/
def Request.ofArgs? (request : Request) : List Octets → Option Request
  | [] => some request
  | ['-', '-'] :: rest => some { request with operands := rest }
  | ('-' :: letter :: value) :: rest =>
    if !(['f', 'F', 'v'].contains letter) then none
    else
      match value, rest with
      | [], value :: rest => do (← withOption letter value).ofArgs? rest
      | [], [] => none
      | value, rest => do (← withOption letter value).ofArgs? rest
  | operands => some { request with operands }
where
  /-- The request with an option. -/
  withOption (letter : Char) (value : Octets) : Option Request :=
    match letter with
    | 'f' => some { request with files := request.files ++ [value] }
    | 'F' => some { request with separator := some (Token.unescape (value.length + 1) value) }
    | _ => do
      let (name, text) ← Text.cut? '=' value
      if isName name then
        return { request with
          assigned := request.assigned ++ [(name, Token.unescape (text.length + 1) text)] }
      else none

/-- The values that names have before a program begins. -/
def firstValues : List (String × Value) :=
  [("FS", .text [' ']), ("OFS", .text [' ']), ("ORS", .text ['\n']), ("RS", .text ['\n']),
    ("SUBSEP", .text ['\x1c']), ("CONVFMT", .text plainFormat), ("OFMT", .text plainFormat),
    ("NR", .number 0.0), ("FNR", .number 0.0), ("RSTART", .number 0.0), ("RLENGTH", .number (-1.0)),
    ("FILENAME", .text [])]

/-- A state in which a program can begin: its operands and the environment are in tables. -/
def Running.start (state : State) (name : Octets) (request : Request) (operands : List Octets) : Running :=
  let args := (name :: operands).zipIdx.foldl (fun (table : Table) (word, i) =>
    table.set (.number (i : Int)) (.ofInput word)) {}
  let values := (environment state).foldl (fun (table : Table) (name, value) =>
    table.set (.text name) (.ofInput value)) {}
  let globals := firstValues.map fun (name, value) => (name.toList, Held.value value)
  let globals := globals ++
    [("ARGC".toList, .value (.ofNat (operands.length + 1))), ("ARGV".toList, .table 0),
      ("ENVIRON".toList, .table 1)]
  let running : Running := { shell := state, globals, tables := #[args, values] }
  let running := match request.separator with
    | some text => running.assign "FS" (.text text)
    | none => running
  request.assigned.foldl (fun running (name, text) =>
    running.assign (String.ofList name) (.ofInput text)) running

/-- Run a record program, which runs commands in some way. -/
def launch (system : Octets → Step) (name : Octets) (args : List Octets) : Step := do
  let state ← get
  match Request.ofArgs? {} args with
  | none => Step.done 2
  | some request =>
    let source? : Option (Octets × List Octets) :=
      if request.files.isEmpty then
        match request.operands with
        | [] => none
        | text :: rest => some (text, rest)
      else
        match request.files.mapM (sourceOf? state) with
        | some texts => some ((texts.intersperse ['\n']).flatten, request.operands)
        | none => some ("(".toList, [])
    match source? with
    | none => Step.done 0
    | some (text, operands) =>
      match Program.ofText? text with
      | none => Step.done 2
      | some program =>
        let running := Running.start state (baseName name) request operands
        let (_, after) := (program.run system).run.run running
        set { after.shell with streams := state.streams }
        Step.done after.status
where
  /-- The text of a file of the program. -/
  sourceOf? (state : State) (name : Octets) : Option Octets :=
    if name == ['-'] then some (state.unread 0)
    else
      match state.world.files.read (state.path name) with
      | .ok content => some (Octets.ofArray content)
      | .error _ => none

end SiteScript.Rehearsal.Shell.Records
