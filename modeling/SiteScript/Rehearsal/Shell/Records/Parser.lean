import SiteScript.Rehearsal.Shell.Records.Token

/-!
# SiteScript.Rehearsal.Shell.Records.Parser

Reading record programs.  Expressions are read by the strength of their marks, from the weakest to the
strongest; what stands in brackets is a whole expression again, which is read one level deeper.

In what is to be written, the mark `>` says where, so it compares only in brackets.
-/

namespace SiteScript.Rehearsal.Shell.Records

/-- A reader takes tokens off a list, and may fail. -/
abbrev Parser := StateT (List Token) Option

namespace Parser

/-! ## Single tokens -/

/-- The next token. -/
def peek : Parser (Option Token) := do return (← get).head?

/-- Take the next token. -/
def skip : Parser Unit := modify List.tail

/-- Whether a token is a mark. -/
def isMark (sign : String) : Option Token → Bool
  | some (.mark text) => text == sign
  | _ => false

/-- Whether a token is a word that makes up programs. -/
def isKeyword (word : String) : Option Token → Bool
  | some (.keyword text) => text == word
  | _ => false

/-- Take a mark if it is the next token. -/
def accept (sign : String) : Parser Bool := do
  let found := isMark sign (← peek)
  if found then skip
  return found

/-- Take a word if it is the next token. -/
def acceptWord (word : String) : Parser Bool := do
  let found := isKeyword word (← peek)
  if found then skip
  return found

/-- Take a mark, which must be there. -/
def expect (sign : String) : Parser Unit := do
  if !(← accept sign) then failure

/-- Take a name, which must be there. -/
def expectName : Parser Octets := do
  match ← peek with
  | some (.name name) =>
    skip
    return name
  | _ => failure

/-- Take ends of lines. -/
def skipLines : Parser Unit := do
  modify fun tokens => tokens.dropWhile fun
    | .lineEnd => true
    | _ => false

/-! ## Chains -/

/-- Operands with marks between them, taken together from the left. -/
def chain (operand : Parser Expr) (combine? : Parser (Option (Expr → Expr → Expr))) :
    Nat → Expr → Parser Expr
  | 0, left => return left
  | fuel + 1, left => do
    match ← combine? with
    | none => return left
    | some combine => chain operand combine? fuel (combine left (← operand))

/-- What a mark between two operands makes of them, if the next token is one of some marks. -/
def combination (table : List (String × (Expr → Expr → Expr))) (after : Parser Unit) :
    Parser (Option (Expr → Expr → Expr)) := do
  match ← peek with
  | some (.mark sign) =>
    match table.lookup sign with
    | some combine =>
      skip
      after
      return some combine
    | none => return none
  | _ => return none

/-- Whether an expression is a place that can have a value. -/
def isPlace : Expr → Bool
  | .name _ => true
  | .element _ _ => true
  | .field _ => true
  | _ => false

/-- Values with commas between them; lines may end after a comma. -/
def list (item : Parser Expr) : Nat → Parser (List Expr)
  | 0 => failure
  | fuel + 1 => do
    let first ← item
    if ← accept "," then
      skipLines
      return first :: (← list item fuel)
    else return [first]

/-! ## Operands -/

/-- How many values a function takes: at least and at most so many. -/
def arity : Builtin → Nat × Nat
  | .length => (0, 1)
  | .substr => (2, 3)
  | .index => (2, 2)
  | .split => (2, 3)
  | .sub => (2, 3)
  | .gsub => (2, 3)
  | .occurrence => (2, 2)
  | .sprintf => (1, 1000)
  | .atan2 => (2, 2)
  | .rand => (0, 0)
  | .srand => (0, 1)
  | .fflush => (0, 1)
  | .systime => (0, 0)
  | _ => (1, 1)

/-- Values in brackets. -/
def values (inner : Bool → Parser Expr) : Parser (List Expr) := do
  expect "("
  if ← accept ")" then return []
  else
    let found ← list (inner false) (← get).length
    expect ")"
    return found

/-- Whether a token ends a statement, or says where something is written. -/
def endsStatement : Option Token → Bool
  | none => true
  | some .lineEnd => true
  | some (.mark sign) => [";", "\x7d", ">", ">>", "|"].contains sign
  | _ => false

/-- What stands in brackets: a value, keys that are looked for in a table, or several values. -/
def bracketed (inner : Bool → Parser Expr) : Parser Expr := do
  let found ← values inner
  match found with
  | [] => failure
  | [value] => return value
  | keys =>
    if ← acceptWord "in" then return .member keys (← expectName)
    else if endsStatement (← peek) then return .several keys
    else failure

/-- A function of every program with its values. -/
def builtinCall (inner : Bool → Parser Expr) (function : Builtin) : Parser Expr := do
  let args ← if function = .length && !isMark "(" (← peek) then pure [] else values inner
  let (least, most) := arity function
  if args.length < least || most < args.length then failure
  else return .builtin function args

/-- A name, perhaps with keys. -/
def named (inner : Bool → Parser Expr) (name : Octets) : Parser Expr := do
  if ← accept "[" then
    let keys ← list (inner false) (← get).length
    expect "]"
    return .element name keys
  else return .name name

/-- An operand without marks after it. -/
def primary (inner : Bool → Parser Expr) : Nat → Parser Expr
  | 0 => failure
  | fuel + 1 => do
    let token ← peek
    match token with
    | some (.number value) => skip; return .number value
    | some (.literal value) => skip; return .text value
    | some (.pattern regex) => skip; return .pattern regex
    | some (.builtin function) => skip; builtinCall inner function
    | some (.callee name) => skip; return .call name (← values inner)
    | some (.name name) => skip; named inner name
    | some (.mark "(") => bracketed inner
    | some (.mark "$") =>
      skip
      let sign ← peek
      if isMark "-" sign then
        skip
        return .field (.negate (← primary inner fuel))
      else if isMark "+" sign then
        skip
        return .field (.numeric (← primary inner fuel))
      else return .field (← primary inner fuel)
    | some (.mark "++") => skip; counted true (← primary inner fuel)
    | some (.mark "--") => skip; counted false (← primary inner fuel)
    | some (.keyword "getline") =>
      skip
      let target ← target? fuel
      if ← accept "<" then return .readFile target (← primary inner fuel)
      else return .readNext target
    | _ => failure
where
  /-- A place that is counted before its value is taken. -/
  counted (up : Bool) (place : Expr) : Parser Expr :=
    if isPlace place then return .count up true place else failure
  /-- The place that a record goes to. -/
  target? (fuel : Nat) : Parser (Option Expr) := do
    match ← peek with
    | some (.name _) => return some (← primary inner fuel)
    | some (.mark "$") => return some (← primary inner fuel)
    | _ => return none

/-- An operand, perhaps counted after its value is taken. -/
def postfixed (inner : Bool → Parser Expr) : Parser Expr := do
  let value ← primary inner (← get).length
  if !isPlace value then return value
  else if ← accept "++" then return .count true false value
  else if ← accept "--" then return .count false false value
  else return value

/-- A power.  Its exponent can have a sign. -/
def power (inner : Bool → Parser Expr) : Nat → Parser Expr
  | 0 => failure
  | fuel + 1 => do
    let base ← postfixed inner
    if ← accept "^" then return .compute .power base (← exponent fuel)
    else return base
where
  /-- What stands after the mark of a power. -/
  exponent (fuel : Nat) : Parser Expr := do
    if ← accept "-" then return .negate (← power inner fuel)
    else if ← accept "+" then return .numeric (← power inner fuel)
    else if ← accept "!" then return .not (← power inner fuel)
    else power inner fuel

/-- Records that are read from what a command writes. -/
def piped (inner : Bool → Parser Expr) : Nat → Expr → Parser Expr
  | 0, command => return command
  | fuel + 1, command => do
    match ← get with
    | .mark "|" :: .keyword "getline" :: rest =>
      set rest
      let target ← match rest.head? with
        | some (.name _) => pure (some (← primary inner rest.length))
        | some (.mark "$") => pure (some (← primary inner rest.length))
        | _ => pure none
      piped inner fuel (.readCommand target command)
    | _ => return command

/-- An operand with signs before it. -/
def signed (inner : Bool → Parser Expr) : Nat → Parser Expr
  | 0 => failure
  | fuel + 1 => do
    if ← accept "!" then return .not (← signed inner fuel)
    else if ← accept "-" then return .negate (← signed inner fuel)
    else if ← accept "+" then return .numeric (← signed inner fuel)
    else
      let base ← power inner (← get).length
      piped inner (← get).length base

/-! ## Expressions by strength -/

/-- Products. -/
def product (inner : Bool → Parser Expr) : Parser Expr := do
  let operand : Parser Expr := do signed inner ((← get).length + 1)
  let table := [("*", Expr.compute .multiply), ("/", .compute .divide), ("%", .compute .remainder)]
  let first ← operand
  chain operand (combination table (return ())) (← get).length first

/-- Sums. -/
def sum (inner : Bool → Parser Expr) : Parser Expr := do
  let table := [("+", Expr.compute .add), ("-", .compute .subtract)]
  let first ← product inner
  chain (product inner) (combination table (return ())) (← get).length first

/-- Whether a token can begin an operand that is joined to the one before. -/
def beginsOperand : Option Token → Bool
  | some (.number _) => true
  | some (.literal _) => true
  | some (.pattern _) => true
  | some (.name _) => true
  | some (.callee _) => true
  | some (.builtin _) => true
  | some (.mark sign) => ["$", "(", "!", "++", "--"].contains sign
  | _ => false

/-- Texts that are joined. -/
def joining (inner : Bool → Parser Expr) : Parser Expr := do
  let next? : Parser (Option (Expr → Expr → Expr)) := do
    return if beginsOperand (← peek) then some .joined else none
  let first ← sum inner
  chain (sum inner) next? (← get).length first

/-- The marks that give a place a value. -/
def assignments : List (String × Option Operator) :=
  [("=", none), ("+=", some .add), ("-=", some .subtract), ("*=", some .multiply),
    ("/=", some .divide), ("%=", some .remainder), ("^=", some .power)]

/-- A value, or a place that is given one. -/
def assigning (inner : Bool → Parser Expr) (writing : Bool) : Parser Expr := do
  let left ← joining inner
  match ← peek with
  | some (.mark sign) =>
    match assignments.lookup sign with
    | some operator =>
      if isPlace left then
        skip
        return .assign operator left (← inner writing)
      else failure
    | none => return left
  | _ => return left

/-- Comparisons. -/
def comparing (inner : Bool → Parser Expr) (writing : Bool) : Parser Expr := do
  let table := [("<", Expr.compare .less), ("<=", .compare .lessOrEqual), ("==", .compare .equal),
    ("!=", .compare .different), (">=", .compare .greaterOrEqual)]
  let table := if writing then table else (">", .compare .greater) :: table
  let first ← assigning inner writing
  chain (assigning inner writing) (combination table (return ())) (← get).length first

/-- Patterns that are looked for. -/
def matching (inner : Bool → Parser Expr) (writing : Bool) : Parser Expr := do
  let table := [("~", Expr.occurs false), ("!~", .occurs true)]
  let first ← comparing inner writing
  chain (comparing inner writing) (combination table (return ())) (← get).length first

/-- Keys that are looked for in tables. -/
def containing : Nat → Expr → Parser Expr
  | 0, key => return key
  | fuel + 1, key => do
    if ← acceptWord "in" then containing fuel (.member [key] (← expectName)) else return key

/-- Conditions that both hold. -/
def conjunction (inner : Bool → Parser Expr) (writing : Bool) : Parser Expr := do
  let operand : Parser Expr := do
    let first ← matching inner writing
    containing (← get).length first
  let first ← operand
  chain operand (combination [("&&", .both)] skipLines) (← get).length first

/-- Conditions of which one holds. -/
def disjunction (inner : Bool → Parser Expr) (writing : Bool) : Parser Expr := do
  let first ← conjunction inner writing
  chain (conjunction inner writing) (combination [("||", .either)] skipLines) (← get).length first

/-- An expression, nested so deep at most; `writing` tells that it is to be written. -/
def expression : Nat → Bool → Parser Expr
  | 0, _ => failure
  | depth + 1, writing => do
    let inner := expression depth
    let condition ← disjunction inner writing
    if ← accept "?" then
      skipLines
      let yes ← inner writing
      skipLines
      expect ":"
      skipLines
      return .choose condition yes (← inner writing)
    else return condition

/-- How deep expressions and statements may be nested. -/
def maxDepth : Nat := 200

/-- A whole expression. -/
def anExpression (writing : Bool) : Parser Expr := expression maxDepth writing

/-! ## Statements -/

/-- Where a statement stands. -/
structure Place where
  inLoop : Bool := false
  inFunction : Bool := false
  /-- Whether it is run for records. -/
  forRecords : Bool := false

/-- Take the end of a statement. -/
def endStatement : Parser Unit := do
  match ← peek with
  | none => return ()
  | some .lineEnd => skipLines
  | some (.mark ";") =>
    skip
    skipLines
  | some (.mark "\x7d") => return ()
  | _ => failure

/-- What is written, and where. -/
def writing : Parser (List Expr × Option (Way × Expr)) := do
  let found ← if endsStatement (← peek) then pure []
    else list (anExpression true) (← get).length
  let found := match found with
    | [.several values] => values
    | found => found
  let way? := match ← peek with
    | some (.mark ">") => some Way.file
    | some (.mark ">>") => some .append
    | some (.mark "|") => some .command
    | _ => none
  match way? with
  | none => return (found, none)
  | some way =>
    skip
    return (found, some (way, ← anExpression true))

/-- A statement that can also stand in the head of a loop. -/
def simple : Parser Statement := do
  match ← peek with
  | some (.keyword "print") =>
    skip
    let (found, target) ← writing
    return .print found target
  | some (.keyword "printf") =>
    skip
    let (found, target) ← writing
    if found.isEmpty then failure else return .printf found target
  | some (.keyword "delete") =>
    skip
    let name ← expectName
    if ← accept "[" then
      let keys ← list (anExpression false) (← get).length
      expect "]"
      return .delete name (some keys)
    else return .delete name none
  | _ =>
    match ← anExpression false with
    | .several _ => failure
    | value => return .expression value

/-- A condition in brackets. -/
def condition : Parser Expr := do
  expect "("
  let found ← anExpression false
  expect ")"
  return found

/-- The value after a word that ends something, if there is one. -/
def optionalValue : Parser (Option Expr) := do
  match ← peek with
  | none => return none
  | some .lineEnd => return none
  | some (.mark ";") => return none
  | some (.mark "\x7d") => return none
  | _ => return some (← anExpression false)

/-- The head of a loop over keys: the name and the table. -/
def eachHead : Parser (Option (Octets × Octets)) := do
  match ← get with
  | .name name :: .keyword "in" :: .name table :: .mark ")" :: rest =>
    set rest
    return some (name, table)
  | _ => return none

/-- Statements up to a closing brace. -/
def statements (statement : Parser Statement) : Nat → Parser (List Statement)
  | 0 => failure
  | fuel + 1 => do
    skipLines
    if ← accept "\x7d" then return []
    else if (← peek).isNone then failure
    else
      let first ← statement
      return first :: (← statements statement fuel)

/-- A statement, nested so deep at most. -/
def statement (place : Place) : Nat → Parser Statement
  | 0 => failure
  | depth + 1 => do
    let inside := statement place depth
    let inLoop := statement { place with inLoop := true } depth
    let body : Parser Statement := do
      if ← accept ";" then return .block []
      else
        skipLines
        inLoop
    match ← peek with
    | some (.mark "\x7b") =>
      skip
      let found ← statements inside (← get).length
      skipLines
      return .block found
    | some (.mark ";") =>
      skip
      skipLines
      return .block []
    | some (.keyword "if") =>
      skip
      let found ← condition
      skipLines
      let yes ← inside
      skipLines
      if ← acceptWord "else" then
        skipLines
        return .choose found yes (some (← inside))
      else return .choose found yes none
    | some (.keyword "while") =>
      skip
      let found ← condition
      return .repeatWhile found (← body)
    | some (.keyword "do") =>
      skip
      skipLines
      let found ← inLoop
      skipLines
      if !(← acceptWord "while") then failure
      let until' ← condition
      endStatement
      return .repeatAfter found until'
    | some (.keyword "for") =>
      skip
      expect "("
      match ← eachHead with
      | some (name, table) => return .each name table (← body)
      | none =>
        let first ← if isMark ";" (← peek) then pure none else pure (some (← simple))
        expect ";"
        skipLines
        let found ← if isMark ";" (← peek) then pure none else pure (some (← anExpression false))
        expect ";"
        skipLines
        let step ← if isMark ")" (← peek) then pure none else pure (some (← simple))
        expect ")"
        return .loop first found step (← body)
    | some (.keyword "break") => skip; ending place.inLoop .leave
    | some (.keyword "continue") => skip; ending place.inLoop .again
    | some (.keyword "next") => skip; ending place.forRecords .next
    | some (.keyword "nextfile") => skip; ending place.forRecords .nextFile
    | some (.keyword "exit") =>
      skip
      let value ← optionalValue
      ending true (.exit value)
    | some (.keyword "return") =>
      skip
      let value ← optionalValue
      ending place.inFunction (.give value)
    | _ =>
      let found ← simple
      endStatement
      return found
where
  /-- A statement that is allowed where it stands, with its end. -/
  ending (allowed : Bool) (found : Statement) : Parser Statement := do
    if !allowed then failure
    endStatement
    return found

/-! ## Programs -/

/-- Statements in braces. -/
def action (place : Place) : Parser (List Statement) := do
  expect "\x7b"
  statements (statement place maxDepth) (← get).length

/-- The condition of a rule; ranges are numbered. -/
def ruleCondition (number : Nat) : Parser Condition := do
  let first ← anExpression false
  if ← accept "," then
    skipLines
    return .range number first (← anExpression false)
  else return .holds first

/-- The parameters of a function. -/
def parameters : Nat → Parser (List Octets)
  | 0 => failure
  | fuel + 1 => do
    let first ← expectName
    if ← accept "," then
      skipLines
      return first :: (← parameters fuel)
    else return [first]

/-- Read a rule or a function. -/
def item (program : Program) : Parser Program := do
  let add (rule : Rule) : Program := { program with rules := program.rules ++ [rule] }
  match ← peek with
  | some (.keyword "BEGIN") =>
    skip
    return add ⟨.before, some (← action {})⟩
  | some (.keyword "END") =>
    skip
    return add ⟨.after, some (← action {})⟩
  | some (.keyword "function") =>
    skip
    let name ← match ← peek with
      | some (.callee name) => pure name
      | some (.name name) => pure name
      | _ => failure
    skip
    expect "("
    let names ← if isMark ")" (← peek) then pure [] else parameters (← get).length
    expect ")"
    skipLines
    let body ← action { inFunction := true }
    return { program with functions := program.functions ++ [(name, ⟨names, body⟩)] }
  | some (.mark "\x7b") => return add ⟨.always, some (← action { forRecords := true })⟩
  | _ =>
    let found ← ruleCondition program.rules.length
    if isMark "\x7b" (← peek) then return add ⟨found, some (← action { forRecords := true })⟩
    else
      match ← peek with
      | none => return add ⟨found, none⟩
      | some .lineEnd => return add ⟨found, none⟩
      | some (.mark ";") => return add ⟨found, none⟩
      | _ => failure

/-- Read rules and functions to the end. -/
def items : Nat → Program → Parser Program
  | 0, _ => failure
  | fuel + 1, program => do
    if (← peek).isNone then return program
    else
      let program ← item program
      let _ ← accept ";"
      skipLines
      items fuel program

end Parser

/-- The tokens in which names that stand for functions are marked as such. -/
def markFunctions (names : List Octets) : List Token → List Token
  | .name name :: .mark "(" :: rest =>
    (if names.contains name then .callee name else .name name) :: .mark "(" :: markFunctions names rest
  | token :: rest => token :: markFunctions names rest
  | [] => []

/-- The names of the functions that a program has. -/
def functionNames : List Token → List Octets
  | .keyword "function" :: .callee name :: rest => name :: functionNames rest
  | .keyword "function" :: .name name :: rest => name :: functionNames rest
  | _ :: rest => functionNames rest
  | [] => []

/-- The program that a text stands for.  All functions that are called must be there. -/
def Program.ofText? (text : Octets) : Option Program := do
  let tokens ← Token.ofText? text
  let names := functionNames tokens
  let tokens := markFunctions names tokens
  let isKnown : Token → Bool
    | .callee name => names.contains name
    | _ => true
  if !tokens.all isKnown then none
  else
    let (program, _) ← (do
      Parser.skipLines
      Parser.items (tokens.length + 1) {} : Parser Program).run tokens
    return program

end SiteScript.Rehearsal.Shell.Records
