import SiteScript.Rehearsal.Shell.Octets
import SiteScript.Word

/-!
# SiteScript.Rehearsal.Shell.Arithmetic

Sums: whole numbers of 64 bits, variables, the usual operators of integers and bits, choices and
assignments.  `evaluate` reads a sum and gives its value with the variables it assigns.
-/

namespace SiteScript.Rehearsal.Shell.Arithmetic

/-! ## Numbers -/

/-- A number as a signed word. -/
def wrap (n : Int) : Int := Int.bmod n (Word.values 64)

/-- The value of a digit in any base up to sixteen. -/
def digit? (base : Nat) (c : Char) : Option Nat :=
  let value? :=
    if c.isDigit then some (Decimal.digitValue c)
    else if 'a' ≤ c && c ≤ 'f' then some (c.toNat - 'a'.toNat + 10)
    else if 'A' ≤ c && c ≤ 'F' then some (c.toNat - 'A'.toNat + 10)
    else none
  value?.filter (· < base)

/-- The digits of a base at the beginning of a text: their value, their number, and the rest. -/
def cutDigits (base value count : Nat) : Octets → Nat × Nat × Octets
  | [] => (value, count, [])
  | c :: rest =>
    match digit? base c with
    | some d => cutDigits base (base * value + d) (count + 1) rest
    | none => (value, count, c :: rest)

/-- The number without a sign at the beginning of a text, if there is one, and the rest.  The base is
told by the first characters. -/
def cutNumber? (text : Octets) : Option (Nat × Octets) :=
  let decimal (base : Nat) (text : Octets) : Option (Nat × Octets) :=
    match cutDigits base 0 0 text with
    | (_, 0, _) => none
    | (value, _, rest) => some (value, rest)
  match text with
  | '0' :: x :: rest =>
    if x == 'x' || x == 'X' then
      match decimal 16 rest with
      | some found => some found
      | none => some (0, x :: rest)
    else decimal 8 text
  | _ => decimal 10 text

/-- A number that does not fit in a word becomes the nearest that does. -/
def clamp (n : Int) : Int := max (Word.minSigned 64) (min n (Word.maxSigned 64))

/-- The signed number at the beginning of a text, after blanks, and the rest. -/
def cutSigned? (text : Octets) : Option (Int × Octets) :=
  let text := text.dropWhile Octets.isSpace
  let (negative, digits) := match text with
    | '-' :: rest => (true, rest)
    | '+' :: rest => (false, rest)
    | _ => (false, text)
  (cutNumber? digits).map fun (n, rest) => (clamp (if negative then -(n : Int) else n), rest)

/-- The value of a variable: nothing is zero, and blanks around a number do not count. -/
def valueOf? (text : Octets) : Option Int :=
  if text.all Octets.isSpace then some 0
  else
    match cutSigned? text with
    | some (n, rest) => if rest.all Octets.isSpace then some n else none
    | none => none

/-! ## Reading -/

/-- A token of a sum. -/
inductive Token where
  | number (value : Int)
  | name (name : Octets)
  | mark (text : String)
deriving DecidableEq

/-- The operators, those that begin like a longer one after it. -/
def marks : List String :=
  ["<<=", ">>=", "<<", ">>", "<=", ">=", "==", "!=", "&&", "||", "+=", "-=", "*=", "/=", "%=",
    "&=", "^=", "|=", "+", "-", "*", "/", "%", "<", ">", "=", "!", "~", "&", "^", "|", "?", ":",
    "(", ")"]

/-- The tokens of a sum. -/
def tokens? : Nat → Octets → Option (List Token)
  | _, [] => some []
  | 0, _ => none
  | fuel + 1, c :: rest =>
    if Octets.isSpace c then tokens? fuel rest
    else if c.isDigit then do
      let (n, rest) ← cutNumber? (c :: rest)
      return .number (clamp n) :: (← tokens? fuel rest)
    else if isNameStart c then do
      let name := (c :: rest).takeWhile isNameChar
      return .name name :: (← tokens? fuel ((c :: rest).dropWhile isNameChar))
    else do
      let mark ← marks.find? fun mark => Text.startsWith mark.toList (c :: rest)
      return .mark mark :: (← tokens? fuel ((c :: rest).drop mark.length))

/-- A sum. -/
inductive Expr where
  | number (value : Int)
  | name (name : Octets)
  | unary (operator : String) (operand : Expr)
  | binary (operator : String) (left right : Expr)
  | choice (condition yes no : Expr)
  /-- The operator is empty for a plain assignment. -/
  | assign (name : Octets) (operator : String) (value : Expr)
deriving DecidableEq

/-- The operators with two operands, those that bind least first. -/
def levels : List (List String) :=
  [["||"], ["&&"], ["|"], ["^"], ["&"], ["==", "!="], ["<", "<=", ">", ">="], ["<<", ">>"],
    ["+", "-"], ["*", "/", "%"]]

/-- A reader of sums. -/
abbrev Parser := List Token → Option (Expr × List Token)

/-- Read operands as long as operators of one level stand between them. -/
def climb (operand : Parser) (operators : List String) : Nat → Expr → Parser
  | 0, _, _ => none
  | fuel + 1, left, tokens =>
    match tokens with
    | .mark operator :: rest =>
      if operators.contains operator then do
        let (right, rest) ← operand rest
        climb operand operators fuel (.binary operator left right) rest
      else some (left, tokens)
    | _ => some (left, tokens)

/-- The operators of assignments. -/
def assignments : List (String × String) :=
  [("=", ""), ("+=", "+"), ("-=", "-"), ("*=", "*"), ("/=", "/"), ("%=", "%"), ("<<=", "<<"),
    (">>=", ">>"), ("&=", "&"), ("^=", "^"), ("|=", "|")]

/-- What a reader looks for: an assignment, a choice, or operands of a level and those above. -/
inductive Aim where
  | assignment
  | choice
  | level (levels : List (List String))
deriving DecidableEq

/-- Read a sum. -/
def parse? : Nat → Aim → Parser
  | 0, _, _ => none
  | fuel + 1, .assignment, tokens =>
    match tokens with
    | .name name :: .mark mark :: rest =>
      match assignments.lookup mark with
      | some operator => do
        let (value, rest) ← parse? fuel .assignment rest
        return (.assign name operator value, rest)
      | none => parse? fuel .choice tokens
    | _ => parse? fuel .choice tokens
  | fuel + 1, .choice, tokens => do
    let (condition, rest) ← parse? fuel (.level levels) tokens
    match rest with
    | .mark "?" :: rest =>
      let (yes, rest) ← parse? fuel .assignment rest
      match rest with
      | .mark ":" :: rest =>
        let (no, rest) ← parse? fuel .choice rest
        return (.choice condition yes no, rest)
      | _ => none
    | rest => return (condition, rest)
  | fuel + 1, .level (operators :: above), tokens => do
    let (left, rest) ← parse? fuel (.level above) tokens
    climb (parse? fuel (.level above)) operators (rest.length + 1) left rest
  | fuel + 1, .level [], tokens =>
    match tokens with
    | .number value :: rest => some (.number value, rest)
    | .name name :: rest => some (.name name, rest)
    | .mark "(" :: rest =>
      match parse? fuel .assignment rest with
      | some (value, .mark ")" :: rest) => some (value, rest)
      | _ => none
    | .mark operator :: rest =>
      if ["+", "-", "!", "~"].contains operator then do
        let (operand, rest) ← parse? fuel (.level []) rest
        return (.unary operator operand, rest)
      else none
    | [] => none

/-! ## Values -/

/-- The value of a condition. -/
def truth (b : Bool) : Int := if b then 1 else 0

/-- A signed word with its bits combined one by one with those of another. -/
def bitwise (combine : Nat → Nat → Nat) (a b : Int) : Int :=
  let unsigned (n : Int) : Nat := (n % (Word.values 64 : Int)).toNat
  wrap (combine (unsigned a) (unsigned b))

/-- The value of an operator with two operands; none for a division by zero. -/
def operate? (operator : String) (a b : Int) : Option Int :=
  let count := (b % 64).toNat
  match operator with
  | "|" => some (bitwise Nat.lor a b)
  | "^" => some (bitwise Nat.xor a b)
  | "&" => some (bitwise Nat.land a b)
  | "==" => some (truth (a == b))
  | "!=" => some (truth (a != b))
  | "<" => some (truth (a < b))
  | "<=" => some (truth (a ≤ b))
  | ">" => some (truth (a > b))
  | ">=" => some (truth (a ≥ b))
  | "<<" => some (wrap (a * Word.values count))
  | ">>" => some (Int.fdiv a (Word.values count))
  | "+" => some (wrap (a + b))
  | "-" => some (wrap (a - b))
  | "*" => some (wrap (a * b))
  | "/" => if b = 0 then none else some (wrap (Int.tdiv a b))
  | "%" => if b = 0 then none else some (Int.tmod a b)
  | _ => some b

/-- The value of an operator with one operand. -/
def operateOne (operator : String) (a : Int) : Int :=
  match operator with
  | "-" => wrap (-a)
  | "!" => truth (a == 0)
  | "~" => wrap (-a - 1)
  | _ => a

/-- Variables as they are known so far, the latest value first. -/
abbrev Values := List (Octets × Octets)

/-- The value of a sum, where `outside` gives the variables that it did not assign itself. -/
def Expr.value? (outside : Octets → Octets) : Expr → Values → Option (Int × Values)
  | .number value, values => some (value, values)
  | .name label, values =>
    (valueOf? ((values.lookup label).getD (outside label))).map fun value => (value, values)
  | .unary operator operand, values => do
    let (a, values) ← operand.value? outside values
    return (operateOne operator a, values)
  | .binary operator left right, values => do
    let (a, values) ← left.value? outside values
    if operator == "&&" && a == 0 then return (0, values)
    else if operator == "||" && a != 0 then return (1, values)
    else
      let (b, values) ← right.value? outside values
      if operator == "&&" || operator == "||" then return (truth (b != 0), values)
      else return (← operate? operator a b, values)
  | .choice condition yes no, values => do
    let (a, values) ← condition.value? outside values
    if a != 0 then yes.value? outside values else no.value? outside values
  | .assign target operator value, values => do
    let (b, values) ← value.value? outside values
    let result ←
      if operator.isEmpty then some b
      else do
        let a ← valueOf? ((values.lookup target).getD (outside target))
        operate? operator a b
    return (result, (target, Decimal.ofInt result) :: values)

/-- The value of a sum and the variables it assigns, the latest first; none when it is not a sum or has
no value. -/
def evaluate? (outside : Octets → Octets) (text : Octets) : Option (Int × Values) := do
  let tokens ← tokens? (text.length + 1) text
  match parse? (16 * (tokens.length + 1)) .assignment tokens with
  | some (sum, []) => sum.value? outside []
  | _ => none

end SiteScript.Rehearsal.Shell.Arithmetic
