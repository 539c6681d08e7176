import SiteScript.Rehearsal.Shell.Regex
import SiteScript.Rehearsal.Shell.Tool.Lines
import SiteScript.Rehearsal.Shell.Tool.Sorting

/-!
# SiteScript.Rehearsal.Shell.Tool.Calculate

The value of words: numbers and texts that are compared, combined and taken apart.
-/

namespace SiteScript.Rehearsal.Shell

namespace Calculate

/-- Why words have no value. -/
inductive Fault where
  | missing
  | unexpected (word : Octets)
  | notInteger
  | byZero
  | badExpression

/-- The wording of a fault. -/
def Fault.message : Fault → String
  | .missing => "syntax error: missing argument"
  | .unexpected word => "syntax error: unexpected argument " ++ inQuotes word
  | .notInteger => "non-integer argument"
  | .byZero => "division by zero"
  | .badExpression => "Invalid preceding regular expression"

/-- A value, and the words left. -/
abbrev Found := Except Fault (Octets × List Octets)

/-- The operators of a level, from the one that binds least. -/
def levels : List (List String) :=
  [["|"], ["&"], ["<", "<=", "=", "==", "!=", ">=", ">"], ["+", "-"], ["*", "/", "%"], [":"]]

/-- Whether a value counts as false. -/
def isNull (value : Octets) : Bool := value.isEmpty || integer? value == some 0

/-- The part of a text that an expression fits at its beginning, or how long that part is. -/
def matched (text pattern : Octets) : Except Fault Octets :=
  match Regex.ofText? { extended := false } pattern with
  | none => .error .badExpression
  | some regex =>
    match regex.matchAt? none text, decide (regex.groups > 0) with
    | some found, true => .ok ((found.place.groups.lookup 1).getD [])
    | some found, false => .ok (Octets.ofNat found.text.length)
    | none, true => .ok []
    | none, false => .ok ['0']

/-- What an operator makes of two values. -/
def operate (operator : String) (a b : Octets) : Except Fault Octets :=
  let numbers (f : Int → Int → Except Fault Int) : Except Fault Octets :=
    match integer? a, integer? b with
    | some x, some y => (f x y).map Decimal.ofInt
    | _, _ => .error .notInteger
  let compare (holds : Ordering → Bool) : Except Fault Octets :=
    let ordering := match integer? a, integer? b with
      | some x, some y => if x < y then Ordering.lt else if x > y then .gt else .eq
      | _, _ => compareBytes a b
    .ok (if holds ordering then ['1'] else ['0'])
  match operator with
  | "|" => .ok (if isNull a then if isNull b then ['0'] else b else a)
  | "&" => .ok (if isNull a || isNull b then ['0'] else a)
  | "<" => compare (· == .lt)
  | "<=" => compare (· != .gt)
  | "=" => compare (· == .eq)
  | "==" => compare (· == .eq)
  | "!=" => compare (· != .eq)
  | ">=" => compare (· != .lt)
  | ">" => compare (· == .gt)
  | "+" => numbers fun x y => .ok (x + y)
  | "-" => numbers fun x y => .ok (x - y)
  | "*" => numbers fun x y => .ok (x * y)
  | "/" => numbers fun x y => if y = 0 then .error .byZero else .ok (Int.tdiv x y)
  | "%" => numbers fun x y => if y = 0 then .error .byZero else .ok (Int.tmod x y)
  | _ => matched a b

/-- Whether the value before an operator is all that counts. -/
def isSettled (operator : String) (value : Octets) : Bool :=
  (operator == "|" && !isNull value) || (operator == "&" && isNull value)

/-- Go on with the operators of a level after a value; without `live` nothing is computed. -/
def climb (operand : Bool → List Octets → Found) (operators : List String) (live : Bool) :
    Nat → Octets → List Octets → Found
  | 0, _, _ => .error .missing
  | fuel + 1, value, words =>
    match words with
    | word :: rest =>
      let operator := String.ofList word
      if operators.contains operator then do
        let (other, rest) ← operand (live && !isSettled operator value) rest
        let value ← if live then operate operator value other else .ok value
        climb operand operators live fuel value rest
      else .ok (value, words)
    | [] => .ok (value, [])

/-- The part of a text from a place on, at most so long. -/
def part (text place size : Octets) : Octets :=
  match integer? place, integer? size with
  | some place, some size =>
    if place ≤ 0 || size ≤ 0 then [] else (text.drop (place.toNat - 1)).take size.toNat
  | _, _ => []

/-- The place of the first character of a text that is one of some. -/
def firstPlace (text chars : Octets) : Octets :=
  let before := text.takeWhile fun c => !chars.contains c
  if before.length = text.length then ['0'] else Octets.ofNat (before.length + 1)

/-- Evaluate a single word, a function or what stands in brackets. -/
def single (bracketed : Bool → List Octets → Found) (live : Bool) : Nat → List Octets → Found
  | 0, _ => .error .missing
  | _, [] => .error .missing
  | fuel + 1, word :: rest =>
    match String.ofList word with
    | "+" =>
      match rest with
      | word :: rest => .ok (word, rest)
      | [] => .error .missing
    | "length" => do
      let (text, rest) ← single bracketed live fuel rest
      return (Octets.ofNat text.length, rest)
    | "match" => do
      let (text, rest) ← single bracketed live fuel rest
      let (pattern, rest) ← single bracketed live fuel rest
      let value ← if live then matched text pattern else .ok []
      return (value, rest)
    | "index" => do
      let (text, rest) ← single bracketed live fuel rest
      let (chars, rest) ← single bracketed live fuel rest
      return (firstPlace text chars, rest)
    | "substr" => do
      let (text, rest) ← single bracketed live fuel rest
      let (place, rest) ← single bracketed live fuel rest
      let (size, rest) ← single bracketed live fuel rest
      return (part text place size, rest)
    | "(" => do
      let (value, rest) ← bracketed live rest
      match rest with
      | [')'] :: rest => return (value, rest)
      | word :: _ => .error (.unexpected word)
      | [] => .error .missing
    | ")" => .error (.unexpected word)
    | _ => .ok (word, rest)

/-- Evaluate words with the operators of some levels; `bracketed` is for what stands in brackets. -/
def evaluate (bracketed : Bool → List Octets → Found) : List (List String) → Bool → List Octets → Found
  | [], live, words => single bracketed live (words.length + 1) words
  | operators :: levels, live, words => do
    let (value, rest) ← evaluate bracketed levels live words
    climb (evaluate bracketed levels) operators live (words.length + 1) value rest

/-- Evaluate words, with brackets nested so deep at most. -/
def evaluateAll : Nat → Bool → List Octets → Found
  | 0, _, _ => .error .missing
  | fuel + 1, live, words => evaluate (evaluateAll fuel) levels live words

end Calculate

open Calculate in
/-- Write the value of words. -/
def calculate : Tool := fun call =>
  let args := if call.args.head? == some ['-', '-'] then call.args.tail else call.args
  match args with
  | [] => call.refuse 2 "missing operand"
  | args =>
    match evaluateAll (args.length + 1) true args with
    | .ok (value, []) =>
      { call.start.say (value ++ ['\n']) with status := if isNull value then 1 else 0 }
    | .ok (_, word :: _) =>
      call.start.complainWith 2 (call.name ++ ": " ++ (Fault.unexpected word).message)
    | .error fault => call.start.complainWith 2 (call.name ++ ": " ++ fault.message)

end SiteScript.Rehearsal.Shell
