import SiteScript.Rehearsal.Shell.Arithmetic
import SiteScript.Rehearsal.Shell.Tool.Basic

/-!
# SiteScript.Rehearsal.Shell.Tool.Test

Conditions on words, numbers and files.  Words are read from left to right; whether a word is an
operator depends on the words after it, so that any word can be an operand.
-/

namespace SiteScript.Rehearsal.Shell

namespace Condition

/-- What an operator does. -/
inductive Kind where
  | unary
  | binary
  | not
  | and
  | or
  | opening
  | closing
deriving DecidableEq

/-- The kind of a word that can be an operator. -/
def kind? (word : Octets) : Option Kind :=
  let text := String.ofList word
  if ["-r", "-w", "-x", "-e", "-f", "-d", "-c", "-b", "-p", "-u", "-g", "-k", "-s", "-t", "-z", "-n",
      "-h", "-O", "-G", "-L", "-S"].contains text then some .unary
  else if ["=", "!=", "<", ">", "-eq", "-ne", "-ge", "-gt", "-le", "-lt", "-nt", "-ot",
      "-ef"].contains text then some .binary
  else
    match text with
    | "!" => some .not
    | "-a" => some .and
    | "-o" => some .or
    | "(" => some .opening
    | ")" => some .closing
    | _ => none

/-- The operator that words begin with, if the first one is not an operand. -/
def operator? (words : List Octets) : Option Kind :=
  match words with
  | [] => none
  | word :: rest =>
    let isOperand : Bool := match rest with
      | [] => true
      | [_] => false
      | next :: _ => kind? next == some .binary
    match kind? word with
    | some .unary => if isOperand then none else some .unary
    | some .opening => if rest.isEmpty then none else some .opening
    | kind => kind

/-- The number that a word stands for. -/
def number? (word : Octets) : Option Int :=
  let text := word.dropWhile Octets.isSpace
  let (negative, digits) := match text with
    | '-' :: rest => (true, rest)
    | '+' :: rest => (false, rest)
    | _ => (false, text)
  let number := digits.takeWhile Char.isDigit
  if number.isEmpty || !(digits.drop number.length).all Octets.isSpace then none
  else
    let value : Int := if negative then -(Decimal.value number : Int) else Decimal.value number
    if Word.fitsSigned 64 value then some value else none

/-- Whether a condition on one word holds. -/
def unary (call : Call) (operator : String) (word : Octets) : Option Bool :=
  let entry := call.stat call.files word
  let exists? : Bool := match entry with
    | .ok _ => true
    | .error _ => false
  let isLink : Bool := match call.linkStat call.files word with
    | .ok (.link _) => true
    | _ => false
  match operator with
  | "-z" => some word.isEmpty
  | "-n" => some !word.isEmpty
  | "-t" => (number? word).map fun _ => false
  | "-f" =>
    match entry with
    | .ok (.file _ _) => some (word != "/dev/null".toList)
    | _ => some false
  | "-d" =>
    match entry with
    | .ok .directory => some true
    | _ => some false
  | "-s" =>
    match entry with
    | .ok (.file content _) => some (content.size != 0)
    | .ok _ => some true
    | .error _ => some false
  | "-x" =>
    match entry with
    | .ok (.file _ traits) => some (isExecutable traits.mode)
    | .ok _ => some true
    | .error _ => some false
  | "-c" => some (word == "/dev/null".toList)
  | "-b" => some false
  | "-p" => some false
  | "-S" => some false
  | "-L" => some isLink
  | "-h" => some isLink
  | "-u" => some false
  | "-g" => some false
  | "-k" => some false
  | _ => some exists?

/-- Whether a condition on two words holds. -/
def binary (call : Call) (operator : String) (a b : Octets) : Option Bool :=
  let compare (holds : Int → Int → Bool) : Option Bool := do
    let x ← number? a
    let y ← number? b
    return holds x y
  match operator with
  | "=" => some (a == b)
  | "!=" => some (a != b)
  | "<" => some (Octets.before a b)
  | ">" => some (Octets.before b a)
  | "-eq" => compare (· == ·)
  | "-ne" => compare (· != ·)
  | "-ge" => compare (· ≥ ·)
  | "-gt" => compare (· > ·)
  | "-le" => compare (· ≤ ·)
  | "-lt" => compare (· < ·)
  | "-ef" =>
    match call.files.locate? (call.path a), call.files.locate? (call.path b) with
    | some x, some y =>
      some (x == y || FileSystem.areOneFile (call.files.get? x) (call.files.get? y))
    | _, _ => some false
  | _ => some false

/-- A part of a condition: whether it holds, and the words from its last one on. -/
abbrev Answer := Option (Bool × List Octets)

/-- What is looked for: parts with an operator between them, a part that may be denied, or a part that
stands alone. -/
inductive Aim where
  | any
  | every
  | deniable
  | single
deriving DecidableEq

/-- Evaluate the words from the first on.  `operand` tells that the first one is no operator. -/
def evaluate (call : Call) : Nat → Aim → Bool → List Octets → Answer
  | 0, _, _, _ => none
  | fuel + 1, .any, operand, words => do
    let (a, last) ← evaluate call fuel .every operand words
    if operator? last.tail == some .or then
      let (b, last) ← evaluate call fuel .any false (last.drop 2)
      return (a || b, last)
    else return (a, last)
  | fuel + 1, .every, operand, words => do
    let (a, last) ← evaluate call fuel .deniable operand words
    if operator? last.tail == some .and then
      let (b, last) ← evaluate call fuel .every false (last.drop 2)
      return (a && b, last)
    else return (a, last)
  | fuel + 1, .deniable, operand, words =>
    if operand || operator? words != some .not then evaluate call fuel .single operand words
    else if words.tail.isEmpty then some (true, words)
    else (evaluate call fuel .deniable false words.tail).map fun (a, last) => (!a, last)
  | fuel + 1, .single, operand, words =>
    match words with
    | [] => some (false, [])
    | word :: rest =>
      match if operand then none else operator? words, rest with
      | some .opening, rest =>
        if operator? rest == some .closing then some (false, rest)
        else
          match evaluate call fuel .any false rest with
          | some (a, _ :: after) => if operator? after == some .closing then some (a, after) else none
          | _ => none
      | some .unary, [] => none
      | some .unary, value :: _ =>
        (unary call (String.ofList word) value).map fun a => (a, rest)
      | _, middle :: behind =>
        if operator? rest == some .binary then
          match behind with
          | value :: _ => (binary call (String.ofList middle) word value).map fun a => (a, behind)
          | [] => none
        else some (!word.isEmpty, words)
      | _, [] => some (!word.isEmpty, words)

/-- Whether the condition that words make up holds.  How many words there are decides first. -/
def holds? (call : Call) : Nat → List Octets → Option Bool
  | 0, _ => none
  | _, [] => some false
  | fuel + 1, words =>
    let whole (operand : Bool) (words : List Octets) : Option Bool := do
      let (a, last) ← evaluate call (8 * (words.length + 1)) .any operand words
      if last.length > 1 then none else return a
    let denied : Option Bool := (holds? call fuel words.tail).map (!·)
    let bracketed := words.head? == some ['('] && words.getLast? == some [')']
    match words.length with
    | 3 =>
      if (words[1]?.bind kind?) == some .binary then whole true words
      else if bracketed then whole false words.tail.dropLast
      else if words.head? == some ['!'] then denied
      else whole false words
    | 4 =>
      if bracketed then whole false words.tail.dropLast
      else if words.head? == some ['!'] then denied
      else whole false words
    | _ => whole false words

end Condition

/-- Test a condition: the status is zero if it holds, one if not, and two if it is none. -/
def test : Tool := fun call =>
  let words? := if call.name == "[" then
      if call.args.getLast? == some [']'] then some call.args.dropLast else none
    else some call.args
  match words?.bind fun words => Condition.holds? call (words.length + 1) words with
  | some holds => { call.start with status := if holds then 0 else 1 }
  | none => call.start.complainWith 2 (call.name ++ ": unexpected operator")

end SiteScript.Rehearsal.Shell
