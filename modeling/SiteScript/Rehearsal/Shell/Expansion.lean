import SiteScript.Rehearsal.Shell.Arithmetic
import SiteScript.Rehearsal.Shell.Pattern
import SiteScript.Rehearsal.Shell.State

/-!
# SiteScript.Rehearsal.Shell.Expansion

What words stand for when a command runs.  The pieces of a word become elements: characters that know
where they come from (`Mark`), because only what comes from a parameter, a command or a sum is split
into fields, and only what was not quoted can be part of a pattern.  `fields` splits elements,
`Pattern.fileNames` finds the files, and `expandWord` does all of it.

An expander changes the state of the shell, and may fail; then the shell ends.  Running the commands
in a word is given as an argument.
-/

namespace SiteScript.Rehearsal.Shell

/-! ## Elements -/

/-- Where a character comes from. -/
inductive Mark where
  | literal
  | quoted
  | expanded
deriving DecidableEq

/-- A part of what a word stands for. -/
inductive Element where
  | char (c : Char) (mark : Mark)
  /-- Nothing, but quoted: there is a field even if nothing else is in it. -/
  | empty
  /-- The end of a field. -/
  | break
deriving DecidableEq

/-- The elements of a text. -/
def elementsOf (mark : Mark) (text : Octets) : List Element := text.map (.char · mark)

/-- The mark of values. -/
def valueMark (quoted : Bool) : Mark := if quoted then .quoted else .expanded

/-- An element of a word that stands for a value: what is not quoted can be split. -/
def Element.toValue : Element → Element
  | .char c .literal => .char c .expanded
  | element => element

/-- The text of elements that are not split, with a text where fields would end. -/
def textOf (separator : Octets) (elements : List Element) : Octets :=
  elements.flatMap fun
    | .char c _ => [c]
    | .empty => []
    | .break => separator

/-- The characters of a pattern, with a text where fields would end. -/
def markedOf (separator : Octets) (elements : List Element) : List Marked :=
  elements.flatMap fun
    | .char c mark => [(c, mark == .quoted)]
    | .empty => []
    | .break => separator.map (·, false)

/-! ## Fields -/

/-- What stands before the place where elements are split. -/
inductive Gap where
  /-- The beginning, or a part of a field. -/
  | none
  /-- A field, and blanks after it. -/
  | blanks
  /-- A mark that ends fields. -/
  | mark
deriving DecidableEq

/-- Split elements at the field marks.  Blanks among the marks only separate; every other mark ends a
field, also an empty one. -/
def fields (marks : Octets) : Option (List Marked) → Gap → List Element → List (List Marked)
  | current, _, [] => current.toList
  | current, gap, element :: rest =>
    match element with
    | .empty => fields marks (some (current.getD [])) .none rest
    | .break => current.toList ++ fields marks none .none rest
    | .char c mark =>
      if mark == .expanded && marks.contains c then
        if Octets.isSpace c then
          match current with
          | some field => field :: fields marks none .blanks rest
          | none => fields marks none gap rest
        else
          match current, gap with
          | some field, _ => field :: fields marks none .mark rest
          | none, .blanks => fields marks none .mark rest
          | none, _ => [] :: fields marks none .mark rest
      else fields marks (some (current.getD [] ++ [(c, mark == .quoted)])) .none rest

/-! ## Pieces -/

/-- An expander changes the state of the shell, and may fail. -/
abbrev Expander := OptionT (StateM State)

namespace Expander

/-- Tell about a mistake, and fail. -/
def refuse {α : Type} (text : String) : Expander α := do
  modify fun state => { state.complain text.toList with status := 2 }
  failure

/-- What stands between fields that are not split. -/
def separator : Expander Octets := return (← get).fieldMarks.take 1

/-- All parameters. -/
def all (name : Octets) (quoted : Bool) (state : State) : List Element :=
  if quoted && name == ['*'] then
    let mark := state.fieldMarks.take 1
    elementsOf .quoted ((state.parameters.intersperse mark).flatten)
  else
    let elements (value : Octets) : List Element :=
      if quoted then .empty :: elementsOf .quoted value else elementsOf .expanded value
    ((state.parameters.map elements).intersperse [.break]).flatten

/-- Whether a name stands for all parameters. -/
def isAll (name : Octets) : Bool := name == ['@'] || name == ['*']

/-- The value of a parameter, or of all of them; none if it is not set. -/
def lookup (name : Octets) (quoted : Bool) (state : State) : Option (List Element) :=
  if isAll name then
    if state.parameters.isEmpty then none else some (all name quoted state)
  else (state.parameter? name).map (elementsOf (valueMark quoted))

/-- The value of a parameter that need not be set, unless the shell was told so. -/
def plain (name : Octets) (quoted : Bool) : Expander (List Element) := do
  let state ← get
  match lookup name quoted state with
  | some elements => return elements
  | none =>
    if state.options.contains 'u' && !isAll name then
      refuse (String.ofList name ++ ": parameter not set")
    else return []

/-- Give a variable a value, unless its value stays. -/
def assign (name value : Octets) : Expander Unit := do
  if (← get).isFixed name then refuse (String.ofList name ++ ": is read only")
  else modify (·.assign name value)

/-- The value of a parameter with a use. -/
def withUse (nested : Bool → Word → Expander (List Element)) (quoted : Bool) (name : Octets) :
    Use → Expander (List Element)
  | .plain => plain name quoted
  | .wrong => refuse "Bad substitution"
  | .length => do
    if isAll name then
      return elementsOf (valueMark quoted) (Octets.ofNat (← get).parameters.length)
    else
      let value ← plain name quoted
      return elementsOf (valueMark quoted) (Octets.ofNat (textOf (← separator) value).length)
  | .trim atEnd longest pattern => do
    let value := textOf (← separator) (← plain name quoted)
    let pattern := Pattern.parts (markedOf (← separator) (← nested false pattern))
    let cut := if atEnd then Pattern.dropEnd pattern longest value
      else Pattern.dropStart pattern longest value
    return elementsOf (valueMark quoted) cut
  | .fallback kind orEmpty word => do
    let found := lookup name quoted (← get)
    let isSet := found.any fun elements => !(orEmpty && (textOf [' '] elements).isEmpty)
    let other : Expander (List Element) := do
      return (← nested quoted word).map Element.toValue
    match kind with
    | .value => if isSet then return found.getD [] else other
    | .alternative => if isSet then other else return []
    | .assign =>
      if isSet then return found.getD []
      else if !isName name then refuse (String.ofList name ++ ": bad variable name")
      else
        let value := textOf (← separator) (← other)
        assign name value
        return elementsOf (valueMark quoted) value
    | .fail =>
      if isSet then return found.getD []
      else
        let told := textOf (← separator) (← other)
        let usual := if orEmpty then "parameter not set or null" else "parameter not set"
        refuse (String.ofList name ++ ": " ++ (if told.isEmpty then usual else String.ofList told))

/-- The value of a sum. -/
def sumValue (text : Octets) : Expander Octets := do
  let state ← get
  match Arithmetic.evaluate? (fun name => (state.parameter? name).getD []) text with
  | none => refuse "arithmetic expression: not a number"
  | some (value, assigned) =>
    assigned.reverse.forM fun (name, value) => assign name value
    return Decimal.ofInt value

/-- Whether a word contains all parameters as they are. -/
def holdsAll (word : Word) : Bool :=
  word.any fun
    | .parameter name .plain => name == ['@']
    | _ => false

/-- What a piece stands for. -/
def piece (run : List Chain → StateM State Octets) (nested : Bool → Word → Expander (List Element))
    (quoted : Bool) : Piece → Expander (List Element)
  | .char c => return [.char c (if quoted then .quoted else .literal)]
  | .literal text => return if text.isEmpty then [.empty] else elementsOf .quoted text
  | .double pieces => do
    match ← nested true pieces with
    | [] => return if holdsAll pieces then [] else [.empty]
    | elements => return elements
  | .parameter name use => withUse nested quoted name use
  | .command body => do return elementsOf (valueMark quoted) (← run body)
  | .sum pieces => do
    return elementsOf (valueMark quoted) (← sumValue (textOf (← separator) (← nested true pieces)))

/-- What the pieces of a word stand for, nested so deep at most. -/
def pieces (run : List Chain → StateM State Octets) :
    Nat → Bool → Word → Expander (List Element)
  | 0, _, _ => failure
  | depth + 1, quoted, word => do
    let elements ← word.mapM (piece run (pieces run depth) quoted)
    return elements.flatten

/-- How deep pieces may be nested. -/
def maxDepth : Nat := 100

/-! ## Words -/

/-- The home directory of an account. -/
def home? (state : State) (account : Octets) : Option Octets :=
  if account.isEmpty then state.get? "HOME".toList
  else if account == "root".toList then some "/root".toList
  else none

/-- Replace a tilde at the beginning of a word, which ends at a slash or at one of some marks. -/
def tilde (state : State) (ends : List Char) (word : Word) : Word :=
  match word with
  | .char '~' :: rest =>
    let account := rest.takeWhile fun
      | .char c => c != '/' && !ends.contains c
      | _ => false
    let closed := match rest.drop account.length with
      | [] => true
      | .char _ :: _ => true
      | _ => false
    match closed, (plainText? account).bind (home? state) with
    | true, some home => .literal home :: rest.drop account.length
    | _, _ => word
  | _ => word

/-- Cut a word after every colon. -/
def afterColons : Word → List Word
  | [] => [[]]
  | piece :: rest =>
    match piece, afterColons rest with
    | .char ':', parts => [piece] :: parts
    | _, first :: more => (piece :: first) :: more
    | _, [] => [[piece]]

/-- The elements of a word. -/
def elements (run : List Chain → StateM State Octets) (word : Word) : Expander (List Element) := do
  pieces run maxDepth false (tilde (← get) [] word)

/-- The one text that a word stands for. -/
def text (run : List Chain → StateM State Octets) (word : Word) : Expander Octets := do
  return textOf (← separator) (← elements run word)

/-- The value of an assignment, in which a tilde may also follow a colon. -/
def value (run : List Chain → StateM State Octets) (word : Word) : Expander Octets := do
  let state ← get
  let elements ← pieces run maxDepth false ((afterColons word).flatMap (tilde state [':']))
  return textOf (← separator) elements

/-- The pattern that a word stands for. -/
def pattern (run : List Chain → StateM State Octets) (word : Word) :
    Expander (List Pattern.Part) := do
  return Pattern.parts (markedOf (← separator) (← elements run word))

/-- The text of pieces that are quoted as a whole. -/
def quotedText (run : List Chain → StateM State Octets) (word : Word) : Expander Octets := do
  return textOf (← separator) (← pieces run maxDepth true word)

/-- The fields that a word stands for: one with a parameter may stand for none or several. -/
def word (run : List Chain → StateM State Octets) (word : Word) : Expander (List Octets) := do
  let elements ← elements run word
  let state ← get
  let fields := fields state.fieldMarks none .none elements
  if state.options.contains 'f' then return fields.map fun field => field.map (·.1)
  else return fields.flatMap (Pattern.fileNames state.world.files state.dir)

/-- The fields that words stand for. -/
def words (run : List Chain → StateM State Octets) (words : List Word) :
    Expander (List Octets) := do
  return (← words.mapM (Expander.word run)).flatten

end Expander

end SiteScript.Rehearsal.Shell
