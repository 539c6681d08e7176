import SiteScript.Text.Basic
import SiteScript.Dictionary

/-!
# SiteScript.Variables

Variables and their use in texts.  A text refers to a variable as `$NAME`, the name as long as its
characters last; `substitute` is one pass from left to right, so what a variable puts in is not looked
at again, and a variable without a value puts in nothing.
-/

namespace SiteScript

/-- The values of variables. -/
abbrev Variables := Dictionary String

namespace Variables

/-- The characters of a variable's name: capital letters of ASCII, digits, the underscore. -/
def isNameChar (c : Char) : Bool :=
  c.isUpper || c.isDigit || c == '_'

/-- What a name stands for. -/
def expansion (vars : Variables) (name : List Char) : List Char :=
  match name with
  | [] => ['$']
  | name => (vars.getD (String.ofList name) "").toList

/-- Substitute in a text.  `pending` is the name being read after a dollar sign, if there is one. -/
def expand (vars : Variables) : Option (List Char) → List Char → List Char
  | none, [] => []
  | some name, [] => expansion vars name
  | none, c :: cs => if c = '$' then expand vars (some []) cs else c :: expand vars none cs
  | some name, c :: cs =>
    if isNameChar c then expand vars (some (name ++ [c])) cs
    else if c = '$' then expansion vars name ++ expand vars (some []) cs
    else expansion vars name ++ c :: expand vars none cs

/-- A text with every `$NAME` replaced by the value of the variable, or by nothing. -/
def substitute (vars : Variables) (text : String) : String :=
  String.ofList (expand vars none text.toList)

/-- A block with every value substituted. -/
def substituteBlock (vars : Variables) (block : Dictionary String) : Dictionary String :=
  block.mapValues fun _ value => vars.substitute value

end Variables

end SiteScript
