import SiteScript.Text.Basic
import SiteScript.Text.Alphanumeric

/-!
# SiteScript.Script.Check

The check of a script before it is built.  Lines with an opening brace and lines with a closing one
must balance, never closing what is not open, and a line that is only a keyword and a colon must be
followed by a block.  The first offending line is reported.
-/

namespace SiteScript.Script

open Text

/-- What the check finds wrong. -/
inductive Flaw where
  | unbalanced
  | dangling (keyword : String)
deriving DecidableEq

/-- The wording of a flaw. -/
def Flaw.message : Flaw → String
  | .unbalanced => "Mismatched curly braces \x7b\x7d."
  | .dangling keyword => "Keyword '" ++ keyword ++ "' is not followed by a value or a block."

/-- A flaw and its line, counted from one. -/
structure CheckError where
  line : Nat
  flaw : Flaw
deriving DecidableEq

/-- A word: letters and numbers of any script and underscores, at least one. -/
def isWord (text : List Char) : Bool :=
  !text.isEmpty && text.all fun c => isAlphanumeric c || c == '_'

/-- The keyword of a line that gives it no value. -/
def bareKeyword? (line : List Char) : Option (List Char) :=
  match cut? ':' (trim line) with
  | none => none
  | some (keyword, value) => if isWord keyword && isBlankText value then some keyword else none

/-- Whether the lines below begin with a block. -/
def opensBlock : List (List Char) → Bool
  | [] => false
  | line :: _ => startsWithChar '{' (trim line)

/-- What a line does to the number of open braces; several on one line count once. -/
def braceChange (line : List Char) : Int :=
  (if line.contains '{' then 1 else 0) - (if line.contains '}' then 1 else 0)

/-- Check the lines from number `line` on, with `depth` braces open before them. -/
def checkLines (line : Nat) (depth : Int) : List (List Char) → Except CheckError Unit
  | [] => if depth = 0 then .ok () else .error ⟨line - 1, .unbalanced⟩
  | first :: rest =>
    let depth := depth + braceChange first
    if depth < 0 then .error ⟨line, .unbalanced⟩
    else
      match bareKeyword? first with
      | some keyword =>
        if opensBlock rest then checkLines (line + 1) depth rest
        else .error ⟨line, .dangling (String.ofList keyword)⟩
      | none => checkLines (line + 1) depth rest

/-- Check a script. -/
def check (code : String) : Except CheckError Unit :=
  checkLines 1 0 (lines code)

end SiteScript.Script
