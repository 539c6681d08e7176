import SiteScript.Rehearsal.Shell.Octets

/-!
# SiteScript.Rehearsal.Shell.Command

What a command line says.  A line is a list of chains; a chain is pipelines between `&&` and `||`; a
pipeline is commands between `|`; a command is simple, or is made of lists of chains.

A word is a list of pieces, because parameters, commands and sums in it get their values only when
the command runs.
-/

namespace SiteScript.Rehearsal.Shell

/-- What is done about a parameter that is not set. -/
inductive Fallback where
  /-- Another value is taken. -/
  | value
  /-- Another value is taken and kept. -/
  | assign
  /-- The shell ends. -/
  | fail
  /-- A word is taken for one that *is* set. -/
  | alternative
deriving DecidableEq

/-- How a file is opened by a redirection. -/
inductive Opening where
  | read
  | write
  | append
  | both
deriving DecidableEq

mutual

/-- A piece of a word. -/
inductive Piece where
  | char (c : Char)
  /-- Characters that only stand for themselves: between single quotes, or after a backslash. -/
  | literal (text : Octets)
  /-- What stands between double quotes. -/
  | double (pieces : List Piece)
  | parameter (name : Octets) (use : Use)
  /-- The output of commands. -/
  | command (body : List Chain)
  /-- The value of a sum. -/
  | sum (pieces : List Piece)

/-- What is made of the value of a parameter. -/
inductive Use where
  | plain
  | length
  /-- `orEmpty` tells whether an empty value counts as none. -/
  | fallback (kind : Fallback) (orEmpty : Bool) (word : List Piece)
  /-- A part that fits a pattern is cut off, at the end or at the beginning. -/
  | trim (atEnd longest : Bool) (pattern : List Piece)
  /-- Not a use that there is. -/
  | wrong

/-- Where a stream of a command goes to or comes from. -/
inductive Redirection where
  | file (stream : Nat) (opening : Opening) (word : List Piece)
  /-- The same as another stream. -/
  | same (stream : Nat) (word : List Piece)
  /-- The text given in the line. -/
  | text (stream : Nat) (pieces : List Piece)

/-- A command. -/
inductive Command where
  /-- Assignments, words and redirections, in the line with the given number. -/
  | simple (line : Nat) (assignments : List (Octets × List Piece)) (words : List (List Piece))
      (redirections : List Redirection)
  | group (body : List Chain)
  | subshell (body : List Chain)
  | choice (branches : List (List Chain × List Chain)) (otherwise : List Chain)
  /-- A loop that runs while its condition holds, or until it does. -/
  | loop (untilHolds : Bool) (condition body : List Chain)
  /-- A loop over words, or over the parameters when there are no words. -/
  | each (name : Octets) (words : Option (List (List Piece))) (body : List Chain)
  | select (word : List Piece) (cases : List (List (List Piece) × List Chain))
  | define (name : Octets) (body : Command)
  | redirected (command : Command) (redirections : List Redirection)

/-- Commands of which each reads what the one before writes. -/
inductive Pipeline where
  | mk (negated : Bool) (commands : List Command)

/-- Pipelines of which each runs if the one before succeeded (`true`) or failed (`false`). -/
inductive Chain where
  | mk (first : Pipeline) (rest : List (Bool × Pipeline)) (background : Bool)

end

/-- A word as it is written. -/
abbrev Word := List Piece

/-- The text of a word that is written without quotes and parameters. -/
def plainText? : Word → Option Octets
  | [] => some []
  | .char c :: rest => (plainText? rest).map (c :: ·)
  | _ :: _ => none

/-- The commands that cannot be redefined. -/
def specialNames : List String :=
  [".", ":", "break", "continue", "eval", "exec", "exit", "export", "local", "readonly", "return",
    "set", "shift", "times", "trap", "unset"]

end SiteScript.Rehearsal.Shell
