import SiteScript.Rehearsal.Shell.Regex

/-!
# SiteScript.Rehearsal.Shell.Records.Program

Programs that are run for each record of a text.  A program is a list of rules; a rule says what is done,
and for which records.  What is done is said by statements, and what they compute by expressions.
-/

namespace SiteScript.Rehearsal.Shell.Records

/-- What is computed with two numbers. -/
inductive Operator where
  | add
  | subtract
  | multiply
  | divide
  | remainder
  | power

/-- How two values are compared. -/
inductive Comparison where
  | less
  | lessOrEqual
  | equal
  | different
  | greater
  | greaterOrEqual

/-- The functions that every program has. -/
inductive Builtin where
  | length
  | substr
  | index
  | split
  | sub
  | gsub
  | occurrence
  | sprintf
  | sin
  | cos
  | atan2
  | exp
  | log
  | sqrt
  | int
  | rand
  | srand
  | tolower
  | toupper
  | system
  | close
  | fflush
  | systime
deriving DecidableEq

/-- An expression. -/
inductive Expr where
  | number (value : Float)
  | text (value : Octets)
  /-- A pattern by itself asks whether it occurs in the record. -/
  | pattern (regex : Regex)
  | name (name : Octets)
  | element (table : Octets) (keys : List Expr)
  | field (place : Expr)
  /-- Give a place a value, perhaps one computed with its old one. -/
  | assign (operator : Option Operator) (target value : Expr)
  /-- Count a place up or down; its value is the one before or after that. -/
  | count (up : Bool) (after : Bool) (target : Expr)
  | negate (value : Expr)
  /-- The number that a value stands for. -/
  | numeric (value : Expr)
  | not (value : Expr)
  | compute (operator : Operator) (left right : Expr)
  | joined (left right : Expr)
  | compare (comparison : Comparison) (left right : Expr)
  /-- Whether a pattern occurs in a text, or whether not. -/
  | occurs (negated : Bool) (text pattern : Expr)
  | both (left right : Expr)
  | either (left right : Expr)
  | choose (condition yes no : Expr)
  | member (keys : List Expr) (table : Octets)
  | builtin (function : Builtin) (args : List Expr)
  | call (function : Octets) (args : List Expr)
  /-- Read the next record of the input. -/
  | readNext (target : Option Expr)
  /-- Read the next record of a file. -/
  | readFile (target : Option Expr) (file : Expr)
  /-- Read the next record of what a command writes. -/
  | readCommand (target : Option Expr) (command : Expr)
  /-- Several values in brackets. -/
  | several (values : List Expr)
deriving Inhabited

/-- Where something is written. -/
inductive Way where
  | file
  | append
  | command

/-- A statement. -/
inductive Statement where
  | expression (value : Expr)
  | print (values : List Expr) (target : Option (Way × Expr))
  | printf (values : List Expr) (target : Option (Way × Expr))
  | choose (condition : Expr) (yes : Statement) (no : Option Statement)
  | repeatWhile (condition : Expr) (body : Statement)
  /-- Do something, and again while a condition holds. -/
  | repeatAfter (body : Statement) (condition : Expr)
  | loop (first : Option Statement) (condition : Option Expr) (step : Option Statement)
    (body : Statement)
  | each (name table : Octets) (body : Statement)
  | block (statements : List Statement)
  | delete (table : Octets) (keys : Option (List Expr))
  | leave
  | again
  | next
  | nextFile
  | exit (status : Option Expr)
  | give (value : Option Expr)
deriving Inhabited

/-- For which records something is done. -/
inductive Condition where
  | always
  | holds (condition : Expr)
  /-- From a record for which a condition holds to one for which another holds. -/
  | range (number : Nat) (first last : Expr)
  | before
  | after

/-- What is done, and for which records. -/
structure Rule where
  condition : Condition
  /-- Without statements, the record is written. -/
  action : Option (List Statement)

/-- A function of the program. -/
structure Function where
  parameters : List Octets
  body : List Statement

/-- A program. -/
structure Program where
  rules : List Rule := []
  functions : List (Octets × Function) := []

end SiteScript.Rehearsal.Shell.Records
