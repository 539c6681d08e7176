import SiteScript.Text.Basic

/-!
# SiteScript.Script.Cursor

A place between the lines of a text, for readers that take them one at a time.
-/

namespace SiteScript.Script

/-- The lines still to come, and how many were taken. -/
structure Cursor where
  taken : Nat
  rest : List (List Char)

namespace Cursor

/-- Before the first line of a text. -/
def ofText (text : String) : Cursor := ⟨0, Text.lines text⟩

/-- The next line, left in place. -/
def peek? (cursor : Cursor) : Option (List Char) := cursor.rest.head?

/-- Take the next line; at the end nothing changes. -/
def next (cursor : Cursor) : Option (List Char) × Cursor :=
  match cursor.rest with
  | [] => (none, cursor)
  | line :: rest => (some line, ⟨cursor.taken + 1, rest⟩)

/-- The number of the line most recently taken, counted from one. -/
def lineNumber (cursor : Cursor) : Nat := cursor.taken

end Cursor

end SiteScript.Script
