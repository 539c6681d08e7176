import SiteScript.Decimal
import SiteScript.Json.Reader
import SiteScript.Text.Basic

/-!
# SiteScript.Url.Address

Network addresses of eight groups of 16 bits.  They are written as hexadecimal groups between colons;
two colons stand for as many groups of zero as are missing, and the last two groups may be written as
four decimal numbers.  The text of an address leaves out its longest run of at least two zeros.
-/

namespace SiteScript.Url

/-- Eight groups of 16 bits. -/
structure Address where
  groups : List Nat
deriving DecidableEq

namespace Address

/-- How many groups an address has. -/
def size : Nat := 8

/-! ## Reading -/

/-- A group of one to four hexadecimal digits. -/
def group? (text : List Char) : Option Nat :=
  if !text.isEmpty && text.length ≤ 4 && text.all Json.isHexDigit then
    some (text.foldl (fun n c => 16 * n + Json.hexValue c) 0)
  else none

/-- A decimal number of at most 255 without leading zeros. -/
def byte? (text : List Char) : Option Nat :=
  match text with
  | '0' :: _ :: _ => none
  | text => (Decimal.ofDigits? text).filter (· ≤ 255)

/-- Two groups, written as four decimal numbers between dots. -/
def dotted? (text : List Char) : Option (List Nat) :=
  match (Text.split '.' text).mapM byte? with
  | some [a, b, c, d] => some [256 * a + b, 256 * c + d]
  | _ => none

/-- The groups of a list of parts.  The last part may be dotted when the address ends there. -/
def groups? (final : Bool) : List (List Char) → Option (List Nat)
  | [] => some []
  | [part] =>
    if final && part.contains '.' then dotted? part else (group? part).map fun g => [g]
  | part :: parts => do
    let group ← group? part
    let groups ← groups? final parts
    return group :: groups

/-- The groups of a text that may be empty. -/
def part? (final : Bool) (text : List Char) : Option (List Nat) :=
  if text.isEmpty then some [] else groups? final (Text.split ':' text)

/-- Cut a text at its first two colons in a row. -/
def cutGap? : List Char → Option (List Char × List Char)
  | ':' :: ':' :: rest => some ([], rest)
  | c :: rest => (cutGap? rest).map fun (before, after) => (c :: before, after)
  | [] => none

/-- Read an address. -/
def ofText? (text : List Char) : Option Address :=
  match cutGap? text with
  | none =>
    match groups? true (Text.split ':' text) with
    | some groups => if groups.length = size then some ⟨groups⟩ else none
    | none => none
  | some (before, after) => do
    let before ← part? false before
    let after ← part? true after
    if before.length + after.length < size then
      some ⟨before ++ List.replicate (size - before.length - after.length) 0 ++ after⟩
    else none

/-! ## Text -/

/-- The groups with colons between them. -/
def joined (groups : List Nat) : List Char :=
  Text.join ':' (groups.map (Nat.toDigits 16))

/-- How many zeros stand at a place and after it. -/
def zerosAt (groups : List Nat) (place : Nat) : Nat :=
  ((groups.drop place).takeWhile (· == 0)).length

/-- The first place with the longest run of zeros, if that is at least two long. -/
def gap? (groups : List Nat) : Option (Nat × Nat) :=
  (List.range groups.length).foldl (fun best place =>
    let length := zerosAt groups place
    match best with
    | some (_, longest) => if length > longest then some (place, length) else best
    | none => if length ≥ 2 then some (place, length) else none) none

/-- The text of an address. -/
def text (address : Address) : List Char :=
  match gap? address.groups with
  | some (place, length) =>
    joined (address.groups.take place) ++ ':' :: ':' :: joined (address.groups.drop (place + length))
  | none => joined address.groups

end Address

end SiteScript.Url
