import SiteScript.Rehearsal.Shell.Octets

/-!
# SiteScript.Rehearsal.Shell.Tool.Difference

Which lines of two texts differ.  Lines are compared by keys.  The lines of one text that are in the other
one too are matched by a search from both ends at once for a shortest way from one text to the other: the
point where the searches meet divides the problem (`middle`, `compare`).

A group of changed lines can often be moved over equal lines without changing what it says; groups are
joined with their neighbours and stand as far down as they can, or next to a change of the other text
(`Shifting`).  `changes` gives what is left.
-/

namespace SiteScript.Rehearsal.Shell.Difference

/-- The keys of lines. -/
abbrev Keys := Array Octets

/-! ## Searches -/

/-- How far a search has come on each diagonal, from a lowest to a highest one. -/
structure Frontier where
  reach : Array Int
  /-- The index of diagonal zero. -/
  zero : Int
  low : Int
  high : Int

namespace Frontier

/-- How far the search has come on a diagonal. -/
def at' (frontier : Frontier) (diagonal : Int) : Int :=
  frontier.reach.getD (diagonal + frontier.zero).toNat 0

/-- Set how far the search has come on a diagonal. -/
def put (frontier : Frontier) (diagonal value : Int) : Frontier :=
  { frontier with reach := frontier.reach.setIfInBounds (diagonal + frontier.zero).toNat value }

/-- A search that begins on one diagonal. -/
def start (size : Nat) (zero diagonal value : Int) : Frontier :=
  { reach := Array.replicate size 0, zero, low := diagonal, high := diagonal : Frontier }.put diagonal
    value

/-- Go to the diagonals of the next step; what lies outside counts as not reached. -/
def widen (frontier : Frontier) (least most unreached : Int) : Frontier :=
  let down := if frontier.low > least then
      { frontier.put (frontier.low - 2) unreached with low := frontier.low - 1 }
    else { frontier with low := frontier.low + 1 }
  if down.high < most then { down.put (down.high + 2) unreached with high := down.high + 1 }
  else { down with high := down.high - 1 }

/-- The diagonals of a step, from the highest down. -/
def diagonals (frontier : Frontier) : List Int :=
  if frontier.high < frontier.low then []
  else
    (List.range ((frontier.high - frontier.low) / 2 + 1).toNat).map fun (k : Nat) =>
      frontier.high - 2 * (k : Int)

/-- Whether a diagonal belongs to the step. -/
def has (frontier : Frontier) (diagonal : Int) : Bool :=
  frontier.low ≤ diagonal && diagonal ≤ frontier.high

end Frontier

/-- A part of both texts: lines from one place to another. -/
structure Window where
  left : Nat
  leftEnd : Nat
  right : Nat
  rightEnd : Nat

/-- Whether two lines are equal. -/
def same (xs ys : Keys) (x y : Int) : Bool :=
  match xs[x.toNat]?, ys[y.toNat]? with
  | some a, some b => a == b
  | _, _ => false

/-- Go down a diagonal as long as lines are equal. -/
def slideDown (xs ys : Keys) (window : Window) : Nat → Int → Int → Int
  | 0, x, _ => x
  | fuel + 1, x, y =>
    if x < window.leftEnd && y < window.rightEnd && same xs ys x y then
      slideDown xs ys window fuel (x + 1) (y + 1)
    else x

/-- Go up a diagonal as long as lines are equal. -/
def slideUp (xs ys : Keys) (window : Window) : Nat → Int → Int → Int
  | 0, x, _ => x
  | fuel + 1, x, y =>
    if (window.left : Int) < x && (window.right : Int) < y && same xs ys (x - 1) (y - 1) then
      slideUp xs ys window fuel (x - 1) (y - 1)
    else x

/-- A value above all places. -/
def farAway : Int := 1000000000000

/-- One step of the search from the beginning; an error is where it meets the other one. -/
def stepDown (xs ys : Keys) (window : Window) (meets : Bool) (other frontier : Frontier) :
    Except (Int × Int) Frontier :=
  frontier.diagonals.foldlM (fun frontier d =>
    let below := frontier.at' (d - 1)
    let above := frontier.at' (d + 1)
    let start := if below < above then above else below + 1
    let x := slideDown xs ys window (xs.size + ys.size) start (start - d)
    if meets && other.has d && other.at' d ≤ x then .error (x, x - d) else .ok (frontier.put d x))
    frontier

/-- One step of the search from the end; an error is where it meets the other one. -/
def stepUp (xs ys : Keys) (window : Window) (meets : Bool) (other frontier : Frontier) :
    Except (Int × Int) Frontier :=
  frontier.diagonals.foldlM (fun frontier d =>
    let below := frontier.at' (d - 1)
    let above := frontier.at' (d + 1)
    let start := if below < above then below else above - 1
    let x := slideUp xs ys window (xs.size + ys.size) start (start - d)
    if meets && other.has d && x ≤ other.at' d then .error (x, x - d) else .ok (frontier.put d x))
    frontier

/-- Go on with both searches until they meet. -/
def search (xs ys : Keys) (window : Window) (odd : Bool) : Nat → Frontier → Frontier → Int × Int
  | 0, _, _ => (window.left, window.right)
  | fuel + 1, forth, back =>
    let least : Int := (window.left : Int) - window.rightEnd
    let most : Int := (window.leftEnd : Int) - window.right
    match stepDown xs ys window odd back (forth.widen least most (-1)) with
    | .error place => place
    | .ok forth =>
      match stepUp xs ys window (!odd) forth (back.widen least most farAway) with
      | .error place => place
      | .ok back => search xs ys window odd fuel forth back

/-- A point on a shortest way through a window. -/
def middle (xs ys : Keys) (window : Window) : Nat × Nat :=
  let zero : Int := ys.size + 2
  let size := xs.size + ys.size + 6
  let first : Int := (window.left : Int) - window.right
  let last : Int := (window.leftEnd : Int) - window.rightEnd
  let (x, y) := search xs ys window ((first - last) % 2 != 0) size
    (Frontier.start size zero first window.left) (Frontier.start size zero last window.leftEnd)
  (x.toNat, y.toNat)

/-- Places from one to another. -/
def places (start stop : Nat) : List Nat := (List.range (stop - start)).map (start + ·)

/-- The places of a window whose lines are not matched, in both texts. -/
def compare (xs ys : Keys) : Nat → Window → List Nat × List Nat
  | 0, window => (places window.left window.leftEnd, places window.right window.rightEnd)
  | fuel + 1, window =>
    let size := xs.size + ys.size
    let left := (slideDown xs ys window size window.left window.right).toNat
    let right := window.right + (left - window.left)
    let window := { window with left, right }
    let leftEnd := (slideUp xs ys window size window.leftEnd window.rightEnd).toNat
    let rightEnd := window.rightEnd - (window.leftEnd - leftEnd)
    let window := { window with leftEnd, rightEnd }
    if left = leftEnd || right = rightEnd then (places left leftEnd, places right rightEnd)
    else
      let (x, y) := middle xs ys window
      let (deleted, inserted) := compare xs ys fuel { window with leftEnd := x, rightEnd := y }
      let (deleted', inserted') := compare xs ys fuel { window with left := x, right := y }
      (deleted ++ deleted', inserted ++ inserted')

/-- Which lines are changed.  Lines that the other text has not at all are changed in any case, and the
others are compared without them. -/
def marks (xs ys : Keys) : Array Bool × Array Bool :=
  let shared (own other : Keys) : Array Nat :=
    ((List.range own.size).filter fun i => (own[i]?).any other.contains).toArray
  let left := shared xs ys
  let right := shared ys xs
  let keys (all : Keys) (kept : Array Nat) : Keys := kept.map fun i => all.getD i []
  let (deleted, inserted) := compare (keys xs left) (keys ys right) (xs.size + ys.size + 1)
    ⟨0, left.size, 0, right.size⟩
  let mark (size : Nat) (kept : Array Nat) (changed : List Nat) : Array Bool :=
    let all := kept.foldl (fun found i => found.setIfInBounds i false) (Array.replicate size true)
    changed.foldl (fun found i => found.setIfInBounds (kept.getD i size) true) all
  (mark xs.size left deleted, mark ys.size right inserted)

/-! ## Groups of changes -/

/-- Whether a place is marked; places outside are not. -/
def isMarked (marks : Array Bool) (i : Int) : Bool := 0 ≤ i && marks.getD i.toNat false

/-- A group of changed lines of one text that is being moved: from `start` to `stop`, and the place in the
other text that it stands at. -/
structure Shifting where
  marks : Array Bool
  start : Int
  stop : Int
  place : Int
  /-- The end of the group where it last stood next to a change of the other text. -/
  beside : Option Int := none

/-- The last place before one that is not marked. -/
def placeBefore (marks : Array Bool) : Nat → Int → Int
  | 0, i => i
  | fuel + 1, i => if isMarked marks (i - 1) then placeBefore marks fuel (i - 1) else i - 1

/-- The first place after one that is not marked. -/
def placeAfter (marks : Array Bool) : Nat → Int → Int
  | 0, i => i
  | fuel + 1, i => if isMarked marks (i + 1) then placeAfter marks fuel (i + 1) else i + 1

/-- The beginning of the run of marks that ends before a place. -/
def runStart (marks : Array Bool) : Nat → Int → Int
  | 0, i => i
  | fuel + 1, i => if isMarked marks (i - 1) then runStart marks fuel (i - 1) else i

/-- The end of the run of marks that begins at a place. -/
def runStop (marks : Array Bool) : Nat → Int → Int
  | 0, i => i
  | fuel + 1, i => if isMarked marks i then runStop marks fuel (i + 1) else i

namespace Shifting

/-- Mark a place or take its mark away. -/
def mark (marks : Array Bool) (i : Int) (value : Bool) : Array Bool :=
  marks.setIfInBounds i.toNat value

/-- The lines at two places are equal. -/
def sameLine (keys : Keys) (i j : Int) : Bool := same keys keys i j

/-- Move a group up as long as the line before it equals its last one. -/
def moveUp (keys : Keys) (other : Array Bool) : Nat → Shifting → Shifting
  | 0, group => group
  | fuel + 1, group =>
    if 0 < group.start && sameLine keys (group.start - 1) (group.stop - 1) then
      let marks := mark (mark group.marks (group.start - 1) true) (group.stop - 1) false
      moveUp keys other fuel
        { group with
          marks
          start := runStart marks keys.size (group.start - 1)
          stop := group.stop - 1
          place := placeBefore other (other.size + 1) group.place }
    else group

/-- Move a group down as long as the line after it equals its first one. -/
def moveDown (keys : Keys) (other : Array Bool) : Nat → Shifting → Shifting
  | 0, group => group
  | fuel + 1, group =>
    if group.stop < keys.size && sameLine keys group.start group.stop then
      let marks := mark (mark group.marks group.start false) group.stop true
      let stop := runStop marks keys.size (group.stop + 1)
      let place := placeAfter other (other.size + 1) group.place
      moveDown keys other fuel
        { marks, start := group.start + 1, stop, place
          beside := if place > group.place + 1 then some stop else group.beside }
    else group

/-- Move a group until it has its final size. -/
def settle (keys : Keys) (other : Array Bool) : Nat → Shifting → Shifting
  | 0, group => group
  | fuel + 1, group =>
    let up := moveUp keys other (keys.size + 1) group
    let up := { up with beside := if isMarked other (up.place - 1) then some up.stop else none }
    let down := moveDown keys other (keys.size + 1) up
    if down.stop - down.start = group.stop - group.start then down
    else settle keys other fuel down

/-- Move a group back to where it stood next to a change. -/
def moveBack (other : Array Bool) : Nat → Shifting → Shifting
  | 0, group => group
  | fuel + 1, group =>
    if group.beside.any (· < group.stop) then
      moveBack other fuel
        { group with
          marks := mark (mark group.marks (group.start - 1) true) (group.stop - 1) false
          start := group.start - 1
          stop := group.stop - 1
          place := placeBefore other (other.size + 1) group.place }
    else group

end Shifting

/-- Move all groups of a text, from a place on. -/
def shiftFrom (keys : Keys) (other : Array Bool) : Nat → Int → Int → Array Bool → Array Bool
  | 0, _, _, marks => marks
  | fuel + 1, i, j, marks =>
    if keys.size ≤ i then marks
    else if !isMarked marks i then
      shiftFrom keys other fuel (i + 1) (placeAfter other (other.size + 1) (j - 1) + 1) marks
    else
      let group : Shifting :=
        { marks, start := i, stop := runStop marks keys.size i
          place := runStop other other.size j }
      let settled := Shifting.settle keys other (keys.size + 1) group
      let final := Shifting.moveBack other (keys.size + 1) settled
      shiftFrom keys other fuel final.stop final.place final.marks

/-- Move all groups of a text. -/
def shift (keys : Keys) (other marks : Array Bool) : Array Bool :=
  shiftFrom keys other (2 * keys.size + 2) 0 0 marks

/-! ## Changes -/

/-- Lines that are replaced by others: so many from a place on, in both texts. -/
structure Change where
  left : Nat
  deleted : Nat
  right : Nat
  inserted : Nat
deriving DecidableEq

/-- The changes that marks describe. -/
def changesOf (left right : Array Bool) : Nat → Nat → Nat → List Change
  | 0, _, _ => []
  | fuel + 1, i, j =>
    if left.size < i && right.size < j then []
    else
      let iEnd := (runStop left left.size i).toNat
      let jEnd := (runStop right right.size j).toNat
      let rest := changesOf left right fuel (iEnd + 1) (jEnd + 1)
      if iEnd = i && jEnd = j then rest else ⟨i, iEnd - i, j, jEnd - j⟩ :: rest

/-- How many lines two texts have in common at their beginnings. -/
def sharedCount : List Octets → List Octets → Nat
  | a :: as, b :: bs => if a == b then sharedCount as bs + 1 else 0
  | _, _ => 0

/-- The changes between two texts whose lines are compared by keys.  The equal lines at both ends do not
take part, except so many next to the others. -/
def changes (around : Nat) (key : Octets → Octets) (left right : List Octets) : List Change :=
  let before := sharedCount left right - around
  let left := left.drop before
  let right := right.drop before
  let after := sharedCount left.reverse right.reverse - around
  let xs := ((left.take (left.length - after)).map key).toArray
  let ys := ((right.take (right.length - after)).map key).toArray
  let (deleted, inserted) := marks xs ys
  let deleted := shift xs inserted deleted
  let inserted := shift ys deleted inserted
  (changesOf deleted inserted (xs.size + ys.size + 2) 0 0).map fun change =>
    { change with left := change.left + before, right := change.right + before }

end SiteScript.Rehearsal.Shell.Difference
