import SiteScript.Rehearsal.Shell.Tool.Ends

/-!
# SiteScript.Rehearsal.Shell.Tool.Order

Programs that put things in an order or make rows of them: names so that each comes after those it must
follow (`sortNames`), the prime factors of numbers, lines in any order, and a line again and again.
-/

namespace SiteScript.Rehearsal.Shell

/-! ## Names that follow others -/

/-- A name, with how many others must come before it and those that must follow. -/
structure Follower where
  name : Octets
  waiting : Nat := 0
  /-- The names that must follow, the last one given first. -/
  followers : List Octets := []

/-- The names of relations. -/
structure Relations where
  /-- The names, in the order of their bytes. -/
  items : List Follower := []

namespace Relations

/-- A name among the others. -/
def item? (relations : Relations) (name : Octets) : Option Follower :=
  relations.items.find? (·.name == name)

/-- Change a name. -/
def change (relations : Relations) (name : Octets) (how : Follower → Follower) : Relations :=
  ⟨relations.items.map fun item => if item.name == name then how item else item⟩

/-- Add a name. -/
def add (relations : Relations) (name : Octets) : Relations :=
  if (relations.item? name).isSome then relations
  else
    let (before, after) := relations.items.partition fun item => Octets.before item.name name
    ⟨before ++ { name } :: after⟩

/-- Let a name follow another one; a name does not follow itself. -/
def relate (relations : Relations) (first second : Octets) : Relations :=
  let relations := (relations.add first).add second
  if first == second then relations
  else
    (relations.change first fun item => { item with followers := second :: item.followers }).change
      second fun item => { item with waiting := item.waiting + 1 }

/-- The relations that words in pairs stand for; none if one is left. -/
def ofWords? (relations : Relations) : List Octets → Option Relations
  | [] => some relations
  | [_] => none
  | first :: second :: rest => (relations.relate first second).ofWords? rest

/-- Take a name out: those that follow it wait for one less.  Gives those that wait no longer, too. -/
def takeOut (relations : Relations) (name : Octets) : List Octets × Relations :=
  let followers := ((relations.item? name).map (·.followers)).getD []
  let (freed, relations) := followers.foldl (fun (freed, (relations : Relations)) follower =>
    let relations := relations.change follower fun item => { item with waiting := item.waiting - 1 }
    let isFree := (relations.item? follower).any (·.waiting == 0)
    (if isFree then freed ++ [follower] else freed, relations)) (([] : List Octets), relations)
  (freed, ⟨relations.items.filter (·.name != name)⟩)

/-- Take the names out of a queue, and those that are freed by it.  Gives them in order. -/
def drain : Nat → List Octets → Relations → List Octets × Relations
  | 0, _, relations => ([], relations)
  | _, [], relations => ([], relations)
  | fuel + 1, name :: queue, relations =>
    let (freed, relations) := relations.takeOut name
    let (rest, relations) := drain fuel (queue ++ freed) relations
    (name :: rest, relations)

/-- A round of the search for a loop: `trail` holds the names found so far, the last first.  Each name
that the last of the trail must follow is put on the trail, until one comes up again; then the relation
that closes the loop is taken away. -/
def searchLoop (relations : Relations) : List Follower → List Octets → List Octets × Option Relations
  | [], trail => (trail, none)
  | item :: rest, trail =>
    if item.waiting = 0 then searchLoop relations rest trail
    else
      match trail with
      | [] => searchLoop relations rest [item.name]
      | last :: _ =>
        if !item.followers.contains last then searchLoop relations rest trail
        else if trail.dropLast.contains item.name then
          let relations := (relations.change item.name fun held =>
            { held with followers := held.followers.erase last }).change last fun held =>
              { held with waiting := held.waiting - 1 }
          (trail, some relations)
        else searchLoop relations rest (item.name :: trail)

/-- Break a loop. -/
def breakLoop (relations : Relations) : Nat → List Octets → Relations
  | 0, _ => relations
  | fuel + 1, trail =>
    match searchLoop relations relations.items trail with
    | (_, some relations) => relations
    | (trail, none) => breakLoop relations fuel trail

/-- All names in order, and whether there was no loop. -/
def ordered : Nat → Relations → List Octets × Bool
  | 0, _ => ([], true)
  | fuel + 1, relations =>
    if relations.items.isEmpty then ([], true)
    else
      let free := (relations.items.filter (·.waiting == 0)).map (·.name)
      let (names, relations) := drain (relations.items.length + 1) free relations
      if relations.items.isEmpty then (names, true)
      else
        let size := relations.items.length
        let (rest, _) := ordered fuel (relations.breakLoop (2 * size + 2) [])
        (names ++ rest, false)

end Relations

/-- Put names in an order in which each comes after those it must follow. -/
def sortNames : Tool := fun call =>
  call.withOptions { flags := "w" } 1 fun options =>
    if options.operands.length > 1 then call.lacking "extra operand"
    else
      let (text, effect) := call.joined options.operands 1
      if effect.status != 0 then effect
      else
        let words := Octets.words text
        match Relations.ofWords? {} words with
        | none => effect.complain (call.name ++ ": input contains an odd number of tokens")
        | some relations =>
          let (names, isFree) := relations.ordered (words.length + 1)
          { effect.say (Octets.unlines names) with status := if isFree then 0 else 1 }

/-! ## Prime factors -/

/-- The prime factors of a number, from a candidate on. -/
def primeFactors : Nat → Nat → Nat → List Nat
  | 0, _, n => if n ≤ 1 then [] else [n]
  | fuel + 1, candidate, n =>
    if n ≤ 1 then []
    else if n < candidate * candidate then [n]
    else if n % candidate = 0 then candidate :: primeFactors fuel candidate (n / candidate)
    else primeFactors fuel (if candidate = 2 then 3 else candidate + 2) n

/-- Write the prime factors of numbers. -/
def factors : Tool := fun call =>
  call.withOptions { flags := "h", long := [("exponents", 'h')] } 1 fun options =>
    let words := if options.operands.isEmpty then Octets.words call.input else options.operands
    let shown (n : Nat) : Octets :=
      let found := primeFactors 3000000 2 n
      let groups := found.splitBy (· == ·)
      let texts := if options.has 'h' then groups.map fun group =>
          let base := Octets.ofNat (group.headD 0)
          if group.length = 1 then base else base ++ '^' :: Octets.ofNat group.length
        else found.map Octets.ofNat
      Octets.ofNat n ++ ':' :: texts.flatMap (' ' :: ·) ++ ['\n']
    let start := { call.start with taken := if options.operands.isEmpty then call.input.length else 0 }
    words.foldl (fun effect word =>
      match natural? ((Text.dropPrefix? ['+'] word).getD word) with
      | some n => effect.say (shown n)
      | none => effect.complain (call.name ++ ": " ++ inQuotes word ++ " is not a valid positive integer"))
      start

/-! ## Lines in any order -/

/-- Write lines in some order: the one they are in is as good as any. -/
def shuffle : Tool := fun call =>
  call.withOptions
    { flags := "erz", valued := "nio"
      long := [("echo", 'e'), ("repeat", 'r'), ("zero-terminated", 'z'), ("head-count", 'n'),
        ("input-range", 'i'), ("output", 'o')] } 1 fun options =>
    let ending := if options.has 'z' then '\x00' else '\n'
    let limit (lines : List Octets) : List Octets :=
      match (options.value? 'n').bind natural? with
      | some n => if options.has 'r' then (List.replicate n lines).flatten.take n else lines.take n
      | none => lines
    let finish (effect : Effect) (lines : List Octets) : Effect :=
      let text := (limit lines).flatMap (· ++ [ending])
      match options.value? 'o' with
      | none => effect.say text
      | some file => effect.attempt (call.write effect.files file text) (mistake call.name file)
    match options.value? 'i' with
    | some range =>
      match (Text.cut? '-' range).map fun (low, high) => (natural? low, natural? high) with
      | some (some low, some high) =>
        finish call.start ((List.range (high + 1 - low)).map fun i => Octets.ofNat (low + i))
      | _ => call.start.complain (call.name ++ ": invalid input range: " ++ inQuotes range)
    | none =>
      if options.has 'e' then finish call.start options.operands
      else if options.operands.length > 1 then call.lacking "extra operand"
      else
        let (text, effect) := call.joined options.operands 1
        if effect.status != 0 then effect else finish effect (Octets.parts ending text)

/-! ## A line again and again -/

/-- How often a line is written by a program that would never end.  What reads it takes less. -/
def endless : Nat := 20000

/-- Write a line again and again. -/
def repeatLine : Tool := fun call =>
  match ({ flags := "", anywhere := false : OptionSpec }).read none call.args with
  | .error what => call.refuse 1 what
  | .ok options =>
    let words := if options.operands.isEmpty then [['y']] else options.operands
    call.start.say (List.replicate endless (Octets.spaced words ++ ['\n'])).flatten

end SiteScript.Rehearsal.Shell
