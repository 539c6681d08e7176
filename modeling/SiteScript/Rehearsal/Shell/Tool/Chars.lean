import SiteScript.Rehearsal.Shell.Arithmetic
import SiteScript.Rehearsal.Shell.Tool.Lines

/-!
# SiteScript.Rehearsal.Shell.Tool.Chars

Characters of lines: replacing, deleting and squeezing those of a set (`translate`), and cutting parts
out of lines by places (`cut`).
-/

namespace SiteScript.Rehearsal.Shell

/-! ## Sets of characters -/

/-- All characters. -/
def allChars : Octets := (List.range 256).map Char.ofNat

/-- The characters of a class; none for a name that there is not. -/
def classChars? (name : String) : Option Octets :=
  let keep (fits : Char → Bool) : Option Octets := some (allChars.filter fits)
  match name with
  | "alpha" => keep Char.isAlpha
  | "digit" => keep Char.isDigit
  | "alnum" => keep Char.isAlphanum
  | "upper" => keep Char.isUpper
  | "lower" => keep Char.isLower
  | "space" => keep Octets.isSpace
  | "blank" => keep fun c => c == ' ' || c == '\t'
  | "punct" => keep fun c => '!' ≤ c && c ≤ '~' && !c.isAlphanum
  | "cntrl" => keep fun c => c < ' ' || c == '\x7f'
  | "xdigit" => keep fun c => (Arithmetic.digit? 16 c).isSome
  | "print" => keep fun c => ' ' ≤ c && c ≤ '~'
  | "graph" => keep fun c => '!' ≤ c && c ≤ '~'
  | _ => none

/-- A part of a set. -/
inductive SetPart where
  | chars (chars : Octets)
  /-- A character so often, or as often as the other set is longer. -/
  | again (c : Char) (count : Option Nat)

/-- A character or an escape. -/
def cutChar (text : Octets) : Char × Octets :=
  match text with
  | '\\' :: c :: rest =>
    if '0' ≤ c && c ≤ '7' then
      let digits := ((c :: rest).take 3).takeWhile fun c => '0' ≤ c && c ≤ '7'
      (Char.ofNat (digits.foldl (fun n c => 8 * n + Decimal.digitValue c) 0 % 256),
        (c :: rest).drop digits.length)
    else
      (([('n', '\n'), ('t', '\t'), ('r', '\r'), ('a', '\x07'), ('b', '\x08'), ('f', '\x0c'),
        ('v', '\x0b')].lookup c).getD c, rest)
  | c :: rest => (c, rest)
  | [] => ('\x00', [])

/-- A repetition in square brackets, and what follows it. -/
def cutAgain? (text : Octets) : Option (SetPart × Octets) :=
  match text with
  | '[' :: rest =>
    let (c, rest) := cutChar rest
    match rest with
    | '*' :: rest =>
      let digits := rest.takeWhile Char.isDigit
      match rest.drop digits.length with
      | ']' :: after =>
        let count := if digits.head? == some '0' then
            digits.foldl (fun n c => 8 * n + Decimal.digitValue c) 0
          else Decimal.value digits
        some (.again c (if count = 0 then none else some count), after)
      | _ => none
    | _ => none
  | _ => none

/-- Read a set: escapes, ranges, classes and repetitions.  An error words what is wrong. -/
def setParts : Nat → Octets → Except String (List SetPart)
  | 0, _ => .ok []
  | _, [] => .ok []
  | fuel + 1, text =>
    let range (text : Octets) : Except String (List SetPart) :=
      let (low, rest) := cutChar text
      match rest with
      | '-' :: high :: after =>
        let (high, after) := cutChar (high :: after)
        if high < low then
          .error ("range-endpoints of " ++ inQuotes [low, '-', high] ++
            " are in reverse collating sequence order")
        else do
          let chars := (List.range (high.toNat + 1 - low.toNat)).map fun i =>
            Char.ofNat (low.toNat + i)
          return .chars chars :: (← setParts fuel after)
      | rest => do return .chars [low] :: (← setParts fuel rest)
    match text, cutAgain? text with
    | '[' :: ':' :: rest, _ =>
      let name := rest.takeWhile (· != ':')
      match rest.drop name.length with
      | ':' :: ']' :: after =>
        match classChars? (String.ofList name) with
        | some chars => do return .chars chars :: (← setParts fuel after)
        | none => .error ("invalid character class " ++ inQuotes name)
      | _ => range text
    | '[' :: '=' :: c :: '=' :: ']' :: rest, _ => do return .chars [c] :: (← setParts fuel rest)
    | _, some (part, rest) => do return part :: (← setParts fuel rest)
    | text, none => range text

/-- How many characters a part has; one that fills up has none. -/
def SetPart.size : SetPart → Nat
  | .chars given => given.length
  | .again _ count => count.getD 0

/-- The characters of a set; one that fills up makes it so long. -/
def setChars (wanted : Nat) (parts : List SetPart) : Octets :=
  let missing := wanted - (parts.map SetPart.size).foldl (· + ·) 0
  parts.flatMap fun part =>
    match part with
    | .chars chars => chars
    | .again c count => List.replicate (count.getD missing) c

/-- Keep one of characters of a set that follow each other. -/
def squeezeChars (set : Octets) : Option Char → Octets → Octets
  | _, [] => []
  | last, c :: rest =>
    if last == some c && set.contains c then squeezeChars set last rest
    else c :: squeezeChars set (some c) rest

/-- Replace, delete or squeeze characters. -/
def translate : Tool := fun call =>
  call.withOptions
    { flags := "dsctC", anywhere := false
      long := [("delete", 'd'), ("squeeze-repeats", 's'), ("complement", 'c'),
        ("truncate-set1", 't')] } 1
    fun options =>
      let start := { call.start with taken := call.input.length }
      let complement := options.has 'c' || options.has 'C'
      let deleting := options.has 'd'
      let squeezing := options.has 's'
      match options.operands.mapM fun operand => setParts (operand.length + 1) operand with
      | .error what => call.start.complain (call.name ++ ": " ++ what)
      | .ok sets =>
        let firstSet (parts : List SetPart) : Octets :=
          let chars := setChars 0 parts
          if complement then allChars.filter (!chars.contains ·) else chars
        match sets with
        | [] => call.lacking "missing operand"
        | [a] =>
          if deleting == squeezing then
            call.lacking ("missing operand after " ++ inQuotes (options.operands.headD []))
          else if deleting then
            let set := firstSet a
            start.say (call.input.filter (!set.contains ·))
          else start.say (squeezeChars (firstSet a) none call.input)
        | [a, b] =>
          if deleting && !squeezing then
            call.lacking ("extra operand " ++ inQuotes (options.operands.getD 1 []))
          else if deleting then
            let set := firstSet a
            start.say (squeezeChars (setChars 0 b) none (call.input.filter (!set.contains ·)))
          else
            let source := firstSet a
            let target := setChars source.length b
            if target.isEmpty then
              call.lacking "when not truncating set1, string2 must be non-empty"
            else
              let last := target.getLast?.getD ' '
              let padded := if options.has 't' then target
                else target ++ List.replicate (source.length - target.length) last
              let table := (source.zip padded).reverse
              let replaced := call.input.map fun c => (table.lookup c).getD c
              start.say (if squeezing then squeezeChars target none replaced else replaced)
        | _ => call.lacking ("extra operand " ++ inQuotes (options.operands.getD 2 []))

/-! ## Parts of lines -/

/-- The places that a list such as `1,3-5,7-` names; an error words what is wrong. -/
def placeList (field : Bool) (text : Octets) : Except String (List (Nat × Option Nat)) :=
  let what := if field then "field" else "byte/character position"
  let number (digits : Octets) : Except String Nat :=
    match natural? digits with
    | some 0 =>
      .error (if field then "fields are numbered from 1" else "byte/character positions are numbered from 1")
    | some n => .ok n
    | none => .error ("invalid " ++ what ++ " value " ++ inQuotes text)
  (Text.split ',' (text.map fun c => if c == ' ' then ',' else c)).mapM fun part =>
    match Text.cut? '-' part with
    | none => do
      let n ← number part
      return (n, some n)
    | some ([], []) => .error "invalid range with no endpoint: -"
    | some ([], high) => do return (1, some (← number high))
    | some (low, []) => do return (← number low, none)
    | some (low, high) => do
      let low ← number low
      let high ← number high
      if low ≤ high then return (low, some high) else .error "invalid decreasing range"

/-- The places of a list, in order and without overlaps. -/
def mergedPlaces (places : List (Nat × Option Nat)) : List (Nat × Option Nat) :=
  let sorted := places.mergeSort fun a b => a.1 ≤ b.1
  sorted.foldl (fun merged (low, high) =>
    match merged.getLast? with
    | some (first, last) =>
      match last with
      | none => merged
      | some stop =>
        if low ≤ stop then
          merged.dropLast ++ [(first, high.map (max stop))]
        else merged ++ [(low, high)]
    | none => [(low, high)]) []

/-- The places that a list does not name. -/
def otherPlaces (places : List (Nat × Option Nat)) : List (Nat × Option Nat) :=
  let (found, next) := places.foldl (fun ((found, next) : List (Nat × Option Nat) × Option Nat)
      (low, high) =>
    let found := match next with
      | some n => if n < low then found ++ [(n, some (low - 1))] else found
      | none => found
    (found, high.map (· + 1))) ([], some 1)
  found ++ (next.map fun n => (n, none)).toList

/-- The items of a list at the places of a range. -/
def itemsAt {α : Type} (items : List α) (place : Nat × Option Nat) : List α :=
  let rest := items.drop (place.1 - 1)
  match place.2 with
  | some high => rest.take (high + 1 - place.1)
  | none => rest

/-- Cut parts out of lines. -/
def cut : Tool := fun call =>
  call.withOptions
    { flags := "snzC", valued := "dfcbO"
      long := [("delimiter", 'd'), ("fields", 'f'), ("characters", 'c'), ("bytes", 'b'),
        ("only-delimited", 's'), ("output-delimiter", 'O'), ("complement", 'C'),
        ("zero-terminated", 'z')] } 1
    fun options =>
      let lists := options.given.filter fun (letter, _) => ['f', 'c', 'b'].contains letter
      let byFields := options.has 'f'
      match lists with
      | [] => call.lacking "you must specify a list of bytes, characters, or fields"
      | _ :: _ :: _ => call.lacking "only one list may be specified"
      | [(_, list)] =>
        match placeList byFields list, (options.value? 'd').getD ['\t'] with
        | .error what, _ => call.lacking what
        | .ok _, _ :: _ :: _ => call.lacking "the delimiter must be a single character"
        | .ok places, separators =>
          if !byFields && options.has 'd' then
            call.lacking "an input delimiter may be specified only when operating on fields"
          else if !byFields && options.has 's' then
            call.lacking "suppressing non-delimited lines makes sense\n\tonly when operating on fields"
          else
            let mark := if options.has 'z' then '\x00' else '\n'
            let separator := separators.headD '\x00'
            let places := mergedPlaces places
            let places := if options.has 'C' then otherPlaces places else places
            let (text, effect) := call.joined options.operands 1
            let cutLine (line : Octets) : Option Octets :=
              if byFields then
                if !line.contains separator then if options.has 's' then none else some line
                else
                  let fields := Text.split separator line
                  let between := (options.value? 'O').getD [separator]
                  some (((places.flatMap (itemsAt fields)).intersperse between).flatten)
              else
                let parts := (places.map (itemsAt line)).filter (!·.isEmpty)
                some ((parts.intersperse ((options.value? 'O').getD [])).flatten)
            effect.say (((Octets.parts mark text).filterMap cutLine).flatMap (· ++ [mark]))

end SiteScript.Rehearsal.Shell
