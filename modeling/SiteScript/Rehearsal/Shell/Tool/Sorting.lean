import SiteScript.Rehearsal.Shell.Tool.Lines
import SiteScript.Rehearsal.Shell.Tool.Print

/-!
# SiteScript.Rehearsal.Shell.Tool.Sorting

Lines in order.  Two lines are compared by keys, which are parts of them, each in its own way
(`SortKey.compare`); lines whose keys are the same are compared as a whole, unless their order is to
stay.  The other programs here take lines that are in order: equal ones are made one, and two files are
compared or joined.
-/

namespace SiteScript.Rehearsal.Shell

/-! ## Ways to compare -/

/-- The number at the beginning of a text, for comparing: sign, whole part and fraction. -/
def leadingNumber (text : Octets) : Bool × Nat × Octets :=
  let text := text.dropWhile fun c => c == ' ' || c == '\t'
  let (negative, digits) := match text with
    | '-' :: rest => (true, rest)
    | _ => (false, text)
  let whole := digits.takeWhile Char.isDigit
  let fraction := match digits.drop whole.length with
    | '.' :: rest => rest.takeWhile Char.isDigit
    | _ => []
  (negative, Decimal.value whole, Text.dropEndWhile (· == '0') fraction)

/-- Compare by the numbers at the beginning. -/
def compareNumbers (a b : Octets) : Ordering :=
  let (negA, wholeA, fractionA) := leadingNumber a
  let (negB, wholeB, fractionB) := leadingNumber b
  let zeroA := wholeA = 0 && fractionA.isEmpty
  let zeroB := wholeB = 0 && fractionB.isEmpty
  let negA := negA && !zeroA
  let negB := negB && !zeroB
  let magnitude := if wholeA < wholeB then Ordering.lt else if wholeA > wholeB then .gt
    else if Octets.before fractionA fractionB then .lt
    else if Octets.before fractionB fractionA then .gt else .eq
  match negA, negB with
  | true, false => .lt
  | false, true => .gt
  | true, true => magnitude.swap
  | false, false => magnitude

/-- Compare two integers. -/
def compareInts (a b : Int) : Ordering := if a < b then .lt else if b < a then .gt else .eq

/-- Compare by numbers with a fraction and an exponent at the beginning; what is no number comes
first. -/
def compareReals (a b : Octets) : Ordering :=
  let value (text : Octets) : Option Binary64 :=
    (leadingReal? (text.dropWhile Octets.isSpace)).map (·.1)
  match value a, value b with
  | none, none => .eq
  | none, some _ => .lt
  | some _, none => .gt
  | some x, some y =>
    let cross (x y : Binary64) : Int :=
      let n : Int := x.ratio.1 * y.ratio.2
      if x.negative then -n else n
    compareInts (cross x y) (cross y x)

/-- The unit letters of sizes, from the smallest. -/
def sizeUnits : List Char := ['K', 'M', 'G', 'T', 'P', 'E', 'Z', 'Y', 'R', 'Q']

/-- Compare by sizes with a unit letter: first by the unit, then by the number. -/
def compareSizes (a b : Octets) : Ordering :=
  let unit (text : Octets) : Int :=
    let text := text.dropWhile fun c => c == ' ' || c == '\t'
    let (sign, digits) : Int × Octets := match text with
      | '-' :: rest => (-1, rest)
      | _ => (1, text)
    let (_, whole, fraction) := leadingNumber digits
    if whole = 0 && fraction.isEmpty then 0
    else
      let rest := digits.dropWhile fun c => c.isDigit || c == '.'
      let letter := (rest.head?.map fun c => if c == 'k' then 'K' else c).getD ' '
      let index := sizeUnits.idxOf letter
      if index < sizeUnits.length then sign * (index + 1) else 0
  (compareInts (unit a) (unit b)).then (compareNumbers a b)

/-- The names of months. -/
def monthNames : List String :=
  ["JAN", "FEB", "MAR", "APR", "MAY", "JUN", "JUL", "AUG", "SEP", "OCT", "NOV", "DEC"]

/-- Compare by the names of months; other texts come first. -/
def compareMonths (a b : Octets) : Ordering :=
  let month (text : Octets) : Int :=
    let name := ((text.dropWhile Octets.isSpace).take 3).map Char.toUpper
    let index := monthNames.idxOf (String.ofList name)
    if index < monthNames.length then index + 1 else 0
  compareInts (month a) (month b)

/-- Compare by bytes. -/
def compareBytes (a b : Octets) : Ordering :=
  if Octets.before a b then .lt else if Octets.before b a then .gt else .eq

/-- The rank of a character in a version: a tilde comes before the end, letters before other marks. -/
def versionRank : Option Char → Int
  | none => 0
  | some c =>
    if c == '~' then -1 else if c.isDigit then 0 else if c.isAlpha then c.toNat else c.toNat + 256

/-- Compare texts in which numbers count as numbers, part by part. -/
def compareVersionParts : Nat → Octets → Octets → Ordering
  | 0, _, _ => .eq
  | _, [], [] => .eq
  | fuel + 1, a, b =>
    let plain (text : Octets) : Option Char := text.head?.filter (!·.isDigit)
    if (plain a).isSome || (plain b).isSome then
      match compareInts (versionRank a.head?) (versionRank b.head?) with
      | .eq => compareVersionParts fuel a.tail b.tail
      | ordering => ordering
    else
      let digitsA := (a.takeWhile Char.isDigit).dropWhile (· == '0')
      let digitsB := (b.takeWhile Char.isDigit).dropWhile (· == '0')
      match compareInts (Decimal.value digitsA) (Decimal.value digitsB) with
      | .eq =>
        compareVersionParts fuel (a.dropWhile Char.isDigit) (b.dropWhile Char.isDigit)
      | ordering => ordering

/-- A text without its endings, each a dot, a letter and what follows. -/
def withoutEndings (text : Octets) : Nat → Octets
  | 0 => text
  | fuel + 1 =>
    match Text.cutLast? '.' text with
    | some (before, ending) =>
      let isEnding := ending.head?.any (fun c => c.isAlpha || c == '~') &&
        ending.all fun c => c.isAlphanum || c == '~'
      if isEnding && !before.isEmpty then withoutEndings before fuel else text
    | none => text

/-- Compare texts as versions: without their endings first. -/
def compareVersions (a b : Octets) : Ordering :=
  let fuel := a.length + b.length + 1
  match compareVersionParts fuel (withoutEndings a a.length) (withoutEndings b b.length) with
  | .eq => compareVersionParts fuel a b
  | ordering => ordering

/-! ## Keys -/

/-- A part of lines to compare: fields and characters from and to, and how. -/
structure SortKey where
  fromField : Nat := 0
  fromChar : Nat := 0
  /-- Whether blanks are skipped before the beginning is counted. -/
  fromBlanks : Bool := false
  toField : Option Nat := none
  toChar : Nat := 0
  toBlanks : Bool := false
  flags : List Char := []

/-- Read a place in a key: a field and a character, and the flags after them. -/
def sortPlace (text : Octets) : Nat × Option Nat × List Char :=
  let field := text.takeWhile Char.isDigit
  match text.drop field.length with
  | '.' :: rest =>
    let char := rest.takeWhile Char.isDigit
    (Decimal.value field, some (Decimal.value char), rest.drop char.length)
  | rest => (Decimal.value field, none, rest)

/-- Read a key; none for one without a field. -/
def sortKey? (text : Octets) : Option SortKey :=
  let (first, last?) := match Text.cut? ',' text with
    | some (first, last) => (first, some last)
    | none => (text, none)
  let (field, char, flags) := sortPlace first
  let isFlags (flags : List Char) : Bool := flags.all fun c => "bdfghiMnRrV".contains c
  let start : SortKey :=
    { fromField := field - 1, fromChar := char.getD 1 - 1, fromBlanks := flags.contains 'b'
      flags := flags.filter (· != 'b') }
  if field = 0 || !isFlags flags then none
  else
    match last?.map sortPlace with
    | none => some start
    | some (toField, toChar, more) =>
      if toField = 0 || !isFlags more then none
      else
        some
          { start with
            toField := some toField, toChar := toChar.getD 0, toBlanks := more.contains 'b'
            flags := start.flags ++ more.filter (· != 'b') }

/-- Whether a character is a blank between fields. -/
def isFieldBlank (c : Char) : Bool := c == ' ' || c == '\t'

/-- What follows so many fields. -/
def afterFields (separator : Option Char) : Nat → Octets → Octets
  | 0, text => text
  | n + 1, text =>
    match separator with
    | some c => afterFields separator n ((text.dropWhile (· != c)).drop 1)
    | none =>
      afterFields separator n ((text.dropWhile isFieldBlank).dropWhile (!isFieldBlank ·))

/-- The part of a line that a key names. -/
def SortKey.part (key : SortKey) (separator : Option Char) (line : Octets) : Octets :=
  let skip (blanks : Bool) (text : Octets) : Octets :=
    if blanks then text.dropWhile isFieldBlank else text
  let start := (skip key.fromBlanks (afterFields separator key.fromField line)).drop key.fromChar
  match key.toField with
  | none => start
  | some last =>
    let rest := if key.toChar = 0 then
        -- the last field is taken as a whole, without what separates it from the next
        match separator with
        | some c => (afterFields separator (last - 1) line).dropWhile (· != c)
        | none => afterFields separator last line
      else (skip key.toBlanks (afterFields separator (last - 1) line)).drop key.toChar
    start.take (start.length - rest.length)

/-- Compare two texts as flags say. -/
def compareWith (flags : List Char) (a b : Octets) : Ordering :=
  let prepare (text : Octets) : Octets :=
    let text := if flags.contains 'd' then
        text.filter fun c => c.isAlphanum || c == ' ' || c == '\t'
      else if flags.contains 'i' then text.filter fun c => ' ' ≤ c && c ≤ '~'
      else text
    if flags.contains 'f' then text.map Char.toUpper else text
  let ordering := if flags.contains 'n' then compareNumbers a b
    else if flags.contains 'g' then compareReals a b
    else if flags.contains 'h' then compareSizes a b
    else if flags.contains 'M' then compareMonths a b
    else if flags.contains 'V' then compareVersions (prepare a) (prepare b)
    else compareBytes (prepare a) (prepare b)
  if flags.contains 'r' then ordering.swap else ordering

/-- The ways to compare that letters stand for. -/
def orderLetters : List Char := ['d', 'f', 'g', 'h', 'i', 'M', 'n', 'r', 'V']

/-- Compare two lines by keys; a key without flags of its own has those of all. -/
def compareKeys (keys : List SortKey) (separator : Option Char) (letters : List Char) (a b : Octets) :
    Ordering :=
  let shared := letters.filter orderLetters.contains
  let blanks := letters.contains 'b'
  if keys.isEmpty then
    let trim (text : Octets) : Octets := if blanks then text.dropWhile isFieldBlank else text
    compareWith shared (trim a) (trim b)
  else
    keys.foldl (fun ordering key =>
      let isPlain := key.flags.isEmpty && !key.fromBlanks && !key.toBlanks
      let flags := if isPlain then shared else key.flags
      let key := if isPlain then { key with fromBlanks := blanks, toBlanks := blanks } else key
      ordering.then (compareWith flags (key.part separator a) (key.part separator b))) .eq

/-! ## Sorting -/

/-- Keep one of lines that are equal. -/
def distinct (same : Octets → Octets → Bool) (lines : List Octets) : List Octets :=
  (lines.splitBy same).filterMap List.head?

/-- Merge lists by taking the smallest of their first lines again and again. -/
def mergeAll (ordered : Octets → Octets → Bool) : Nat → List (List Octets) → List Octets
  | 0, _ => []
  | fuel + 1, lists =>
    let lists := lists.filter (!·.isEmpty)
    let smallest := lists.filterMap List.head? |>.foldl (fun least line =>
      match least with
      | none => some line
      | some other => if ordered other line then some other else some line) none
    match smallest with
    | none => []
    | some line =>
      let index := lists.findIdx fun list => list.head? == some line
      line :: mergeAll ordered fuel (lists.modify index List.tail)

/-- Sort lines. -/
def sort : Tool := fun call =>
  call.withOptions
    { flags := "rnufbdcCmsgzVhiMR", valued := "ktoSTWP"
      long := [("reverse", 'r'), ("numeric-sort", 'n'), ("unique", 'u'), ("ignore-case", 'f'),
        ("key", 'k'), ("field-separator", 't'), ("output", 'o'), ("check", 'c'), ("stable", 's'),
        ("merge", 'm'), ("version-sort", 'V'), ("human-numeric-sort", 'h'),
        ("general-numeric-sort", 'g'), ("month-sort", 'M'), ("dictionary-order", 'd'),
        ("ignore-leading-blanks", 'b'), ("ignore-nonprinting", 'i'), ("zero-terminated", 'z'),
        ("random-sort", 'R'), ("buffer-size", 'S'), ("temporary-directory", 'T'), ("sort", 'W'),
        ("parallel", 'P')] } 2
    fun options =>
      let contents := call.contents options.operands
      let failed := contents.findSome? fun (operand, content) =>
        match content with
        | .ok _ => none
        | .error .isDirectory => some (call.name ++ ": read failed: " ++ Octets.name operand ++
            ": Is a directory")
        | .error fault => some (call.name ++ ": cannot read: " ++ Octets.name operand ++ ": " ++
            faultText fault)
      let keys? := (options.given.filter (·.1 == 'k')).mapM fun (_, value) => sortKey? value
      let separator? : Option (Option Char) := match options.value? 't' with
        | none => some none
        | some [c] => some (some c)
        | some ['\\', '0'] => some (some '\x00')
        | some _ => none
      match failed, keys?, separator? with
      | some text, _, _ => call.start.complainWith 2 text
      | none, none, _ => call.start.complainWith 2 (call.name ++ ": invalid field specification")
      | none, _, none => call.start.complainWith 2 (call.name ++ ": multi-character tab")
      | none, some keys, some separator =>
        let mark := if options.has 'z' then '\x00' else '\n'
        let named := [("numeric", 'n'), ("general-numeric", 'g'), ("human-numeric", 'h'),
          ("month", 'M'), ("version", 'V'), ("random", 'R')]
        let letters := options.given.filterMap fun (letter, value) =>
          if letter == 'W' then named.lookup (String.ofList value) else some letter
        let compare := compareKeys keys separator letters
        let final (a b : Octets) : Ordering :=
          if options.has 'u' || options.has 's' then .eq
          else
            let ordering := compareBytes a b
            if options.has 'r' then ordering.swap else ordering
        let ordered (a b : Octets) : Bool := (compare a b).then (final a b) != .gt
        let lists := contents.filterMap fun (_, content) =>
          content.toOption.map (Octets.parts mark)
        let lines := lists.flatten
        let effect := { call.start with taken := call.inputTaken options.operands }
        if options.has 'c' || options.has 'C' then
          let wrong := (lines.zip lines.tail).zipIdx.find? fun ((a, b), _) =>
            !(if options.has 'u' then compare a b == .lt else ordered a b)
          match wrong with
          | none => effect
          | some ((_, line), i) =>
            if options.has 'C' || options.value? 'c' == some "quiet".toList then
              { effect with status := 1 }
            else
              let file := (options.operands.headD ['-']).name
              effect.complain (call.name ++ ": " ++ file ++ ":" ++ Decimal.text (i + 2) ++
                ": disorder: " ++ line.name)
        else
          let sorted := if options.has 'm' then mergeAll ordered (lines.length + 1) lists
            else lines.mergeSort ordered
          let sorted := if options.has 'u' then distinct (fun a b => compare a b == .eq) sorted
            else sorted
          let shown := sorted.flatMap (· ++ [mark])
          match options.value? 'o' with
          | none => effect.say shown
          | some file =>
            effect.attempt (call.write effect.files file shown) fun fault =>
              call.name ++ ": open failed: " ++ file.name ++ ": " ++ faultText fault

/-! ## Lines that follow each other -/

/-- What is compared of a line: without fields and characters at its beginning, and so long at most. -/
def comparedPart (options : Options) (line : Octets) : Octets :=
  let number (letter : Char) : Option Nat := (options.value? letter).bind natural?
  let dropField (text : Octets) : Octets :=
    (text.dropWhile isFieldBlank).dropWhile (!isFieldBlank ·)
  let line := (List.range ((number 'f').getD 0)).foldl (fun line _ => dropField line) line
  let line := line.drop ((number 's').getD 0)
  let line := match number 'w' with
    | some n => line.take n
    | none => line
  if options.has 'i' then line.map Char.toLower else line

/-- Keep one of equal lines that follow each other. -/
def unique : Tool := fun call =>
  call.withOptions
    { flags := "cduizD", valued := "fsw", optional := "AG"
      long := [("count", 'c'), ("repeated", 'd'), ("unique", 'u'), ("ignore-case", 'i'),
        ("zero-terminated", 'z'), ("skip-fields", 'f'), ("skip-chars", 's'), ("check-chars", 'w'),
        ("all-repeated", 'A'), ("group", 'G')] } 1
    fun options =>
      let (text, effect) := call.joined (options.operands.take 1) 1
      if effect.status != 0 then effect
      else if options.operands.length > 2 then
        call.lacking ("extra operand " ++ inQuotes (options.operands.getD 2 []))
      else
        let mark := if options.has 'z' then '\x00' else '\n'
        let found := (Octets.parts mark text).splitBy fun a b =>
          comparedPart options a == comparedPart options b
        let lines (group : List Octets) : Octets := group.flatMap (· ++ [mark])
        let shown := if options.has 'G' then
            let method := String.ofList ((options.value? 'G').getD [])
            let bodies := found.map lines
            let between := (bodies.intersperse [mark]).flatten
            if bodies.isEmpty then []
            else if method == "prepend" then mark :: between
            else if method == "append" then between ++ [mark]
            else if method == "both" then mark :: between ++ [mark]
            else between
          else if options.has 'D' || options.has 'A' then
            let method := String.ofList ((options.value? 'A').getD [])
            let bodies := (found.filter (·.length > 1)).map lines
            if method == "separate" then (bodies.intersperse [mark]).flatten
            else if method == "prepend" then bodies.flatMap (mark :: ·)
            else bodies.flatten
          else
            let kept := found.filter fun group =>
              (!options.has 'd' || group.length > 1) && (!options.has 'u' || group.length = 1)
            kept.flatMap fun group =>
              (if options.has 'c' then padLeft 7 (Octets.ofNat group.length) ++ [' '] else []) ++
                group.headD [] ++ [mark]
        match options.operands.drop 1 with
        | file :: _ =>
          if file == ['-'] then effect.say shown
          else
            effect.attempt (call.write effect.files file shown) fun fault =>
              mistake call.name file fault
        | [] => effect.say shown

/-! ## Two files -/

/-- Two lists of lines in order, side by side: lines of the first alone, of the second alone, of
both. -/
def sideBySide : Nat → List Octets → List Octets → List (Option Octets × Option Octets)
  | 0, _, _ => []
  | _, [], [] => []
  | fuel + 1, a :: as, [] => (some a, none) :: sideBySide fuel as []
  | fuel + 1, [], b :: bs => (none, some b) :: sideBySide fuel [] bs
  | fuel + 1, a :: as, b :: bs =>
    if Octets.before a b then (some a, none) :: sideBySide fuel as (b :: bs)
    else if Octets.before b a then (none, some b) :: sideBySide fuel (a :: as) bs
    else (some a, some b) :: sideBySide fuel as bs

/-- Whether lines are in order. -/
def areOrdered (lines : List Octets) : Bool :=
  (lines.zip lines.tail).all fun (a, b) => !Octets.before b a

/-- Compare two files of lines in order: what only one has, and what both have, in three columns. -/
def commonLines : Tool := fun call =>
  call.withOptions
    { flags := "123zxnT", valued := "O"
      long := [("output-delimiter", 'O'), ("check-order", 'x'), ("nocheck-order", 'n'),
        ("total", 'T'), ("zero-terminated", 'z')] } 1
    fun options =>
      match call.contents options.operands, options.operands.length with
      | [(_, .ok x), (_, .ok y)], 2 =>
        let mark := if options.has 'z' then '\x00' else '\n'
        let first := Octets.parts mark x
        let second := Octets.parts mark y
        let found := sideBySide (first.length + second.length + 1) first second
        let between := (options.value? 'O').getD ['\t']
        let hides (n : Char) : Bool := options.has n
        let indent (n : Nat) : Octets :=
          (if n > 1 && !hides '1' then between else []) ++ (if n > 2 && !hides '2' then between else [])
        let shown := found.flatMap fun pair =>
          match pair with
          | (some a, none) => if hides '1' then [] else a ++ [mark]
          | (none, some b) => if hides '2' then [] else indent 2 ++ b ++ [mark]
          | (some a, some _) => if hides '3' then [] else indent 3 ++ a ++ [mark]
          | (none, none) => []
        let counted (kind : Option Octets × Option Octets → Bool) : Octets :=
          Octets.ofNat (found.filter kind).length
        let total := if options.has 'T' then
            counted (fun pair => pair.1.isSome && pair.2.isNone) ++ between ++
              counted (fun pair => pair.1.isNone && pair.2.isSome) ++ between ++
              counted (fun pair => pair.1.isSome && pair.2.isSome) ++ between ++
              "total".toList ++ [mark]
          else []
        let unpaired := found.any fun pair => pair.1.isNone || pair.2.isNone
        let disorder := !options.has 'n' && (unpaired || options.has 'x') &&
          !(areOrdered first && areOrdered second)
        let effect := { call.start with taken := call.inputTaken options.operands }.say (shown ++ total)
        if disorder then
          let file := if areOrdered first then "2" else "1"
          let effect := effect.complain (call.name ++ ": file " ++ file ++ " is not in sorted order")
          if options.has 'x' then effect
          else effect.complain (call.name ++ ": input is not in sorted order")
        else effect
      | contents, 2 =>
        contents.foldl (fun effect (operand, content) =>
          match content with
          | .error fault => if effect.status = 0 then
              effect.complain (mistake call.name operand fault) else effect
          | .ok _ => effect) call.start
      | _, 0 => call.lacking "missing operand"
      | _, 1 => call.lacking ("missing operand after " ++ inQuotes (options.operands.headD []))
      | _, _ => call.lacking ("extra operand " ++ inQuotes (options.operands.getD 2 []))

namespace Joining

/-- How lines are joined. -/
structure Manner where
  separator : Option Char := none
  field1 : Nat := 1
  field2 : Nat := 1
  anyCase : Bool := false
  /-- What stands for a field that is missing. -/
  filler : Octets := []
  /-- The fields that are written, each of a file; the shared one has file zero. -/
  format : Option (List (Nat × Nat)) := none
  /-- Whether as many fields are written as the first lines have. -/
  auto : Bool := false

/-- The fields of a line. -/
def fieldsOf (manner : Manner) (line : Octets) : List Octets :=
  match manner.separator with
  | some c => Text.split c line
  | none => (line.splitBy fun a b => isFieldBlank a == isFieldBlank b).filter fun part =>
      !(part.head?.any isFieldBlank)

/-- The field that is compared. -/
def keyOf (manner : Manner) (field : Nat) (fields : List Octets) : Octets :=
  let key := fields.getD (field - 1) []
  if manner.anyCase then key.map Char.toLower else key

/-- Fields without the one that is compared. -/
def others (field : Nat) (fields : List Octets) : List Octets := fields.eraseIdx (field - 1)

/-- A line that is written for two lines, of which one may be missing. -/
def joined (manner : Manner) (a b : Option (List Octets)) : Octets :=
  let between := [manner.separator.getD ' ']
  let shared := match a, b with
    | some fields, _ => fields.getD (manner.field1 - 1) []
    | none, some fields => fields.getD (manner.field2 - 1) []
    | none, none => []
  let orFiller (text : Octets) : Octets := if text.isEmpty then manner.filler else text
  let fields : List Octets := match manner.format with
    | some format => format.map fun (file, field) =>
        if file = 0 then orFiller shared
        else
          let source := if file = 1 then a else b
          orFiller ((source.getD []).getD (field - 1) [])
    | none =>
      shared :: ((a.map (others manner.field1)).getD [] ++ (b.map (others manner.field2)).getD [])
        |>.map orFiller
  (fields.intersperse between).flatten

/-- Lines of two files by their fields: those that belong together, and those without a partner. -/
def pairs (manner : Manner) : Nat → List (List Octets) → List (List Octets) →
    List (Option (List Octets) × Option (List Octets))
  | 0, _, _ => []
  | _, [], [] => []
  | fuel + 1, a :: as, [] => (some a, none) :: pairs manner fuel as []
  | fuel + 1, [], b :: bs => (none, some b) :: pairs manner fuel [] bs
  | fuel + 1, a :: as, b :: bs =>
    let key1 := keyOf manner manner.field1 a
    let key2 := keyOf manner manner.field2 b
    if Octets.before key1 key2 then (some a, none) :: pairs manner fuel as (b :: bs)
    else if Octets.before key2 key1 then (none, some b) :: pairs manner fuel (a :: as) bs
    else
      let same1 := (a :: as).takeWhile fun line => keyOf manner manner.field1 line == key1
      let same2 := (b :: bs).takeWhile fun line => keyOf manner manner.field2 line == key2
      (same1.flatMap fun x => same2.map fun y => (some x, some y)) ++
        pairs manner fuel ((a :: as).drop same1.length) ((b :: bs).drop same2.length)

/-- The fields that a word names. -/
def format? (word : Octets) : Option (List (Nat × Nat)) :=
  let words := (Text.split ',' (word.map fun c => if c == ' ' then ',' else c)).filter (!·.isEmpty)
  words.mapM fun part =>
    match part with
    | ['0'] => some (0, 0)
    | '1' :: '.' :: field => (natural? field).map fun n => (1, n)
    | '2' :: '.' :: field => (natural? field).map fun n => (2, n)
    | _ => none

end Joining

open Joining in
/-- Join the lines of two files that have a field in common. -/
def join : Tool := fun call =>
  call.withOptions
    { flags := "izHxn", valued := "12jtaveo"
      long := [("ignore-case", 'i'), ("header", 'H'), ("check-order", 'x'), ("nocheck-order", 'n'),
        ("zero-terminated", 'z')] } 1
    fun options =>
      let number (letter : Char) : Option Nat := (options.value? letter).bind natural?
      let shared := (number 'j').getD 1
      let formats := options.given.filterMap fun (letter, value) =>
        if letter == 'o' && value != "auto".toList then some value else none
      let manner : Manner :=
        { separator := match options.value? 't' with
            | some ['\\', '0'] => some '\x00'
            | some (c :: _) => some c
            | _ => none
          field1 := (number '1').getD shared, field2 := (number '2').getD shared
          anyCase := options.has 'i', filler := (options.value? 'e').getD []
          format := if formats.isEmpty then none else
            some (formats.flatMap fun word => (format? word).getD []) }
      match call.contents options.operands, options.operands.length with
      | [(_, .ok x), (_, .ok y)], 2 =>
        let first := (Octets.lines x).map (fieldsOf manner)
        let second := (Octets.lines y).map (fieldsOf manner)
        let header := if options.has 'H' then
            match first, second with
            | a :: _, b :: _ => [joined manner (some a) (some b)]
            | _, _ => []
          else []
        let first := if options.has 'H' then first.tail else first
        let second := if options.has 'H' then second.tail else second
        let found := pairs manner (first.length + second.length + 1) first second
        let wants (letter file : Char) : Bool :=
          options.given.any fun (c, value) => c == letter && value == [file]
        let only := options.has 'v'
        let shown := found.filterMap fun (a, b) =>
          let wanted := match a, b with
            | some _, some _ => !only
            | some _, none => wants 'a' '1' || wants 'v' '1'
            | none, _ => wants 'a' '2' || wants 'v' '2'
          if wanted then some (joined manner a b) else none
        let keys1 := first.map (keyOf manner manner.field1)
        let keys2 := second.map (keyOf manner manner.field2)
        let unpaired := found.any fun (a, b) => a.isNone || b.isNone
        let effect := { call.start with taken := call.inputTaken options.operands }.say
          (Octets.unlines (header ++ shown))
        if unpaired && !options.has 'n' && !(areOrdered keys1 && areOrdered keys2) then
          effect.complain (call.name ++ ": input is not in sorted order")
        else effect
      | contents, 2 =>
        contents.foldl (fun effect (operand, content) =>
          match content with
          | .error fault => if effect.status = 0 then
              effect.complain (mistake call.name operand fault) else effect
          | .ok _ => effect) call.start
      | _, 0 => call.lacking "missing operand"
      | _, 1 => call.lacking ("missing operand after " ++ inQuotes (options.operands.headD []))
      | _, _ => call.lacking ("extra operand " ++ inQuotes (options.operands.getD 2 []))

end SiteScript.Rehearsal.Shell
