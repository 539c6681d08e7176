import SiteScript.Rehearsal.Shell.Tool.Lines

/-!
# SiteScript.Rehearsal.Shell.Tool.Ends

The beginnings and the ends of files, and files cut into pieces.  How much is meant is a number, which a
letter can multiply (`quantity?`).
-/

namespace SiteScript.Rehearsal.Shell

/-- What a letter after a number multiplies it by. -/
def multiplier? (text : Octets) : Option Nat :=
  let power (base n : Nat) : Nat := Nat.pow base n
  let units := ['K', 'M', 'G', 'T', 'P', 'E']
  match text with
  | [] => some 1
  | ['b'] => some 512
  | ['k'] => some 1024
  | ['m'] => some 1048576
  | [c] => if units.contains c then some (power 1024 (units.idxOf c + 1)) else none
  | [c, 'B'] =>
    if c == 'k' then some 1000
    else if units.contains c then some (power 1000 (units.idxOf c + 1)) else none
  | [c, 'i', 'B'] => if units.contains c then some (power 1024 (units.idxOf c + 1)) else none
  | _ => none

/-- A number that a letter may multiply. -/
def quantity? (word : Octets) : Option Nat := do
  let digits := word.takeWhile Char.isDigit
  let factor ← multiplier? (word.drop digits.length)
  let n ← natural? digits
  return n * factor

/-- Options that are written as a number stand for a number of lines, or of bytes with a letter; with a
plus sign they count from the beginning. -/
def numericOption (args : List Octets) : List Octets :=
  match args with
  | (sign :: word) :: rest =>
    let digits := word.takeWhile Char.isDigit
    let letters := word.drop digits.length
    let count := if sign == '+' then '+' :: digits else digits
    if digits.isEmpty || (sign != '-' && sign != '+') then args
    else if letters.isEmpty || letters == ['l'] then ['-', 'n'] :: count :: rest
    else if letters == ['c'] then ['-', 'c'] :: count :: rest
    else if letters == ['q'] then ['-', 'n'] :: count :: ['-', 'q'] :: rest
    else args
  | _ => args

/-- Write parts of files, under the names of the files when there are several. -/
def partsOf (call : Call) (options : Options) (atBeginning : Bool) (part : Octets → Octets) :
    Effect :=
  let contents := call.contents options.operands
  let titled := (contents.length > 1 || options.prevails 'v' ['q']) && !options.prevails 'q' ['v']
  -- from a file no more is taken than is written
  let taken := if atBeginning && call.inputSize.isSome then
      min (call.inputTaken options.operands) (part call.input).length
    else call.inputTaken options.operands
  let start := { call.start with taken }
  let title (operand : Octets) (first : Bool) : Octets :=
    if !titled then []
    else
      let name := if operand == ['-'] then "standard input".toList else operand
      (if first then [] else ['\n']) ++ "==> ".toList ++ name ++ " <==\n".toList
  (contents.foldl (fun (effect, first) (operand, content) =>
    match content with
    | .ok text => (effect.say (title operand first ++ part text), false)
    | .error .isDirectory =>
      ((effect.say (title operand first)).complain (call.name ++ ": error reading " ++
        inQuotes operand ++ ": " ++ faultText .isDirectory), false)
    | .error fault =>
      (effect.complain (call.name ++ ": cannot open " ++ inQuotes operand ++ " for reading: " ++
        faultText fault), first)) (start, true)).1

/-- The units of a text that are counted: bytes, or lines with their ends. -/
def unitsOf (bytes : Bool) (mark : Char) (text : Octets) : List Octets :=
  if bytes then text.map fun c => [c] else markedLines mark (text.length + 1) text

/-- The first lines or bytes of a text, or all but so many last ones. -/
def firstPart (bytes : Bool) (mark : Char) (count : Octets) (text : Octets) : Option Octets :=
  match count with
  | '-' :: digits => (quantity? digits).map fun n =>
      let units := unitsOf bytes mark text
      (units.take (units.length - n)).flatten
  | '+' :: digits => (quantity? digits).map fun n => ((unitsOf bytes mark text).take n).flatten
  | digits => (quantity? digits).map fun n => ((unitsOf bytes mark text).take n).flatten

/-- The last lines or bytes of a text, or those from a place on. -/
def lastPart (bytes : Bool) (mark : Char) (count : Octets) (text : Octets) : Option Octets :=
  let last (n : Nat) : Octets :=
    let units := unitsOf bytes mark text
    (units.drop (units.length - n)).flatten
  match count with
  | '+' :: digits => (quantity? digits).map fun n => ((unitsOf bytes mark text).drop (n - 1)).flatten
  | '-' :: digits => (quantity? digits).map last
  | digits => (quantity? digits).map last

/-- Write an end of files. -/
def endOf (atBeginning : Bool) (part : Bool → Char → Octets → Octets → Option Octets) : Tool :=
  fun call =>
    let isPlus := call.args.head?.any fun word => word.head? == some '+'
    let args := if atBeginning && isPlus then call.args else numericOption call.args
    { call with args }.withOptions
      { flags := "qvfzF", valued := "ncs"
        long := [("lines", 'n'), ("bytes", 'c'), ("quiet", 'q'), ("silent", 'q'), ("verbose", 'v'),
          ("zero-terminated", 'z'), ("follow", 'f')] } 1
      fun options =>
        let bytes := options.prevails 'c' ['n']
        let mark := if options.has 'z' then '\x00' else '\n'
        let count := (options.value? (if bytes then 'c' else 'n')).getD "10".toList
        match part bytes mark count [] with
        | none =>
          call.start.complain (call.name ++ ": invalid number of " ++
            (if bytes then "bytes" else "lines") ++ ": " ++
            inQuotes (if atBeginning && count.head? == some '-' then count.tail else count))
        | some _ => partsOf call options atBeginning fun text => (part bytes mark count text).getD []

/-- Write the beginning of files. -/
def head : Tool := endOf true firstPart

/-- Write the end of files. -/
def tail : Tool := endOf false lastPart

/-! ## Pieces -/

/-- Items in groups of a size. -/
def grouped {α : Type} (size : Nat) : Nat → List α → List (List α)
  | 0, _ => []
  | _, [] => []
  | fuel + 1, items => items.take size :: grouped size fuel (items.drop size)

/-- The ending of the name of a piece: letters or digits, so many of them. -/
def pieceEnding (digits : Option Octets) (size n : Nat) : Octets :=
  let base := (digits.map List.length).getD 26
  let letter (k : Nat) : Char := match digits with
    | some digits => digits.getD k '0'
    | none => Char.ofNat (97 + k)
  (List.range size).reverse.map fun i => letter (n / Nat.pow base i % base)

/-- The ending of the name of a piece whose length grows with the number of pieces. -/
def growingEnding (digits : Option Octets) (n : Nat) : Octets :=
  let base := (digits.map List.length).getD 26
  let few := base * (base - 1)
  if n < few then pieceEnding digits 2 n
  else
    let top : Octets := match digits with
      | some digits => [digits.getLastD '9']
      | none => ['z']
    top ++ pieceEnding digits 3 (n - few)

/-- Lines in pieces of so many bytes at most; a longer line is a piece or several. -/
def linePieces (size : Nat) (lines : List Octets) : List Octets :=
  let (done, current) := lines.foldl (fun ((done, current) : List Octets × Octets) line =>
    let pieces := if line.length > size then grouped size (line.length + 1) line else [line]
    pieces.foldl (fun ((done, current) : List Octets × Octets) piece =>
      if current.length + piece.length > size && !current.isEmpty then (done ++ [current], piece)
      else (done, current ++ piece)) (done, current)) ([], [])
  if current.isEmpty then done else done ++ [current]

/-- Cut a file into pieces. -/
def split : Tool := fun call =>
  call.withOptions
    { flags := "deux", valued := "lbCanA", optional := "DX"
      long := [("lines", 'l'), ("bytes", 'b'), ("line-bytes", 'C'), ("suffix-length", 'a'),
        ("number", 'n'), ("additional-suffix", 'A'), ("numeric-suffixes", 'D'), ("hex-suffixes", 'X'),
        ("elide-empty-files", 'e')] } 1
    fun options =>
      let input := options.operands.headD ['-']
      let name := options.operands.getD 1 ['x']
      match (call.contents [input]).head? with
      | some (_, .ok text) =>
        let lines := markedLines '\n' (text.length + 1) text
        let number (letter : Char) : Option Nat := (options.value? letter).bind quantity?
        let pieces? : Option (List Octets) :=
          match options.value? 'n' with
          | some ('l' :: '/' :: count) => (natural? count).map fun n =>
              let size := max 1 (text.length / max n 1)
              -- a line belongs to the piece that its first byte falls into
              let places := (lines.foldl (fun ((places, offset) : List (Nat × Octets) × Nat) line =>
                (places ++ [(min (offset / size) (n - 1), line)], offset + line.length)) ([], 0)).1
              (List.range n).map fun i =>
                (places.filterMap fun (j, line) => if i = j then some line else none).flatten
          | some ('r' :: '/' :: count) => (natural? count).map fun n =>
              (List.range n).map fun i =>
                (lines.zipIdx.filterMap fun (line, j) => if j % n = i then some line else none).flatten
          | some count => (natural? count).map fun n =>
              let size := text.length / max n 1
              let extra := text.length % max n 1
              (List.range n).map fun i =>
                let start := i * size + min i extra
                (text.drop start).take (size + (if i < extra then 1 else 0))
          | none =>
            match options.value? 'b', options.value? 'C' with
            | some _, _ => (number 'b').filter (· > 0) |>.map fun n => grouped n (text.length + 1) text
            | none, some _ => (number 'C').filter (· > 0) |>.map fun n => linePieces n lines
            | none, none =>
              if options.has 'l' then
                (number 'l').filter (· > 0) |>.map fun n =>
                  (grouped n (lines.length + 1) lines).map List.flatten
              else some ((grouped 1000 (lines.length + 1) lines).map List.flatten)
        match pieces? with
        | none => call.lacking "invalid number"
        | some pieces =>
          let pieces := if options.has 'e' then pieces.filter (!·.isEmpty) else pieces
          let digits := if options.has 'd' || options.has 'D' then some "0123456789".toList
            else if options.has 'x' || options.has 'X' then some "0123456789abcdef".toList else none
          let first := ((options.value? 'D' <|> options.value? 'X').bind natural?).getD 0
          let ending (i : Nat) : Octets := match number 'a' with
            | some size => pieceEnding digits size (i + first)
            | none => growingEnding digits (i + first)
          let start := { call.start with taken := call.inputTaken [input] }
          pieces.zipIdx.foldl (fun effect (piece, i) =>
            let file := name ++ ending i ++ (options.value? 'A').getD []
            effect.attempt (call.write effect.files file piece) fun fault =>
              mistake call.name file fault) start
      | some (_, .error fault) =>
        call.start.complain (call.name ++ ": cannot open " ++ inQuotes input ++ " for reading: " ++
          faultText fault)
      | none => call.start

end SiteScript.Rehearsal.Shell
