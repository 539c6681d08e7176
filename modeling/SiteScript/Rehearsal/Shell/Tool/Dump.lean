import SiteScript.Hex
import SiteScript.Rehearsal.Shell.Tool.Ends

/-!
# SiteScript.Rehearsal.Shell.Tool.Dump

The bytes of files as numbers or marks.  Bytes are shown in lines of a width, after their place in the
file; a line has a row for each kind of field that is asked for (`Kind`).  The fields of all rows stand
below each other, so a row of wide fields moves the others apart (`row`).  Lines that repeat the one
before are left out.
-/

namespace SiteScript.Rehearsal.Shell

namespace Dump

/-- What is shown of bytes. -/
inductive Form where
  /-- The names of characters. -/
  | named
  /-- Characters, or what stands for them. -/
  | chars
  | signed
  | unsigned
  | octal
  | hex
deriving DecidableEq

/-- A kind of fields. -/
structure Kind where
  form : Form
  /-- How many bytes a field shows. -/
  size : Nat
  /-- Whether the characters of the line are shown after the row. -/
  trailer : Bool := false

/-- How wide the fields of a kind are. -/
def Kind.width (kind : Kind) : Nat :=
  let pick (widths : List Nat) : Nat := widths.getD kind.size 0
  match kind.form with
  | .named => 3
  | .chars => 3
  | .signed => pick [1, 4, 6, 8, 11, 13, 16, 18, 20]
  | .unsigned => pick [0, 3, 5, 8, 10, 13, 15, 17, 20]
  | .octal => pick [0, 3, 6, 8, 11, 14, 16, 19, 22]
  | .hex => 2 * kind.size

/-- A number in a base, with zeros up to a width. -/
def based (base width n : Nat) : Octets :=
  let digits := Nat.toDigits base n
  List.replicate (width - digits.length) '0' ++ digits

/-- The names of the characters that do not show. -/
def charNames : List String :=
  ["nul", "soh", "stx", "etx", "eot", "enq", "ack", "bel", "bs", "ht", "nl", "vt", "ff", "cr", "so",
    "si", "dle", "dc1", "dc2", "dc3", "dc4", "nak", "syn", "etb", "can", "em", "sub", "esc", "fs",
    "gs", "rs", "us", "sp"]

/-- The letters of the characters that are written with a backslash. -/
def charLetters : List (Char × Char) :=
  [('\x00', '0'), ('\x07', 'a'), ('\x08', 'b'), ('\t', 't'), ('\n', 'n'), ('\x0b', 'v'),
    ('\x0c', 'f'), ('\r', 'r')]

/-- Whether a character shows. -/
def isShown (c : Char) : Bool := ' ' ≤ c && c ≤ '~'

/-- The text of a field. -/
def Kind.text (kind : Kind) (bytes : Octets) : Octets :=
  let n := Bytes.ofLittleEndian bytes.bytes
  let c := bytes.headD '\x00'
  match kind.form with
  | .named =>
    let low := c.toNat % 128
    if low = 127 then "del".toList
    else ((charNames[low]?).map String.toList).getD [Char.ofNat low]
  | .chars =>
    match charLetters.lookup c with
    | some letter => ['\\', letter]
    | none => if isShown c then [c] else based 8 3 c.toNat
  | .signed =>
    let values := Nat.pow 256 kind.size
    Decimal.ofInt (if 2 * n ≥ values then (n : Int) - values else n)
  | .unsigned => Octets.ofNat n
  | .octal => based 8 kind.width n
  | .hex => based 16 kind.width n

/-- How lines are laid out. -/
structure Layout where
  kinds : List Kind
  /-- How many bytes a line shows. -/
  width : Nat
  /-- The base and the width of places; none if they are not shown. -/
  places : Option (Nat × Nat) := some (8, 7)
  /-- Whether lines that repeat are shown too. -/
  all : Bool := false

/-- The place of a line. -/
def Layout.place (layout : Layout) (offset : Nat) : Octets :=
  (layout.places.map fun (base, width) => based base width offset).getD []

/-- How wide a row is: as its widest fields need, with a blank before each. -/
def Layout.rowWidth (layout : Layout) : Nat :=
  (layout.kinds.map fun kind => (kind.width + 1) * (layout.width / kind.size)).foldl max 0

/-- The fields of a line of a kind, each brought to its share of the row. -/
def Layout.fields (layout : Layout) (kind : Kind) (bytes : Octets) : Octets :=
  let count := layout.width / kind.size
  let blank := (layout.width - bytes.length) / kind.size
  let padding := layout.rowWidth - kind.width * count
  let filled := bytes ++ List.replicate (layout.width - bytes.length) '\x00'
  (List.range (count - blank)).flatMap fun i =>
    let here := padding * (count - i) / count
    let next := padding * (count - i - 1) / count
    let here := if i = 0 then padding else here
    padLeft (here - next + kind.width) (kind.text ((filled.drop (i * kind.size)).take kind.size))

/-- The rows of a line. -/
def Layout.line (layout : Layout) (offset : Nat) (bytes : Octets) : Octets :=
  layout.kinds.zipIdx.flatMap fun (kind, i) =>
    let place := layout.place offset
    let start := if i = 0 then place else List.replicate place.length ' '
    let count := layout.width / kind.size
    let blank := (layout.width - bytes.length) / kind.size
    let padding := layout.rowWidth - kind.width * count
    let trailer := if kind.trailer then
        List.replicate (blank * kind.width + padding * blank / count) ' ' ++ "  >".toList ++
          bytes.map (fun c => if isShown c then c else '.') ++ ['<']
      else []
    start ++ layout.fields kind bytes ++ trailer ++ ['\n']

/-- The lines of bytes: the line before, and whether it was left out, decide about repetitions. -/
def Layout.lines (layout : Layout) : Nat → Nat → Option Octets → Bool → Octets → List Octets
  | 0, _, _, _, _ => []
  | _, _, _, _, [] => []
  | fuel + 1, offset, before, left, bytes =>
    let own := bytes.take layout.width
    let rest := bytes.drop layout.width
    if !layout.all && own.length = layout.width && before == some own then
      (if left then [] else ["*\n".toList]) ++
        layout.lines fuel (offset + own.length) before true rest
    else
      layout.line offset own :: layout.lines fuel (offset + own.length) (some own) false rest

/-! ## Reading what is asked for -/

/-- The size that a text begins with, in bytes; a letter stands for one. -/
def sizeOf? (text : Octets) : Option (Nat × Octets) :=
  let digits := text.takeWhile Char.isDigit
  match text with
  | 'C' :: rest => some (1, rest)
  | 'S' :: rest => some (2, rest)
  | 'I' :: rest => some (4, rest)
  | 'L' :: rest => some (8, rest)
  | _ =>
    if digits.isEmpty then some (4, text)
    else
      (natural? digits).bind fun n =>
        if [1, 2, 4, 8].contains n then some (n, text.drop digits.length) else none

/-- The kinds that a text asks for. -/
def kinds? : Nat → Octets → Option (List Kind)
  | 0, _ => none
  | _, [] => some []
  | fuel + 1, c :: rest => do
    let form ← ([('a', Form.named), ('c', .chars), ('d', .signed), ('u', .unsigned), ('o', .octal),
      ('x', .hex)] : List (Char × Form)).lookup c
    let (size, rest) ← if form = .named || form = .chars then some (1, rest) else sizeOf? rest
    let (trailer, rest) := match rest with
      | 'z' :: rest => (true, rest)
      | rest => (false, rest)
    return { form, size, trailer } :: (← kinds? fuel rest)

/-- What the options of one letter ask for. -/
def shorthands : List (Char × String) :=
  [('a', "a"), ('b', "o1"), ('c', "c"), ('d', "u2"), ('h', "x2"), ('i', "dI"), ('l', "dL"),
    ('o', "o2"), ('s', "d2"), ('x', "x2"), ('B', "o2"), ('D', "u4"), ('H', "x4"), ('I', "dL"),
    ('L', "dL"), ('O', "o4"), ('X', "x4")]

/-- All kinds that options ask for. -/
def allKinds? (options : Options) : Option (List Kind) := do
  let kinds ← options.given.mapM fun (letter, value) =>
    if letter == 't' then kinds? (value.length + 1) value
    else
      match shorthands.lookup letter with
      | some text => kinds? 10 text.toList
      | none => some []
  let kinds := kinds.flatten
  return if kinds.isEmpty then [{ form := .octal, size := 2 }] else kinds

/-- A number of bytes, perhaps in the base of eight or of sixteen. -/
def amount? (word : Octets) : Option Nat :=
  match word with
  | '0' :: 'x' :: digits =>
    if digits.isEmpty then none
    else
      digits.foldlM (fun (n : Nat) (c : Char) =>
        (Hex.digitValue? (UInt8.ofNat c.toNat)).map (16 * n + ·)) 0
  | '0' :: c :: digits =>
    if (c :: digits).all fun c => '0' ≤ c && c ≤ '7' then
      some ((c :: digits).foldl (fun n c => 8 * n + (c.toNat - 48)) 0)
    else none
  | word => quantity? word

end Dump

open Dump in
/-- Show the bytes of files. -/
def dump : Tool := fun call =>
  call.withOptions
    { flags := String.ofList ('v' :: shorthands.map (·.1)), valued := "AjNtS", optional := "w"
      long := [("address-radix", 'A'), ("skip-bytes", 'j'), ("read-bytes", 'N'), ("format", 't'),
        ("output-duplicates", 'v'), ("width", 'w'), ("strings", 'S')] } 1
    fun options =>
      let places? : Option (Option (Nat × Nat)) := match (options.value? 'A').map List.head? with
        | none => some (some (8, 7))
        | some (some 'd') => some (some (10, 7))
        | some (some 'o') => some (some (8, 7))
        | some (some 'x') => some (some (16, 6))
        | some (some 'n') => some none
        | some _ => none
      let skip? := ((options.value? 'j').map amount?).getD (some 0)
      let most? := (options.value? 'N').map amount?
      match places?, allKinds? options, skip?, most? with
      | none, _, _, _ => call.start.complain (call.name ++ ": invalid output address radix")
      | _, none, _, _ => call.start.complain (call.name ++ ": invalid type string")
      | _, _, none, _ => call.start.complain (call.name ++ ": invalid -j argument")
      | _, _, _, some none => call.start.complain (call.name ++ ": invalid -N argument")
      | some places, some kinds, some skip, most? =>
        let unit := (kinds.map (·.size)).foldl max 1
        let width := match options.value? 'w' with
          | none => 16
          | some [] => 32
          | some word =>
            let n := (natural? word).getD 0
            if n = 0 || n % unit != 0 then unit else n
        let (text, effect) := call.joined options.operands 1
        let isReadable := (call.contents options.operands).any fun (_, content) =>
          content.toOption.isSome
        if !isReadable then effect
        else if skip > text.length then
          effect.complain (call.name ++ ": cannot skip past end of combined input")
        else
          let bytes := text.drop skip
          let bytes := match most? with
            | some (some n) => bytes.take n
            | _ => bytes
          let layout : Layout := { kinds, width, places, all := options.has 'v' }
          let stop := layout.place (skip + bytes.length)
          effect.say ((layout.lines (bytes.length + 1) skip none false bytes).flatten ++
            (if stop.isEmpty then [] else stop ++ ['\n']))

end SiteScript.Rehearsal.Shell
