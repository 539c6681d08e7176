import SiteScript.Binary64
import SiteScript.Rehearsal.Shell.Arithmetic
import SiteScript.Rehearsal.Shell.Tool.Basic

/-!
# SiteScript.Rehearsal.Shell.Tool.Print

Writing text: `echo` writes words, `printf` writes a format with words put into it.  In both a
backslash begins the name of a character.
-/

namespace SiteScript.Rehearsal.Shell

/-! ## Escapes -/

/-- The characters that a backslash and a letter stand for. -/
def escapeNames : List (Char × Char) :=
  [('n', '\n'), ('t', '\t'), ('r', '\r'), ('a', '\x07'), ('b', '\x08'), ('f', '\x0c'), ('v', '\x0b'),
    ('e', '\x1b'), ('\\', '\\')]

/-- Whether a character is an octal digit. -/
def isOctal (c : Char) : Bool := '0' ≤ c && c ≤ '7'

/-- The byte that up to so many octal digits stand for, and what follows them. -/
def cutOctal (digits : Nat) (text : Octets) : Char × Octets :=
  let read := (text.take digits).takeWhile isOctal
  let value := read.foldl (fun n c => 8 * n + Decimal.digitValue c) 0
  (Char.ofNat (value % 256), text.drop read.length)

/-- The character that the text after a backslash stands for, and what follows it.  A backslash that
names nothing stands for itself. -/
def cutEscape (text : Octets) : Char × Octets :=
  match text with
  | c :: rest =>
    if isOctal c then cutOctal 3 text
    else
      match escapeNames.lookup c with
      | some char => (char, rest)
      | none => ('\\', text)
  | [] => ('\\', [])

/-- A text with its escapes replaced, and whether `\c` ended it.  An octal number is written after a
zero. -/
def unescape : Nat → Octets → Octets × Bool
  | 0, _ => ([], false)
  | _, [] => ([], false)
  | fuel + 1, '\\' :: rest =>
    match rest with
    | 'c' :: _ => ([], true)
    | rest =>
      let (char, rest) := match rest with
        | '0' :: digits => cutOctal 3 digits
        | rest => cutEscape rest
      let (text, ended) := unescape fuel rest
      (char :: text, ended)
  | fuel + 1, c :: rest =>
    let (text, ended) := unescape fuel rest
    (c :: text, ended)

/-! ## Words -/

/-- Words with blanks between them and their escapes replaced, and whether `\c` ended them. -/
def echoWords : List Octets → Octets × Bool
  | [] => ([], false)
  | word :: rest =>
    let (text, ended) := unescape (word.length + 1) word
    if ended then (text, true)
    else if rest.isEmpty then (text, false)
    else
      let (more, ended) := echoWords rest
      (text ++ ' ' :: more, ended)

/-- The text that `echo` writes. -/
def echoText (words : List Octets) : Octets :=
  let (words, newline) := match words with
    | ['-', 'n'] :: words => (words, false)
    | _ => (words, true)
  let (text, ended) := echoWords words
  text ++ (if newline && !ended then ['\n'] else [])

/-- Write words. -/
def echo : Tool := fun call => call.start.say (echoText call.args)

/-- A text with its escapes replaced, and whether `\c` ended it.  Numbers are octal ones, with or without
a zero before them, or hexadecimal ones after an `x`; a backslash that names nothing stands for
itself. -/
def unescapeFully : Nat → Octets → Octets × Bool
  | 0, _ => ([], false)
  | _, [] => ([], false)
  | fuel + 1, '\\' :: rest =>
    let isHex (c : Char) : Bool := c.isDigit || ('a' ≤ c.toLower && c.toLower ≤ 'f')
    let (shown, rest, ended) : Octets × Octets × Bool := match rest with
      | 'c' :: _ => ([], [], true)
      | '0' :: digits =>
        let (char, rest) := cutOctal 3 digits
        ([char], rest, false)
      | 'x' :: digits =>
        let read := (digits.take 2).takeWhile isHex
        if read.isEmpty then (['\\', 'x'], digits, false)
        else
          let value := read.foldl (fun n c =>
            16 * n + (if c.isDigit then Decimal.digitValue c else c.toLower.toNat - 87)) 0
          ([Char.ofNat value], digits.drop read.length, false)
      | rest =>
        let (char, rest) := cutEscape rest
        ([char], rest, false)
    if ended then ([], true)
    else
      let (text, ended) := unescapeFully fuel rest
      (shown ++ text, ended)
  | fuel + 1, c :: rest =>
    let (text, ended) := unescapeFully fuel rest
    (c :: text, ended)

/-- The options of words to write: whether a line ends, whether escapes are replaced, and the words. -/
def wordOptions (newline escapes : Bool) : List Octets → Bool × Bool × List Octets
  | ('-' :: c :: letters) :: rest =>
    if (c :: letters).all fun c => c == 'n' || c == 'e' || c == 'E' then
      let escapes := (c :: letters).foldl (fun escapes c =>
        if c == 'e' then true else if c == 'E' then false else escapes) escapes
      wordOptions (newline && !(c :: letters).contains 'n') escapes rest
    else (newline, escapes, ('-' :: c :: letters) :: rest)
  | words => (newline, escapes, words)

/-- Write words as they are, or with their escapes replaced if that is wanted. -/
def writeWords : Tool := fun call =>
  let (newline, escapes, words) := wordOptions true false call.args
  let text := Octets.spaced words
  let (text, ended) := if escapes then unescapeFully (text.length + 1) text else (text, false)
  call.start.say (text ++ (if newline && !ended then ['\n'] else []))

/-! ## Numbers in a format -/

/-- How a value is put into a format. -/
structure Slot where
  flags : List Char := []
  width : Nat := 0
  precision : Option Nat := none
deriving DecidableEq

namespace Slot

/-- Bring a text to its width. -/
def pad (slot : Slot) (text : Octets) : Octets :=
  let filling := List.replicate (slot.width - text.length) ' '
  if slot.flags.contains '-' then text ++ filling else filling ++ text

/-- Bring a number to its width, with zeros after its sign if they are wanted. -/
def padNumber (slot : Slot) (zeros : Bool) (sign digits : Octets) : Octets :=
  if zeros && slot.flags.contains '0' && !slot.flags.contains '-' then
    sign ++ List.replicate (slot.width - sign.length - digits.length) '0' ++ digits
  else slot.pad (sign ++ digits)

/-- The sign of a number. -/
def sign (slot : Slot) (negative : Bool) : Octets :=
  if negative then ['-']
  else if slot.flags.contains '+' then ['+']
  else if slot.flags.contains ' ' then [' ']
  else []

/-- Digits of at least the precision. -/
def precise (slot : Slot) (digits : Octets) : Octets :=
  match slot.precision with
  | some 0 => if digits == ['0'] then [] else digits
  | some n => List.replicate (n - digits.length) '0' ++ digits
  | none => digits

/-- A signed number. -/
def signed (slot : Slot) (n : Int) : Octets :=
  slot.padNumber slot.precision.isNone (slot.sign (n < 0)) (slot.precise (Octets.ofNat n.natAbs))

/-- A number without a sign in a base. -/
def unsigned (slot : Slot) (letter : Char) (n : Nat) : Octets :=
  let base := if letter == 'o' then 8 else if letter == 'u' then 10 else 16
  let digits := slot.precise (Nat.toDigits base n)
  let alternative := slot.flags.contains '#'
  let digits := if letter == 'o' && alternative && digits.head? != some '0' then '0' :: digits
    else digits
  let mark : Octets :=
    if base == 16 && alternative && n != 0 then ['0', letter] else []
  let digits := if letter == 'X' then digits.map Char.toUpper else digits
  slot.padNumber slot.precision.isNone mark digits

/-- The digits of a number with so many places. -/
def fixedDigits (numerator denominator places : Nat) (point : Bool) : Octets :=
  let digits := Octets.ofNat (Binary64.divNearest (numerator * Decimal.power places) denominator)
  let digits := List.replicate (places + 1 - digits.length) '0' ++ digits
  let whole := digits.take (digits.length - places)
  let fraction := digits.drop (digits.length - places)
  whole ++ (if fraction.isEmpty && !point then [] else '.' :: fraction)

/-- A number scaled by a power of ten. -/
def scaled (numerator denominator : Nat) (power : Int) : Nat × Nat :=
  match power with
  | .ofNat k => (numerator, denominator * Decimal.power k)
  | .negSucc k => (numerator * Decimal.power (k + 1), denominator)

/-- The power of ten of the leading digit, once the number is rounded to so many places after it. -/
def leading (value : Binary64) (places : Nat) : Int :=
  if value.isZero then 0
  else
    let power := Binary64.leadingPower value
    let (n, d) := scaled value.ratio.1 value.ratio.2 (power - places)
    if Binary64.divNearest n d ≥ Decimal.power (places + 1) then power + 1 else power

/-- A number with one digit before the point, and its exponent. -/
def scientificDigits (value : Binary64) (places : Nat) (mark : Char) (point : Bool) : Octets :=
  let power := leading value places
  let (n, d) := scaled value.ratio.1 value.ratio.2 power
  let exponent := Octets.ofNat power.natAbs
  fixedDigits n d places point ++ [mark, if power < 0 then '-' else '+'] ++
    List.replicate (2 - exponent.length) '0' ++ exponent

/-- Take zeros at the end of a fraction away. -/
def trimZeros (digits : Octets) : Octets :=
  let mantissa := digits.takeWhile fun c => c != 'e' && c != 'E'
  let exponent := digits.drop mantissa.length
  if mantissa.contains '.' then
    let kept := Text.dropEndWhile (· == '0') mantissa
    Text.dropEndWhile (· == '.') kept ++ exponent
  else digits

/-- The shorter of the two forms of a number. -/
def generalDigits (value : Binary64) (precision : Nat) (mark : Char) (all : Bool) : Octets :=
  let precision := max precision 1
  let power := leading value (precision - 1)
  let digits :=
    if power < -4 || power ≥ precision then scientificDigits value (precision - 1) mark all
    else fixedDigits value.ratio.1 value.ratio.2 ((precision : Int) - 1 - power).toNat all
  if all then digits else trimZeros digits

/-- A number with a fraction. -/
def real (slot : Slot) (letter : Char) (value : Binary64) : Octets :=
  let precision := slot.precision.getD 6
  let alternative := slot.flags.contains '#'
  let digits := match letter with
    | 'f' => fixedDigits value.ratio.1 value.ratio.2 precision alternative
    | 'F' => fixedDigits value.ratio.1 value.ratio.2 precision alternative
    | 'e' => scientificDigits value precision 'e' alternative
    | 'E' => scientificDigits value precision 'E' alternative
    | 'G' => generalDigits value precision 'E' alternative
    | _ => generalDigits value precision 'e' alternative
  slot.padNumber true (slot.sign value.negative) digits

/-- The part of a text that fits the precision. -/
def cut (slot : Slot) (text : Octets) : Octets :=
  match slot.precision with
  | some n => text.take n
  | none => text

end Slot

/-- The number with a fraction at the beginning of a text, and what follows it. -/
def leadingReal? (text : Octets) : Option (Binary64 × Octets) :=
  let likely := text.takeWhile fun c => c.isAlphanum || c == '.' || c == '+' || c == '-'
  (List.range (likely.length + 1)).reverse.findSome? fun n =>
    match Extended.ofText? (text.take n) with
    | some (.finite value) => some (value, text.drop n)
    | _ => none

/-! ## Formats -/

/-- What has been written of a format, and the words left for it. -/
structure Printing where
  text : Octets := []
  args : List Octets
  status : Nat := 0
  /-- What was told about words. -/
  mistakes : List String := []
  /-- Whether nothing more is written. -/
  ended : Bool := false

namespace Printing

variable (printing : Printing)

/-- Write a text. -/
def say (text : Octets) : Printing := { printing with text := printing.text ++ text }

/-- The next word, which is empty when there is none. -/
def next : Octets × Printing :=
  (printing.args.headD [], { printing with args := printing.args.tail })

/-- Tell that a word is not what it should be. -/
def doubt (word : Octets) (what : String) : Printing :=
  { printing with
    status := 1, mistakes := printing.mistakes ++ [word.name ++ ": " ++ what] }

/-- Tell whether a number was the whole word. -/
def checkRest (word rest : Octets) : Printing :=
  if rest.isEmpty then printing
  else if rest.length = word.length then printing.doubt word "expected numeric value"
  else printing.doubt word "not completely converted"

/-- The next word as a number that fits between two bounds.  A quote stands for the number of the
character after it. -/
def nextInt (low high : Int) : Int × Printing :=
  let (word, printing) := printing.next
  match word with
  | '\x27' :: rest => ((rest.headD '\x00').toNat, printing)
  | '"' :: rest => ((rest.headD '\x00').toNat, printing)
  | word =>
    let text := word.dropWhile Octets.isSpace
    let (negative, digits) := match text with
      | '-' :: rest => (true, rest)
      | '+' :: rest => (false, rest)
      | _ => (false, text)
    match Arithmetic.cutNumber? digits with
    | none => (0, printing.checkRest word (if word.isEmpty then [] else word))
    | some (n, rest) =>
      let value : Int := if negative then -(n : Int) else n
      let kept := max low (min value high)
      let printing := if kept = value then printing
        else printing.doubt word "Numerical result out of range"
      (kept, printing.checkRest word rest)

/-- The next word as a number with a fraction. -/
def nextReal : Binary64 × Printing :=
  let (word, printing) := printing.next
  let text := word.dropWhile Octets.isSpace
  match leadingReal? text with
  | some (value, rest) => (value, printing.checkRest word rest)
  | none => (Binary64.zero false, printing.checkRest word word)

/-- Digits or a star, which takes a word: a count, and the rest of the format. -/
def count (format : Octets) : Option Int × Octets × Printing :=
  match format with
  | '*' :: rest =>
    let (n, printing) := printing.nextInt (Word.minSigned 32) (Word.maxSigned 32)
    (some n, rest, printing)
  | format =>
    let digits := format.takeWhile Char.isDigit
    let n := if digits.isEmpty then none else some (Decimal.value digits : Int)
    (n, format.drop digits.length, printing)

/-- Read a slot after its percent sign: the slot, and the rest of the format. -/
def slot (format : Octets) : Slot × Octets × Printing :=
  let isFlag (c : Char) : Bool := ['#', '-', '+', ' ', '0'].contains c
  let flags := format.takeWhile isFlag
  let (width, format, printing) := printing.count (format.dropWhile isFlag)
  let flags := if width.any (· < 0) then '-' :: flags else flags
  let width := (width.map Int.natAbs).getD 0
  match format with
  | '.' :: format =>
    let (precision, format, printing) := printing.count format
    let precision : Option Nat := match precision with
      | some n => if n < 0 then none else some n.toNat
      | none => some 0
    (⟨flags, width, precision⟩, format, printing)
  | format => (⟨flags, width, none⟩, format, printing)

/-- Put the next word into a slot; none for a letter that there is not. -/
def fill? (slot : Slot) (letter : Char) : Option Printing :=
  match letter with
  | 's' =>
    let (word, printing) := printing.next
    some (printing.say (slot.pad (slot.cut word)))
  | 'b' =>
    let (word, printing) := printing.next
    let (text, ended) := unescape (word.length + 1) word
    some { printing.say (slot.pad (slot.cut text)) with ended }
  | 'c' =>
    let (word, printing) := printing.next
    some (printing.say (slot.pad [word.headD '\x00']))
  | letter =>
    if letter == 'd' || letter == 'i' then
      let (n, printing) := printing.nextInt (Word.minSigned 64) (Word.maxSigned 64)
      some (printing.say (slot.signed n))
    else if ['o', 'u', 'x', 'X'].contains letter then
      let (n, printing) := printing.nextInt (-(Word.maxUnsigned 64 : Int)) (Word.maxUnsigned 64)
      some (printing.say (slot.unsigned letter (n % (Word.values 64 : Int)).toNat))
    else if ['e', 'E', 'f', 'F', 'g', 'G'].contains letter then
      let (value, printing) := printing.nextReal
      some (printing.say (slot.real letter value))
    else none

/-- Write a format once. -/
def once (printing : Printing) : Nat → Octets → Printing
  | 0, _ => printing
  | _, [] => printing
  | fuel + 1, c :: rest =>
    if printing.ended then printing
    else
      match c, rest with
      | '\\', rest =>
        let (char, rest) := cutEscape rest
        (printing.say [char]).once fuel rest
      | '%', '%' :: rest => (printing.say ['%']).once fuel rest
      | '%', rest =>
        let (slot, rest, printing) := printing.slot rest
        match rest with
        | [] =>
          { printing with
            ended := true, status := 2,
            mistakes := printing.mistakes ++ ["missing format character"] }
        | letter :: rest =>
          match printing.fill? slot letter with
          | some printing => printing.once fuel rest
          | none =>
            { printing with
              ended := true, status := 2, mistakes := printing.mistakes ++ ["invalid directive"] }
      | c, rest => (printing.say [c]).once fuel rest

/-- Write a format as often as words are left for it. -/
def repeated (format : Octets) : Nat → Printing → Printing
  | 0, printing => printing
  | fuel + 1, printing =>
    let after := printing.once (format.length + 1) format
    if after.ended || after.args.isEmpty || after.args.length = printing.args.length then after
    else repeated format fuel after

end Printing

/-- Write a format with words put into it. -/
def printf : Tool := fun call =>
  let args := if call.args.head? == some ['-', '-'] then call.args.tail else call.args
  match args with
  | ('-' :: c :: _) :: _ =>
    if args.length < call.args.length then write call args
    else call.start.complainWith 2 (call.name ++ ": Illegal option -" ++ String.ofList [c])
  | args => write call args
where
  /-- Write the first word with the others put into it. -/
  write (call : Call) (args : List Octets) : Effect :=
    match args with
    | [] => call.start.complainWith 2 (call.name ++ ": usage: printf format [arg ...]")
    | format :: words =>
      let printing := Printing.repeated format (words.length + 1) { args := words }
      let effect := call.start.say printing.text
      let effect := printing.mistakes.foldl (fun effect text =>
        effect.complain (call.name ++ ": " ++ text)) effect
      { effect with status := printing.status }

end SiteScript.Rehearsal.Shell
