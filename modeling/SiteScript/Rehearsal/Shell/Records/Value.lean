import SiteScript.Rehearsal.Shell.Records.Token

/-!
# SiteScript.Rehearsal.Shell.Records.Value

Values of record programs: texts, numbers, and texts that were read and look like numbers.  A value is
used as what the place asks for; of two values that are compared, both count as numbers if neither is
only a text.

`format` puts values into a text.
-/

namespace SiteScript.Rehearsal.Shell.Records

/-- A value. -/
inductive Value where
  /-- That of a place which was never given one. -/
  | unset
  | number (value : Float)
  | text (value : Octets)
  /-- A text that was read, and the number it looks like. -/
  | numeric (text : Octets) (value : Float)
deriving Inhabited

namespace Value

/-- A text that was read. -/
def ofInput (input : Octets) : Value :=
  match Number.ofWhole? input with
  | some value => .numeric input value
  | none => .text input

/-- The number that a value stands for. -/
def toNumber : Value → Float
  | .unset => 0.0
  | .number value => value
  | .text value => Number.ofText value
  | .numeric _ value => value

/-- Whether a value counts as true: a number that is not zero, or a text that is not empty. -/
def isTrue : Value → Bool
  | .unset => false
  | .number value => value != 0.0
  | .text value => !value.isEmpty
  | .numeric _ value => value != 0.0

/-- The value of a condition. -/
def ofBool (holds : Bool) : Value := .number (if holds then 1.0 else 0.0)

/-- The value of a count. -/
def ofNat (n : Nat) : Value := .number (Float.ofNat n)

end Value

/-! ## Formats -/

/-- A place in a format: how the value is brought there, and the letter of its kind. -/
structure FormatPlace where
  slot : Slot := {}
  letter : Char

/-- The number of a width or a precision, which can be a value.  Gives it with the text and the values
left. -/
def formatNumber (text : Octets) (values : List Value) : Option (Option Int × Octets × List Value) :=
  match text with
  | '*' :: rest =>
    match values with
    | value :: values => some (some (Number.truncated value.toNumber), rest, values)
    | [] => none
  | text =>
    let digits := text.takeWhile Char.isDigit
    some (if digits.isEmpty then none else some (Decimal.value digits : Int), text.drop digits.length,
      values)

/-- Read a place after its mark.  None if it is not complete. -/
def formatPlace? (text : Octets) (values : List Value) : Option (FormatPlace × Octets × List Value) := do
  let flags := text.takeWhile fun c => ['-', '+', ' ', '#', '0'].contains c
  let (width, rest, values) ← formatNumber (text.drop flags.length) values
  let (precision, rest, values) ← match rest with
    | '.' :: rest => do
      let (number, rest, values) ← formatNumber rest values
      some (some (number.getD 0), rest, values)
    | rest => some (none, rest, values)
  let rest := rest.dropWhile fun c => c == 'l' || c == 'h'
  let width := width.getD 0
  let flags := if width < 0 then '-' :: flags else flags
  match rest with
  | letter :: rest =>
    let slot : Slot :=
      { flags, width := width.natAbs
        precision := (precision.filter (0 ≤ ·)).map Int.toNat }
    return ({ slot, letter }, rest, values)
  | [] => none

/-- How a text is made of a number that has a fraction. -/
def plainFormat : Octets := "%.6g".toList

/-- A value in a place of a format, where numbers become texts in some way; none for a letter that names
no kind. -/
def FormatPlace.text? (place : FormatPlace) (toText : Value → Octets) (value : Value) : Option Octets :=
  let slot := place.slot
  let letter := place.letter
  let whole := Number.truncated value.toNumber
  if letter == 'd' || letter == 'i' then some (slot.signed whole)
  else if ['o', 'x', 'X', 'u'].contains letter then
    some (slot.unsigned letter (if whole < 0 then whole + 18446744073709551616 else whole).toNat)
  else if ['e', 'E', 'f', 'F', 'g', 'G'].contains letter then
    some (Number.realText slot letter value.toNumber)
  else if letter == 's' then some (slot.pad (slot.cut (toText value)))
  else if letter == 'c' then
    let char := match value with
      | .number _ => [Char.ofNat (whole % 256).toNat]
      | .numeric _ _ => [Char.ofNat (whole % 256).toNat]
      | .unset => ['\x00']
      | .text body => [body.headD '\x00']
    some (slot.pad char)
  else none

/-- Put values into a format.  Gives the text, and whether there was a place for which there was no value
or no kind; the text ends before it. -/
def format (toText : Value → Octets) : Nat → Octets → List Value → Octets × Bool
  | 0, _, _ => ([], false)
  | _, [], _ => ([], false)
  | fuel + 1, '%' :: '%' :: rest, values =>
    let (more, failed) := format toText fuel rest values
    ('%' :: more, failed)
  | fuel + 1, '%' :: rest, values =>
    match formatPlace? rest values with
    | none => ([], true)
    | some (place, rest, values) =>
      match values with
      | [] => ([], true)
      | value :: values =>
        match place.text? toText value with
        | none => ([], true)
        | some text =>
          let (more, failed) := format toText fuel rest values
          (text ++ more, failed)
  | fuel + 1, c :: rest, values =>
    let (more, failed) := format toText fuel rest values
    (c :: more, failed)

/-- A number as a text: without a fraction as it is, otherwise by a format. -/
def numberText (form : Octets) (x : Float) : Octets :=
  match Number.integerText? x with
  | some text => text
  | none => (format (fun _ => []) (form.length + 1) form [.number x]).1

/-- The text of a value, where numbers with a fraction are written by a format. -/
def Value.toText (form : Octets) : Value → Octets
  | .unset => []
  | .number value => numberText form value
  | .text value => value
  | .numeric body _ => body

/-- The order of two values: numbers if neither is only a text, texts otherwise.  None if they cannot be
ordered. -/
def Value.order? (form : Octets) (a b : Value) : Option Ordering :=
  let isNumber : Value → Bool
    | .text _ => false
    | _ => true
  if isNumber a && isNumber b then
    let x := a.toNumber
    let y := b.toNumber
    if x < y then some .lt else if x == y then some .eq else if y < x then some .gt else none
  else
    let s := a.toText form
    let t := b.toText form
    some (if s == t then .eq else if Octets.before s t then .lt else .gt)

/-- Whether a comparison of two values holds. -/
def Comparison.holds (form : Octets) (a b : Value) (comparison : Comparison) : Bool :=
  match comparison, a.order? form b with
  | .less, order => order == some .lt
  | .lessOrEqual, order => order == some .lt || order == some .eq
  | .equal, order => order == some .eq
  | .different, order => order != some .eq
  | .greater, order => order == some .gt
  | .greaterOrEqual, order => order == some .gt || order == some .eq

/-- The remainder of a division, with the sign of the dividend. -/
def remainder (x y : Float) : Float :=
  match Number.exact x, Number.exact y with
  | .finite a, .finite b =>
    if b.isZero then 0.0 / 0.0
    else
      let (n, d) := a.ratio
      let (m, e) := b.ratio
      let left := n * e % (m * d)
      match Binary64.ofRatio a.negative left (d * e) with
      | some value => Number.ofExact (.finite value)
      | none => 0.0 / 0.0
  | .finite _, .infinite _ => x
  | _, _ => 0.0 / 0.0

/-- What an operator makes of two numbers. -/
def Operator.apply (x y : Float) : Operator → Float
  | .add => x + y
  | .subtract => x - y
  | .multiply => x * y
  | .divide => x / y
  | .remainder => Records.remainder x y
  | .power => Float.pow x y

end SiteScript.Rehearsal.Shell.Records
