import SiteScript.Rehearsal.Shell.Tool.Lines
import SiteScript.Rehearsal.Shell.Tool.Print

/-!
# SiteScript.Rehearsal.Shell.Tool.Sequence

Writing numbers in order.  The numbers are decimals, so they are counted as integers in units of the
last place that any of them has (`Numeral.units`); what is written has as many places as the first
number and the step.
-/

namespace SiteScript.Rehearsal.Shell

namespace Sequence

/-- A decimal as it is written. -/
structure Numeral where
  negative : Bool
  /-- The digits, without the point. -/
  digits : Nat
  /-- How many of them stand after the point. -/
  places : Nat
  /-- How wide the text is. -/
  width : Nat

/-- Read a decimal, which may have an exponent. -/
def numeral? (word : Octets) : Option Numeral := do
  let (negative, text) := match word.dropWhile Octets.isSpace with
    | '-' :: rest => (true, rest)
    | '+' :: rest => (false, rest)
    | text => (false, text)
  let whole := text.takeWhile Char.isDigit
  let (fraction, rest) := match text.drop whole.length with
    | '.' :: rest => (rest.takeWhile Char.isDigit, rest.dropWhile Char.isDigit)
    | rest => ([], rest)
  if whole.isEmpty && fraction.isEmpty then none
  else
    let shift : Int ← match rest with
      | [] => some 0
      | c :: rest => if c == 'e' || c == 'E' then integer? rest else none
    let digits := Decimal.value (whole ++ fraction)
    let places := ((fraction.length : Int) - shift).toNat
    let digits := digits * Decimal.power (shift - fraction.length).toNat
    let plain := max 1 whole.length + (if fraction.isEmpty then 0 else fraction.length + 1)
    let width := if shift = 0 then plain
      else max 1 ((whole.length : Int) + shift).toNat + (if places = 0 then 0 else places + 1)
    some { negative, digits, places, width := width + (if negative then 1 else 0) }

/-- A decimal in units of a place that it reaches. -/
def Numeral.units (numeral : Numeral) (places : Nat) : Int :=
  let n : Int := numeral.digits * Decimal.power (places - numeral.places)
  if numeral.negative then -n else n

/-- The numbers from one to another. -/
def numbersFrom (step last : Int) : Nat → Int → List Int
  | 0, _ => []
  | fuel + 1, n =>
    if (step > 0 && n > last) || (step < 0 && n < last) then []
    else n :: numbersFrom step last fuel (n + step)

/-- A number of units with so many places, at least so wide. -/
def fixed (scale places width : Nat) (n : Int) : Octets :=
  let slot : Slot := { flags := ['0'], width }
  slot.padNumber true (if n < 0 then ['-'] else [])
    (Slot.fixedDigits n.natAbs (Decimal.power scale) places false)

/-- How numbers are written. -/
structure Manner where
  separator : Octets := ['\n']
  sameWidth : Bool := false
  format : Option Octets := none

/-- The width that all numbers have. -/
def commonWidth (first step last : Numeral) : Nat :=
  let places := max first.places step.places
  let firstWidth := first.width + (places - first.places) +
    (if first.places = 0 && places != 0 then 1 else 0)
  let lastWidth : Int := (last.width : Int) + places - last.places -
    (if last.places != 0 && places = 0 then 1 else 0) +
    (if last.places = 0 && places != 0 then 1 else 0)
  max firstWidth lastWidth.toNat

/-- The text up to a mark that begins a slot, and what follows the mark if there is one; a doubled mark
stands for itself. -/
def textBefore : Octets → Octets × Option Octets
  | '%' :: '%' :: rest =>
    let (text, after) := textBefore rest
    ('%' :: text, after)
  | '%' :: rest => ([], some rest)
  | c :: rest =>
    let (text, after) := textBefore rest
    (c :: text, after)
  | [] => ([], none)

/-- Put a number into a format: the text before the slot, the slot and its letter, the text after. -/
def formatted? (format : Octets) (scale : Nat) (n : Int) : Option Octets := do
  let (before, slotAndMore) := textBefore format
  let (slot, rest, _) := Printing.slot { args := [] } (← slotAndMore)
  match rest with
  | letter :: more =>
    let (after, another) := textBefore more
    if ['e', 'E', 'f', 'F', 'g', 'G'].contains letter && another.isNone then
      let value ← Binary64.ofRatio (n < 0) n.natAbs (Decimal.power scale)
      return before ++ slot.real letter value ++ after
    else none
  | [] => none

/-- The numbers from one to another as they are written; none for a format that cannot be used. -/
def texts? (manner : Manner) (first step last : Numeral) : Option (List Octets) :=
  let scale := max first.places (max step.places last.places)
  let places := max first.places step.places
  let start := first.units scale
  let stop := last.units scale
  let by' := step.units scale
  let numbers := numbersFrom by' stop ((stop - start).natAbs / max 1 by'.natAbs + 2) start
  match manner.format with
  | some format => numbers.mapM (formatted? format scale)
  | none =>
    let width := if manner.sameWidth then commonWidth first step last else 0
    some (numbers.map (fixed scale places width))

/-- The manner and the operands of a call; none for an option that there is not. -/
def options? (manner : Manner) : List Octets → Option (Manner × List Octets)
  | ['-', '-'] :: rest => some (manner, rest)
  | ['-', 's'] :: text :: rest => options? { manner with separator := text } rest
  | ['-', 'f'] :: text :: rest => options? { manner with format := some text } rest
  | ('-' :: c :: more) :: rest =>
    if c.isDigit || c == '.' then some (manner, ('-' :: c :: more) :: rest)
    else if c == 's' then options? { manner with separator := more } rest
    else if c == 'f' then options? { manner with format := some more } rest
    else if c == 'w' && (more.isEmpty || more == ['s'] || more == ['f']) then
      match more, rest with
      | ['s'], text :: rest => options? { manner with sameWidth := true, separator := text } rest
      | ['f'], text :: rest => options? { manner with sameWidth := true, format := some text } rest
      | _, rest => options? { manner with sameWidth := true } rest
    else
      match Text.cut? '=' (c :: more) with
      | some (name, value) =>
        if name == "-separator".toList then options? { manner with separator := value } rest
        else if name == "-format".toList then options? { manner with format := some value } rest
        else none
      | none =>
        if c :: more == "-equal-width".toList then options? { manner with sameWidth := true } rest
        else none
  | rest => some (manner, rest)

end Sequence

open Sequence in
/-- Write numbers in order. -/
def sequence : Tool := fun call =>
  let one : Numeral := ⟨false, 1, 0, 1⟩
  match options? {} call.args with
  | none => call.lacking "unrecognized option"
  | some (manner, operands) =>
    let write (first step last : Numeral) : Effect :=
      if step.digits = 0 then
        call.lacking ("invalid Zero increment value: " ++ inQuotes (operands.getD 1 []))
      else
        match texts? manner first step last with
        | none =>
          call.lacking ("format " ++ inQuotes (manner.format.getD []) ++ " has no % directive")
        | some [] => call.start
        | some texts => call.start.say ((texts.intersperse manner.separator).flatten ++ ['\n'])
    match operands.find? fun operand => (numeral? operand).isNone with
    | some operand => call.lacking ("invalid floating point argument: " ++ inQuotes operand)
    | none =>
      match operands.filterMap numeral? with
      | [last] => write one one last
      | [first, last] => write first one last
      | [first, step, last] => write first step last
      | [] => call.lacking "missing operand"
      | _ => call.lacking ("extra operand " ++ inQuotes (operands.getD 3 []))

end SiteScript.Rehearsal.Shell
