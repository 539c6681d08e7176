import SiteScript.Rehearsal.Shell.Tool.Ends
import SiteScript.Rehearsal.Shell.Tool.Sequence

/-!
# SiteScript.Rehearsal.Shell.Tool.Sections

A file cut into sections at lines that are told by their numbers or by patterns.  Each section is written to
a file of its own, and its size is told.
-/

namespace SiteScript.Rehearsal.Shell

/-- Where a section ends. -/
inductive Cut where
  /-- Before the line with a number. -/
  | line (number : Nat)
  /-- Before the line that is so many after a match; the section may be left out. -/
  | occurrence (regex : Regex) (offset : Int) (leftOut : Bool)

/-- How often a cut is made more than once; none is for as often as possible. -/
abbrev Repeats := Option Nat

/-- How sections are written. -/
structure SectionStyle where
  start : Octets := "xx".toList
  digits : Nat := 2
  form : Option Octets := none
  quiet : Bool := false
  /-- Whether files stay after a mistake. -/
  keeps : Bool := false
  /-- Whether empty sections are left out. -/
  noEmpty : Bool := false
  /-- Whether the lines at which cuts are made are left out. -/
  noMatched : Bool := false

/-- The name of the file with a section. -/
def SectionStyle.name (style : SectionStyle) (n : Nat) : Octets :=
  let number := Octets.ofNat n
  match style.form with
  | none => style.start ++ List.replicate (style.digits - number.length) '0' ++ number
  | some form =>
    let (before, slotAndMore) := Sequence.textBefore form
    match slotAndMore.map (Printing.slot { args := [] }) with
    | some (slot, letter :: more, _) =>
      let shown := if letter == 'd' || letter == 'i' then slot.signed n else slot.unsigned letter n
      style.start ++ before ++ shown ++ more
    | _ => style.start ++ before

/-- How far a file is cut. -/
structure Cutting where
  /-- The lines left, with their ends. -/
  lines : List Octets
  /-- The number of the first line left. -/
  first : Nat := 1
  /-- The number of the line that was looked at last. -/
  current : Nat := 0
  /-- The sections, the last first. -/
  sections : List Octets := []
  failed : Bool := false
  /-- Whether nothing is left to do. -/
  done : Bool := false

namespace Cutting

/-- Take lines.  Gives them too. -/
def take (cutting : Cutting) (count : Nat) : Octets × Cutting :=
  let taken := cutting.lines.take count
  let first := cutting.first + taken.length
  (taken.flatten,
    { cutting with
      lines := cutting.lines.drop count
      first
      current := if taken.isEmpty then cutting.current else max cutting.current (first - 1) })

/-- Add a section, unless it is left out. -/
def add (cutting : Cutting) (leftOut : Bool) (text : Octets) : Cutting :=
  if leftOut then cutting else { cutting with sections := text :: cutting.sections }

/-- Take all lines as the last section before a mistake, or before the end. -/
def takeRest (cutting : Cutting) (leftOut failed : Bool) : Cutting :=
  let (text, cutting) := cutting.take cutting.lines.length
  { cutting.add leftOut text with failed, done := true }

/-- Cut before a line with a number. -/
def atLine (style : SectionStyle) (number : Nat) (cutting : Cutting) : Cutting :=
  if cutting.lines.length < number - cutting.first || (style.noMatched && cutting.lines.isEmpty) then
    cutting.takeRest false true
  else
    let (text, cutting) := cutting.take (number - cutting.first)
    let cutting := cutting.add false text
    if style.noMatched then (cutting.take 1).2
    else if cutting.lines.isEmpty then { cutting with failed := true, done := true }
    else cutting

/-- Cut at a match. -/
def atOccurrence (style : SectionStyle) (regex : Regex) (offset : Int) (leftOut always : Bool)
    (cutting : Cutting) : Cutting :=
  let start := cutting.current + 1
  let candidates := cutting.lines.drop (start - cutting.first)
  let fits (line : Octets) : Bool := regex.occurs (Text.dropEndWhile (· == '\n') line)
  match candidates.findIdx? fits with
  | none => cutting.takeRest leftOut (!always)
  | some i =>
    let found := start + i
    let place : Int := found + offset
    if place < cutting.first then { cutting with failed := true, done := true }
    else
      let count := (place - cutting.first).toNat
      if cutting.lines.length < count then cutting.takeRest leftOut true
      else
        let (text, after) := cutting.take count
        let after := { after.add leftOut text with current := if offset > 0 then place.toNat else found }
        if style.noMatched then (after.take 1).2 else after

/-- Make a cut; `round` tells how often it was made before. -/
def make (style : SectionStyle) (always : Bool) (round : Nat) (cutting : Cutting) : Cut → Cutting
  | .line number => cutting.atLine style (number * (round + 1))
  | .occurrence regex offset leftOut => cutting.atOccurrence style regex offset leftOut always

/-- Make a cut again and again. -/
def makeAll (style : SectionStyle) (cut : Cut) (repeats : Repeats) : Nat → Nat → Cutting → Cutting
  | 0, _, cutting => cutting
  | fuel + 1, round, cutting =>
    if cutting.done || repeats.any (· < round) then cutting
    else makeAll style cut repeats fuel (round + 1) (cutting.make style repeats.isNone round cut)

end Cutting

/-- The sections of lines, and whether there was no mistake. -/
def sectionsOf (style : SectionStyle) (cuts : List (Cut × Repeats)) (lines : List Octets) :
    List Octets × Bool :=
  let last := cuts.foldl (fun (cutting : Cutting) (cut, repeats) =>
    cutting.makeAll style cut repeats (lines.length + repeats.getD 0 + 2) 0) { lines }
  let last := if last.done then last else last.takeRest false false
  (last.sections.reverse, !last.failed)

/-! ## Reading -/

/-- The pattern between two marks, with the offset that follows it. -/
def occurrenceCut? (mark : Char) (text : Octets) : Option Cut := do
  let body := Text.dropEndWhile (· != mark) text
  let offset := text.drop body.length
  if body.isEmpty then none
  else
    let regex ← Regex.ofText? { extended := false } body.dropLast
    let offset ← if offset.isEmpty then some 0 else integer? offset
    return .occurrence regex offset (mark == '%')

/-- How often a word tells to repeat a cut. -/
def repeats? (word : Octets) : Option Repeats :=
  match word with
  | '\x7b' :: rest =>
    if rest == ['*', '\x7d'] then some none
    else if rest.getLast? == some '\x7d' then (natural? rest.dropLast).map some
    else none
  | _ => none

/-- The cuts that words stand for; none if one cannot be understood. -/
def cuts? : List Octets → Option (List (Cut × Repeats))
  | [] => some []
  | word :: rest => do
    let cut ← match word with
      | '/' :: text => occurrenceCut? '/' text
      | '%' :: text => occurrenceCut? '%' text
      | word => ((natural? word).filter (0 < ·)).map Cut.line
    match rest with
    | next :: more =>
      match repeats? next with
      | some repeats => return (cut, repeats) :: (← cuts? more)
      | none => return (cut, some 0) :: (← cuts? (next :: more))
    | [] => return [(cut, some 0)]

/-- Whether the numbers of lines only grow. -/
def growing (least : Nat) : List (Cut × Repeats) → Bool
  | (.line number, _) :: rest => least ≤ number && growing number rest
  | _ :: rest => growing least rest
  | [] => true

/-- The lines of a text with their ends. -/
def linesWithEnds (text : Octets) : List Octets :=
  let lines := Octets.lines text
  let ended := lines.map (· ++ ['\n'])
  if text.getLast? == some '\n' then ended
  else ended.dropLast ++ lines.getLast?.toList

/-- Cut a file into sections. -/
def writeSections : Tool := fun call =>
  call.withOptions
    { flags := "ksqzm", valued := "fnb"
      long := [("prefix", 'f'), ("suffix-format", 'b'), ("digits", 'n'), ("keep-files", 'k'),
        ("suppress-matched", 'm'), ("quiet", 's'), ("silent", 's'), ("elide-empty-files", 'z')] } 1
    fun options =>
    let style : SectionStyle :=
      { start := (options.value? 'f').getD "xx".toList
        digits := ((options.value? 'n').bind natural?).getD 2
        form := options.value? 'b'
        quiet := options.has 's' || options.has 'q'
        keeps := options.has 'k'
        noEmpty := options.has 'z'
        noMatched := options.has 'm' }
    match options.operands with
    | [] => call.lacking "missing operand"
    | [word] => call.lacking ("missing operand after " ++ inQuotes word)
    | file :: words =>
      let (text, start) := call.joined [file] 1
      match cuts? words with
      | none => call.start.complain (call.name ++ ": invalid pattern")
      | some cuts =>
        if start.status != 0 then start
        else if !growing 0 cuts then
          call.start.complain (call.name ++ ": line number is smaller than preceding line number")
        else
          let (sections, isFine) := sectionsOf style cuts (linesWithEnds text)
          let sections := if style.noEmpty then sections.filter (!·.isEmpty) else sections
          let shown := Octets.unlines (sections.map fun text => Octets.ofNat text.length)
          let start := if style.quiet then start else start.say shown
          if !isFine && !style.keeps then start.complain (call.name ++ ": no such line")
          else
            let after := sections.zipIdx.foldl (fun (effect : Effect) (text, i) =>
              effect.attempt (call.write effect.files (style.name i) text)
                (mistake call.name (style.name i))) start
            { after with status := if isFine then after.status else 1 }

end SiteScript.Rehearsal.Shell
