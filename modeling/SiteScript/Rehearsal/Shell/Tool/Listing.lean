import SiteScript.Rehearsal.Shell.Pattern
import SiteScript.Rehearsal.Shell.Tool.Files

/-!
# SiteScript.Rehearsal.Shell.Tool.Listing

Listing files: the operands that are files come first, then what stands in those that are directories,
each under its name when there are several.

Names stand one in a line, in columns (`columns`), all in one line with commas between them, or each
with what is known about it (`longLines`).
-/

namespace SiteScript.Rehearsal.Shell

namespace Listing

/-- A name to list, with what it names and where that stands. -/
structure Item where
  name : Octets
  entry : Entry
  place : Location

/-- The size of what stands under a name. -/
def Item.size (item : Item) : Nat :=
  match item.entry with
  | .file content _ => content.size
  | .directory => 4096
  | .link path => path.utf8ByteSize

/-- The ending of a name, from its last dot on. -/
def Item.ending (item : Item) : Octets :=
  match Text.cutLast? '.' item.name with
  | some (_, ending) => '.' :: ending
  | none => []

/-! ## Order -/

/-- Parts of a text that are all digits, or that have none. -/
def digitRuns (text : Octets) : List Octets :=
  text.splitBy fun a b => a.isDigit == b.isDigit

/-- Compare names in which numbers count as numbers. -/
def versionBefore : List Octets → List Octets → Bool
  | _, [] => false
  | [], _ :: _ => true
  | a :: as, b :: bs =>
    if a == b then versionBefore as bs
    else if (a ++ b).all Char.isDigit && Decimal.value a != Decimal.value b then
      Decimal.value a < Decimal.value b
    else Octets.before a b

/-- The order of names. -/
def arrange (options : Options) (items : List Item) : List Item :=
  let items := items.mergeSort fun a b => !Octets.before b.name a.name
  let items := if options.has 'S' then items.mergeSort fun a b => a.size ≥ b.size
    else if options.has 'X' then items.mergeSort fun a b => !Octets.before b.ending a.ending
    else if options.has 'v' then
      items.mergeSort fun a b => !versionBefore (digitRuns b.name) (digitRuns a.name)
    else items
  let items := if options.has 'D' then
      items.filter (·.entry.isDirectory) ++ items.filter (!·.entry.isDirectory)
    else items
  if options.has 'U' || options.has 'f' then items
  else if options.has 'r' then items.reverse
  else items

/-! ## Names -/

/-- The mark after a name. -/
def mark (options : Options) (entry : Entry) : Octets :=
  let all := options.has 'F'
  match entry with
  | .directory => if all || options.has 'p' || options.has 'y' then ['/'] else []
  | .link _ => if all || options.has 'y' then ['@'] else []
  | .file _ traits => if all && isExecutable traits.mode then ['*'] else []

/-- A name in double quotes or as it is. -/
def quoted (options : Options) (name : Octets) : Octets :=
  if options.has 'Q' then
    '"' :: (name.flatMap fun c => if c == '"' || c == '\\' then ['\\', c] else [c]) ++ ['"']
  else if options.has 'q' then name.map fun c => if c.toNat < 32 || c.toNat = 127 then '?' else c
  else if options.has 'b' then
    name.flatMap fun c => if c == ' ' then ['\\', ' '] else if c == '\n' then ['\\', 'n']
      else if c == '\t' then ['\\', 't'] else if c == '\\' then ['\\', '\\'] else [c]
  else name

/-- A name as it is shown. -/
def shown (options : Options) (item : Item) : Octets :=
  quoted options item.name ++ mark options item.entry

/-! ## Columns -/

/-- The widths of columns, if so many names stand in each of them. -/
def columnWidths (byRows : Bool) (count rows : Nat) (widths : List Nat) : List Nat :=
  (List.range count).map fun column =>
    let inColumn := widths.zipIdx.filterMap fun (width, i) =>
      if (if byRows then i % count else i / rows) = column then some width else none
    inColumn.foldl max 0 + (if column + 1 = count then 0 else 2)

/-- Names in as many columns as fit a width. -/
def columns (byRows : Bool) (width : Nat) (names : List Octets) : Octets :=
  let total := names.length
  let widths := names.map List.length
  let rowsOf (count : Nat) : Nat := (total + count - 1) / count
  let fits (count : Nat) : Bool :=
    let found := columnWidths byRows count (rowsOf count) widths
    -- each column has a place, the last one too
    found.foldl (· + ·) 0 < width && (byRows || (count - 1) * rowsOf count < total)
  let most := min total (max 1 (width / 3))
  let count := ((List.range most).reverse.find? fun n => fits (n + 1)).getD 0 + 1
  let rows := rowsOf count
  let found := columnWidths byRows count rows widths
  (List.range rows).flatMap fun row =>
    let cells := (List.range count).filterMap fun column =>
      names[if byRows then row * count + column else column * rows + row]?
    let last := cells.length - 1
    (cells.zipIdx.flatMap fun (name, column) =>
      if column = last then name
      else fill ((found.take column).foldl (· + ·) 0) (found.getD column 0) name) ++ ['\n']
where
  /-- A name brought to a width, which begins at a place of the line; tabs stand where they can. -/
  fill (start width : Nat) (name : Octets) : Octets :=
    name ++ indent (width + 1) (start + name.length) (start + width)
  /-- Blanks and tabs from one place to another. -/
  indent : Nat → Nat → Nat → Octets
    | 0, _, _ => []
    | fuel + 1, from', to' =>
      if from' < to' then
        if to' / 8 > (from' + 1) / 8 then '\t' :: indent fuel (from' / 8 * 8 + 8) to'
        else ' ' :: indent fuel (from' + 1) to'
      else []

/-- Names in lines of a width, with commas between them. -/
def commaLines (width : Nat) (names : List Octets) : Octets :=
  (names.zipIdx.foldl (fun ((text, place) : Octets × Nat) (name, i) =>
    if i = 0 then (name, name.length)
    else if place + 2 + name.length < width then
      (text ++ ", ".toList ++ name, place + 2 + name.length)
    else (text ++ ",\n".toList ++ name, name.length)) ([], 0)).1 ++ ['\n']

/-! ## Everything about a file -/

/-- The number of blocks that a file takes. -/
def Item.blocks (item : Item) : Nat :=
  match item.entry with
  | .link _ => 0
  | _ => (item.size + 4095) / 4096 * 4

/-- How many names a file has. -/
def linkCount (files : FileSystem) (place : Location) (entry : Entry) : Nat :=
  match entry with
  | .directory => 2 + ((files.children place).filter (·.2.isDirectory)).length
  | .link _ => 1
  | .file _ traits =>
    match traits.shared with
    | none => 1
    | some number => (files.entries.filter fun (_, other) => other.shared? == some number).length

/-- The kind and the mode of a file, in letters. -/
def kindLetters : Entry → Octets
  | .directory => 'd' :: modeLetters 0o755
  | .link _ => 'l' :: modeLetters 0o777
  | .file _ traits => '-' :: modeLetters traits.mode

/-- Lines with everything about files. -/
def longLines (files : FileSystem) (options : Options) (items : List Item) : Octets :=
  let counts := items.map fun item => Octets.ofNat (linkCount files item.place item.entry)
  let sizes := items.map fun item => Octets.ofNat item.size
  let width (texts : List Octets) : Nat := (texts.map List.length).foldl max 0
  let pad (width : Nat) (text : Octets) : Octets := List.replicate (width - text.length) ' ' ++ text
  let account := if options.has 'n' then ['0'] else "root".toList
  let owner := if options.has 'g' then [] else account ++ [' ']
  let group := if options.has 'o' || options.has 'G' then [] else account ++ [' ']
  Octets.unlines ((items.zip (counts.zip sizes)).map fun (item, count, size) =>
    let target := match item.entry with
      | .link path => " -> ".toList ++ octets path
      | _ => []
    let marked := match item.entry with
      | .link _ => quoted options item.name
      | _ => shown options item
    kindLetters item.entry ++ ' ' :: pad (width counts) count ++ ' ' :: owner ++ group ++
      pad (width sizes) size ++ " Jan  1 00:00 ".toList ++ marked ++ target)

/-- The number of blocks of all files together. -/
def totalLine (items : List Item) : Octets :=
  "total ".toList ++ Octets.ofNat ((items.map Item.blocks).foldl (· + ·) 0) ++ ['\n']

/-- Names as they are shown. -/
def render (files : FileSystem) (options : Options) (items : List Item) : Octets :=
  let names := items.map (shown options)
  let forms := ['1', 'C', 'x', 'm', 'l', 'n', 'g', 'o']
  let form := ((options.given.reverse.map (·.1)).find? forms.contains).getD '1'
  let long := ['l', 'n', 'g', 'o'].any options.has && form != 'C' && form != 'x' && form != 'm'
  let width := ((options.value? 'w').bind Decimal.ofDigits?).getD 80
  if names.isEmpty then []
  else if long then longLines files options items
  else if form == 'm' then commaLines width names
  else if form == 'C' then columns false width names
  else if form == 'x' then columns true width names
  else Octets.unlines names

/-! ## Directories -/

/-- An item with what its link leads to, if that is wanted. -/
def followed (files : FileSystem) (options : Options) (item : Item) : Item :=
  match options.has 'L', files.stat (.ofLocation item.place) with
  | true, .ok entry => { item with entry }
  | _, _ => item

/-- What stands in a directory. -/
def itemsIn (files : FileSystem) (options : Options) (location : Location) : List Item :=
  let all := (files.children location).map fun (name, entry) =>
    followed files options ⟨octets name, entry, location ++ [name]⟩
  let shownToo := options.has 'a' || options.has 'A' || options.has 'f'
  let seen := if shownToo then all else all.filter fun item => item.name.head? != some '.'
  let seen := if options.has 'B' then seen.filter fun item => item.name.getLast? != some '~' else seen
  let seen := match options.value? 'I' with
    | some pattern =>
      let parts := Pattern.parts (pattern.map fun c => (c, false))
      seen.filter fun item => !Pattern.fits parts item.name
    | none => seen
  let dots : List Item := if options.prevails 'a' ['A'] || options.has 'f' then
      [⟨['.'], .directory, location⟩, ⟨['.', '.'], .directory, location.dropLast⟩]
    else []
  arrange options (dots ++ seen)

/-- The parts of a listing: what stands in a directory under its name, and in those below if that is
wanted. -/
def sections (files : FileSystem) (options : Options) :
    Nat → Octets → Location → List (Octets × List Item)
  | 0, _, _ => []
  | depth + 1, name, location =>
    let items := itemsIn files options location
    let below := if options.has 'R' then
        items.flatMap fun item =>
          if item.entry.isDirectory && item.name != ['.'] && item.name != ['.', '.'] then
            let place := (files.locate? (.ofLocation item.place)).getD item.place
            sections files options depth (within name item.name) place
          else []
      else []
    (name, items) :: below

end Listing

open Listing in
/-- List files. -/
def list : Tool := fun call =>
  call.withOptions
    { flags := "aA1rRdFpStlhnCxmUfQqsucgoGXvBkNbiLHyD", valued := "wTI"
      long := [("all", 'a'), ("almost-all", 'A'), ("reverse", 'r'), ("recursive", 'R'),
        ("directory", 'd'), ("classify", 'F'), ("color", 'u'), ("size", 's'), ("file-type", 'y'),
        ("group-directories-first", 'D'), ("ignore", 'I'), ("width", 'w'), ("dereference", 'L'),
        ("quote-name", 'Q'), ("escape", 'b'), ("ignore-backups", 'B'), ("no-group", 'G')] } 2
    fun options =>
      let operands := if options.operands.isEmpty then [['.']] else options.operands
      let long := ['l', 'n', 'g', 'o'].any options.has
      let asLinks := (long || options.has 'F' || options.has 'd') && !(options.has 'L' || options.has 'H')
      let (effect, items) := operands.foldl (fun (effect, items) operand =>
        let whole := call.stat call.files operand
        let own := call.linkStat call.files operand
        let entry? := match asLinks, whole with
          | true, _ => own
          | false, .ok entry => .ok entry
          | false, .error fault => if options.has 'L' then .error fault else own
        let place := if asLinks then call.files.locateLink? (call.path operand)
          else call.files.locate? (call.path operand)
        match entry? with
        | .ok entry => (effect, items ++ [(⟨operand, entry, place.getD []⟩ : Item)])
        | .error fault =>
          (effect.complainWith 2 (refusal call "cannot access" operand fault), items))
        (call.start, ([] : List Item))
      let isPlace (item : Item) : Bool := item.entry.isDirectory && !options.has 'd'
      let singles := arrange options (items.filter (!isPlace ·))
      let places := arrange options (items.filter isPlace)
      let parts := places.flatMap fun item =>
        sections call.files options (call.files.entries.length + 1) item.name item.place
      let titled := operands.length > 1 || options.has 'R'
      let bodies := parts.map fun (name, items) =>
        (if titled then name ++ [':', '\n'] else []) ++
          (if long || options.has 's' then totalLine items else []) ++
          render call.files options items
      let first := if singles.isEmpty then [] else [render call.files options singles]
      effect.say (((first ++ bodies).intersperse ['\n']).flatten)

end SiteScript.Rehearsal.Shell
