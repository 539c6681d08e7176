import SiteScript.Rehearsal.Shell.Tool.Ends

/-!
# SiteScript.Rehearsal.Shell.Tool.Blocks

Copying a file by blocks: some blocks are skipped, some are copied, and they are put at a place of the
target.  What is copied can be changed on the way.
-/

namespace SiteScript.Rehearsal.Shell

/-- What is copied, and where to. -/
structure BlockCopy where
  source : Option Octets := none
  target : Option Octets := none
  inputSize : Nat := 512
  outputSize : Nat := 512
  count : Option Nat := none
  skip : Nat := 0
  seek : Nat := 0
  changes : List Octets := []

/-- A number of bytes, which can be a product. -/
def blockNumber? (word : Octets) : Option Nat := do
  let numbers ← (Text.split 'x' word).mapM fun part =>
    match part.getLast? with
    | some 'c' => natural? part.dropLast
    | some 'w' => (natural? part.dropLast).map (· * 2)
    | some 'B' => quantity? part <|> natural? part.dropLast
    | _ => quantity? part
  return numbers.foldl (· * ·) 1

/-- Take an operand into the description of a copy; none if it means nothing. -/
def BlockCopy.withOperand? (copy : BlockCopy) (word : Octets) : Option BlockCopy := do
  let (name, value) ← Text.cut? '=' word
  match String.ofList name with
  | "if" => some { copy with source := some value }
  | "of" => some { copy with target := some value }
  | "bs" => (blockSize? value).map fun n => { copy with inputSize := n, outputSize := n }
  | "ibs" => (blockSize? value).map fun n => { copy with inputSize := n }
  | "obs" => (blockSize? value).map fun n => { copy with outputSize := n }
  | "cbs" => (blockSize? value).map fun _ => copy
  | "count" => (blockNumber? value).map fun n => { copy with count := some n }
  | "skip" => (blockNumber? value).map fun n => { copy with skip := n }
  | "iseek" => (blockNumber? value).map fun n => { copy with skip := n }
  | "seek" => (blockNumber? value).map fun n => { copy with seek := n }
  | "oseek" => (blockNumber? value).map fun n => { copy with seek := n }
  | "conv" =>
    let words := Text.split ',' value
    if words.all fun word => knownChanges.contains (String.ofList word) then
      some { copy with changes := copy.changes ++ words }
    else none
  | "status" =>
    if ["none", "noxfer", "progress"].contains (String.ofList value) then some copy else none
  | "iflag" => some copy
  | "oflag" =>
    if value == "append".toList then some { copy with changes := copy.changes ++ [value] } else some copy
  | _ => none
where
  /-- The size of a block, which is not zero. -/
  blockSize? (value : Octets) : Option Nat := (blockNumber? value).filter (0 < ·)
  /-- The changes that can be made. -/
  knownChanges : List String :=
    ["ucase", "lcase", "swab", "notrunc", "sync", "noerror", "fsync", "fdatasync", "excl", "nocreat",
      "sparse"]

/-- The bytes of a text with neighbours exchanged. -/
def swapPairs : Octets → Octets
  | a :: b :: rest => b :: a :: swapPairs rest
  | rest => rest

/-- Whether a change is made on the way. -/
def BlockCopy.has (copy : BlockCopy) (change : String) : Bool := copy.changes.contains change.toList

/-- What is copied of a content. -/
def BlockCopy.selected (copy : BlockCopy) (content : Octets) : Octets :=
  let text := content.drop (copy.skip * copy.inputSize)
  let text := match copy.count with
    | some n => text.take (n * copy.inputSize)
    | none => text
  let missing := if text.length % copy.inputSize = 0 then 0
    else copy.inputSize - text.length % copy.inputSize
  let text := if copy.has "sync" then text ++ List.replicate missing '\x00' else text
  let text := if copy.has "swab" then swapPairs text else text
  if copy.has "ucase" then text.map Char.toUpper
  else if copy.has "lcase" then text.map Char.toLower
  else text

/-- Copy a file by blocks. -/
def copyBlocks : Tool := fun call =>
  match call.args.foldlM BlockCopy.withOperand? ({} : BlockCopy) with
  | none => call.lacking "unrecognized operand"
  | some copy =>
    let zeros := "/dev/zero".toList
    let content : Except FileFault Octets := match copy.source with
      | none => .ok call.input
      | some file =>
        if file == zeros then
          .ok (List.replicate ((copy.skip + copy.count.getD 0) * copy.inputSize) '\x00')
        else call.read call.files file
    match content with
    | .error fault =>
      call.start.complain (call.name ++ ": failed to open " ++
        inQuotes (copy.source.getD []) ++ ": " ++ faultText fault)
    | .ok content =>
      let text := copy.selected content
      let taken := if copy.source.isSome then 0
        else match copy.count with
          | some n => min content.length ((copy.skip + n) * copy.inputSize)
          | none => content.length
      let start := { call.start with taken }
      match copy.target with
      | none => start.say text
      | some file =>
        let old := (call.read call.files file).toOption
        let place := copy.seek * copy.outputSize
        let before := (old.getD []).take place
        let before := before ++ List.replicate (place - before.length) '\x00'
        let after := if copy.has "notrunc" then (old.getD []).drop (place + text.length) else []
        let result := if copy.has "append" then (old.getD []) ++ text else before ++ text ++ after
        if (copy.has "excl" && old.isSome) || (copy.has "nocreat" && old.isNone) then
          start.complain (call.name ++ ": failed to open " ++ inQuotes file)
        else start.attempt (call.write call.files file result) (mistake call.name file)

end SiteScript.Rehearsal.Shell
