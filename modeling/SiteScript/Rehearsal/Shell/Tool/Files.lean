import SiteScript.Rehearsal.Shell.Tool.Basic

/-!
# SiteScript.Rehearsal.Shell.Tool.Files

The programs that make and remove files, and that say who may do what with them.  Each takes several
operands and goes on after one that fails; the status tells whether any did.
-/

namespace SiteScript.Rehearsal.Shell

/-- Refuse a change of a file. -/
def refusal (call : Call) (what : String) (operand : Octets) (fault : FileFault) : String :=
  call.name ++ ": " ++ what ++ " " ++ inQuotes operand ++ ": " ++ faultText fault

/-- Take operands one after another. -/
def eachOperand (call : Call) (operands : List Octets) (act : Effect → Octets → Effect) : Effect :=
  operands.foldl act call.start

/-- The last part of a path, which slashes may follow. -/
def baseName (text : Octets) : Octets :=
  let trimmed := Text.dropEndWhile (· == '/') text
  if trimmed.isEmpty then text.take 1
  else
    match Text.cutLast? '/' trimmed with
    | some (_, last) => last
    | none => trimmed

/-- A name in a directory. -/
def within (dir name : Octets) : Octets :=
  Text.dropEndWhile (· == '/') dir ++ '/' :: name

/-! ## Making -/

/-- The paths that lead to a path, from the first directory on. -/
def leading (text : Octets) : List Octets :=
  let parts := Text.split '/' (Text.dropEndWhile (· == '/') text)
  ((List.range parts.length).map fun n => Text.join '/' (parts.take (n + 1))).filter (!·.isEmpty)

/-- Make one directory, and tell so if that is wanted. -/
def makeOne (call : Call) (tell : Bool) (effect : Effect) (operand : Octets) : Effect :=
  match if operand.isEmpty then .error .notFound
    else effect.files.makeDirectory (call.path operand) with
  | .error fault => effect.complain (refusal call "cannot create directory" operand fault)
  | .ok files =>
    let effect := { effect with files }
    if tell then effect.say (octets (call.name ++ ": created directory " ++ inQuotes operand ++ "\n"))
    else effect

/-- Make a directory with the missing ones above it. -/
def makeAll (call : Call) (tell : Bool) (effect : Effect) (operand : Octets) : Effect :=
  let rec go (effect : Effect) : List Octets → Effect
    | [] => effect
    | step :: rest =>
      match call.stat effect.files step with
      | .ok .directory => go effect rest
      | .ok _ =>
        effect.complain (refusal call "cannot create directory" step
          (if rest.isEmpty then .alreadyExists else .notDirectory))
      | .error .notFound => go (makeOne call tell effect step) rest
      | .error fault => effect.complain (refusal call "cannot create directory" step fault)
  if operand.isEmpty then effect.complain (refusal call "cannot create directory" operand .notFound)
  else go effect (leading operand)

/-- Make directories. -/
def makeDirectories : Tool := fun call =>
  call.withOptions
    { flags := "pv", valued := "m", long := [("parents", 'p'), ("verbose", 'v'), ("mode", 'm')] } 1
    fun options =>
      if options.operands.isEmpty then call.lacking "missing operand"
      else
        eachOperand call options.operands
          ((if options.has 'p' then makeAll else makeOne) call (options.has 'v'))

/-- Make files that are not there. -/
def touch : Tool := fun call =>
  call.withOptions
    { flags := "acmhf", valued := "drt", long := [("no-create", 'c'), ("date", 'd')] } 1
    fun options =>
      if options.operands.isEmpty then call.lacking "missing file operand"
      else
        eachOperand call options.operands fun effect operand =>
          match call.stat effect.files operand with
          | .ok _ => effect
          | .error .notFound =>
            if options.has 'c' then effect
            else if operand.getLast? == some '/' then
              effect.complain (refusal call "setting times of" operand .notFound)
            else
              effect.attempt (call.write effect.files operand [])
                (refusal call "cannot touch" operand)
          | .error fault => effect.complain (refusal call "cannot touch" operand fault)

/-! ## Removing -/

/-- Whether a path ends in a name for a directory itself or the one above it. -/
def endsInDots (operand : Octets) : Bool :=
  let last := (Text.split '/' (Text.dropEndWhile (· == '/') operand)).getLast?
  last == some ['.'] || last == some ['.', '.']

/-- What is told when a file or directory is removed. -/
def removed (kind : String) (operand : Octets) : Octets :=
  octets ("removed " ++ kind ++ inQuotes operand ++ "\n")

/-- What is told when everything below a directory is removed. -/
def removedBelow (files : FileSystem) (location : Location) (operand : Octets) : Octets :=
  let below := files.below location
  let below := below.mergeSort fun a b => a.1.length ≥ b.1.length
  below.flatMap fun (names, entry) =>
    removed (if entry.isDirectory then "directory " else "")
      (operand ++ octets ("/" ++ joinSegments names))

/-- Whether a path, but for slashes at its end, names a link. -/
def isLinkAt (files : FileSystem) (path : Path) : Bool :=
  match files.linkStat { path with slash := false } with
  | .ok (.link _) => true
  | _ => false

/-- Remove one operand, which is there to be removed. -/
def removeSure (call : Call) (options : Options) (effect : Effect) (operand : Octets) : Effect :=
  let recursive := options.has 'r' || options.has 'R'
  let tell := options.has 'v'
  let refuse (fault : FileFault) : Effect :=
    effect.complain (refusal call "cannot remove" operand fault)
  let path := call.path operand
  match call.linkStat effect.files operand, effect.files.locateLink? path with
  | .error fault, _ =>
    if options.has 'f' && (fault == .notFound || fault == .notDirectory) then effect
    else refuse fault
  | .ok .directory, some location =>
    if recursive && endsInDots operand then
      effect.complain (call.name ++ ": refusing to remove \x27.\x27 or \x27..\x27 directory: skipping "
        ++ inQuotes operand)
    else if recursive && location.isEmpty then
      effect.complain (call.name ++ ": it is dangerous to operate recursively on \x27/\x27")
    else if path.slash && isLinkAt effect.files path then
      refuse (if recursive then .notDirectory else .isDirectory)
    else if recursive || (options.has 'd' && effect.files.isEmptyAt location) then
      let told := removedBelow effect.files location operand ++ removed "directory " operand
      let effect := if tell then effect.say told else effect
      { effect with files := effect.files.eraseTree location }
    else refuse (if options.has 'd' then .notEmpty else .isDirectory)
  | .ok _, _ =>
    match effect.files.unlink path with
    | .error fault => refuse fault
    | .ok files =>
      let effect := { effect with files }
      if tell then effect.say (removed "" operand) else effect

/-- Remove one operand, after a question if that is wanted. -/
def removeOne (call : Call) (options : Options) (effect : Effect) (operand : Octets) : Effect :=
  if options.prevails 'i' ['f'] && (call.linkStat effect.files operand matches .ok _) then
    let (agreed, effect) := call.ask effect ("remove " ++ inQuotes operand)
    if agreed then removeSure call options effect operand else effect
  else removeSure call options effect operand

/-- Remove files. -/
def remove : Tool := fun call =>
  call.withOptions
    { flags := "rRfdviI", long := [("recursive", 'r'), ("force", 'f'), ("dir", 'd'), ("verbose", 'v')] }
    1 fun options =>
      if options.operands.isEmpty then
        if options.has 'f' then call.start else call.lacking "missing operand"
      else eachOperand call options.operands (removeOne call options)

/-- The directories above a path, the nearest first. -/
def above (operand : Octets) : List Octets := (leading operand).reverse.tail

/-- Remove one empty directory.  Gives whether it is gone. -/
def removeEmpty (call : Call) (options : Options) (effect : Effect) (operand : Octets) :
    Effect × Bool :=
  let refuse (fault : FileFault) : Effect × Bool :=
    if options.has 'i' && fault == .notEmpty then (effect, false)
    else (effect.complain (refusal call "failed to remove" operand fault), false)
  let path := call.path operand
  match call.linkStat effect.files operand, effect.files.locateLink? path with
  | .error fault, _ => refuse fault
  | .ok .directory, some location =>
    if isLinkAt effect.files path then refuse .notDirectory
    else if (baseName operand) == ['.'] then refuse .invalidArgument
    else if effect.files.isEmptyAt location then
      let effect := if options.has 'v' then
          effect.say (octets (call.name ++ ": removing directory, " ++ inQuotes operand ++ "\n"))
        else effect
      ({ effect with files := effect.files.erase location }, true)
    else refuse .notEmpty
  | .ok _, _ => refuse .notDirectory

/-- Remove empty directories. -/
def removeDirectories : Tool := fun call =>
  call.withOptions
    { flags := "pvi"
      long := [("parents", 'p'), ("verbose", 'v'), ("ignore-fail-on-non-empty", 'i')] } 1
    fun options =>
      if options.operands.isEmpty then call.lacking "missing operand"
      else
        eachOperand call options.operands fun effect operand =>
          let chain := if options.has 'p' then operand :: above operand else [operand]
          (chain.foldl (fun (effect, going) operand =>
            if going then removeEmpty call options effect operand else (effect, false))
            (effect, true)).1

/-! ## Modes -/

/-- A mode in letters. -/
def modeLetters (mode : Nat) : Octets :=
  [mode / 64, mode / 8, mode].flatMap fun digit =>
    [if digit / 4 % 2 = 1 then 'r' else '-', if digit / 2 % 2 = 1 then 'w' else '-',
      if digit % 2 = 1 then 'x' else '-']

/-- The last digits of a number in base eight, so many of them. -/
def octalDigits (digits n : Nat) : Octets :=
  (List.range digits).reverse.map fun i => Char.ofNat (48 + n / Nat.pow 8 i % 8)

/-- Spread a digit over the groups that letters name: the owner, the group and the others. -/
def spread (groups : Octets) (digit : Nat) : Nat :=
  (if groups.contains 'u' then digit * 64 else 0) + (if groups.contains 'g' then digit * 8 else 0) +
    (if groups.contains 'o' then digit else 0)

/-- What a list of rights adds up to, as a digit; a letter of a group stands for the rights it has. -/
def rightsDigit (mode : Nat) (runs : Bool) (rights : Octets) : Nat :=
  rights.foldl (fun digit c =>
    digit ||| (match c with
      | 'r' => 4
      | 'w' => 2
      | 'x' => 1
      | 'X' => if runs then 1 else 0
      | 'u' => mode / 64 % 8
      | 'g' => mode / 8 % 8
      | 'o' => mode % 8
      | _ => 0)) 0

/-- Change a mode as signs and rights say. -/
def applyRights (groups : Octets) (isDirectory : Bool) : Nat → Nat → Octets → Option Nat
  | 0, _, _ => none
  | _, mode, [] => some mode
  | fuel + 1, mode, sign :: rest =>
    let rights := rest.takeWhile fun c => "rwxXstugo".contains c
    let bits := spread groups (rightsDigit mode (isDirectory || isExecutable mode) rights)
    let all := spread groups 7
    let next : Option Nat := match sign with
      | '+' => some (mode ||| bits)
      | '-' => some (mode - (mode &&& bits))
      | '=' => some ((mode - (mode &&& all)) ||| bits)
      | _ => none
    next.bind fun mode => applyRights groups isDirectory fuel mode (rest.drop rights.length)

/-- The mode that a clause makes of another.  Rights that are given to nobody in particular are given
to all, but for those that new files lack. -/
def applyClause (mask : Nat) (isDirectory : Bool) (mode : Nat) (clause : Octets) : Option Nat :=
  let groups := clause.takeWhile fun c => "ugoa".contains c
  let rest := clause.drop groups.length
  if rest.isEmpty then none
  else if groups.isEmpty then
    (applyRights ['u', 'g', 'o'] isDirectory (rest.length + 1) mode rest).map fun after =>
      -- what the mask names stays as it was
      (after - (after &&& mask)) ||| (mode &&& mask)
  else
    let groups := if groups.contains 'a' then ['u', 'g', 'o'] else groups
    applyRights groups isDirectory (rest.length + 1) mode rest

/-- The mode that a word makes of another. -/
def modeAfter? (mask : Nat) (isDirectory : Bool) (mode : Nat) (word : Octets) : Option Nat :=
  if !word.isEmpty && word.all fun c => '0' ≤ c && c ≤ '7' then
    let value := word.foldl (fun n c => 8 * n + Decimal.digitValue c) 0
    if value < 4096 then some (value % 512) else none
  else
    (Text.split ',' word).foldl (fun mode clause =>
      mode.bind fun mode => applyClause mask isDirectory mode clause) (some mode)

/-- Where to say who may do what: at a location, and below it if that is wanted. -/
def modeTargets (files : FileSystem) (recursive : Bool) (location : Location) : List Location :=
  location :: (if recursive then (files.below location).map fun (names, _) => location ++ names else [])

/-- Change the modes of files. -/
def changeMode : Tool := fun call =>
  let isOption (arg : Octets) : Bool :=
    ["-R", "-v", "-f", "-c", "--recursive", "--verbose", "--changes", "--quiet",
      "--silent"].contains (String.ofList arg)
  let flags := call.args.filter isOption
  match (call.args.filter (!isOption ·)).filter (· != ['-', '-']) with
  | [] => call.lacking "missing operand"
  | [mode] => call.lacking ("missing operand after " ++ inQuotes mode)
  | mode :: operands =>
    let recursive := flags.any fun flag => flag == ['-', 'R'] || flag == "--recursive".toList
    if (modeAfter? call.mask false 0o644 mode).isNone then
      call.lacking ("invalid mode: " ++ inQuotes mode)
    else
      eachOperand call operands fun effect operand =>
        match call.stat effect.files operand, effect.files.locate? (call.path operand) with
        | .error fault, _ => effect.complain (refusal call "cannot access" operand fault)
        | .ok _, none => effect
        | .ok _, some location =>
          (modeTargets effect.files recursive location).foldl (fun effect place =>
            match effect.files.get? place with
            | some (.file content traits) =>
              let after := (modeAfter? call.mask false traits.mode mode).getD traits.mode
              let effect :=
                { effect with files := effect.files.rewrite place content { traits with mode := after } }
              let shown (mode : Nat) : String :=
                String.ofList (octalDigits 4 mode) ++ " (" ++ String.ofList (modeLetters mode) ++ ")"
              let told := flags.any fun flag => flag == ['-', 'v'] || flag == ['-', 'c']
              if told && after != traits.mode then
                effect.say (octets ("mode of " ++ inQuotes operand ++ " changed from " ++
                  shown traits.mode ++ " to " ++ shown after ++ "\n"))
              else if flags.contains ['-', 'v'] then
                effect.say (octets ("mode of " ++ inQuotes operand ++ " retained as " ++
                  shown after ++ "\n"))
              else effect
            | _ => effect) effect

end SiteScript.Rehearsal.Shell
