import SiteScript.Rehearsal.Shell.Tool.Copying
import SiteScript.Rehearsal.Shell.Tool.Listing

/-!
# SiteScript.Rehearsal.Shell.Tool.Names

The programs that take paths apart, show what the environment holds, or do nothing; and those that tell
who runs programs, and on what: there is one account, which belongs to one group, and no terminal.
-/

namespace SiteScript.Rehearsal.Shell

/-- Do nothing, with a status. -/
def idle (status : Nat) : Tool := fun call => { call.start with status }

/-- Take an ending off a name, unless nothing would be left. -/
def withoutEnding (ending name : Octets) : Octets :=
  if Text.endsWith ending name && name.length > ending.length then
    name.take (name.length - ending.length)
  else name

/-- Write the last part of paths. -/
def lastNames : Tool := fun call =>
  call.withOptions
    { flags := "az", valued := "s", anywhere := false
      long := [("multiple", 'a'), ("suffix", 's')] } 1
    fun options =>
      let several := options.has 'a' || options.has 's'
      let ending := (options.value? 's').getD []
      match options.operands, several with
      | [], _ => call.lacking "missing operand"
      | [path], false => call.start.say (baseName path ++ ['\n'])
      | [path, ending], false => call.start.say (withoutEnding ending (baseName path) ++ ['\n'])
      | _, false => call.lacking "extra operand"
      | paths, true =>
        call.start.say (Octets.unlines (paths.map fun path => withoutEnding ending (baseName path)))

/-- A path without its last part. -/
def parentPath (path : Octets) : Octets :=
  let isSlash (c : Char) : Bool := c == '/'
  let trimmed := Text.dropEndWhile isSlash path
  if trimmed.isEmpty then if path.isEmpty then ['.'] else ['/']
  else
    match Text.cutLast? '/' trimmed with
    | none => ['.']
    | some (parent, _) =>
      let parent := Text.dropEndWhile isSlash parent
      if parent.isEmpty then ['/'] else parent

/-- Write paths without their last part. -/
def parentPaths : Tool := fun call =>
  call.withOptions { flags := "z" } 1 fun options =>
    if options.operands.isEmpty then call.lacking "missing operand"
    else call.start.say (Octets.unlines (options.operands.map parentPath))

/-! ## Where paths lead -/

/-- How much of a path must be there. -/
inductive Presence where
  | whole
  | allButLast
  | nothing
deriving DecidableEq

/-- Where segments lead from a location, whether they are there or not. -/
def leadAnyway (files : FileSystem) : Nat → Location → List String → Location
  | 0, location, _ => location
  | _, location, [] => location
  | fuel + 1, location, segment :: rest =>
    if segment = "." then leadAnyway files fuel location rest
    else if segment = ".." then leadAnyway files fuel location.dropLast rest
    else
      match files.get? (location ++ [segment]) with
      | some (.link text) =>
        let start := Path.ofText location text
        leadAnyway files fuel [] (start.segments ++ rest)
      | _ => leadAnyway files fuel (location ++ [segment]) rest

/-- Where a path leads, if as much of it is there as must be. -/
def lead (files : FileSystem) (presence : Presence) (path : Path) : Except FileFault Location :=
  match presence with
  | .whole => (files.stat path).bind fun _ => (files.destination path).map (·.location)
  | .allButLast => (files.destination path).map (·.location)
  | .nothing => .ok (leadAnyway files (path.segments.length + 64 * FileSystem.maxLinks) [] path.segments)

/-- A path without `.`, `..` and links, or without the first two only. -/
def plainPath (call : Call) (presence : Presence) (links : Bool) (operand : Octets) :
    Except FileFault Octets :=
  let path := call.path operand
  if operand.isEmpty then .error .notFound
  else
    let location := if links then
        (lead call.files presence path).map fun _ =>
          path.segments.foldl (fun names name =>
            if name = "." then names else if name = ".." then names.dropLast else names ++ [name]) []
      else lead call.files presence path
    location.map fun location => octets (Path.ofLocation location).text

/-- Write where paths lead. -/
def realPaths : Tool := fun call =>
  call.withOptions
    { flags := "efmqszLP", valued := "rb"
      long := [("canonicalize-existing", 'e'), ("canonicalize-missing", 'm'), ("quiet", 'q'),
        ("strip", 's'), ("no-symlinks", 's'), ("zero", 'z'), ("relative-to", 'r'),
        ("relative-base", 'b')] } 1 fun options =>
    let presence := if options.has 'e' then Presence.whole else if options.has 'm' then .nothing
      else .allButLast
    let ending := if options.has 'z' then '\x00' else '\n'
    if options.operands.isEmpty then call.lacking "missing operand"
    else
      eachOperand call options.operands fun effect operand =>
        match plainPath call presence (options.has 's') operand with
        | .error fault =>
          if options.has 'q' then { effect with status := 1 }
          else effect.complain (mistake call.name operand fault)
        | .ok text =>
          let shown := match options.value? 'r' with
            | some dir =>
              match lead call.files presence (call.path dir) with
              | .ok place => relativeTo place (segmentsOf text.name)
              | .error _ => text
            | none => text
          effect.say (shown ++ [ending])

/-- Write what links hold, or where they lead. -/
def readLinks : Tool := fun call =>
  call.withOptions
    { flags := "femnqsvz"
      long := [("canonicalize", 'f'), ("canonicalize-existing", 'e'), ("canonicalize-missing", 'm'),
        ("no-newline", 'n'), ("quiet", 'q'), ("silent", 's'), ("verbose", 'v'), ("zero", 'z')] } 1
    fun options =>
      let several := options.operands.length > 1
      let ending := if options.has 'n' && !several then [] else if options.has 'z' then ['\x00']
        else ['\n']
      let presence? := if options.has 'e' then some Presence.whole else if options.has 'm' then some .nothing
        else if options.has 'f' then some .allButLast else none
      if options.operands.isEmpty then call.lacking "missing operand"
      else
        eachOperand call options.operands fun effect operand =>
          let found := match presence? with
            | some presence => plainPath call presence false operand
            | none =>
              match call.linkStat call.files operand with
              | .ok (.link text) => .ok (octets text)
              | .ok _ => .error .invalidArgument
              | .error fault => .error fault
          match found with
          | .ok text => effect.say (text ++ ending)
          | .error fault =>
            if options.has 'v' then effect.complain (mistake call.name operand fault)
            else { effect with status := 1 }

/-- Write the directory. -/
def currentDirectory : Tool := fun call =>
  let told := (call.environment.lookup "PWD".toList).getD []
  let place := octets (Path.ofLocation call.dir).text
  let asTold := call.args.getLast? == some ['-', 'L'] && told.head? == some '/' &&
    call.files.locate? (call.path told) == some call.dir
  call.start.say ((if asTold then told else place) ++ ['\n'])

/-! ## What is known about files -/

/-- The kind of a file in words. -/
def kindWords : Entry → String
  | .directory => "directory"
  | .link _ => "symbolic link"
  | .file content _ => if content.size = 0 then "regular empty file" else "regular file"

/-- The mode of what stands at a location. -/
def modeOf : Entry → Nat
  | .directory => 0o755
  | .link _ => 0o777
  | .file _ traits => traits.mode

/-- What a letter in a format stands for. -/
def fileFact (files : FileSystem) (item : Listing.Item) (letter : Char) : Octets :=
  match letter with
  | 'n' => item.name
  | 'N' =>
    match item.entry with
    | .link path => octets (inQuotes item.name ++ " -> " ++ "\x27" ++ path ++ "\x27")
    | _ => octets (inQuotes item.name)
  | 's' => Octets.ofNat item.size
  | 'a' => Nat.toDigits 8 (modeOf item.entry)
  | 'A' => Listing.kindLetters item.entry
  | 'F' => octets (kindWords item.entry)
  | 'U' => "root".toList
  | 'G' => "root".toList
  | 'u' => ['0']
  | 'g' => ['0']
  | 'h' => Octets.ofNat (Listing.linkCount files item.place item.entry)
  | 'b' => Octets.ofNat (item.blocks * 2)
  | 'B' => "512".toList
  | 'f' => Nat.toDigits 16 (modeOf item.entry + (match item.entry with
      | .directory => 0o040000
      | .link _ => 0o120000
      | .file _ _ => 0o100000))
  | 'm' => ['/']
  | '%' => ['%']
  | _ => ['?']

/-- Put what is known about a file into a format. -/
def fileFacts (files : FileSystem) (item : Listing.Item) (escapes : Bool) : Octets → Octets
  | '%' :: c :: rest => fileFact files item c ++ fileFacts files item escapes rest
  | '\\' :: c :: rest =>
    if escapes then
      (if c == 'n' then ['\n'] else if c == 't' then ['\t'] else [c]) ++ fileFacts files item escapes rest
    else '\\' :: fileFacts files item escapes (c :: rest)
  | c :: rest => c :: fileFacts files item escapes rest
  | [] => []

/-- Write what is known about files. -/
def fileStatus : Tool := fun call =>
  call.withOptions
    { flags := "Lft", valued := "cp"
      long := [("dereference", 'L'), ("format", 'c'), ("printf", 'p'), ("terse", 't')] } 1
    fun options =>
      if options.operands.isEmpty then call.lacking "missing operand"
      else
        eachOperand call options.operands fun effect operand =>
          let followed := options.has 'L'
          let entry? := if followed then call.stat call.files operand
            else call.linkStat call.files operand
          let place := if followed then call.files.locate? (call.path operand)
            else call.files.locateLink? (call.path operand)
          match entry? with
          | .error fault =>
            effect.complain (call.name ++ ": cannot statx " ++ inQuotes operand ++ ": " ++ faultText fault)
          | .ok entry =>
            let item : Listing.Item := ⟨operand, entry, place.getD []⟩
            match options.value? 'p', options.value? 'c' with
            | some format, _ => effect.say (fileFacts call.files item true format)
            | none, some format => effect.say (fileFacts call.files item false format ++ ['\n'])
            | none, none =>
              effect.say (fileFacts call.files item false
                "  File: %n\n  Size: %s\tBlocks: %b\tIO Block: 4096   %F\n".toList)

/-! ## The environment -/

/-- Write the values of variables. -/
def environmentValues : Tool := fun call =>
  let line (entry : Octets × Octets) : Octets := entry.1 ++ '=' :: entry.2
  match call.args with
  | [] => call.start.say (Octets.unlines (call.environment.map line))
  | names =>
    let values := names.filterMap fun name => call.environment.lookup name
    let effect := call.start.say (Octets.unlines values)
    { effect with status := if values.length = names.length then 0 else 1 }

/-- Wait, for a number of seconds that must be one. -/
def sleep : Tool := fun call =>
  let isNumber (word : Octets) : Bool :=
    let digits := match word.getLast? with
      | some c => if ['s', 'm', 'h', 'd'].contains c then word.dropLast else word
      | none => word
    digits.any Char.isDigit && digits.all (fun c => c.isDigit || c == '.') && digits.count '.' ≤ 1
  match call.args, call.args.find? (!isNumber ·) with
  | [], _ => call.lacking "missing operand"
  | _, some word => call.lacking ("invalid time interval " ++ inQuotes word)
  | _, none => call.start

/-- Remove one file. -/
def unlink : Tool := fun call =>
  match call.args with
  | [] => call.lacking "missing operand"
  | [operand] =>
    call.start.attempt (if operand.isEmpty then .error .notFound
      else call.files.unlink (call.path operand)) (refusal call "cannot unlink" operand)
  | _ => call.lacking "extra operand"

/-- Bring files to a size. -/
def truncate : Tool := fun call =>
  call.withOptions { flags := "co", valued := "s", long := [("size", 's')] } 1 fun options =>
    match (options.value? 's').map Decimal.ofDigits?, options.operands with
    | none, _ => call.lacking "you must specify either \x27--size\x27 or \x27--reference\x27"
    | some none, _ => call.lacking "Invalid number"
    | _, [] => call.lacking "missing file operand"
    | some (some size), operands =>
      eachOperand call operands fun effect operand =>
        let content := match call.read effect.files operand with
          | .ok text => text
          | .error _ => []
        let sized := content.take size ++ List.replicate (size - content.length) '\x00'
        effect.attempt (call.write effect.files operand sized)
          (refusal call "cannot open" operand)

/-! ## Who runs programs -/

/-- The name of the account, and of its group. -/
def ownName : Octets := "root".toList

/-- Write the name of the account. -/
def accountName : Tool := fun call =>
  call.withOptions { flags := "" } 1 fun options =>
    match options.operands with
    | [] => call.start.say (ownName ++ ['\n'])
    | word :: _ => call.lacking ("extra operand " ++ inQuotes word)

/-- Write the numbers or the names of the account and its groups. -/
def identity : Tool := fun call =>
  call.withOptions
    { flags := "ugGnrz"
      long := [("user", 'u'), ("group", 'g'), ("groups", 'G'), ("name", 'n'), ("real", 'r'),
        ("zero", 'z')] } 1 fun options =>
    let selected := ['u', 'g', 'G'].filter options.has
    let line := if selected.isEmpty then "uid=0(root) gid=0(root) groups=0(root)".toList
      else if options.has 'n' then ownName else ['0']
    let line := line ++ [if options.has 'z' then '\x00' else '\n']
    let known (word : Octets) : Bool := word == ownName || word == ['0']
    if selected.length > 1 then
      call.start.complain (call.name ++ ": cannot print \"only\" of more than one choice")
    else if selected.isEmpty && (options.has 'n' || options.has 'r') then
      call.start.complain (call.name ++ ": cannot print only names or real IDs in default format")
    else if selected.isEmpty && options.has 'z' then
      call.start.complain (call.name ++ ": option --zero not permitted in default format")
    else
      let words := if options.operands.isEmpty then [ownName] else options.operands
      words.foldl (fun effect word =>
        if known word then effect.say line
        else effect.complain (call.name ++ ": " ++ inQuotes word ++ ": no such user")) call.start

/-- Write the names of the groups of accounts. -/
def groupNames : Tool := fun call =>
  call.withOptions { flags := "" } 1 fun options =>
    if options.operands.isEmpty then call.start.say (ownName ++ ['\n'])
    else
      options.operands.foldl (fun effect word =>
        if word == ownName then effect.say (word ++ " : ".toList ++ ownName ++ ['\n'])
        else effect.complain (call.name ++ ": " ++ inQuotes word ++ ": no such user")) call.start

/-- Write the name that somebody logged in with: nobody did. -/
def loginName : Tool := fun call => call.start.complain (call.name ++ ": no login name")

/-- Write the name of the terminal: there is none. -/
def terminalName : Tool := fun call =>
  call.withOptions { flags := "s", long := [("silent", 's'), ("quiet", 's')] } 2 fun options =>
    match options.operands with
    | word :: _ => call.refuse 2 ("extra operand " ++ inQuotes word)
    | [] =>
      let effect := { call.start with status := 1 }
      if options.has 's' then effect else effect.say "not a tty\n".toList

/-- The kind of machine. -/
def machineKind : Octets := "x86_64".toList

/-- Write the kind of machine. -/
def machineName : Tool := fun call => call.start.say (machineKind ++ ['\n'])

/-- What can be told about the system, with the letters of the options that ask for it. -/
def systemFacts : List (Char × Octets) :=
  [('s', "Linux".toList), ('n', "localhost".toList), ('r', "6.1.0".toList), ('v', "#1 SMP".toList),
    ('m', machineKind), ('o', "GNU/Linux".toList)]

/-- Write the name of the system, or other facts about it. -/
def systemName : Tool := fun call =>
  call.withOptions
    { flags := "asnrvmpio"
      long := [("all", 'a'), ("kernel-name", 's'), ("nodename", 'n'), ("kernel-release", 'r'),
        ("kernel-version", 'v'), ("machine", 'm'), ("processor", 'p'), ("hardware-platform", 'i'),
        ("operating-system", 'o')] } 1 fun options =>
    match options.operands with
    | word :: _ => call.lacking ("extra operand " ++ inQuotes word)
    | [] =>
      let letters := options.given.map (·.1)
      let letters := if letters.isEmpty then ['s'] else letters
      let facts := systemFacts.filter fun (letter, _) => letters.contains 'a' || letters.contains letter
      let unknown := (['p', 'i'].filter letters.contains).map fun _ => "unknown".toList
      call.start.say (Octets.spaced (facts.map (·.2) ++ unknown) ++ ['\n'])

/-- Give files to an account or a group: everything stays with the one there is. -/
def giveAway : Tool := fun call =>
  call.withOptions
    { flags := "RhHLPcvf"
      long := [("recursive", 'R'), ("no-dereference", 'h'), ("changes", 'c'), ("verbose", 'v'),
        ("silent", 'f'), ("quiet", 'f')] } 1 fun options =>
    match options.operands with
    | [] => call.lacking "missing operand"
    | [word] => call.lacking ("missing operand after " ++ inQuotes word)
    | owner :: files =>
      let parts := (Text.split ':' owner).filter (!·.isEmpty)
      let known (word : Octets) : Bool := word == ownName || (!word.isEmpty && word.all Char.isDigit)
      if !parts.all known then call.start.complain (call.name ++ ": invalid user: " ++ inQuotes owner)
      else
        files.foldl (fun effect file =>
          match call.linkStat call.files file with
          | .ok _ => effect
          | .error fault =>
            if options.has 'f' then { effect with status := 1 }
            else effect.complain (call.name ++ ": cannot access " ++ inQuotes file ++ ": " ++
              faultText fault)) call.start

end SiteScript.Rehearsal.Shell
