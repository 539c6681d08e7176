import SiteScript.Rehearsal.Shell.Tool.Files

/-!
# SiteScript.Rehearsal.Shell.Tool.Copying

The programs that copy, move and link files.  Sources go into a directory under their own names, or one
source gets a name (`Destination`).  A copy of a link is what the link leads to, or the link itself: that
depends on options, and on whether a whole tree is copied.
-/

namespace SiteScript.Rehearsal.Shell

/-! ## Sources and targets -/

/-- Sources and target of a call. -/
inductive Destination where
  /-- Each source goes into a directory under its own name. -/
  | into (dir : Octets) (sources : List Octets)
  /-- One source gets a name. -/
  | as (target source : Octets)
  | refused (effect : Effect)

/-- Find out where sources go.  A link to a directory is none if `plainLinks` says so. -/
def destination (call : Call) (options : Options) (plainLinks : Bool) : Destination :=
  let isDirectory (text : Octets) : Bool :=
    call.isDirectory call.files text && !(plainLinks && isLinkAt call.files (call.path text))
  match options.value? 't', options.operands.reverse with
  | some dir, _ =>
    if options.operands.isEmpty then .refused (call.lacking "missing file operand")
    else if call.isDirectory call.files dir then .into dir options.operands
    else
      .refused (call.start.complain (call.name ++ ": target directory " ++ inQuotes dir ++ ": " ++
        faultText (if (call.stat call.files dir matches .ok _) then .notDirectory else .notFound)))
  | none, [] => .refused (call.lacking "missing file operand")
  | none, [source] =>
    .refused (call.lacking ("missing destination file operand after " ++ inQuotes source))
  | none, target :: sources =>
    if options.has 'T' then
      match sources with
      | [source] => .as target source
      | _ => .refused (call.lacking ("extra operand " ++ inQuotes target))
    else if isDirectory target then .into target sources.reverse
    else
      match sources with
      | [source] => .as target source
      | _ =>
        match call.stat call.files target with
        | .error fault =>
          .refused (call.start.complain (call.name ++ ": target " ++ inQuotes target ++ ": " ++
            faultText fault))
        | .ok _ =>
          .refused (call.start.complain (call.name ++ ": target " ++ inQuotes target ++ ": " ++
            faultText .notDirectory))

/-- Act on each source with the name it gets. -/
def eachSource (call : Call) (found : Destination) (act : Effect → Octets → Octets → Effect) :
    Effect :=
  match found with
  | .refused effect => effect
  | .as target source => act call.start source target
  | .into dir sources =>
    eachOperand call sources fun effect source => act effect source (within dir (baseName source))

/-- What is told when a source gets a name. -/
def arrow (what : String) (source target : Octets) : Octets :=
  octets (what ++ inQuotes source ++ " -> " ++ inQuotes target ++ "\n")

/-- Whether two paths lead to one file, links followed or not. -/
def areSame (files : FileSystem) (followed : Bool) (a b : Path) : Bool :=
  let locate (path : Path) : Option Location :=
    if followed then files.locate? path else files.locateLink? path
  match locate a, locate b with
  | some x, some y => x == y || FileSystem.areOneFile (files.get? x) (files.get? y)
  | _, _ => false

/-- Act on a source and a target, after a question if that is wanted and the target is there. -/
def askFirst (call : Call) (options : Options) (others : List Char)
    (act : Effect → Octets → Octets → Effect) (effect : Effect) (source target : Octets) : Effect :=
  let isThere (text : Octets) : Bool := match call.stat effect.files text with
    | .ok entry => !entry.isDirectory
    | .error _ => false
  let questionable := isThere source && isThere target &&
    !areSame effect.files true (call.path source) (call.path target)
  if options.prevails 'i' others && questionable then
    let (agreed, effect) := call.ask effect ("overwrite " ++ inQuotes target)
    if agreed then act effect source target else { effect with status := 1 }
  else act effect source target

/-- Keep what a target is under another name, if that is wanted. -/
def backUp (call : Call) (options : Options) (effect : Effect) (target : Octets) : Effect :=
  let wanted := options.has 'b' || options.has 'S'
  let ending := (options.value? 'S').getD ['~']
  match wanted, call.linkStat effect.files target with
  | true, .ok entry =>
    if entry.isDirectory then effect
    else
      match effect.files.rename (call.path target) (call.path (target ++ ending)) with
      | .ok files => { effect with files }
      | .error _ => effect
  | _, _ => effect

/-! ## Copying -/

namespace Copying

/-- How files are copied. -/
structure Manner where
  recursive : Bool
  /-- Whether a link that was named is followed. -/
  followNamed : Bool
  /-- Whether links that were met on the way are followed. -/
  followMet : Bool
  tell : Bool
  /-- Whether the copy gets the mode of the source as it is. -/
  exact : Bool
  /-- Whether files that are there are left as they are. -/
  keep : Bool
  /-- Whether copies are further names of the files. -/
  asNames : Bool
  /-- Whether copies are links to the files. -/
  asLinks : Bool

/-- What options say about copying. -/
def manner (options : Options) : Manner :=
  let recursive := options.has 'r' || options.has 'R' || options.has 'a'
  let plain := options.has 'a' || options.prevails 'P' ['L', 'H'] || options.prevails 'd' ['L', 'H']
  let always := options.prevails 'L' ['P', 'H', 'd', 'a']
  { recursive
    followNamed := always || options.prevails 'H' ['P', 'L', 'd'] || !(recursive || plain)
    followMet := always
    tell := options.has 'v'
    exact := options.has 'a' || options.has 'p'
    keep := options.has 'n'
    asNames := options.has 'l'
    asLinks := options.has 's' }

/-- The mode of a copy that is new. -/
def newMode (call : Call) (manner : Manner) (mode : Nat) : Nat :=
  if manner.exact then mode else mode - (mode &&& call.mask)

/-- Copy a file to a name. -/
def copyContent (call : Call) (manner : Manner) (effect : Effect) (source target : Octets)
    (content : ByteArray) (traits : Traits) : Effect :=
  let path := call.path target
  let refuse (fault : FileFault) : Effect :=
    effect.complain (refusal call "cannot create regular file" target fault)
  let tell (effect : Effect) : Effect :=
    if manner.tell then effect.say (arrow "" source target) else effect
  let isThere := call.stat effect.files target matches .ok _
  if isThere && areSame effect.files true (call.path source) path then
    effect.complain (call.name ++ ": " ++ inQuotes source ++ " and " ++ inQuotes target ++
      " are the same file")
  else if isThere && call.isDirectory effect.files target then
    effect.complain (call.name ++ ": cannot overwrite directory " ++ inQuotes target ++
      " with non-directory")
  else if isThere && manner.keep then effect
  else if !isThere && isLinkAt effect.files path then
    effect.complain (call.name ++ ": not writing through dangling symlink " ++ inQuotes target)
  else if manner.asNames then
    match effect.files.addName (call.path source) path with
    | .ok files => tell { effect with files }
    | .error fault => effect.complain (refusal call "cannot create hard link" target fault)
  else if manner.asLinks then
    match effect.files.makeLink path source.name with
    | .ok files => tell { effect with files }
    | .error fault => effect.complain (refusal call "cannot create symbolic link" target fault)
  else if target.getLast? == some '/' then refuse .notDirectory
  else
    match effect.files.write path content with
    | .error fault => refuse fault
    | .ok files =>
      let files := if isThere && !manner.exact then files
        else files.setMode path (newMode call manner traits.mode)
      tell { effect with files }

/-- Copy a link as a link. -/
def copyLink (call : Call) (manner : Manner) (effect : Effect) (source target : Octets)
    (text : String) : Effect :=
  let path := call.path target
  match call.linkStat effect.files target with
  | .ok .directory =>
    effect.complain (call.name ++ ": cannot overwrite directory " ++ inQuotes target ++
      " with non-directory")
  | .ok _ =>
    if manner.keep then effect
    else if areSame effect.files false (call.path source) path then
      effect.complain (call.name ++ ": " ++ inQuotes source ++ " and " ++ inQuotes target ++
        " are the same file")
    else
      match (effect.files.unlink path).bind fun files => files.makeLink path text with
      | .ok files => { effect with files }
      | .error fault => effect.complain (refusal call "cannot create symbolic link" target fault)
  | .error _ =>
    match effect.files.makeLink path text with
    | .ok files =>
      let effect := { effect with files }
      if manner.tell then effect.say (arrow "" source target) else effect
    | .error fault => effect.complain (refusal call "cannot create symbolic link" target fault)

/-- Copy what a text names, and everything below it down to a depth. -/
def copyEntry (call : Call) (manner : Manner) :
    Nat → Bool → Effect → Octets → Octets → Effect
  | 0, _, effect, _, _ => effect
  | depth + 1, named, effect, source, target =>
    let follow := if named then manner.followNamed else manner.followMet
    let found := if follow then call.stat effect.files source else call.linkStat effect.files source
    match found, effect.files.locate? (call.path source) with
    | .error fault, _ => effect.complain (refusal call "cannot stat" source fault)
    | .ok (.file content traits), _ =>
      copyContent call manner effect source target content traits
    | .ok (.link text), _ => copyLink call manner effect source target text
    | .ok .directory, none => effect
    | .ok .directory, some place =>
      if !manner.recursive then
        effect.complain (call.name ++ ": -r not specified; omitting directory " ++ inQuotes source)
      else
        match call.stat effect.files target with
        | .ok .directory => below depth effect source target place
        | .ok _ =>
          effect.complain (call.name ++ ": cannot overwrite non-directory " ++ inQuotes target ++
            " with directory " ++ inQuotes source)
        | .error _ =>
          match effect.files.makeDirectory { call.path target with slash := false } with
          | .error fault => effect.complain (refusal call "cannot create directory" target fault)
          | .ok files =>
            let effect := { effect with files }
            let effect := if manner.tell then effect.say (arrow "" source target) else effect
            below depth effect source target place
where
  /-- Copy what stands in a directory.  A tree does not go into its own copy. -/
  below (depth : Nat) (effect : Effect) (source target : Octets) (place : Location) : Effect :=
    let copy := (effect.files.locate? (call.path target)).getD []
    if place == copy then
      effect.complain (call.name ++ ": " ++ inQuotes source ++ " and " ++ inQuotes target ++
        " are the same file")
    else
      let children := (effect.files.children place).filter fun (name, _) => place ++ [name] != copy
      let effect := if place.isPrefixOf copy && children.length < (effect.files.children place).length then
          effect.complain (call.name ++ ": cannot copy a directory, " ++ inQuotes source ++
            ", into itself, " ++ inQuotes target)
        else effect
      let names := Octets.sorted (children.map fun (name, _) => octets name)
      names.foldl (fun effect name =>
        copyEntry call manner depth false effect (within source name) (within target name)) effect

end Copying

/-- Copy files. -/
def copy : Tool := fun call =>
  call.withOptions
    { flags := "rRafnpvTuidLPHlsxb", valued := "tS"
      long := [("recursive", 'r'), ("archive", 'a'), ("force", 'f'), ("no-clobber", 'n'),
        ("verbose", 'v'), ("no-target-directory", 'T'), ("target-directory", 't'), ("update", 'u'),
        ("dereference", 'L'), ("no-dereference", 'P'), ("link", 'l'), ("symbolic-link", 's'),
        ("preserve", 'p'), ("interactive", 'i'), ("backup", 'b'), ("suffix", 'S')] }
    1 fun options =>
      let manner := Copying.manner options
      let depth := call.files.entries.length + 2
      eachSource call (destination call options false) (askFirst call options ['n']
        fun effect source target =>
          let same := areSame effect.files true (call.path source) (call.path target)
          let effect := if same then effect else backUp call options effect target
          Copying.copyEntry call manner depth true effect source target)

/-! ## Moving -/

/-- Move one source. -/
def moveOne (call : Call) (options : Options) (effect : Effect) (source target : Octets) : Effect :=
  let files := effect.files
  let sourcePath := call.path source
  let targetPath := call.path target
  let move (effect : Effect) : Effect :=
    match effect.files.rename sourcePath targetPath with
    | .ok files =>
      let effect := { effect with files }
      if options.has 'v' then effect.say (arrow "renamed " source target) else effect
    | .error .notEmpty =>
      effect.complain (call.name ++ ": cannot overwrite " ++ inQuotes target ++ ": " ++
        faultText .notEmpty)
    | .error .invalidArgument =>
      effect.complain (call.name ++ ": cannot move " ++ inQuotes source ++
        " to a subdirectory of itself, " ++ inQuotes target)
    | .error fault =>
      effect.complain (call.name ++ ": cannot move " ++ inQuotes source ++ " to " ++ inQuotes target ++
        ": " ++ faultText fault)
  match call.linkStat files source with
  | .error fault => effect.complain (refusal call "cannot stat" source fault)
  | .ok entry =>
    match call.linkStat files target with
    | .error _ => move effect
    | .ok other =>
      if areSame files false sourcePath targetPath then
        effect.complain (call.name ++ ": " ++ inQuotes source ++ " and " ++ inQuotes target ++
          " are the same file")
      else if options.has 'n' then
        effect.complain (call.name ++ ": not replacing " ++ inQuotes target)
      else
        match entry.isDirectory, other.isDirectory with
        | false, true =>
          effect.complain (call.name ++ ": cannot overwrite directory " ++ inQuotes target ++
            " with non-directory")
        | true, false =>
          effect.complain (call.name ++ ": cannot overwrite non-directory " ++ inQuotes target ++
            " with directory " ++ inQuotes source)
        | _, _ => move (backUp call options effect target)

/-- Move files. -/
def move : Tool := fun call =>
  call.withOptions
    { flags := "fnvTuib", valued := "tS"
      long := [("force", 'f'), ("no-clobber", 'n'), ("verbose", 'v'), ("no-target-directory", 'T'),
        ("target-directory", 't'), ("update", 'u'), ("interactive", 'i'), ("backup", 'b'),
        ("suffix", 'S')] }
    1 fun options =>
      eachSource call (destination call options false)
        (askFirst call options ['n', 'f'] (moveOne call options))

/-! ## Linking -/

/-- The path from one directory to a location. -/
def relativeTo (dir location : Location) : Octets :=
  let shared := ((dir.zip location).takeWhile fun (a, b) => a == b).length
  let up := (dir.drop shared).map fun _ => ".."
  let names := up ++ location.drop shared
  if names.isEmpty then ['.'] else octets (joinSegments names)

/-- Link one source. -/
def linkOne (call : Call) (options : Options) (effect : Effect) (source target : Octets) : Effect :=
  let symbolic := options.has 's'
  let path := call.path target
  let kind := if symbolic then "symbolic" else "hard"
  let followed := options.prevails 'L' ['P']
  let entry := if followed then call.stat effect.files source else call.linkStat effect.files source
  let finish (effect : Effect) : Effect :=
    let text := if options.has 'r' then
        match (effect.files.destination (call.path source)), effect.files.target path with
        | .ok place, .ok own => relativeTo own.location.dropLast place.location
        | _, _ => source
      else source
    let sourcePath := match followed, effect.files.locate? (call.path source) with
      | true, some location => Path.ofLocation location
      | _, _ => call.path source
    let made := if symbolic then effect.files.makeLink path text.name
      else effect.files.addName sourcePath path
    match made with
    | .error fault =>
      effect.complain (call.name ++ ": failed to create " ++ kind ++ " link " ++ inQuotes target ++ ": " ++
        faultText fault)
    | .ok files =>
      let effect := { effect with files }
      if options.has 'v' then
        effect.say (octets (inQuotes target ++ (if symbolic then " -> " else " => ") ++
          inQuotes source ++ "\n"))
      else effect
  match symbolic, entry with
  | false, .error fault =>
    effect.complain (call.name ++ ": failed to access " ++ inQuotes source ++ ": " ++ faultText fault)
  | false, .ok .directory =>
    effect.complain (call.name ++ ": " ++ source.name ++ ": hard link not allowed for directory")
  | _, _ =>
    match call.linkStat effect.files target with
    | .error _ => finish effect
    | .ok .directory =>
      if options.has 'f' then
        effect.complain (call.name ++ ": " ++ target.name ++ ": cannot overwrite directory")
      else finish effect
    | .ok _ =>
      if !symbolic && areSame effect.files false (call.path source) path && options.has 'f' then
        effect.complain (call.name ++ ": " ++ inQuotes source ++ " and " ++ inQuotes target ++
          " are the same file")
      else if options.has 'b' || options.has 'S' then finish (backUp call options effect target)
      else if options.has 'f' then
        match effect.files.unlink path with
        | .ok files => finish { effect with files }
        | .error fault => effect.complain (refusal call "cannot remove" target fault)
      else finish effect

/-- Make links to files, or further names of them. -/
def makeLinks : Tool := fun call =>
  call.withOptions
    { flags := "sfinrvTLPdFb", valued := "tS"
      long := [("symbolic", 's'), ("force", 'f'), ("no-dereference", 'n'), ("relative", 'r'),
        ("verbose", 'v'), ("no-target-directory", 'T'), ("target-directory", 't'),
        ("logical", 'L'), ("physical", 'P'), ("interactive", 'i'), ("backup", 'b'),
        ("suffix", 'S')] }
    1 fun options =>
      match options.operands, options.has 't' || options.has 'T' with
      | [source], false => linkOne call options call.start source (baseName source)
      | _, _ =>
        eachSource call (destination call options (options.has 'n'))
          (linkOne call options)

/-! ## Installing -/

/-- Copy files as programs, and make the directories for them. -/
def install : Tool := fun call =>
  call.withOptions
    { flags := "dDvTcsbpC", valued := "mogtS"
      long := [("directory", 'd'), ("mode", 'm'), ("target-directory", 't'), ("verbose", 'v')] } 1
    fun options =>
      let mode := ((options.value? 'm').bind (modeAfter? call.mask false 0)).getD 0o755
      if options.has 'd' then
        if options.operands.isEmpty then call.lacking "missing file operand"
        else eachOperand call options.operands (makeAll call false)
      else
        let manner : Copying.Manner :=
          { Copying.manner { given := [] } with tell := options.has 'v' }
        eachSource call (destination call options false) fun effect source target =>
          let effect := if options.has 'D' then
              match Text.cutLast? '/' target with
              | some (dir, _) => makeAll call false effect dir
              | none => effect
            else effect
          let effect := Copying.copyEntry call manner 1 true effect source target
          { effect with files := effect.files.setMode (call.path target) mode }

/-- Give a file one more name. -/
def addOneName : Tool := fun call =>
  match call.args with
  | [source, target] =>
    call.start.attempt (call.files.addName (call.path source) (call.path target)) fun fault =>
      call.name ++ ": cannot create link " ++ inQuotes target ++ " to " ++ inQuotes source ++ ": " ++
        faultText fault
  | [] => call.lacking "missing operand"
  | [operand] => call.lacking ("missing operand after " ++ inQuotes operand)
  | _ => call.lacking "extra operand"

end SiteScript.Rehearsal.Shell
