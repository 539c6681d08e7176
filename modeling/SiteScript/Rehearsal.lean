import SiteScript.Rehearsal.Certificate
import SiteScript.Rehearsal.Database
import SiteScript.Rehearsal.Shell.Evaluation

/-!
# SiteScript.Rehearsal

A machine to try scripts out on, made of this library alone.  It runs command lines in a shell of its
own and no other programs, its databases live in memory, and its certificates are read but never made.
It is one machine among all: what is proved of a run is proved on every machine, and nothing is proved of
this one.
-/

namespace SiteScript.Rehearsal

/-! ## Running a command line -/

namespace Shell

/-- Some programs that stand in both directories of programs. -/
def programFiles : List (Location × Entry) :=
  let names := ["sh", "dash", "bash", "env", "ls", "cat", "echo", "true", "false", "grep", "sed"]
  let file : Entry := .file ByteArray.empty { mode := 0o755 }
  names.flatMap fun name => [(["bin", name], file), (["usr", "bin", name], file)]

/-- The file that lists the accounts. -/
def accountsFile : Entry := .plain "root:x:0:0:root:/root:/bin/bash\n".toUTF8

/-- A device from which as many bytes can be read as one likes; only its beginning is kept. -/
def endlessDevice : Entry := .plain ⟨Array.replicate 65536 0⟩

/-- What stands outside of the workspace: the directories of a usual system with some programs, the device
that holds nothing, and those that never end. -/
def surroundings : List (Location × Entry) :=
  [(["dev"], .directory), (["dev", "null"], .plain ByteArray.empty), (["dev", "zero"], endlessDevice),
    (["dev", "urandom"], endlessDevice), (["bin"], .directory), (["etc"], .directory),
    (["etc", "passwd"], accountsFile), (["home"], .directory), (["root"], .directory),
    (["tmp"], .directory), (["usr"], .directory), (["usr", "bin"], .directory),
    (["var"], .directory)] ++ programFiles

/-- Add what stands outside of the workspace. -/
def surround (files : FileSystem) : FileSystem :=
  surroundings.foldl (fun files (location, entry) =>
    if (files.get? location).isSome then files else files.put location entry) files

/-- Take away what was added to files. -/
def unsurround (before after : FileSystem) : FileSystem :=
  surroundings.foldl (fun files (location, _) =>
    if (before.get? location).isSome then files else files.erase location) after

/-- The variables that a shell begins with. -/
def firstVariables (dir : Location) : List (Octets × Variable) :=
  let exported (name : String) (value : Octets) : Octets × Variable :=
    (name.toList, { value := some value, exported := true })
  let own (name : String) (value : Octets) : Octets × Variable :=
    (name.toList, { value := some value })
  [exported "HOME" "/root".toList,
    exported "PATH" "/usr/local/sbin:/usr/local/bin:/usr/sbin:/usr/bin:/sbin:/bin".toList,
    exported "PWD" (Builtin.locationText dir), own "IFS" [' ', '\t', '\n'], own "OPTIND" ['1'],
    own "PS1" ['#', ' '], own "PS2" ['>', ' '], own "PS4" ['+', ' '], own "PPID" ['0']]

/-- The state that a shell begins with: the input is empty, and what is told about mistakes is lost. -/
def firstState (dir : Location) (files : FileSystem) : State :=
  { world :=
      { files := surround files
        channels := #[.memory [], .memory [], .nothing] }
    dir
    route := Builtin.locationText dir
    vars := firstVariables dir
    streams := [(0, 0), (1, 1), (2, 2)] }

/-- How deep commands may be nested. -/
def maxDepth : Nat := 10000

/-- Run a command line in a directory, with an empty input.  What it writes to the standard output, the
files after it and how it ends are what is left of it. -/
def run (dir : Location) (files : FileSystem) (line : String) : Finished :=
  let go := perform maxDepth
  let act : Step := do go.finish (← go {} (.text (octets line)))
  let (flow, state) := StateT.run act (firstState dir files)
  { ending := .ok (match flow with
      | .killed _ signal => .signal signal false
      | _ => .status (state.status % 256))
    files := unsurround files state.world.files
    output := Octets.bytes (state.world.unread 1) }

end Shell

/-! ## The machine -/

/-- The library of encryption. -/
def encryption : Encryption where
  certificates content :=
    match Certificate.certificates? content with
    | some certificates => .ok certificates
    | none => .error "damaged section"
  key content :=
    match PrivateKey.ofFile? content with
    | some part => .ok ⟨part.label, part.content⟩
    | none => .error "no items found"
  accept certificates key :=
    (Certificate.check certificates ⟨key.label, key.content⟩).mapError Certificate.Fault.message

/-- The directory and the line of a program that is a command line. -/
def commandLine? : Launch → Option (Location × String)
  | ⟨some dir, "sh", ["-c", line]⟩ => some (dir, line)
  | _ => none

/-- The machine. -/
def machine : Machine where
  start moment launch :=
    if (commandLine? launch).isSome then .ok () else Machine.bare.start moment launch
  finish moment launch files :=
    match commandLine? launch with
    | some (dir, line) => Shell.run dir files line
    | none => Machine.bare.finish moment launch files
  bind := Machine.bare.bind
  connect _ kind config := Database.connect kind config
  encryption := encryption

end SiteScript.Rehearsal
