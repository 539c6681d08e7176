import SiteScript.Context
import SiteScript.FileSystem.Calls

/-!
# SiteScript.Programs

Running programs.  A program is started at one moment and ends at a later one; what it does to the
files between them is seen when it ends.  A run waits for a program, or it starts a command and goes
on: then the command is kept in the background until it ends (`endCommand`), and only its failure is
reported.
-/

namespace SiteScript.Context

variable (context : Context)

/-- Start a program. -/
def launch (launch : Launch) : Except FileFault Unit × Context :=
  let place : Except FileFault Entry :=
    match launch.dir? with
    | some dir => context.files.stat (.ofLocation dir)
    | none => .ok .directory
  if launch.arguments.any (·.toList.contains '\x00') then (.error .nulInCommand, context)
  else
    match place with
    | .error fault => (.error fault, context)
    | .ok .directory => (context.machine.start context.moment launch, context.asked)
    | .ok _ => (.error .notDirectory, context)

/-- Wait for a program that was started. -/
def await (launch : Launch) : Except FileFault Ending × Context :=
  let finished := context.machine.finish context.moment launch context.files
  (finished.ending, { context.asked with files := finished.files }.print finished.output)

/-- Start a program and wait for it. -/
def complete (launch : Launch) : Except FileFault Ending × Context :=
  match context.launch launch with
  | (.error fault, context) => (.error fault, context)
  | (.ok (), context) => context.await launch

/-- The shell with a command, in the workspace. -/
def shell (command : String) : Launch where
  dir? := some context.box.root
  program := "sh"
  arguments := ["-c", command]

/-- Run a command in the workspace and wait for it. -/
def runAwaited (command : String) : Except HostError Unit × Context :=
  match context.complete (context.shell command) with
  | (.error fault, context) => (.error (.io fault), context)
  | (.ok ending, context) =>
    if ending = .status 0 then (.ok (), context)
    else (.error (.command ("\x60" ++ command ++ "\x60 exited with " ++ ending.text)), context)

/-- Start a command in the workspace and leave it in the background. -/
def runInBackground (command : String) : Except HostError Unit × Context :=
  match context.launch (context.shell command) with
  | (.error fault, context) => (.error (.io fault), context)
  | (.ok (), context) =>
    (.ok (), { context with background := context.background ++ [command] })

/-- A command in the background, given by its number, ends.  What it prints is lost. -/
def endCommand (n : Nat) : Context :=
  match context.background[n]? with
  | none => context
  | some command =>
    let told := "Background command \x60" ++ command ++ "\x60 "
    let finished :=
      context.machine.finish context.moment (context.shell command) context.files
    let context := { context.asked with
      files := finished.files
      background := context.background.eraseIdx n }
    match finished.ending with
    | .error fault => context.warn (told ++ "failed: " ++ fault.message)
    | .ok ending =>
      if ending = .status 0 then context else context.warn (told ++ "exited with " ++ ending.text)

/-- All commands in the background end, in the order they were started. -/
def endCommands : Context :=
  context.background.foldl (fun context _ => context.endCommand 0) context

end SiteScript.Context
