import SiteScript.Bytes
import SiteScript.Database
import SiteScript.Decimal
import SiteScript.FileSystem.Basic
import SiteScript.FileSystem.Fault
import SiteScript.Json.Value

/-!
# SiteScript.Machine

The machine around a run: the programs that can be started on it, its network, its databases, and its
library of encryption.  Nothing is known of it but what it answers when it is asked.

An answer may depend on anything that goes on outside, so it depends on the moment: the first question
is asked at moment zero, the next one at moment one, and so on.
-/

namespace SiteScript

/-! ## Programs -/

/-- A program that is to be started, with its arguments. -/
structure Launch where
  /-- The directory it runs in; the one that the run was started in otherwise. -/
  dir? : Option Location := none
  program : String
  arguments : List String
deriving DecidableEq

/-- How a program ends. -/
inductive Ending where
  | status (code : Nat)
  /-- It is ended by a signal, and leaves an image of its memory or not. -/
  | signal (number : Nat) (dumped : Bool)
deriving DecidableEq

/-- The names of signals, from the first on. -/
def Ending.signalNames : List String :=
  ["HUP", "INT", "QUIT", "ILL", "TRAP", "ABRT", "BUS", "FPE", "KILL", "USR1", "SEGV", "USR2",
    "PIPE", "ALRM", "TERM", "STKFLT", "CHLD", "CONT", "STOP", "TSTP", "TTIN", "TTOU", "URG", "XCPU",
    "XFSZ", "VTALRM", "PROF", "WINCH", "IO", "PWR", "SYS"]

/-- The wording of an ending. -/
def Ending.text : Ending → String
  | .status code => "exit status: " ++ Decimal.text code
  | .signal number dumped =>
    let name := (signalNames[number - 1]?.map fun name => " (SIG" ++ name ++ ")").getD ""
    "signal: " ++ Decimal.text number ++ name ++ if dumped then " (core dumped)" else ""

/-- What a program leaves behind. -/
structure Finished where
  /-- How it ended, if that can be told. -/
  ending : Except FileFault Ending
  files : FileSystem
  /-- What was written to the standard output. -/
  output : Bytes := []

/-! ## Network -/

/-- What becomes of binding a listener to an address. -/
inductive Binding where
  | bound (address : String)
  | refused (fault : String)
  /-- A listener is there, but it cannot be told at which address. -/
  | unnamed (fault : String)
deriving DecidableEq

/-! ## Databases -/

/-- An open connection: what it answers to a query, at a moment. -/
structure Connection where
  query : Nat → String → Except String (List Json)

/-! ## Encryption -/

/-- A key, with the label that tells how it is written. -/
structure KeyPart where
  label : Bytes
  content : Bytes

/-- A library of encryption. -/
structure Encryption where
  /-- The certificates of a file. -/
  certificates : ByteArray → Except String (List Bytes)
  /-- The key of a file. -/
  key : ByteArray → Except String KeyPart
  /-- Whether certificates and a key can be used together. -/
  accept : List Bytes → KeyPart → Except String Unit

/-! ## Machines -/

/-- The machine around a run. -/
structure Machine where
  /-- Start a program. -/
  start : Nat → Launch → Except FileFault Unit
  /-- What a program that was started has done when it ends. -/
  finish : Nat → Launch → FileSystem → Finished
  /-- Bind a listener to a host and a port. -/
  bind : Nat → String → Nat → Binding
  /-- Open a connection to a database of some kind. -/
  connect : Nat → Database.Kind → Database.Config → Except String Connection
  encryption : Encryption

namespace Machine

/-- The hosts that belong to every machine, with their addresses. -/
def ownHosts : List (String × String) :=
  [("127.0.0.1", "127.0.0.1"), ("localhost", "127.0.0.1"), ("0.0.0.0", "0.0.0.0")]

/-- A machine on which nobody else listens, and which has neither programs nor databases. -/
def bare : Machine where
  start _ _ := .error .notFound
  finish _ _ files := { ending := .ok (.status 0), files }
  bind _ host port :=
    match ownHosts.lookup host with
    | some address => .bound (address ++ ":" ++ Decimal.text port)
    | none => .refused FileFault.addressUnavailable.message
  connect _ _ _ := .error "error communicating with database: Connection refused (os error 111)"
  encryption :=
    { certificates := fun _ => .error "no certificates"
      key := fun _ => .error "no items found"
      accept := fun _ _ => .error "no certificates" }

end Machine

end SiteScript
