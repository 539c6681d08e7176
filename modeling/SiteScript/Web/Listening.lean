import SiteScript.Programs

/-!
# SiteScript.Web.Listening

Starting a server.  Whatever goes wrong is reported and the run goes on: a server that cannot be bound
to its address is marked as failed, and one that cannot be reached by encrypted requests still answers
plain ones.
-/

namespace SiteScript.Context

open Web

variable (context : Context)

/-- The accounts of a new server; missing or damaged ones are reported. -/
def loadAccounts (id : String) : Accounts × Context :=
  let told := "Error for web server '" ++ id ++ "': "
  match Accounts.load context.box context.files with
  | .ok (some accounts) => (accounts, context)
  | .ok none =>
    (.empty, context.error (told ++ "User authentication enabled but users.json not found."))
  | .error error => (.empty, context.error (told ++ error.message))

/-- The accounts that a server is started with. -/
def firstAccounts (decl : ServerDecl) : Accounts × Context :=
  if decl.users then context.loadAccounts decl.id else (.empty, context)

/-- What becomes of binding a listener, at this moment. -/
def binding (host : String) (port : Nat) : Binding :=
  context.machine.bind context.moment host port

/-- A listener that cannot be bound. -/
def bindingRefused (host : String) (port : Nat) (fault : String) : Error :=
  .listener (host ++ ":" ++ Decimal.text port ++ ": " ++ fault)

/-- The directory of certificate and key. -/
def sslDir : String := "ssl"

/-- The file of the key. -/
def keyFile : String := "server.key"

/-- The file of the certificates. -/
def certificateFile : String := "server.crt"

/-- How many days a certificate is valid. -/
def validDays : Nat := 365

/-- A failure with a file of the certificate. -/
def certificateFault (file fault : String) : Error :=
  .listener (Text.quoted (context.box.path [sslDir, file]).text ++ ": " ++ fault)

/-- Read certificate and key. -/
def loadCertificate : Except Error Unit :=
  let encryption := context.machine.encryption
  let read (file : String) : Except Error ByteArray :=
    (context.box.read context.files (sslDir ++ "/" ++ file)).mapError fun error =>
      context.certificateFault file error.message
  do
    let certificates ← (encryption.certificates (← read certificateFile)).mapError
      (context.certificateFault certificateFile)
    let key ← (encryption.key (← read keyFile)).mapError (context.certificateFault keyFile)
    (encryption.accept certificates key).mapError .listener

/-- The tool that makes certificates, with what it is to make. -/
def certificateTool (bits : Nat) : Launch where
  program := "openssl"
  arguments := ["req", "-x509", "-newkey", "rsa:" ++ Decimal.text bits,
    "-keyout", (context.box.path [sslDir, keyFile]).text,
    "-out", (context.box.path [sslDir, certificateFile]).text,
    "-days", Decimal.text validDays, "-nodes", "-subj", "/CN=localhost"]

/-- Make certificate and key. -/
def makeCertificate (bits : Nat) : Except Error Unit × Context :=
  let context :=
    context.info ("Generating a new self-signed SSL certificate with " ++ Decimal.text bits ++
      "-bit key...")
  match context.complete (context.certificateTool bits) with
  | (.error fault, context) =>
    (.error (.listener ("could not run openssl: " ++ fault.message)), context)
  | (.ok ending, context) =>
    if ending = .status 0 then
      (.ok (), context.info "SSL certificate successfully generated.")
    else (.error (.listener ("openssl exited with " ++ ending.text)), context)

/-- Make sure that there are certificate and key. -/
def ensureCertificate (bits : Nat) : Except Error Unit × Context :=
  match context.box.createFolder context.files sslDir with
  | (.error (.io fault), files) => (.error (.io fault), { context with files })
  | (.error error, files) => (.error (.host error), { context with files })
  | (.ok (), files) =>
    let context := { context with files }
    let there (file : String) : Bool := context.box.isFile files (sslDir ++ "/" ++ file)
    if there keyFile && there certificateFile then
      (.ok (), context.info "SSL certificate already exists. Skipping generation.")
    else context.makeCertificate bits

/-- Encrypted requests cannot be answered. -/
def secureFailed (id : String) (error : Error) : Context :=
  context.warn ("Could not start HTTPS server '" ++ id ++ "': " ++ error.message ++
    ". Are ssl/server.key and server.crt set up?")

/-- Listen for encrypted requests too. -/
def startSecure (decl : ServerDecl) : Context :=
  let (made, context) := context.ensureCertificate decl.sslBits
  match (do made; context.loadCertificate) with
  | .error error => context.secureFailed decl.id error
  | .ok () =>
    match context.binding decl.host decl.sslPort with
    | .refused fault =>
      context.asked.secureFailed decl.id (bindingRefused decl.host decl.sslPort fault)
    | .bound _ | .unnamed _ =>
      (context.asked.info ("Server '" ++ decl.id ++ "' listening on https://" ++ decl.host ++ ":" ++
        Decimal.text decl.sslPort)).keepAlive (.secureListener decl.id)

/-- The listener of a server cannot be used. -/
def startFailed (id : String) (fault : String) : Context :=
  (context.error ("HTTP server '" ++ id ++ "' error: " ++ fault)).setStatus id .failed

/-- A server has its listener. -/
def startListening (decl : ServerDecl) (accounts : Accounts) (address : String) : Context :=
  let context := context.info ("Server '" ++ decl.id ++ "' listening on http://" ++ address)
  let context :=
    (context.setStatus decl.id (.listening address)).keepAlive (.listener { decl, accounts })
  if decl.ssl then context.startSecure decl else context

/-- Start a server. -/
def startServer (decl : ServerDecl) : Context :=
  let (accounts, context) := context.firstAccounts decl
  let routes := (context.apis.forServer decl.id).length
  let context :=
    context.info ("Server '" ++ decl.id ++ "' has " ++ Decimal.text routes ++ " API routes")
  match context.binding decl.host decl.port with
  | .bound address => context.asked.startListening decl accounts address
  | .refused fault =>
    context.asked.startFailed decl.id (bindingRefused decl.host decl.port fault).message
  | .unnamed fault => context.asked.startFailed decl.id fault

end SiteScript.Context
