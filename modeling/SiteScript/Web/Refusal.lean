import SiteScript.Error
import SiteScript.Json.Printer

/-!
# SiteScript.Web.Refusal

Requests to the web interface that are turned down: a status and what the client is told.
-/

namespace SiteScript.Web

/-- A request turned down. -/
structure Refusal where
  status : Nat
  message : String
deriving DecidableEq

namespace Refusal

/-- The client has to log in first. -/
def forbidden : Refusal := ⟨403, "Forbidden"⟩

/-- There is nothing of that name. -/
def notFound (message : String) : Refusal := ⟨404, message⟩

/-- The method does not apply. -/
def notAllowed (message : String) : Refusal := ⟨405, message⟩

/-- Something failed on this side, or the request makes no sense. -/
def internal (message : String) : Refusal := ⟨500, "Server error: " ++ message⟩

/-- A failure of the library, told to the client. -/
def ofError (error : Error) : Refusal := internal error.message

/-- A failure of the host, told to the client. -/
def ofHost (error : HostError) : Refusal := ofError (.host error)

/-- What the client reads. -/
def body (refusal : Refusal) : String :=
  (Json.object [("error", .string refusal.message)]).compact

end Refusal

end SiteScript.Web
