import SiteScript.Main
import SiteScript.Script.Cursor
import SiteScript.Script.Printer
import SiteScript.Web.Dispatch
import SiteScript.Proofs.Actions
import SiteScript.Proofs.Bundle
import SiteScript.Proofs.CallDepth
import SiteScript.Proofs.Confinement
import SiteScript.Proofs.Copying
import SiteScript.Proofs.Database
import SiteScript.Proofs.Distribution
import SiteScript.Proofs.Manifest
import SiteScript.Proofs.Project.Results
import SiteScript.Proofs.Scoping
import SiteScript.Proofs.Script.Blanks
import SiteScript.Proofs.Script.Checking
import SiteScript.Proofs.Script.Progress
import SiteScript.Proofs.Script.RoundTrip
import SiteScript.Proofs.Script.Values
import SiteScript.Proofs.Variables
import SiteScript.Proofs.Web.Binding
import SiteScript.Proofs.Web.Cookies
import SiteScript.Proofs.Web.Lookup
import SiteScript.Proofs.Web.Pages
import SiteScript.Proofs.Web.RefusedRegistrations
import SiteScript.Proofs.Web.Registrations
import SiteScript.Proofs.Web.Routes
import SiteScript.Proofs.Web.Secrecy
import SiteScript.Proofs.Web.Status
