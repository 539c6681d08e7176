import SiteScript.Text.Basic

/-!
# SiteScript.Web.MediaType

What kind of content a file holds, told by the extension of its name.
-/

namespace SiteScript.Web

/-- The extensions that tell something. -/
def mediaTypes : List (String × String) :=
  [("html", "text/html"), ("css", "text/css"), ("js", "application/javascript"),
    ("json", "application/json"), ("png", "image/png"), ("jpg", "image/jpeg"),
    ("jpeg", "image/jpeg"), ("svg", "image/svg+xml"), ("ico", "image/x-icon"),
    ("txt", "text/plain")]

/-- The extension of a path: what follows its last dot, unless a slash does. -/
def extension? (path : String) : Option String :=
  match Text.cutLast? '.' path.toList with
  | some (_, extension) =>
    if extension.contains '/' then none else some (String.ofList (extension.map Char.toLower))
  | none => none

/-- The media type of a file. -/
def mediaType (path : String) : String :=
  ((extension? path).bind fun extension => mediaTypes.lookup extension).getD "application/octet-stream"

end SiteScript.Web
