import SiteScript.Proofs.FileTree
import SiteScript.Proofs.HiddenFile
import SiteScript.Proofs.Resolving
import SiteScript.Proofs.Web.Dispatch

/-!
# SiteScript.Proofs.Web.Pages

What a server shows for a page.

1. `PublicFile` says that a page is a file whose path is the directory of the pages and plain names
   below it.  If no link stands on the way (`Straight`), the file stands at this very location
   (`PublicFile.stands`); a link shows what it leads to (`linked_page_leaves`).
2. A page is shown when it is such a file and its name does not go up; otherwise the page for what
   is missing is, or a text (`Shown`, `shown_showPage`).
3. A request for a page changes nothing, its status tells the two apart, and what is shown stands in
   the directory of the pages if the way to it is straight (`page_request_answered`). -/

namespace SiteScript.Web

open FileSystem

namespace Server

variable {server : Server} {context : Context}

/-- A page is a file with this content: its path is that of the directory of the pages, followed by
plain names. -/
structure PublicFile (server : Server) (context : Context) (page : String) (content : ByteArray)
    (root names : List String) : Prop where
  directory : Sandbox.resolve server.decl.publicDir = .ok root
  path : Sandbox.resolve (server.decl.publicDir ++ "/" ++ page) = .ok (root ++ names)
  plain : ∀ name ∈ names, IsPlain name
  file : ∃ traits, context.files.stat (context.box.path (root ++ names)) = .ok (.file content traits)

/-- The way to a location is straight: no link stands on it. -/
def Straight (fs : FileSystem) (location : Location) : Prop :=
  ∀ above, above <+: location → ∀ path, fs.get? above ≠ some (.link path)

/-- If the way to the file of a page is straight, the file is in the directory of the pages. -/
theorem PublicFile.stands {page : String} {content : ByteArray} {root names : List String}
    (h : server.PublicFile context page content root names)
    (hbox : ∀ name ∈ context.box.root, IsPlain name)
    (hlinks : Straight context.files (context.box.root ++ root ++ names)) :
    ∃ traits, context.files.get? (context.box.root ++ root ++ names) = some (.file content traits) := by
  obtain ⟨traits, hstat⟩ := h.file
  obtain ⟨-, parent, name, hdestination, -, hget⟩ := stat_eq_file.1 hstat
  have hleads := (SameLinks.refl context.files).leads hdestination
  have hplain : ∀ segment ∈ context.box.root ++ (root ++ names), segment ≠ "." ∧ segment ≠ ".." := by
    intro segment hmem
    obtain hmem | hmem := List.mem_append.1 hmem
    · exact ⟨(hbox segment hmem).ne_dot, (hbox segment hmem).ne_up⟩
    · exact Sandbox.plain_of_resolve h.path segment hmem
  rw [List.append_assoc] at hlinks ⊢
  have hspelt := hleads.eq_append hplain hlinks
  exact ⟨traits, hspelt ▸ hget⟩

/-- A page whose name does not go up is a file for the server exactly if it is one below the
directory of the pages. -/
theorem isFile_page {page : String} (hclimbs : climbs page = false) :
    context.box.isFile context.files (server.decl.publicDir ++ "/" ++ page) = true ↔
      ∃ content root names, server.PublicFile context page content root names := by
  rw [Sandbox.isFile_iff]
  constructor
  · rintro ⟨names, content, traits, hpath, hstat⟩
    obtain ⟨root, hroot, below, rfl⟩ := Sandbox.resolve_below (by simpa [climbs] using hclimbs) hpath
    exact ⟨content, root, below, hroot, hpath,
      fun name hmem => Sandbox.isPlain_of_resolve hpath name (List.mem_append_right _ hmem), traits, hstat⟩
  · rintro ⟨content, root, names, h⟩
    obtain ⟨traits, hstat⟩ := h.file
    exact ⟨_, content, traits, h.path, hstat⟩

/-- Nothing is to be shown for a page: its name goes up, or it is no file. -/
def Missing (server : Server) (context : Context) (page : String) : Prop :=
  climbs page = true ∨ ¬ ∃ content root names, server.PublicFile context page content root names

/-- What can be shown for a page. -/
inductive Shown (server : Server) (context : Context) (page : String) : Response → Prop where
  /-- The page itself. -/
  | page {content : ByteArray} {root names : List String} (hclimbs : climbs page = false)
      (hfile : server.PublicFile context page content root names) :
      Shown server context page
        { status := 200, contentType := some (mediaType (server.decl.publicDir ++ "/" ++ page)),
          body := content }
  /-- The page for what is missing. -/
  | notFound {body : ByteArray} (hmissing : server.Missing context page)
      (hread : context.box.read context.files
        (server.decl.publicDir ++ "/" ++ server.decl.notFound) = .ok body) :
      Shown server context page
        { status := 404,
          contentType := some (mediaType (server.decl.publicDir ++ "/" ++ server.decl.notFound)), body }
  /-- A text, when not even that page can be read. -/
  | nothing (hmissing : server.Missing context page)
      (hread : ∀ body, context.box.read context.files
        (server.decl.publicDir ++ "/" ++ server.decl.notFound) ≠ .ok body) :
      Shown server context page (.ofText 404 "text/plain" "Not Found")

section Show

variable {path page file : String} {status : Nat} (hpage : server.requestedPage path = page)
  (hfile : server.pageFile context page = (file, status))

include hpage hfile

theorem showPage_of_read {body : ByteArray} (hread : context.box.read context.files file = .ok body) :
    server.showPage context path = { status, contentType := some (mediaType file), body } := by
  delta showPage
  simp only [hpage, hfile, hread]

theorem showPage_of_unread {error : HostError}
    (hread : context.box.read context.files file = .error error) :
    server.showPage context path = .ofText 404 "text/plain" "Not Found" := by
  delta showPage
  simp only [hpage, hfile, hread]

end Show

theorem shown_showPage (server : Server) (context : Context) (path : String) :
    server.Shown context (server.requestedPage path) (server.showPage context path) := by
  generalize hpage : server.requestedPage path = page
  by_cases hfound : climbs page = false ∧
      context.box.isFile context.files (server.decl.publicDir ++ "/" ++ page) = true
  · obtain ⟨hclimbs, hfile⟩ := hfound
    have hshow : server.pageFile context page = (server.decl.publicDir ++ "/" ++ page, 200) := by
      rw [pageFile, hclimbs, hfile]
      rfl
    obtain ⟨content, root, names, hpublic⟩ := (isFile_page hclimbs).1 hfile
    have hread := (Sandbox.read_of_resolve hpublic.path).2 (read_eq_ok.2 hpublic.file)
    rw [showPage_of_read hpage hshow hread]
    exact .page hclimbs hpublic
  · have hshow : server.pageFile context page =
        (server.decl.publicDir ++ "/" ++ server.decl.notFound, 404) := by
      rw [pageFile, if_neg]
      simpa using hfound
    have hmissing : server.Missing context page := by
      rcases hclimbs : climbs page with _ | _
      · exact .inr fun hpublic => hfound ⟨hclimbs, (isFile_page hclimbs).2 hpublic⟩
      · exact .inl hclimbs
    cases hread : context.box.read context.files
        (server.decl.publicDir ++ "/" ++ server.decl.notFound) with
    | error error =>
        rw [showPage_of_unread hpage hshow hread]
        exact .nothing hmissing fun body => by rw [hread]; nofun
    | ok body =>
        rw [showPage_of_read hpage hshow hread]
        exact .notFound hmissing hread

/-- The request is for a page. -/
structure IsPageRequest (server : Server) (request : Request) : Prop where
  login : ¬ server.IsLogin request
  registration : ¬ server.IsRegistration request
  api : ApiPath.ofPath? request.path server.decl.apiBase = none

theorem dispatch_page {request : Request} (h : server.IsPageRequest request) :
    server.dispatch context request = server.answer context (server.showPage context request.path) := by
  rw [dispatch_other server context request h.login h.registration, h.api]

/-- **Requests for pages** change nothing.  An answer with status 200 shows a file whose path is
that of the directory of the pages and plain names below it, and if the way to it is straight, the file
stands there.  Any page whose name does not go up and that is such a file is answered so, and everything
else with status 404 and the page for what is missing, or with a text when that page cannot be read. -/
theorem page_request_answered (server : Server) (context : Context) {request : Request}
    (h : server.IsPageRequest request) :
    let page := server.requestedPage request.path
    let missing := server.decl.publicDir ++ "/" ++ server.decl.notFound
    let answer := server.dispatch context request
    answer.server = server ∧ answer.context = context ∧
    (answer.response.status = 200 → ∃ root names,
      server.PublicFile context page answer.response.body root names ∧
      ((∀ name ∈ context.box.root, IsPlain name) →
        Straight context.files (context.box.root ++ root ++ names) →
        ∃ traits, context.files.get? (context.box.root ++ root ++ names) =
          some (.file answer.response.body traits))) ∧
    (¬ server.Missing context page → answer.response.status = 200) ∧
    (server.Missing context page → answer.response.status = 404 ∧
      (context.box.read context.files missing = .ok answer.response.body ∨
        (∀ body, context.box.read context.files missing ≠ .ok body) ∧
          answer.response = .ofText 404 "text/plain" "Not Found")) := by
  intro page missing answer
  have hshown := server.shown_showPage context request.path
  simp only [answer, dispatch_page h]
  refine ⟨rfl, rfl, ?_⟩
  rw [response_answer]
  generalize server.showPage context request.path = response at hshown ⊢
  cases hshown with
  | page hclimbs hfile =>
      refine ⟨fun _ => ⟨_, _, hfile, hfile.stands⟩, fun _ => rfl, fun hmissing => ?_⟩
      obtain hup | hnone := hmissing
      · rw [hclimbs] at hup
        cases hup
      · exact absurd ⟨_, _, _, hfile⟩ hnone
  | notFound hmissing hread =>
      exact ⟨nofun, fun hpresent => absurd hmissing hpresent, fun _ => ⟨rfl, .inl hread⟩⟩
  | nothing hmissing hread =>
      exact ⟨nofun, fun hpresent => absurd hmissing hpresent, fun _ => ⟨rfl, .inr ⟨hread, rfl⟩⟩⟩

/-- A server whose directory of pages is spelt with slashes and dots. -/
def dottedServer : Server := { decl := { publicDir := "/site/./pages//" } }

def dottedContext : Context :=
  { machine := .bare, config := {}, sources := .empty, box := ⟨["shop"]⟩, ids := .ofSeed 0,
    files := ⟨[(["shop"], .directory), (["shop", "secret.txt"], .plain "two".toUTF8),
      (["shop", "site"], .directory), (["shop", "site", "pages"], .directory),
      (["shop", "site", "pages", "s.txt"], .plain "one".toUTF8)]⟩ }

theorem page_request_answered_dotted :
    let shown := dottedServer.dispatch dottedContext { method := "GET", path := "//.//s.txt" }
    let hidden := dottedServer.dispatch dottedContext { method := "GET", path := "/../../secret.txt" }
    shown.response.status = 200 ∧
      (∃ root names traits,
        dottedServer.PublicFile dottedContext ".//s.txt" shown.response.body root names ∧
        dottedContext.files.get? (["shop"] ++ root ++ names) = some (.file shown.response.body traits)) ∧
      hidden.response.status = 404 := by
  intro shown hidden
  obtain ⟨-, -, hshown, -, -⟩ := @page_request_answered dottedServer dottedContext
    { method := "GET", path := "//.//s.txt" } ⟨by decide, by decide, by decide⟩
  obtain ⟨-, -, -, -, hhidden⟩ := @page_request_answered dottedServer dottedContext
    { method := "GET", path := "/../../secret.txt" } ⟨by decide, by decide, by decide⟩
  have hstatus : shown.response.status = 200 := by decide +kernel
  obtain ⟨root, names, hfile, hstands⟩ := hshown hstatus
  have hstraight : ∀ location, Straight dottedContext.files location := by
    intro location above _ path hget
    have hne : above ≠ [] := by
      rintro rfl
      cases hget
    have hmem := mem_entries_of_get? hget hne
    simp [dottedContext, Entry.plain] at hmem
  have hbox : ∀ name ∈ dottedContext.box.root, IsPlain name := by
    intro name hname
    obtain rfl := List.mem_singleton.1 hname
    exact (show IsName "shop" by decide).toIsPlain
  obtain ⟨traits, hget⟩ := hstands hbox (hstraight _)
  exact ⟨hstatus, ⟨root, names, traits, hfile, hget⟩, (hhidden (.inl (by decide))).1⟩

/-- A context where a page is a link to a file elsewhere, and the directory of the pages has no file. -/
def linkedContext : Context :=
  { machine := .bare, config := {}, sources := .empty, box := ⟨["shop"]⟩, ids := .ofSeed 0,
    files := ⟨[(["shop"], .directory), (["shop", "secret.txt"], .plain "two".toUTF8),
      (["shop", "public"], .directory), (["shop", "public", "s.txt"], .link "../secret.txt")]⟩ }

/-- **A link leads out** of the directory of the pages: what is shown stands elsewhere. -/
theorem linked_page_leaves :
    let server : Server := { decl := { publicDir := "public" } }
    let request : Request := { method := "GET", path := "/s.txt" }
    let answer := server.dispatch linkedContext request
    server.IsPageRequest request ∧ answer.response.status = 200 ∧
      answer.response.body = "two".toUTF8 ∧
      linkedContext.files.get? ["shop", "secret.txt"] = some (.plain "two".toUTF8) ∧
      ∀ names content traits,
        linkedContext.files.get? (["shop", "public"] ++ names) ≠ some (.file content traits) := by
  intro server request answer
  refine ⟨⟨by decide, by decide, by decide⟩, by decide +kernel, by decide +kernel, rfl, ?_⟩
  intro names content traits hget
  have hmem := mem_entries_of_get? hget (by simp)
  simp [linkedContext, Entry.plain] at hmem

end Server

end SiteScript.Web
