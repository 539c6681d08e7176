import SiteScript.Proofs.HiddenFile
import SiteScript.Proofs.Sandbox
import SiteScript.Proofs.Web.Frame
import SiteScript.Proofs.Web.Dispatch

/-!
# SiteScript.Proofs.Web.Secrecy

What clients who are not logged in cannot learn.  Two runs of a server begin with file systems that differ
in the content of one file, and get the same requests, none of which belongs to a session.  If no path
that such requests can reach leads to the file, links followed, both give the same answers and end in
states that differ in the content of that file again (`hidden_file_stays_secret`).

1. `Exposed` says which paths such requests can reach: pages, the page for what is missing, the accounts
   and the data of declarations that are open to all.
2. One request is answered alike (`alike_dispatch`), so a sequence of them is (`Alike.requests`).
3. A page may be a link, and then it shows what it leads to, wherever that stands. -/

namespace SiteScript.Web

open FileSystem

/-! ## Two runs -/

/-- Two states of a run that differ in nothing but their file systems, and there in what a hidden file
holds. -/
inductive Alike (hidden : Location → Prop) (context : Context) : Context → Prop where
  | intro {files : FileSystem} (h : AlikeBut hidden context.files files) :
      Alike hidden context { context with files }

namespace Alike

variable {hidden : Location → Prop} {a b : Context}

theorem eq (h : Alike hidden a b) : b = { a with files := b.files } := by
  cases h
  rfl

theorem files (h : Alike hidden a b) : AlikeBut hidden a.files b.files := by
  cases h with
  | intro h => exact h

end Alike

/-- Two answers that cannot be told apart, and leave states that differ in what a hidden file holds. -/
structure Answer.Alike (hidden : Location → Prop) (x y : Answer) : Prop where
  response : y.response = x.response
  server : y.server = x.server
  context : Web.Alike hidden x.context y.context

section Files

variable {hidden : Location → Prop} {first a b : FileSystem} {box : Sandbox} {path : String}
  (h : AlikeBut hidden a b) (hlinks : SameLinks first a)
  (hconceals : ∀ names, Sandbox.resolve path = .ok names → box.Conceals hidden first names)

include h hlinks hconceals

namespace DataFile

theorem readAll_alike : readAll box b path = readAll box a path := by
  rw [readAll, readAll, box.isFile_alike h, box.readText_alike h hlinks hconceals]

theorem append_alike (record : Record) (author : Option String) :
    (append box b path record author).1 = (append box a path record author).1 ∧
      AlikeBut hidden (append box a path record author).2 (append box b path record author).2 := by
  rw [append, append, readAll_alike h hlinks hconceals]
  split
  · exact ⟨rfl, h⟩
  next records _ =>
  obtain ⟨hresult, hfiles⟩ := box.writeFile_alike h hlinks hconceals
    (text (records ++ [.object (stamp record (nextId records) author)])).toUTF8
  dsimp only
  generalize box.writeFile a path _ = changea, box.writeFile b path _ = changeb at hresult hfiles ⊢
  obtain ⟨resulta, a'⟩ := changea
  obtain ⟨resultb, b'⟩ := changeb
  cases hresult
  cases resulta <;> exact ⟨rfl, hfiles⟩

end DataFile

end Files

namespace Server

/-- The paths that the requests of clients who are not logged in can reach. -/
inductive Exposed (server : Server) (context : Context) (names : List String) : Prop where
  /-- What is at or below the directory of the pages. -/
  | page {path : String} {root : List String} (hpath : Sandbox.resolve path = .ok names)
      (hroot : Sandbox.resolve server.decl.publicDir = .ok root) (hbelow : root <+: names)
  | notFound
      (hpath : Sandbox.resolve (server.decl.publicDir ++ "/" ++ server.decl.notFound) = .ok names)
  | accounts (hpath : Sandbox.resolve Accounts.fileName = .ok names)
  /-- The data of a declaration that asks nobody to be logged in. -/
  | data {declaration : Declaration} (hdeclared : declaration ∈ context.apis.history)
      (hserver : declaration.server = server.decl.id) (hauth : declaration.auth = false)
      (hpath : Sandbox.resolve (context.substitute declaration.data) = .ok names)

section Requests

variable {hidden : Location → Prop} {first files : FileSystem} {server : Server} {context : Context}
  {request : Request} (h : AlikeBut hidden context.files files)
  (hlinks : SameLinks first context.files)

/-- An answer that does not depend on the files. -/
theorem alike_answer {hidden : Location → Prop} {files : FileSystem} {server : Server}
    {context : Context} (h : AlikeBut hidden context.files files) (response : Response) :
    Answer.Alike hidden (server.answer context response)
      (server.answer { context with files } response) :=
  ⟨rfl, rfl, .intro h⟩

include h in
theorem alike_login (body : Bytes) :
    Answer.Alike hidden (server.login context body) (server.login { context with files } body) := by
  rw [login, login]
  split
  · split
    · exact ⟨rfl, rfl, .intro h⟩
    · exact alike_answer h _
  · exact alike_answer h _

include h hlinks in
theorem alike_addAccount (hconceals : ∀ names, Sandbox.resolve Accounts.fileName = .ok names →
      context.box.Conceals hidden first names) (username password : String) :
    Answer.Alike hidden (server.addAccount context username password)
      (server.addAccount { context with files } username password) := by
  rw [addAccount_eq, addAccount_eq]
  dsimp only
  obtain ⟨hresult, hfiles⟩ := context.box.writeFile_alike h hlinks hconceals
    (server.accounts.add username password context.ids).1.text.toUTF8
  rw [Accounts.save, Accounts.save]
  generalize context.box.writeFile context.files Accounts.fileName _ = changea,
    context.box.writeFile files Accounts.fileName _ = changeb at hresult hfiles ⊢
  obtain ⟨resulta, a⟩ := changea
  obtain ⟨resultb, b⟩ := changeb
  cases hresult
  cases resulta <;> exact ⟨rfl, rfl, .intro hfiles⟩

include h hlinks in
theorem alike_register (hconceals : ∀ names, Sandbox.resolve Accounts.fileName = .ok names →
      context.box.Conceals hidden first names) (body : Bytes) :
    Answer.Alike hidden (server.register context body)
      (server.register { context with files } body) := by
  rw [register, register]
  generalize credentials body = form
  obtain ⟨username, password⟩ := form
  dsimp only
  by_cases htaken : (username.any server.accounts.contains) = true
  · rw [if_pos htaken, if_pos htaken]
    exact alike_answer h _
  rw [if_neg htaken, if_neg htaken]
  split
  · exact alike_addAccount h hlinks hconceals _ _
  · exact alike_answer h _

include h hlinks in
theorem alike_useDeclaration {declaration : Declaration}
    (hconceals : ∀ names, Sandbox.resolve (context.substitute declaration.data) = .ok names →
      context.box.Conceals hidden first names)
    (author : Option String) (path : ApiPath) (body : Bytes) :
    Answer.Alike hidden (server.useDeclaration context declaration author path body)
      (server.useDeclaration { context with files } declaration author path body) := by
  have hdata : ({ context with files } : Context).substitute declaration.data =
      context.substitute declaration.data := rfl
  have hread : ∀ path, readData { context with files } (context.substitute declaration.data) path =
      readData context (context.substitute declaration.data) path := by
    intro path
    simp only [readData, DataFile.find, DataFile.readAll_alike h hlinks hconceals]
  simp only [useDeclaration, hdata]
  split
  · rw [hread]
    exact alike_answer h _
  · simp only [addRecord]
    split
    · exact alike_answer h _
    next record _ =>
      obtain ⟨hresult, hfiles⟩ := DataFile.append_alike h hlinks hconceals record author
      generalize DataFile.append context.box context.files _ record author = appendeda,
        DataFile.append context.box files _ record author = appendedb at hresult hfiles ⊢
      obtain ⟨resulta, a⟩ := appendeda
      obtain ⟨resultb, b⟩ := appendedb
      cases hresult
      cases resulta <;> exact ⟨rfl, rfl, .intro hfiles⟩
  · exact alike_answer h _

/-- What a declaration is looked up among. -/
theorem declared_of_declaration? {method : String} {path : ApiPath} {declaration : Declaration}
    (hfound : server.declaration? context method path = some declaration) :
    declaration ∈ context.apis.history ∧ declaration.server = server.decl.id := by
  rw [declaration?] at hfound
  split at hfound
  next method _ =>
    obtain ⟨hdeclared, hserver, -⟩ := Registry.serves_of_find? hfound
    exact ⟨hdeclared, hserver⟩
  next => cases hfound

/-- What is shown for a page is at or below the directory of the pages, or for what is missing. -/
theorem exposed_pageFile {page : String} {names : List String}
    (hpath : Sandbox.resolve (server.pageFile context page).1 = .ok names) :
    server.Exposed context names := by
  rw [pageFile] at hpath
  split at hpath
  next hpage =>
    have hclimbs : ['.', '.'] ∉ Text.split '/' page.toList := by
      simpa [climbs] using (Bool.and_eq_true_iff.1 hpage).1
    obtain ⟨root, hroot, hbelow⟩ := Sandbox.resolve_below hclimbs hpath
    exact .page hpath hroot hbelow
  next => exact .notFound hpath

variable (hapart : ∀ names, server.Exposed context names → context.box.Conceals hidden first names)

include h hlinks hapart

theorem showPage_alike (path : String) :
    server.showPage { context with files } path = server.showPage context path := by
  have hfile : ∀ page, server.pageFile { context with files } page = server.pageFile context page := by
    intro page
    simp only [pageFile, Sandbox.isFile_alike h]
  have hread := context.box.read_alike h hlinks fun names
      (hpath : Sandbox.resolve (server.pageFile context (server.requestedPage path)).1 = .ok names) =>
    hapart names (exposed_pageFile hpath)
  delta showPage
  rw [hfile]
  generalize server.pageFile context (server.requestedPage path) = page at hread ⊢
  obtain ⟨file, status⟩ := page
  dsimp only at hread ⊢
  rw [hread]

/-- A request that belongs to no session gets into no declaration but those that are open to all. -/
theorem alike_handleApi (hanonymous : server.session? request = none) (path : ApiPath) :
    Answer.Alike hidden (server.handleApi context path request)
      (server.handleApi { context with files } path request) := by
  have hfind : server.declaration? { context with files } request.method path =
      server.declaration? context request.method path := rfl
  rw [handleApi, handleApi, hfind]
  split
  · exact alike_answer h _
  next declaration hfound =>
  obtain ⟨hdeclared, hserver⟩ := declared_of_declaration? hfound
  rw [author]
  cases hauth : declaration.auth with
  | true =>
      rw [if_pos rfl, hanonymous]
      exact alike_answer h _
  | false =>
      rw [if_neg (by simp)]
      exact alike_useDeclaration h hlinks
        (fun names hpath => hapart names (.data hdeclared hserver hauth hpath)) _ _ _

/-- **One request** that belongs to no session is answered alike. -/
theorem alike_dispatch (hanonymous : server.session? request = none) :
    Answer.Alike hidden (server.dispatch context request)
      (server.dispatch { context with files } request) := by
  rw [dispatch, dispatch]
  split
  · exact alike_login h _
  split
  · exact alike_register h hlinks (fun names hpath => hapart names (.accounts hpath)) _
  split
  · exact alike_handleApi h hlinks hapart hanonymous _
  · rw [showPage_alike h hlinks hapart]
    exact alike_answer h _

end Requests

/-- What requests can reach is the same after a request. -/
theorem Frame.exposed {server : Server} {context : Context} {request : Request} {answer : Answer}
    (h : server.Frame context request answer) {names : List String} :
    answer.server.Exposed answer.context names → server.Exposed context names := by
  have hdecl : answer.server.decl = server.decl := (congrArg Server.decl h.settings).trans rfl
  have hapis : answer.context.apis = context.apis := (congrArg Context.apis h.run).trans rfl
  have hbindings : answer.context.bindings = context.bindings :=
    (congrArg Context.bindings h.run).trans rfl
  intro hexposed
  cases hexposed with
  | page hpath hroot hbelow => exact .page hpath (hdecl ▸ hroot) hbelow
  | notFound hpath => exact .notFound (hdecl ▸ hpath)
  | accounts hpath => exact .accounts hpath
  | data hdeclared hserver hauth hpath =>
      rw [Context.substitute, hbindings] at hpath
      exact .data (hapis ▸ hdeclared) (hdecl ▸ hserver) hauth hpath

/-- A request makes no links and takes none away. -/
theorem Frame.sameLinks {server : Server} {context : Context} {request : Request} {answer : Answer}
    (h : server.Frame context request answer) :
    SameLinks context.files answer.context.files := by
  obtain hsame | ⟨_, names, -, -, htouches⟩ := h.files
  · exact hsame.symm ▸ .refl _
  · exact htouches.sameLinks

/-- What can be reached is told by plain names. -/
theorem Exposed.plain {server : Server} {context : Context} {names : List String}
    (h : server.Exposed context names) : ∀ name ∈ names, name ≠ "." ∧ name ≠ ".." := by
  cases h with
  | page hpath | notFound hpath | accounts hpath | data _ _ _ hpath =>
      exact Sandbox.plain_of_resolve hpath

end Server

/-! ## Sequences of requests -/

namespace Serving

/-- The answers to requests, one after another. -/
def responses : Serving → List Request → List Response
  | _, [] => []
  | state, request :: rest =>
    (state.answer request).response :: (state.step (.request request)).responses rest

/-- None of the requests, one after another, belongs to a session of its time. -/
def Anonymous : Serving → List Request → Prop
  | _, [] => True
  | state, request :: rest =>
    state.server.session? request = none ∧ (state.step (.request request)).Anonymous rest

/-- Two servers at work that differ in nothing but the file systems, and there in what a hidden file
holds. -/
structure Alike (hidden : Location → Prop) (state state' : Serving) : Prop where
  server : state'.server = state.server
  context : Web.Alike hidden state.context state'.context

/-- Requests that belong to no session are answered alike, one after another. -/
theorem Alike.requests {hidden : Location → Prop} {first : FileSystem} {state state' : Serving}
    (h : Alike hidden state state') (hlinks : SameLinks first state.context.files)
    (hapart : ∀ names, state.server.Exposed state.context names →
      state.context.box.Conceals hidden first names)
    {requests : List Request} (hanonymous : state.Anonymous requests) :
    state'.responses requests = state.responses requests ∧
      Alike hidden (state.run (requests.map .request)) (state'.run (requests.map .request)) := by
  induction requests generalizing state state' with
  | nil => exact ⟨rfl, h⟩
  | cons request rest ih =>
      obtain ⟨server, context⟩ := state
      obtain ⟨server', context'⟩ := state'
      obtain ⟨hserver, hcontext⟩ := h
      cases hserver
      obtain ⟨halike⟩ := hcontext
      obtain ⟨hnone, hrest⟩ := hanonymous
      have hanswer := server.alike_dispatch halike hlinks hapart hnone
      have hframe := (server.dispatch_outcome context request).frame
      have hbox : (server.dispatch context request).context.box = context.box :=
        (congrArg Context.box hframe.run).trans rfl
      have hnext : Alike hidden (step ⟨server, context⟩ (.request request))
          (step ⟨server, _⟩ (.request request)) := ⟨hanswer.server, hanswer.context⟩
      obtain ⟨hresponses, hlast⟩ := ih hnext (hlinks.trans hframe.sameLinks)
        (fun names hexposed => hbox ▸ hapart names (hframe.exposed hexposed)) hrest
      exact ⟨List.cons_eq_cons.2 ⟨hanswer.response, hresponses⟩, hlast⟩

/-- **A hidden file stays secret**: two servers at work that differ in nothing but what one file holds
answer any requests alike, as long as none of them belongs to a session, and differ in nothing else
afterwards.  The file, under all its names, stands where no path leads that such requests can reach,
links followed. -/
theorem hidden_file_stays_secret (server : Server) (context : Context) (files : FileSystem)
    (file : Location) (hdiffer : DifferIn (context.files.IsNameOf file) context.files files)
    (hapart : ∀ names, server.Exposed context names → ∀ name, context.files.IsNameOf file name →
      ¬ context.files.Leads [] (context.box.root ++ names) name)
    (requests : List Request) (hanonymous : Anonymous ⟨server, context⟩ requests) :
    let first : Serving := ⟨server, context⟩
    let second : Serving := ⟨server, { context with files }⟩
    let last := first.run (requests.map .request)
    let last' := second.run (requests.map .request)
    second.responses requests = first.responses requests ∧
      last'.server = last.server ∧
      last'.context = { last.context with files := last'.context.files } ∧
      DifferIn (context.files.IsNameOf file) last.context.files last'.context.files := by
  intro first second last last'
  have halike : Alike (context.files.IsNameOf file) first second := ⟨rfl, .intro hdiffer.alikeBut⟩
  obtain ⟨hresponses, hserver, hcontext⟩ := halike.requests (.refl _) hapart hanonymous
  exact ⟨hresponses, hserver, hcontext.eq, hcontext.files.toDifferIn⟩

/-! ### A file beside the pages -/

/-- A workspace with one page and a file beside the pages. -/
def workspace (page : Entry) (secret : String) : FileSystem :=
  (⟨[(["public"], .directory), (["public", "s.txt"], page)]⟩ : FileSystem).put ["secret.txt"]
    (.plain secret.toUTF8)

def siteServer : Server := { decl := {} }

def siteContext (page : Entry) (secret : String) : Context :=
  { machine := .bare, config := {}, sources := .empty, box := ⟨[]⟩
    files := workspace page secret, ids := .ofSeed 0 }

def pageRequest : Request := { method := "GET", path := "/s.txt" }

def secretRequest : Request := { method := "GET", path := "/secret.txt" }

section Site

variable (page : Entry) (secret other : String)

theorem get?_workspace (location : Location) : (workspace page secret).get? location =
    if location = ["secret.txt"] then some (.plain secret.toUTF8)
    else FileSystem.get? ⟨[(["public"], .directory), (["public", "s.txt"], page)]⟩ location :=
  get?_put _ _ _ (by simp)

theorem isNameOf_workspace {name : Location} :
    (workspace page secret).IsNameOf ["secret.txt"] name ↔ name = ["secret.txt"] := by
  have hone : areOneFile ((workspace page secret).get? ["secret.txt"])
      ((workspace page secret).get? name) = false := by
    rw [get?_workspace, if_pos rfl]
    rfl
  simp [IsNameOf, hone]

theorem differIn_workspace : DifferIn ((workspace page secret).IsNameOf ["secret.txt"])
    (workspace page secret) (workspace page other) where
  same := by
    intro location hlocation
    rw [isNameOf_workspace] at hlocation
    rw [get?_workspace, get?_workspace, if_neg hlocation, if_neg hlocation]
  files := by
    intro location hlocation
    rw [isNameOf_workspace] at hlocation
    refine ⟨secret.toUTF8, other.toUTF8, {}, ?_, ?_⟩
    all_goals
      rw [get?_workspace, if_pos hlocation]
      rfl

/-- The file is not at or below the directory of the pages, nor the page for what is missing, nor the
accounts, nor the data of a declaration. -/
theorem not_exposed_secret : ¬ siteServer.Exposed (siteContext page secret) ["secret.txt"] := by
  intro hexposed
  cases hexposed with
  | page _ hroot hbelow =>
      have hpublic : Sandbox.resolve siteServer.decl.publicDir = .ok ["public"] := rfl
      rw [hpublic] at hroot
      cases hroot
      simp at hbelow
  | notFound hpath =>
      have hmissing : Sandbox.resolve (siteServer.decl.publicDir ++ "/" ++ siteServer.decl.notFound) =
        .ok ["public", "404.html"] := rfl
      rw [hmissing] at hpath
      simp at hpath
  | accounts hpath =>
      have haccounts : Sandbox.resolve Accounts.fileName = .ok ["users.json"] := rfl
      rw [haccounts] at hpath
      simp at hpath
  | data hdeclared => exact absurd hdeclared List.not_mem_nil

end Site

/-- A page that is a file: the other file is asked for in vain. -/
theorem hidden_file_stays_secret_page :
    let page : Entry := .plain "a page".toUTF8
    let first : Serving := ⟨siteServer, siteContext page "one"⟩
    let second : Serving := ⟨siteServer, siteContext page "two"⟩
    second.responses [pageRequest, secretRequest] = first.responses [pageRequest, secretRequest] ∧
      (first.responses [pageRequest, secretRequest]).map Response.status = [200, 404] := by
  intro page first second
  have hlinks : ∀ location path, (workspace page "one").get? location ≠ some (.link path) := by
    intro location path
    rw [get?_workspace]
    split
    · nofun
    · match location with
      | [] => nofun
      | name :: rest =>
          intro hget
          obtain ⟨before, after, heq, -⟩ := List.lookup_eq_some_iff.1 hget
          have hmem : (name :: rest, Entry.link path) ∈ before ++ (name :: rest, .link path) :: after :=
            by simp
          rw [← heq] at hmem
          simp [page, Entry.plain] at hmem
  refine ⟨(hidden_file_stays_secret siteServer (siteContext page "one") (workspace page "two")
    ["secret.txt"] (differIn_workspace page "one" "two") ?_ [pageRequest, secretRequest] ?_).1, ?_⟩
  · intro names hexposed name hname hleads
    have hsecret : name = ["secret.txt"] := (isNameOf_workspace page "one").1 hname
    have hnames : name = names := eq_of_leads hlinks hexposed.plain hleads
    exact not_exposed_secret page "one" (hsecret ▸ hnames ▸ hexposed)
  · exact ⟨rfl, rfl, trivial⟩
  · decide +kernel

/-- A page that is a link shows what it leads to, wherever that stands: the file is not a path that can be
reached, and what it holds is the answer. -/
theorem linked_page_shown :
    let page : Entry := .link "../secret.txt"
    let first : Serving := ⟨siteServer, siteContext page "one"⟩
    let second : Serving := ⟨siteServer, siteContext page "two"⟩
    DifferIn (first.context.files.IsNameOf ["secret.txt"]) first.context.files
        second.context.files ∧
      (∀ names, siteServer.Exposed first.context names →
        ¬ first.context.files.IsNameOf ["secret.txt"] (first.context.box.root ++ names)) ∧
      first.Anonymous [pageRequest] ∧
      second.responses [pageRequest] ≠ first.responses [pageRequest] := by
  intro page first second
  refine ⟨differIn_workspace page "one" "two", ?_, ⟨rfl, trivial⟩, ?_⟩
  · intro names hexposed hname
    have hsecret : names = ["secret.txt"] := (isNameOf_workspace page "one").1 hname
    exact not_exposed_secret page "one" (hsecret ▸ hexposed)
  · intro hsame
    have hbodies := congrArg (List.map fun response => response.body.data.toList) hsame
    revert hbodies
    decide +kernel

end Serving

end SiteScript.Web
