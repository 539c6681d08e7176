import SiteScript.Proofs.Web.Routes
import SiteScript.Proofs.Web.Status

/-!
# SiteScript.Proofs.Web.Binding

Declarations and servers find each other by name.  A server is started under the value of the name in
its block, and a declaration is kept under the name as it is written.

1. What the two actions come to when their blocks are in order, and that their order does not matter
   for the declarations and the servers (`afterBoth_eq`).
2. So a declaration and a server that are given the same name belong together if and only if
   substitution leaves the name as it is, and then the requests for the declaration get to it
   (`bound_by_name_iff`).  Two that are given the same reference to a variable miss each other
   (`reference_not_bound`). -/

namespace SiteScript

open Web

/-! ## Blocks -/

/-- A server has the name that its block gives it. -/
theorem Web.ServerDecl.id_of_ofBlock {path name : String} {config : Block} {decl : ServerDecl}
    (h : ofBlock path config = .ok decl) (hname : config.get? "id" = some name) (hne : name ≠ "") :
    decl.id = name := by
  have hgiven : given? config "id" = some name := by
    simp [given?, hname, hne]
  simp only [ofBlock, bind, Except.bind] at h
  split at h
  next => cases h
  split at h
  next => cases h
  split at h
  next => cases h
  cases h
  simp [hgiven]

/-- A block with a server, a route and a method makes a declaration, for that server and method. -/
theorem Web.Declaration.exists_ofBlock {server line : String} {config : Block} {method : Method}
    (name : String) (hserver : config.get? "webserverid" = some server) (hne : server ≠ "")
    (hline : config.get? "line" = some line)
    (hmethod : Method.ofText (config.getD "type" "get") = .ok method) :
    ∃ declaration, ofBlock name config = .ok declaration ∧ declaration.server = server ∧
      declaration.method = method := by
  have hgiven : (config.get? "webserverid").filter (!·.isEmpty) = some server := by
    simp [hserver, hne]
  simp only [ofBlock, hgiven, hline, hmethod, Except.map]
  exact ⟨_, rfl, rfl, rfl⟩

/-! ## Requests -/

/-- A request for a declaration: by its method, and for a path of the web interface that it answers
and no declaration of the server that was there before it. -/
structure Web.Server.RequestFor (server : Server) (before : Registry) (declaration : Declaration)
    (request : Request) : Prop where
  login : ¬ server.IsLogin request
  registration : ¬ server.IsRegistration request
  method : Method.ofText request.method = .ok declaration.method
  path : ∃ path, ApiPath.ofPath? request.path server.decl.apiBase = some path ∧
    declaration.answers declaration.method path = true ∧
    ∀ earlier ∈ before.forServer server.decl.id, earlier.answers declaration.method path = false

/-- A new declaration is found for what it answers and none before it does, by its own server only. -/
theorem Web.Registry.find?_register_iff {registry : Registry} {server : String} {method : Method}
    {path : ApiPath} {declaration : Declaration}
    (hearlier : ∀ earlier ∈ registry.forServer server, earlier.answers method path = false)
    (hanswers : declaration.answers method path = true) :
    (registry.register declaration).find? server method path = some declaration ↔
      declaration.server = server := by
  refine ⟨fun h => (serves_of_find? h).2.1, fun hserver => ?_⟩
  have hbehind : (registry.register declaration).forServer server =
      registry.forServer server ++ [declaration] := by
    simp [forServer_register, hserver]
  rw [find?_eq, hbehind, firstMatch?, List.find?_append,
    List.find?_eq_none.2 fun earlier hmem => by simp [hearlier earlier hmem]]
  simp [hanswers]

/-- A request for a declaration that was added is matched to it by its own server only. -/
theorem Web.Server.RequestFor.matched?_iff {server : Server} {context last : Context}
    {declaration : Declaration} {request : Request}
    (h : server.RequestFor context.apis declaration request)
    (hlast : last.apis = context.apis.register declaration) :
    server.matched? last request = some declaration ↔ declaration.server = server.decl.id := by
  obtain ⟨path, hpath, hanswers, hearlier⟩ := h.path
  have hmatched : server.matched? last request =
      (context.apis.register declaration).find? server.decl.id declaration.method path := by
    rw [matched?, if_neg (not_or.2 ⟨h.login, h.registration⟩), hpath, Option.bind_some,
      declaration?, h.method, hlast]
  rw [hmatched, Registry.find?_register_iff hearlier hanswers]

namespace Context

/-! ## The two actions -/

variable {context last : Context} {declare start : Action} {name path : String} {api web : Block}
  {declaration : Declaration} {decl : ServerDecl}

theorem perform_declareApi (h : Declaration.ofBlock name api = .ok declaration) (depth : Nat) :
    context.perform (.declareApi name api) depth =
      { context with apis := context.apis.register declaration } := by
  rw [perform, performWith, execute, declareApi, h]

theorem perform_startWeb
    (h : ServerDecl.ofBlock (context.substitute path) (context.bindings.substituteBlock web) =
      .ok decl) (depth : Nat) :
    context.perform (.startWeb path web) depth = context.startServer decl := by
  simp only [perform, performWith, execute, startWeb, h]

/-- The state after two actions, one after the other in either order. -/
def AfterBoth (context : Context) (first second : Action) (last : Context) : Prop :=
  ∃ depth depth', last = (context.perform first depth).perform second depth' ∨
    last = (context.perform second depth').perform first depth

/-- A server that has its listener is one of those that run. -/
theorem running_startServer (context : Context) {decl : ServerDecl} {address : String}
    (h : context.binding decl.host decl.port = .bound address) :
    ∃ server ∈ Site.servers (context.startServer decl), server.decl = decl := by
  rw [(Site.servers_startServer context decl).1, Site.added, h]
  exact ⟨_, List.mem_append_right _ (List.mem_singleton_self _), rfl⟩

/-- What a declaration and a start come to, in either order. -/
theorem afterBoth_eq (hdeclared : Declaration.ofBlock name api = .ok declaration)
    (hstarted : ServerDecl.ofBlock (context.substitute path)
      (context.bindings.substituteBlock web) = .ok decl)
    (h : AfterBoth context (.declareApi name api) (.startWeb path web) last) :
    last.apis = context.apis.register declaration ∧
      last.servers =
        context.servers.insert decl.id (.ofBinding (context.binding decl.host decl.port)) ∧
      ∀ address, context.binding decl.host decl.port = .bound address →
        ∃ server ∈ Site.servers last, server.decl = decl := by
  obtain ⟨depth, depth', rfl | rfl⟩ := h
  · rw [perform_declareApi hdeclared, perform_startWeb (by exact hstarted)]
    exact ⟨(outward_startServer _ decl).apis, table_startServer _ decl,
      fun _ => running_startServer { context with apis := context.apis.register declaration }⟩
  · rw [perform_startWeb hstarted, perform_declareApi hdeclared]
    refine ⟨?_, context.table_startServer decl, fun _ => context.running_startServer⟩
    rw [(context.outward_startServer decl).apis]

/-- **Bound by name.**  A declaration and a server whose blocks give them the same name: the server
is started under the value of the name, and is marked as what becomes of its listener; if it has one,
it runs.  Whatever became of it, the declaration belongs to the server, so that the requests for the
declaration get to it, if and only if the value is the name itself.  Which of the two comes first does
not matter. -/
theorem bound_by_name_iff {text line : String} {method : Method}
    (hserver : api.get? "webserverid" = some text) (hline : api.get? "line" = some line)
    (hmethod : Method.ofText (api.getD "type" "get") = .ok method)
    (hid : web.get? "id" = some text) (hvalue : context.substitute text ≠ "")
    (hstarted : ServerDecl.ofBlock (context.substitute path)
      (context.bindings.substituteBlock web) = .ok decl)
    (hlast : AfterBoth context (.declareApi name api) (.startWeb path web) last) :
    decl.id = context.substitute text ∧
      last.servers.get? decl.id = some (.ofBinding (context.binding decl.host decl.port)) ∧
      (∀ address, context.binding decl.host decl.port = .bound address →
        ∃ server ∈ Site.servers last, server.decl = decl) ∧
      ∃ declaration, Declaration.ofBlock name api = .ok declaration ∧
        (declaration ∈ last.apis.forServer decl.id ↔ context.substitute text = text) ∧
        ∀ (server : Server) (request : Request), server.decl = decl →
          server.RequestFor context.apis declaration request →
          (server.matched? last request = some declaration ↔ context.substitute text = text) := by
  have htext : text ≠ "" := by
    rintro rfl
    exact hvalue rfl
  have hname : (context.bindings.substituteBlock web).get? "id" = some (context.substitute text) := by
    rw [Variables.substituteBlock, Dictionary.get?_mapValues, hid]
    rfl
  have hdecl := ServerDecl.id_of_ofBlock hstarted hname hvalue
  obtain ⟨declaration, hdeclared, hbelongs, -⟩ :=
    Declaration.exists_ofBlock name hserver htext hline hmethod
  obtain ⟨hapis, htable, hrunning⟩ := afterBoth_eq hdeclared hstarted hlast
  have hsame : declaration.server = decl.id ↔ context.substitute text = text := by
    rw [hbelongs, hdecl, eq_comm]
  refine ⟨hdecl, ?_, hrunning, declaration, hdeclared, ?_, ?_⟩
  · rw [htable, Dictionary.get?_insert, if_pos rfl]
  · rw [hapis, Registry.forServer_eq, Registry.register, List.mem_filter, beq_iff_eq, hsame]
    simp
  · rintro server request rfl hrequest
    rw [hrequest.matched?_iff hapis, hsame]

/-- The block of a route for a server of this name. -/
def goodsBlock (server : String) : Block := .ofList [("webserverid", server), ("line", "/goods")]

/-- The block of a server of this name on this machine. -/
def namedBlock (id : String) : Block := .ofList [("id", id), ("host", "127.0.0.1")]

/-- A run with a variable. -/
def shopRun (value : String) : Context := (emptyRun .bare).setVariable "SHOP" value

/-- A declaration and a server of one name, the declaration made first. -/
def declaredFirst (context : Context) (text : String) : Context :=
  (context.perform (.declareApi "goods" (goodsBlock text)) 0).perform
    (.startWeb "public" (namedBlock text)) 0

/-- A declaration and a server of one name, the server started first. -/
def startedFirst (context : Context) (text : String) : Context :=
  (context.perform (.startWeb "public" (namedBlock text)) 0).perform
    (.declareApi "goods" (goodsBlock text)) 0

/-- A name that is a reference to a variable, which has that reference for a value. -/
theorem bound_by_name_iff_reference :
    (shopRun "$SHOP").substitute "$SHOP" = "$SHOP" ∧
      (∃ server ∈ Site.servers (startedFirst (shopRun "$SHOP") "$SHOP"), server.decl.id = "$SHOP") ∧
      ∃ declaration, Declaration.ofBlock "goods" (goodsBlock "$SHOP") = .ok declaration ∧
        declaration ∈ (startedFirst (shopRun "$SHOP") "$SHOP").apis.forServer "$SHOP" := by
  have hvalue : (shopRun "$SHOP").substitute "$SHOP" = "$SHOP" := by decide +kernel
  have hne : (shopRun "$SHOP").substitute "$SHOP" ≠ "" := by decide +kernel
  have hserver : (goodsBlock "$SHOP").get? "webserverid" = some "$SHOP" := by decide +kernel
  have hline : (goodsBlock "$SHOP").get? "line" = some "/goods" := by decide +kernel
  have hmethod : Method.ofText ((goodsBlock "$SHOP").getD "type" "get") = .ok .get := rfl
  have hid : (namedBlock "$SHOP").get? "id" = some "$SHOP" := by decide +kernel
  have hstarted : ServerDecl.ofBlock ((shopRun "$SHOP").substitute "public")
      ((shopRun "$SHOP").bindings.substituteBlock (namedBlock "$SHOP")) =
      .ok { id := "$SHOP", host := "127.0.0.1" } := rfl
  have hbound : (shopRun "$SHOP").binding "127.0.0.1" 8080 = .bound "127.0.0.1:8080" := by
    decide +kernel
  obtain ⟨-, -, hruns, declaration, hdeclared, hmem, -⟩ :=
    bound_by_name_iff hserver hline hmethod hid hne hstarted ⟨0, 0, .inr rfl⟩
  obtain ⟨server, hserver, hdecl⟩ := hruns _ hbound
  exact ⟨hvalue, ⟨server, hserver, by rw [hdecl]⟩, declaration, hdeclared, hmem.2 hvalue⟩

/-- A declaration and a server that are given the same reference to a variable: the server is started
under the value, and the declaration is not one of its own. -/
theorem reference_not_bound :
    (shopRun "shop").substitute "$SHOP" = "shop" ∧
      (declaredFirst (shopRun "shop") "$SHOP").servers.get? "shop" =
        some (.listening "127.0.0.1:8080") ∧
      (declaredFirst (shopRun "shop") "$SHOP").apis.forServer "shop" = [] ∧
      (startedFirst (shopRun "shop") "$SHOP").servers.get? "shop" =
        some (.listening "127.0.0.1:8080") ∧
      (startedFirst (shopRun "shop") "$SHOP").apis.forServer "shop" = [] := by
  decide +kernel

end Context

end SiteScript
