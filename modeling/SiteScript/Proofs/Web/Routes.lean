import SiteScript.Proofs.Dictionary
import SiteScript.Proofs.Web.Paths

/-!
# SiteScript.Proofs.Web.Routes

Which routes can be requested, and where they are looked up.  The slashes at the end of a route are
dropped when it is declared, and those at both ends of a request's path before one slash is put in
front of it; both have to come to the same text.

1. A route never ends in a slash.  So it can only be asked for if its line goes on after the first
   slash with something else (`Declaration.beginsSegment_of_answers`), and then the path made from
   the line does it (`Declaration.answers_own_line`).  `route_requested_iff` puts both together.
2. A route that ends in the placeholder answers what has one segment more than its collection
   (`placeholder_route_answers_iff`); the request for the root has none and is answered all the same
   (`root_answered_by_placeholder`).
3. The look-ups of the registry, server by server, are look-ups in the history of declarations
   (`registry_is_history`). -/

namespace SiteScript.Web

/-! ## Routes -/

namespace Declaration

variable {name line : String} {config : Block} {declaration : Declaration}

/-- The route of a declaration is its line without the slashes at the end. -/
theorem route_of_ofBlock (h : ofBlock name config = .ok declaration)
    (hline : config.get? "line" = some line) :
    declaration.route.toList = dropSlashes line.toList := by
  rw [ofBlock, hline] at h
  split at h
  next => cases h
  next =>
    cases hmethod : Method.ofText (config.getD "type" "get") with
    | error error => rw [hmethod] at h; cases h
    | ok method =>
        rw [hmethod] at h
        cases h
        exact String.toList_ofList

theorem answers_iff {method : Method} {path : ApiPath} :
    declaration.answers method path = true ↔
      declaration.method = method ∧
        (declaration.route = path.path ∨ declaration.route = path.dynamic) := by
  simp [answers]

section Lines

variable {rest requested base : String} {path : ApiPath} {method : Method}

/-- The path made from the line of a declaration is answered by it if the line goes on after its
slash with something else. -/
theorem answers_own_line (hdeclared : ofBlock name config = .ok declaration)
    (hline : config.get? "line" = some ("/" ++ rest)) (hrest : BeginsSegment rest.toList)
    (hpath : ApiPath.ofPath? (base ++ rest) base = some path) :
    declaration.answers declaration.method path = true := by
  obtain ⟨read, hread, htext⟩ := ApiPath.ofPath?_append base rest
  obtain rfl : read = path := Option.some.inj (hread.symm.trans hpath)
  have hroute : declaration.route = read.path := by
    rw [← String.toList_inj, route_of_ofBlock hdeclared hline, htext, dropWhile_slash hrest,
      String.toList_append]
    exact dropSlashes_append hrest ['/']
  exact answers_iff.2 ⟨rfl, .inl hroute⟩

/-- Nothing but such a line makes a route that can be asked for. -/
theorem beginsSegment_of_answers (hdeclared : ofBlock name config = .ok declaration)
    (hline : config.get? "line" = some ("/" ++ rest))
    (hpath : ApiPath.ofPath? requested base = some path)
    (hanswers : declaration.answers method path = true) : BeginsSegment rest.toList := by
  have hroute := route_of_ofBlock hdeclared hline
  rw [String.toList_append] at hroute
  have hread : ∃ text, declaration.route.toList = '/' :: text ∧ BeginsSegment text := by
    obtain ⟨-, hliteral | hdynamic⟩ := answers_iff.1 hanswers
    · obtain ⟨text, -, htext, hhead, -⟩ := ApiPath.of_ofPath? hpath
      refine ⟨text, hliteral ▸ htext, ?_⟩
      cases text with
      | nil =>
          -- the slash alone would be a slash at the end of the route
          have hlast := getLast?_dropSlashes ("/".toList ++ rest.toList)
          rw [← hroute, hliteral, htext] at hlast
          exact absurd rfl hlast
      | cons c text => exact ⟨c, text, fun hc => hhead (by rw [hc]; rfl), rfl⟩
    · exact hdynamic ▸ ApiPath.dynamic_slash hpath
  obtain ⟨text, htext, hsegment⟩ := hread
  obtain ⟨dropped, hdropped⟩ := dropSlashes_isPrefix ("/".toList ++ rest.toList)
  rw [← hroute, htext, List.cons_append] at hdropped
  have hrest : text ++ dropped = rest.toList := (List.cons.inj hdropped).2
  exact hrest ▸ beginsSegment_append hsegment dropped

end Lines

end Declaration

/-- **Which declared routes can be requested.**  The path made from the line of a declaration is a
path of the interface, whatever the interface's own path is.  The declaration answers it, where it
is the only one of its server, if and only if the line goes on after its first slash with something
that is no slash; and where it does not, the declaration answers no request at all. -/
theorem route_requested_iff {name rest : String} {config : Block} {declaration : Declaration}
    (hdeclared : Declaration.ofBlock name config = .ok declaration)
    (hline : config.get? "line" = some ("/" ++ rest)) :
    (∀ base, ∃ path, ApiPath.ofPath? (base ++ rest) base = some path ∧
        ∀ registry : Registry, registry.forServer declaration.server = [declaration] →
          (registry.find? declaration.server declaration.method path = some declaration ↔
            BeginsSegment rest.toList)) ∧
      ((∃ requested base path method, ApiPath.ofPath? requested base = some path ∧
          declaration.answers method path = true) ↔ BeginsSegment rest.toList) := by
  constructor
  · intro base
    obtain ⟨path, hpath, -⟩ := ApiPath.ofPath?_append base rest
    refine ⟨path, hpath, fun registry honly => ?_⟩
    rw [registry.find?_eq, honly, firstMatch?, List.find?_singleton]
    constructor
    · intro h
      split at h
      next hanswers => exact Declaration.beginsSegment_of_answers hdeclared hline hpath hanswers
      next => cases h
    · intro hrest
      rw [if_pos (Declaration.answers_own_line hdeclared hline hrest hpath)]
  · constructor
    · rintro ⟨requested, base, path, method, hpath, hanswers⟩
      exact Declaration.beginsSegment_of_answers hdeclared hline hpath hanswers
    · intro hrest
      obtain ⟨path, hpath, -⟩ := ApiPath.ofPath?_append "" rest
      exact ⟨_, "", path, _, hpath, Declaration.answers_own_line hdeclared hline hrest hpath⟩

/-- A block of a route of the server `shop`. -/
def routeBlock (line : String) : Block :=
  Dictionary.ofList [("webserverid", "shop"), ("line", line)]

/-- What is declared by such a block. -/
def routeOf (route : String) : Declaration :=
  ⟨"goods", .get, "", route, false, "shop"⟩

/-- A route with a placeholder, written with slashes at its end. -/
theorem route_requested_iff_goods :
    Declaration.ofBlock "goods" (routeBlock "/goods/$ID//") = .ok (routeOf "/goods/$ID") ∧
      BeginsSegment "goods/$ID//".toList ∧
      ∃ path, ApiPath.ofPath? ("/api/" ++ "goods/$ID//") "/api/" = some path ∧
        (Registry.mk [routeOf "/goods/$ID"]).find? "shop" .get path =
          some (routeOf "/goods/$ID") := by
  have hdeclared : Declaration.ofBlock "goods" (routeBlock "/goods/$ID//") =
      .ok (routeOf "/goods/$ID") := rfl
  have hrest : BeginsSegment "goods/$ID//".toList := ⟨'g', _, by decide, rfl⟩
  obtain ⟨path, hpath, hfind⟩ := (route_requested_iff hdeclared
    (show (routeBlock "/goods/$ID//").get? "line" = some ("/" ++ "goods/$ID//") from rfl)).1 "/api/"
  exact ⟨hdeclared, hrest, path, hpath, (hfind ⟨[routeOf "/goods/$ID"]⟩ (by decide)).2 hrest⟩

/-- The declaration of the root is not found by the request for the root: its route is empty, and
the path of the request is a slash. -/
theorem root_unmatched :
    (routeBlock "/").get? "line" = some "/" ∧
      Declaration.ofBlock "goods" (routeBlock "/") = .ok (routeOf "") ∧
      ApiPath.ofPath? ("/api/" ++ "") "/api/" = some ⟨"/", "/$ID", ""⟩ ∧
      firstMatch? [routeOf ""] .get ⟨"/", "/$ID", ""⟩ = none :=
  ⟨rfl, rfl, by decide +kernel, by decide⟩

/-! ## The placeholder -/

/-- A segment of a path: not empty and without a slash. -/
def IsSegment (text : String) : Prop := text ≠ "" ∧ '/' ∉ text.toList

instance (text : String) : Decidable (IsSegment text) := inferInstanceAs (Decidable (_ ∧ _))

/-- The path of a collection: its segments, each after a slash. -/
def collection (segments : List String) : String := String.join (segments.map ("/" ++ ·))

theorem collection_cons (segment : String) (segments : List String) :
    collection (segment :: segments) = "/" ++ segment ++ collection segments := by
  rw [collection, collection, List.map_cons, String.join_cons]

theorem collection_eq_empty_iff {segments : List String} :
    collection segments = "" ↔ segments = [] := by
  cases segments with
  | nil => simp [collection]
  | cons segment segments => simp [collection_cons]

/-- The text of a collection goes on after its first slash with a segment, and ends in one. -/
theorem collection_ends {segments : List String}
    (hsegments : ∀ segment ∈ segments, IsSegment segment) {tail : String}
    (h : collection segments = "/" ++ tail) :
    BeginsSegment tail.toList ∧ tail.toList.getLast? ≠ some '/' := by
  induction segments generalizing tail with
  | nil => simp [collection] at h
  | cons segment segments ih =>
      obtain ⟨⟨hne, hslash⟩, hrest⟩ := List.forall_mem_cons.1 hsegments
      have htail : tail.toList = segment.toList ++ (collection segments).toList := by
        rw [collection_cons, ← String.toList_inj] at h
        simpa using h.symm
      rw [htail]
      constructor
      · refine beginsSegment_append ?_ _
        cases hchars : segment.toList with
        | nil => exact absurd (String.toList_eq_nil_iff.1 hchars) hne
        | cons c rest => exact ⟨c, rest, fun hc => hslash (by simp [hchars, hc]), rfl⟩
      · cases segments with
        | nil =>
            intro hlast
            exact hslash (by simpa [collection] using List.mem_of_getLast? hlast)
        | cons next segments =>
            obtain ⟨rest, hnext⟩ : ∃ rest, collection (next :: segments) = "/" ++ rest :=
              ⟨_, (collection_cons _ _).trans String.append_assoc⟩
            obtain ⟨⟨c, after, -, hrestText⟩, hlast⟩ := ih hrest hnext
            rw [hnext, String.toList_append, hrestText]
            rw [hrestText] at hlast
            simpa using hlast

/-- The request for a collection is read as its path, with or without slashes around it. -/
theorem path_of_collection {segments : List String}
    (hsegments : ∀ segment ∈ segments, IsSegment segment) {base tail before after : String}
    {path : ApiPath} (htail : collection segments = "/" ++ tail)
    (hslashes : ∀ c ∈ (before ++ after).toList, c = '/')
    (hpath : ApiPath.ofPath? (base ++ (before ++ tail ++ after)) base = some path) :
    path.path = collection segments := by
  rw [String.toList_append] at hslashes
  obtain ⟨hbegins, hends⟩ := collection_ends hsegments htail
  rw [ApiPath.ofPath?_slashes (fun c hc => hslashes c (List.mem_append_left _ hc))
    (fun c hc => hslashes c (List.mem_append_right _ hc))] at hpath
  obtain ⟨read, hread, htext⟩ := ApiPath.ofPath?_append base tail
  obtain rfl : read = path := Option.some.inj (hread.symm.trans hpath)
  have hkept : dropSlashes tail.toList = tail.toList :=
    Text.dropEndWhile_eq_self_iff.2 fun c hc => by
      refine beq_eq_false_iff_ne.2 fun hslash => hends ?_
      rw [← hslash]
      exact hc
  rw [← String.toList_inj, htext, dropWhile_slash hbegins, hkept, htail]
  simp

section Placeholder

variable {segments : List String} {requested base : String} {path : ApiPath}
  {declaration : Declaration} {method : Method}
  (hroute : declaration.route = collection segments ++ "/" ++ placeholder)
  (hpath : ApiPath.ofPath? requested base = some path)

include hroute hpath

/-- What a route with the placeholder answers has the collection for its parent. -/
theorem segment_of_answers (h : declaration.answers method path = true) :
    declaration.method = method ∧
      ((∃ segment, IsSegment segment ∧ path.path = collection segments ++ "/" ++ segment) ∨
        (segments = [] ∧ path.path = "/")) := by
  obtain ⟨hmethod, hfits⟩ := Declaration.answers_iff.1 h
  refine ⟨hmethod, ?_⟩
  obtain ⟨text, parent, hpathText, -, hcut, hdynamic, hlast, -⟩ := ApiPath.of_ofPath? hpath
  rcases hfits with hliteral | hdynamicRoute
  · exact .inl ⟨placeholder, by decide, hliteral.symm.trans hroute⟩
  · have hparent : parent = (collection segments).toList := by
      rw [← hdynamicRoute, hroute, String.toList_append, String.toList_append,
        List.append_assoc] at hdynamic
      exact (List.append_cancel_right hdynamic).symm
    have hwhole : path.path = collection segments ++ "/" ++ path.last := by
      rw [← String.toList_inj, hpathText, hcut, hparent]
      simp
    by_cases hempty : path.last = ""
    · -- the path is the slash alone, so nothing stands before it
      have hroot := (ApiPath.last_eq_empty_iff hpath).1 hempty
      rw [hroot, hempty, String.append_empty] at hwhole
      have hlength := congrArg String.length hwhole
      rw [String.length_append] at hlength
      refine .inr ⟨collection_eq_empty_iff.1 ?_, hroot⟩
      exact String.length_eq_zero_iff.1 (by omega)
    · exact .inl ⟨path.last, ⟨hempty, hlast⟩, hwhole⟩

/-- A path that goes on from the collection with one segment is answered. -/
theorem answers_of_segment {segment : String} (hsegment : IsSegment segment)
    (h : path.path = collection segments ++ "/" ++ segment) :
    declaration.answers declaration.method path = true := by
  obtain ⟨text, parent, hpathText, -, hcut, hdynamic, hlast, -⟩ := ApiPath.of_ofPath? hpath
  have hsame : parent ++ '/' :: path.last.toList =
      (collection segments).toList ++ '/' :: segment.toList := by
    rw [← hcut, ← hpathText, h]
    simp
  have hparent : parent = (collection segments).toList := by
    have hparts := Text.cutLast?_append hlast parent
    rw [hsame, Text.cutLast?_append hsegment.2] at hparts
    exact (Prod.mk.inj (Option.some.inj hparts)).1.symm
  refine Declaration.answers_iff.2 ⟨rfl, .inr ?_⟩
  rw [← String.toList_inj, hdynamic, hparent, hroute]
  simp

/-- The root is answered by the route of the placeholder alone. -/
theorem answers_root (hsegments : segments = []) (h : path.path = "/") :
    declaration.answers declaration.method path = true := by
  obtain ⟨text, parent, hpathText, -, hcut, hdynamic, -⟩ := ApiPath.of_ofPath? hpath
  have hcount : parent.length + (path.last.toList.length + 1) = 1 := by
    have hlength := congrArg List.length (hcut.symm.trans (hpathText.symm.trans (congrArg _ h)))
    simpa using hlength
  have hempty : parent = [] := List.length_eq_zero_iff.1 (by omega)
  refine Declaration.answers_iff.2 ⟨rfl, .inr ?_⟩
  rw [← String.toList_inj, hdynamic, hempty, hroute, hsegments]
  rfl

end Placeholder

/-- **Which requests a route with the placeholder answers**: those for its method and a path that
goes on from the collection with exactly one segment; and, where the collection is that of no
segments, the request for the root, which has none.  The request for any other collection is read as
the path of the collection, however many slashes stand around it, and is not answered. -/
theorem placeholder_route_answers_iff {segments : List String}
    (hsegments : ∀ segment ∈ segments, IsSegment segment) {declaration : Declaration}
    (hroute : declaration.route = collection segments ++ "/" ++ placeholder)
    {requested base : String} {path : ApiPath}
    (hpath : ApiPath.ofPath? requested base = some path) (method : Method) :
    (declaration.answers method path = true ↔
      declaration.method = method ∧
        ((∃ segment, IsSegment segment ∧ path.path = collection segments ++ "/" ++ segment) ∨
          (segments = [] ∧ path.path = "/"))) ∧
      ∀ tail before after, collection segments = "/" ++ tail →
        (∀ c ∈ (before ++ after).toList, c = '/') →
        requested = base ++ (before ++ tail ++ after) →
        path.path = collection segments ∧ declaration.answers method path = false := by
  refine ⟨⟨segment_of_answers hroute hpath, ?_⟩, ?_⟩
  · rintro ⟨rfl, ⟨segment, hsegment, hwhole⟩ | ⟨hnone, hroot⟩⟩
    · exact answers_of_segment hroute hpath hsegment hwhole
    · exact answers_root hroute hpath hnone hroot
  · rintro tail before after htail hslashes rfl
    have hcollection := path_of_collection hsegments htail hslashes hpath
    refine ⟨hcollection, Bool.eq_false_iff.2 fun hanswers => ?_⟩
    obtain ⟨-, ⟨segment, -, hwhole⟩ | ⟨rfl, -⟩⟩ := segment_of_answers hroute hpath hanswers
    · have hlength := congrArg String.length (hcollection.symm.trans hwhole)
      simp only [String.length_append] at hlength
      have hslash : "/".length = 1 := rfl
      omega
    · simp [collection] at htail

/-- A collection below a segment that is written like the placeholder. -/
theorem placeholder_route_answers_iff_goods :
    (∀ segment ∈ ["goods", "$ID"], IsSegment segment) ∧
      (routeOf "/goods/$ID/$ID").route = collection ["goods", "$ID"] ++ "/" ++ placeholder ∧
      ApiPath.ofPath? "/api//goods/$ID/42//" "/api/" =
        some ⟨"/goods/$ID/42", "/goods/$ID/$ID", "42"⟩ ∧
      (routeOf "/goods/$ID/$ID").answers .get ⟨"/goods/$ID/42", "/goods/$ID/$ID", "42"⟩ = true := by
  have hsegments : ∀ segment ∈ ["goods", "$ID"], IsSegment segment := by decide
  have hroute : (routeOf "/goods/$ID/$ID").route =
      collection ["goods", "$ID"] ++ "/" ++ placeholder := by decide
  have hpath : ApiPath.ofPath? "/api//goods/$ID/42//" "/api/" =
      some ⟨"/goods/$ID/42", "/goods/$ID/$ID", "42"⟩ := by decide +kernel
  exact ⟨hsegments, hroute, hpath,
    (placeholder_route_answers_iff hsegments hroute hpath .get).1.2
      ⟨rfl, .inl ⟨"42", by decide, by decide⟩⟩⟩

/-- The route that is the placeholder alone answers the request for the root, which names nothing for
the placeholder to stand for. -/
theorem root_answered_by_placeholder :
    (routeOf "/$ID").route = collection [] ++ "/" ++ placeholder ∧
      ApiPath.ofPath? "/api/" "/api/" = some ⟨"/", "/$ID", ""⟩ ∧
      (routeOf "/$ID").answers .get ⟨"/", "/$ID", ""⟩ = true ∧
      ¬ ∃ segment, IsSegment segment ∧ "/" = collection [] ++ "/" ++ segment := by
  refine ⟨by decide, by decide +kernel, by decide, ?_⟩
  rintro ⟨segment, ⟨hne, -⟩, hwhole⟩
  refine hne (String.toList_eq_nil_iff.1 ?_)
  have hchars := congrArg String.toList hwhole
  simpa [collection] using hchars

/-! ## The registry -/

/-- A declaration of the server answers the request. -/
def Declaration.Serves (declaration : Declaration) (server : String) (method : Method)
    (path : ApiPath) : Prop :=
  declaration.server = server ∧ declaration.method = method ∧
    (declaration.route = path.path ∨ declaration.route = path.dynamic)

namespace Registry

/-- The registry after declarations one after another. -/
def ofList (declared : List Declaration) : Registry := declared.foldl register {}

theorem history_ofList (declared : List Declaration) : (ofList declared).history = declared := by
  have hfold : ∀ (declared : List Declaration) (registry : Registry),
      (declared.foldl register registry).history = registry.history ++ declared := by
    intro declared
    induction declared with
    | nil => exact fun registry => (List.append_nil _).symm
    | cons declaration declared ih =>
        intro registry
        rw [List.foldl_cons, ih, register, List.append_assoc, List.singleton_append]
  exact hfold declared {}

/-- One more declaration is put behind those of its server and leaves the others alone. -/
theorem getD_shelve (shelves : Dictionary (List Declaration)) (declaration : Declaration)
    (server : String) :
    (shelve shelves declaration).getD server [] =
      shelves.getD server [] ++ [declaration].filter (·.server == server) := by
  rw [shelve, Dictionary.getD, Dictionary.get?_insert]
  by_cases h : server = declaration.server
  · simp [h]
  · simp [h, Ne.symm h, Dictionary.getD]

/-- What stands under a server after declarations one after another. -/
theorem getD_foldl_shelve (declared : List Declaration) (shelves : Dictionary (List Declaration))
    (server : String) :
    (declared.foldl shelve shelves).getD server [] =
      shelves.getD server [] ++ declared.filter (·.server == server) := by
  induction declared generalizing shelves with
  | nil => exact (List.append_nil _).symm
  | cons declaration declared ih =>
      rw [List.foldl_cons, ih, getD_shelve, List.append_assoc, ← List.filter_append,
        List.singleton_append]

/-- One more declaration is one more on the shelves. -/
theorem total_shelve (shelves : Dictionary (List Declaration)) (declaration : Declaration) :
    (shelve shelves declaration).total List.length = shelves.total List.length + 1 := by
  have htotal := shelves.total_insert List.length declaration.server
    (shelves.getD declaration.server [] ++ [declaration])
  have hold : (shelves.getD declaration.server []).length =
      ((shelves.get? declaration.server).map List.length).getD 0 := by
    rw [Dictionary.getD]
    cases shelves.get? declaration.server <;> rfl
  rw [List.length_append, List.length_singleton, hold] at htotal
  rw [shelve]
  omega

theorem total_foldl_shelve (declared : List Declaration)
    (shelves : Dictionary (List Declaration)) :
    (declared.foldl shelve shelves).total List.length =
      shelves.total List.length + declared.length := by
  induction declared generalizing shelves with
  | nil => rfl
  | cons declaration declared ih =>
      rw [List.foldl_cons, ih, total_shelve, List.length_cons]
      omega

variable (registry : Registry)

/-- The declarations of a server are those of the history, in its order. -/
theorem forServer_eq (server : String) :
    registry.forServer server = registry.history.filter (·.server == server) :=
  getD_foldl_shelve registry.history .empty server

/-- As many declarations are counted as were made. -/
theorem size_eq : registry.size = registry.history.length :=
  (total_foldl_shelve registry.history .empty).trans (Nat.zero_add _)

/-- A declaration is seen by its own server, behind the earlier ones. -/
theorem forServer_register (declaration : Declaration) (server : String) :
    (registry.register declaration).forServer server =
      registry.forServer server ++ [declaration].filter (·.server == server) := by
  rw [forServer, byServer_register, getD_shelve, forServer]

variable {registry} {server : String} {method : Method} {path : ApiPath} {found : Declaration}

/-- What is found is the earliest declaration of the history that serves the request. -/
theorem find?_eq_some_iff :
    registry.find? server method path = some found ↔
      ∃ before after, registry.history = before ++ found :: after ∧
        found.Serves server method path ∧
        ∀ earlier ∈ before, ¬ earlier.Serves server method path := by
  have hserves : ∀ declaration : Declaration,
      (declaration.server == server && declaration.answers method path) = true ↔
        declaration.Serves server method path := by
    intro declaration
    rw [Bool.and_eq_true, beq_iff_eq, Declaration.answers_iff, Declaration.Serves]
  have hfind : registry.find? server method path = registry.history.find? fun declaration =>
      declaration.server == server && declaration.answers method path := by
    simp only [find?_eq, firstMatch?, forServer_eq, List.find?_filter, Bool.decide_and,
      Bool.decide_eq_true]
  rw [hfind, List.find?_eq_some_iff_append, hserves]
  simp only [← hserves, Bool.not_eq_true, Bool.not_eq_eq_eq_not, Bool.not_true]
  exact ⟨fun ⟨hfits, before, after, hhistory, hearlier⟩ => ⟨before, after, hhistory, hfits, hearlier⟩,
    fun ⟨before, after, hhistory, hfits, hearlier⟩ => ⟨hfits, before, after, hhistory, hearlier⟩⟩

/-- What is found was declared, and serves the request. -/
theorem serves_of_find? (h : registry.find? server method path = some found) :
    found ∈ registry.history ∧ found.Serves server method path := by
  obtain ⟨before, after, hhistory, hserves, -⟩ := find?_eq_some_iff.1 h
  exact ⟨by simp [hhistory], hserves⟩

end Registry

/-- **The registry is the history of declarations.**  After declarations for whatever servers, one
after another, the declarations of a server are those of the history that name it, in its order; a
look-up gives the earliest one of the history that names the server and fits the method and the path,
as a look-up among the declarations of the server does; as many are counted as were made; and a
further declaration for another server changes nothing of this. -/
theorem registry_is_history (declared : List Declaration) (server : String) :
    (Registry.ofList declared).forServer server = declared.filter (·.server == server) ∧
      (∀ method path,
        (∀ found, (Registry.ofList declared).find? server method path = some found ↔
          ∃ before after, declared = before ++ found :: after ∧
            found.Serves server method path ∧
            ∀ earlier ∈ before, ¬ earlier.Serves server method path) ∧
        (Registry.ofList declared).find? server method path =
          firstMatch? ((Registry.ofList declared).forServer server) method path) ∧
      (Registry.ofList declared).size = declared.length ∧
      ∀ declaration, declaration.server ≠ server →
        ((Registry.ofList declared).register declaration).forServer server =
          (Registry.ofList declared).forServer server ∧
        ∀ method path, ((Registry.ofList declared).register declaration).find? server method path =
          (Registry.ofList declared).find? server method path := by
  refine ⟨?_, fun method path => ⟨fun found => ?_, Registry.find?_eq _ _ _ _⟩, ?_, ?_⟩
  · rw [Registry.forServer_eq, Registry.history_ofList]
  · rw [Registry.find?_eq_some_iff, Registry.history_ofList]
  · rw [Registry.size_eq, Registry.history_ofList]
  · intro declaration hother
    have hsame : ((Registry.ofList declared).register declaration).forServer server =
        (Registry.ofList declared).forServer server := by
      simp [Registry.forServer_register, hother]
    exact ⟨hsame, fun method path => by rw [Registry.find?_eq, Registry.find?_eq, hsame]⟩

/-- A declaration for one server between two for another: the later of these is not found where the
earlier fits. -/
theorem registry_is_history_shop :
    { routeOf "/goods/$ID" with server := "forum" }.server ≠ "shop" ∧
      ((Registry.ofList [routeOf "/goods/$ID", routeOf "/goods/42"]).register
        { routeOf "/goods/$ID" with server := "forum" }).find? "shop" .get
          ⟨"/goods/42", "/goods/$ID", "42"⟩ = some (routeOf "/goods/$ID") := by
  have hother : { routeOf "/goods/$ID" with server := "forum" }.server ≠ "shop" := by decide
  obtain ⟨-, hfind, -, hframe⟩ :=
    registry_is_history [routeOf "/goods/$ID", routeOf "/goods/42"] "shop"
  refine ⟨hother, ((hframe _ hother).2 _ _).trans (((hfind _ _).1 _).2 ⟨[], [_], rfl, ?_, nofun⟩)⟩
  exact ⟨rfl, rfl, .inr rfl⟩

end SiteScript.Web
