import Mathlib.Data.List.Nodup
import SiteScript.Proofs.Text
import SiteScript.Proofs.Web.AuthGate

/-!
# SiteScript.Proofs.Web.Cookies

From a `Cookie` header to the session behind it.

1. What a part of a header says about a cookie is told by its first equals sign (`cookie?_eq_some_iff`):
   that the whole part is trimmed before it is cut makes no difference.
2. A store that began empty holds the sessions that were opened, each under the token that was handed
   out for it (`get?_createAll`).
3. So a header leads to a session exactly when the last part for the session cookie has a token of the
   session for its value (`cookie_finds_session`), and the cookie that hands a token over, sent back
   with whatever other cookies before it, leads to the session of the token.
-/

namespace SiteScript.Web

open Text

/-! ## Parts of a header -/

/-- A part of a header gives a cookie a value: what stands before its first equals sign is the name and
what stands behind it is the value, both with blanks around them, the value in any number of quotes. -/
inductive Gives : List Char → String → String → Prop where
  | intro {before : List Char} (hbefore : '=' ∉ before) (after : List Char) :
      Gives (before ++ '=' :: after) (String.ofList (trim before))
        (String.ofList (dropQuotes (trim after)))

/-- Trimming a part before it is cut makes no difference: its first equals sign is no blank. -/
theorem cookie?_append {before : List Char} (h : '=' ∉ before) (after : List Char) :
    cookie? (before ++ '=' :: after) =
      some (String.ofList (trim before), String.ofList (dropQuotes (trim after))) := by
  have hstart : '=' ∉ trimStart before := fun hmem => h ((List.dropWhile_suffix _).subset hmem)
  rw [cookie?, trim_append_cons rfl, cut?_append hstart]
  simp only [Option.map_some, trim_trimStart, trim_trimEnd]

theorem cookie?_eq_some_iff {part : List Char} {name value : String} :
    cookie? part = some (name, value) ↔ Gives part name value := by
  constructor
  · intro h
    obtain ⟨⟨before, after⟩, hcut, -⟩ := Option.map_eq_some_iff.1 h
    have hmem : '=' ∈ part := (mem_trim_iff rfl).1 (by simp [eq_of_cut? hcut])
    obtain ⟨before, after, rfl, hbefore⟩ := List.eq_append_cons_of_mem hmem
    rw [cookie?_append hbefore] at h
    cases h
    exact .intro hbefore after
  · rintro ⟨hbefore, after⟩
    exact cookie?_append hbefore after

/-- A header gives a cookie a value when the last of its parts for that cookie does. -/
def LastGives (header name value : String) : Prop :=
  ∃ before part after, split ';' header.toList = before ++ part :: after ∧ Gives part name value ∧
    ∀ later ∈ after, ∀ other, ¬ Gives later name other

theorem hasCookie_iff {header name value : String} :
    HasCookie header name value ↔ LastGives header name value := by
  simp only [HasCookie, LastGives, ne_eq, cookie?_eq_some_iff]

/-! ## Sessions that were opened -/

namespace Sessions

/-- Open sessions one after another.  The tokens that are handed out come first, each with its
session. -/
def createAll (sessions : Sessions) (supply : IdSupply) :
    List Session → List (String × Session) × Sessions × IdSupply
  | [] => ([], sessions, supply)
  | session :: rest =>
    let (token, sessions, supply) := sessions.create session supply
    let (minted, sessions, supply) := createAll sessions supply rest
    ((token, session) :: minted, sessions, supply)

variable {sessions : Sessions} {supply : IdSupply}

theorem createAll_cons (session : Session) (rest : List Session) :
    sessions.createAll supply (session :: rest) =
      let (token, next, supply') := sessions.create session supply
      let (minted, last, supply'') := next.createAll supply' rest
      ((token, session) :: minted, last, supply'') := rfl

/-- Opening sessions keeps how cookies are made, and puts what was handed out into the store. -/
theorem createAll_sessions (created : List Session) :
    (sessions.createAll supply created).2.1 =
      { sessions with
        byToken := (sessions.createAll supply created).1.foldl
          (fun store (token, session) => store.insert token session) sessions.byToken } := by
  induction created generalizing sessions supply with
  | nil => rfl
  | cons session rest ih =>
    rw [createAll_cons]
    exact ih

/-- A store that began empty has a session under a token when the session was opened and the token
handed out for it. -/
theorem get?_createAll (config : SessionConfig) (created : List Session)
    (hdistinct : ((Sessions.createAll { config } supply created).1.map Prod.fst).Nodup)
    {token : String} {session : Session} :
    (Sessions.createAll { config } supply created).2.1.get? token = some session ↔
      (token, session) ∈ (Sessions.createAll { config } supply created).1 := by
  rw [createAll_sessions, get?]
  refine Dictionary.get?_ofList_of_unique fun key value other hvalue hother => ?_
  have hsame := List.inj_on_of_nodup_map hdistinct hother hvalue rfl
  exact congrArg Prod.snd hsame

end Sessions

/-! ## Cookies that hand tokens over -/

/-- A name that a cookie can be sent under. -/
structure IsCookieName (name : String) : Prop where
  nonempty : name ≠ ""
  trimmed : trim name.toList = name.toList
  noEquals : '=' ∉ name.toList
  noSemicolon : ';' ∉ name.toList

/-- A token that stands in a header as it is: it has no semicolons, quotes and blanks. -/
def IsToken (token : String) : Prop :=
  ∀ c ∈ token.toList, c ≠ ';' ∧ c ≠ '"' ∧ isBlank c = false

theorem IsToken.append {a b : String} (ha : IsToken a) (hb : IsToken b) : IsToken (a ++ b) := by
  intro c hc
  rw [String.toList_append, List.mem_append] at hc
  exact hc.elim (ha c) (hb c)

/-- The characters of an identifier that is drawn. -/
theorem mem_digits {count n : Nat} {c : Char} (h : c ∈ (IdSupply.digits count n).toList) :
    ∃ k < 16, c = Nat.digitChar k := by
  rw [IdSupply.digits, String.toList_ofList] at h
  obtain ⟨i, -, rfl⟩ := List.mem_map.1 h
  exact ⟨_, Nat.mod_lt _ (by decide), rfl⟩

/-- An identifier that is drawn is a token. -/
theorem isToken_uuid (seed n : Nat) : IsToken (IdSupply.uuid seed n) := by
  have hdigit : ∀ k < 16, Nat.digitChar k ≠ ';' ∧ Nat.digitChar k ≠ '"' ∧
      isBlank (Nat.digitChar k) = false := by decide
  have hgroup : ∀ count k, IsToken (IdSupply.digits count k) := by
    intro count k c hc
    obtain ⟨d, hd, rfl⟩ := mem_digits hc
    exact hdigit d hd
  have hmark : IsToken "-" ∧ IsToken "-4" ∧ IsToken "-8" := by
    simp [IsToken, isBlank]
  simp only [IdSupply.uuid]
  exact ((((((((hgroup _ _).append hmark.1).append (hgroup _ _)).append hmark.2.1).append
    (hgroup _ _)).append hmark.2.2).append (hgroup _ _)).append hmark.1).append (hgroup _ _)

/-- The text of a cookie begins with the name and the token, up to its first semicolon. -/
theorem split_cookieText {sessions : Sessions} (hname : IsCookieName sessions.config.cookieName)
    {token : String} (htoken : IsToken token) :
    ∃ attributes, split ';' (sessions.cookieText token).toList =
      (sessions.config.cookieName.toList ++ '=' :: token.toList) :: attributes := by
  have hfirst : ';' ∉ sessions.config.cookieName.toList ++ '=' :: token.toList := by
    intro hmem
    rcases List.mem_append.1 hmem with hmem | hmem
    · exact hname.noSemicolon hmem
    · rcases List.mem_cons.1 hmem with heq | hmem
      · exact absurd heq (by decide)
      · exact (htoken _ hmem).1 rfl
  obtain ⟨attributes, htext⟩ : ∃ attributes, (sessions.cookieText token).toList =
      (sessions.config.cookieName.toList ++ '=' :: token.toList) ++ ';' :: attributes := by
    rw [Sessions.cookieText]
    cases sessions.config.httpOnly <;> simp
  rw [htext, split_append_sep, split_eq_singleton hfirst]
  exact ⟨_, rfl⟩

/-- The name and the token, with blanks around them, give the cookie the token. -/
theorem gives_token {name token : String} (hname : IsCookieName name) (htoken : IsToken token)
    {part : List Char} (h : trim part = trim (name.toList ++ '=' :: token.toList)) :
    Gives part name token := by
  have htrim : trim token.toList = token.toList := trim_eq_self fun c hc => (htoken c hc).2.2
  have hplain : ∀ c ∈ token.toList, (c == '"') = false := fun c hc => by simpa using (htoken c hc).2.1
  have hquotes : dropQuotes token.toList = token.toList := by
    rw [dropQuotes, dropWhile_eq_self_iff.2 fun c hc => hplain c (List.mem_of_mem_head? hc),
      dropEndWhile_eq_self_iff.2 fun c hc => hplain c (List.mem_of_getLast? hc)]
  have hsame : cookie? part = cookie? (name.toList ++ '=' :: token.toList) := by
    rw [cookie?, cookie?, h]
  rw [← cookie?_eq_some_iff, hsame, cookie?_append hname.noEquals, hname.trimmed, htrim, hquotes,
    String.ofList_toList, String.ofList_toList]

/-! ## From a header to a session -/

/-- **A cookie leads to its session, and nothing else does.**  A store that began empty and sessions
that were opened in it under different tokens: a header leads to a session when the last of its parts
that is written for the session cookie has for its value a token that was handed out for the session,
and to no session otherwise.  The text that hands a token over begins with a part that, sent back
alone or with other cookies and blanks around it, none of the later ones of the same name, leads to the
session of the token. -/
theorem cookie_finds_session (config : SessionConfig) (supply : IdSupply) (created : List Session)
    (hname : IsCookieName config.cookieName)
    (hdistinct : ((Sessions.createAll { config } supply created).1.map Prod.fst).Nodup) :
    let minted := (Sessions.createAll { config } supply created).1
    let sessions := (Sessions.createAll { config } supply created).2.1
    (∀ header session, sessions.ofHeader? header = some session ↔
      ∃ token, LastGives header config.cookieName token ∧ (token, session) ∈ minted) ∧
    (∀ header, sessions.ofHeader? header = none ↔
      ∀ token session, LastGives header config.cookieName token → (token, session) ∉ minted) ∧
    ∀ token session, (token, session) ∈ minted → IsToken token →
      ∃ first attributes, split ';' (sessions.cookieText token).toList = first :: attributes ∧
        sessions.ofHeader? (String.ofList first) = some session ∧
        ∀ header before part after, split ';' header.toList = before ++ part :: after →
          trim part = trim first →
          (∀ later ∈ after, ∀ value, ¬ Gives later config.cookieName value) →
          sessions.ofHeader? header = some session := by
  intro minted sessions
  have hconfig : sessions.config = config := by
    rw [show sessions = _ from Sessions.createAll_sessions created]
  have hfound : ∀ header session, sessions.ofHeader? header = some session ↔
      ∃ token, LastGives header config.cookieName token ∧ (token, session) ∈ minted := by
    intro header session
    rw [ofHeader?_eq_some, hconfig]
    simp only [hasCookie_iff, sessions, Sessions.get?_createAll config created hdistinct, minted]
  refine ⟨hfound, fun header => ?_, fun token session hminted htoken => ?_⟩
  · simp only [Option.eq_none_iff_forall_ne_some, ne_eq, hfound, not_exists, not_and]
    exact forall_comm
  · obtain ⟨attributes, hfirst⟩ := split_cookieText (hconfig ▸ hname) htoken
    rw [hconfig] at hfirst
    have hback : ∀ header before part after, split ';' header.toList = before ++ part :: after →
        trim part = trim (config.cookieName.toList ++ '=' :: token.toList) →
        (∀ later ∈ after, ∀ value, ¬ Gives later config.cookieName value) →
        sessions.ofHeader? header = some session := by
      intro header before part after hsplit hpart hlater
      exact (hfound header session).2
        ⟨token, ⟨before, part, after, hsplit, gives_token hname htoken hpart, hlater⟩, hminted⟩
    refine ⟨_, attributes, hfirst, hback _ [] _ [] ?_ rfl nofun, hback⟩
    rw [String.toList_ofList, List.nil_append]
    exact split_eq_singleton (not_mem_of_mem_split (hfirst ▸ List.mem_cons_self))

/-- Two sessions, one after the other. -/
def pairCreated : List Session := [⟨"1", "ada"⟩, ⟨"2", "bob"⟩]

/-- Of two parts for the session cookie the later one counts, blanks and quotes or not; the part that
was handed over counts among others. -/
theorem cookie_finds_session_pair :
    let opened := Sessions.createAll {} (.ofSeed 7) pairCreated
    IsCookieName "sessionId" ∧ (opened.1.map Prod.fst).Nodup ∧
    opened.2.1.ofHeader? ("sessionId=00000007-0000-4000-8000-000000000001; theme=dark;" ++
      " sessionId = \"00000007-0000-4000-8000-000000000000\" ") = some ⟨"1", "ada"⟩ ∧
    opened.2.1.ofHeader? "theme=dark; sessionId=00000007-0000-4000-8000-000000000001; lang=en" =
      some ⟨"2", "bob"⟩ := by
  intro opened
  have hname : IsCookieName "sessionId" := ⟨by decide, by decide, by decide, by decide⟩
  have hdistinct : (opened.1.map Prod.fst).Nodup := by decide +kernel
  obtain ⟨hfound, -, hback⟩ := cookie_finds_session {} (.ofSeed 7) pairCreated hname hdistinct
  refine ⟨hname, hdistinct, (hfound _ _).2 ⟨IdSupply.uuid 7 0, ?_, List.mem_cons_self⟩, ?_⟩
  · refine ⟨["sessionId=00000007-0000-4000-8000-000000000001".toList, " theme=dark".toList],
      " sessionId = \"00000007-0000-4000-8000-000000000000\" ".toList, [], by decide +kernel, ?_, nofun⟩
    exact cookie?_eq_some_iff.1 (by decide +kernel)
  · obtain ⟨first, attributes, hfirst, -, hreturned⟩ :=
      hback (IdSupply.uuid 7 1) ⟨"2", "bob"⟩ (List.mem_cons_of_mem _ List.mem_cons_self)
        (isToken_uuid 7 1)
    have hhead := congrArg List.head? hfirst
    obtain rfl : "sessionId=00000007-0000-4000-8000-000000000001".toList = first :=
      Option.some.inj (Eq.trans (by decide +kernel) hhead)
    refine hreturned _ ["theme=dark".toList]
      " sessionId=00000007-0000-4000-8000-000000000001".toList [" lang=en".toList]
      (by decide +kernel) (by decide +kernel) ?_
    intro later hlater value hgives
    obtain rfl := List.mem_singleton.1 hlater
    have hlang : cookie? " lang=en".toList = some ("lang", "en") := by decide +kernel
    rw [cookie?_eq_some_iff.2 hgives] at hlang
    have hnames : some "sessionId" = some "lang" := congrArg (Option.map Prod.fst) hlang
    exact absurd hnames (by decide)

end SiteScript.Web
