import SiteScript.Proofs.Json.Numerals
import SiteScript.Proofs.Percent
import SiteScript.Proofs.Text
import SiteScript.Url.Basic

/-!
# SiteScript.Proofs.Url

The text of an address and its parts.

1. A text is cut at its separators (`cutText?`), and the text of an address whose parts have no
   separators of their own is cut into these parts (`cutText?_text`).
2. An address that is read from a plain name and a port has these two for its server, and nothing else
   but the root for its path (`readRest_plain`).
3. A segment that is added below the root comes back from the path, unless it is one or two dots or has
   characters that do not count (`exists_push`).
-/

namespace SiteScript.Url

open Text Text.Percent

/-! ## Plain characters -/

/-- A letter, a digit, a hyphen or a dot. -/
def isPlain (c : Char) : Bool := c.isAlphanum || c == '-' || c == '.'

/-- A character that ends one of the parts before the path. -/
def separates (c : Char) : Bool := endsAuthority c || c == '@' || c == ':'

theorem isPlain_of_isDigit {c : Char} (h : c.isDigit = true) : isPlain c = true := by
  simp [isPlain, Char.isAlphanum, h]

theorem lt_of_isPlain {c : Char} (h : isPlain c = true) : c.toNat < 0x80 := by
  have hletter : c.isAlphanum =
      ((decide (c.val ≥ 'A'.val ∧ c.val ≤ 'Z'.val) ||
          (decide (c.val ≥ 'a'.val) && decide (c.val ≤ 'z'.val))) ||
        (decide (c.val ≥ '0'.val) && decide (c.val ≤ '9'.val))) := rfl
  simp only [isPlain, hletter, Bool.or_eq_true, Bool.and_eq_true, decide_eq_true_eq,
    beq_iff_eq] at h
  rcases h with (h | rfl) | rfl
  · simp only [ge_iff_le, UInt32.le_iff_toNat_le, Char.toNat_val, Char.reduceToNat] at h
    omega
  · decide
  · decide

/-- A plain character has no other meaning anywhere. -/
theorem not_separates_of_isPlain {c : Char} (h : isPlain c = true) :
    hostRefused c = false ∧ isControl c = false ∧ separates c = false ∧ ignored c = false ∧
      c ≠ '[' ∧ c ≠ ']' := by
  have hascii : ∀ k < 0x80, isPlain (Char.ofNat k) = true →
      hostRefused (Char.ofNat k) = false ∧ isControl (Char.ofNat k) = false ∧
        separates (Char.ofNat k) = false ∧ ignored (Char.ofNat k) = false ∧
        Char.ofNat k ≠ '[' ∧ Char.ofNat k ≠ ']' := by
    decide +kernel
  have hc := hascii c.toNat (lt_of_isPlain h)
  rw [Char.ofNat_toNat] at hc
  exact hc h

theorem separates_eq_false {c : Char} (h : separates c = false) :
    endsAuthority c = false ∧ c ≠ '@' ∧ c ≠ ':' := by
  simpa [separates, and_assoc] using h

/-! ## Cutting a text -/

/-- The parts of an address, as they stand in its text. -/
structure Cut where
  scheme : List Char
  username : List Char
  password : Option (List Char)
  server : List Char
  /-- The path, with whatever follows it. -/
  path : List Char
deriving DecidableEq

/-- Cut the credentials off, at the last at sign, and the name off them, at the first colon. -/
def cutAuthority (authority : List Char) : List Char × Option (List Char) × List Char :=
  match cutLast? '@' authority with
  | none => ([], none, authority)
  | some (credentials, server) =>
    match cut? ':' credentials with
    | none => (credentials, none, server)
    | some (username, password) => (username, some password, server)

/-- Cut a text at the separators of an address.  The scheme ends at a colon and two slashes, and what
stands between these and the path ends at the next slash, question mark or number sign. -/
def cutText? (text : List Char) : Option Cut :=
  match cut? ':' text with
  | some (scheme, '/' :: '/' :: rest) =>
    let authority := takeUntil endsAuthority rest
    let (username, password, server) := cutAuthority authority
    some ⟨scheme, username, password, server, rest.drop authority.length⟩
  | _ => none

/-- The text of a port. -/
def portText (port : Option Nat) : List Char :=
  (port.map fun port => ':' :: Decimal.ofNat port).getD []

/-- An address whose parts have no separators of their own. -/
structure Clear (url : Url) : Prop where
  scheme : ':' ∉ url.scheme
  username : ∀ c ∈ url.username, separates c = false
  password : ∀ password ∈ url.password, ∀ c ∈ password, separates c = false
  host : ∀ c ∈ url.host, separates c = false
  path : ∃ segments, url.path = '/' :: segments
  query : url.query = none
  fragment : url.fragment = none

/-- What stands before the path. -/
def authority (url : Url) : List Char := url.credentials ++ (url.host ++ portText url.port)

section Cutting

variable {url : Url} (h : url.Clear)
include h

theorem Clear.text_eq :
    url.text.toList = url.scheme ++ ':' :: '/' :: '/' :: (url.authority ++ url.path) := by
  rw [text, String.toList_ofList, h.query, h.fragment]
  simp [authority, portText]

/-- Nothing in the server ends it or the credentials. -/
theorem Clear.server {c : Char} (hc : c ∈ url.host ++ portText url.port) :
    endsAuthority c = false ∧ c ≠ '@' := by
  rcases List.mem_append.1 hc with hc | hc
  · have hplain := separates_eq_false (h.host c hc)
    exact ⟨hplain.1, hplain.2.1⟩
  · cases hport : url.port with
    | none =>
      rw [hport] at hc
      cases hc
    | some port =>
      rw [hport] at hc
      rcases List.mem_cons.1 hc with rfl | hc
      · exact ⟨rfl, by decide⟩
      · have hdigit := isPlain_of_isDigit (Decimal.isDigit_of_mem_ofNat hc)
        have hplain := separates_eq_false (not_separates_of_isPlain hdigit).2.2.1
        exact ⟨hplain.1, hplain.2.1⟩

theorem Clear.endsAuthority {c : Char} (hc : c ∈ url.authority) : endsAuthority c = false := by
  rcases List.mem_append.1 hc with hc | hc
  · rw [credentials] at hc
    cases hpassword : url.password with
    | none =>
      rw [hpassword] at hc
      simp only at hc
      split at hc
      · cases hc
      · rcases List.mem_append.1 hc with hc | hc
        · exact (separates_eq_false (h.username c hc)).1
        · obtain rfl := List.mem_singleton.1 hc
          rfl
    | some password =>
      rw [hpassword] at hc
      simp only [List.mem_append, List.mem_cons, List.not_mem_nil, or_false] at hc
      rcases hc with hc | rfl | hc | rfl
      · exact (separates_eq_false (h.username c hc)).1
      · rfl
      · exact (separates_eq_false (h.password password hpassword c hc)).1
      · rfl
  · exact (h.server hc).1

theorem Clear.cutAuthority :
    cutAuthority url.authority = (url.username, url.password, url.host ++ portText url.port) := by
  have hserver : '@' ∉ url.host ++ portText url.port := fun hmem => (h.server hmem).2 rfl
  have hname : ':' ∉ url.username := fun hmem => (separates_eq_false (h.username _ hmem)).2.2 rfl
  rw [authority, credentials]
  cases hpassword : url.password with
  | some password =>
    have hsplit : url.username ++ ':' :: (password ++ ['@']) ++ (url.host ++ portText url.port) =
        (url.username ++ ':' :: password) ++ '@' :: (url.host ++ portText url.port) := by
      simp
    simp only [hsplit, Url.cutAuthority, cutLast?_append hserver, cut?_append hname]
  | none =>
    cases hempty : url.username with
    | nil => simp [Url.cutAuthority, cutLast?_eq_none hserver]
    | cons c rest =>
      have hsplit : url.username ++ ['@'] ++ (url.host ++ portText url.port) =
          url.username ++ '@' :: (url.host ++ portText url.port) := by
        simp
      rw [← hempty, if_neg (by simp [hempty]), hsplit]
      simp only [Url.cutAuthority, cutLast?_append hserver, cut?_eq_none hname]

/-- The text of an address is cut into its parts. -/
theorem cutText?_text :
    cutText? url.text.toList =
      some ⟨url.scheme, url.username, url.password, url.host ++ portText url.port, url.path⟩ := by
  obtain ⟨segments, hpath⟩ := h.path
  have hstop : takeUntil endsAuthority (url.authority ++ url.path) = url.authority := by
    rw [takeUntil_append fun c => h.endsAuthority, hpath]
    simp [takeUntil, endsAuthority]
  rw [cutText?, h.text_eq, cut?_append h.scheme]
  simp only [hstop, h.cutAuthority, List.drop_left]

end Cutting

/-! ## Plain servers -/

/-- A plain name ends where a colon follows it, or nothing. -/
theorem cutHost_plain {name rest : List Char} (hname : ∀ c ∈ name, isPlain c = true)
    (hrest : ∀ c ∈ rest.head?, c = ':') : cutHost false (name ++ rest) = (name, rest) := by
  induction name with
  | nil =>
    match rest with
    | [] => rfl
    | c :: rest =>
      obtain rfl : c = ':' := hrest c rfl
      rfl
  | cons c name ih =>
    obtain ⟨hc, hplain⟩ := List.forall_mem_cons.1 hname
    obtain ⟨-, -, hseparates, -, hopen, hclose⟩ := not_separates_of_isPlain hc
    have hcolon := (separates_eq_false hseparates).2.2
    rw [List.cons_append, cutHost, if_neg (by simp [hcolon])]
    simp [hopen, hclose, ih hplain]

/-- The name of a server, of plain characters, and the digits of its port. -/
structure PlainServer where
  name : List Char
  port : Option (List Char)
  name_ne_nil : name ≠ []
  isPlain_name : ∀ c ∈ name, isPlain c = true
  port_ne_nil : ∀ digits ∈ port, digits ≠ []
  isDigit_port : ∀ digits ∈ port, ∀ c ∈ digits, c.isDigit = true

namespace PlainServer

/-- The digits of the port, after a colon. -/
def portPart (server : PlainServer) : List Char := (server.port.map (':' :: ·)).getD []

/-- The server as it is written. -/
def text (server : PlainServer) : List Char := server.name ++ server.portPart

/-- The number of the port. -/
def portNumber (server : PlainServer) : Option Nat := server.port.map Decimal.value

/-- The port has no more than 16 bits. -/
def Fits (server : PlainServer) : Prop :=
  ∀ port ∈ server.portNumber, port ≤ Word.maxUnsigned 16

instance (server : PlainServer) : Decidable server.Fits :=
  inferInstanceAs (Decidable (∀ port ∈ server.portNumber, _))

/-- The parts of an address that has a server and nothing else. -/
def address (server : PlainServer) (scheme : List Char) : Url :=
  { scheme, host := server.name, port := server.portNumber, path := ['/'] }

variable (server : PlainServer)

theorem mem_text {c : Char} (h : c ∈ server.text) : isPlain c = true ∨ c = ':' := by
  rcases List.mem_append.1 h with h | h
  · exact .inl (server.isPlain_name c h)
  · obtain ⟨part, hpart, hc⟩ : ∃ digits, server.port = some digits ∧ c ∈ ':' :: digits := by
      rw [portPart] at h
      cases hport : server.port with
      | none =>
        rw [hport] at h
        cases h
      | some digits =>
        rw [hport] at h
        exact ⟨digits, rfl, h⟩
    rcases List.mem_cons.1 hc with rfl | hc
    · exact .inr rfl
    · exact .inl (isPlain_of_isDigit (server.isDigit_port part hpart c hc))

/-- Nothing in a server is skipped, and nothing ends it or the credentials. -/
theorem mem_text_eq_false {c : Char} (h : c ∈ server.text) :
    ignored c = false ∧ endsAuthority c = false ∧ c ≠ '@' := by
  rcases server.mem_text h with hplain | rfl
  · obtain ⟨-, -, hseparates, hignored, -⟩ := not_separates_of_isPlain hplain
    exact ⟨hignored, (separates_eq_false hseparates).1, (separates_eq_false hseparates).2.1⟩
  · decide

/-- The name ends at the colon of the port. -/
theorem cutHost_text : cutHost false server.text = (server.name, server.portPart) := by
  refine cutHost_plain server.isPlain_name fun c hc => ?_
  rw [portPart] at hc
  cases hport : server.port with
  | none => simp [hport] at hc
  | some digits => simpa [hport, eq_comm] using hc

theorem readHost_name : readHost server.name = .ok server.name := by
  have hself : Percent.encode Percent.isControl server.name = server.name := by
    refine Percent.encode_eq_self fun c hc => ?_
    have hplain := server.isPlain_name c hc
    exact ⟨(not_separates_of_isPlain hplain).2.1, lt_of_isPlain hplain⟩
  have hallowed : server.name.any hostRefused = false := by
    refine List.any_eq_false.2 fun c hc => ?_
    rw [(not_separates_of_isPlain (server.isPlain_name c hc)).1]
    decide
  rw [readHost.eq_def]
  split
  next rest heq =>
    have hopen := server.isPlain_name '[' (heq ▸ List.mem_cons_self)
    exact absurd hopen (by decide)
  next => rw [hallowed, if_neg (by decide), hself]

/-- The digits of the port are read as its number, unless that is too large. -/
theorem readPort_portPart :
    readPort (server.portPart.drop 1) =
      if server.Fits then .ok (server.portNumber, []) else .error .badPort := by
  rw [portPart]
  cases hport : server.port with
  | none => simp [Fits, portNumber, hport, readPort, Decimal.value, Decimal.ofDigits?]
  | some digits =>
    have hdigits := server.isDigit_port digits hport
    have htake : digits.takeWhile Char.isDigit = digits := List.takeWhile_eq_self_iff.2 hdigits
    have hdrop : digits.dropWhile Char.isDigit = [] := List.dropWhile_eq_nil_iff.2 hdigits
    have hnumber : Decimal.ofDigits? digits = some (Decimal.value digits) := by
      rw [Decimal.ofDigits?, if_pos]
      simpa [server.port_ne_nil digits hport] using hdigits
    simp only [Option.map_some, Option.getD_some, List.drop_succ_cons, List.drop_zero, readPort,
      htake, hdrop, hnumber, Fits, portNumber, hport, Option.mem_def, Option.some.injEq,
      forall_eq', gt_iff_lt, ← Nat.not_le, ite_not]

end PlainServer

/-- **A plain server is read** as its name and its port, if that fits. -/
theorem readRest_plain (scheme : List Char) (server : PlainServer) :
    readRest scheme (server.text ++ ['/']) =
      if server.Fits then .ok (server.address scheme) else .error .badPort := by
  have hfilter : (server.text ++ ['/']).filter (!ignored ·) = server.text ++ ['/'] := by
    refine List.filter_eq_self.2 fun c hc => ?_
    rcases List.mem_append.1 hc with hc | hc
    · simp [(server.mem_text_eq_false hc).1]
    · obtain rfl := List.mem_singleton.1 hc
      rfl
  have hstop : takeUntil endsAuthority (server.text ++ ['/']) = server.text := by
    rw [takeUntil_append fun c hc => (server.mem_text_eq_false hc).2.1]
    simp [takeUntil, endsAuthority]
  have hat : cutLast? '@' server.text = none :=
    cutLast?_eq_none fun hmem => (server.mem_text_eq_false hmem).2.2 rfl
  have hhost : server.name.isEmpty = false := by simpa using server.name_ne_nil
  have hnone : ((none : Option (List Char)) == some [] && server.text.isEmpty) = false := rfl
  have hname : readCredentials ((none : Option (List Char)).getD []) = ([], none) := rfl
  simp only [readRest, hfilter, hstop, hat, server.cutHost_text, List.drop_left, hnone, hname,
    server.readHost_name, server.readPort_portPart, bind, Except.bind, hhost, Bool.false_and,
    Bool.false_eq_true, if_false]
  by_cases hfits : server.Fits
  · rw [if_pos hfits, if_pos hfits]
    rfl
  · rw [if_neg hfits, if_neg hfits]

/-! ## Segments -/

/-- A segment that a path has room for: not one or two dots, and every character of it counts. -/
def IsSegment (segment : String) : Prop :=
  segment ≠ "." ∧ segment ≠ ".." ∧ ∀ c ∈ segment.toList, ignored c = false

instance (segment : String) : Decidable (IsSegment segment) :=
  have : Decidable (∀ c ∈ segment.toList, ignored c = false) := List.decidableBAll _ _
  inferInstanceAs (Decidable (_ ∧ _ ∧ _))

/-- What is resolved in a path stands for dots. -/
theorem standsFor_of_isDots {written : List Char} (h : isUp written = true ∨ isHere written = true) :
    StandsFor written ".." ∨ StandsFor written "." := by
  have hup : ∀ text ∈ ["..", "%2e%2e", "%2e%2E", "%2E%2e", "%2E%2E", "%2e.", "%2E.", ".%2e", ".%2E"],
      StandsFor text.toList ".." := by
    decide +kernel
  have hhere : ∀ text ∈ [".", "%2e", "%2E"], StandsFor text.toList "." := by
    decide +kernel
  rcases h with h | h
  · exact .inl (by simpa using hup _ (List.contains_iff_mem.1 h))
  · exact .inr (by simpa using hhere _ (List.contains_iff_mem.1 h))

/-- A segment that is written without the characters that do not count stands for what is left. -/
theorem standsFor_encode_iff (segment : String) :
    StandsFor (Percent.encode segmentSet (segment.toList.filter (!ignored ·))) segment ↔
      ∀ c ∈ segment.toList, ignored c = false := by
  set left := segment.toList.filter (!ignored ·) with hleft
  have hstands : StandsFor (Percent.encode segmentSet left) (String.ofList left) := by
    rw [standsFor_iff, String.toList_ofList]
    exact decode_encode_of_percent (by decide) left
  constructor
  · intro h
    have hall : left = segment.toList := by rw [h.unique hstands, String.toList_ofList]
    rw [hleft, List.filter_eq_self] at hall
    simpa using hall
  · intro h
    have hall : left = segment.toList := List.filter_eq_self.2 (by simpa using h)
    rwa [hall, String.ofList_toList, ← hall] at hstands

/-- What is encoded in a segment does not end it. -/
theorem not_endsAuthority_of_mem_encode {text : List Char} {c : Char}
    (h : c ∈ Percent.encode segmentSet text) : endsAuthority c = false := by
  refine eq_false_of_mem_encode (by decide) (by decide) (fun c hset => ?_) h
  simp only [segmentSet, pathSet, Bool.or_eq_false_iff, List.contains_cons] at hset
  simp_all [endsAuthority]

/-- Below the root dots lead back to it. -/
theorem addSegment_root (written : List Char) :
    addSegment ['/'] written false =
      '/' :: if isUp written || isHere written then [] else written := by
  rw [addSegment]
  cases isUp written with
  | true => rfl
  | false =>
    cases isHere written with
    | true => rfl
    | false => simp

/-- What is added below the root is the only segment. -/
theorem push_root {url : Url} (hpath : url.path = ['/']) {segment : String}
    (hdots : ¬(segment = "." ∨ segment = "..")) :
    url.push segment =
      { url with
        path := addSegment ['/']
          (Percent.encode segmentSet (segment.toList.filter (!ignored ·))) false } := by
  rw [push, hpath, if_neg (by simpa using hdots)]
  rfl

/-- Nothing at all stands for the empty text alone. -/
theorem not_standsFor_nil {text : String} (h : text ≠ "") : ¬StandsFor [] text :=
  fun hstands => h (hstands.unique (by decide))

/-- **A segment below the root** is the rest of the path, and stands for what was added when there is
room for that. -/
theorem exists_push {url : Url} (hpath : url.path = ['/']) (segment : String) :
    ∃ written, url.push segment = { url with path := '/' :: written } ∧
      (∀ c ∈ written, endsAuthority c = false) ∧ (StandsFor written segment ↔ IsSegment segment) := by
  by_cases hdots : segment = "." ∨ segment = ".."
  · refine ⟨[], ?_, by simp, ?_⟩
    · rw [push, hpath, if_pos (by simpa using hdots)]
      rfl
    · rcases hdots with rfl | rfl
      · exact iff_of_false (not_standsFor_nil (by decide)) fun hsegment => hsegment.1 rfl
      · exact iff_of_false (not_standsFor_nil (by decide)) fun hsegment => hsegment.2.1 rfl
  · obtain ⟨hhere, hup⟩ := not_or.1 hdots
    have hpush := push_root hpath hdots
    set written := Percent.encode segmentSet (segment.toList.filter (!ignored ·)) with hwritten
    have hstands : StandsFor written segment ↔ IsSegment segment := by
      rw [hwritten, standsFor_encode_iff, IsSegment]
      simp [hhere, hup]
    rw [addSegment_root] at hpush
    cases hresolved : isUp written || isHere written with
    | true =>
      -- what was added is no dots and not empty, so it is lost
      have hlost : ¬IsSegment segment := by
        rw [← hstands]
        intro h
        rcases standsFor_of_isDots (Bool.or_eq_true_iff.1 hresolved) with hdot | hdot
        · exact hup (h.unique hdot)
        · exact hhere (h.unique hdot)
      have hne : segment ≠ "" := by
        rintro rfl
        exact hlost (by decide)
      rw [hresolved, if_pos rfl] at hpush
      exact ⟨[], hpush, by simp, iff_of_false (not_standsFor_nil hne) hlost⟩
    | false =>
      rw [hresolved, if_neg (by decide)] at hpush
      exact ⟨written, hpush, fun c hc => not_endsAuthority_of_mem_encode hc, hstands⟩

end SiteScript.Url
