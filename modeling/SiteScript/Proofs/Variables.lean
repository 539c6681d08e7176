import Mathlib.Logic.ExistsUnique
import SiteScript.Proofs.Text
import SiteScript.Variables

/-!
# SiteScript.Proofs.Variables

Substitution, said by the pieces of a text.

1. A text is made of characters, dollar signs that no name follows, and references whose names are
   as long as they can be (`Pieces`).  There is one way to take a text apart like this
   (`existsUnique_pieces`).
2. Substituting puts the value of each piece in its place (`expand_of_pieces`).  The pieces are
   those of the text alone, so a value that looks like a reference is not looked at again.
3. Two texts one after the other have the pieces of both, unless a name begun in the first goes on
   in the second (`Pieces.append`).

The results for strings are put together in `substitute_pieces`. -/

namespace SiteScript.Variables

/-- A piece of a text. -/
inductive Piece where
  /-- A character that is no dollar sign. -/
  | char (c : Char)
  /-- A dollar sign that no name follows. -/
  | dollar
  /-- A dollar sign and a name. -/
  | reference (name : List Char)
deriving DecidableEq

/-- What stands in the place of a piece: a variable without a value leaves nothing. -/
def Piece.value (vars : Variables) : Piece → List Char
  | .char c => [c]
  | .dollar => ['$']
  | .reference name => (vars.getD (String.ofList name) "").toList

/-- Whether a name that ends before the text would go on with it. -/
def startsName : List Char → Bool
  | [] => false
  | c :: _ => isNameChar c

/-- The pieces that a text is made of. -/
inductive Pieces : List Char → List Piece → Prop where
  | nil : Pieces [] []
  | char {c : Char} {text : List Char} {pieces : List Piece} (hc : c ≠ '$')
      (h : Pieces text pieces) : Pieces (c :: text) (.char c :: pieces)
  | dollar {text : List Char} {pieces : List Piece} (hend : startsName text = false)
      (h : Pieces text pieces) : Pieces ('$' :: text) (.dollar :: pieces)
  | reference {name text : List Char} {pieces : List Piece} (hne : name ≠ [])
      (hname : ∀ c ∈ name, isNameChar c = true) (hend : startsName text = false)
      (h : Pieces text pieces) : Pieces ('$' :: (name ++ text)) (.reference name :: pieces)

/-- The end of a text is a dollar sign and the beginning of a name, which may be empty. -/
def EndsOpen (text : List Char) : Prop :=
  ∃ before name, text = before ++ '$' :: name ∧ ∀ c ∈ name, isNameChar c = true

/-! ## One way to take a text apart -/

/-- The piece of a dollar sign and the name characters after it. -/
def Piece.ofName : List Char → Piece
  | [] => .dollar
  | c :: name => .reference (c :: name)

theorem takeWhile_startsName {text : List Char} (h : startsName text = false) :
    text.takeWhile isNameChar = [] ∧ text.dropWhile isNameChar = text := by
  cases text with
  | nil => exact ⟨rfl, rfl⟩
  | cons c text =>
      have hc : ¬ isNameChar c = true := by simpa [startsName] using h
      exact ⟨List.takeWhile_cons_of_neg hc, List.dropWhile_cons_of_neg hc⟩

theorem startsName_dropWhile (text : List Char) :
    startsName (text.dropWhile isNameChar) = false := by
  cases hrest : text.dropWhile isNameChar with
  | nil => rfl
  | cons c rest =>
      exact Text.eq_false_of_mem_head?_dropWhile (by rw [hrest]; rfl)

theorem pieces_char_iff {c : Char} (hc : c ≠ '$') {text : List Char} {pieces : List Piece} :
    Pieces (c :: text) pieces ↔ ∃ rest, pieces = .char c :: rest ∧ Pieces text rest := by
  constructor
  · intro h
    cases h with
    | char _ h => exact ⟨_, rfl, h⟩
    | dollar => exact absurd rfl hc
    | reference => exact absurd rfl hc
  · rintro ⟨rest, rfl, h⟩
    exact .char hc h

/-- After a dollar sign the name is taken as far as its characters last. -/
theorem pieces_dollar_iff {text : List Char} {pieces : List Piece} :
    Pieces ('$' :: text) pieces ↔
      ∃ rest, pieces = .ofName (text.takeWhile isNameChar) :: rest ∧
        Pieces (text.dropWhile isNameChar) rest := by
  constructor
  · intro h
    cases h with
    | char hc => exact absurd rfl hc
    | dollar hend h =>
        obtain ⟨htake, hdrop⟩ := takeWhile_startsName hend
        exact ⟨_, by rw [htake]; rfl, by rwa [hdrop]⟩
    | @reference name after rest hne hname hend h =>
        obtain ⟨htake, hdrop⟩ := takeWhile_startsName hend
        rw [List.takeWhile_append_of_pos hname, List.dropWhile_append_of_pos hname, htake, hdrop,
          List.append_nil]
        obtain ⟨c, name, rfl⟩ := List.exists_cons_of_ne_nil hne
        exact ⟨rest, rfl, h⟩
  · rintro ⟨rest, rfl, h⟩
    have hend := startsName_dropWhile text
    have htext : text.takeWhile isNameChar ++ text.dropWhile isNameChar = text :=
      List.takeWhile_append_dropWhile
    have hname : ∀ c ∈ text.takeWhile isNameChar, isNameChar c = true :=
      List.all_eq_true.1 List.all_takeWhile
    cases htake : text.takeWhile isNameChar with
    | nil =>
        rw [htake, List.nil_append] at htext
        rw [htext] at h hend
        exact .dollar hend h
    | cons c name =>
        rw [htake] at htext hname
        rw [← htext]
        exact .reference (List.cons_ne_nil c name) hname hend h

/-- Every text has exactly one list of pieces. -/
theorem existsUnique_pieces (text : List Char) : ∃! pieces, Pieces text pieces :=
  match text with
  | [] => ⟨[], .nil, fun _ h => by cases h; rfl⟩
  | c :: text => by
      by_cases hc : c = '$'
      · subst hc
        obtain ⟨rest, hrest, hunique⟩ := existsUnique_pieces (text.dropWhile isNameChar)
        refine ⟨_, pieces_dollar_iff.2 ⟨rest, rfl, hrest⟩, fun pieces h => ?_⟩
        obtain ⟨other, rfl, hother⟩ := pieces_dollar_iff.1 h
        rw [hunique other hother]
      · obtain ⟨rest, hrest, hunique⟩ := existsUnique_pieces text
        refine ⟨_, (pieces_char_iff hc).2 ⟨rest, rfl, hrest⟩, fun pieces h => ?_⟩
        obtain ⟨other, rfl, hother⟩ := (pieces_char_iff hc).1 h
        rw [hunique other hother]
termination_by text.length
decreasing_by
  · exact Nat.lt_succ_of_le (List.dropWhile_suffix _).length_le
  · exact Nat.lt_succ_self _

/-! ## The value of a text -/

/-- A name is read as far as its characters last. -/
theorem expand_name (vars : Variables) (pending : List Char) {name : List Char}
    (h : ∀ c ∈ name, isNameChar c = true) (after : List Char) :
    expand vars (some pending) (name ++ after) = expand vars (some (pending ++ name)) after := by
  induction name generalizing pending with
  | nil => rw [List.nil_append, List.append_nil]
  | cons c name ih =>
      obtain ⟨hc, hname⟩ := List.forall_mem_cons.1 h
      rw [List.cons_append, expand, if_pos hc, ih _ hname, List.append_assoc, List.singleton_append]

/-- Where a name ends it is replaced, and reading goes on. -/
theorem expand_end (vars : Variables) (name : List Char) {after : List Char}
    (h : startsName after = false) :
    expand vars (some name) after = expansion vars name ++ expand vars none after := by
  cases after with
  | nil => simp [expand]
  | cons c after =>
      have hc : ¬ isNameChar c = true := by simpa [startsName] using h
      simp only [expand, if_neg hc]
      split <;> rfl

/-- The text with every piece replaced by its value. -/
theorem expand_of_pieces (vars : Variables) {text : List Char} {pieces : List Piece}
    (h : Pieces text pieces) : expand vars none text = pieces.flatMap (·.value vars) := by
  induction h with
  | nil => rfl
  | char hc _ ih => rw [expand, if_neg hc, ih]; rfl
  | dollar hend _ ih => rw [expand, if_pos rfl, expand_end vars [] hend, ih]; rfl
  | @reference name text pieces hne hname hend _ ih =>
      rw [expand, if_pos rfl, expand_name vars [] hname, List.nil_append,
        expand_end vars name hend, ih]
      obtain ⟨c, name, rfl⟩ := List.exists_cons_of_ne_nil hne
      rfl

/-- The values of the variables that a text refers to are all that counts. -/
theorem flatMap_value_congr {vars others : Variables} {pieces : List Piece}
    (h : ∀ name, .reference name ∈ pieces →
      others.get? (String.ofList name) = vars.get? (String.ofList name)) :
    pieces.flatMap (·.value others) = pieces.flatMap (·.value vars) := by
  induction pieces with
  | nil => rfl
  | cons piece pieces ih =>
      have hrest := ih fun name hname => h name (List.mem_cons_of_mem _ hname)
      rw [List.flatMap_cons, List.flatMap_cons, hrest]
      congr 1
      cases piece with
      | char c => rfl
      | dollar => rfl
      | reference name => simp only [Piece.value, Dictionary.getD, h name List.mem_cons_self]

/-! ## Texts one after the other -/

theorem startsName_append {text after : List Char} (h : startsName text = false)
    (hafter : text = [] → startsName after = false) : startsName (text ++ after) = false := by
  cases text with
  | nil => exact hafter rfl
  | cons c text => exact h

theorem EndsOpen.cons {text : List Char} (h : EndsOpen text) (c : Char) : EndsOpen (c :: text) := by
  obtain ⟨before, name, rfl, hname⟩ := h
  exact ⟨c :: before, name, rfl, hname⟩

theorem EndsOpen.append {text : List Char} (h : EndsOpen text) (before : List Char) :
    EndsOpen (before ++ text) := by
  obtain ⟨shorter, name, rfl, hname⟩ := h
  exact ⟨before ++ shorter, name, by rw [List.append_assoc], hname⟩

/-- Two texts have the pieces of both, unless a name goes on from one to the other. -/
theorem Pieces.append {text after : List Char} {pieces others : List Piece} (h : Pieces text pieces)
    (hafter : Pieces after others) (hjoin : startsName after = false ∨ ¬ EndsOpen text) :
    Pieces (text ++ after) (pieces ++ others) := by
  induction h with
  | nil => exact hafter
  | @char c text pieces hc _ ih =>
      exact .char hc (ih (hjoin.imp_right fun hopen h => hopen (h.cons c)))
  | @dollar text pieces hend _ ih =>
      refine .dollar (startsName_append hend fun hnil => ?_)
        (ih (hjoin.imp_right fun hopen h => hopen (h.cons '$')))
      subst hnil
      exact hjoin.resolve_right (not_not_intro ⟨[], [], rfl, by simp⟩)
  | @reference name text pieces hne hname hend _ ih =>
      rw [List.cons_append, List.append_assoc]
      refine .reference hne hname (startsName_append hend fun hnil => ?_)
        (ih (hjoin.imp_right fun hopen h => hopen ((h.append name).cons '$')))
      subst hnil
      exact hjoin.resolve_right (not_not_intro ⟨[], name, by simp, hname⟩)

theorem substitute_append (vars : Variables) {text after : String}
    (h : startsName after.toList = false ∨ ¬ EndsOpen text.toList) :
    vars.substitute (text ++ after) = vars.substitute text ++ vars.substitute after := by
  obtain ⟨pieces, hpieces, -⟩ := existsUnique_pieces text.toList
  obtain ⟨others, hothers, -⟩ := existsUnique_pieces after.toList
  simp only [substitute]
  rw [String.toList_append, expand_of_pieces vars (hpieces.append hothers h), List.flatMap_append,
    String.ofList_append, ← expand_of_pieces vars hpieces, ← expand_of_pieces vars hothers]

/-- A reference to a variable leaves its value, whatever the value looks like. -/
theorem substitute_reference (vars : Variables) {name value after : String}
    (hvalue : vars.get? name = some value) (hne : name ≠ "")
    (hname : ∀ c ∈ name.toList, isNameChar c = true) (hafter : startsName after.toList = false)
    (text : String) :
    vars.substitute (text ++ ("$" ++ name ++ after)) =
      vars.substitute text ++ value ++ vars.substitute after := by
  have hdollar : startsName ("$" ++ name ++ after).toList = false := by
    rw [String.toList_append, String.toList_append]
    rfl
  have hreference : vars.substitute ("$" ++ name) = value := by
    have hpieces : Pieces ("$" ++ name).toList [.reference name.toList] := by
      simpa using Pieces.reference (by simpa using hne) hname rfl .nil
    rw [substitute, expand_of_pieces vars hpieces]
    simp [Piece.value, Dictionary.getD, hvalue]
  rw [substitute_append vars (.inl hdollar), substitute_append vars (.inl hafter), hreference,
    String.append_assoc]

/-- **Substitution puts a value in the place of each reference.**  A text has exactly one list of
pieces, and what substitution gives is their values one after the other.  So only the variables that
the text refers to count, a value stays as it is even if it looks like a reference, and a text can
be cut before substitution wherever the cut does not go through a reference. -/
theorem substitute_pieces (text : String) :
    (∃! pieces, Pieces text.toList pieces) ∧
      ∀ pieces, Pieces text.toList pieces → ∀ vars : Variables,
        vars.substitute text = String.ofList (pieces.flatMap (·.value vars)) ∧
          (∀ others : Variables, (∀ name, .reference name ∈ pieces →
              others.get? (String.ofList name) = vars.get? (String.ofList name)) →
            others.substitute text = vars.substitute text) ∧
          (∀ name value after, vars.get? name = some value → name ≠ "" →
            (∀ c ∈ name.toList, isNameChar c = true) → startsName after.toList = false →
            vars.substitute (text ++ ("$" ++ name ++ after)) =
              vars.substitute text ++ value ++ vars.substitute after) ∧
          ∀ after, startsName after.toList = false ∨ ¬ EndsOpen text.toList →
            vars.substitute (text ++ after) = vars.substitute text ++ vars.substitute after := by
  refine ⟨existsUnique_pieces text.toList, fun pieces hpieces vars => ?_⟩
  have hsubstitute : ∀ vars : Variables,
      vars.substitute text = String.ofList (pieces.flatMap (·.value vars)) :=
    fun vars => congrArg String.ofList (expand_of_pieces vars hpieces)
  refine ⟨hsubstitute vars, fun others hagree => ?_,
    fun name value after hvalue hne hname hafter =>
      substitute_reference vars hvalue hne hname hafter text,
    fun after hjoin => substitute_append vars hjoin⟩
  rw [hsubstitute others, hsubstitute vars, flatMap_value_congr hagree]

/-- Variables one of which has a value that looks like a reference. -/
def greeting : Variables :=
  Dictionary.ofList [("NAME", "$X"), ("X", "you")]

/-- The value of `NAME` stays as it is, so that `X` does not matter unless the text refers to it. -/
theorem substitute_pieces_greeting :
    Pieces "Hi $NAME$".toList
        [.char 'H', .char 'i', .char ' ', .reference ['N', 'A', 'M', 'E'], .dollar] ∧
      greeting.substitute "Hi $NAME$" = "Hi $X$" ∧
      substitute (greeting.insert "X" "me") "Hi $NAME$" = "Hi $X$" ∧
      greeting.substitute ("Hi $NAME$" ++ ("$" ++ "NAME" ++ "!")) = "Hi $X$$X!" ∧
      greeting.substitute ("Hi $NAME$" ++ "$X!") = "Hi $X$you!" := by
  have hletters : ∀ c ∈ ['N', 'A', 'M', 'E'], isNameChar c = true := List.all_eq_true.1 (by decide)
  have hpieces : Pieces "Hi $NAME$".toList
      [.char 'H', .char 'i', .char ' ', .reference ['N', 'A', 'M', 'E'], .dollar] :=
    .char (by decide) <| .char (by decide) <| .char (by decide) <|
      .reference (by decide) hletters rfl <| .dollar rfl .nil
  obtain ⟨hvalue, hagree, hreference, happend⟩ :=
    (substitute_pieces "Hi $NAME$").2 _ hpieces greeting
  have hother : substitute (greeting.insert "X" "me") "Hi $NAME$" =
      greeting.substitute "Hi $NAME$" := by
    refine hagree _ fun name hname => ?_
    obtain rfl : name = ['N', 'A', 'M', 'E'] := by simpa using hname
    rfl
  have hname := hreference "NAME" "$X" "!" rfl (by decide) hletters rfl
  refine ⟨hpieces, hvalue, hother.trans hvalue, ?_, ?_⟩
  · rw [hname, hvalue]
    rfl
  · rw [happend "$X!" (.inl rfl), hvalue]
    rfl

end SiteScript.Variables
