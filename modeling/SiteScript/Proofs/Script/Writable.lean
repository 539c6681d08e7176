import SiteScript.Proofs.Dictionary
import SiteScript.Proofs.Script.Reading

/-!
# SiteScript.Proofs.Script.Writable

The directives that have a canonical text: `Directive.Writable` says what the texts of a directive must
be free of, given how each of them is quoted and trimmed when it is read.

Reading gives nothing else.  Whatever the lines are, a directive that is read from them is writable,
one lemma for each way of reading an argument (`readable_of_next?`).  Modules are the exception: a line
of a `load:` block can name a module that no line of its own would name again, and only what such
lines have in common is said here (`ModuleRead`).
-/

namespace SiteScript

open Text

/-! ## Texts -/

/-- A text without any of the characters. -/
def Free (characters : List Char) (text : String) : Prop :=
  ∀ c ∈ text.toList, c ∉ characters

instance (characters : List Char) (text : String) : Decidable (Free characters text) :=
  List.decidableBAll (· ∉ characters) text.toList

theorem Free.not_mem {characters : List Char} {text : String} (h : Free characters text) {c : Char}
    (hc : c ∈ characters) : c ∉ text.toList :=
  fun hmem => h c hmem hc

/-- A text without any blank. -/
def Solid (text : String) : Prop :=
  ∀ c ∈ text.toList, isBlank c = false

instance (text : String) : Decidable (Solid text) :=
  List.decidableBAll (isBlank · = false) text.toList

/-- A text without blanks at either end. -/
def Trimmed (text : String) : Prop :=
  trim text.toList = text.toList

instance (text : String) : Decidable (Trimmed text) :=
  inferInstanceAs (Decidable (trim text.toList = text.toList))

namespace Script

/-- What follows an optional comma. -/
def afterComma (tail : List Char) : List Char :=
  match tail with
  | ',' :: rest => rest
  | _ => tail

/-- Whether a comment follows, after an optional comma: what ends a value at the quote before it. -/
def beginsComment (tail : List Char) : Bool :=
  startsWithChar '#' (trimStart (afterComma (trimStart tail)))

/-- Whether every quote inside a value stays part of it. -/
def keepsQuotes : List Char → Bool
  | [] => true
  | c :: rest => if c = '"' && beginsComment rest then false else keepsQuotes rest

/-- A value that a line of a block can hold. -/
def WritableValue (value : String) : Prop :=
  Free ['\n'] value ∧ keepsQuotes value.toList = true

/-- A key that a line of a block can begin with. -/
def WritableKey (key : String) : Prop :=
  key ≠ "" ∧ Trimmed key ∧ Free ['"', ',', ':', '\n'] key

instance (value : String) : Decidable (WritableValue value) :=
  inferInstanceAs (Decidable (_ ∧ _))

instance (key : String) : Decidable (WritableKey key) :=
  inferInstanceAs (Decidable (_ ∧ _))

/-- A title that the header of a block can hold. -/
def WritableTitle (title : String) : Prop :=
  Trimmed title ∧ Free ['"', '{', '\n'] title

/-- Entries that the lines of a block can hold. -/
def WritableEntries (entries : List (String × String)) : Prop :=
  ∀ entry ∈ entries, WritableKey entry.1 ∧ WritableValue entry.2

/-- A title and a block that can be written under it. -/
def WritableBlock (title : String) (config : Block) : Prop :=
  WritableTitle title ∧ WritableEntries config.entries

instance (title : String) : Decidable (WritableTitle title) :=
  inferInstanceAs (Decidable (_ ∧ _))

instance (entries : List (String × String)) : Decidable (WritableEntries entries) :=
  inferInstanceAs (Decidable (∀ entry ∈ entries, WritableKey entry.1 ∧ WritableValue entry.2))

instance (title : String) (config : Block) : Decidable (WritableBlock title config) :=
  inferInstanceAs (Decidable (_ ∧ _))

/-- A name that can be read from a line of a `load:` block. -/
def ModuleRead (name : String) : Prop :=
  name ≠ "" ∧ Trimmed name ∧ Free ['"', '\n'] name ∧ name.toList.head? ≠ some '#'

/-- A name that a line of a `load:` block can consist of. -/
def WritableModule (name : String) : Prop :=
  ModuleRead name ∧ name.toList.head? ≠ some '}' ∧ name.toList.getLast? ≠ some ','

instance (name : String) : Decidable (ModuleRead name) :=
  inferInstanceAs (Decidable (_ ∧ _))

instance (name : String) : Decidable (WritableModule name) :=
  inferInstanceAs (Decidable (_ ∧ _))

/-- A name or path between quotes. -/
abbrev WritablePath (path : String) : Prop :=
  Free ['"', '\n'] path

end Script

open Script

/-- An action whose canonical text reads as the action. -/
def Action.Writable : Action → Prop
  | .log message => Free ['\n'] message
  | .copyFile source target => WritableValue source ∧ WritableValue target
  | .moveFile source target => WritableValue source ∧ WritableValue target
  | .deleteFile path => WritablePath path
  | .deleteFolder path => WritablePath path
  | .addFolder path => WritablePath path
  | .addFile path => WritablePath path
  | .editFile path content => WritableValue path ∧ WritableValue content
  | .run command _ => Free ['\n'] command
  | .call name => name ≠ "" ∧ WritablePath name
  | .schedule seconds function =>
    0 < seconds ∧ seconds ≤ maxInterval ∧ function ≠ "" ∧ WritablePath function
  | .connect id config => WritableBlock id config
  | .query connection config => WritableBlock connection config
  | .declareApi name config => WritableBlock name config
  | .startWeb path config => WritableBlock path config

/-- A directive whose canonical text reads as the directive. -/
def Directive.Writable : Directive → Prop
  | .assign key value => key ≠ "" ∧ Trimmed key ∧ Free [':', '\n'] key ∧ Free ['\n'] value
  | .beginFunction name => name ≠ "" ∧ Solid name ∧ name.toList.head? ≠ some '"'
  | .endFunction => True
  | .load modules => ∀ name ∈ modules, WritableModule name
  | .act action => action.Writable

instance : (action : Action) → Decidable action.Writable
  | .log _ | .run _ _ | .deleteFile _ | .deleteFolder _ | .addFolder _ | .addFile _ =>
    inferInstanceAs (Decidable (Free _ _))
  | .copyFile _ _ | .moveFile _ _ | .editFile _ _ | .call _ | .schedule _ _ =>
    inferInstanceAs (Decidable (_ ∧ _))
  | .connect _ _ | .query _ _ | .declareApi _ _ | .startWeb _ _ =>
    inferInstanceAs (Decidable (WritableBlock _ _))

instance : (directive : Directive) → Decidable directive.Writable
  | .assign _ _ | .beginFunction _ => inferInstanceAs (Decidable (_ ∧ _))
  | .endFunction => inferInstanceAs (Decidable True)
  | .load modules => inferInstanceAs (Decidable (∀ name ∈ modules, WritableModule name))
  | .act action => inferInstanceAs (Decidable action.Writable)

namespace Script

/-! ## Values -/

theorem trimStart_append (text after : List Char) :
    trimStart (text ++ after) =
      if (trimStart text).isEmpty then trimStart after else trimStart text ++ after :=
  List.dropWhile_append

theorem isValueEnd_eq (tail : List Char) :
    isValueEnd tail =
      match trimStart (afterComma (trimStart tail)) with
      | [] => true
      | c :: _ => c == '#' := rfl

theorem afterComma_cons_append (c : Char) (text after : List Char) :
    afterComma (c :: text ++ after) = afterComma (c :: text) ++ after := by
  by_cases hcomma : c = ','
  · subst hcomma
    rfl
  · simp [afterComma, hcomma]

theorem afterComma_suffix (tail : List Char) : afterComma tail <:+ tail := by
  unfold afterComma
  split
  · exact List.suffix_cons _ _
  · exact List.suffix_rfl

/-- Whether a value ends at a quote is decided before the next quote. -/
theorem isValueEnd_append_quote (text after : List Char) :
    isValueEnd (text ++ '"' :: after) = beginsComment text := by
  have hmark : ∀ text, (match trimStart (text ++ '"' :: after) with
      | [] => true
      | c :: _ => c == '#') = startsWithChar '#' (trimStart text) := by
    intro text
    rw [trimStart_append]
    cases trimStart text with
    | nil => rfl
    | cons c rest => exact BEq.comm
  rw [isValueEnd_eq, beginsComment, trimStart_append]
  cases htext : trimStart text with
  | nil => rfl
  | cons c rest =>
    rw [List.isEmpty_cons, if_neg Bool.false_ne_true, afterComma_cons_append]
    exact hmark _

/-- A value that keeps its quotes is read up to the quote that closes it. -/
theorem quotedValue?_append {value after : List Char} (h : keepsQuotes value = true)
    (hafter : isValueEnd after = true) : quotedValue? (value ++ '"' :: after) = some value := by
  induction value with
  | nil => simp [quotedValue?, hafter]
  | cons c value ih =>
    rw [keepsQuotes] at h
    split at h
    next => cases h
    next hquote =>
      rw [List.cons_append, quotedValue?, isValueEnd_append_quote, if_neg hquote, ih h,
        Option.map_some]

/-- A value that is read up to a quote keeps its quotes. -/
theorem quotedValue?_eq_some {body value : List Char} (h : quotedValue? body = some value) :
    keepsQuotes value = true ∧ ∃ after, body = value ++ '"' :: after := by
  induction body generalizing value with
  | nil => cases h
  | cons c body ih =>
    rw [quotedValue?] at h
    split at h
    next hquote =>
      obtain rfl := Option.some.inj h
      obtain ⟨hc, -⟩ := Bool.and_eq_true_iff.1 hquote
      exact ⟨rfl, body, by simpa using hc⟩
    next hquote =>
      obtain ⟨value, hvalue, rfl⟩ := Option.map_eq_some_iff.1 h
      obtain ⟨hkeeps, after, rfl⟩ := ih hvalue
      rw [isValueEnd_append_quote] at hquote
      exact ⟨(if_neg hquote).trans hkeeps, after, rfl⟩

theorem mem_of_beginsComment {tail : List Char} (h : beginsComment tail = true) : '#' ∈ tail := by
  have htail : trimStart (afterComma (trimStart tail)) <:+ tail :=
    (List.dropWhile_suffix _).trans ((afterComma_suffix _).trans (List.dropWhile_suffix _))
  exact htail.subset (List.mem_of_mem_head? (startsWithChar_iff.1 h))

/-- A value without the mark of a comment keeps its quotes. -/
theorem keepsQuotes_of_not_mem {value : List Char} (h : '#' ∉ value) : keepsQuotes value = true := by
  induction value with
  | nil => rfl
  | cons c value ih =>
    simp only [List.mem_cons, not_or] at h
    rw [keepsQuotes, if_neg, ih h.2]
    intro hquote
    exact h.2 (mem_of_beginsComment (Bool.and_eq_true_iff.1 hquote).2)

/-- A bare value ends before a comment. -/
theorem mem_bareValue {text : List Char} {c : Char} (h : c ∈ bareValue text) : c ∈ text ∧ c ≠ '#' := by
  have hcut := mem_of_mem_trim ((dropEndWhile_isPrefix _ _).subset (mem_of_mem_trim h))
  obtain ⟨htext, hmark⟩ := mem_takeUntil hcut
  exact ⟨htext, by simpa using hmark⟩

/-- Whatever value is read from a line can be written. -/
theorem writableValue_blockValueChars {raw : List Char} (h : '\n' ∉ raw) :
    WritableValue (String.ofList (blockValueChars raw)) := by
  have hvalue : ∀ value : List Char, (∀ c ∈ value, c ∈ trim raw) → keepsQuotes value = true →
      WritableValue (String.ofList value) := by
    refine fun value hsub hkeeps => ⟨fun c hc hnewline => ?_, by simpa using hkeeps⟩
    obtain rfl := List.mem_singleton.1 hnewline
    exact h (mem_of_mem_trim (hsub _ (by simpa using hc)))
  have hbare : ∀ text value : List Char, (∀ c ∈ text, c ∈ trim raw) →
      (∀ c ∈ value, c ∈ bareValue text) → WritableValue (String.ofList value) :=
    fun text value htext hsub => hvalue value (fun c hc => htext c (mem_bareValue (hsub c hc)).1)
      (keepsQuotes_of_not_mem fun hmark => (mem_bareValue (hsub _ hmark)).2 rfl)
  rw [blockValueChars]
  split
  next body hbody =>
    have hsub : ∀ c ∈ body, c ∈ trim raw := fun c hc => hbody ▸ List.mem_cons_of_mem _ hc
    split
    next value hquoted =>
      obtain ⟨hkeeps, after, rfl⟩ := quotedValue?_eq_some hquoted
      exact hvalue value (fun c hc => hsub c (List.mem_append_left _ hc)) hkeeps
    next => exact hbare body _ hsub fun c hc => (dropEndWhile_isPrefix _ _).subset hc
  next => exact hbare _ _ (fun c hc => hc) fun c hc => hc

/-! ## Blocks -/

theorem writable_blockEntry? {line : List Char} (h : '\n' ∉ line) {key value : String}
    (hentry : blockEntry? line = some (key, value)) : WritableKey key ∧ WritableValue value := by
  rw [ blockEntry?] at hentry
  split at hentry
  next => cases hentry
  next =>
    split at hentry
    next => cases hentry
    next written raw hcut =>
      obtain ⟨hcolon, sep, -, rfl⟩ := eq_of_cutWhere? hcut
      simp only [List.mem_append, List.mem_cons, not_or] at h
      split at hentry
      next => cases hentry
      next kept hkept =>
        obtain ⟨rfl, rfl⟩ := Prod.mk.inj (Option.some.inj hentry)
        refine ⟨⟨by simpa using hkept, ?_, fun c hc => ?_⟩, writableValue_blockValueChars h.2.2⟩
        · rw [Trimmed, String.toList_ofList, trim_trim]
        · rw [String.toList_ofList] at hc
          obtain ⟨hwritten, hmarks⟩ := List.mem_filter.1 (mem_of_mem_trim hc)
          have hcolon := hcolon c hwritten
          have hnewline : c ≠ '\n' := fun heq => h.1 (heq ▸ hwritten)
          simp_all

theorem writableEntries_readBlockBody {block : Block} {lines : List (List Char)}
    (hblock : WritableEntries block.entries) (hlines : ∀ line ∈ lines, '\n' ∉ line)
    {read : Block} (h : (readBlockBody block lines).1 = some read) :
    WritableEntries read.entries := by
  induction lines generalizing block with
  | nil => cases h
  | cons line rest ih =>
    obtain ⟨hline, hrest⟩ := List.forall_mem_cons.1 hlines
    rw [readBlockBody] at h
    split at h
    next => exact Option.some.inj h ▸ hblock
    next =>
      refine ih ?_ hrest h
      rw [addBlockLine]
      split
      next => exact hblock
      next key value hentry =>
        intro entry hmem
        rcases mem_insertEntry hmem with rfl | hmem
        · exact writable_blockEntry? (fun hc => hline (mem_of_mem_trim hc)) hentry
        · exact hblock entry hmem

/-- A value of a block that can be written, or none at all. -/
theorem WritableEntries.getD {block : Block} (h : WritableEntries block.entries) (key : String) :
    WritableValue (block.getD key "") := by
  rw [Dictionary.getD]
  match hget : block.get? key with
  | none => exact ⟨fun c hc => by simp at hc, rfl⟩
  | some value => exact (h _ (Dictionary.mem_entries_of_get? hget)).2

theorem writable_withBlock {header : List Char} {rest : List (List Char)} {make : Block → Action}
    (hrest : ∀ line ∈ rest, '\n' ∉ line) {directive : Directive}
    (h : (withBlock header rest make).1 = .ok directive)
    (hmake : ∀ block, WritableEntries block.entries → (make block).Writable) :
    directive.Writable := by
  have hempty : WritableEntries (.empty : Block).entries := fun entry hmem => by cases hmem
  rw [withBlock] at h
  split at h
  next block after hread =>
    obtain rfl := Except.ok.inj h
    refine hmake block ?_
    rw [readBlock] at hread
    split at hread
    · exact Option.some.inj (Prod.mk.inj hread).1 ▸ hempty
    · exact writableEntries_readBlockBody hempty hrest (congrArg Prod.fst hread)
  next => cases h

theorem writableTitle_blockTitle {header : List Char} (h : '\n' ∉ header) :
    WritableTitle (blockTitle header) := by
  rw [blockTitle]
  refine ⟨by rw [Trimmed, String.toList_ofList, trim_trim], fun c hc => ?_⟩
  rw [String.toList_ofList] at hc
  obtain ⟨htitle, hquote⟩ := mem_without.1 (mem_of_mem_trim hc)
  obtain ⟨hafter, hbrace⟩ := mem_takeUntil htitle
  clear hc htitle
  have hnewline : c ≠ '\n' := by
    split at hafter
    next => cases hafter
    next before after hcut =>
      obtain ⟨-, sep, -, rfl⟩ := eq_of_cutWhere? hcut
      rintro rfl
      exact h (by simp [hafter])
  simp_all

/-! ## Arguments on one line -/

theorem free_textArgument {argument : List Char} (h : '\n' ∉ argument) :
    Free ['\n'] (textArgument argument) := by
  intro c hc hnewline
  obtain rfl := List.mem_singleton.1 hnewline
  rw [textArgument, String.toList_ofList] at hc
  exact h (mem_of_mem_trim (mem_of_mem_dropOuterQuotes hc))

theorem writablePath_without {text : List Char} (h : '\n' ∉ text) :
    WritablePath (String.ofList (without '"' text)) := by
  intro c hc hmark
  rw [String.toList_ofList] at hc
  obtain ⟨htext, hquote⟩ := mem_without.1 hc
  rcases List.mem_cons.1 hmark with rfl | hmark
  · exact hquote rfl
  · exact h (List.mem_singleton.1 hmark ▸ htext)

theorem writablePath_pathArgument {argument : List Char} (h : '\n' ∉ argument) :
    WritablePath (pathArgument argument) :=
  writablePath_without fun hc => h (mem_of_mem_trim hc)

theorem writable_assignDirective {argument : List Char} (h : '\n' ∉ argument)
    {directive : Directive} (hd : assignDirective argument = .ok directive) :
    directive.Writable := by
  rw [assignDirective] at hd
  split at hd
  next => cases hd
  next key value hcut =>
    obtain ⟨hcolon, sep, -, htrim⟩ := eq_of_cutWhere? hcut
    have hmem : ∀ c ∈ key ++ sep :: value, c ≠ '\n' := fun c hc heq =>
      h (heq ▸ mem_of_mem_trim (htrim ▸ hc))
    split at hd
    next => cases hd
    next name hname =>
      obtain rfl := Except.ok.inj hd
      refine ⟨by simpa using hname, by rw [Trimmed, String.toList_ofList, trim_trim],
        fun c hc => ?_, fun c hc => ?_⟩
      · rw [String.toList_ofList] at hc
        have hkey := mem_of_mem_trim hc
        have hnewline := hmem c (List.mem_append_left _ hkey)
        have hcolon := hcolon c hkey
        simp_all
      · rw [String.toList_ofList] at hc
        have hvalue := mem_of_mem_trim (mem_of_mem_dropOuterQuotes hc)
        simpa using hmem c (List.mem_append_right _ (List.mem_cons_of_mem _ hvalue))

theorem writable_startDirective {argument : List Char} (h : '\n' ∉ argument)
    {directive : Directive} (hd : startDirective (trim argument) = .ok directive) :
    directive.Writable := by
  have hmem : ∀ c ∈ trim argument, c ≠ '\n' := fun c hc heq => h (heq ▸ mem_of_mem_trim hc)
  have hstart : trimStart (trim argument) = trim argument :=
    dropWhile_eq_self_iff.2 (trim_eq_self_iff.1 (trim_trim argument)).1
  rw [startDirective.eq_def] at hd
  split at hd
  next quoted hquoted =>
    rw [hquoted] at hmem
    split at hd
    next => cases hd
    next hname =>
      obtain rfl := Except.ok.inj hd
      refine ⟨by simpa using hname, fun c hc => ?_⟩
      rw [String.toList_ofList] at hc
      obtain ⟨hc, hquote⟩ := mem_takeUntil hc
      have hnewline := hmem c (List.mem_cons_of_mem _ hc)
      simp_all
  next hbare =>
    rw [firstWord?, hstart] at hd
    match hword : takeUntil isBlank (trim argument) with
    | [] => rw [hword] at hd; cases hd
    | c :: word =>
      rw [hword] at hd
      obtain rfl := Except.ok.inj hd
      refine ⟨by simp, fun d hd => ?_, ?_⟩
      · rw [String.toList_ofList, ← hword] at hd
        exact (mem_takeUntil hd).2
      · obtain ⟨after, hafter⟩ : c :: word <+: trim argument := hword ▸ List.takeWhile_prefix _
        rintro hquote
        obtain rfl : c = '"' := by simpa using hquote
        exact hbare (word ++ after) hafter.symm

theorem writable_scheduleDirective {argument : List Char} (h : '\n' ∉ argument)
    {directive : Directive} (hd : scheduleDirective argument = .ok directive) :
    directive.Writable := by
  rw [scheduleDirective] at hd
  split at hd
  next => cases hd
  next written function hcut =>
    obtain ⟨-, sep, -, htrim⟩ := eq_of_cutWhere? hcut
    split at hd
    next => cases hd
    next => cases hd
    next seconds hzero hseconds =>
      split at hd
      next => cases hd
      next name hname =>
        obtain rfl := Except.ok.inj hd
        refine ⟨Nat.pos_of_ne_zero hzero, ?_, by simpa using hname, ?_⟩
        · rw [Decimal.unsigned?.eq_def, Option.filter_eq_some_iff] at hseconds
          simpa using hseconds.2
        · refine writablePath_without fun hc => h (mem_of_mem_trim ?_)
          rw [htrim]
          exact List.mem_append_right _ (List.mem_cons_of_mem _ (mem_of_mem_trim hc))

/-! ## Modules -/

theorem moduleRead_moduleName? {line : List Char} (h : '\n' ∉ line) {name : String}
    (hname : moduleName? line = some name) : ModuleRead name := by
  rw [moduleName?] at hname
  split at hname
  next => cases hname
  next kept hkept =>
    split at hname
    next => cases hname
    next hcomment =>
      obtain rfl := Option.some.inj hname
      refine ⟨by simpa using hkept, by rw [Trimmed, String.toList_ofList, trim_trim],
        fun c hc => ?_, ?_⟩
      · rw [String.toList_ofList] at hc
        have hplain := (dropEndWhile_isPrefix _ _).subset (mem_of_mem_trim hc)
        obtain ⟨hline, hquote⟩ := mem_without.1 hplain
        have hnewline : c ≠ '\n' := fun heq => h (heq ▸ hline)
        simp_all
      · rwa [String.toList_ofList, ne_eq, ← startsWithChar_iff]

theorem moduleRead_readModules {modules : List String} {lines : List (List Char)}
    (hmodules : ∀ name ∈ modules, ModuleRead name) (hlines : ∀ line ∈ lines, '\n' ∉ line)
    {directive : Directive} (h : (readModules modules lines).1 = .ok directive) :
    ∃ names, directive = .load names ∧ ∀ name ∈ names, ModuleRead name := by
  induction lines generalizing modules with
  | nil => cases h
  | cons line rest ih =>
    obtain ⟨hline, hrest⟩ := List.forall_mem_cons.1 hlines
    rw [readModules] at h
    split at h
    next => exact ⟨modules, (Except.ok.inj h).symm, hmodules⟩
    next =>
      refine ih (fun name hname => ?_) hrest h
      rcases List.mem_append.1 hname with hname | hname
      · exact hmodules name hname
      · exact moduleRead_moduleName? (fun hc => hline (mem_of_mem_trim hc))
          (Option.mem_toList.1 hname)

/-! ## Directives -/

end Script

/-- What is known of a directive that was read. -/
def Directive.Readable : Directive → Prop
  | .load modules => ∀ name ∈ modules, ModuleRead name
  | directive => directive.Writable

theorem Directive.Writable.readable {directive : Directive} (h : directive.Writable) :
    directive.Readable := by
  cases directive with
  | load modules => exact fun name hname => (h name hname).1
  | assign | beginFunction | endFunction | act => exact h

namespace Script

theorem readable_readLoad {argument : List Char} {rest : List (List Char)}
    (hrest : ∀ line ∈ rest, '\n' ∉ line) {directive : Directive}
    (h : (readLoad argument rest).1 = .ok directive) : directive.Readable := by
  have hmodules : ∀ lines, lines <:+ rest → (readModules [] lines).1 = .ok directive →
      directive.Readable := by
    intro lines hsuffix hread
    obtain ⟨names, rfl, hnames⟩ := moduleRead_readModules (by simp)
      (fun line hline => hrest line (hsuffix.subset hline)) hread
    exact hnames
  rw [readLoad.eq_def] at h
  split at h
  next => exact hmodules _ List.suffix_rfl h
  next =>
    split at h
    next => cases h
    next line after =>
      split at h
      next => exact hmodules _ (List.suffix_cons line after) h
      next => cases h

/-- The line below a command only says whether to wait. -/
theorem readRun_fst (command : String) (rest : List (List Char)) :
    ∃ wait, (readRun command rest).1 = .act (.run command wait) := by
  rw [readRun.eq_def]
  split
  · exact ⟨_, rfl⟩
  · split <;> exact ⟨_, rfl⟩

theorem readable_readKeyword {keyword : Keyword} {line argument : List Char}
    {rest : List (List Char)} (hline : '\n' ∉ line) (hargument : '\n' ∉ argument)
    (hrest : ∀ line ∈ rest, '\n' ∉ line) {directive : Directive}
    (h : (readKeyword keyword line argument rest).1 = .ok directive) : directive.Readable := by
  cases keyword
  case load => exact readable_readLoad hrest h
  all_goals refine Directive.Writable.readable ?_
  case start => exact writable_startDirective hargument h
  case finish => exact Except.ok.inj h ▸ trivial
  case «variable» => exact writable_assignDirective hargument h
  case copyFile | moveFile | editFile =>
    exact writable_withBlock hrest h fun block hblock => ⟨hblock.getD _, hblock.getD _⟩
  case log => exact Except.ok.inj h ▸ free_textArgument hargument
  case run =>
    obtain ⟨wait, hrun⟩ := readRun_fst (textArgument argument) rest
    obtain rfl : (readRun (textArgument argument) rest).1 = directive := Except.ok.inj h
    rw [hrun]
    exact free_textArgument hargument
  case deleteFile | deleteFolder | addFolder | addFile =>
    exact Except.ok.inj h ▸ writablePath_pathArgument hargument
  case schedule => exact writable_scheduleDirective hargument h
  case connect | query | api | web =>
    exact writable_withBlock hrest h fun block hblock => ⟨writableTitle_blockTitle hline, hblock⟩

/-- What begins with a keyword is the keyword and its argument. -/
theorem eq_of_keyword? {line argument : List Char} {keyword : Keyword}
    (h : keyword? line = some (keyword, argument)) : line = keyword.text.toList ++ argument := by
  obtain ⟨found, -, hfound⟩ := List.exists_of_findSome?_eq_some h
  obtain ⟨rest, hdrop, heq⟩ := Option.map_eq_some_iff.1 hfound
  obtain ⟨rfl, rfl⟩ := Prod.mk.inj heq
  exact dropPrefix?_eq_some.1 hdrop

/-- **What is read can be written**, modules aside: a directive that is read from any lines is
readable. -/
theorem readable_of_next? {lines rest : List (List Char)} {directive : Directive}
    (hlines : ∀ line ∈ lines, '\n' ∉ line) (h : next? lines = some (.ok directive, rest)) :
    directive.Readable := by
  obtain ⟨before, line, below, keyword, argument, rfl, hkeyword, hread⟩ := exists_keyword_of_next? h
  obtain ⟨hline, hbelow⟩ := List.forall_mem_cons.1 (List.forall_mem_append.1 hlines).2
  have htrim : '\n' ∉ trim line := fun hc => hline (mem_of_mem_trim hc)
  have hargument : '\n' ∉ argument := fun hc =>
    htrim (eq_of_keyword? hkeyword ▸ List.mem_append_right _ hc)
  exact readable_readKeyword htrim hargument hbelow (congrArg Prod.fst hread)

end Script

end SiteScript
