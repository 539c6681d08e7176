import SiteScript.Proofs.Json.Numerals
import SiteScript.Proofs.Script.Writable
import SiteScript.Script.Printer

/-!
# SiteScript.Proofs.Script.RoundTrip

The canonical text of a script reads as the script, exactly when every directive of it is writable
(`parse_render_eq_iff`).

* **Forwards** — one lemma for each shape of a directive: an argument between quotes, a block of
  entries, a title with a block, a block of modules.  Each takes exactly the lines of its directive, so
  the directives are read one after another (`next?_written`).
* **Backwards** — what is read is readable (`readable_of_next?`), which is all that was asked for except
  of modules; there, as many modules as lines are only read when every line names its own
  (`writable_load`).
-/

namespace SiteScript.Script

open Text

/-- The lines of a directive. -/
def written (directive : Directive) : List (List Char) :=
  (directiveLines directive).map String.toList

/-! ## Quoted texts -/

theorem toList_quotedText (text : String) :
    (quotedText text).toList = '"' :: (text.toList ++ ['"']) := by
  simp [quotedText]

theorem trim_quotedText (text : String) :
    trim (' ' :: (quotedText text).toList) = (quotedText text).toList := by
  rw [trim_cons_of_blank (by decide), toList_quotedText, trim_between (by decide) (by decide)]

theorem textArgument_quotedText (text : String) :
    textArgument (' ' :: (quotedText text).toList) = text := by
  rw [textArgument, trim_quotedText, toList_quotedText]
  simp [dropOuterQuotes]

theorem pathArgument_quotedText {path : String} (h : WritablePath path) :
    pathArgument (' ' :: (quotedText path).toList) = path := by
  rw [pathArgument, trim_quotedText, toList_quotedText]
  have hquote : '"' ∉ path.toList := h.not_mem (by simp)
  have hwithout : without '"' ('"' :: (path.toList ++ ['"'])) = without '"' path.toList := by
    simp [without]
  rw [hwithout, without_eq_self hquote, String.ofList_toList]

/-! ## Headers -/

theorem trim_keyword (keyword : Keyword) {argument : List Char}
    (h : ∀ c ∈ argument.getLast?, isBlank c = false) :
    trim (keyword.text.toList ++ argument) = keyword.text.toList ++ argument := by
  have hsolid : ∀ c ∈ keyword.text.toList, isBlank c = false := by
    have hall : keyword.text.toList.all (!isBlank ·) = true := by cases keyword <;> rfl
    simpa using hall
  have hne : keyword.text.toList ≠ [] := by cases keyword <;> decide
  refine trim_eq_self_iff.2 ⟨fun c hc => ?_, fun c hc => ?_⟩
  · obtain ⟨first, text, htext⟩ := List.exists_cons_of_ne_nil hne
    rw [htext] at hc hsolid
    exact hsolid c (List.mem_of_mem_head? hc)
  · rw [List.getLast?_append, Option.mem_def, Option.or_eq_some_iff] at hc
    rcases hc with hc | ⟨-, hc⟩
    · exact h c hc
    · exact hsolid c (List.mem_of_getLast? hc)

/-- A line of a keyword and its argument is read as that. -/
theorem next?_keyword (keyword : Keyword) {argument : List Char}
    (h : ∀ c ∈ argument.getLast?, isBlank c = false) (rest : List (List Char)) :
    next? ((keyword.text.toList ++ argument) :: rest) =
      some (readKeyword keyword (keyword.text.toList ++ argument) argument rest) := by
  have hkeyword : keyword? (trim (keyword.text.toList ++ argument)) = some (keyword, argument) := by
    rw [trim_keyword keyword h, keyword?_text]
  rw [next?_of_keyword? hkeyword, trim_keyword keyword h]

/-- A line of a keyword, a blank and a text that does not end with a blank. -/
theorem next?_header (keyword : Keyword) {header text : String}
    (hheader : header = keyword.text ++ " ") {last : Char} (hlast : text.toList.getLast? = some last)
    (hblank : isBlank last = false) (rest : List (List Char)) :
    next? ((header ++ text).toList :: rest) =
      some (readKeyword keyword (header ++ text).toList (' ' :: text.toList) rest) := by
  have hline : (header ++ text).toList = keyword.text.toList ++ ' ' :: text.toList := by
    simp [hheader]
  rw [hline]
  refine next?_keyword keyword (fun c hc => ?_) rest
  rw [List.getLast?_cons, hlast] at hc
  obtain rfl : last = c := by simpa using hc
  exact hblank

theorem getLast?_append_quotedText (before text : String) :
    (before ++ quotedText text).toList.getLast? = some '"' := by
  simp [toList_quotedText, List.getLast?_cons]

/-- A line of a keyword and a quoted text. -/
theorem next?_quoted (keyword : Keyword) {header : String} (hheader : header = keyword.text ++ " ")
    (text : String) (rest : List (List Char)) :
    next? ((header ++ quotedText text).toList :: rest) =
      some (readKeyword keyword (header ++ quotedText text).toList
        (' ' :: (quotedText text).toList) rest) :=
  next?_header keyword hheader (getLast?_append_quotedText "" text) (by decide) rest

/-! ## Blocks of entries -/

/-- The line of an entry. -/
def entryLine (entry : String × String) : List Char :=
  '"' :: (entry.1.toList ++ '"' :: ':' :: ' ' :: '"' :: (entry.2.toList ++ ['"', ',']))

theorem map_toList_entryLines (entries : List (String × String)) :
    (entryLines entries).map String.toList = ['{'] :: (entries.map entryLine ++ [['}']]) := by
  have hline : ∀ entry : String × String,
      (quotedText entry.1 ++ ": " ++ quotedText entry.2 ++ ",").toList = entryLine entry := by
    intro entry
    simp [toList_quotedText, entryLine]
  simp only [entryLines, bracedLines, List.map_cons, List.map_append, List.map_map, List.map_nil,
    List.cons_append]
  congr 2
  exact List.map_congr_left fun entry _ => hline entry

/-- The line of an entry reads as the entry. -/
theorem blockEntry?_entryLine {key value : String} (hkey : WritableKey key)
    (hvalue : WritableValue value) :
    blockEntry? (entryLine (key, value)) = some (key, value) := by
  obtain ⟨hne, htrim, hfree⟩ := hkey
  have hcut : cut? ':' (entryLine (key, value)) =
      some ('"' :: (key.toList ++ ['"']), ' ' :: '"' :: (value.toList ++ ['"', ','])) := by
    have hcolon : ':' ∉ '"' :: (key.toList ++ ['"']) := by
      simpa using hfree.not_mem (by simp)
    simpa [entryLine] using cut?_append hcolon (' ' :: '"' :: (value.toList ++ ['"', ',']))
  have hname : ('"' :: (key.toList ++ ['"'])).filter (fun c => c != '"' && c != ',') = key.toList := by
    have hkeep : key.toList.filter (fun c => c != '"' && c != ',') = key.toList :=
      List.filter_eq_self.2 fun c hc => by
        have hmarks := hfree c hc
        simp_all
    simpa using hkeep
  have hread : blockValueChars (' ' :: '"' :: (value.toList ++ ['"', ','])) = value.toList := by
    have htext : trim (' ' :: '"' :: (value.toList ++ ['"', ','])) =
        '"' :: (value.toList ++ ['"', ',']) := by
      rw [trim_cons_of_blank (by decide)]
      simpa using trim_between (by decide) (by decide) (value.toList ++ ['"'])
    rw [blockValueChars, htext]
    simp [quotedValue?_append hvalue.2 (show isValueEnd [','] = true from rfl)]
  rw [ blockEntry?, if_neg (by simp [entryLine, startsWithChar]), hcut]
  have htrimmed : trim key.toList = key.toList := htrim
  simp only [hname, htrimmed, hread, String.ofList_toList]
  split
  next hnil => exact absurd (String.toList_eq_nil_iff.1 hnil) hne
  next => rw [String.ofList_toList]

theorem trim_entryLine (entry : String × String) : trim (entryLine entry) = entryLine entry := by
  simpa [entryLine] using @trim_between '"' ',' (by decide) (by decide)
    (entry.1.toList ++ '"' :: ':' :: ' ' :: '"' :: (entry.2.toList ++ ['"']))

/-- The lines of entries read as the entries, up to the closing brace. -/
theorem readBlockBody_entryLines {entries : List (String × String)}
    (h : WritableEntries entries) (block : Block)
    (rest : List (List Char)) :
    readBlockBody block (entries.map entryLine ++ ['}'] :: rest) =
      (some (entries.foldl (fun block (key, value) => block.insert key value) block), rest) := by
  induction entries generalizing block with
  | nil => rfl
  | cons entry entries ih =>
    obtain ⟨⟨hkey, hvalue⟩, hentries⟩ := List.forall_mem_cons.1 h
    have hopen : startsWithChar '}' (entryLine entry) = false := rfl
    rw [List.map_cons, List.cons_append, readBlockBody, trim_entryLine, hopen,
      if_neg Bool.false_ne_true, addBlockLine, blockEntry?_entryLine hkey hvalue]
    exact ih hentries _

/-- A written block reads as a dictionary of its entries. -/
theorem withBlock_entryLines {header : List Char} (hheader : '{' ∉ header)
    {entries : List (String × String)}
    (h : WritableEntries entries) (make : Block → Action)
    (rest : List (List Char)) :
    withBlock header ((entryLines entries).map String.toList ++ rest) make =
      (.ok (.act (make (.ofList entries))), rest) := by
  have hinline : closesInline header = false := by
    rw [closesInline, cut?_eq_none hheader]
  have hbrace : readBlockBody .empty (['{'] :: (entries.map entryLine ++ ['}'] :: rest)) =
      readBlockBody .empty (entries.map entryLine ++ ['}'] :: rest) := rfl
  have hread : readBlock header ((entryLines entries).map String.toList ++ rest) =
      (some (.ofList entries), rest) := by
    rw [readBlock, hinline, if_neg Bool.false_ne_true, map_toList_entryLines, List.cons_append,
      List.append_assoc, List.singleton_append, hbrace, readBlockBody_entryLines h]
    rfl
  rw [withBlock, hread]

/-- A keyword with a block of entries. -/
theorem next?_entryLines (keyword : Keyword) {make : Block → Action}
    (hmake : ∀ line argument rest, readKeyword keyword line argument rest = withBlock line rest make)
    (hbrace : '{' ∉ keyword.text.toList) {entries : List (String × String)}
    (h : WritableEntries entries) (rest : List (List Char)) :
    next? ((keyword.text :: entryLines entries).map String.toList ++ rest) =
      some (.ok (.act (make (.ofList entries))), rest) := by
  have hline := @next?_keyword keyword [] (by simp) ((entryLines entries).map String.toList ++ rest)
  rw [List.append_nil] at hline
  rw [List.map_cons, List.cons_append, hline, hmake, withBlock_entryLines hbrace h]

theorem writable_pair {first second value value' : String}
    (hkeys : WritableKey first ∧ WritableKey second) (h : WritableValue value ∧ WritableValue value') :
    WritableEntries [(first, value), (second, value')] := by
  simp [WritableEntries, hkeys, h]

/-- A keyword with a block of two entries. -/
theorem next?_pair (keyword : Keyword) {make : String → String → Action} {first second : String}
    (hmake : ∀ line argument rest, readKeyword keyword line argument rest =
      withBlock line rest fun block => make (block.getD first "") (block.getD second ""))
    (hbrace : '{' ∉ keyword.text.toList)
    (hkeys : first ≠ second ∧ WritableKey first ∧ WritableKey second) {value value' : String}
    (h : WritableValue value ∧ WritableValue value') (rest : List (List Char)) :
    next? ((keyword.text :: entryLines [(first, value), (second, value')]).map String.toList ++
      rest) = some (.ok (.act (make value value')), rest) := by
  rw [next?_entryLines keyword hmake hbrace (writable_pair hkeys.2 h)]
  simp [Dictionary.getD, Dictionary.ofList, Dictionary.get?_insert, hkeys.1]

/-- The title between the colon and the block. -/
theorem blockTitle_quotedText {name title : String} (hname : ':' ∉ name.toList)
    (h : WritableTitle title) :
    blockTitle (name ++ ": " ++ quotedText title).toList = title := by
  obtain ⟨htrim, hfree⟩ := h
  have hline : (name ++ ": " ++ quotedText title).toList =
      name.toList ++ ':' :: ' ' :: (quotedText title).toList := by
    simp
  have hbrace : ∀ c ∈ ' ' :: (quotedText title).toList, (c == '{') = false := by
    have hne : ∀ c ∈ title.toList, c ≠ '{' := fun c hc heq => hfree c hc (by simp [heq])
    simpa [toList_quotedText, or_imp, forall_and] using hne
  have hquotes : without '"' (' ' :: (quotedText title).toList) = ' ' :: title.toList := by
    have hplain := without_eq_self (hfree.not_mem (c := '"') (by simp))
    simpa [toList_quotedText, without] using hplain
  rw [blockTitle, hline, cut?_append hname]
  simp only [takeUntil_eq_self hbrace, hquotes]
  rw [trim_cons_of_blank (by decide), htrim, String.ofList_toList]

/-- A keyword with a title and a block of entries. -/
theorem next?_titledLines (keyword : Keyword) {make : String → Block → Action} {name : String}
    (hmake : ∀ line argument rest,
      readKeyword keyword line argument rest = withBlock line rest (make (blockTitle line)))
    (hkeyword : name ++ ": " = keyword.text ++ " ") (hname : ':' ∉ name.toList ∧ '{' ∉ name.toList)
    {title : String} {config : Block} (h : WritableBlock title config) (rest : List (List Char)) :
    next? ((titledLines name title config).map String.toList ++ rest) =
      some (.ok (.act (make title config)), rest) := by
  have hbrace : '{' ∉ (name ++ ": " ++ quotedText title).toList := by
    simpa [toList_quotedText, hname.2] using h.1.2.not_mem (c := '{') (by simp)
  rw [titledLines, List.map_cons, List.cons_append, next?_quoted keyword hkeyword, hmake,
    blockTitle_quotedText hname.1 h.1, withBlock_entryLines hbrace h.2,
    Dictionary.ofList_entries]

/-! ## Blocks of modules -/

/-- As many results as items come out only when each item is its own result. -/
theorem filterMap_eq_self_iff {α : Type} {f : α → Option α} {items : List α} :
    items.filterMap f = items ↔ ∀ item ∈ items, f item = some item := by
  induction items with
  | nil => simp
  | cons item items ih =>
    rw [List.forall_mem_cons, ← ih]
    cases hitem : f item with
    | some result => simp [hitem]
    | none =>
      rw [List.filterMap_cons_none hitem]
      refine iff_of_false (fun heq => ?_) (by simp)
      have hle := List.length_filterMap_le f items
      rw [heq, List.length_cons] at hle
      omega

/-- A line that is a writable name reads as the name. -/
theorem moduleName?_toList {name : String} (h : WritableModule name) :
    moduleName? name.toList = some name := by
  obtain ⟨⟨hne, htrim, hfree, hcomment⟩, -, hcomma⟩ := h
  have htrimmed : trim name.toList = name.toList := htrim
  have hend : dropEndWhile (· == ',') name.toList = name.toList :=
    dropEndWhile_eq_self_iff.2 fun c hc => by
      have hne : c ≠ ',' := fun heq => hcomma (heq ▸ Option.mem_def.1 hc)
      simpa using hne
  rw [moduleName?, without_eq_self (hfree.not_mem (by simp)), hend, htrimmed]
  split
  next hnil => exact absurd (String.toList_eq_nil_iff.1 hnil) hne
  next => rw [if_neg fun h => hcomment (startsWithChar_iff.1 h), String.ofList_toList]

/-- Modules are read from the lines before the first one with a closing brace. -/
theorem readModules_append {body : List (List Char)} {close : List Char}
    (hbody : ∀ line ∈ body, ¬ startsWithChar '}' (trim line) = true)
    (hclose : startsWithChar '}' (trim close) = true) (modules : List String)
    (rest : List (List Char)) :
    readModules modules (body ++ close :: rest) =
      (.ok (.load (modules ++ body.filterMap fun line => moduleName? (trim line))), rest) := by
  induction body generalizing modules with
  | nil => rw [List.nil_append, readModules, if_pos hclose, List.filterMap_nil, List.append_nil]
  | cons line body ih =>
    obtain ⟨hline, hbody⟩ := List.forall_mem_cons.1 hbody
    rw [List.cons_append, readModules, if_neg hline, ih hbody, List.append_assoc]
    cases hname : moduleName? (trim line) <;> simp [hname]

theorem readModules_toList {names : List String} (h : ∀ name ∈ names, WritableModule name)
    (rest : List (List Char)) :
    readModules [] (names.map String.toList ++ ['}'] :: rest) = (.ok (.load names), rest) := by
  have htrim : ∀ name ∈ names, trim name.toList = name.toList := fun name hname =>
    (h name hname).1.2.1
  have hopen : ∀ line ∈ names.map String.toList, ¬ startsWithChar '}' (trim line) = true := by
    intro line hline hclose
    obtain ⟨name, hname, rfl⟩ := List.mem_map.1 hline
    rw [htrim name hname, startsWithChar_iff] at hclose
    exact (h name hname).2.1 hclose
  have hnames : (names.map String.toList).filterMap (fun line => moduleName? (trim line)) = names := by
    rw [List.filterMap_map]
    refine filterMap_eq_self_iff.2 fun name hname => ?_
    rw [Function.comp_apply, htrim name hname, moduleName?_toList (h name hname)]
  rw [readModules_append hopen (by decide), hnames, List.nil_append]

theorem written_load (names : List String) :
    written (.load names) =
      Keyword.load.text.toList :: ['{'] :: (names.map String.toList ++ [['}']]) := by
  simp [written, directiveLines, bracedLines, Keyword.text]

/-- What `load:` does with a block that begins on the next line. -/
theorem next?_load (lines : List (List Char)) :
    next? (Keyword.load.text.toList :: ['{'] :: lines) = some (readModules [] lines) := by
  have hline := @next?_keyword .load [] (by simp) (['{'] :: lines)
  rw [List.append_nil] at hline
  rw [hline]
  rfl

theorem next?_written_load {names : List String} (h : ∀ name ∈ names, WritableModule name)
    (rest : List (List Char)) :
    next? (written (.load names) ++ rest) = some (.ok (.load names), rest) := by
  rw [written_load, List.cons_append, List.cons_append, List.append_assoc, next?_load,
    List.singleton_append, readModules_toList h]

/-! ## Directives on one line -/

theorem startDirective_quotedText {name : String} (hne : name ≠ "") (h : WritablePath name) :
    startDirective (trim (' ' :: (quotedText name).toList)) = .ok (.act (.call name)) := by
  have hname : takeUntil (· == '"') (name.toList ++ ['"']) = name.toList := by
    rw [takeUntil_append fun c hc => by simpa using fun heq => h c hc (by simp [heq])]
    simp [takeUntil]
  rw [trim_quotedText, toList_quotedText]
  simp only [startDirective, hname]
  split
  next hnil => exact absurd (String.toList_eq_nil_iff.1 hnil) hne
  next => rw [String.ofList_toList]

theorem startDirective_word {name : String} (hne : name ≠ "")
    (hblank : Solid name) (hquote : name.toList.head? ≠ some '"') :
    startDirective (trim (' ' :: name.toList)) = .ok (.beginFunction name) := by
  have hstart : trimStart name.toList = name.toList :=
    dropWhile_eq_self_iff.2 fun c hc => hblank c (List.mem_of_mem_head? hc)
  have hword : firstWord? name.toList = some name.toList := by
    rw [firstWord?, hstart, takeUntil_eq_self hblank]
    split
    next hnil => exact absurd (String.toList_eq_nil_iff.1 hnil) hne
    next => rfl
  rw [trim_cons_of_blank (by decide), trim_eq_self hblank, startDirective.eq_def, hword]
  split
  next heq => exact absurd (by rw [heq]; rfl) hquote
  next => simp

/-- An argument that begins with a word and ends with a quoted text. -/
theorem trim_append_quotedText {word : List Char} (hne : word ≠ [])
    (hword : ∀ c ∈ word.head?, isBlank c = false) (between : List Char) (text : String) :
    trim (' ' :: (word ++ between ++ (quotedText text).toList)) =
      word ++ between ++ (quotedText text).toList := by
  obtain ⟨c, word, rfl⟩ := List.exists_cons_of_ne_nil hne
  rw [trim_cons_of_blank (by decide), toList_quotedText]
  simpa using @trim_between c '"' (hword c rfl) (by decide) (word ++ between ++ '"' :: text.toList)

theorem assignDirective_quotedText {key : String} (hne : key ≠ "") (htrim : Trimmed key)
    (hfree : Free [':', '\n'] key) (value : String) :
    assignDirective (' ' :: (key ++ ": " ++ quotedText value).toList) = .ok (.assign key value) := by
  have hchars : key.toList ≠ [] := fun hnil => hne (String.toList_eq_nil_iff.1 hnil)
  have hline : (key ++ ": " ++ quotedText value).toList =
      key.toList ++ [':', ' '] ++ (quotedText value).toList := by
    simp
  have hcut : cut? ':' (key.toList ++ [':', ' '] ++ (quotedText value).toList) =
      some (key.toList, ' ' :: (quotedText value).toList) := by
    simpa using cut?_append (hfree.not_mem (by simp)) (' ' :: (quotedText value).toList)
  have hkey : trim key.toList = key.toList := htrim
  have hvalue := textArgument_quotedText value
  rw [textArgument] at hvalue
  rw [assignDirective, hline,
    trim_append_quotedText hchars (trim_eq_self_iff.1 htrim).1, hcut]
  simp only [hkey, hvalue, String.ofList_toList]

theorem isBlank_of_isDigit {c : Char} (h : c.isDigit = true) : isBlank c = false := by
  have hrange : 48 ≤ c.toNat ∧ c.toNat ≤ 57 := by
    simpa [Char.isDigit, UInt32.le_iff_toNat_le] using h
  simp only [isBlank, Bool.or_eq_false_iff, Bool.and_eq_false_iff, decide_eq_false_iff_not,
    beq_eq_false_iff_ne]
  omega

theorem scheduleDirective_quotedText {seconds : Nat} {function : String} (hpos : 0 < seconds)
    (hmax : seconds ≤ maxInterval) (hne : function ≠ "") (h : WritablePath function) :
    scheduleDirective (' ' :: (Decimal.text seconds ++ " " ++ quotedText function).toList) =
      .ok (.act (.schedule seconds function)) := by
  have hdigits : ∀ c ∈ Decimal.ofNat seconds, isBlank c = false := fun c hc =>
    isBlank_of_isDigit (Decimal.isDigit_of_mem_ofNat hc)
  have hline : (Decimal.text seconds ++ " " ++ quotedText function).toList =
      Decimal.ofNat seconds ++ [' '] ++ (quotedText function).toList := by
    simp [Decimal.text]
  have hcut : cutWhere? isBlank (Decimal.ofNat seconds ++ [' '] ++ (quotedText function).toList) =
      some (Decimal.ofNat seconds, (quotedText function).toList) := by
    simpa using cutWhere?_append hdigits (c := ' ') (by decide) (quotedText function).toList
  have hname : String.ofList (without '"' (trim (quotedText function).toList)) = function := by
    have hpath := pathArgument_quotedText h
    rwa [pathArgument, trim_cons_of_blank (by decide)] at hpath
  have hne' : Decimal.ofNat seconds ≠ [] := Nat.toDigits_ne_nil
  rw [scheduleDirective, hline,
    trim_append_quotedText hne' fun c hc => hdigits c (List.mem_of_mem_head? hc), hcut]
  simp only [Decimal.unsigned?_ofNat hmax]
  split
  next heq => cases heq
  next heq => exact absurd (Option.some.inj heq) (Nat.ne_of_gt hpos)
  next seconds' _ heq =>
    obtain rfl := Option.some.inj heq
    split
    next hnil => rw [hnil] at hname; exact absurd hname.symm hne
    next => rw [hname]

/-! ## Every directive -/

/-- **A writable directive is read from its lines**, and no line more or less is taken. -/
theorem next?_written {directive : Directive} (h : directive.Writable) (rest : List (List Char)) :
    next? (written directive ++ rest) = some (.ok directive, rest) := by
  match directive with
  | .assign key value =>
    have hline : written (.assign key value) =
        [("VB: " ++ (key ++ ": " ++ quotedText value)).toList] := by
      simp [written, directiveLines, String.append_assoc]
    rw [hline]
    refine (next?_header .variable rfl (getLast?_append_quotedText _ value) (by decide) rest).trans ?_
    rw [readKeyword, assignDirective_quotedText h.1 h.2.1 h.2.2.1]
  | .beginFunction name =>
    have hchars : name.toList ≠ [] := fun hnil => h.1 (String.toList_eq_nil_iff.1 hnil)
    have hlast := List.getLast?_eq_some_getLast hchars
    refine (next?_header .start rfl hlast (h.2.1 _ (List.getLast_mem hchars)) rest).trans ?_
    rw [readKeyword, startDirective_word h.1 h.2.1 h.2.2]
  | .endFunction => exact @next?_keyword .finish [] (by simp) rest
  | .load names => exact next?_written_load h rest
  | .act (.log message) =>
    refine (next?_quoted .log rfl message rest).trans ?_
    rw [readKeyword, textArgument_quotedText]
  | .act (.copyFile source target) =>
    exact next?_pair .copyFile (fun _ _ _ => rfl) (by decide) (by decide +kernel) h rest
  | .act (.moveFile source target) =>
    exact next?_pair .moveFile (fun _ _ _ => rfl) (by decide) (by decide +kernel) h rest
  | .act (.editFile path content) =>
    exact next?_pair .editFile (fun _ _ _ => rfl) (by decide) (by decide +kernel) h rest
  | .act (.deleteFile path) =>
    refine (next?_quoted .deleteFile rfl path rest).trans ?_
    rw [readKeyword, pathArgument_quotedText h]
  | .act (.deleteFolder path) =>
    refine (next?_quoted .deleteFolder rfl path rest).trans ?_
    rw [readKeyword, pathArgument_quotedText h]
  | .act (.addFolder path) =>
    refine (next?_quoted .addFolder rfl path rest).trans ?_
    rw [readKeyword, pathArgument_quotedText h]
  | .act (.addFile path) =>
    refine (next?_quoted .addFile rfl path rest).trans ?_
    rw [readKeyword, pathArgument_quotedText h]
  | .act (.run command wait) =>
    refine (next?_quoted .run rfl command (_ :: rest)).trans ?_
    rw [readKeyword, textArgument_quotedText]
    cases wait <;> rfl
  | .act (.call name) =>
    refine (next?_quoted .start rfl name rest).trans ?_
    rw [readKeyword, startDirective_quotedText h.1 h.2]
  | .act (.schedule seconds function) =>
    have hline : written (.act (.schedule seconds function)) =
        [("schedule: " ++ (Decimal.text seconds ++ " " ++ quotedText function)).toList] := by
      simp [written, directiveLines, actionLines, String.append_assoc]
    rw [hline]
    refine (next?_header .schedule rfl (getLast?_append_quotedText _ function) (by decide)
      rest).trans ?_
    rw [readKeyword, scheduleDirective_quotedText h.1 h.2.1 h.2.2.1 h.2.2.2]
  | .act (.connect id config) =>
    exact next?_titledLines .connect (fun _ _ _ => rfl) rfl (by decide) h rest
  | .act (.query connection config) =>
    exact next?_titledLines .query (fun _ _ _ => rfl) rfl (by decide) h rest
  | .act (.declareApi name config) =>
    exact next?_titledLines .api (fun _ _ _ => rfl) rfl (by decide) h rest
  | .act (.startWeb path config) =>
    exact next?_titledLines .web (fun _ _ _ => rfl) rfl (by decide) h rest

/-! ## Lines -/

theorem newline_not_mem_quoted {header text : String} (hheader : '\n' ∉ header.toList)
    (h : '\n' ∉ text.toList) : '\n' ∉ (header ++ quotedText text).toList := by
  simp [toList_quotedText, hheader, h]

theorem newline_not_mem_entryLines {entries : List (String × String)}
    (h : WritableEntries entries) :
    ∀ line ∈ (entryLines entries).map String.toList, '\n' ∉ line := by
  intro line hline
  rw [map_toList_entryLines] at hline
  simp only [List.mem_cons, List.mem_append, List.mem_map, List.not_mem_nil, or_false] at hline
  rcases hline with rfl | ⟨entry, hentry, rfl⟩ | rfl
  · decide
  · obtain ⟨hkey, hvalue⟩ := h entry hentry
    have hkey : '\n' ∉ entry.1.toList := hkey.2.2.not_mem (by simp)
    have hvalue : '\n' ∉ entry.2.toList := hvalue.1.not_mem (by simp)
    simp [entryLine, hkey, hvalue]
  · decide

theorem newline_not_mem_titledLines {name title : String} {config : Block}
    (hname : '\n' ∉ (name ++ ": ").toList) (h : WritableBlock title config) :
    ∀ line ∈ (titledLines name title config).map String.toList, '\n' ∉ line :=
  List.forall_mem_cons.2 ⟨newline_not_mem_quoted hname (h.1.2.not_mem (by simp)),
    newline_not_mem_entryLines h.2⟩

theorem newline_not_mem_load {names : List String} (h : ∀ name ∈ names, '\n' ∉ name.toList) :
    ∀ line ∈ written (.load names), '\n' ∉ line := by
  intro line hline
  rw [written_load] at hline
  simp only [List.mem_cons, List.mem_append, List.mem_map, List.not_mem_nil, or_false] at hline
  rcases hline with rfl | rfl | ⟨name, hname, rfl⟩ | rfl
  · decide
  · decide
  · exact h name hname
  · decide

/-- The lines of a writable directive are lines. -/
theorem newline_not_mem_written {directive : Directive} (h : directive.Writable) :
    ∀ line ∈ written directive, '\n' ∉ line := by
  match directive with
  | .assign key value =>
    have hkey : '\n' ∉ key.toList := h.2.2.1.not_mem (by simp)
    exact List.forall_mem_singleton.2
      (newline_not_mem_quoted (by simp [hkey]) (h.2.2.2.not_mem (by simp)))
  | .beginFunction name =>
    have hname : '\n' ∉ name.toList := fun hc => absurd (h.2.1 _ hc) (by decide)
    exact List.forall_mem_singleton.2 (by simp [hname])
  | .endFunction => exact List.forall_mem_singleton.2 (by decide)
  | .load names =>
    exact newline_not_mem_load fun name hname => (h name hname).1.2.2.1.not_mem (by simp)
  | .act (.log text) | .act (.deleteFile text) | .act (.deleteFolder text)
  | .act (.addFolder text) | .act (.addFile text) =>
    exact List.forall_mem_singleton.2
      (newline_not_mem_quoted (by decide) (Free.not_mem h (by simp)))
  | .act (.call name) =>
    exact List.forall_mem_singleton.2
      (newline_not_mem_quoted (by decide) (Free.not_mem h.2 (by simp)))
  | .act (.run command wait) =>
    refine List.forall_mem_cons.2 ⟨newline_not_mem_quoted (by decide) (Free.not_mem h (by simp)),
      List.forall_mem_singleton.2 (newline_not_mem_quoted (by decide) ?_)⟩
    cases wait <;> decide
  | .act (.schedule seconds function) =>
    have hdigits : '\n' ∉ Decimal.ofNat seconds := fun hc =>
      absurd (isBlank_of_isDigit (Decimal.isDigit_of_mem_ofNat hc)) (by decide)
    exact List.forall_mem_singleton.2 (newline_not_mem_quoted (by simp [Decimal.text, hdigits])
      (Free.not_mem h.2.2.2 (by simp)))
  | .act (.copyFile _ _) | .act (.moveFile _ _) | .act (.editFile _ _) =>
    exact List.forall_mem_cons.2 ⟨by decide,
      newline_not_mem_entryLines (writable_pair (by decide +kernel) h)⟩
  | .act (.connect title config) | .act (.query title config) | .act (.declareApi title config)
  | .act (.startWeb title config) =>
    exact newline_not_mem_titledLines (by decide) h

/-- The lines that a directive takes up in a text, should its own texts have newlines. -/
def pieces (directive : Directive) : List (List Char) :=
  (written directive).flatMap (split '\n')

theorem pieces_eq_written {directive : Directive} (h : directive.Writable) :
    pieces directive = written directive :=
  flatMap_split (newline_not_mem_written h)

theorem newline_not_mem_pieces (directives : List Directive) :
    ∀ line ∈ directives.flatMap pieces, '\n' ∉ line := by
  intro line hline
  obtain ⟨directive, -, hline⟩ := List.mem_flatMap.1 hline
  obtain ⟨text, -, hline⟩ := List.mem_flatMap.1 hline
  exact not_mem_of_mem_split hline

theorem written_ne_nil (directive : Directive) : written directive ≠ [] := by
  match directive with
  | .assign _ _ | .beginFunction _ | .endFunction | .load _ => exact List.cons_ne_nil _ _
  | .act action => cases action <;> exact List.cons_ne_nil _ _

/-- The lines of a canonical text are those of its directives. -/
theorem readings_render (directives : List Directive) :
    readings (lines (render directives)) = readings (directives.flatMap pieces) := by
  cases directives with
  | nil => exact readings_empty_line.trans readings_nil.symm
  | cons directive directives =>
    have hmap : ((directive :: directives).flatMap directiveLines).map String.toList =
        (directive :: directives).flatMap written := List.map_flatMap
    have hne : (directive :: directives).flatMap written ≠ [] := by
      simp [written_ne_nil]
    rw [lines, render, String.toList_ofList, hmap, split_join_flatMap hne, List.flatMap_assoc]
    rfl

/-! ## Back from the lines -/

/-- A name that its own line gives does not end with a comma. -/
theorem getLast?_of_moduleName? {name : String} (hread : ModuleRead name)
    (h : moduleName? name.toList = some name) : name.toList.getLast? ≠ some ',' := by
  obtain ⟨-, -, hfree, -⟩ := hread
  rw [moduleName?, without_eq_self (hfree.not_mem (by simp))] at h
  split at h
  next => cases h
  next =>
    split at h
    next => cases h
    next =>
      -- neither the commas nor the blanks can have been any
      have htext : trim (dropEndWhile (· == ',') name.toList) = name.toList := by
        rw [← String.toList_ofList (l := trim _), Option.some.inj h]
      have hkept := dropEndWhile_isPrefix (· == ',') name.toList
      have hlength := (trim_isInfix (dropEndWhile (· == ',') name.toList)).length_le
      rw [htext] at hlength
      have hcommas := dropEndWhile_eq_self_iff.1 (hkept.eq_of_length_le hlength)
      exact fun hlast => by simpa using hcommas _ hlast

/-- When modules are read from as many lines, none of the lines closes the block. -/
theorem not_closing_of_readModules {lines rest after : List (List Char)} {names : List String}
    (h : readModules [] (lines ++ ['}'] :: rest) = (.ok (.load names), after))
    (hlength : names.length = lines.length) :
    ∀ line ∈ lines, ¬ startsWithChar '}' (trim line) = true := by
  intro line hline hclose
  obtain ⟨first, hfind⟩ : ∃ first, lines.find? (fun line => startsWithChar '}' (trim line)) =
      some first := Option.isSome_iff_exists.1 (List.find?_isSome.2 ⟨line, hline, hclose⟩)
  obtain ⟨hfirst, before, later, rfl, hbefore⟩ := List.find?_eq_some_iff_append.1 hfind
  have hopen : ∀ line ∈ before, ¬ startsWithChar '}' (trim line) = true := fun line hline => by
    simpa using hbefore line hline
  -- the block ends with the first such line, and the lines before it are too few
  rw [List.append_assoc, List.cons_append, readModules_append hopen hfirst, List.nil_append] at h
  have hnames : before.filterMap (fun line => moduleName? (trim line)) = names := by
    simpa using congrArg Prod.fst h
  have hle := List.length_filterMap_le (fun line => moduleName? (trim line)) before
  rw [hnames, hlength, List.length_append, List.length_cons] at hle
  omega

/-- Modules that are read from their own lines are writable. -/
theorem writable_load {names : List String} {rest after : List (List Char)}
    (hlines : ∀ line ∈ pieces (.load names) ++ rest, '\n' ∉ line)
    (h : next? (pieces (.load names) ++ rest) = some (.ok (.load names), after)) :
    ∀ name ∈ names, WritableModule name := by
  have hread : ∀ name ∈ names, ModuleRead name := readable_of_next? hlines h
  have hpieces : pieces (.load names) = written (.load names) :=
    flatMap_split (newline_not_mem_load fun name hname => (hread name hname).2.2.1.not_mem (by simp))
  rw [hpieces, written_load, List.cons_append, List.cons_append, List.append_assoc, next?_load,
    List.singleton_append, Option.some.injEq] at h
  have hopen := not_closing_of_readModules h (List.length_map _).symm
  have hnames : (names.map String.toList).filterMap (fun line => moduleName? (trim line)) = names := by
    rw [readModules_append hopen (by decide)] at h
    simpa using congrArg Prod.fst h
  rw [List.filterMap_map, filterMap_eq_self_iff] at hnames
  intro name hname
  have htrim : trim name.toList = name.toList := (hread name hname).2.1
  have hown := hnames name hname
  have hbrace := hopen name.toList (List.mem_map_of_mem hname)
  rw [Function.comp_apply, htrim] at hown
  rw [htrim, startsWithChar_iff] at hbrace
  exact ⟨hread name hname, hbrace, getLast?_of_moduleName? (hread name hname) hown⟩

theorem writable_of_next? {directive : Directive} {rest after : List (List Char)}
    (hlines : ∀ line ∈ pieces directive ++ rest, '\n' ∉ line)
    (h : next? (pieces directive ++ rest) = some (.ok directive, after)) : directive.Writable := by
  match directive with
  | .load names => exact writable_load hlines h
  | .assign _ _ | .beginFunction _ | .endFunction | .act _ => exact readable_of_next? hlines h

/-! ## Whole scripts -/

theorem readings_pieces_iff (directives : List Directive) :
    readings (directives.flatMap pieces) = directives.map .ok ↔
      ∀ directive ∈ directives, directive.Writable := by
  induction directives with
  | nil => simp
  | cons directive directives ih =>
    have hlines := newline_not_mem_pieces (directive :: directives)
    rw [List.flatMap_cons] at hlines ⊢
    rw [List.map_cons, List.forall_mem_cons, ← ih]
    constructor
    · intro h
      obtain ⟨rest, hnext, hrest⟩ := next?_of_readings h
      have hwritable := writable_of_next? hlines hnext
      rw [pieces_eq_written hwritable, next?_written hwritable] at hnext
      obtain rfl := (Prod.mk.inj (Option.some.inj hnext)).2
      exact ⟨hwritable, hrest⟩
    · rintro ⟨hwritable, hrest⟩
      rw [pieces_eq_written hwritable, readings_of_next? (next?_written hwritable _), hrest]

/-- **Canonical texts read as what they were written from**, exactly when every directive is
writable: then each directive is yielded in order and nothing else, and otherwise the parse is not
the script. -/
theorem parse_render_eq_iff (file : String) (directives : List Directive) :
    parse file (render directives) = directives.map .ok ↔
      ∀ directive ∈ directives, directive.Writable := by
  rw [parse_eq_ok_iff, readings_render, readings_pieces_iff]

-- quotes inside a value are no obstacle, unless what follows one looks like the end of the line
example : (Directive.act (.copyFile "say \"hi\", twice" "b")).Writable ∧
    ¬ (Directive.act (.copyFile "say \"hi\", # twice" "b")).Writable := by decide +kernel

end SiteScript.Script
