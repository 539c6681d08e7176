import Mathlib.Data.List.Forall2
import SiteScript.Proofs.Bundle
import SiteScript.Proofs.Loading
import SiteScript.Proofs.Script.Stripping

/-!
# SiteScript.Proofs.Distribution

A distributable bundle does what the full one does.

1. Two texts say the same when their parses differ in nothing but the lines of their errors
   (`SaySame`); a clear script and its stripped text do (`saySame_stripComments`).
2. Bundles of the same paths whose scripts say the same unfold alike: the same scripts are loaded, and
   the steps agree one by one (`alike_ofFile`).  One lemma a level, up to the recursion on the bound.
3. The distributable bundle opens as the files with their scripts stripped, so both come together
   (`distributable_runs_alike`).
4. The scripts that it opens as have the lines of the given ones that are no comments, and there is
   nothing left to strip (`distributable_lines`).
-/

namespace SiteScript

/-! ## Scripts that say the same -/

namespace Script

/-- Two texts of a script with the same parse, the lines of the errors aside. -/
def SaySame (file text text' : String) : Prop :=
  (parse file text).map (Except.mapError ParseError.unplaced) =
    (parse file text').map (Except.mapError ParseError.unplaced)

/-- A clear script and its stripped text say the same. -/
theorem saySame_stripComments (file : String) {text : String} (h : Clear (Text.lines text)) :
    SaySame file (stripComments text) text := by
  rw [SaySame, map_unplaced_parse, map_unplaced_parse, readings_stripComments h]

end Script

/-! ## Unfoldings that are alike -/

/-- Two steps that are the same, or report the same malformed directive at different lines. -/
inductive SameStep : Step → Step → Prop where
  | refl (step : Step) : SameStep step step
  | malformed (file : String) (fault : Script.Fault) (line line' : Nat) :
      SameStep (.report (.error (Error.ofParse ⟨file, line, fault⟩).message))
        (.report (.error (Error.ofParse ⟨file, line', fault⟩).message))

namespace Unfolding

/-- The same scripts are loaded, and the steps agree one by one. -/
structure Alike (a b : Unfolding) : Prop where
  steps : List.Forall₂ SameStep a.steps b.steps
  loaded : a.loaded = b.loaded

variable {a b : Unfolding}

theorem Alike.refl (unfolding : Unfolding) : Alike unfolding unfolding :=
  ⟨List.forall₂_same.2 fun step _ => .refl step, rfl⟩

theorem Alike.addSame {step step' : Step} (h : Alike a b) (hstep : SameStep step step') :
    Alike (a.add step) (b.add step') :=
  ⟨List.rel_append h.steps (.cons hstep .nil), h.loaded⟩

theorem Alike.add (h : Alike a b) (step : Step) : Alike (a.add step) (b.add step) :=
  h.addSame (.refl step)

theorem Alike.mark (h : Alike a b) (path : String) : Alike (a.mark path) (b.mark path) :=
  ⟨h.steps, congrArg (path :: ·) h.loaded⟩

theorem Alike.announce (h : Alike a b) (kind path : String) :
    Alike (announce kind a path) (announce kind b path) := by
  rw [Unfolding.announce, Unfolding.announce, h.loaded]
  split
  · exact h
  · exact h.add _

/-- Changes that keep unfoldings alike do so one after another. -/
theorem Alike.foldl {α : Type} {change change' : Unfolding → α → Unfolding}
    (hchange : ∀ ⦃a b⦄, Alike a b → ∀ item, Alike (change a item) (change' b item))
    (h : Alike a b) (items : List α) : Alike (items.foldl change a) (items.foldl change' b) := by
  induction items generalizing a b with
  | nil => exact h
  | cons item items ih => exact ih (hchange h item)

/-- A module's name stands for the same scripts in bundles of the same paths. -/
theorem find_congr {sources sources' : FileMap} (h : sources.keys = sources'.keys)
    (packagesDir name : String) :
    Resolution.find sources packagesDir name = Resolution.find sources' packagesDir name := by
  have hcontains : ∀ path, sources.contains path = sources'.contains path := fun path => by
    rw [Bool.eq_iff_iff, ← Dictionary.mem_keys, ← Dictionary.mem_keys, h]
  simp only [Resolution.find, h, hcontains]

/-- Loaders that keep unfoldings alike. -/
def LoadAlike (load load' : Loader) : Prop :=
  ∀ ⦃a b⦄, Alike a b → ∀ path, Alike (load a path) (load' b path)

theorem alike_loadModule {load load' : Loader} {sources sources' : FileMap}
    (hload : LoadAlike load load') (hkeys : sources.keys = sources'.keys) (packagesDir : String)
    (h : Alike a b) (name : String) :
    Alike (loadModule load sources packagesDir a name)
      (loadModule load' sources' packagesDir b name) := by
  rw [loadModule, loadModule, find_congr hkeys]
  cases Resolution.find sources' packagesDir name with
  | package files =>
    exact Alike.foldl (fun _ _ h path => hload (h.announce "package" path) path) h files
  | file path => exact hload (h.announce "single" path) path
  | missing => exact h.add _

/-- Alike so far, with the same body open. -/
def AlikeState (state state' : State) : Prop :=
  Alike state.1 state'.1 ∧ state.2 = state'.2

/-- Ways to load modules that keep unfoldings alike. -/
def ModulesAlike (loadModules loadModules' : Unfolding → List String → Unfolding) : Prop :=
  ∀ ⦃a b⦄, Alike a b → ∀ modules, Alike (loadModules a modules) (loadModules' b modules)

section Following

variable {loadModules loadModules' : Unfolding → List String → Unfolding} {state state' : State}

theorem alikeState_follow (hmodules : ModulesAlike loadModules loadModules')
    (h : AlikeState state state') (directive : Directive) :
    AlikeState (follow loadModules state directive) (follow loadModules' state' directive) := by
  obtain ⟨a, body⟩ := state
  obtain ⟨b, body'⟩ := state'
  obtain ⟨h, rfl⟩ : Alike a b ∧ body = body' := h
  cases directive with
  | assign key value => exact ⟨h.add _, rfl⟩
  | load modules => exact ⟨hmodules h modules, rfl⟩
  | beginFunction name =>
    cases body with
    | none => exact ⟨h, rfl⟩
    | some body => exact ⟨h.add _, rfl⟩
  | endFunction =>
    cases body with
    | none => exact ⟨h, rfl⟩
    | some body => exact ⟨h.add _, rfl⟩
  | act action =>
    cases body with
    | none => exact ⟨h.add _, rfl⟩
    | some body => exact ⟨h, rfl⟩

/-- Results that differ at most in the line of an error are followed alike. -/
theorem alikeState_followResult (hmodules : ModulesAlike loadModules loadModules')
    (h : AlikeState state state') {result result' : Except Script.ParseError Directive}
    (hresult : result.mapError Script.ParseError.unplaced =
      result'.mapError Script.ParseError.unplaced) :
    AlikeState (followResult loadModules state result)
      (followResult loadModules' state' result') := by
  match result, result', hresult with
  | .ok directive, .ok _, rfl => exact alikeState_follow hmodules h directive
  | .error ⟨file, line, fault⟩, .error ⟨_, line', _⟩, rfl =>
    exact ⟨h.1.addSame (.malformed file fault line line'), h.2⟩

theorem alikeState_results (hmodules : ModulesAlike loadModules loadModules')
    (h : AlikeState state state') {results results' : List (Except Script.ParseError Directive)}
    (hresults : results.map (Except.mapError Script.ParseError.unplaced) =
      results'.map (Except.mapError Script.ParseError.unplaced)) :
    AlikeState (results.foldl (followResult loadModules) state)
      (results'.foldl (followResult loadModules') state') := by
  induction results generalizing results' state state' with
  | nil =>
    obtain rfl : results' = [] := by simpa using hresults.symm
    exact h
  | cons result results ih =>
    cases results' with
    | nil => cases hresults
    | cons result' results' =>
      obtain ⟨hresult, hrest⟩ := List.cons.inj hresults
      exact ih (alikeState_followResult hmodules h hresult) hrest

theorem alike_leave (h : AlikeState state state') (path : String) :
    Alike (leave path state) (leave path state') := by
  rw [leave, leave, ← h.2]
  split
  · exact h.1.add _
  · exact h.1

end Following

section Loading

variable {sources sources' : FileMap}

/-- Bundles of the same paths whose scripts say the same. -/
structure SameScripts (sources sources' : FileMap) : Prop where
  keys : sources.keys = sources'.keys
  texts : ∀ path text text', sources.get? path = some text → sources'.get? path = some text' →
    Script.SaySame path text text'

theorem SameScripts.get?_isSome (h : SameScripts sources sources') (path : String) :
    (sources.get? path).isSome = (sources'.get? path).isSome := by
  rw [Bool.eq_iff_iff]
  exact Dictionary.mem_keys.symm.trans (h.keys ▸ Dictionary.mem_keys)

/-- **Bounded loading keeps unfoldings alike**, whatever the bound. -/
theorem alike_loadFile (hscripts : SameScripts sources sources') (packagesDir : String)
    (fuel : Nat) :
    LoadAlike (loadFile sources packagesDir fuel) (loadFile sources' packagesDir fuel) := by
  induction fuel with
  | zero => exact fun _ _ h _ => h
  | succ fuel ih =>
    intro a b h path
    have hmodules : ModulesAlike
        (fun unfolding modules =>
          modules.foldl (loadModule (loadFile sources packagesDir fuel) sources packagesDir)
            unfolding)
        (fun unfolding modules =>
          modules.foldl (loadModule (loadFile sources' packagesDir fuel) sources' packagesDir)
            unfolding) :=
      fun _ _ h modules =>
        Alike.foldl (fun _ _ h name => alike_loadModule ih hscripts.keys packagesDir h name) h modules
    have hsome := hscripts.get?_isSome path
    rw [loadFile, loadFile, h.loaded]
    split
    · exact h
    · cases htext : sources.get? path with
      | none =>
        rw [htext] at hsome
        have htext' := Option.isNone_iff_eq_none.1 (Option.isSome_eq_false_iff.1 hsome.symm)
        rw [htext']
        exact (h.mark path).add _
      | some text =>
        rw [htext] at hsome
        obtain ⟨text', htext'⟩ := Option.isSome_iff_exists.1 hsome.symm
        have hstate : AlikeState (a.mark path, none) (b.mark path, none) := ⟨h.mark path, rfl⟩
        rw [htext']
        exact alike_leave (alikeState_results hmodules hstate
          (hscripts.texts path text text' htext htext')) path

/-- Loading a script after others is alike in bundles whose scripts say the same. -/
theorem alike_ofFile (hscripts : SameScripts sources sources') (packagesDir : String)
    (loaded : List String) (path : String) :
    Alike (ofFile sources packagesDir loaded path) (ofFile sources' packagesDir loaded path) := by
  have hfuel : fuelFor sources = fuelFor sources' := by
    have hlength := congrArg List.length hscripts.keys
    simpa [fuelFor, Dictionary.size, Dictionary.keys] using hlength
  rw [ofFile, ofFile, hfuel]
  exact alike_loadFile hscripts packagesDir _ (Alike.refl _) path

end Loading

end Unfolding

/-! ## Distributable bundles -/

namespace Bundle

/-- The comments of every script of the files are clear. -/
def ClearScripts (files : FileMap) : Prop :=
  ∀ path text, files.get? path = some text → isScriptPath path = true →
    Script.Clear (Text.lines text)

theorem get?_withoutComments (files : FileMap) (path : String) :
    (withoutComments files).get? path = (files.get? path).map fun content =>
      if isScriptPath path then Script.stripComments content else content :=
  Dictionary.get?_mapValues _ files path

/-- The scripts of a bundle without comments say the same as those of the full one. -/
theorem sameScripts_withoutComments {files : FileMap} (h : ClearScripts files) :
    Unfolding.SameScripts ((withoutComments files).filter fun path _ => isScriptPath path)
      (files.filter fun path _ => isScriptPath path) where
  keys := by
    rw [Dictionary.keys_filter_keys, Dictionary.keys_filter_keys, withoutComments,
      Dictionary.keys_mapValues]
  texts path text text' htext htext' := by
    rw [Dictionary.get?_filter_keys] at htext htext'
    split at htext
    next hscript =>
      rw [if_pos hscript] at htext'
      rw [get?_withoutComments, htext', Option.map_some, if_pos hscript] at htext
      obtain rfl := Option.some.inj htext
      exact Script.saySame_stripComments path (h path text' htext' hscript)
    next => cases htext

/-- **Stripping comments keeps what the scripts say.**  A directive is read alike with and without
comments exactly when no comment right below it is noticed.  A script all of whose directives are like
that has the same parse without its comments, lines of errors aside.  The distributable bundle of
files with such scripts opens as the same paths with the same assets, and loading any script of it at
any point of a run takes the steps that loading it from the full bundle takes. -/
theorem distributable_runs_alike (file : String) {text : String}
    (htext : Script.Clear (Text.lines text)) {vector : Bytes} (hvector : vector.length = vectorSize)
    {files : FileMap} (hfiles : ClearScripts files) :
    (∀ keyword line argument rest,
      Script.readKeyword keyword line argument (Script.uncommented rest) =
          ((Script.readKeyword keyword line argument rest).1,
            Script.uncommented (Script.readKeyword keyword line argument rest).2) ↔
        Script.Unnoticed keyword argument rest) ∧
    (Script.parse file (Script.stripComments text)).map
        (Except.mapError Script.ParseError.unplaced) =
      (Script.parse file text).map (Except.mapError Script.ParseError.unplaced) ∧
    ∃ opened, decode (encodeDistributable vector files) = .ok opened ∧
      decode (encode vector files) = .ok files ∧
      opened.keys = files.keys ∧
      (∀ path, isScriptPath path = false → opened.get? path = files.get? path) ∧
      ∀ machine machine' root fs fs' config ids loaded path,
        Unfolding.Alike
          (.ofFile (Context.start machine opened root fs config ids).sources config.packagesDir
            loaded path)
          (.ofFile (Context.start machine' files root fs' config ids).sources config.packagesDir
            loaded path) := by
  refine ⟨Script.readKeyword_uncommented_iff, Script.saySame_stripComments file htext,
    withoutComments files, decode_encode hvector _, decode_encode hvector _,
    Dictionary.keys_mapValues _ _, fun path hpath => ?_,
    fun machine machine' root fs fs' config ids loaded path => ?_⟩
  · rw [get?_withoutComments]
    simp [hpath]
  · exact Unfolding.alike_ofFile (sameScripts_withoutComments hfiles) _ _ _

/-- A script with comments at the top, among modules, after a command and inside a block. -/
def commentedScript : String :=
  "# setup\nload:\n\x7b\n# shared\nbase\n\x7d\nrun: \"ls\"\n\"wait\": \"true\"\n# data\n" ++
    "mysql: \"db\"\n\x7b\n# place\n\"url\": \"x\",\n\x7d"

theorem clear_commentedScript : Script.Clear (Text.lines commentedScript) :=
  Script.clear_of_commentsApart (by decide +kernel)

/-- The script and an asset that looks like a comment. -/
def commentedFiles : FileMap :=
  .ofList [("main.tont", commentedScript), ("notes.txt", "# kept")]

theorem clearScripts_commentedFiles : ClearScripts commentedFiles := by
  intro path text htext hscript
  obtain ⟨before, after, hentries, -⟩ := Dictionary.get?_ofList.1 htext
  have hmem : (path, text) ∈ [("main.tont", commentedScript), ("notes.txt", "# kept")] := by
    simp [hentries]
  rcases List.mem_cons.1 hmem with heq | hmem
  · obtain ⟨rfl, rfl⟩ := Prod.mk.inj heq
    exact clear_commentedScript
  · obtain ⟨rfl, -⟩ := Prod.mk.inj (List.mem_singleton.1 hmem)
    exact absurd hscript (by decide +kernel)

theorem distributable_runs_alike_commented :
    Script.Clear (Text.lines commentedScript) ∧
    Script.SaySame "main.tont" (Script.stripComments commentedScript) commentedScript ∧
    ((List.range 16).map UInt8.ofNat).length = vectorSize ∧ ClearScripts commentedFiles ∧
    ∃ opened,
      decode (encodeDistributable ((List.range 16).map UInt8.ofNat) commentedFiles) = .ok opened ∧
      opened.get? "notes.txt" = commentedFiles.get? "notes.txt" ∧
      ∀ machine machine' root fs fs' config ids,
        Unfolding.Alike
          (.ofFile (Context.start machine opened root fs config ids).sources config.packagesDir []
            "main.tont")
          (.ofFile (Context.start machine' commentedFiles root fs' config ids).sources
            config.packagesDir [] "main.tont") := by
  have hvector : ((List.range 16).map UInt8.ofNat).length = vectorSize := by decide
  obtain ⟨-, hparse, opened, hopened, -, -, hassets, halike⟩ :=
    distributable_runs_alike "main.tont" clear_commentedScript hvector clearScripts_commentedFiles
  exact ⟨clear_commentedScript, hparse, hvector, clearScripts_commentedFiles, opened, hopened,
    hassets "notes.txt" (by decide +kernel),
    fun machine machine' root fs fs' config ids =>
      halike machine machine' root fs fs' config ids [] "main.tont"⟩

/-- A comment that says to wait right below a command is taken at its word, and a comment between
`load:` and its brace hides the brace; neither happens once the comments are taken out. -/
theorem stripped_script_differs :
    Script.parse "main.tont" "run: \"ls\"\n# \"wait\": \"true\"" =
      [.ok (.act (.run "ls" true))] ∧
    Script.parse "main.tont" (Script.stripComments "run: \"ls\"\n# \"wait\": \"true\"") =
      [.ok (.act (.run "ls" false))] ∧
    Script.parse "main.tont" "load:\n# shared\n\x7b\nbase\n\x7d" =
      [.error ⟨"main.tont", 1, .loadBlockMissing⟩] ∧
    Script.parse "main.tont" (Script.stripComments "load:\n# shared\n\x7b\nbase\n\x7d") =
      [.ok (.load ["base"])] := by
  decide +kernel

/-! ## What is left of the files -/

open Text

/-- A path names a script when it ends in the extension of scripts, after a dot. -/
theorem isScriptPath_iff {path : String} :
    isScriptPath path = true ↔ ".tont".toList <:+ path.toList := by
  rw [isScriptPath]
  constructor
  · intro h
    split at h
    next before extension hcut =>
      obtain rfl : extension = scriptExtension.toList := eq_of_beq h
      exact ⟨before, (eq_of_cutLast? hcut).symm⟩
    next => cases h
  · rintro ⟨before, hpath⟩
    have hdot : before ++ ".tont".toList = before ++ '.' :: scriptExtension.toList := rfl
    rw [← hpath, hdot, cutLast?_append (by decide)]
    simp

theorem withoutComments_withoutComments (files : FileMap) :
    withoutComments (withoutComments files) = withoutComments files := by
  refine Dictionary.ext_get? fun path => ?_
  rw [get?_withoutComments, get?_withoutComments, Option.map_map]
  congr 1
  funext content
  by_cases hscript : isScriptPath path = true
  · simp only [hscript, if_true, Function.comp]
    exact Script.stripComments_eq_self (Script.uncommented_lines_stripComments content)
  · simp [hscript]

/-- **Only comment lines are left out.**  A distributable bundle of files opens as files of the same
paths.  Whatever is no script has its content; a script has its lines in order and unchanged, but for
those that begin with `#` after their blanks, and when no line is left it is empty.  Distributing what
was opened changes nothing more. -/
theorem distributable_lines {vector vector' : Bytes} (hvector : vector.length = vectorSize)
    (hvector' : vector'.length = vectorSize) (files : FileMap) :
    ∃ opened, decode (encodeDistributable vector files) = .ok opened ∧
      opened.keys = files.keys ∧
      (∀ path, ¬ ".tont".toList <:+ path.toList → opened.get? path = files.get? path) ∧
      (∀ path text, ".tont".toList <:+ path.toList → files.get? path = some text →
        let kept := (lines text).filter fun line => (trim line).head? ≠ some '#'
        ∃ stripped, opened.get? path = some stripped ∧
          (kept ≠ [] → lines stripped = kept) ∧ (kept = [] → stripped = "")) ∧
      decode (encodeDistributable vector' opened) = .ok opened := by
  refine ⟨withoutComments files, decode_encode hvector _, Dictionary.keys_mapValues _ _,
    fun path hpath => ?_, fun path text hpath htext => ?_, ?_⟩
  · rw [get?_withoutComments]
    have hscript : isScriptPath path = false := by
      rw [← isScriptPath_iff] at hpath
      simpa using hpath
    simp [hscript]
  · have hkept : ((lines text).filter fun line => (trim line).head? ≠ some '#') =
        Script.uncommented (lines text) := by
      refine List.filter_congr fun line _ => ?_
      rw [Script.isComment, Bool.eq_iff_iff]
      simp [← startsWithChar_iff]
    intro kept
    refine ⟨Script.stripComments text, ?_, fun hne => ?_, fun hnil => ?_⟩
    · rw [get?_withoutComments, htext]
      simp [isScriptPath_iff.2 hpath]
    · simp only [kept, hkept] at hne ⊢
      exact Script.lines_stripComments hne
    · simp only [kept, hkept] at hnil
      exact congrArg (fun kept => String.ofList (join '\n' kept)) hnil
  · rw [encodeDistributable, withoutComments_withoutComments]
    exact decode_encode hvector' _

/-- A script with nothing but comments, one with several dots in its path and comments at both ends of
a blank line, and an asset that is no script though its path looks like one. -/
def notedFiles : FileMap :=
  .ofList [("all.tont", "# setup\n\t# done"),
    ("lib/a.b.tont", "#! top\nlog: \"#\"\n # note\n\nwait: 1 # s\n# end"),
    ("lib/c.tont.txt", "# kept")]

theorem distributable_lines_noted :
    ((List.range 16).map UInt8.ofNat).length = vectorSize ∧
    (List.replicate 16 7 : Bytes).length = vectorSize ∧
    ∃ opened,
      decode (encodeDistributable ((List.range 16).map UInt8.ofNat) notedFiles) = .ok opened ∧
      opened.get? "all.tont" = some "" ∧
      (opened.get? "lib/a.b.tont").map lines =
        some ["log: \"#\"".toList, [], "wait: 1 # s".toList] ∧
      opened.get? "lib/c.tont.txt" = some "# kept" ∧
      decode (encodeDistributable (List.replicate 16 7) opened) = .ok opened := by
  have hvector : ((List.range 16).map UInt8.ofNat).length = vectorSize := by decide
  have hvector' : (List.replicate 16 7 : Bytes).length = vectorSize := by decide
  obtain ⟨opened, hopened, -, hassets, hscripts, hagain⟩ :=
    distributable_lines hvector hvector' notedFiles
  refine ⟨hvector, hvector', opened, hopened, ?_, ?_, ?_, hagain⟩
  · obtain ⟨stripped, hget, -, hempty⟩ := hscripts "all.tont" "# setup\n\t# done"
      ⟨"all".toList, by decide +kernel⟩ (by decide +kernel)
    rw [hget, hempty (by decide +kernel)]
  · obtain ⟨stripped, hget, hlines, -⟩ := hscripts "lib/a.b.tont"
      "#! top\nlog: \"#\"\n # note\n\nwait: 1 # s\n# end" ⟨"lib/a.b".toList, by decide +kernel⟩
      (by decide +kernel)
    rw [hget, Option.map_some, hlines (by decide +kernel)]
    decide +kernel
  · rw [hassets "lib/c.tont.txt" (by decide +kernel)]
    decide +kernel

end Bundle

end SiteScript
