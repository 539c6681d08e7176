import SiteScript.Manifest
import SiteScript.Proofs.Json.RoundTrip

/-!
# SiteScript.Proofs.Manifest

A manifest is read as it was written (`ofText_compact`).

1. A package is written in one of two shapes, a string or an object of strings, which are told apart
   when it is read.  The source of a pinned package is left out when there is none, and that is how its
   absence is read (`Dependency.ofRaw?_toJson`).
2. A name or a version that is not given is written as `null` (`optionalString?_optional`).
3. The packages are read one by one, under their names (`Json.entries?_ofDictionary`), and the fields
   come together again as the manifest (`Manifest.ofRaw?_toJson`). -/

namespace SiteScript

open Json

namespace Dependency

/-- What is written of a pinned package. -/
def pinnedMembers (version : String) (source : Option String) : List (String × Json) :=
  ("version", .string version) :: (source.map fun source => ("source", Json.string source)).toList

theorem toJson_pinned (version : String) (source : Option String) :
    toJson (.pinned version source) = .object (pinnedMembers version source) := by
  cases source <;> rfl

/-- A package is read from the tree it is written as. -/
theorem ofRaw?_toJson (dependency : Dependency) :
    ofRaw? (.ofJson dependency.toJson) = some dependency := by
  cases dependency with
  | unpinned source =>
    rw [toJson, Raw.ofJson, ofRaw?, text?_escape]
    rfl
  | pinned version source =>
    have hstrings : ∀ member ∈ pinnedMembers version source, ∃ s, member.2 = .string s := by
      cases source <;> simp [pinnedMembers]
    have hnames : ∀ member ∈ pinnedMembers version source, member.1 ∈ ["version", "source"] := by
      cases source <;> simp [pinnedMembers]
    have hnodup : ((pinnedMembers version source).map Prod.fst).Nodup := by
      cases source <;> simp [pinnedMembers]
    have htree : Raw.ofJson (.object (pinnedMembers version source)) =
        .object ((pinnedMembers version source).map fun m => (escape m.1, .ofJson m.2)) := by
      rw [Raw.ofJson]
    have hvalue := Raw.value?_strings hstrings (show maxDepth ≠ 0 by decide)
    rw [htree] at hvalue
    rw [toJson_pinned, htree, ofRaw?, hvalue, Raw.objectFields?_ofJson hnames hnodup]
    cases source <;> simp [pinnedMembers, Dictionary.ofList, Dictionary.get?_insert]

end Dependency

namespace Manifest

theorem optionalString?_optional (text : Option String) :
    Raw.optionalString? (.ofJson (optional text)) = some text := by
  cases text with
  | none =>
    rw [optional, Option.map_none, Option.getD_none, Raw.ofJson]
    rfl
  | some text => exact Raw.optionalString?_ofJson text

/-- What is written of a manifest. -/
def members (manifest : Manifest) : List (String × Json) :=
  [("name", optional manifest.name), ("version", optional manifest.version),
    ("main", .string manifest.main),
    ("dependencies", .ofDictionary (manifest.dependencies.mapValues fun _ d => d.toJson))]

/-- A manifest is read from the tree it is written as. -/
theorem ofRaw?_toJson (manifest : Manifest) : ofRaw? (.ofJson manifest.toJson) = some manifest := by
  have hnames : ∀ member ∈ manifest.members,
      member.1 ∈ ["name", "version", "main", "dependencies"] := by
    simp [members]
  have hnodup : (manifest.members.map Prod.fst).Nodup := by simp [members]
  have htree : Raw.ofJson manifest.toJson =
      .object (manifest.members.map fun m => (escape m.1, .ofJson m.2)) := by
    rw [toJson, Raw.ofJson, members]
  have hdependencies := entries?_ofDictionary Dependency.ofRaw?_toJson manifest.dependencies
  rw [htree, ofRaw?, Raw.fields?, Raw.objectFields?_ofJson hnames hnodup]
  simp [members, field?, Dictionary.ofList, Dictionary.get?_insert, optionalString?_optional,
    hdependencies]

/-- **Manifest round trip**: the text that a manifest is written as reads as the manifest, whichever of
name and version it has, whatever script it begins with, and whatever packages it has in either shape. -/
theorem ofText_compact (manifest : Manifest) : ofText manifest.toJson.compact = .ok manifest := by
  rw [ofText, compact, String.toList_ofList, (reads_compactChars _).parse?, Option.bind_some,
    ofRaw?_toJson]

end Manifest

end SiteScript
