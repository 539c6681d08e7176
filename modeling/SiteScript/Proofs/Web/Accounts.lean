import SiteScript.Proofs.FileSystem
import SiteScript.Proofs.Json.RoundTrip
import SiteScript.Web.Accounts

/-!
# SiteScript.Proofs.Web.Accounts

The file of the accounts.  Accounts that were saved are loaded again exactly (`load_of_save`), and
directories made anywhere else do not change what is loaded (`load_of_extends`). -/

namespace SiteScript.Web

/-- An account is read from the tree it is written as. -/
theorem Account.ofRaw?_toJson (account : Account) :
    ofRaw? (.ofJson account.toJson) = some account := by
  simp [ofRaw?, toJson, Json.Raw.ofJson, Json.Raw.fields?, Json.Raw.objectFields?,
    Json.Raw.addField?, Json.Raw.string?, Json.text?_escape, Dictionary.contains,
    Dictionary.get?_insert]

namespace Accounts

/-- The text that accounts are kept as reads as the accounts. -/
theorem parse?_text (accounts : Accounts) : parse? accounts.text = some accounts := by
  rw [parse?, text, Json.pretty, String.toList_ofList, (Json.reads_prettyChars _ 0).parse?,
    Option.bind_some, Json.entries?_ofDictionary Account.ofRaw?_toJson]

variable {box : Sandbox} {fs fs' : FileSystem} {accounts : Accounts}

/-- Accounts are loaded when the file is there and its text reads as them. -/
theorem load_eq_some : load box fs = .ok (some accounts) ↔
    box.isFile fs fileName = true ∧
      ∃ text, box.readText fs fileName = .ok text ∧ parse? text = some accounts := by
  rw [load]
  by_cases hfile : box.isFile fs fileName = true
  · cases htext : box.readText fs fileName with
    | error error => simp [hfile]
    | ok text => cases hparse : parse? text <;> simp [hfile, hparse]
  · simp [hfile]

/-- **Accounts that were saved are loaded again.** -/
theorem load_of_save (h : accounts.save box fs = (.ok (), fs')) :
    load box fs' = .ok (some accounts) := by
  obtain ⟨hfile, htext⟩ := Sandbox.readText_writeFile h
  exact load_eq_some.2 ⟨hfile, _, htext, parse?_text accounts⟩

/-- Accounts that can be loaded stay so when directories are made. -/
theorem load_of_extends (h : FileSystem.Extends fs fs')
    (hload : load box fs = .ok (some accounts)) : load box fs' = .ok (some accounts) := by
  obtain ⟨hfile, text, htext, hparse⟩ := load_eq_some.1 hload
  obtain ⟨hfile', htext'⟩ := Sandbox.readText_of_extends h hfile htext
  exact load_eq_some.2 ⟨hfile', text, htext', hparse⟩

end Accounts

end SiteScript.Web
