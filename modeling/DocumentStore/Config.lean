import DocumentStore.Json.Reader
import DocumentStore.Json.Record

/-!
# Configuration

The settings of a store.  Each has a default, so a text may leave out any of them; it is an object
of settings by name or an array of them in order.  What it says besides is ignored.

* `Config`, `Config.default` — the settings.
* `Config.ofText?`, `Config.toJson` — the settings that a text writes, and the settings as JSON.
-/

set_option autoImplicit false

namespace DocumentStore

/-- The settings of a store.  The identity is the author named in events. -/
structure Config where
  projectId : String
  dataset : String
  apiVersion : String
  identity : String
  deriving DecidableEq

namespace Config

/-- The settings of a store for which none are given. -/
def default : Config := ⟨"fake", "fake", "v1", "fake-user"⟩

/-- The names of the settings. -/
def names : List String := ["projectId", "dataset", "apiVersion", "identity"]

/-- The text that a draft is. -/
def textOf? : Draft → Option String
  | .string pieces => stringOfPieces? pieces
  | _ => none

/-- The settings among fields, by name.  No setting may be given twice. -/
def settingsOf? : List (List Piece × Draft) → Option (Fields String)
  | [] => some []
  | (key, value) :: rest => do
    let name ← stringOfPieces? key
    let settings ← settingsOf? rest
    if names.contains name then
      let text ← textOf? value
      match Fields.get? settings name with
      | some _ => none
      | none => some ((name, text) :: settings)
    else some settings

/-- The settings that a draft writes. -/
def ofDraft? : Draft → Option Config
  | .object fields => do
    let settings ← settingsOf? fields
    let setting (name fallback : String) : String := (Fields.get? settings name).getD fallback
    some ⟨setting "projectId" default.projectId, setting "dataset" default.dataset,
      setting "apiVersion" default.apiVersion, setting "identity" default.identity⟩
  | .array items => do
    let texts ← readAll textOf? items
    if texts.length ≤ names.length then
      some ⟨texts[0]?.getD default.projectId, texts[1]?.getD default.dataset,
        texts[2]?.getD default.apiVersion, texts[3]?.getD default.identity⟩
    else none
  | _ => none

/-- The settings that a text writes. -/
def ofText? (text : String) : Option Config := (Draft.ofText? text).bind ofDraft?

/-- The settings as JSON. -/
def toJson (config : Config) : Json :=
  Json.ofFields [("projectId", .string config.projectId), ("dataset", .string config.dataset),
    ("apiVersion", .string config.apiVersion), ("identity", .string config.identity)]

end Config

end DocumentStore
