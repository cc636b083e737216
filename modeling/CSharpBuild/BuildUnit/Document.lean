/-
Manifests as text. A text is first read as a document and then as a manifest; `Misreading` says
which of the two failed.
-/
import CSharpBuild.BuildUnit.Manifest
import CSharpBuild.Json
import CSharpBuild.Toml

namespace CSharpBuild

/-- Why a text gives no manifest. -/
inductive Misreading where
  /-- The text is no document of its format. -/
  | malformed
  /-- The document is no manifest. -/
  | mistyped
  deriving DecidableEq, Repr

namespace Manifest

/-- Read a manifest in TOML. -/
def ofToml (text : String) : Except Misreading Manifest :=
  match Toml.read? text with
  | none => .error .malformed
  | some tree =>
    match ofTree? tree with
    | none => .error .mistyped
    | some manifest => .ok manifest

/-- The manifest in JSON, if there is one when what stands under keys that a manifest does not have
is only passed over. A text that is no object is not taken for one. -/
def ofMembers? (text : String) : Option Manifest :=
  Json.readMembers? keys.contains text >>= ofTree?

/-- Read a manifest in JSON. What stands under keys that a manifest does not have is only passed
over if the rest makes a unit; otherwise the whole text has to be JSON. -/
def ofJson (text : String) : Except Misreading Manifest :=
  match ofMembers? text with
  | some manifest =>
    if manifest.toUnit.isOk || (Json.read? text).isSome then .ok manifest else .error .malformed
  | none => .error (if (Json.read? text).isSome then .mistyped else .malformed)

end Manifest

end CSharpBuild
