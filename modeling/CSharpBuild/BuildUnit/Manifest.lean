/-
Manifests: compilation units as a host hands them over, in TOML or JSON. A `Manifest` has the fields
of a unit and no proof that they make one. It is read from a tree of keys and values, with a
default for whatever is absent (`Manifest.ofTree?`), and becomes a unit only by way of a draft, so
that it is checked like any other (`Manifest.toUnit`).

The other way a unit gives its fields to a manifest (`Manifest.ofUnit`) and the manifest is written
with every key, under canonical names (`Manifest.tree?`). Only texts can be written, so a manifest
with a path that is none cannot.
-/
import CSharpBuild.BuildUnit
import CSharpBuild.Tree

namespace CSharpBuild

/-- The fields of a unit, unchecked. -/
structure Manifest (P : Type := Path) where
  output : P
  sources : List P
  references : List P
  defines : List String
  target : Target
  development : Bool
  profile : Profile
  deriving DecidableEq, Repr

namespace Manifest

variable {P : Type} [HostPath P]

/-! ## Reading and writing -/

/-- The keys of a manifest, in the order in which a list gives their values. -/
def keys : List String :=
  ["output", "sources", "references", "defines", "target", "development", "api_profile"]

/-- Read the entries of a manifest. Unknown keys are passed over; a known key that stands there
twice or has a value of the wrong kind refuses the whole manifest. -/
def ofEntries? (entries : List (String × Tree)) : Option (Manifest P) := do
  let output ← Tree.fieldOr entries "output" Tree.path? (HostPath.ofText "")
  let sources ← Tree.fieldOr entries "sources" (Tree.list? Tree.path?) []
  let references ← Tree.fieldOr entries "references" (Tree.list? Tree.path?) []
  let defines ← Tree.fieldOr entries "defines" (Tree.list? Tree.text?) []
  let target ← Tree.fieldOr entries "target" (Tree.name? Target.ofName?) .editor
  let development ← Tree.fieldOr entries "development" Tree.bool? false
  let profile ← Tree.fieldOr entries "api_profile" (Tree.name? Profile.ofName?) .net20
  pure ⟨output, sources, references, defines, target, development, profile⟩

/-- Read a manifest: a table, or a list with the values of the keys in their order. A list may be
shorter than the keys, but not longer. -/
def ofTree? : Tree → Option (Manifest P)
  | .table _ entries => ofEntries? entries
  | .list items => if items.length ≤ keys.length then ofEntries? (keys.zip items) else none
  | _ => none

/-- Write a manifest, field by field. The first path that is no text puts an end to it. -/
def tree? (m : Manifest P) : Option Tree := do
  let output ← Tree.ofPath? m.output
  let sources ← m.sources.mapM Tree.ofPath?
  let references ← m.references.mapM Tree.ofPath?
  pure (.table .object [("output", output),
    ("sources", .list sources),
    ("references", .list references),
    ("defines", .list (m.defines.map .text)),
    ("target", .text m.target.name),
    ("development", .bool m.development),
    ("api_profile", .text m.profile.name)])

/-! ## Manifests and units -/

/-- Build a unit with the fields of a manifest. -/
def toUnit (m : Manifest P) : Except Failure (BuildUnit P) :=
  (Draft.ofEdits m.output [.sources m.sources, .references m.references, .defines m.defines,
    .target m.target, .development m.development, .profile m.profile]).build

/-- The manifest of a unit. -/
def ofUnit (u : BuildUnit P) : Manifest P where
  output := u.output
  sources := u.sources
  references := u.references
  defines := u.defines
  target := u.target
  development := u.development
  profile := u.profile

end Manifest

namespace BuildUnit

variable {P : Type} [HostPath P]

/-- Read a unit from its manifest: `none` if it is no manifest, a failure if its fields do not make
a unit. -/
def ofTree? (tree : Tree) : Option (Except Failure (BuildUnit P)) :=
  (Manifest.ofTree? tree).map Manifest.toUnit

/-- Write a unit as its manifest. -/
def tree? (u : BuildUnit P) : Option Tree := (Manifest.ofUnit u).tree?

end BuildUnit

end CSharpBuild
