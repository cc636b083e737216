/-
Driver settings as they stand in a configuration file: every key may be unset. Layers of settings
are merged key by key, and a later layer wins wherever it sets something (`Settings.merge`).
-/
import CSharpBuild.Path
import CSharpBuild.Profile
import CSharpBuild.Tree

namespace CSharpBuild

/-- The keys of the `driver` table, each set or not. -/
structure Settings where
  epoch : Option Epoch
  runtime : Option Runtime
  primaryCompiler : Option Path
  launcher : Option Path
  responseFile : Option String
  responseDir : Option Path
  processIdDefine : Option String
  deriving DecidableEq, Repr

namespace Settings

/-- Settings that set nothing. -/
def empty : Settings := ⟨none, none, none, none, none, none, none⟩

/-- Lay `upper` on top of `s`: what `upper` sets wins. -/
def merge (s upper : Settings) : Settings where
  epoch := upper.epoch <|> s.epoch
  runtime := upper.runtime <|> s.runtime
  primaryCompiler := upper.primaryCompiler <|> s.primaryCompiler
  launcher := upper.launcher <|> s.launcher
  responseFile := upper.responseFile <|> s.responseFile
  responseDir := upper.responseDir <|> s.responseDir
  processIdDefine := upper.processIdDefine <|> s.processIdDefine

/-- Merge layers, the last of them on top. -/
def ofLayers (layers : List Settings) : Settings :=
  layers.foldl merge empty

theorem merge_empty (s : Settings) : s.merge empty = s := by
  simp [merge, empty]

theorem empty_merge (s : Settings) : empty.merge s = s := by
  simp [merge, empty]

/-- Decode an optional value: `null` is the same as no value. -/
def unlessNull {α : Type} (decode : Tree → Option α) : Tree → Option (Option α)
  | .null => some none
  | tree => (decode tree).map some

/-- Read the entries of a settings table. Unknown keys are passed over. -/
def ofEntries? (entries : List (String × Tree)) : Option Settings := do
  let epoch ← Tree.fieldOr entries "epoch" (unlessNull (Tree.name? Epoch.ofName?)) none
  let runtime ←
    Tree.fieldOr entries "runtime_version" (unlessNull (Tree.name? Runtime.ofName?)) none
  let primaryCompiler ← Tree.fieldOr entries "primary_compiler" (unlessNull Tree.path?) none
  let launcher ← Tree.fieldOr entries "launcher" (unlessNull Tree.path?) none
  let responseFile ← Tree.fieldOr entries "response_file" (unlessNull Tree.text?) none
  let responseDir ← Tree.fieldOr entries "response_dir" (unlessNull Tree.path?) none
  let processIdDefine ← Tree.fieldOr entries "process_id_define" (unlessNull Tree.text?) none
  pure ⟨epoch, runtime, primaryCompiler, launcher, responseFile, responseDir, processIdDefine⟩

/-- The keys of a settings table, in the order in which a list gives their values. -/
def keys : List String :=
  ["epoch", "runtime_version", "primary_compiler", "launcher", "response_file", "response_dir",
    "process_id_define"]

/-- Read settings. They are a table; only a table counts. -/
def ofTable? : Tree → Option Settings
  | .table _ entries => ofEntries? entries
  | _ => none

/-- Read the `driver` value of a configuration file: a table, or a list with the values of the keys
in their order. A list may be shorter than the keys, and what follows them is not looked at. A date
or a time counts as a table with none of the keys. -/
def ofDriver? : Tree → Option Settings
  | .list items => ofEntries? (keys.zip items)
  | .date _ => some empty
  | tree => ofTable? tree

/-- Read a whole configuration file: its `driver` key, or nothing when there is none. -/
def ofConfigFile? : Tree → Option Settings
  | .table _ entries => Tree.fieldOr entries "driver" ofDriver? empty
  | _ => none

/-- Settings as a tree with every key; what is unset is `null`. -/
def tree (s : Settings) : Tree :=
  let text (value : Option String) : Tree := value.elim .null .text
  .table .object [("epoch", text (s.epoch.map Epoch.name)),
    ("runtime_version", text (s.runtime.map Runtime.name)),
    ("primary_compiler", text (s.primaryCompiler.map Path.text)),
    ("launcher", text (s.launcher.map Path.text)),
    ("response_file", text s.responseFile),
    ("response_dir", text (s.responseDir.map Path.text)),
    ("process_id_define", text s.processIdDefine)]

end Settings

end CSharpBuild
