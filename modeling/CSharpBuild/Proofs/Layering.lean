/-
Layers of settings, key by key. Whatever the layers say about the other keys, a key has the value
that the last layer to set it gives it (`Settings.lastSet`), so merging layers may be grouped in any
way, and a layer that sets nothing is as good as no layer. A configuration is resolved from layers
in one step (`Config.ofSettings_ofLayers`).

What is under a path and what a text says is left open (`SettingsFiles`); of a configuration file it
only counts here that it is missing, that it cannot be read or that it is no configuration.
-/
import CSharpBuild.SettingsFile

namespace CSharpBuild

namespace Settings

/-! ## One key -/

section Key

variable {α : Type} (key : Settings → Option α)

/-- What the last of the layers to set a key sets it to. -/
def lastSet (layers : List Settings) : Option α := (layers.filterMap key).getLast?

theorem lastSet_cons (layer : Settings) (layers : List Settings) :
    lastSet key (layer :: layers) = (lastSet key layers <|> key layer) := by
  cases h : key layer <;> simp [lastSet, h, List.getLast?_cons]

/-- No layer sets the key. -/
theorem lastSet_eq_none_iff (layers : List Settings) :
    lastSet key layers = none ↔ ∀ layer ∈ layers, key layer = none := by
  simp [lastSet]

/-- Some layer sets the key, and none that follows it does. -/
theorem lastSet_eq_some_iff (layers : List Settings) (value : α) :
    lastSet key layers = some value ↔ ∃ lower layer upper, layers = lower ++ layer :: upper
      ∧ key layer = some value ∧ ∀ later ∈ upper, key later = none := by
  constructor
  · intro h
    obtain ⟨values, hvalues⟩ := List.getLast?_eq_some_iff.mp h
    obtain ⟨lower, rest, rfl, -, hrest⟩ := List.filterMap_eq_append_iff.mp hvalues
    obtain ⟨skipped, layer, upper, rfl, -, hlayer, hupper⟩ := List.filterMap_eq_cons_iff.mp hrest
    exact ⟨lower ++ skipped, layer, upper, by simp, hlayer, List.filterMap_eq_nil_iff.mp hupper⟩
  · rintro ⟨lower, layer, upper, rfl, hlayer, hupper⟩
    simp [lastSet, hlayer, List.filterMap_eq_nil_iff.mpr hupper]

/-- Merging layers on top of settings changes a key only to what the layers set it to. The settings
below are any, as they grow with every layer. -/
theorem foldl_merge_key (hkey : ∀ s upper : Settings, key (s.merge upper) = (key upper <|> key s))
    (layers : List Settings) (s : Settings) :
    key (layers.foldl merge s) = (lastSet key layers <|> key s) := by
  induction layers generalizing s with
  | nil => simp [lastSet]
  | cons layer layers ih =>
    rw [List.foldl_cons, ih, hkey, lastSet_cons]
    simp [Option.or_assoc]

theorem ofLayers_key (hkey : ∀ s upper : Settings, key (s.merge upper) = (key upper <|> key s))
    (hempty : key empty = none) (layers : List Settings) :
    key (ofLayers layers) = lastSet key layers := by
  rw [ofLayers, foldl_merge_key key hkey, hempty]
  simp

end Key

/-! ## All keys -/

/-- Every key of merged layers is the last one set. -/
theorem ofLayers_eq (layers : List Settings) :
    ofLayers layers = ⟨lastSet epoch layers, lastSet runtime layers,
      lastSet primaryCompiler layers, lastSet launcher layers, lastSet responseFile layers,
      lastSet responseDir layers, lastSet processIdDefine layers⟩ := by
  rw [← ofLayers_key epoch (fun _ _ => rfl) rfl, ← ofLayers_key runtime (fun _ _ => rfl) rfl,
    ← ofLayers_key primaryCompiler (fun _ _ => rfl) rfl,
    ← ofLayers_key launcher (fun _ _ => rfl) rfl,
    ← ofLayers_key responseFile (fun _ _ => rfl) rfl,
    ← ofLayers_key responseDir (fun _ _ => rfl) rfl,
    ← ofLayers_key processIdDefine (fun _ _ => rfl) rfl]

theorem merge_assoc (lower s upper : Settings) :
    (lower.merge s).merge upper = lower.merge (s.merge upper) := by
  simp [merge, Option.or_assoc]

instance : Std.Associative merge := ⟨merge_assoc⟩

/-- Merging layers on top of settings is merging them first, and putting the result on top. -/
theorem foldl_merge (layers : List Settings) (s : Settings) :
    layers.foldl merge s = s.merge (ofLayers layers) := by
  calc layers.foldl merge s
    _ = layers.foldl merge (s.merge empty) := by rw [merge_empty]
    _ = s.merge (layers.foldl merge empty) := List.foldl_assoc

theorem ofLayers_cons (layer : Settings) (layers : List Settings) :
    ofLayers (layer :: layers) = layer.merge (ofLayers layers) := by
  rw [ofLayers, List.foldl_cons, empty_merge, foldl_merge]

theorem ofLayers_append (lower upper : List Settings) :
    ofLayers (lower ++ upper) = (ofLayers lower).merge (ofLayers upper) := by
  rw [ofLayers, List.foldl_append, foldl_merge, ← ofLayers]

/-- Layers may be merged in groups. -/
theorem ofLayers_map_ofLayers (groups : List (List Settings)) :
    ofLayers (groups.map ofLayers) = ofLayers groups.flatten := by
  induction groups with
  | nil => rfl
  | cons group groups ih =>
    rw [List.map_cons, ofLayers_cons, ih, List.flatten_cons, ofLayers_append]

/-- A layer that sets nothing may stand anywhere. -/
theorem ofLayers_insert_empty (lower upper : List Settings) :
    ofLayers (lower ++ empty :: upper) = ofLayers (lower ++ upper) := by
  rw [ofLayers_append, ofLayers_cons, empty_merge, ofLayers_append]

end Settings

namespace SettingsFiles

variable {files : SettingsFiles} {path : Path}

/-- There is no configuration under a path: nothing is there, it cannot be read, or what is read is
no configuration. -/
def Unusable (files : SettingsFiles) (path : Path) : Prop :=
  files.holds path = false ∨ files.text? path = none ∨
    ∃ text, files.text? path = some text ∧
      (files.document? text = none ∨
        ∃ document, files.document? text = some document ∧ Settings.ofConfigFile? document = none)

theorem exists_load_eq_error (h : files.Unusable path) (hthere : files.holds path = true) :
    ∃ failure, files.load path = .error failure := by
  rcases h with hmissing | hunread | ⟨text, htext, hnone | ⟨document, hdocument, hnone⟩⟩
  · rw [hthere] at hmissing
    cases hmissing
  · exact ⟨.configUnreadable path, by rw [load, hunread]⟩
  · exact ⟨.configMalformed path, by simp [load, htext, hnone]⟩
  · exact ⟨.configMalformed path, by simp [load, htext, hdocument, hnone]⟩

/-- Such a file counts as one that sets nothing. -/
theorem loadOrDefault_of_unusable (h : files.Unusable path) :
    (files.loadOrDefault path).1 = .empty := by
  unfold loadOrDefault
  split
  · next hthere =>
    obtain ⟨failure, herror⟩ := exists_load_eq_error h hthere
    rw [herror]
  · rfl

theorem mergeFile_eq (lower : Settings × List LogEntry) :
    (files.mergeFile lower path).1 = lower.1.merge (files.loadOrDefault path).1 := by
  unfold mergeFile
  split
  · rfl
  · next hmissing =>
    rw [loadOrDefault_of_unusable (.inl (Bool.eq_false_iff.2 hmissing)), Settings.merge_empty]

/-- Files that are merged one after the other are layers. -/
theorem layered_eq (global project : Path) :
    (files.layered global project).1 =
      .ofLayers [(files.loadOrDefault global).1, (files.loadOrDefault project).1] := by
  rw [layered, mergeFile_eq, mergeFile_eq]
  rfl

end SettingsFiles

namespace Config

open Settings

/-- Resolving settings fills in a default where nothing is set. -/
theorem ofSettings_eq (root : Path) (s : Settings) :
    ofSettings root s = {
      projectRoot := root
      epoch := s.epoch.getD .current
      runtime := s.runtime.getD .latest
      primaryCompiler := s.primaryCompiler.getD ⟨"Compiler/UniversalCompiler.exe"⟩
      launcher := s.launcher
      responseFile := s.responseFile.getD "mcs.rsp"
      responseDir := s.responseDir
      processIdDefine :=
        (some (s.processIdDefine.getD "__UNITY_PROCESSID__")).filter (· ≠ "") } := by
  cases h : s.processIdDefine with
  | none => simp [ofSettings, ofRoot, defaultProcessIdDefine, h, Option.filter]
  | some symbol => by_cases hs : symbol = "" <;> simp [ofSettings, ofRoot, h, hs, Option.filter]

/-- A configuration from layers of settings takes every key from the last layer to set it, and only
then from the defaults. The symbol for the process id is unset by setting it to the empty text, and
by nothing else. How the layers are grouped does not matter, a configuration file that is missing or
cannot be used may stand anywhere between them, and the files of a user and of a project are two
layers. -/
theorem ofSettings_ofLayers (root : Path) (layers : List Settings) :
    ofSettings root (ofLayers layers) = {
      projectRoot := root
      epoch := (lastSet Settings.epoch layers).getD .current
      runtime := (lastSet Settings.runtime layers).getD .latest
      primaryCompiler :=
        (lastSet Settings.primaryCompiler layers).getD ⟨"Compiler/UniversalCompiler.exe"⟩
      launcher := lastSet Settings.launcher layers
      responseFile := (lastSet Settings.responseFile layers).getD "mcs.rsp"
      responseDir := lastSet Settings.responseDir layers
      processIdDefine := (some ((lastSet Settings.processIdDefine layers).getD
        "__UNITY_PROCESSID__")).filter (· ≠ "") }
    ∧ (∀ {α : Type} (key : Settings → Option α),
        (lastSet key layers = none ↔ ∀ layer ∈ layers, key layer = none)
        ∧ ∀ value, lastSet key layers = some value ↔ ∃ lower layer upper,
          layers = lower ++ layer :: upper ∧ key layer = some value
            ∧ ∀ later ∈ upper, key later = none)
    ∧ ((ofSettings root (ofLayers layers)).processIdDefine = none
        ↔ lastSet Settings.processIdDefine layers = some "")
    ∧ (ofSettings root (ofLayers layers)).processIdDefine ≠ some ""
    ∧ (∀ lower s upper : Settings, (lower.merge s).merge upper = lower.merge (s.merge upper))
    ∧ (∀ s : Settings, s.merge .empty = s ∧ Settings.empty.merge s = s)
    ∧ (∀ groups : List (List Settings), groups.flatten = layers →
        ofSettings root (ofLayers (groups.map ofLayers)) = ofSettings root (ofLayers layers))
    ∧ (∀ (files : SettingsFiles) (path : Path), files.Unusable path →
        (files.loadOrDefault path).1 = .empty
        ∧ ∀ lower upper : List Settings, lower ++ upper = layers →
          ofSettings root (ofLayers (lower ++ (files.loadOrDefault path).1 :: upper))
            = ofSettings root (ofLayers layers))
    ∧ ∀ (files : SettingsFiles) (home : Option Path),
        layers = [(files.loadOrDefault (home.elim ⟨""⟩ Config.fileIn)).1,
          (files.loadOrDefault (Config.fileIn root)).1] →
        (files.project home root).1 = ofSettings root (ofLayers layers) := by
  refine ⟨?_, fun key => ⟨lastSet_eq_none_iff key layers, lastSet_eq_some_iff key layers⟩, ?_, ?_,
    merge_assoc, fun s => ⟨merge_empty s, empty_merge s⟩, ?_, fun files path hfile => ?_, ?_⟩
  · rw [ofSettings_eq, ofLayers_eq]
  · rw [ofSettings_eq, ofLayers_eq]
    cases lastSet Settings.processIdDefine layers <;> simp [Option.filter]
  · rw [ofSettings_eq]
    simp [Option.filter_eq_some_iff]
  · rintro groups rfl
    rw [ofLayers_map_ofLayers]
  · have hlayer := SettingsFiles.loadOrDefault_of_unusable hfile
    refine ⟨hlayer, ?_⟩
    rintro lower upper rfl
    rw [hlayer, ofLayers_insert_empty]
  · rintro files home rfl
    rw [SettingsFiles.project, SettingsFiles.layered_eq]

/-- Two layers, of which the upper one turns the symbol for the process id off. Between them there
may stand a file that is missing, one that cannot be read or one that is no document. -/
theorem ofSettings_ofLayers_around_unusable_files :
    let lower : Settings :=
      { Settings.empty with epoch := some .legacy, processIdDefine := some "HOST" }
    let upper : Settings := { Settings.empty with processIdDefine := some "" }
    let config : Config := { ofRoot ⟨"."⟩ with epoch := .legacy, processIdDefine := none }
    let files : SettingsFiles := {
      holds := fun path => path = ⟨"locked"⟩ ∨ path = ⟨"broken"⟩
      text? := fun path => if path = ⟨"broken"⟩ then some "=" else none
      document? := fun text => if text = "" then some (.table .headed []) else none }
    files.Unusable ⟨""⟩ ∧ files.Unusable ⟨"locked"⟩ ∧ files.Unusable ⟨"broken"⟩
    ∧ ofSettings ⟨"."⟩ (ofLayers [lower, upper]) = config
    ∧ ofSettings ⟨"."⟩ (ofLayers [ofLayers [], ofLayers [lower, upper]]) = config
    ∧ ∀ path ∈ [(⟨""⟩ : Path), ⟨"locked"⟩, ⟨"broken"⟩],
        ofSettings ⟨"."⟩ (ofLayers [lower, (files.loadOrDefault path).1, upper]) = config := by
  intro lower upper config files
  have hmissing : files.Unusable ⟨""⟩ := .inl (by decide)
  have hlocked : files.Unusable ⟨"locked"⟩ := .inr (.inl (by decide))
  have hbroken : files.Unusable ⟨"broken"⟩ := .inr (.inr ⟨"=", by decide, .inl rfl⟩)
  obtain ⟨hconfig, -, -, -, -, -, hgroups, hfiles, -⟩ :=
    ofSettings_ofLayers ⟨"."⟩ [lower, upper]
  have htwo : ofSettings ⟨"."⟩ (ofLayers [lower, upper]) = config := hconfig.trans (by decide)
  refine ⟨hmissing, hlocked, hbroken, htwo, (hgroups [[], [lower, upper]] rfl).trans htwo,
    fun path hpath => ?_⟩
  have hunusable : files.Unusable path := by
    simp only [List.mem_cons, List.not_mem_nil, or_false] at hpath
    rcases hpath with rfl | rfl | rfl
    · exact hmissing
    · exact hlocked
    · exact hbroken
  exact ((hfiles files path hunusable).2 [lower] [upper] rfl).trans htwo

end Config

end CSharpBuild
