/-
Drafts that are filled in edit by edit. Each field of the draft has what the edits of that field
leave there, however they are mixed with the edits of other fields (`ofEdits_eq`).

`Refused` says of any draft what its first fault is, in the texts of the failure and without
searching for it. `build` fails with that and with nothing else (`build_eq_error_iff`).
-/
import CSharpBuild.Proofs.Manifests

namespace CSharpBuild

/-! ## What edits leave in each field -/

namespace Draft

namespace Edit

/-- The sources an edit adds, if that is what it does. -/
def sources? : Edit → Option (List Path)
  | .source path => some [path]
  | .sources paths => some paths
  | _ => none

/-- The references an edit adds, if that is what it does. -/
def references? : Edit → Option (List Path)
  | .reference path => some [path]
  | .references paths => some paths
  | _ => none

/-- The symbols an edit adds, if that is what it does. -/
def defines? : Edit → Option (List String)
  | .define symbol => some [symbol]
  | .defines symbols => some symbols
  | _ => none

/-- The target an edit sets, if that is what it does. -/
def target? : Edit → Option Target
  | .target place => some place
  | _ => none

/-- Whether an edit makes a development build, if that is what it is about. -/
def development? : Edit → Option Bool
  | .development whether => some whether
  | _ => none

/-- The profile an edit sets, if that is what it does. -/
def profile? : Edit → Option Profile
  | .profile libraries => some libraries
  | _ => none

/-- The key of the manifest that an edit is about. -/
def key : Edit → String
  | .source _ | .sources _ => "sources"
  | .reference _ | .references _ => "references"
  | .define _ | .defines _ => "defines"
  | .target _ => "target"
  | .development _ => "development"
  | .profile _ => "api_profile"

/-- The edits that add the same one at a time. -/
def singles : Edit → List Edit
  | .sources paths => paths.map source
  | .references paths => paths.map reference
  | .defines symbols => symbols.map define
  | edit => [edit]

end Edit

/-- What edits leave of a draft, field by field: all that was added, in order, or the last value
that was set. -/
def gathered (output : Path) (edits : List Edit) : Draft where
  output := output
  sources := (edits.filterMap Edit.sources?).flatten
  references := (edits.filterMap Edit.references?).flatten
  defines := (edits.filterMap Edit.defines?).flatten
  target := (edits.filterMap Edit.target?).getLast?.getD .editor
  development := (edits.filterMap Edit.development?).getLast?.getD false
  profile := (edits.filterMap Edit.profile?).getLast?.getD .net20

section Field

variable {α : Type}

/-- A list field grows by what each edit adds. -/
theorem field_foldl_of_adds (field : Draft → List α) (added? : Edit → Option (List α))
    (hstep : ∀ d edit, field (apply d edit) = field d ++ (added? edit).getD [])
    (edits : List Edit) (d : Draft) :
    field (edits.foldl apply d) = field d ++ (edits.filterMap added?).flatten := by
  induction edits generalizing d with
  | nil => simp
  | cons edit edits ih =>
    rw [List.foldl_cons, ih, hstep, List.append_assoc]
    cases h : added? edit <;> simp [h]

/-- Any other field has the last value that was set. -/
theorem field_foldl_of_sets (field : Draft → α) (set? : Edit → Option α)
    (hstep : ∀ d edit, field (apply d edit) = (set? edit).getD (field d))
    (edits : List Edit) (d : Draft) :
    field (edits.foldl apply d) = (edits.filterMap set?).getLast?.getD (field d) := by
  induction edits generalizing d with
  | nil => rfl
  | cons edit edits ih =>
    rw [List.foldl_cons, ih, hstep]
    cases h : set? edit <;> simp [h, List.getLast?_cons]

/-- What is read off the edits of one field can be read off all edits. -/
theorem filterMap_filter_key {read? : Edit → Option α} {key : String}
    (h : ∀ edit, edit.key ≠ key → read? edit = none) (edits : List Edit) :
    (edits.filter (·.key = key)).filterMap read? = edits.filterMap read? := by
  rw [List.filterMap_filter]
  congr 1
  funext edit
  by_cases hkey : edit.key = key <;> simp [hkey, h]

/-- Adding values one at a time is adding them all. -/
theorem foldl_map_single {one : α → Edit} {all : List α → Edit}
    (hnone : ∀ d, apply d (all []) = d)
    (hmore : ∀ d value values,
      apply (apply d (one value)) (all values) = apply d (all (value :: values)))
    (values : List α) (d : Draft) : (values.map one).foldl apply d = d.apply (all values) := by
  induction values generalizing d with
  | nil => exact (hnone d).symm
  | cons value values ih => rw [List.map_cons, List.foldl_cons, ih, hmore]

end Field

/-- **A draft has in each field what the edits of that field leave there.** -/
theorem ofEdits_eq (output : Path) (edits : List Edit) :
    ofEdits output edits = gathered output edits := by
  have houtput : (ofEdits output edits).output = output := by
    have hkept := field_foldl_of_sets Draft.output (fun _ => none) (by rintro d ⟨⟩ <;> rfl) edits
      (new output)
    rwa [List.filterMap_eq_nil_iff.2 fun _ _ => rfl] at hkept
  have hsources := field_foldl_of_adds sources Edit.sources?
    (by rintro d ⟨⟩ <;> simp [apply, Edit.sources?]) edits (new output)
  have hreferences := field_foldl_of_adds references Edit.references?
    (by rintro d ⟨⟩ <;> simp [apply, Edit.references?]) edits (new output)
  have hdefines := field_foldl_of_adds defines Edit.defines?
    (by rintro d ⟨⟩ <;> simp [apply, Edit.defines?]) edits (new output)
  have htarget := field_foldl_of_sets target Edit.target?
    (by rintro d ⟨⟩ <;> rfl) edits (new output)
  have hdevelopment := field_foldl_of_sets development Edit.development?
    (by rintro d ⟨⟩ <;> rfl) edits (new output)
  have hprofile := field_foldl_of_sets profile Edit.profile?
    (by rintro d ⟨⟩ <;> rfl) edits (new output)
  have heta (d : Draft) : d = ⟨d.output, d.sources, d.references, d.defines, d.target,
      d.development, d.profile⟩ := rfl
  rw [heta (ofEdits output edits), houtput, ofEdits, hsources, hreferences, hdefines, htarget,
    hdevelopment, hprofile]
  rfl

/-- **Only the order of the edits of one field counts.** -/
theorem gathered_congr {edits edits' : List Edit}
    (h : ∀ key, edits.filter (·.key = key) = edits'.filter (·.key = key)) (output : Path) :
    gathered output edits = gathered output edits' := by
  have hread {α : Type} (read? : Edit → Option α) (key : String)
      (hkey : ∀ edit, edit.key ≠ key → read? edit = none) :
      edits.filterMap read? = edits'.filterMap read? := by
    rw [← filterMap_filter_key hkey, h, filterMap_filter_key hkey]
  have hsources := hread Edit.sources? "sources" (by rintro ⟨⟩ <;> simp [Edit.sources?, Edit.key])
  have hreferences := hread Edit.references? "references"
    (by rintro ⟨⟩ <;> simp [Edit.references?, Edit.key])
  have hdefines := hread Edit.defines? "defines" (by rintro ⟨⟩ <;> simp [Edit.defines?, Edit.key])
  have htarget := hread Edit.target? "target" (by rintro ⟨⟩ <;> simp [Edit.target?, Edit.key])
  have hdevelopment := hread Edit.development? "development"
    (by rintro ⟨⟩ <;> simp [Edit.development?, Edit.key])
  have hprofile := hread Edit.profile? "api_profile"
    (by rintro ⟨⟩ <;> simp [Edit.profile?, Edit.key])
  rw [gathered, hsources, hreferences, hdefines, htarget, hdevelopment, hprofile, gathered]

/-- **An edit may be split into edits that add the same one at a time.** -/
theorem foldl_singles (edit : Edit) (d : Draft) : edit.singles.foldl apply d = d.apply edit := by
  cases edit with
  | sources paths =>
    exact foldl_map_single (by simp [apply]) (by simp [apply]) paths d
  | references paths =>
    exact foldl_map_single (by simp [apply]) (by simp [apply]) paths d
  | defines symbols =>
    exact foldl_map_single (by simp [apply]) (by simp [apply]) symbols d
  | source | reference | define | target | development | profile => rfl

end Draft

/-! ## The first fault -/

/-- Where the first empty path of a list stands. -/
theorem Path.findIdx?_isEmpty_eq_some_iff {paths : List Path} {i : Nat} :
    paths.findIdx? HostPath.isEmpty = some i ↔ ∃ before p after, paths = before ++ p :: after ∧
      before.length = i ∧ p.text = "" ∧ ∀ q ∈ before, q.text ≠ "" := by
  constructor
  · intro h
    obtain ⟨hi, hp, hbefore⟩ := List.findIdx?_eq_some_iff_getElem.1 h
    refine ⟨paths.take i, paths[i], paths.drop (i + 1), by simp, by simp; omega,
      hostPath_isEmpty_iff.1 hp, fun q hq => ?_⟩
    obtain ⟨j, hj, rfl⟩ := List.mem_take_iff_getElem.1 hq
    exact fun hempty => hbefore j (by omega) (hostPath_isEmpty_iff.2 hempty)
  · rintro ⟨before, p, after, rfl, rfl, hp, hbefore⟩
    have hnone : before.findIdx? HostPath.isEmpty = none :=
      List.findIdx?_eq_none_iff.2 fun q hq => hostPath_isEmpty_eq_false_iff.2 (hbefore q hq)
    rw [List.findIdx?_append, hnone, List.findIdx?_cons, if_pos (hostPath_isEmpty_iff.2 hp)]
    simp

theorem Path.findIdx?_isEmpty_eq_none_iff {paths : List Path} :
    paths.findIdx? HostPath.isEmpty = none ↔ ∀ p ∈ paths, p.text ≠ "" := by
  simp only [List.findIdx?_eq_none_iff, hostPath_isEmpty_eq_false_iff]

theorem find?_not_isSymbol_eq_some_iff {symbols : List String} {symbol : String} :
    (symbols.find? fun s => !isSymbol s) = some symbol ↔ ∃ before after,
      symbols = before ++ symbol :: after ∧ ¬ ValidSymbol symbol ∧
        ∀ earlier ∈ before, ValidSymbol earlier := by
  simp only [List.find?_eq_some_iff_append, Bool.not_eq_true', Bool.not_not, ← Bool.not_eq_true,
    isSymbol_iff]
  constructor
  · rintro ⟨hbad, before, after, hsplit, hbefore⟩
    exact ⟨before, after, hsplit, hbad, hbefore⟩
  · rintro ⟨before, after, hsplit, hbad, hbefore⟩
    exact ⟨hbad, before, after, hsplit, hbefore⟩

namespace Draft

/-- The first thing that is wrong with a draft: the field it is in and what is said of it. -/
inductive Refused (d : Draft) : (field reason : String) → Prop where
  | output : d.output.text = "" → d.Refused "output" "output path must not be empty"
  | source {before p after} : d.output.text ≠ "" → d.sources = before ++ p :: after →
      p.text = "" → (∀ q ∈ before, q.text ≠ "") →
      d.Refused "sources" ("source entry " ++ toString before.length ++ " is empty")
  | reference {before p after} : d.output.text ≠ "" → (∀ q ∈ d.sources, q.text ≠ "") →
      d.references = before ++ p :: after → p.text = "" → (∀ q ∈ before, q.text ≠ "") →
      d.Refused "references" ("reference entry " ++ toString before.length ++ " is empty")
  | define {before symbol after} : d.output.text ≠ "" → (∀ q ∈ d.sources, q.text ≠ "") →
      (∀ q ∈ d.references, q.text ≠ "") → d.defines = before ++ symbol :: after →
      ¬ ValidSymbol symbol → (∀ earlier ∈ before, ValidSymbol earlier) →
      d.Refused "defines" ("`" ++ symbol ++ "` is not a valid preprocessor symbol")

/-- **The check finds the first fault.** -/
theorem refused_iff {d : Draft} {field reason : String} :
    d.Refused field reason ↔
      ∃ fault, d.fault? = some fault ∧ field = fault.field ∧ reason = fault.reason := by
  constructor
  · rintro (houtput | ⟨houtput, hsources, hp, hbefore⟩ |
      ⟨houtput, hsources, hreferences, hp, hbefore⟩ |
      ⟨houtput, hsources, hreferences, hdefines, hsymbol, hbefore⟩)
    · exact ⟨.emptyOutput, by rw [fault?, if_pos (Path.hostPath_isEmpty_iff.2 houtput)], rfl, rfl⟩
    · refine ⟨.emptySource _, ?_, rfl, rfl⟩
      have hfirst := Path.findIdx?_isEmpty_eq_some_iff.2 ⟨_, _, _, hsources, rfl, hp, hbefore⟩
      rw [fault?, if_neg (mt Path.hostPath_isEmpty_iff.1 houtput), hfirst]
    · refine ⟨.emptyReference _, ?_, rfl, rfl⟩
      have hfirst := Path.findIdx?_isEmpty_eq_some_iff.2 ⟨_, _, _, hreferences, rfl, hp, hbefore⟩
      rw [fault?, if_neg (mt Path.hostPath_isEmpty_iff.1 houtput),
        Path.findIdx?_isEmpty_eq_none_iff.2 hsources, hfirst]
    · refine ⟨.badDefine _, ?_, rfl, rfl⟩
      have hfirst := find?_not_isSymbol_eq_some_iff.2 ⟨_, _, hdefines, hsymbol, hbefore⟩
      rw [fault?, if_neg (mt Path.hostPath_isEmpty_iff.1 houtput),
        Path.findIdx?_isEmpty_eq_none_iff.2 hsources,
        Path.findIdx?_isEmpty_eq_none_iff.2 hreferences, hfirst, Option.map_some]
  · rintro ⟨fault, hfault, rfl, rfl⟩
    by_cases houtput : d.output.text = ""
    · rw [fault?, if_pos (Path.hostPath_isEmpty_iff.2 houtput)] at hfault
      cases hfault
      exact .output houtput
    rw [fault?, if_neg (mt Path.hostPath_isEmpty_iff.1 houtput)] at hfault
    cases hsources : d.sources.findIdx? HostPath.isEmpty with
    | some index =>
      rw [hsources] at hfault
      cases hfault
      obtain ⟨before, p, after, hsplit, rfl, hp, hbefore⟩ :=
        Path.findIdx?_isEmpty_eq_some_iff.1 hsources
      exact .source houtput hsplit hp hbefore
    | none =>
      rw [hsources] at hfault
      rw [Path.findIdx?_isEmpty_eq_none_iff] at hsources
      cases hreferences : d.references.findIdx? HostPath.isEmpty with
      | some index =>
        rw [hreferences] at hfault
        cases hfault
        obtain ⟨before, p, after, hsplit, rfl, hp, hbefore⟩ :=
          Path.findIdx?_isEmpty_eq_some_iff.1 hreferences
        exact .reference houtput hsources hsplit hp hbefore
      | none =>
        rw [hreferences] at hfault
        rw [Path.findIdx?_isEmpty_eq_none_iff] at hreferences
        obtain ⟨symbol, hsymbol, rfl⟩ := Option.map_eq_some_iff.1 hfault
        obtain ⟨before, after, hsplit, hbad, hbefore⟩ := find?_not_isSymbol_eq_some_iff.1 hsymbol
        exact .define houtput hsources hreferences hsplit hbad hbefore

theorem build_eq_error_iff {d : Draft} {failure : Failure} :
    d.build = .error failure ↔
      ∃ field reason, d.Refused field reason ∧ failure = .invalid field reason := by
  constructor
  · intro h
    rw [build] at h
    split at h
    · cases h
    · next fault hfault =>
      cases h
      exact ⟨_, _, refused_iff.2 ⟨fault, hfault, rfl, rfl⟩, rfl⟩
  · rintro ⟨_, _, hrefused, rfl⟩
    obtain ⟨fault, hfault, rfl, rfl⟩ := refused_iff.1 hrefused
    rw [build]
    split
    · next hnone => rw [hfault] at hnone; cases hnone
    · next other hother => rw [hfault] at hother; cases hother; rfl

theorem exists_build_eq_ok_iff {d : Draft} : (∃ u, d.build = .ok u) ↔ d.WellFormed := by
  constructor
  · rintro ⟨u, hu⟩
    exact build_eq_ok_iff.1 hu ▸ u.wellFormed
  · intro h
    exact ⟨⟨d, h⟩, build_of_wellFormed h⟩

/-- **Filling in a draft and building it.** What is built has in each list field all that was added
to it, in order, and in each other field the last value that was set; it is built exactly if nothing
of this is empty and the symbols are valid. Otherwise the failure tells the first fault. It makes no
difference how the edits of different fields are mixed, whether values are added together or one at
a time, nor whether the fields come from edits or from a manifest. -/
theorem build_ofEdits (output : Path) (edits : List Edit) :
    let d := gathered output edits
    let built := (ofEdits output edits).build
    let m : Manifest :=
      ⟨output, d.sources, d.references, d.defines, d.target, d.development, d.profile⟩
    ((∃ u, built = .ok u) ↔
      output.text ≠ "" ∧ (∀ p ∈ d.sources, p.text ≠ "") ∧ (∀ p ∈ d.references, p.text ≠ "") ∧
        ∀ symbol ∈ d.defines,
          symbol ≠ "" ∧ ∀ c ∈ symbol.toList, Text.isBlank c = false ∧ c ≠ ';') ∧
    (∀ u, built = .ok u → u.toDraft = d) ∧
    (∀ failure, built = .error failure ↔
      ∃ field reason, d.Refused field reason ∧ failure = .invalid field reason) ∧
    (∀ edits', (∀ key, edits'.filter (·.key = key) = edits.filter (·.key = key)) →
      (ofEdits output edits').build = built) ∧
    (∀ before edit after, edits = before ++ edit :: after →
      (ofEdits output (before ++ edit.singles ++ after)).build = built) ∧
    m.toUnit = built ∧
    (∀ tree, Manifest.ofTree? tree = some m → BuildUnit.ofTree? tree = some built) ∧
    ∃ tree, m.tree? = some tree ∧ Manifest.ofTree? tree = some m := by
  intro d built m
  have hbuilt : built = d.build := congrArg build (ofEdits_eq output edits)
  have hunit : m.toUnit = built := (Manifest.toUnit_eq m).trans hbuilt.symm
  refine ⟨?_, fun u hu => build_eq_ok_iff.1 (hbuilt.symm.trans hu), fun failure => ?_,
    fun edits' hkeys => ?_, ?_, hunit, fun tree htree => ?_, ?_⟩
  · rw [hbuilt, exists_build_eq_ok_iff, WellFormed]
    simp only [Path.hostPath_isEmpty_eq_false_iff]
    rfl
  · rw [hbuilt, build_eq_error_iff]
  · rw [hbuilt, ofEdits_eq, gathered_congr hkeys]
  · rintro before edit after rfl
    refine congrArg build ?_
    rw [ofEdits, ofEdits, List.foldl_append, List.foldl_append, foldl_singles, List.foldl_append,
      List.foldl_cons]
  · rw [BuildUnit.ofTree?, htree, Option.map_some, hunit]
  · obtain ⟨tree, htree⟩ := (Manifest.exists_tree?_iff (m := m)).2 fun (p : Path) _ => ⟨p.text, rfl⟩
    exact ⟨tree, htree, Manifest.ofTree?_of_tree? htree⟩

/-- A draft with faults in three fields, filled in from the last to the first. -/
theorem build_ofEdits_with_many_faults :
    let edits : List Edit := [.define "A B", .reference ⟨""⟩, .target .player,
      .sources [⟨"A.cs"⟩, ⟨""⟩, ⟨""⟩], .target .constrained, .define "C"]
    let sorted : List Edit := [.sources [⟨"A.cs"⟩, ⟨""⟩, ⟨""⟩], .reference ⟨""⟩,
      .define "A B", .define "C", .target .player, .target .constrained]
    let split : List Edit := [.define "A B", .reference ⟨""⟩, .target .player,
      .source ⟨"A.cs"⟩, .source ⟨""⟩, .source ⟨""⟩, .target .constrained, .define "C"]
    let failure : Failure := .invalid "sources" "source entry 1 is empty"
    (∀ key, sorted.filter (·.key = key) = edits.filter (·.key = key)) ∧
    gathered ⟨"Lib.dll"⟩ edits = ⟨⟨"Lib.dll"⟩, [⟨"A.cs"⟩, ⟨""⟩, ⟨""⟩], [⟨""⟩], ["A B", "C"],
      .constrained, false, .net20⟩ ∧
    (ofEdits ⟨"Lib.dll"⟩ edits).build = .error failure ∧
    (ofEdits ⟨"Lib.dll"⟩ sorted).build = .error failure ∧
    (ofEdits ⟨"Lib.dll"⟩ split).build = .error failure ∧
    ∃ tree, (⟨⟨"Lib.dll"⟩, [⟨"A.cs"⟩, ⟨""⟩, ⟨""⟩], [⟨""⟩], ["A B", "C"], .constrained, false,
        .net20⟩ : Manifest).tree? = some tree ∧
      BuildUnit.ofTree? (P := Path) tree = some (.error failure) := by
  intro edits sorted split failure
  obtain ⟨-, -, hfailure, hsorted, hsplit, -, hmanifest, tree, htree, hread⟩ :=
    build_ofEdits ⟨"Lib.dll"⟩ edits
  have hkeys (key : String) : sorted.filter (·.key = key) = edits.filter (·.key = key) := by
    simp only [edits, sorted, List.filter_cons, List.filter_nil, Edit.key]
    grind
  have hbuilt : (ofEdits ⟨"Lib.dll"⟩ edits).build = .error failure :=
    (hfailure failure).2 ⟨_, _,
      @Refused.source _ [⟨"A.cs"⟩] ⟨""⟩ [⟨""⟩] (by decide) rfl rfl (by decide), by decide⟩
  refine ⟨hkeys, by decide, hbuilt, (hsorted sorted hkeys).trans hbuilt, ?_, ?_⟩
  · exact (hsplit [.define "A B", .reference ⟨""⟩, .target .player]
      (.sources [⟨"A.cs"⟩, ⟨""⟩, ⟨""⟩]) [.target .constrained, .define "C"] rfl).trans hbuilt
  · exact ⟨tree, htree, (hmanifest tree hread).trans (congrArg some hbuilt)⟩

end Draft

end CSharpBuild
