/-
Which symbols a prepared command defines, and whether they are preprocessor symbols. Those of a unit
were checked when it was built. The one that names the host is put together from the settings and
the process id, and nobody checks it: `prepare_symbols_valid_iff` gives the condition on the settings
under which it is valid, and `host_symbol_with_semicolon` a setting that is taken and does not meet
it.
-/
import CSharpBuild.Proofs.HostSymbol

namespace CSharpBuild

open Text

/-! ## Symbols that end in a number -/

theorem isBlank_of_isDigit {c : Char} (h : c.isDigit = true) : isBlank c = false ∧ c ≠ ';' := by
  obtain ⟨hlow, hhigh⟩ : 48 ≤ c.toNat ∧ c.toNat ≤ 57 := by
    simpa [Char.isDigit, UInt32.le_iff_toNat_le] using h
  refine ⟨?_, ?_⟩
  · simp only [isBlank, blankRanges, List.any_cons, List.any_nil, Bool.or_eq_false_iff,
      Bool.and_eq_false_iff, decide_eq_false_iff_not, and_true]
    omega
  · rintro rfl
    exact absurd hhigh (by decide)

theorem validSymbol_append_toString_iff {lead : String} {n : Nat} :
    ValidSymbol (lead ++ toString n) ↔ ∀ c ∈ lead.toList, isBlank c = false ∧ c ≠ ';' := by
  have hdigits : ∀ c ∈ (toString n).toList, isBlank c = false ∧ c ≠ ';' := by
    intro c hc
    rw [Nat.toString_eq_repr, Nat.toList_repr] at hc
    exact isBlank_of_isDigit (Nat.isDigit_of_mem_toDigits (by decide) (by decide) hc)
  have hne : lead ++ toString n ≠ "" := by
    intro h
    have hnone : lead.toList ++ Nat.toDigits 10 n = [] := by
      simpa [Nat.toString_eq_repr, Nat.toList_repr] using congrArg String.toList h
    exact Nat.toDigits_ne_nil (List.append_eq_nil_iff.1 hnone).2
  rw [ValidSymbol, String.toList_append, List.forall_mem_append]
  exact ⟨fun h => h.2.1, fun h => ⟨hne, h, hdigits⟩⟩

/-- Filling in the settings keeps what holds of the symbol that is set, if it holds of the default
and of the empty one, which is not used. -/
theorem Config.forall_processIdDefine_ofSettings {root : Path} {s : Settings} {P : String → Prop}
    (hdefault : P defaultProcessIdDefine) (hempty : P "") :
    (∀ lead ∈ (ofSettings root s).processIdDefine, P lead) ↔ ∀ lead ∈ s.processIdDefine, P lead := by
  cases h : s.processIdDefine with
  | none => simpa [ofSettings, h, ofRoot] using hdefault
  | some lead =>
    by_cases hlead : lead = ""
    · simpa [ofSettings, h, hlead] using hempty
    · simp [ofSettings, h, hlead]

namespace Compiler

variable {σ : Type} {host : Host σ} {s : σ} {c : Compiler} {u : BuildUnit}

theorem define_mem_of_isPrimary {p : Prepared} (h : ((c.prepare u).execute host s).value = .ok p)
    (hprimary : p.toolchain.isPrimary = true) (symbol : String) :
    "-define:" ++ symbol ∈ p.command.args ↔ symbol ∈ u.defines ∨ symbol ∈ c.hostSymbols := by
  have hfilter : p.command.args.filter (startsWith · "-define:") =
      (u.uniqueDefines ++ c.hostSymbols).map ("-define:" ++ ·) := by
    obtain ⟨found, f, -, -, -, -, ⟨-, -, hvalue⟩ | ⟨-, answer, -, hvalue⟩⟩ :=
      exists_preparation host s c u
    · cases hvalue.symm.trans h
      exact filter_primaryCommand_define f _ _
    · cases answer with
      | error failure => cases hvalue.symm.trans h
      | ok default =>
        cases hvalue.symm.trans h
        cases hprimary
  have hstart : startsWith ("-define:" ++ symbol) "-define:" = true := startsWith_iff.2 ⟨symbol, rfl⟩
  calc "-define:" ++ symbol ∈ p.command.args
    _ ↔ "-define:" ++ symbol ∈ p.command.args.filter (startsWith · "-define:") := by
      rw [List.mem_filter, and_iff_left hstart]
    _ ↔ symbol ∈ u.uniqueDefines ++ c.hostSymbols := by
      rw [hfilter, List.mem_map_of_injective define_injective]
    _ ↔ symbol ∈ u.defines ∨ symbol ∈ c.hostSymbols := by
      rw [List.mem_append, BuildUnit.mem_uniqueDefines]

/-- **Every symbol of a command is valid exactly if the setting for the host's has no blank and no
semicolon in it.** Any other define comes from the unit, and it is valid. -/
theorem prepare_symbols_valid_iff {σ : Type} (host : Host σ) (s : σ) (root : Path)
    (settings : Settings) (layout : Layout) (processId : Nat) (u : BuildUnit) {p : Prepared}
    (h : ((prepare ⟨.ofSettings root settings, layout, processId⟩ u).execute host s).value = .ok p)
    (hprimary : p.toolchain.isPrimary = true) :
    let c : Compiler := ⟨.ofSettings root settings, layout, processId⟩
    (∀ token ∈ p.command.args, startsWith token "-define:" = true →
      ∃ symbol, token = "-define:" ++ symbol ∧ (ValidSymbol symbol ∨ symbol ∈ c.hostSymbols)) ∧
    ((∀ symbol, "-define:" ++ symbol ∈ p.command.args → ValidSymbol symbol) ↔
      ∀ lead ∈ settings.processIdDefine, ∀ ch ∈ lead.toList, isBlank ch = false ∧ ch ≠ ';') := by
  intro c
  have hmem := define_mem_of_isPrimary h hprimary
  have hunit : ∀ symbol ∈ u.defines, ValidSymbol symbol := u.wellFormed.2.2.2
  refine ⟨fun token htoken hstart => ?_, ?_⟩
  · obtain ⟨symbol, rfl⟩ := startsWith_iff.1 hstart
    exact ⟨symbol, rfl, ((hmem symbol).1 htoken).imp_left (hunit symbol)⟩
  · have hall : (∀ symbol, "-define:" ++ symbol ∈ p.command.args → ValidSymbol symbol) ↔
        ∀ lead ∈ c.config.processIdDefine, ValidSymbol (lead ++ toString processId) := by
      constructor
      · intro hvalid lead hlead
        exact hvalid _ ((hmem _).2 (.inr (mem_hostSymbols.2 ⟨lead, hlead, rfl⟩)))
      · intro hvalid symbol hsymbol
        rcases (hmem symbol).1 hsymbol with hown | hhost
        · exact hunit symbol hown
        · obtain ⟨lead, hlead, rfl⟩ := mem_hostSymbols.1 hhost
          exact hvalid lead hlead
    simp only [hall, validSymbol_append_toString_iff]
    have hdefault : ValidSymbol Config.defaultProcessIdDefine := by decide
    exact Config.forall_processIdDefine_ofSettings hdefault.2 (by simp)

/-- A unit with an unusual symbol, and one in the settings that may stand before a number. -/
theorem prepare_symbols_valid_for_plain_setting :
    let host := Doubles.FileSet.host (.ok Doubles.SampleCompiler.monoCommand) []
    let settings : Settings := { Settings.empty with processIdDefine := some "\"HOST@" }
    let c : Compiler := ⟨.ofSettings ⟨"/game"⟩ settings, Doubles.SampleCompiler.standard.layout, 42⟩
    let u : BuildUnit := ⟨{ Draft.new ⟨"Lib.dll"⟩ with defines := ["-r:A", "-r:A"] },
      Draft.fault?_eq_none_iff.1 (by decide)⟩
    let files := Doubles.FileSet.ofPaths
      [⟨"/game/Compiler/UniversalCompiler.exe"⟩, ⟨"/game/mcs.rsp"⟩]
    ∃ p, ((c.prepare u).execute host files).value = .ok p ∧ p.toolchain.isPrimary = true ∧
      p.command.args.filter (startsWith · "-define:") = ["-define:-r:A", "-define:\"HOST@42"] ∧
      ∀ symbol, "-define:" ++ symbol ∈ p.command.args → ValidSymbol symbol := by
  intro host settings c u files
  let p : Prepared := ⟨.primary ⟨"/game/Compiler/UniversalCompiler.exe"⟩ ["mcs.rsp"],
    ⟨⟨"/game/Compiler/UniversalCompiler.exe"⟩, ["-debug", "-target:library", "-nowarn:0169",
      "-langversion:6", "-out:\"Lib.dll\"", "-unsafe", "-optimize", "-define:-r:A",
      "-define:\"HOST@42", "@\"mcs.rsp\""], some ⟨"/game"⟩⟩, []⟩
  have hvalue : ((c.prepare u).execute host files).value = .ok p := by decide +kernel
  obtain ⟨-, hvalid⟩ := prepare_symbols_valid_iff host files ⟨"/game"⟩ settings
    Doubles.SampleCompiler.standard.layout 42 u hvalue rfl
  have hlead : ValidSymbol "\"HOST@" := by decide
  refine ⟨p, hvalue, rfl, by decide, hvalid.2 ?_⟩
  rintro lead ⟨rfl⟩
  exact hlead.2

/-- **A semicolon in the setting goes into the command**, where no unit could put it. -/
theorem host_symbol_with_semicolon :
    let host := Doubles.FileSet.host (.ok Doubles.SampleCompiler.monoCommand) []
    let settings : Settings := { Settings.empty with processIdDefine := some "TRACE;HOST" }
    let c : Compiler := ⟨.ofSettings ⟨"/game"⟩ settings, Doubles.SampleCompiler.standard.layout, 42⟩
    let u : BuildUnit := ⟨Draft.new ⟨"Lib.dll"⟩, Draft.fault?_eq_none_iff.1 (by decide)⟩
    let files := Doubles.FileSet.ofPaths [⟨"/game/Compiler/UniversalCompiler.exe"⟩]
    ∃ p, ((c.prepare u).execute host files).value = .ok p ∧ p.toolchain.isPrimary = true ∧
      "-define:TRACE;HOST42" ∈ p.command.args ∧ ¬ ValidSymbol "TRACE;HOST42" := by
  intro host settings c u files
  let p : Prepared := ⟨.primary ⟨"/game/Compiler/UniversalCompiler.exe"⟩ ["mcs.rsp"],
    ⟨⟨"/game/Compiler/UniversalCompiler.exe"⟩, ["-debug", "-target:library", "-nowarn:0169",
      "-langversion:6", "-out:\"Lib.dll\"", "-unsafe", "-optimize", "-define:TRACE;HOST42"],
      some ⟨"/game"⟩⟩, []⟩
  have hvalue : ((c.prepare u).execute host files).value = .ok p := by decide +kernel
  exact ⟨p, hvalue, rfl, by decide, by decide⟩

end Compiler

end CSharpBuild
