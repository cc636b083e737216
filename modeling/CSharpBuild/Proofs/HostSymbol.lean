/-
How often a prepared command defines a symbol. A composition defines each symbol of its unit once;
the symbol that names the host process is put in afterwards, and nobody looks whether the unit has it
already.

`prepare_defines_once_iff` counts what both of them put into the command and reads the exact
condition off it: no symbol is defined twice unless the unit defines the one that names the host, and
then this one is (`host_symbol_repeated`).
-/
import Mathlib.Data.List.Count
import Mathlib.Data.List.Nodup
import CSharpBuild.Proofs.Symbols

namespace CSharpBuild

open Text

theorem define_injective : Function.Injective ("-define:" ++ · : String → String) :=
  fun _ _ => (String.append_right_inj _).1

theorem BuildUnit.count_uniqueDefines (u : BuildUnit) (symbol : String) :
    u.uniqueDefines.count symbol = if symbol ∈ u.defines then 1 else 0 := by
  rw [u.nodup_uniqueDefines.count]
  simp only [mem_uniqueDefines]

/-- The define tokens when symbols were added: those of the unit, then the added ones. -/
theorem Findings.filter_settled_define (f : Findings) (c : Compiler) (u : BuildUnit) (epoch : Epoch)
    (symbols : List String) :
    ((f.settled c u epoch symbols).map Arg.token).filter (startsWith · "-define:") =
      (u.uniqueDefines ++ symbols).map ("-define:" ++ ·) := by
  have hresponse : (f.merged.toList.map fun name =>
      Arg.response (c.config.responseToken name)).filter (fun a => a.head = "-define:") = [] :=
    (Arg.filter_head_map _ "@" (fun _ => rfl) _ _).trans (if_neg (by decide))
  have hadded : (symbols.map Arg.define).filter (fun a => a.head = "-define:") =
      symbols.map Arg.define :=
    (Arg.filter_head_map _ "-define:" (fun _ => rfl) _ _).trans (if_pos rfl)
  have hunit : (f.body c u epoch).filter (fun a => a.head = "-define:") =
      u.uniqueDefines.map Arg.define := by
    have hmeant := f.filter_meant c u epoch "-define:"
    rw [meant, List.filter_append, hresponse, List.append_nil,
      Compiler.filter_leadingArgs (by decide)] at hmeant
    simpa using hmeant
  rw [Arg.filter_token _ (by decide), settled, List.filter_append, List.filter_append, hunit,
    hadded, hresponse, List.append_nil, ← List.map_append, List.map_map]
  rfl

namespace Compiler

variable {c : Compiler} {u : BuildUnit}

theorem mem_hostSymbols {symbol : String} :
    symbol ∈ c.hostSymbols ↔
      ∃ lead ∈ c.config.processIdDefine, lead ++ toString c.processId = symbol := by
  simp [hostSymbols]

theorem nodup_hostSymbols (c : Compiler) : c.hostSymbols.Nodup := by
  rw [hostSymbols]
  cases c.config.processIdDefine <;> simp

/-- Of the symbols of a unit and the host's, one stands twice only if it is among both. -/
theorem nodup_uniqueDefines_append_hostSymbols :
    (u.uniqueDefines ++ c.hostSymbols).Nodup ↔
      ∀ lead ∈ c.config.processIdDefine, lead ++ toString c.processId ∉ u.defines := by
  rw [List.nodup_append]
  constructor
  · rintro ⟨-, -, hapart⟩ lead hlead hmem
    exact hapart _ (BuildUnit.mem_uniqueDefines.2 hmem) _ (mem_hostSymbols.2 ⟨lead, hlead, rfl⟩) rfl
  · refine fun hfresh => ⟨u.nodup_uniqueDefines, c.nodup_hostSymbols, ?_⟩
    rintro symbol hunit _ hhost rfl
    obtain ⟨lead, hlead, rfl⟩ := mem_hostSymbols.1 hhost
    exact hfresh lead hlead (BuildUnit.mem_uniqueDefines.1 hunit)

theorem filter_primaryCommand_define (f : Findings) (executable : Path) (epoch : Epoch) :
    (c.primaryCommand executable (f.args c u epoch)).args.filter (startsWith · "-define:") =
      (u.uniqueDefines ++ c.hostSymbols).map ("-define:" ++ ·) := by
  have hlauncher : (c.config.launcher.toList.map fun _ => Token.quote executable).filter
      (startsWith · "-define:") = [] := by
    have hquote : startsWith (Token.quote executable) "-define:" = false :=
      (Arg.source executable).startsWith_token (by decide)
    cases c.config.launcher <;> simp [hquote]
  rw [args_primaryCommand, List.filter_append, hlauncher, List.nil_append,
    Findings.identified_args, Findings.filter_settled_define]

/-- **A symbol is defined once, unless it names the host and the unit has it too.** -/
theorem prepare_defines_once_iff {σ : Type} (host : Host σ) (s : σ) (c : Compiler) (u : BuildUnit)
    {p : Prepared} (h : ((c.prepare u).execute host s).value = .ok p)
    (hprimary : p.toolchain.isPrimary = true) :
    let tokens := p.command.args.filter (startsWith · "-define:")
    tokens = (u.uniqueDefines ++ c.hostSymbols).map ("-define:" ++ ·) ∧
    (∀ symbol, tokens.count ("-define:" ++ symbol) =
      (if symbol ∈ u.defines then 1 else 0) + (if symbol ∈ c.hostSymbols then 1 else 0)) ∧
    (tokens.Nodup ↔
      ∀ lead ∈ c.config.processIdDefine, lead ++ toString c.processId ∉ u.defines) := by
  obtain ⟨found, f, -, -, -, -, hcase⟩ := exists_preparation host s c u
  rcases hcase with ⟨-, -, hvalue⟩ | ⟨-, answer, -, hvalue⟩
  · cases hvalue.symm.trans h
    intro tokens
    have htokens : tokens = (u.uniqueDefines ++ c.hostSymbols).map ("-define:" ++ ·) :=
      filter_primaryCommand_define f _ _
    clear_value tokens
    refine ⟨htokens, fun symbol => ?_, ?_⟩
    · rw [htokens, List.count_map_of_injective _ _ define_injective, List.count_append,
        u.count_uniqueDefines, c.nodup_hostSymbols.count]
    · rw [htokens, List.nodup_map_iff define_injective, nodup_uniqueDefines_append_hostSymbols]
  · cases answer with
    | error failure => cases hvalue.symm.trans h
    | ok default =>
      cases hvalue.symm.trans h
      cases hprimary

/-- A unit that does not know the id of its host: no symbol twice, and the response file still last. -/
theorem prepare_defines_once_under_launcher :
    let host := Doubles.FileSet.host (.ok Doubles.SampleCompiler.monoCommand) []
    let c : Compiler := ⟨{ Config.ofRoot ⟨"/game"⟩ with launcher := some ⟨"mono"⟩ },
      Doubles.SampleCompiler.standard.layout, 42⟩
    let u : BuildUnit := ⟨{ Draft.new ⟨"Lib.dll"⟩ with defines := ["DEBUG", "TRACE", "DEBUG"] },
      Draft.fault?_eq_none_iff.1 (by decide)⟩
    let files := Doubles.FileSet.ofPaths
      [⟨"/game/Compiler/UniversalCompiler.exe"⟩, ⟨"/game/mcs.rsp"⟩]
    ∃ p, ((c.prepare u).execute host files).value = .ok p ∧
      p.command.args.getLast? = some "@\"mcs.rsp\"" ∧
      (p.command.args.filter (startsWith · "-define:")).Nodup := by
  intro host c u files
  let p : Prepared := ⟨.primary ⟨"/game/Compiler/UniversalCompiler.exe"⟩ ["mcs.rsp"],
    ⟨⟨"mono"⟩, ["\"/game/Compiler/UniversalCompiler.exe\"", "-debug", "-target:library",
      "-nowarn:0169", "-langversion:6", "-out:\"Lib.dll\"", "-unsafe", "-optimize",
      "-define:DEBUG", "-define:TRACE", "-define:__UNITY_PROCESSID__42", "@\"mcs.rsp\""],
      some ⟨"/game"⟩⟩, []⟩
  have hvalue : ((c.prepare u).execute host files).value = .ok p := by decide +kernel
  obtain ⟨-, -, honce⟩ := prepare_defines_once_iff host files c u hvalue rfl
  exact ⟨p, hvalue, rfl, honce.2 (by decide)⟩

/-- **A unit that has the host's symbol has it defined twice.** -/
theorem host_symbol_repeated :
    let host := Doubles.FileSet.host (.ok Doubles.SampleCompiler.monoCommand) []
    let c : Compiler := ⟨Config.ofRoot ⟨"/game"⟩, Doubles.SampleCompiler.standard.layout, 42⟩
    let u : BuildUnit := ⟨{ Draft.new ⟨"Lib.dll"⟩ with defines := ["__UNITY_PROCESSID__42"] },
      Draft.fault?_eq_none_iff.1 (by decide)⟩
    let files := Doubles.FileSet.ofPaths [⟨"/game/Compiler/UniversalCompiler.exe"⟩]
    ∃ p, ((c.prepare u).execute host files).value = .ok p ∧ p.toolchain.isPrimary = true ∧
      p.command.args.filter (startsWith · "-define:") =
        ["-define:__UNITY_PROCESSID__42", "-define:__UNITY_PROCESSID__42"] ∧
      ¬ (p.command.args.filter (startsWith · "-define:")).Nodup := by
  intro host c u files
  let p : Prepared := ⟨.primary ⟨"/game/Compiler/UniversalCompiler.exe"⟩ ["mcs.rsp"],
    ⟨⟨"/game/Compiler/UniversalCompiler.exe"⟩, ["-debug", "-target:library", "-nowarn:0169",
      "-langversion:6", "-out:\"Lib.dll\"", "-unsafe", "-optimize",
      "-define:__UNITY_PROCESSID__42", "-define:__UNITY_PROCESSID__42"], some ⟨"/game"⟩⟩, []⟩
  have hvalue : ((c.prepare u).execute host files).value = .ok p := by decide +kernel
  exact ⟨p, hvalue, rfl, by decide, by decide⟩

end Compiler

end CSharpBuild
