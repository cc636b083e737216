/-
What a path on the command line means to the child, which runs in the project root, against what it
meant to the host when the host looked for it.

Response files are written as the project root sees them, so the child opens the very file that was
found. The primary compiler and the framework references are written as the host sees them, and
`prepare_resolves` says for which of them this comes to the same: a relative project root that is
not the current directory leads the child astray (`prepare_misplaces_under_relative_root`).
-/
import Mathlib.Control.Monad.Basic
import CSharpBuild.Doubles.FileSet
import CSharpBuild.Doubles.Sample
import CSharpBuild.Proofs.Arrival
import CSharpBuild.Proofs.Backend
import CSharpBuild.Proofs.Joining

namespace CSharpBuild

/-! ## Looks that found something -/

namespace Findings

variable {f : Findings} {c : Compiler}

theorem mem_looks_of_mem_present {path : Path} (h : path ∈ f.present) : (path, true) ∈ f.looks c := by
  obtain ⟨⟨_, found⟩, hmem, rfl⟩ := List.mem_map.1 h
  obtain ⟨hlook, hfound⟩ := List.mem_filter.1 hmem
  obtain rfl : found = true := hfound
  simp [looks, hlook]

theorem mem_looks_of_mem_merged {name : String} (h : name ∈ f.merged) :
    (c.config.responseDisk name, true) ∈ f.looks c := by
  have hmerged : f.merged = some name := h
  simp [looks, Compiler.tries, hmerged]

end Findings

namespace Compiler

variable {c : Compiler} {u : BuildUnit}

/-- What the child of a prepared command receives, behind the launcher's argument or those of the
host's default command: what the findings stand for. -/
theorem exists_arrival {σ : Type} {host : Host σ} {s : σ} {p : Prepared}
    (h : ((c.prepare u).execute host s).value = .ok p) :
    ∃ found, ∃ f : Findings, f.Fits c u c.config.epoch (c.selected c.config.projectRoot found) ∧
      ((c.prepare u).execute host s).looks =
        (c.primaryPath c.config.projectRoot, found) :: f.looks c ∧
      p.command.cwd = some c.config.projectRoot ∧
      (p.toolchain.isPrimary = true → found = true) ∧
      ∃ lead symbols, p.command.invocation.args =
          lead ++ (f.settled c u c.config.epoch symbols).map Arg.received ∧
        (p.toolchain.isPrimary = true → lead = c.config.launcher.toList.map
          fun _ => (c.primaryPath c.config.projectRoot).text) := by
  obtain ⟨found, f, hf, -, hlooks, -, hcase⟩ := exists_preparation host s c u
  refine ⟨found, f, hf, hlooks, ?_⟩
  rcases hcase with ⟨hnone, -, hvalue⟩ | ⟨-, answer, -, hvalue⟩
  · cases hvalue.symm.trans h
    have hfound : found = true := by
      cases found with
      | true => rfl
      | false => cases hnone
    refine ⟨cwd_primaryCommand _ _, fun _ => hfound, _, c.hostSymbols, ?_, fun _ => rfl⟩
    rw [Command.invocation, Findings.primary, args_primaryCommand, Findings.identified_args,
      List.map_append, Arg.map_unquote_token, List.map_map]
    simp [Function.comp_def, Token.unquote_quote]
  · cases answer with
    | error failure => cases hvalue.symm.trans h
    | ok default =>
      cases hvalue.symm.trans h
      refine ⟨rfl, by rintro ⟨⟩, default.args.map Token.unquote, [], ?_, by rintro ⟨⟩⟩
      rw [← Arg.map_unquote_token, ← Findings.args_eq_settled, ← List.map_append]
      rfl

/-- **What the host found and what the child will find.** Of the files that a preparation puts on
the command line because it found them, the response file is for the child where it was found. The
executable that the launcher is given is there exactly if joining it to the project root left it
alone or the root is the current directory, and a framework reference exactly if it is absolute or
the root adds nothing to it. -/
theorem prepare_resolves {σ : Type} (host : Host σ) (s : σ) (c : Compiler) (u : BuildUnit)
    {p : Prepared} (h : ((c.prepare u).execute host s).value = .ok p) :
    let x := (c.prepare u).execute host s
    let child := p.command.invocation
    let root := c.config.projectRoot
    let place := c.primaryPath root
    child.cwd = some root ∧
    (p.toolchain.isPrimary = true → c.config.launcher.isSome = true →
      (place, true) ∈ x.looks ∧ child.args.head? = some place.text ∧
        ((root.join place).Same place ↔ c.config.primaryCompiler.isAbsolute = true ∨
          root.isAbsolute = true ∨ root.isEmpty = true ∨ root.components = [.here])) ∧
    ∃ found, ∃ f : Findings, f.Fits c u c.config.epoch (c.selected root found) ∧
      x.looks = (place, found) :: f.looks c ∧
      (∀ path ∈ f.present, (path, true) ∈ x.looks ∧ "-r:" ++ path.text ∈ child.args ∧
        ((root.join path).Same path ↔ path.isAbsolute = true ∨ root.isEmpty = true ∨
          (root.components = [.here] ∧ path.components.head? = some .here))) ∧
      ∀ name ∈ f.merged, (c.config.responseDisk name, true) ∈ x.looks ∧
        child.args.getLast? = some ("@" ++ (c.config.responseToken name).text) ∧
        (root.join (c.config.responseToken name)).Same (c.config.responseDisk name) := by
  obtain ⟨found, f, hf, hlooks, hcwd, hfound, lead, symbols, hargs, hlead⟩ := exists_arrival h
  have hsettled := @Findings.received_settled f c u c.config.epoch symbols
  intro x child root place
  have hlook {look : Path × Bool} (hmem : look ∈ f.looks c) : look ∈ x.looks :=
    hlooks ▸ List.mem_cons_of_mem _ hmem
  refine ⟨hcwd, fun hprimary hlauncher => ⟨?_, ?_, Path.same_join_join_iff⟩,
    found, f, hf, hlooks, fun path hpath => ⟨?_, ?_, Path.same_join_iff⟩, fun name hname => ⟨?_, ?_, ?_⟩⟩
  · rw [hfound hprimary] at hlooks
    exact hlooks ▸ List.mem_cons_self
  · obtain ⟨launcher, hsome⟩ := Option.isSome_iff_exists.1 hlauncher
    rw [hargs, hlead hprimary, hsome]
    rfl
  · exact hlook (Findings.mem_looks_of_mem_present hpath)
  · have hmem : "-r:" ++ path.text ∈ f.present.map fun path => "-r:" ++ path.text :=
      List.mem_map_of_mem hpath
    rw [hargs, hsettled]
    simp only [List.mem_append]
    exact .inr (.inl (.inl (.inr hmem)))
  · exact hlook (Findings.mem_looks_of_mem_merged hname)
  · rw [hargs, hsettled, Option.mem_def.1 hname, ← List.append_assoc]
    exact List.getLast?_concat
  · rfl

/-- Under an absolute root the launcher's child finds the compiler that the host found. -/
theorem prepare_resolves_absolute_root :
    let executable : Path := ⟨"/game/mcs.exe"⟩
    let host := Doubles.FileSet.host (.ok Doubles.SampleCompiler.monoCommand) []
    let c : Compiler := ⟨{ Config.ofRoot ⟨"/game"⟩ with
      primaryCompiler := ⟨"mcs.exe"⟩, launcher := some ⟨"mono"⟩, processIdDefine := none },
      Doubles.SampleCompiler.standard.layout, 42⟩
    let u : BuildUnit := ⟨Draft.new ⟨"Lib.dll"⟩, Draft.fault?_eq_none_iff.1 (by decide)⟩
    let x := (c.prepare u).execute host (Doubles.FileSet.ofPaths [executable, ⟨"/game/mcs.rsp"⟩])
    ∃ p, x.value = .ok p ∧ p.command.invocation.args.head? = some executable.text ∧
      (c.config.projectRoot.join executable).Same executable := by
  intro executable host c u x
  let p : Prepared := ⟨.primary executable ["mcs.rsp"], ⟨⟨"mono"⟩,
    ["\"/game/mcs.exe\"", "-debug", "-target:library", "-nowarn:0169", "-langversion:6",
      "-out:\"Lib.dll\"", "-unsafe", "-optimize", "@\"mcs.rsp\""], some ⟨"/game"⟩⟩, []⟩
  have hvalue : x.value = .ok p := by decide +kernel
  have hplace : c.primaryPath c.config.projectRoot = executable := by decide
  obtain ⟨-, hlauncher, -⟩ := prepare_resolves host _ c u hvalue
  obtain ⟨-, hhead, hsame⟩ := hlauncher rfl rfl
  rw [hplace] at hhead hsame
  exact ⟨p, hvalue, hhead, hsame.2 (.inr (.inl (by decide)))⟩

/-- **Under a relative root it does not:** the path is looked for below the root once more. -/
theorem prepare_misplaces_under_relative_root :
    let executable : Path := ⟨"game/mcs.exe"⟩
    let host := Doubles.FileSet.host (.ok Doubles.SampleCompiler.monoCommand) []
    let c : Compiler := ⟨{ Config.ofRoot ⟨"game"⟩ with
      primaryCompiler := ⟨"mcs.exe"⟩, launcher := some ⟨"mono"⟩, processIdDefine := none },
      Doubles.SampleCompiler.standard.layout, 42⟩
    let u : BuildUnit := ⟨Draft.new ⟨"Lib.dll"⟩, Draft.fault?_eq_none_iff.1 (by decide)⟩
    let x := (c.prepare u).execute host (Doubles.FileSet.ofPaths [executable])
    (executable, true) ∈ x.looks ∧
    ∃ p, x.value = .ok p ∧ p.command.invocation.args.head? = some executable.text ∧
      p.command.cwd = some c.config.projectRoot ∧
      c.config.projectRoot.join executable = ⟨"game/game/mcs.exe"⟩ ∧
      ¬ (c.config.projectRoot.join executable).Same executable := by
  intro executable host c u x
  let p : Prepared := ⟨.primary executable ["mcs.rsp"], ⟨⟨"mono"⟩,
    ["\"game/mcs.exe\"", "-debug", "-target:library", "-nowarn:0169", "-langversion:6",
      "-out:\"Lib.dll\"", "-unsafe", "-optimize"], some ⟨"game"⟩⟩, []⟩
  have hvalue : x.value = .ok p := by decide +kernel
  exact ⟨by decide +kernel, p, hvalue, by decide, rfl, by decide, by decide⟩

end Compiler

end CSharpBuild
