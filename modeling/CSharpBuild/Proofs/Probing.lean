/-
What a composition looks for, and what its command line owes to the answers. `compose_probes` ties
the two: every token that depends on a file being there belongs to a look that said so, and every
look that said so has its token.
-/
import CSharpBuild.Proofs.Grammar

namespace CSharpBuild.Compiler

open Text

theorem map_again {f : Findings} {c : Compiler} {u : BuildUnit} {epoch : Epoch} {t : Toolchain}
    (hf : f.Fits c u epoch t) :
    f.again.toList.map (·.1) = if t.isPrimary then t.executable.toList else [] := by
  have h := congrArg Option.toList hf.again
  rw [Option.toList_map] at h
  rw [h, executable?]
  split <;> rfl

/-! ## The looks for response files -/

/-- The looks for response files by their paths on disk. -/
theorem map_tries {α : Type} (g : String → α) (missed : List String) (merged : Option String) :
    (tries missed merged).map (fun look => (g look.1, look.2)) =
      missed.map (fun name => (g name, false)) ++ merged.toList.map fun name => (g name, true) := by
  rw [tries, List.map_append, List.map_map, List.map_map]
  rfl

/-- Only the last look can have found one. -/
theorem getLast?_tries {α : Type} (g : String → α) (missed : List String)
    (merged : Option String) :
    ((tries missed merged).map fun look => (g look.1, look.2)).getLast?.map (·.2) = some true ↔
      merged.isSome := by
  rw [map_tries]
  cases merged with
  | none => cases h : missed.getLast? <;> simp [List.getLast?_map, h]
  | some name => simp

/-- **Every conditional token has its look, and every successful look its token.** The looks of a
composition are, in this order, one for the executable of a primary toolchain, one for each listed
framework reference, and those for the response files of the epoch up to the first that is there:
all names before it, `missed`, are not. -/
theorem compose_probes {σ : Type} (host : Host σ) (s : σ) (c : Compiler) (u : BuildUnit)
    (epoch : Epoch) (t : Toolchain) :
    let x := (c.compose u epoch t).execute host s
    ∃ (again references responses : List (Path × Bool)) (missed rest : List String),
      x.looks = again ++ references ++ responses ∧
      x.probes = x.looks.map (·.1) ∧
      again.map (·.1) = (if t.isPrimary then t.executable.toList else []) ∧
      references.map (·.1) = (c.layout.additional u.profile).map
        (fun name => (c.layout.referenceDirectory u.profile).join ⟨name⟩) ∧
      (match epoch with
        | .current => c.config.responseFile :: u.profile.obsoleteResponseFile?.toList
        | .legacy => t.candidates) = missed ++ rest ∧
      responses = missed.map (fun name => (c.config.responseDisk name, false))
        ++ rest.head?.toList.map (fun name => (c.config.responseDisk name, true)) ∧
      x.value.args.filter (startsWith · "-r:") =
        (u.references ++ (references.filter (·.2)).map (·.1)).map
          (fun path => "-r:" ++ Token.quote path) ∧
      ((∃ token ∈ x.value.args, startsWith token "@" = true) ↔
        responses.getLast?.map (·.2) = some true) ∧
      x.value.args.filter (startsWith · "@") = rest.head?.toList.map
        (fun name => "@" ++ Token.quote (c.config.responseToken name)) := by
  obtain ⟨f, hf, hlooks, hvalue⟩ := exists_findings host s c u epoch t
  obtain ⟨rest, hnames, hmerged⟩ := hf.responses
  intro x
  have hprobes := Execution.probes_eq_map_looks x
  have hlooks : x.looks = f.again.toList ++ f.references ++ (tries f.missed f.merged).map
      fun look => (c.config.responseDisk look.1, look.2) := by rw [hlooks, Findings.looks]
  have hargs : x.value.args = f.args c u epoch := by rw [hvalue, Findings.composition]
  -- Nothing more is needed of the execution, and the terms below must not be unfolded into it.
  clear_value x
  refine ⟨f.again.toList, f.references,
    (tries f.missed f.merged).map fun look => (c.config.responseDisk look.1, look.2),
    f.missed, rest, ?_⟩
  refine ⟨hlooks, hprobes, map_again hf, hf.references, hnames, ?_, ?_, ?_, ?_⟩
  · rw [map_tries, hmerged]
  · rw [hargs, f.filter_args_reference, Findings.present]
  · rw [getLast?_tries, exists_startsWith_iff, hargs, f.filter_args_response]
    cases f.merged <;> simp
  · rw [hargs, f.filter_args_response, hmerged]

end CSharpBuild.Compiler
