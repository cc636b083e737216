/-
Which backend was chosen does not show in the arguments. Over a fixed file set two toolchains lead
to the same ones, and to the same warnings but for the one that a primary compiler has vanished,
which stands in front (`compose_conceals_backend`). A composition that is made again with the
toolchain it has settled on comes out the same without that warning.

A toolchain gets into a composition at two points only: the second look for its executable, and the
candidates, which the legacy epoch alone reads. So the two runs are compared at
`responseNames_congr`, and the second look is answered for good by `Toolchain.kept`.
-/
import CSharpBuild.Doubles.Sample
import CSharpBuild.Proofs.Backend
import CSharpBuild.Proofs.Steadiness

namespace CSharpBuild

open Plan

/-! ## What is left of a toolchain -/

namespace Toolchain

/-- The toolchain is the primary compiler exactly if it has an executable. -/
def Equipped (t : Toolchain) : Prop := t.isPrimary = true ↔ t.executable.isSome = true

theorem equipped_primary (executable : Path) (candidates : List String) :
    (primary executable candidates).Equipped :=
  iff_of_true rfl rfl

theorem equipped_fallback (candidates : List String) : (fallback candidates).Equipped :=
  iff_of_false nofun nofun

end Toolchain

namespace Warning

theorem compilerVanished_injective {path path' : Path}
    (h : compilerVanished path = compilerVanished path') : path = path' :=
  Option.some.inj (congrArg Warning.location h)

end Warning

/-- The same response files are tried with either toolchain, if the epoch does not read different
candidates. -/
theorem Compiler.responseNames_congr {c : Compiler} {u : BuildUnit} {epoch : Epoch}
    {t₁ t₂ : Toolchain} (h : epoch = .legacy → t₁.candidates = t₂.candidates) :
    c.responseNames u epoch t₁ = c.responseNames u epoch t₂ := by
  cases epoch with
  | legacy => exact h rfl
  | current => rfl

namespace Findings

variable {holds : Path → Bool} {c : Compiler} {u : BuildUnit} {epoch : Epoch} {t t₁ t₂ : Toolchain}

theorem args_upon_congr (h : c.responseNames u epoch t₁ = c.responseNames u epoch t₂) :
    (upon holds c u epoch t₁).args c u epoch = (upon holds c u epoch t₂).args c u epoch := by
  rw [args, args, present_upon, present_upon, upon, upon, h]

theorem obsolete_upon_congr (h : c.responseNames u epoch t₁ = c.responseNames u epoch t₂) :
    (upon holds c u epoch t₁).obsolete c epoch = (upon holds c u epoch t₂).obsolete c epoch := by
  rw [obsolete, obsolete, upon, upon, h]

/-- Composing again with what was settled on: the second look finds what it looks for, or there is
none. -/
theorem composition_upon_kept :
    (upon holds c u epoch (t.kept holds)).composition c u epoch (t.kept holds) =
      ⟨t.kept holds, (upon holds c u epoch t).args c u epoch,
        (upon holds c u epoch t).obsolete c epoch⟩ := by
  have hnames : c.responseNames u epoch (t.kept holds) = c.responseNames u epoch t :=
    Compiler.responseNames_congr fun _ => Toolchain.candidates_kept
  rw [composition, toolchain_upon, Toolchain.kept_kept, args_upon_congr hnames, vanished_upon,
    Toolchain.lost_kept]
  exact congrArg (Composition.mk _ _) (obsolete_upon_congr hnames)

end Findings

namespace Compiler

variable {σ : Type} {c : Compiler} {u : BuildUnit} {epoch : Epoch} {t : Toolchain}

theorem head?_warnings_eq_vanished_iff {holds : Path → Bool} {others : List Warning}
    (hothers : ∀ w ∈ others, ¬ w.MissingCompiler) (path : Path) :
    ((t.lost holds).toList.map Warning.compilerVanished ++ others).head? =
        some (.compilerVanished path) ↔
      t.isPrimary = true ∧ t.executable = some path ∧ holds path = false := by
  rw [← Toolchain.lost_eq_some_iff]
  cases t.lost holds with
  | none =>
    refine iff_of_false (fun h => ?_) nofun
    exact hothers _ (List.mem_of_mem_head? h) (Warning.missingCompiler_compilerVanished path)
  | some lost =>
    constructor
    · intro h
      rw [Warning.compilerVanished_injective (Option.some.inj h)]
    · intro h
      rw [Option.some.inj h]
      rfl

/-! ## Toolchains that were selected -/

/-- The toolchains that come of a selection, after compositions and demotions of any number. -/
inductive Supplied (c : Compiler) : Toolchain → Prop where
  | selected {σ : Type} (host : Host σ) (s : σ) (base : Path) (u : BuildUnit) :
      Supplied c ((c.select base u).execute host s).value
  | composed {σ : Type} (host : Host σ) (s : σ) (c' : Compiler) (u : BuildUnit) (epoch : Epoch)
      {t : Toolchain} (ht : Supplied c t) :
      Supplied c ((c'.compose u epoch t).execute host s).value.toolchain
  | demoted {t : Toolchain} (ht : Supplied c t) : Supplied c t.demoted

theorem exists_selected (host : Host σ) (s : σ) (c : Compiler) (base : Path) (u : BuildUnit) :
    ∃ found, ((c.select base u).execute host s).value = c.selected base found := by
  obtain ⟨found, hselected, -⟩ := trace_select (trace_execute host (c.select base u) s)
  rw [value_execute_silenced] at hselected
  exact ⟨found, hselected⟩

theorem toolchain_compose (host : Host σ) (s : σ) (c : Compiler) (u : BuildUnit) (epoch : Epoch)
    (t : Toolchain) :
    ((c.compose u epoch t).execute host s).value.toolchain = t ∨
      ((c.compose u epoch t).execute host s).value.toolchain = t.demoted := by
  obtain ⟨f, -, -, hvalue⟩ := exists_findings host s c u epoch t
  rw [hvalue, Findings.composition, Findings.toolchain]
  split
  · exact .inr rfl
  · exact .inl rfl

/-- No composition and no demotion takes a toolchain's executable without its rank, nor its
candidates. -/
theorem Supplied.equipped (h : c.Supplied t) : t.Equipped ∧ t.candidates = c.candidates := by
  induction h with
  | selected host s base u =>
    obtain ⟨found, hfound⟩ := exists_selected host s c base u
    rw [hfound]
    cases found with
    | true => exact ⟨Toolchain.equipped_primary _ _, rfl⟩
    | false => exact ⟨Toolchain.equipped_fallback _, rfl⟩
  | @composed _ host s c' u epoch t _ ih =>
    rcases toolchain_compose host s c' u epoch t with hkept | hdemoted
    · rw [hkept]
      exact ih
    · rw [hdemoted]
      exact ⟨Toolchain.equipped_fallback _, ih.2⟩
  | @demoted t _ ih => exact ⟨Toolchain.equipped_fallback _, ih.2⟩

/-! ## Two compositions over one file set -/

/-- **The backend does not show in the arguments.** Over a fixed file set `t₁` and `t₂` lead to the
same arguments and, behind the warning about a primary compiler that is not there, to the same
warnings. They must have the same candidates only where these are read, in the legacy epoch.
Composing again with the toolchain that came of it changes no argument and leaves out that warning.
What comes of a selection keeps its candidates and is the primary compiler exactly as long as it has
an executable. -/
theorem compose_conceals_backend {host : Host σ} {holds : Path → Bool} {s₁ s₂ : σ}
    (h₁ : host.Steady holds s₁) (h₂ : host.Steady holds s₂) (c : Compiler) (u : BuildUnit)
    (epoch : Epoch) {t₁ t₂ : Toolchain} (hc : epoch = .legacy → t₁.candidates = t₂.candidates) :
    let x₁ := (c.compose u epoch t₁).execute host s₁
    let x₂ := (c.compose u epoch t₂).execute host s₂
    let again := (c.compose u epoch x₁.value.toolchain).execute host x₁.state
    x₁.value.args = x₂.value.args ∧
    (∀ path, x₁.value.warnings.head? = some (.compilerVanished path) ↔
      t₁.isPrimary = true ∧ t₁.executable = some path ∧ holds path = false) ∧
    (∃ others, (∀ w ∈ others, ¬ w.MissingCompiler) ∧
      x₁.value.warnings = (t₁.lost holds).toList.map .compilerVanished ++ others ∧
      x₂.value.warnings = (t₂.lost holds).toList.map .compilerVanished ++ others ∧
      again.value = ⟨x₁.value.toolchain, x₁.value.args, others⟩) ∧
    ∀ t, c.Supplied t →
      (t.isPrimary = true ↔ t.executable.isSome = true) ∧ t.candidates = c.candidates := by
  intro x₁ x₂ again
  obtain ⟨hvalue₁, hstate⟩ := compose_of_steady h₁ c u epoch t₁
  obtain ⟨hvalue₂, -⟩ := compose_of_steady h₂ c u epoch t₂
  obtain ⟨hagain, -⟩ := compose_of_steady hstate c u epoch x₁.value.toolchain
  change x₁.value = _ at hvalue₁
  change x₂.value = _ at hvalue₂
  change again.value = _ at hagain
  have hkept : x₁.value.toolchain = t₁.kept holds := by
    rw [hvalue₁]
    exact Findings.toolchain_upon
  let others := (Findings.upon holds c u epoch t₁).obsolete c epoch
  have hothers : ∀ w ∈ others, ¬ w.MissingCompiler := not_missingCompiler_of_obsolete
  have hwarnings₁ : x₁.value.warnings = (t₁.lost holds).toList.map .compilerVanished ++ others := by
    rw [hvalue₁, Findings.warnings_upon]
  have hnames := responseNames_congr (c := c) (u := u) hc
  refine ⟨?_, fun path => ?_, ⟨others, hothers, hwarnings₁, ?_, ?_⟩, fun t ht => ht.equipped⟩
  · rw [hvalue₁, hvalue₂]
    exact Findings.args_upon_congr hnames
  · rw [hwarnings₁]
    exact head?_warnings_eq_vanished_iff hothers path
  · rw [hvalue₂, Findings.warnings_upon, ← Findings.obsolete_upon_congr hnames]
  · rw [hagain, hkept, Findings.composition_upon_kept, hvalue₁]
    rfl

/-- The primary compiler has vanished, and the legacy epoch takes its second candidate all the
same. -/
theorem compose_conceals_vanished_compiler :
    let host := Doubles.FileSet.host (.ok Doubles.SampleCompiler.monoCommand) []
    let files := Doubles.FileSet.ofPaths [⟨"/game/gmcs.rsp"⟩]
    let c : Compiler := ⟨Config.ofRoot ⟨"/game"⟩,
      { Doubles.SampleCompiler.standard.layout with stem := "gmcs" }, 42⟩
    let u := Doubles.sampleUnit
    let executable : Path := ⟨"/game/Compiler/UniversalCompiler.exe"⟩
    let x := (c.compose u .legacy (.primary executable c.candidates)).execute host files
    let y := (c.compose u .legacy (.fallback c.candidates)).execute host files
    let selected := ((c.select ⟨"/game"⟩ u).execute host files).value
    host.Steady files.holds files ∧ c.candidates = ["mcs.rsp", "gmcs.rsp"] ∧
    x.value.args.getLast? = some "@\"gmcs.rsp\"" ∧ x.value.args = y.value.args ∧
    x.value.warnings.head? = some (.compilerVanished executable) ∧
    ((c.compose u .legacy x.value.toolchain).execute host x.state).value.args = x.value.args ∧
    (selected.isPrimary = true ↔ selected.executable.isSome = true) ∧
    selected.candidates = c.candidates := by
  intro host files c u executable x y selected
  have hsteady : host.Steady files.holds files :=
    Doubles.FileSet.steady_host (by decide +kernel) _ _
  have hcandidates : Epoch.legacy = .legacy →
      (Toolchain.primary executable c.candidates).candidates =
        (Toolchain.fallback c.candidates).candidates := fun _ => rfl
  obtain ⟨hargs, hvanished, ⟨others, -, -, -, hagain⟩, hsupplied⟩ :=
    compose_conceals_backend hsteady hsteady c u .legacy hcandidates
  have hagain := congrArg Composition.args hagain
  exact ⟨hsteady, by decide +kernel, by decide +kernel, hargs,
    (hvanished executable).2 ⟨rfl, rfl, by decide +kernel⟩, hagain,
    hsupplied _ (.selected host files _ u)⟩

end Compiler

end CSharpBuild
