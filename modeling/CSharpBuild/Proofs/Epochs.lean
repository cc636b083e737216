/-
The two epochs arrange the same arguments. Over a fixed file set the current epoch has a language
version and perhaps an optimization flag that the legacy one has not, and may take another response
file, with a warning; everything else is the same and in the same order (`compose_epochs_agree`).

What is meant by the tokens is compared, not the tokens: `Arg.onlyCurrent` picks the two kinds, and
`filter_body_current` takes them out of one argument list to get the other. By the grammar the
beginning of a token tells its kind, so no unit can smuggle one in.

The response files are looked up in different lists, the configuration in one epoch and the
candidates of the toolchain in the other. These agree on their first name when the toolchain comes of
a selection.
-/
import CSharpBuild.Proofs.Concealment
import CSharpBuild.Proofs.Deprecation

namespace CSharpBuild

open Plan Text

namespace Arg

/-- The kinds of argument that only the current epoch has. -/
def onlyCurrent (a : Arg) : Bool := a.head = "-langversion:" || a.head = "-optimize"

theorem filter_map_token (args : List Arg) :
    (args.map token).filter
        (fun token => !startsWith token "-langversion:" && !startsWith token "-optimize") =
      (args.filter fun a => !a.onlyCurrent).map token := by
  rw [List.filter_map]
  congr 1
  refine List.filter_congr fun a _ => ?_
  simp [a.startsWith_token (h := "-langversion:") (by decide),
    a.startsWith_token (h := "-optimize") (by decide), onlyCurrent]

theorem filter_map_onlyCurrent {α : Type} (kind : α → Arg)
    (hkind : ∀ a, (kind a).onlyCurrent = false) (xs : List α) :
    (xs.map kind).filter (fun a => !a.onlyCurrent) = xs.map kind :=
  List.filter_eq_self.2 (List.forall_mem_map.2 fun a _ => by rw [hkind a]; rfl)

end Arg

namespace Findings

variable {f : Findings} {holds : Path → Bool} {c : Compiler} {u : BuildUnit} {epoch : Epoch}
  {t : Toolchain}

/-- **The legacy arguments are the current ones** without the language version and the optimization
flag. -/
theorem filter_body_current :
    (f.body c u .current).filter (fun a => !a.onlyCurrent) = f.body c u .legacy := by
  have hleading : (c.leadingArgs u .current).filter (fun a => !a.onlyCurrent) =
      c.leadingArgs u .legacy := by
    unfold Compiler.leadingArgs
    cases u.wantsOptimization <;> rfl
  have hreferences := Arg.filter_map_onlyCurrent Arg.reference fun _ => rfl
  have hdefines := Arg.filter_map_onlyCurrent Arg.define fun _ => rfl
  have hsources := Arg.filter_map_onlyCurrent Arg.source fun _ => rfl
  simp only [body, List.filter_append, hleading, hreferences, hdefines, hsources]

/-- Without the response file, the arguments are what they are meant as before it. -/
theorem filter_args_plain :
    (f.args c u epoch).filter (fun token => !startsWith token "@") =
      (f.body c u epoch).map Arg.token := by
  have hbody : ((f.body c u epoch).map Arg.token).filter (fun token => !startsWith token "@") =
      (f.body c u epoch).map Arg.token :=
    List.filter_eq_self.2 fun token htoken => by rw [startsWith_body token htoken]; rfl
  have hresponse : (f.merged.map c.responseFileToken).toList.filter
      (fun token => !startsWith token "@") = [] :=
    List.filter_eq_nil_iff.2 fun token htoken => by
      simp [startsWith_responseFileToken token (Option.mem_toList.1 htoken)]
  rw [args_eq_body, List.filter_append, hbody, hresponse, List.append_nil]

/-- The epochs find the same framework references. -/
theorem body_upon (epoch' : Epoch) :
    (upon holds c u epoch t).body c u epoch' =
      c.leadingArgs u epoch' ++ u.references.map Arg.reference ++ u.uniqueDefines.map Arg.define
        ++ u.sources.map Arg.source
        ++ ((c.referencePaths u.profile).filter holds).map Arg.reference := by
  rw [body, present_upon]

/-- Where the configured response file comes first and is there, it is merged. -/
theorem merged_upon_of_head {names : List String}
    (hnames : c.responseNames u epoch t = c.config.responseFile :: names)
    (h : holds (c.config.responseDisk c.config.responseFile) = true) :
    (upon holds c u epoch t).merged = some c.config.responseFile := by
  simp only [upon, hnames, List.find?_cons, h]

theorem getLast?_args_of_merged {name : String} (h : f.merged = some name) :
    (f.args c u epoch).getLast? = some (c.responseFileToken name) := by
  rw [args_eq_body, h]
  exact List.getLast?_concat

end Findings

namespace Compiler

theorem candidates_eq_cons (c : Compiler) :
    ∃ names, c.candidates = c.config.responseFile :: names := by
  dsimp only [candidates]
  split <;> exact ⟨_, rfl⟩

variable {σ : Type} {host : Host σ} {holds : Path → Bool} {s₁ s₂ : σ}

/-- **The epochs differ only where they are meant to.** Over a fixed file set, and response files
apart, the legacy arguments are the current ones without the one language version and the
optimization flag of a unit that wants it. The toolchain is the same, and the current epoch has at
most one warning more, a deprecation at the end. If the toolchain comes of a selection and the
configured response file is there, both epochs end with it and warn alike. -/
theorem compose_epochs_agree (h₁ : host.Steady holds s₁) (h₂ : host.Steady holds s₂) (c : Compiler)
    (u : BuildUnit) (t : Toolchain) :
    let current := ((c.compose u .current t).execute host s₁).value
    let legacy := ((c.compose u .legacy t).execute host s₂).value
    let plain (token : String) := !startsWith token "@"
    let shared (token : String) :=
      !startsWith token "-langversion:" && !startsWith token "-optimize"
    legacy.args.filter plain = (current.args.filter plain).filter shared ∧
    current.args.filter (startsWith · "-langversion:") =
      ["-langversion:" ++ c.config.runtime.languageVersion] ∧
    current.args.filter (startsWith · "-optimize") =
      (if u.wantsOptimization then ["-optimize"] else []) ∧
    legacy.toolchain = current.toolchain ∧
    (∃ deprecations, current.warnings = legacy.warnings ++ deprecations ∧
      deprecations.length ≤ 1 ∧ ∀ w ∈ deprecations, w.deprecates = true) ∧
    (c.Supplied t → holds (c.config.responseDisk c.config.responseFile) = true →
      current.args.getLast? = some (c.responseFileToken c.config.responseFile) ∧
      legacy.args.getLast? = some (c.responseFileToken c.config.responseFile) ∧
      current.warnings = legacy.warnings) := by
  intro current legacy plain shared
  have hcurrent : current = (Findings.upon holds c u .current t).composition c u .current t :=
    (compose_of_steady h₁ c u .current t).1
  have hlegacy : legacy = (Findings.upon holds c u .legacy t).composition c u .legacy t :=
    (compose_of_steady h₂ c u .legacy t).1
  have hwarnings : current.warnings =
      legacy.warnings ++ (Findings.upon holds c u .current t).obsolete c .current := by
    rw [hcurrent, hlegacy, Findings.warnings_upon, Findings.warnings_upon,
      Findings.obsolete_upon_legacy, List.append_nil]
  have hargs : current.args = (Findings.upon holds c u .current t).args c u .current :=
    congrArg Composition.args hcurrent
  have hargs' : legacy.args = (Findings.upon holds c u .legacy t).args c u .legacy :=
    congrArg Composition.args hlegacy
  refine ⟨?_, ?_, ?_, ?_, ⟨_, hwarnings, ?_, deprecates_of_mem_obsoleteWarnings⟩,
    fun ht hthere => ?_⟩
  · rw [hargs, hargs', Findings.filter_args_plain, Findings.filter_args_plain,
      Arg.filter_map_token, Findings.filter_body_current, Findings.body_upon, Findings.body_upon]
  · rw [hargs, Findings.filter_args_language, if_pos rfl]
  · rw [hargs, Findings.filter_args_optimize]
    simp
  · rw [hcurrent, hlegacy]
    exact Findings.toolchain_upon.trans Findings.toolchain_upon.symm
  · rw [Findings.obsolete_upon_current, List.length_map]
    exact Option.length_toList_le
  · obtain ⟨names, hcandidates⟩ := c.candidates_eq_cons
    rw [← ht.equipped.2] at hcandidates
    have hnames : c.responseNames u .legacy t = c.config.responseFile :: names := hcandidates
    rw [hwarnings, Findings.obsolete_upon_current, obsoleteFile?, if_pos hthere, hargs, hargs',
      Findings.getLast?_args_of_merged (Findings.merged_upon_of_head rfl hthere),
      Findings.getLast?_args_of_merged (Findings.merged_upon_of_head hnames hthere)]
    exact ⟨rfl, rfl, List.append_nil _⟩

/-- Both epochs take the configured response file, though the one of the default compiler and the
obsolete one of the profile are there too. -/
theorem compose_epochs_agree_on_configured :
    let host := Doubles.FileSet.host (.ok Doubles.SampleCompiler.monoCommand) []
    let files := Doubles.FileSet.ofPaths [⟨"/game/gmcs.rsp"⟩, ⟨"/game/mcs.rsp"⟩]
    let c : Compiler := ⟨Config.ofRoot ⟨"/game"⟩,
      { Doubles.SampleCompiler.standard.layout with stem := "gmcs" }, 42⟩
    let u := Doubles.sampleUnit
    let t := ((c.select ⟨"/game"⟩ u).execute host files).value
    let current := ((c.compose u .current t).execute host files).value
    let legacy := ((c.compose u .legacy t).execute host files).value
    host.Steady files.holds files ∧ c.Supplied t ∧ t.candidates = ["mcs.rsp", "gmcs.rsp"] ∧
    current.args.getLast? = some "@\"mcs.rsp\"" ∧ legacy.args.getLast? = some "@\"mcs.rsp\"" ∧
    current.warnings = legacy.warnings := by
  intro host files c u t current legacy
  have hsteady : host.Steady files.holds files :=
    Doubles.FileSet.steady_host (by decide +kernel) _ _
  have ht : c.Supplied t := .selected host files _ u
  obtain ⟨-, -, -, -, -, hconfigured⟩ := compose_epochs_agree hsteady hsteady c u t
  obtain ⟨hcurrent, hlegacy, hwarnings⟩ := hconfigured ht (by decide +kernel)
  exact ⟨hsteady, ht, by decide +kernel, hcurrent.trans (by decide +kernel),
    hlegacy.trans (by decide +kernel), hwarnings⟩

end Compiler

end CSharpBuild
