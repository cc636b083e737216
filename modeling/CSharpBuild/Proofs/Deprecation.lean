/-
Obsolete response files. The current epoch falls back on the one name that a profile may still use,
and only when the configured file is not there; then, and only then, it warns. Over a fixed file set
`Compiler.obsoleteFile?` is the name it falls back on, and `merged_upon_current` and
`obsolete_upon_current` say that the response file and the warnings of a composition are what this
name makes of them. The names may coincide, and `compose_warns_of_obsolete` says that a warning
about the configured name itself cannot come of it: a file that is there under one name is not
missed under the other.

The legacy epoch may well merge a file with such a name, as one of its candidates, and says nothing.
-/
import CSharpBuild.Doubles.Sample
import CSharpBuild.Proofs.Arrival
import CSharpBuild.Proofs.Steadiness

namespace CSharpBuild

open Plan Text

namespace Warning

/-- The warning says that a response file with an obsolete name was used. -/
def deprecates (w : Warning) : Bool :=
  startsWith w.message "Using obsolete custom response file '"

theorem deprecates_obsoleteResponseFile (used preferred : String) (place : Path) :
    (obsoleteResponseFile used preferred place).deprecates = true := by
  have hlead : startsWith "Using obsolete custom response file '"
      "Using obsolete custom response file '" = true := by decide
  exact startsWith_append_of_startsWith (startsWith_append_of_startsWith
    (startsWith_append_of_startsWith (startsWith_append_of_startsWith hlead _) _) _) _

theorem deprecates_compilerVanished (path : Path) :
    (compilerVanished path).deprecates = false := by
  refine Bool.eq_false_iff.2 fun h => ?_
  have hlead : startsWith ("Universal C# compiler no longer found at "
      ++ (path.text ++ ". Use the default compiler"))
      "Using obsolete custom response file '" = true := by
    rw [← String.append_assoc]
    exact h
  rcases startsWith_or_startsWith hlead with h | h <;> exact absurd h (by decide)

end Warning

namespace Compiler

variable {holds : Path → Bool} {c : Compiler} {p : Profile}

/-- The obsolete response file that the current epoch falls back on. -/
def obsoleteFile? (c : Compiler) (holds : Path → Bool) (p : Profile) : Option String :=
  if holds (c.config.responseDisk c.config.responseFile) then none
  else p.obsoleteResponseFile?.filter fun name => holds (c.config.responseDisk name)

theorem obsoleteFile?_eq_some_iff {used : String} :
    c.obsoleteFile? holds p = some used ↔
      holds (c.config.responseDisk c.config.responseFile) = false ∧
        p.obsoleteResponseFile? = some used ∧ holds (c.config.responseDisk used) = true := by
  unfold obsoleteFile?
  split <;> simp [*, Option.filter_eq_some_iff]

theorem deprecates_of_mem_obsoleteWarnings {epoch : Epoch} {missed : List String}
    {merged : Option String} :
    ∀ w ∈ c.obsoleteWarnings epoch missed merged, w.deprecates = true := by
  intro w hw
  unfold obsoleteWarnings at hw
  split at hw
  · rw [List.mem_singleton.1 hw]
    exact Warning.deprecates_obsoleteResponseFile _ _ _
  · cases hw

end Compiler

namespace Findings

variable {holds : Path → Bool} {c : Compiler} {u : BuildUnit} {t : Toolchain}

theorem merged_upon_current :
    (upon holds c u .current t).merged =
      if holds (c.config.responseDisk c.config.responseFile) then some c.config.responseFile
      else c.obsoleteFile? holds u.profile := by
  simp only [upon, Compiler.responseNames, List.find?_cons, Compiler.obsoleteFile?]
  cases holds (c.config.responseDisk c.config.responseFile) with
  | true => rfl
  | false =>
    cases u.profile.obsoleteResponseFile? with
    | none => rfl
    | some name => simp [Option.filter_some, List.find?_singleton]

theorem obsolete_upon_current :
    (upon holds c u .current t).obsolete c .current =
      (c.obsoleteFile? holds u.profile).toList.map fun used =>
        .obsoleteResponseFile used c.config.responseFile (c.config.responseToken used) := by
  have hmissed : (upon holds c u .current t).missed =
      (c.config.responseFile :: u.profile.obsoleteResponseFile?.toList).takeWhile
        fun name => !holds (c.config.responseDisk name) := rfl
  rw [obsolete, merged_upon_current, hmissed, List.takeWhile_cons]
  cases h : holds (c.config.responseDisk c.config.responseFile) with
  | true => simp [Compiler.obsoleteFile?, h, Compiler.obsoleteWarnings]
  | false => cases hused : c.obsoleteFile? holds u.profile <;> simp [Compiler.obsoleteWarnings]

theorem obsolete_upon_legacy : (upon holds c u .legacy t).obsolete c .legacy = [] := rfl

/-- The warnings that deprecate something are those about response files. -/
theorem filter_warnings_deprecates {epoch : Epoch} :
    ((upon holds c u epoch t).composition c u epoch t).warnings.filter Warning.deprecates =
      (upon holds c u epoch t).obsolete c epoch := by
  have hvanished : ((t.lost holds).toList.map Warning.compilerVanished).filter Warning.deprecates =
      [] :=
    List.filter_eq_nil_iff.2 (List.forall_mem_map.2 fun path _ => by
      simp [Warning.deprecates_compilerVanished])
  rw [warnings_upon, List.filter_append, hvanished, List.nil_append]
  exact List.filter_eq_self.2 Compiler.deprecates_of_mem_obsoleteWarnings

end Findings

namespace Compiler

variable {σ : Type}

/-- **The merge only appends.** What the earlier steps of a composition gave stays as it is: at most
one token comes behind the arguments, and only deprecations come behind the warnings. -/
theorem compose_appends (host : Host σ) (s : σ) (c : Compiler) (u : BuildUnit) (epoch : Epoch)
    (t : Toolchain) :
    let earlier := (recheck t).execute host s
    let references := (c.implicitReferences u.profile).execute host earlier.state
    let composed := ((c.compose u epoch t).execute host s).value
    ∃ (merged : Option String) (raised : List Warning),
      composed.args =
        c.unitTokens u epoch ++ references.value.map referenceToken ++ merged.toList ∧
      composed.warnings = earlier.value.2 ++ raised ∧
      (∀ token ∈ merged, startsWith token "@" = true) ∧ ∀ w ∈ raised, w.deprecates = true := by
  intro earlier references composed
  let response := (c.responseFile u epoch earlier.value.1).execute host references.state
  have hcomposed : composed = ⟨earlier.value.1,
      c.unitTokens u epoch ++ references.value.map referenceToken
        ++ (response.value.1.map c.responseFileToken).toList,
      earlier.value.2 ++ response.value.2⟩ := by
    simp only [composed, compose, execute_bind]
    rfl
  obtain ⟨missed, -, -, -, hraised, -⟩ :=
    trace_responseFile (trace_execute host (c.responseFile u epoch earlier.value.1) references.state)
  rw [value_execute_silenced] at hraised
  refine ⟨response.value.1.map c.responseFileToken, response.value.2, ?_, ?_, ?_, ?_⟩
  · rw [hcomposed]
  · rw [hcomposed]
  · intro token htoken
    obtain ⟨name, -, rfl⟩ := Option.map_eq_some_iff.1 htoken
    exact startsWith_append_of_startsWith (by decide) _
  · rw [hraised]
    exact deprecates_of_mem_obsoleteWarnings

/-! ## The current epoch over a fixed file set -/

variable {host : Host σ} {holds : Path → Bool} {s : σ}

theorem filter_current_warnings (h : host.Steady holds s) (c : Compiler) (u : BuildUnit)
    (t : Toolchain) :
    ((c.compose u .current t).execute host s).value.warnings.filter Warning.deprecates =
      (c.obsoleteFile? holds u.profile).toList.map fun used =>
        .obsoleteResponseFile used c.config.responseFile (c.config.responseToken used) := by
  rw [(compose_of_steady h c u .current t).1, Findings.filter_warnings_deprecates,
    Findings.obsolete_upon_current]

theorem filter_current_response (h : host.Steady holds s) (c : Compiler) (u : BuildUnit)
    (t : Toolchain) :
    ((c.compose u .current t).execute host s).value.args.filter (startsWith · "@") =
      (if holds (c.config.responseDisk c.config.responseFile) then some c.config.responseFile
        else c.obsoleteFile? holds u.profile).toList.map c.responseFileToken := by
  rw [(compose_of_steady h c u .current t).1, Findings.composition, Findings.filter_args_response,
    Findings.merged_upon_current]
  rfl

/-- **An obsolete response file is warned about exactly when it is used.** Over a fixed file set the
legacy epoch deprecates nothing. The current epoch deprecates at most one file, and does so exactly
if the configured one is not there and the obsolete one of the profile is. The warning then names
both, which differ, and stands at the place that the response-file token names. With the configured
file there, that one is merged and nothing is deprecated; a profile without an obsolete name merges
no other. In either epoch the merge only appends. -/
theorem compose_warns_of_obsolete (h : host.Steady holds s) (c : Compiler) (u : BuildUnit)
    (t : Toolchain) :
    let legacy := ((c.compose u .legacy t).execute host s).value
    let current := ((c.compose u .current t).execute host s).value
    let configured := c.config.responseFile
    let there (name : String) := holds (c.config.responseDisk name)
    legacy.warnings.filter Warning.deprecates = [] ∧
    (current.warnings.filter Warning.deprecates).length ≤ 1 ∧
    ((current.warnings.filter Warning.deprecates).length = 1 ↔
      there configured = false ∧
        ∃ used, u.profile.obsoleteResponseFile? = some used ∧ there used = true) ∧
    (∀ w ∈ current.warnings, w.deprecates = true → ∃ used token,
      u.profile.obsoleteResponseFile? = some used ∧ there used = true ∧ used ≠ configured ∧
      w.message = "Using obsolete custom response file '" ++ used ++ "'. Please use '" ++ configured
        ++ "' instead." ∧
      w.location = some (c.config.responseToken used) ∧
      current.args.filter (startsWith · "@") = [token] ∧
      Token.unquote token = "@" ++ (c.config.responseToken used).text) ∧
    (there configured = true →
      current.args.filter (startsWith · "@") = [c.responseFileToken configured] ∧
      current.warnings.filter Warning.deprecates = []) ∧
    (u.profile.obsoleteResponseFile? = none → ∀ token ∈ current.args, startsWith token "@" = true →
      token = c.responseFileToken configured) ∧
    ∀ epoch,
      let earlier := (recheck t).execute host s
      let references := (c.implicitReferences u.profile).execute host earlier.state
      let composed := ((c.compose u epoch t).execute host s).value
      ∃ (merged : Option String) (raised : List Warning),
        composed.args =
          c.unitTokens u epoch ++ references.value.map referenceToken ++ merged.toList ∧
        composed.warnings = earlier.value.2 ++ raised ∧
        (∀ token ∈ merged, startsWith token "@" = true) ∧ ∀ w ∈ raised, w.deprecates = true := by
  intro legacy current configured there
  have hwarned := filter_current_warnings h c u t
  have hmerged := filter_current_response h c u t
  change current.warnings.filter _ = _ at hwarned
  change current.args.filter _ = _ at hmerged
  refine ⟨?_, ?_, ?_, fun w hw hdeprecates => ?_, fun hthere => ?_, fun hnone token htoken hat => ?_,
    fun epoch => compose_appends host s c u epoch t⟩
  · have hlegacy := (compose_of_steady h c u .legacy t).1
    change legacy = _ at hlegacy
    rw [hlegacy, Findings.filter_warnings_deprecates, Findings.obsolete_upon_legacy]
  · rw [hwarned, List.length_map]
    exact Option.length_toList_le
  · rw [hwarned, List.length_map, Option.length_toList_eq_one_iff, Option.isSome_iff_exists]
    simp only [obsoleteFile?_eq_some_iff, exists_and_left]
    rfl
  · have hmem : w ∈ current.warnings.filter Warning.deprecates :=
      List.mem_filter.2 ⟨hw, hdeprecates⟩
    rw [hwarned] at hmem
    obtain ⟨used, hused, rfl⟩ := List.mem_map.1 hmem
    rw [Option.mem_toList] at hused
    obtain ⟨habsent, hobsolete, hfound⟩ := obsoleteFile?_eq_some_iff.1 hused
    refine ⟨used, c.responseFileToken used, hobsolete, hfound, ?_, rfl, rfl, ?_,
      Token.unquote_append_quote (by decide) _⟩
    · rintro rfl
      rw [habsent] at hfound
      cases hfound
    · rw [hmerged, habsent, Option.mem_def.1 hused]
      rfl
  · have hthere : holds (c.config.responseDisk c.config.responseFile) = true := hthere
    rw [hwarned, hmerged, obsoleteFile?, if_pos hthere, if_pos hthere]
    exact ⟨rfl, rfl⟩
  · have hmem : token ∈ current.args.filter (startsWith · "@") := List.mem_filter.2 ⟨htoken, hat⟩
    have hfallback : c.obsoleteFile? holds u.profile = none := by
      rw [obsoleteFile?, hnone]
      exact ite_self _
    rw [hmerged, hfallback] at hmem
    obtain ⟨name, hname, rfl⟩ := List.mem_map.1 hmem
    split at hname
    · rw [List.mem_singleton.1 hname]
    · cases hname

/-- The configured name is the obsolete one of another profile. Without that file the profile's own
obsolete name is used and warned about; with it, it is not. -/
theorem compose_warns_of_obsolete_until_configured :
    let host := Doubles.FileSet.host (.ok Doubles.SampleCompiler.monoCommand) []
    let before := Doubles.FileSet.ofPaths [⟨"/game/Assets/gmcs.rsp"⟩]
    let after := before.add ⟨"/game/Assets/smcs.rsp"⟩
    let c : Compiler := ⟨{ Config.ofRoot ⟨"/game"⟩ with
      responseFile := "smcs.rsp", responseDir := some ⟨"Assets"⟩ },
      Doubles.SampleCompiler.standard.layout, 42⟩
    let t := Toolchain.fallback c.candidates
    let x := (c.compose Doubles.sampleUnit .current t).execute host before
    let y := (c.compose Doubles.sampleUnit .current t).execute host after
    host.Steady before.holds before ∧ host.Steady after.holds after ∧
    (∃ w ∈ x.value.warnings, w.message =
        "Using obsolete custom response file 'gmcs.rsp'. Please use 'smcs.rsp' instead." ∧
      w.location = some ⟨"Assets/gmcs.rsp"⟩) ∧
    (∃ token, x.value.args.filter (startsWith · "@") = [token] ∧
      Token.unquote token = "@Assets/gmcs.rsp") ∧
    y.value.args.filter (startsWith · "@") = ["@\"Assets/smcs.rsp\""] ∧
    y.value.warnings.filter Warning.deprecates = [] := by
  intro host before after c t x y
  have hbefore : host.Steady before.holds before :=
    Doubles.FileSet.steady_host (by decide +kernel) _ _
  have hafter : host.Steady after.holds after :=
    Doubles.FileSet.steady_host (by decide +kernel) _ _
  obtain ⟨-, -, hone, hnamed, -⟩ := compose_warns_of_obsolete hbefore c Doubles.sampleUnit t
  obtain ⟨-, -, -, -, hthere, -⟩ := compose_warns_of_obsolete hafter c Doubles.sampleUnit t
  obtain ⟨w, hw⟩ := List.length_eq_one_iff.1
    (hone.2 ⟨by decide +kernel, "gmcs.rsp", rfl, by decide +kernel⟩)
  obtain ⟨hmem, hdeprecates⟩ := List.mem_filter.1 (hw ▸ List.mem_singleton_self w)
  obtain ⟨used, token, hused, -, -, hmessage, hplace, htoken, hunquoted⟩ := hnamed w hmem hdeprecates
  cases hused
  obtain ⟨hmerged, hsilent⟩ := hthere (by decide +kernel)
  exact ⟨hbefore, hafter,
    ⟨w, hmem, hmessage.trans (by decide +kernel), hplace.trans (by decide +kernel)⟩,
    ⟨token, htoken, hunquoted.trans (by decide +kernel)⟩, hmerged.trans (by decide +kernel), hsilent⟩

end Compiler

end CSharpBuild
