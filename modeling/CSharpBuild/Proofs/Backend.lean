/-
The backend that runs, the looks for it and the warnings agree. Files may come and go between two
looks: `prepare_backend` reads the backend off the first two looks of a preparation, whatever the
host answers, and with it who is asked for a command and which warning stands first.
-/
import CSharpBuild.Proofs.Grammar
import CSharpBuild.Proofs.Preparation

namespace CSharpBuild

open Text

namespace Warning

/-- The warning says that the primary compiler is missing. -/
def MissingCompiler (w : Warning) : Prop := startsWith w.message "Universal C# compiler n" = true

theorem missingCompiler_compilerVanished (path : Path) : (compilerVanished path).MissingCompiler := by
  have hlead : startsWith "Universal C# compiler no longer found at " "Universal C# compiler n" =
      true := by decide
  exact startsWith_append_of_startsWith (startsWith_append_of_startsWith hlead _) _

theorem not_missingCompiler_obsoleteResponseFile (used preferred : String) (place : Path) :
    ¬ (obsoleteResponseFile used preferred place).MissingCompiler := by
  intro h
  have hlead : startsWith ("Using obsolete custom response file '"
      ++ (used ++ ("'. Please use '" ++ (preferred ++ "' instead.")))) "Universal C# compiler n" =
      true := by
    simp only [← String.append_assoc]
    exact h
  rcases startsWith_or_startsWith hlead with h | h <;> exact absurd h (by decide)

end Warning

namespace Compiler

variable {c : Compiler} {u : BuildUnit}

theorem not_missingCompiler_of_obsolete {epoch : Epoch} {missed : List String}
    {merged : Option String} :
    ∀ w ∈ c.obsoleteWarnings epoch missed merged, ¬ w.MissingCompiler := by
  intro w hw
  unfold obsoleteWarnings at hw
  split at hw
  · rw [List.mem_singleton.1 hw]
    exact Warning.not_missingCompiler_obsoleteResponseFile _ _ _
  · cases hw

/-- How the primary compiler is run: as the program, or as the first argument of the launcher. -/
def RunsPrimary (c : Compiler) (command : Command) : Prop :=
  match c.config.launcher with
  | none => command.program = c.primaryPath c.config.projectRoot
  | some launcher => command.program = launcher ∧
      command.args.head? = some (Token.quote (c.primaryPath c.config.projectRoot))

theorem runsPrimary_primaryCommand (args : List String) :
    c.RunsPrimary (c.primaryCommand (c.primaryPath c.config.projectRoot) args) := by
  cases h : c.config.launcher <;> simp [RunsPrimary, primaryCommand, h]

theorem cwd_primaryCommand (executable : Path) (args : List String) :
    (c.primaryCommand executable args).cwd = some c.config.projectRoot := by
  cases h : c.config.launcher <;> simp [primaryCommand, h]

/-- What the first two looks were when nothing was missing, and what is said to be missing when they
were anything else. -/
theorem missing_cases {f : Findings} {found : Bool}
    (hf : f.Fits c u c.config.epoch (c.selected c.config.projectRoot found))
    {looks : List (Path × Bool)}
    (hlooks : looks = (c.primaryPath c.config.projectRoot, found) :: f.looks c) :
    let place := c.primaryPath c.config.projectRoot
    (f.missing c found = none ∧ looks.take 2 = [(place, true), (place, true)]) ∨
      ∃ missing, f.missing c found = some missing ∧
        ((looks.head? = some (place, false) ∧ missing = .compilerNotFound place) ∨
          (looks.take 2 = [(place, true), (place, false)] ∧ missing = .compilerVanished place)) := by
  have hagain := again_selected hf
  intro place
  cases found with
  | false => exact .inr ⟨_, rfl, .inl ⟨by rw [hlooks]; rfl, rfl⟩⟩
  | true =>
    obtain ⟨still, hstill⟩ := hagain
    have htwo : looks.take 2 = [(place, true), (place, still)] := by
      rw [hlooks, Findings.looks, hstill]
      rfl
    cases still with
    | true => exact .inl ⟨by simp [Findings.missing, Findings.vanished, hstill], htwo⟩
    | false =>
      have hvanished : f.missing c true = some (.compilerVanished place) := by
        simp [Findings.missing, Findings.vanished, hstill, place]
      exact .inr ⟨_, hvanished, .inr ⟨htwo, rfl⟩⟩

theorem not_both {looks : List (Path × Bool)} {place : Path}
    (h : looks.head? = some (place, false) ∨ looks.take 2 = [(place, true), (place, false)]) :
    looks.take 2 ≠ [(place, true), (place, true)] := by
  intro hboth
  rcases h with hhead | htwo
  · have hthere : looks.head? = some (place, true) := by
      simpa [List.head?_take] using congrArg List.head? hboth
    rw [hthere] at hhead
    cases hhead
  · rw [hboth] at htwo
    cases htwo

/-- **The first two looks settle the backend.** With the primary compiler there at both, it runs, no
warning says that it is missing and the host is not asked for a default command. Otherwise that
command runs with what was composed behind its own arguments, or its refusal is the result, and the
first warning, alone of its kind, says at which look the primary compiler was missing. The warnings
are logged in any case. -/
theorem prepare_backend {σ : Type} (host : Host σ) (s : σ) (c : Compiler) (u : BuildUnit) :
    let x := (c.prepare u).execute host s
    let place := c.primaryPath c.config.projectRoot
    let own := (composing host s c u).value.args
    let logged := ((c.prepare u).execute host.silenced s).warned
    ((∃ p, x.value = .ok p ∧ p.toolchain.isPrimary = true) ↔
      x.looks.take 2 = [(place, true), (place, true)]) ∧
    ((x.looks.take 2 = [(place, true), (place, true)] ∧ x.defaults = [] ∧
        ∃ p, x.value = .ok p ∧ p.toolchain = ⟨.primary, some place, c.candidates⟩ ∧
          c.RunsPrimary p.command ∧ p.command.cwd = some c.config.projectRoot ∧
          logged = p.warnings.map (fun w => ⟨.warn, w.message, w.location⟩) ∧
          ∀ w ∈ p.warnings, ¬ w.MissingCompiler) ∨
      ∃ missing rest answer,
        ((x.looks.head? = some (place, false) ∧ missing.message =
            "Universal C# compiler not found in project directory. Use the default compiler") ∨
          (x.looks.take 2 = [(place, true), (place, false)] ∧ missing.message =
            "Universal C# compiler no longer found at " ++ place.text
              ++ ". Use the default compiler")) ∧
        missing.location = some place ∧ (∀ w ∈ rest, ¬ w.MissingCompiler) ∧
        logged = (missing :: rest).map (fun w => ⟨.warn, w.message, w.location⟩) ∧
        own.filter (startsWith · "-define:") = u.uniqueDefines.map ("-define:" ++ ·) ∧
        x.defaults = [answer] ∧
        x.value = answer.map fun default =>
          ⟨⟨.fallback, none, c.candidates⟩,
            ⟨default.program, default.args ++ own, some c.config.projectRoot⟩,
            missing :: rest⟩) := by
  obtain ⟨found, f, hf, hcomposed, hlooks, hwarned, hcase⟩ := exists_preparation host s c u
  have hobsolete : ∀ w ∈ c.obsoleteWarnings c.config.epoch f.missed f.merged,
      ¬ w.MissingCompiler := not_missingCompiler_of_obsolete
  have hcases := missing_cases hf hlooks
  intro x place own logged
  have hown : own = f.args c u c.config.epoch := congrArg Composition.args hcomposed
  -- Whether there is a warning decides both what was prepared and what the looks were.
  rcases hcase with ⟨hnone, hdefaults, hvalue⟩ | ⟨hne, answer, hdefaults, hvalue⟩
  · rcases hcases with ⟨-, htwo⟩ | ⟨missing, hsome, -⟩
    · have hwarnings : (f.primary c u found).warnings =
          c.obsoleteWarnings c.config.epoch f.missed f.merged := by
        simp [Findings.primary, Findings.warnings, hnone]
      refine ⟨iff_of_true ⟨_, hvalue, rfl⟩ htwo, .inl ⟨htwo, hdefaults, _, hvalue, rfl,
        runsPrimary_primaryCommand _, cwd_primaryCommand _ _, hwarned, ?_⟩⟩
      rw [hwarnings]
      exact hobsolete
    · rw [hsome] at hnone; cases hnone
  · rcases hcases with ⟨hnone, -⟩ | ⟨missing, hsome, hfirst⟩
    · exact absurd hnone hne
    · have hwarnings : f.warnings c found =
          missing :: c.obsoleteWarnings c.config.epoch f.missed f.merged := by
        rw [Findings.warnings, hsome]
        rfl
      have hplace : missing.location = some place := by
        rcases hfirst with ⟨-, rfl⟩ | ⟨-, rfl⟩ <;> rfl
      rw [hwarnings] at hwarned
      refine ⟨iff_of_false ?_ (not_both (hfirst.imp And.left And.left)), .inr ⟨missing, _, answer,
        ?_, hplace, hobsolete, hwarned, ?_, hdefaults, ?_⟩⟩
      · rintro ⟨p, hp, hprimary⟩
        rw [hvalue] at hp
        cases answer with
        | error failure => cases hp
        | ok default => cases hp; cases hprimary
      · exact hfirst.imp (.imp_right (congrArg Warning.message))
          (.imp_right (congrArg Warning.message))
      · rw [hown]
        exact f.filter_args_define c u c.config.epoch
      · rw [hvalue, ← hwarnings, hown]
        rfl

end Compiler

end CSharpBuild
