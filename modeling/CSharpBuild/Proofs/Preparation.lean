/-
What a preparation looks for and what it makes of the answers: the look for the primary compiler,
the findings of the composition that follows, and the backend that is settled at the end.

`Findings.missing` is the one warning that the primary compiler is missing, if either look at it
failed. `trace_steps` says that it decides everything: without it the primary compiler runs and
nobody else is asked, with it the host's default command runs, or its refusal is the result. The
same steps are those of a trace (`trace_prepare`) and those of an execution (`exists_preparation`), in
which `composing` is the composition.
-/
import CSharpBuild.Proofs.Findings

namespace CSharpBuild

open Plan

namespace Compiler

/-- The toolchain for a project root where the primary compiler was found, or was not. -/
def selected (c : Compiler) (base : Path) (found : Bool) : Toolchain :=
  if found then .primary (c.primaryPath base) c.candidates else .fallback c.candidates

/-- What the log is told of the look for the primary compiler. -/
def selectEntry (c : Compiler) (base : Path) (u : BuildUnit) (found : Bool) : LogEntry :=
  .debug ((if found then "primary compiler found at " else "no primary compiler at ")
    ++ ((c.primaryPath base).text ++ " (target: " ++ u.target.name ++ ")"))

end Compiler

namespace Findings

/-- The warning that the primary compiler is missing, whose first look came out as `found`. -/
def missing (f : Findings) (c : Compiler) (found : Bool) : Option Warning :=
  if found then f.vanished.map .compilerVanished
  else some (.compilerNotFound (c.primaryPath c.config.projectRoot))

/-- The warnings of a preparation. -/
def warnings (f : Findings) (c : Compiler) (found : Bool) : List Warning :=
  (f.missing c found).toList ++ c.obsoleteWarnings c.config.epoch f.missed f.merged

/-- What is prepared when the primary compiler was there at both looks. -/
def primary (f : Findings) (c : Compiler) (u : BuildUnit) (found : Bool) : Prepared where
  toolchain := .primary (c.primaryPath c.config.projectRoot) c.candidates
  command := c.primaryCommand (c.primaryPath c.config.projectRoot) (f.args c u c.config.epoch)
  warnings := f.warnings c found

/-- What is prepared with the host's default command. -/
def fallback (f : Findings) (c : Compiler) (u : BuildUnit) (found : Bool) (default : Command) :
    Prepared where
  toolchain := .fallback c.candidates
  command := c.fallbackCommand default (f.args c u c.config.epoch)
  warnings := f.warnings c found

/-- Everything that happens in a preparation before its backend is settled. -/
def preparation (f : Findings) (c : Compiler) (u : BuildUnit) (found : Bool) : List Event :=
  let root := c.config.projectRoot
  [.probed (c.primaryPath root) found, .logged (c.selectEntry root u found)]
    ++ (if found then [] else [.logged (Warning.compilerNotFound (c.primaryPath root)).entry])
    ++ f.events c c.config.epoch

end Findings

namespace Compiler

variable {c : Compiler} {u : BuildUnit}

/-! ## The look for the primary compiler -/

theorem trace_select {c : Compiler} {base : Path} {u : BuildUnit} {t : Toolchain}
    {events : List Event} (h : (c.select base u).Trace events t) :
    ∃ found, t = c.selected base found ∧
      events = [.probed (c.primaryPath base) found, .logged (c.selectEntry base u found)] := by
  obtain ⟨_, found, hlook, rest, hnext, rfl⟩ := trace_bind.1 h
  rw [trace_look.1 hlook]
  refine ⟨found, ?_⟩
  cases found with
  | true =>
    obtain ⟨_, _, hnote, _, hpure, rfl⟩ := trace_bind.1 hnext
    obtain ⟨rfl, rfl⟩ := trace_pure.1 hpure
    rw [trace_note.1 hnote]
    exact ⟨rfl, rfl⟩
  | false =>
    obtain ⟨_, _, hnote, _, hpure, rfl⟩ := trace_bind.1 hnext
    obtain ⟨rfl, rfl⟩ := trace_pure.1 hpure
    rw [trace_note.1 hnote]
    exact ⟨rfl, rfl⟩

@[simp] theorem executable?_selected (base : Path) (found : Bool) :
    executable? (c.selected base found) = if found then some (c.primaryPath base) else none := by
  cases found <;> rfl

@[simp] theorem isPrimary_selected (base : Path) (found : Bool) :
    (c.selected base found).isPrimary = found := by
  cases found <;> rfl

/-- What the second look can have shown: it was at the same path, and there was none when the first
one had not found anything. -/
theorem again_selected {f : Findings} {epoch : Epoch} {base : Path} {found : Bool}
    (hf : f.Fits c u epoch (c.selected base found)) :
    if found then ∃ still, f.again = some (c.primaryPath base, still) else f.again = none := by
  have hagain := hf.again
  rw [executable?_selected] at hagain
  cases found with
  | true =>
    obtain ⟨⟨path, still⟩, hsome, rfl⟩ := Option.map_eq_some_iff.1 hagain
    exact ⟨still, hsome⟩
  | false => exact Option.map_eq_none_iff.1 hagain

theorem vanished_of_absent {f : Findings} {epoch : Epoch} {base : Path}
    (hf : f.Fits c u epoch (c.selected base false)) : f.vanished = none := by
  have hagain : f.again = none := again_selected hf
  rw [Findings.vanished, hagain]
  rfl

theorem toolchain_selected {f : Findings} {epoch : Epoch} {found : Bool}
    (hf : f.Fits c u epoch (c.selected c.config.projectRoot found)) :
    f.toolchain (c.selected c.config.projectRoot found) =
      if f.missing c found = none then .primary (c.primaryPath c.config.projectRoot) c.candidates
      else .fallback c.candidates := by
  cases found with
  | true =>
    cases h : f.vanished with
    | none => simp [Findings.toolchain, Findings.missing, selected, h]
    | some path =>
      simp only [Findings.toolchain, Findings.missing, h, Option.isSome_some, if_true]
      rfl
  | false => simp [Findings.toolchain, Findings.missing, selected, vanished_of_absent hf]

theorem warnings_selected {f : Findings} {found : Bool}
    (hf : f.Fits c u c.config.epoch (c.selected c.config.projectRoot found)) :
    (if found then [] else [.compilerNotFound (c.primaryPath c.config.projectRoot)])
        ++ (f.composition c u c.config.epoch (c.selected c.config.projectRoot found)).warnings =
      f.warnings c found := by
  rw [Findings.warnings, Findings.composition]
  cases found with
  | true => cases h : f.vanished <;> simp [Findings.missing, h]
  | false => simp [Findings.missing, vanished_of_absent hf]

/-! ## The steps around the composition -/

/-- The warning of a preparation that did not find the primary compiler. -/
def announce (c : Compiler) (t : Toolchain) : Plan (List Warning) :=
  if t.isPrimary then pure []
  else do
    let warning ← raise (.compilerNotFound (c.primaryPath c.config.projectRoot))
    pure [warning]

/-- The last step of a preparation: the command for what was composed. -/
def settle (c : Compiler) (missing : List Warning) (composed : Composition) :
    Plan (Except Failure Prepared) :=
  match executable? composed.toolchain with
  | some executable =>
    pure (.ok ⟨composed.toolchain, c.primaryCommand executable composed.args,
      missing ++ composed.warnings⟩)
  | none => do
    match ← defaultCommand with
    | .error failure => pure (.error failure)
    | .ok default =>
      pure (.ok ⟨composed.toolchain, c.fallbackCommand default composed.args,
        missing ++ composed.warnings⟩)

theorem prepare_eq (c : Compiler) (u : BuildUnit) :
    c.prepare u = (do
      let selected ← c.select c.config.projectRoot u
      let missing ← c.announce selected
      let composed ← c.compose u c.config.epoch selected
      c.settle missing composed) := by
  unfold prepare
  refine bind_congr fun selected => ?_
  unfold announce
  split
  · rfl
  · rw [bind_assoc]; rfl

theorem trace_announce {t : Toolchain} {missing : List Warning} {events : List Event}
    (h : (c.announce t).Trace events missing) :
    missing = (if t.isPrimary then [] else [.compilerNotFound (c.primaryPath c.config.projectRoot)])
      ∧ events = missing.map fun w => Event.logged w.entry := by
  unfold announce at h
  split at h
  · next hprimary =>
    obtain ⟨rfl, rfl⟩ := trace_pure.1 h
    exact ⟨(if_pos hprimary).symm, rfl⟩
  · next hfallback =>
    obtain ⟨_, w, hraise, _, hpure, rfl⟩ := trace_bind.1 h
    obtain ⟨rfl, rfl⟩ := trace_raise.1 hraise
    obtain ⟨rfl, rfl⟩ := trace_pure.1 hpure
    exact ⟨(if_neg hfallback).symm, rfl⟩

theorem trace_settle_primary {missing : List Warning} {composed : Composition} {executable : Path}
    (hexe : executable? composed.toolchain = some executable) {result : Except Failure Prepared}
    {events : List Event} (h : (c.settle missing composed).Trace events result) :
    events = [] ∧ result = .ok ⟨composed.toolchain, c.primaryCommand executable composed.args,
      missing ++ composed.warnings⟩ := by
  rw [settle, hexe] at h
  exact trace_pure.1 h

theorem trace_settle_fallback {missing : List Warning} {composed : Composition}
    (hexe : executable? composed.toolchain = none) {result : Except Failure Prepared}
    {events : List Event} (h : (c.settle missing composed).Trace events result) :
    ∃ answer, events = [.askedDefault answer] ∧ result = answer.map fun default =>
      ⟨composed.toolchain, c.fallbackCommand default composed.args,
        missing ++ composed.warnings⟩ := by
  rw [settle, hexe] at h
  obtain ⟨_, answer, hask, _, hnext, rfl⟩ := trace_bind.1 h
  rw [trace_defaultCommand.1 hask]
  refine ⟨answer, ?_⟩
  cases answer <;> obtain ⟨rfl, rfl⟩ := trace_pure.1 hnext <;> exact ⟨rfl, rfl⟩

/-- **The steps of a preparation, put together.** The first look is for the primary compiler; the
findings are those of a composition with the toolchain this look selects. The primary compiler is
used when no look missed it, and only otherwise is the host asked for its default command. -/
theorem trace_steps {t : Toolchain} {missing : List Warning} {composed : Composition}
    {result : Except Failure Prepared} {selects announces composes settles : List Event}
    (hselect : (c.select c.config.projectRoot u).Trace selects t)
    (hannounce : (c.announce t).Trace announces missing)
    (hcompose : (c.compose u c.config.epoch t).Trace composes composed)
    (hsettle : (c.settle missing composed).Trace settles result) :
    ∃ found, ∃ f : Findings, f.Fits c u c.config.epoch (c.selected c.config.projectRoot found) ∧
      composed = f.composition c u c.config.epoch (c.selected c.config.projectRoot found) ∧
      ((f.missing c found = none ∧
          selects ++ (announces ++ (composes ++ settles)) = f.preparation c u found ∧
          result = .ok (f.primary c u found)) ∨
        f.missing c found ≠ none ∧ ∃ answer,
          selects ++ (announces ++ (composes ++ settles)) =
            f.preparation c u found ++ [.askedDefault answer] ∧
          result = answer.map (f.fallback c u found)) := by
  obtain ⟨found, rfl, rfl⟩ := trace_select hselect
  obtain ⟨hmissing, rfl⟩ := trace_announce hannounce
  obtain ⟨f, hf, rfl, rfl⟩ := trace_compose hcompose
  refine ⟨found, f, hf, rfl, ?_⟩
  have hwarnings : missing ++ (f.composition c u c.config.epoch
      (c.selected c.config.projectRoot found)).warnings = f.warnings c found := by
    rw [hmissing, isPrimary_selected, warnings_selected hf]
  have hevents : [Event.probed (c.primaryPath c.config.projectRoot) found,
        Event.logged (c.selectEntry c.config.projectRoot u found)]
      ++ (missing.map (fun w => Event.logged w.entry) ++ f.events c c.config.epoch) =
      f.preparation c u found := by
    rw [hmissing]
    cases found <;> rfl
  -- The look that failed, if there was one, has left the toolchain without an executable.
  have htoolchain := toolchain_selected hf
  by_cases hnone : f.missing c found = none
  · rw [if_pos hnone] at htoolchain
    obtain ⟨rfl, rfl⟩ := trace_settle_primary (by rw [Findings.composition, htoolchain]; rfl) hsettle
    refine .inl ⟨hnone, by rw [List.append_nil]; exact hevents, ?_⟩
    rw [hwarnings, Findings.composition, htoolchain]
    rfl
  · rw [if_neg hnone] at htoolchain
    obtain ⟨answer, rfl, rfl⟩ :=
      trace_settle_fallback (by rw [Findings.composition, htoolchain]; rfl) hsettle
    refine .inr ⟨hnone, answer, by rw [← hevents]; simp, ?_⟩
    rw [hwarnings, Findings.composition, htoolchain]
    rfl

/-- **The whole of a preparation.** -/
theorem trace_prepare {result : Except Failure Prepared} {events : List Event}
    (h : (c.prepare u).Trace events result) :
    ∃ found, ∃ f : Findings, f.Fits c u c.config.epoch (c.selected c.config.projectRoot found) ∧
      ((f.missing c found = none ∧ events = f.preparation c u found ∧
          result = .ok (f.primary c u found)) ∨
        f.missing c found ≠ none ∧ ∃ answer,
          events = f.preparation c u found ++ [.askedDefault answer] ∧
            result = answer.map (f.fallback c u found)) := by
  rw [prepare_eq] at h
  obtain ⟨_, _, hselect, _, h₂, rfl⟩ := trace_bind.1 h
  obtain ⟨_, missing, hannounce, _, h₃, rfl⟩ := trace_bind.1 h₂
  obtain ⟨_, _, hcompose, _, hsettle, rfl⟩ := trace_bind.1 h₃
  obtain ⟨found, f, hf, -, hcase⟩ := trace_steps hselect hannounce hcompose hsettle
  exact ⟨found, f, hf, hcase⟩

/-! ## What executions show of a preparation -/

theorem looks_preparation (f : Findings) (found : Bool) :
    (f.preparation c u found).filterMap Event.look? =
      (c.primaryPath c.config.projectRoot, found) :: f.looks c := by
  rw [← f.looks_events c c.config.epoch]
  cases found <;> rfl

theorem defaults_preparation (f : Findings) (found : Bool) :
    (f.preparation c u found).filterMap Event.default? = [] := by
  rw [← f.defaults_events c c.config.epoch]
  cases found <;> rfl

theorem warned_preparation {f : Findings} {found : Bool}
    (hf : f.Fits c u c.config.epoch (c.selected c.config.projectRoot found)) :
    (f.preparation c u found).filterMap Event.warning? = (f.warnings c found).map Warning.entry := by
  rw [← warnings_selected hf, List.map_append, ← f.warned_events]
  cases found <;> rfl

section Executions

variable {σ : Type} (host : Host σ) (s : σ) (c : Compiler) (u : BuildUnit)

/-- The composition in a preparation. It starts where the selection has left the host. -/
def composing : Execution σ Composition :=
  let selection := (c.select c.config.projectRoot u).execute host s
  (c.compose u c.config.epoch selection.value).execute host selection.state

theorem value_composing_silenced :
    (composing host.silenced s c u).value = (composing host s c u).value := by
  simp only [composing, value_execute_silenced, state_execute_silenced]

/-- What a preparation says of the primary compiler after the look for it. -/
def announced (t : Toolchain) : List Warning :=
  if t.isPrimary then [] else [.compilerNotFound (c.primaryPath c.config.projectRoot)]

/-- Announcing does not need the host. -/
theorem execute_announce (t : Toolchain) :
    (c.announce t).execute host s =
      ⟨c.announced t, (c.announced t).map fun w => Event.logged w.entry, s⟩ := by
  unfold announce announced
  split <;> rfl

/-- An execution takes the steps of a preparation one after the other. -/
theorem execute_prepare :
    let selection := (c.select c.config.projectRoot u).execute host s
    let announcement := (c.announce selection.value).execute host selection.state
    let composition := composing host s c u
    let settlement := (c.settle announcement.value composition.value).execute host composition.state
    (c.prepare u).execute host s =
      ⟨settlement.value,
        selection.events ++ (announcement.events ++ (composition.events ++ settlement.events)),
        settlement.state⟩ := by
  have hstate (t : Toolchain) (s : σ) : ((c.announce t).execute host s).state = s := by
    rw [execute_announce]
  rw [prepare_eq, execute_bind, execute_bind, execute_bind, hstate]
  rfl

/-- A preparation against any host: its composition, its looks, its warnings and its result come from
findings that fit. -/
theorem exists_preparation :
    ∃ found, ∃ f : Findings, f.Fits c u c.config.epoch (c.selected c.config.projectRoot found) ∧
      (composing host s c u).value =
        f.composition c u c.config.epoch (c.selected c.config.projectRoot found) ∧
      ((c.prepare u).execute host s).looks =
        (c.primaryPath c.config.projectRoot, found) :: f.looks c ∧
      ((c.prepare u).execute host.silenced s).warned = (f.warnings c found).map Warning.entry ∧
      ((f.missing c found = none ∧ ((c.prepare u).execute host s).defaults = [] ∧
          ((c.prepare u).execute host s).value = .ok (f.primary c u found)) ∨
        f.missing c found ≠ none ∧ ∃ answer,
          ((c.prepare u).execute host s).defaults = [answer] ∧
            ((c.prepare u).execute host s).value = answer.map (f.fallback c u found)) := by
  let selection := (c.select c.config.projectRoot u).execute host.silenced s
  let announcement := (c.announce selection.value).execute host.silenced selection.state
  let composition := composing host.silenced s c u
  let settlement := (c.settle announcement.value composition.value).execute host.silenced
    composition.state
  have hsteps : ((c.prepare u).execute host.silenced s).events = selection.events
      ++ (announcement.events ++ (composition.events ++ settlement.events)) := by
    rw [execute_prepare]
  have hresult : ((c.prepare u).execute host.silenced s).value = settlement.value := by
    rw [execute_prepare]
  have hcompose : (c.compose u c.config.epoch selection.value).Trace composition.events
      composition.value := trace_execute host _ _
  obtain ⟨found, f, hf, hcomposed, hcase⟩ := trace_steps (trace_execute host _ s)
    (trace_execute host _ selection.state) hcompose (trace_execute host _ composition.state)
  rw [← looks_execute_silenced, ← defaults_execute_silenced, ← value_execute_silenced,
    ← value_composing_silenced, Execution.looks, Execution.defaults, Execution.warned, hsteps,
    hresult]
  refine ⟨found, f, hf, hcomposed, ?_⟩
  rcases hcase with ⟨hnone, hevents, hvalue⟩ | ⟨hsome, answer, hevents, hvalue⟩
  · rw [hevents, looks_preparation, warned_preparation hf, defaults_preparation]
    exact ⟨rfl, rfl, .inl ⟨hnone, rfl, hvalue⟩⟩
  · rw [hevents, List.filterMap_append, List.filterMap_append, List.filterMap_append,
      looks_preparation, warned_preparation hf, defaults_preparation]
    exact ⟨List.append_nil _, List.append_nil _, .inr ⟨hsome, answer, rfl, hvalue⟩⟩

end Executions

end Compiler

end CSharpBuild
